import CodexBridge.Js.Json
import CodexBridge.Js.Utf8

/-!
# The expiry of an access token: `extractJwtExpMs`

`base64UrlDecodeToUtf8` maps the URL alphabet back (`-` to `+`, `_` to `/`), pads with
`"===".slice((length + 3) % 4)`, decodes with `Buffer.from(padded, "base64")` and reads the
bytes with `toString("utf8")`.

Node's base64 decoder reads the low byte of each UTF-16 unit of the string. It skips a byte that
is no digit of either base64 alphabet, stops at the first `=`, and turns each group of four
digits into three bytes. A last group of two or three digits gives one or two bytes, and a
lone last digit gives none. The buffer it allocates, sized from the length of the input, never
cuts that output short.

`extractJwtExpMs` splits the token at `.`. It needs exactly three parts, the middle one
nonempty, and that part must decode to a JSON object. It then returns `Math.floor(exp * 1000)`
for a positive finite number `exp`. Every other case is `undefined`, an exception included.

A token's segments are written in unpadded base64url (`base64UrlEncode`), so a last group of one
or two bytes has two or three digits and no `=`.

**Theorem (`base64UrlDecodeToUtf8_base64UrlEncode`).** For every byte string, the decoder reads
its unpadded base64url encoding back to the UTF-8 decoding of those bytes. The `===` arithmetic
adds the one or two `=` a short last group lacks, and none after whole groups.

**Theorem (`extractJwtExpMs_encoded`).** In a token `h.p.s`, with no dot in `h` or `s` and `p`
the encoding of a JSON text's UTF-8 bytes, `extractJwtExpMs` reads the `exp` of that text's
object.

**Theorem (`expMillis_of_nat`).** For a positive integer `exp` with `exp * 1000 < 2 ^ 53`, that
reading is `exp * 1000`.
-/

namespace CodexBridge

/-! ## `Buffer.from(string, "base64")` -/

/-- The UTF-16 code units of a string. -/
def utf16Units (s : String) : List Nat :=
  s.toList.flatMap fun c =>
    if c.toNat ≤ 0xFFFF then [c.toNat]
    else [0xD800 + (c.toNat - 0x10000) / 0x400, 0xDC00 + (c.toNat - 0x10000) % 0x400]

/-- The value of a base64 digit, in the standard or the URL alphabet (`unbase64`). -/
def base64Val (b : Nat) : Option Nat :=
  if 65 ≤ b ∧ b ≤ 90 then some (b - 65)
  else if 97 ≤ b ∧ b ≤ 122 then some (b - 71)
  else if 48 ≤ b ∧ b ≤ 57 then some (b + 4)
  else if b = 43 ∨ b = 45 then some 62
  else if b = 47 ∨ b = 95 then some 63
  else none

/-- The digits the decoder reads from the bytes it sees: up to the first `=`, other bytes
skipped. -/
def base64Sextets : List Nat → List Nat
  | [] => []
  | b :: bs =>
    if b = 61 then []
    else match base64Val b with
      | some v => v :: base64Sextets bs
      | none => base64Sextets bs

/-- The bytes of a run of digits: three per group of four, and one or two of a last group of
two or three. -/
def sextetBytes : List Nat → Bytes
  | a :: b :: c :: d :: rest =>
    [UInt8.ofNat (a * 4 + b / 16), UInt8.ofNat (b % 16 * 16 + c / 4), UInt8.ofNat (c % 4 * 64 + d)] ++
      sextetBytes rest
  | [a, b, c] => [UInt8.ofNat (a * 4 + b / 16), UInt8.ofNat (b % 16 * 16 + c / 4)]
  | [a, b] => [UInt8.ofNat (a * 4 + b / 16)]
  | _ => []

/-- `Buffer.from(s, "base64")`. -/
def bufferFromBase64 (s : String) : Bytes :=
  sextetBytes (base64Sextets ((utf16Units s).map (· % 256)))

/-- `base64UrlDecodeToUtf8`. -/
def base64UrlDecodeToUtf8 (data : String) : String :=
  let normalized := String.mk (data.toList.map fun c => if c = '-' then '+' else if c = '_' then '/' else c)
  let padded := normalized ++ String.mk ("===".toList.drop ((utf16Length normalized + 3) % 4))
  String.mk (utf8Decode (bufferFromBase64 padded))

/-- The URL alphabet mapped back to the standard one: `-` to `+`, `_` to `/`. -/
def urlToStd (c : Char) : Char := if c = '-' then '+' else if c = '_' then '/' else c

/-- The padded text the decoder reads: the URL alphabet mapped back, then
`"===".slice((length + 3) % 4)`. -/
def padBase64Url (data : String) : String :=
  let normalized := String.mk (data.toList.map urlToStd)
  normalized ++ String.mk ("===".toList.drop ((utf16Length normalized + 3) % 4))

/-- `base64UrlDecodeToUtf8` as the decoding of `padBase64Url`. -/
theorem base64UrlDecodeToUtf8_eq (data : String) :
    base64UrlDecodeToUtf8 data = String.mk (utf8Decode (bufferFromBase64 (padBase64Url data))) :=
  rfl

/-! ## `extractJwtExpMs` -/

/-- A time in milliseconds since the epoch as `Math.floor` gives it: an integer, or `Infinity`. -/
inductive Millis
  | ms (t : Int)
  | infinity
  deriving DecidableEq, Repr

/-- `Math.floor(exp * 1000)` of a finite `exp`: `Infinity` when the product is beyond the
double range. -/
def expMillis (exp : Decimal) : Millis :=
  if overflows exp.mantissa.natAbs (exp.exponent + 3) then .infinity
  else if 0 ≤ exp.exponent + 3 then .ms (exp.mantissa * 10 ^ (exp.exponent + 3).toNat)
  else .ms (exp.mantissa / 10 ^ (-(exp.exponent + 3)).toNat)

theorem Decimal.eq_nat {d : Decimal} {e : Nat} (he : (d.mantissa : ℚ) * 10 ^ d.exponent = e)
    (hpos : 0 < e) : 0 ≤ d.exponent ∧ d.mantissa * 10 ^ d.exponent.toNat = e := by
  rcases le_or_lt 0 d.exponent with hx | hx
  · obtain ⟨k, hk⟩ := Int.eq_ofNat_of_zero_le hx
    rw [hk, zpow_natCast] at he
    refine ⟨hx, ?_⟩
    rw [hk, Int.toNat_natCast]
    exact_mod_cast he
  · exfalso
    obtain ⟨k, hk⟩ := Int.exists_eq_neg_ofNat (le_of_lt hx)
    rw [hk, zpow_neg, zpow_natCast] at he
    have hq : (d.mantissa : ℚ) = e * 10 ^ k := by
      rw [← he, mul_assoc, inv_mul_cancel₀ (pow_ne_zero _ (by norm_num)), mul_one]
    have hz : d.mantissa = e * 10 ^ k := by exact_mod_cast hq
    obtain ⟨j, rfl⟩ : ∃ j, k = j + 1 := ⟨k - 1, by omega⟩
    rcases d.normal with h | ⟨h0, -⟩
    · exact h (by rw [hz, pow_succ, ← mul_assoc]; exact Int.mul_emod_left _ _)
    · rw [h0] at hz
      have : e * 10 ^ (j + 1) = 0 := by exact_mod_cast hz.symm
      exact Nat.pos_iff_ne_zero.1 (Nat.mul_pos hpos (Nat.pos_pow_of_pos _ (by norm_num))) this

/-- A decimal that stands for a positive integer has a positive mantissa. -/
theorem Decimal.mantissa_pos_of_eq_nat {d : Decimal} {e : Nat}
    (he : (d.mantissa : ℚ) * 10 ^ d.exponent = e) (hpos : 0 < e) : 0 < d.mantissa := by
  have hm := (Decimal.eq_nat he hpos).2
  refine Int.lt_of_not_ge fun h => ?_
  have : d.mantissa * 10 ^ d.exponent.toNat ≤ 0 :=
    Int.mul_nonpos_of_nonpos_of_nonneg h (by exact_mod_cast Nat.zero_le _)
  omega

/-- `Math.floor(exp * 1000)` of a positive integer `exp` with `exp * 1000 < 2 ^ 53` is
`exp * 1000`. -/
theorem expMillis_of_nat {d : Decimal} {e : Nat} (he : (d.mantissa : ℚ) * 10 ^ d.exponent = e)
    (hpos : 0 < e) (hsafe : e * 1000 < 2 ^ 53) : expMillis d = .ms (e * 1000) := by
  obtain ⟨hx, hm⟩ := Decimal.eq_nat he hpos
  obtain ⟨k, hk⟩ := Int.eq_ofNat_of_zero_le hx
  rw [hk, Int.toNat_natCast] at hm
  have hmpos := Decimal.mantissa_pos_of_eq_nat he hpos
  obtain ⟨a, ha⟩ := Int.eq_ofNat_of_zero_le hmpos.le
  rw [ha] at hm hmpos
  have hae : a * 10 ^ k = e := by exact_mod_cast hm
  have h53 : (2 : Nat) ^ 53 = 9007199254740992 := by norm_num
  have h16 : (10 : Nat) ^ 16 = 10000000000000000 := by norm_num
  have hk16 : k < 16 := (Nat.pow_lt_pow_iff_right (show 1 < 10 by norm_num)).1
    (by have := Nat.le_mul_of_pos_left (10 ^ k) (show 0 < a by omega); omega)
  have hlen := decimalDigits_length_le (show 0 < 16 by norm_num)
    (show a < 10 ^ 16 by have := Nat.le_mul_of_pos_right a (Nat.pos_pow_of_pos k (show 0 < 10 by norm_num)); omega)
  have hover : overflows a (k + 3) = false := by
    unfold overflows; rw [if_pos (by omega)]
  have h1000 : (10 : Int) ^ (k + 3) = 10 ^ k * 1000 := by rw [pow_add]; norm_num
  unfold expMillis
  rw [ha, hk, Int.natAbs_ofNat, hover, if_neg Bool.false_ne_true, if_pos (by omega),
    show ((k : Int) + 3).toNat = k + 3 by omega, h1000, ← mul_assoc, hm]

/-- `extractJwtExpMs`. -/
def extractJwtExpMs (jwt : String) : Option Millis :=
  match jwt.toList.splitOn '.' with
  | [_, payloadB64, _] =>
    if payloadB64 = [] then none
    else
      match jsonParse (base64UrlDecodeToUtf8 (String.mk payloadB64)) with
      | some (.object payload) =>
        match JsValue.field payload "exp" with
        | some (.number (.finite exp)) => if 0 < exp.mantissa then some (expMillis exp) else none
        | _ => none
      | _ => none
  | _ => none

example : extractJwtExpMs "h.eyJleHAiOjF9.s" = some (.ms 1000) := by decide

/-! ## Unpadded base64url, and the decoder inverting it -/

/-- The digit of a sextet in the URL alphabet. -/
def sextetChar (v : Nat) : Char :=
  if v < 26 then Char.ofNat (65 + v)
  else if v < 52 then Char.ofNat (71 + v)
  else if v < 62 then Char.ofNat (v - 4)
  else if v = 62 then '-' else '_'

/-- The sextets of a byte string: four for each group of three bytes, two or three for a last
group of one or two. -/
def encodeSextets : Bytes → List Nat
  | a :: b :: c :: rest =>
    a.toNat / 4 :: (a.toNat % 4 * 16 + b.toNat / 16) :: (b.toNat % 16 * 4 + c.toNat / 64) ::
      c.toNat % 64 :: encodeSextets rest
  | [a, b] => [a.toNat / 4, a.toNat % 4 * 16 + b.toNat / 16, b.toNat % 16 * 4]
  | [a] => [a.toNat / 4, a.toNat % 4 * 16]
  | [] => []

/-- Unpadded base64url, as a token's segments are written: the URL-alphabet digits of the
sextets, and no `=`. The repository has no encoder; this is RFC 4648's. -/
def base64UrlEncode (bytes : Bytes) : String := String.mk ((encodeSextets bytes).map sextetChar)

theorem sextetChar_all : ∀ v, v < 64 →
    base64Val (urlToStd (sextetChar v)).toNat = some v ∧ (urlToStd (sextetChar v)).toNat < 128 ∧
      (urlToStd (sextetChar v)).toNat ≠ 61 ∧ sextetChar v ≠ '.' := by
  decide

theorem ofNat_toNat_byte (u : UInt8) {n : Nat} (h : n = u.toNat) : UInt8.ofNat n = u :=
  UInt8.eq_of_toBitVec_eq (BitVec.eq_of_toNat_eq (by
    show (UInt8.ofNat n).toNat = u.toNat
    rw [toNat_ofNat_byte (h ▸ u.toNat_lt_size)]; exact h))

/-- The decoder's regrouping undoes the encoder's: three bytes from four digits, and one or
two from a last group of two or three. -/
theorem sextetBytes_encodeSextets (bytes : Bytes) : sextetBytes (encodeSextets bytes) = bytes := by
  induction bytes using encodeSextets.induct with
  | case1 a b c rest ih =>
    have ha : a.toNat < 256 := a.toNat_lt_size
    have hb : b.toNat < 256 := b.toNat_lt_size
    have hc : c.toNat < 256 := c.toNat_lt_size
    simp only [encodeSextets, sextetBytes, ih, List.cons_append, List.nil_append]
    rw [ofNat_toNat_byte a (by omega), ofNat_toNat_byte b (by omega), ofNat_toNat_byte c (by omega)]
  | case2 a b =>
    have ha : a.toNat < 256 := a.toNat_lt_size
    have hb : b.toNat < 256 := b.toNat_lt_size
    simp only [encodeSextets, sextetBytes]
    rw [ofNat_toNat_byte a (by omega), ofNat_toNat_byte b (by omega)]
  | case3 a =>
    have ha : a.toNat < 256 := a.toNat_lt_size
    simp only [encodeSextets, sextetBytes]
    rw [ofNat_toNat_byte a (by omega)]
  | case4 => rfl

theorem encodeSextets_lt (bytes : Bytes) : ∀ v ∈ encodeSextets bytes, v < 64 := by
  induction bytes using encodeSextets.induct with
  | case1 a b c rest ih =>
    have ha : a.toNat < 256 := a.toNat_lt_size
    have hb : b.toNat < 256 := b.toNat_lt_size
    have hc : c.toNat < 256 := c.toNat_lt_size
    simp only [encodeSextets, List.mem_cons]
    rintro v (rfl | rfl | rfl | rfl | hv)
    all_goals first | omega | exact ih v hv
  | case2 a b =>
    have ha : a.toNat < 256 := a.toNat_lt_size
    have hb : b.toNat < 256 := b.toNat_lt_size
    simp only [encodeSextets, List.mem_cons, List.not_mem_nil, or_false]
    rintro v (rfl | rfl | rfl) <;> omega
  | case3 a =>
    have ha : a.toNat < 256 := a.toNat_lt_size
    simp only [encodeSextets, List.mem_cons, List.not_mem_nil, or_false]
    rintro v (rfl | rfl) <;> omega
  | case4 => simp [encodeSextets]

theorem encodeSextets_length_mod (bytes : Bytes) : (encodeSextets bytes).length % 4 ≠ 1 := by
  induction bytes using encodeSextets.induct with
  | case1 a b c rest ih => simp only [encodeSextets, List.length_cons]; omega
  | case2 | case3 | case4 => simp [encodeSextets]

theorem encodeSextets_ne_nil {bytes : Bytes} (h : bytes ≠ []) : encodeSextets bytes ≠ [] := by
  match bytes, h with
  | _ :: _ :: _ :: _, _ | [_, _], _ | [_], _ => simp [encodeSextets]

theorem base64Sextets_digits {sx : List Nat} (hsx : ∀ v ∈ sx, v < 64) {rest : List Nat}
    (hrest : base64Sextets rest = []) :
    base64Sextets (sx.map (Char.toNat ∘ urlToStd ∘ sextetChar) ++ rest) = sx := by
  induction sx with
  | nil => exact hrest
  | cons v sx ih =>
    obtain ⟨hval, -, hne, -⟩ := sextetChar_all v (hsx v (List.mem_cons_self _ _))
    simp only [List.map_cons, List.cons_append, Function.comp_apply, base64Sextets, if_neg hne, hval,
      List.append_eq,
      ih fun w hw => hsx w (List.mem_cons_of_mem _ hw)]

theorem base64Sextets_padding (k : Nat) : base64Sextets (("===".toList.drop k).map Char.toNat) = [] := by
  match k with
  | 0 | 1 | 2 => rfl
  | k + 3 => simp [List.drop_nil, base64Sextets]

theorem utf16Units_bmp {cs : List Char} (h : ∀ c ∈ cs, c.toNat ≤ 0xFFFF) :
    utf16Units (String.mk cs) = cs.map Char.toNat := by
  simp only [utf16Units, toList_string_mk]
  induction cs with
  | nil => rfl
  | cons c cs ih =>
    rw [List.flatMap_cons, if_pos (h c (List.mem_cons_self _ _)),
      ih fun d hd => h d (List.mem_cons_of_mem _ hd)]
    rfl

/-- **The padding arithmetic is right for every length.** What the decoders hand on, for an
unpadded base64url text, is the text in the standard alphabet with the `=` it lacks. -/
theorem padBase64Url_base64UrlEncode (bytes : Bytes) :
    padBase64Url (base64UrlEncode bytes) = String.mk ((encodeSextets bytes).map (urlToStd ∘ sextetChar) ++
      "===".toList.drop (((encodeSextets bytes).length + 3) % 4)) := by
  have hlt := encodeSextets_lt bytes
  have hstd : ∀ c ∈ (encodeSextets bytes).map (urlToStd ∘ sextetChar), c.toNat ≤ 0xFFFF := by
    simp only [List.mem_map, Function.comp]
    rintro _ ⟨v, hv, rfl⟩
    have := (sextetChar_all v (hlt v hv)).2.1
    omega
  simp only [padBase64Url, base64UrlEncode, toList_string_mk, List.map_map]
  rw [utf16Length_bmp hstd, List.length_map]
  rfl

/-- **The decoder inverts unpadded base64url.** `Buffer.from` of the padded text gives back every
byte string's bytes. -/
theorem bufferFromBase64_padBase64Url (bytes : Bytes) :
    bufferFromBase64 (padBase64Url (base64UrlEncode bytes)) = bytes := by
  have hlt := encodeSextets_lt bytes
  set padded := (encodeSextets bytes).map (urlToStd ∘ sextetChar) ++
      "===".toList.drop (((encodeSextets bytes).length + 3) % 4)
  have hascii : ∀ c ∈ padded, c.toNat < 128 := by
    simp only [padded, List.mem_append, List.mem_map, Function.comp]
    rintro c (⟨v, hv, rfl⟩ | hc)
    · exact (sextetChar_all v (hlt v hv)).2.1
    · have : c ∈ "===".toList := List.mem_of_mem_drop hc
      simp only [String.toList, List.mem_cons, List.not_mem_nil, or_false, or_self] at this
      subst this; decide
  have hunits : (utf16Units (String.mk padded)).map (· % 256) = padded.map Char.toNat := by
    rw [utf16Units_bmp fun c hc => by have := hascii c hc; omega, List.map_map]
    exact List.map_congr_left fun c hc => Nat.mod_eq_of_lt (by have := hascii c hc; omega)
  rw [padBase64Url_base64UrlEncode, bufferFromBase64, hunits, List.map_append, List.map_map,
    base64Sextets_digits hlt (base64Sextets_padding _), sextetBytes_encodeSextets]

/-- The decoder reads every unpadded base64url text back to the UTF-8 decoding of its bytes. -/
theorem base64UrlDecodeToUtf8_base64UrlEncode (bytes : Bytes) :
    base64UrlDecodeToUtf8 (base64UrlEncode bytes) = String.mk (utf8Decode bytes) := by
  rw [base64UrlDecodeToUtf8_eq, bufferFromBase64_padBase64Url]

/-! ## A token whose payload is encoded -/

theorem splitOn_dots {a b c : String} (ha : '.' ∉ a.toList) (hb : '.' ∉ b.toList)
    (hc : '.' ∉ c.toList) : (a ++ "." ++ b ++ "." ++ c).toList.splitOn '.' = [a.toList, b.toList, c.toList] := by
  have h : ['.'].intercalate [a.toList, b.toList, c.toList] = (a ++ "." ++ b ++ "." ++ c).toList := by
    simp [List.intercalate, String.toList]
  rw [← h]
  exact List.splitOn_intercalate _ '.' (by simpa [String.toList] using ⟨ha, hb, hc⟩) (by simp)

theorem base64UrlEncode_no_dot (bytes : Bytes) : '.' ∉ (base64UrlEncode bytes).toList := by
  simp only [base64UrlEncode, toList_string_mk, List.mem_map, not_exists, not_and]
  intro v hv
  exact (sextetChar_all v (encodeSextets_lt bytes v hv)).2.2.2

theorem jsonParse_ne_empty {payload : String} {v : JsValue} (hp : jsonParse payload = some v) :
    payload.toList ≠ [] := by
  intro h
  have : payload = "" := String.ext h
  subst this
  cases hp

theorem base64UrlEncode_payload_ne_nil {payload : String} {v : JsValue}
    (hp : jsonParse payload = some v) : (base64UrlEncode (utf8Encode payload.toList)).toList ≠ [] := by
  simpa [base64UrlEncode] using encodeSextets_ne_nil (utf8Encode_ne_nil (jsonParse_ne_empty hp))

/-- **The expiry of an encoded payload.** In a token `h.p.s` whose middle segment is the
unpadded base64url encoding of a JSON text's UTF-8 bytes, `extractJwtExpMs` reads the `exp` of
that text's object, whatever the header and the signature, as long as neither holds a dot. -/
theorem extractJwtExpMs_encoded {h s payload : String} (hh : '.' ∉ h.toList) (hs : '.' ∉ s.toList)
    {fields : List (String × JsValue)} (hp : jsonParse payload = some (.object fields))
    {d : Decimal} (hexp : JsValue.field fields "exp" = some (.number (.finite d)))
    (hd : 0 < d.mantissa) :
    extractJwtExpMs (h ++ "." ++ base64UrlEncode (utf8Encode payload.toList) ++ "." ++ s) =
      some (expMillis d) := by
  unfold extractJwtExpMs
  rw [splitOn_dots hh (base64UrlEncode_no_dot _) hs]
  simp only [if_neg (base64UrlEncode_payload_ne_nil hp)]
  rw [string_mk_toList, base64UrlDecodeToUtf8_base64UrlEncode, utf8Decode_utf8Encode,
    show String.mk payload.toList = payload from rfl, hp]
  simp only [hexp, if_pos hd]

end CodexBridge
