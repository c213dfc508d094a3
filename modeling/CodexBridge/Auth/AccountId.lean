import CodexBridge.Auth.Jwt

/-!
# The account id of a token: `getChatGptAccountIdFromAccessToken`

The experimental backend integration sends the ChatGPT account id in a `Chatgpt-Account-Id`
header (`applyCodexHeaders`). It reads the id from the access token's payload with
`getChatGptAccountIdFromAccessToken`, whose decoder `base64UrlDecodeUtf8` pads as
`base64UrlDecodeToUtf8` does and then tries `atob` before `Buffer`.

`atob` is the forgiving-base64 decode of the HTML standard. It drops ASCII white space, and one
or two final `=` when the length is a multiple of four. It then fails on a length of `1` mod 4 or
on a character outside `A–Z a–z 0–9 + /`, and decodes groups as `Buffer` does. It returns the
bytes as a binary string, one character per byte (isomorphic decode), and throws on failure. The
decoder falls back on `Buffer` only when `atob` is missing or throws. Node 16 and later and the
browsers define `atob`; what `globalThis` offers is a parameter (`Globals`).

**Theorem (`base64UrlDecodeUtf8_of_atob`).** Where `atob` exists, the decoder returns every
base64url text's bytes one character per byte, UTF-8 or not.

**Theorem (`base64UrlDecodeUtf8_bytes`).** On every segment, the decoder returns the bytes
`Buffer` decodes, as UTF-8 or one character per byte: `atob` and `Buffer` agree on the bytes of
every text `atob` accepts (`bufferFromBase64_of_forgivingBase64Decode`).

**Theorem (`base64UrlDecodeUtf8_of_ascii`).** On bytes below `0x80` the two decoders agree.

**Theorem (`applyCodexHeaders_idem`).** Applying the headers a second time, with any session id,
changes nothing when the first session id was not empty.

**Theorem (`applyCodexHeaders_keeps`).** The caller's non-empty headers stay, but the account id.
Names the function does not set stay as they were. In a browser only the four defaults are added.

**Theorem (`account_id_read_byte_by_byte`).** On a payload whose `chatgpt_account_id` is `é`,
`getChatGptAccountIdFromAccessToken` returns `Ã©` where `atob` exists, and `é` where only
`Buffer` does.
-/

namespace CodexBridge

/-! ## `atob` -/

/-- ASCII white space, which forgiving-base64 drops: tab, line feed, form feed, carriage return
and space. -/
def isAsciiWhitespace (c : Char) : Bool :=
  c == '\t' || c == '\n' || c == '\x0C' || c == '\r' || c == ' '

/-- One or two final `=` dropped. -/
def dropFinalEquals (cs : List Char) : List Char :=
  match cs.reverse with
  | '=' :: '=' :: rest => rest.reverse
  | '=' :: rest => rest.reverse
  | _ => cs

/-- A digit of the standard alphabet: Node's table without the URL digits `-` and `_`. -/
def standardDigit (c : Char) : Option Nat :=
  if c = '-' ∨ c = '_' then none else base64Val c.toNat

/-- Forgiving-base64 decode: the bytes, or `none` for failure. -/
def forgivingBase64Decode (data : String) : Option Bytes :=
  let stripped := data.toList.filter fun c => !isAsciiWhitespace c
  let trimmed := if stripped.length % 4 = 0 then dropFinalEquals stripped else stripped
  if trimmed.length % 4 = 1 then none
  else (trimmed.mapM standardDigit).map sextetBytes

/-- Isomorphic decode: each byte as the character of that code. -/
def isomorphicDecode (bytes : Bytes) : String := String.mk (bytes.map fun b => Char.ofNat b.toNat)

/-- `atob(data)`; `none` where it throws `InvalidCharacterError`. -/
def atob (data : String) : Option String := (forgivingBase64Decode data).map isomorphicDecode

/-! ## `atob` on a padded encoding -/

theorem standardDigit_sextetChar_all : ∀ v, v < 64 →
    standardDigit (urlToStd (sextetChar v)) = some v ∧
      isAsciiWhitespace (urlToStd (sextetChar v)) = false ∧ urlToStd (sextetChar v) ≠ '=' := by
  decide

theorem dropFinalEquals_append {cs : List Char} (h : '=' ∉ cs) {k : Nat} (hk : k ≤ 2) :
    dropFinalEquals (cs ++ List.replicate k '=') = cs := by
  have hr : ∀ rest, cs.reverse ≠ '=' :: rest := fun rest he =>
    h (List.mem_reverse.1 (he ▸ List.mem_cons_self _ _))
  unfold dropFinalEquals
  rw [List.reverse_append, List.reverse_replicate]
  split
  next rest he =>
    obtain rfl | rfl | rfl : k = 0 ∨ k = 1 ∨ k = 2 := by omega
    · exact absurd he (hr _)
    · exact absurd (List.cons.inj he).2 (hr _)
    · obtain ⟨-, rfl⟩ := List.cons.inj (List.cons.inj he).2
      exact List.reverse_reverse cs
  next rest he hne =>
    obtain rfl | rfl | rfl : k = 0 ∨ k = 1 ∨ k = 2 := by omega
    · exact absurd hne (hr _)
    · obtain ⟨-, rfl⟩ := List.cons.inj hne
      exact List.reverse_reverse cs
    · exact (he _ (List.cons.inj hne).2.symm).elim
  next hne1 hne2 =>
    obtain rfl | rfl | rfl : k = 0 ∨ k = 1 ∨ k = 2 := by omega
    · exact List.append_nil cs
    · exact absurd rfl (hne2 cs.reverse)
    · exact absurd rfl (hne1 cs.reverse)

theorem mapM_standardDigit {sx : List Nat} (hsx : ∀ v ∈ sx, v < 64) :
    (sx.map (urlToStd ∘ sextetChar)).mapM standardDigit = some sx := by
  induction sx with
  | nil => rfl
  | cons v sx ih =>
    rw [List.map_cons, List.mapM_cons, Function.comp_apply,
      (standardDigit_sextetChar_all v (hsx v (List.mem_cons_self _ _))).1,
      ih fun w hw => hsx w (List.mem_cons_of_mem _ hw)]
    rfl

/-- **`atob` succeeds on every padded encoding**, and gives its bytes back. -/
theorem forgivingBase64Decode_padBase64Url (bytes : Bytes) :
    forgivingBase64Decode (padBase64Url (base64UrlEncode bytes)) = some bytes := by
  have hlt := encodeSextets_lt bytes
  have hmod := encodeSextets_length_mod bytes
  have hstd : ∀ c ∈ (encodeSextets bytes).map (urlToStd ∘ sextetChar),
      isAsciiWhitespace c = false ∧ c ≠ '=' := by
    simp only [List.mem_map, Function.comp]
    rintro _ ⟨v, hv, rfl⟩
    exact (standardDigit_sextetChar_all v (hlt v hv)).2
  have hpad : ∀ k, "===".toList.drop k = List.replicate (3 - k) '=' := fun k =>
    List.drop_replicate '=' k 3
  set j := 3 - ((encodeSextets bytes).length + 3) % 4
  have hj : j ≤ 2 := by omega
  have hkept : ((encodeSextets bytes).map (urlToStd ∘ sextetChar) ++ List.replicate j '=').filter
      (fun c => !isAsciiWhitespace c) = (encodeSextets bytes).map (urlToStd ∘ sextetChar) ++
        List.replicate j '=' := by
    refine List.filter_eq_self.2 fun c hc => ?_
    rcases List.mem_append.1 hc with hc | hc
    · simp [(hstd c hc).1]
    · rw [List.eq_of_mem_replicate hc]; rfl
  have hlen : ((encodeSextets bytes).map (urlToStd ∘ sextetChar) ++ List.replicate j '=').length % 4
      = 0 := by
    simp only [List.length_append, List.length_map, List.length_replicate, j]; omega
  unfold forgivingBase64Decode
  rw [padBase64Url_base64UrlEncode, toList_string_mk, hpad, hkept]
  dsimp only
  rw [if_pos hlen,
    dropFinalEquals_append (fun he => (hstd _ he).2 rfl) hj, List.length_map, if_neg hmod,
    mapM_standardDigit hlt, Option.map_some', sextetBytes_encodeSextets]

/-! ## `atob` and `Buffer` agree on the bytes

Where `atob` accepts a text, its characters are ASCII white space, standard digits, and at most
two final `=`. `Buffer` skips the white space, reads the same digits and stops at the first `=`,
so it regroups the same sextets into the same bytes.
-/

theorem base64Sextets_cons_congr (b : Nat) {xs ys : List Nat} (h : base64Sextets xs = base64Sextets ys) :
    base64Sextets (b :: xs) = base64Sextets (b :: ys) := by
  simp only [base64Sextets, h]

theorem isAsciiWhitespace_facts : ∀ c : Char, isAsciiWhitespace c = true →
    c.toNat ≠ 61 ∧ base64Val c.toNat = none ∧ c.toNat < 128 := by
  intro c h
  simp only [isAsciiWhitespace, Bool.or_eq_true, beq_iff_eq] at h
  rcases h with (((rfl | rfl) | rfl) | rfl) | rfl <;> decide

theorem base64Sextets_filter (cs : List Char) :
    base64Sextets ((cs.filter fun c => !isAsciiWhitespace c).map Char.toNat) =
      base64Sextets (cs.map Char.toNat) := by
  induction cs with
  | nil => rfl
  | cons c cs ih =>
    cases hc : isAsciiWhitespace c
    · rw [List.filter_cons_of_pos (by simp [hc]), List.map_cons, List.map_cons]
      exact base64Sextets_cons_congr _ ih
    · obtain ⟨h61, hval, -⟩ := isAsciiWhitespace_facts c hc
      rw [List.filter_cons_of_neg (by simp [hc]), ih, List.map_cons, base64Sextets, if_neg h61, hval]

theorem base64Val_lt {b v : Nat} (h : base64Val b = some v) : b < 128 ∧ b ≠ 61 := by
  by_contra hb
  rw [base64Val, if_neg (by omega), if_neg (by omega), if_neg (by omega), if_neg (by omega),
    if_neg (by omega)] at h
  cases h

theorem mapM_cons_eq_some {α β : Type} {f : α → Option β} {a : α} {l : List α} {r : List β} :
    (a :: l).mapM f = some r ↔ ∃ b rs, f a = some b ∧ l.mapM f = some rs ∧ r = b :: rs := by
  simp only [List.mapM_cons, Option.bind_eq_bind, Option.bind_eq_some, Option.pure_def,
    Option.some.injEq]
  exact ⟨fun ⟨b, hb, rs, hrs, h⟩ => ⟨b, rs, hb, hrs, h.symm⟩,
    fun ⟨b, rs, hb, hrs, h⟩ => ⟨b, hb, rs, hrs, h.symm⟩⟩

theorem standardDigit_some {c : Char} {v : Nat} (h : standardDigit c = some v) :
    base64Val c.toNat = some v ∧ c.toNat < 128 ∧ c.toNat ≠ 61 := by
  unfold standardDigit at h
  split_ifs at h
  exact ⟨h, base64Val_lt h⟩

theorem base64Sextets_standard {cs : List Char} {sx : List Nat}
    (h : cs.mapM standardDigit = some sx) (rest : List Nat) :
    base64Sextets (cs.map Char.toNat ++ rest) = sx ++ base64Sextets rest := by
  induction cs generalizing sx with
  | nil => cases h; rfl
  | cons c cs ih =>
    obtain ⟨v, sx', hv, hsx', rfl⟩ := Iff.mp mapM_cons_eq_some h
    obtain ⟨hb, -, h61⟩ := standardDigit_some hv
    rw [List.map_cons, List.cons_append, base64Sextets, if_neg h61, hb, ih hsx', List.cons_append]

theorem standardDigits_ascii {cs : List Char} {sx : List Nat} (h : cs.mapM standardDigit = some sx) :
    ∀ c ∈ cs, c.toNat < 128 := by
  induction cs generalizing sx with
  | nil => simp
  | cons c cs ih =>
    obtain ⟨v, sx', hv, hsx', -⟩ := Iff.mp mapM_cons_eq_some h
    exact List.forall_mem_cons.2 ⟨(standardDigit_some hv).2.1, ih hsx'⟩

theorem dropFinalEquals_spec (cs : List Char) :
    ∃ k, k ≤ 2 ∧ cs = dropFinalEquals cs ++ List.replicate k '=' := by
  unfold dropFinalEquals
  split
  next rest h => exact ⟨2, le_refl _, by rw [← List.reverse_reverse cs, h]; simp⟩
  next _ rest _ h => exact ⟨1, by omega, by rw [← List.reverse_reverse cs, h]; simp⟩
  next => exact ⟨0, by omega, by simp⟩

/-- **`atob` and `Buffer` decode the same bytes**, on every text `atob` accepts. -/
theorem bufferFromBase64_of_forgivingBase64Decode {data : String} {bytes : Bytes}
    (h : forgivingBase64Decode data = some bytes) : bufferFromBase64 data = bytes := by
  unfold forgivingBase64Decode at h
  generalize hs : data.toList.filter (fun c => !isAsciiWhitespace c) = stripped at h
  obtain ⟨trimmed, k, hk, hsplit, ht⟩ : ∃ trimmed k, k ≤ 2 ∧
      stripped = trimmed ++ List.replicate k '=' ∧
      (if trimmed.length % 4 = 1 then none else (trimmed.mapM standardDigit).map sextetBytes) =
        some bytes := by
    dsimp only at h
    by_cases h4 : stripped.length % 4 = 0
    · rw [if_pos h4] at h
      obtain ⟨k, hk, hsp⟩ := dropFinalEquals_spec stripped
      exact ⟨_, k, hk, hsp, h⟩
    · rw [if_neg h4] at h
      exact ⟨stripped, 0, by omega, by simp, h⟩
  obtain ⟨sx, hsx, rfl⟩ : ∃ sx, trimmed.mapM standardDigit = some sx ∧ bytes = sextetBytes sx := by
    split_ifs at ht
    obtain ⟨sx, hsx, h⟩ := Option.map_eq_some'.1 ht
    exact ⟨sx, hsx, h.symm⟩
  have hascii : ∀ c ∈ data.toList, c.toNat < 128 := by
    intro c hc
    cases hw : isAsciiWhitespace c
    · have hmem : c ∈ stripped := hs ▸ List.mem_filter.2 ⟨hc, by simp [hw]⟩
      rw [hsplit] at hmem
      rcases List.mem_append.1 hmem with hm | hm
      · exact standardDigits_ascii hsx c hm
      · rw [List.eq_of_mem_replicate hm]; decide
    · exact (isAsciiWhitespace_facts c hw).2.2
  have hunits : (utf16Units data).map (· % 256) = data.toList.map Char.toNat := by
    rw [← string_mk_toList data, utf16Units_bmp fun c hc => by have := hascii c hc; omega, List.map_map]
    exact List.map_congr_left fun c hc => Nat.mod_eq_of_lt (by have := hascii c hc; omega)
  have hpad : base64Sextets ((List.replicate k '=').map Char.toNat) = [] := by
    rcases k with _ | k <;> simp [List.replicate_succ, base64Sextets]
  rw [bufferFromBase64, hunits, ← base64Sextets_filter, hs, hsplit, List.map_append,
    base64Sextets_standard hsx, hpad, List.append_nil]

/-! ## `base64UrlDecodeUtf8` and `getChatGptAccountIdFromAccessToken` -/

/-- What `globalThis` offers. -/
structure Globals where
  /-- `typeof globalThis.atob === "function"`. -/
  atob : Bool
  /-- `globalThis.Buffer` with a `from` function. -/
  buffer : Bool
  /-- `globalThis.window` is a non-null object (`isProbablyBrowser`). -/
  window : Bool
  deriving DecidableEq

/-- `base64UrlDecodeUtf8`: `atob` of the padded text unless it is missing or throws, then
`Buffer`; `undefined` with neither. -/
def base64UrlDecodeUtf8 (g : Globals) (data : String) : Option String :=
  let padded := padBase64Url data
  match (if g.atob then atob padded else none) with
  | some decoded => some decoded
  | none => if g.buffer then some (String.mk (utf8Decode (bufferFromBase64 padded))) else none

/-- `getChatGptAccountIdFromAccessToken`. Its last test is `getOptionalString`'s. -/
def getChatGptAccountIdFromAccessToken (g : Globals) (accessToken : String) : Option String :=
  match accessToken.toList.splitOn '.' with
  | [_, payloadB64, _] =>
    if payloadB64 = [] then none
    else
      match base64UrlDecodeUtf8 g (String.mk payloadB64) with
      | some payloadJson =>
        if payloadJson = "" then none
        else
          match jsonParse payloadJson with
          | some (.object payload) =>
            match JsValue.field payload "https://api.openai.com/auth" with
            | some (.object auth) => getOptionalString auth "chatgpt_account_id"
            | _ => none
          | _ => none
      | none => none
  | _ => none

/-- **Where `atob` exists, one character per byte.** The decoder returns every base64url text's
bytes as a binary string. -/
theorem base64UrlDecodeUtf8_of_atob {g : Globals} (h : g.atob = true) (bytes : Bytes) :
    base64UrlDecodeUtf8 g (base64UrlEncode bytes) = some (isomorphicDecode bytes) := by
  simp [base64UrlDecodeUtf8, h, atob, forgivingBase64Decode_padBase64Url]

theorem base64UrlDecodeUtf8_of_buffer {g : Globals} (ha : g.atob = false) (hb : g.buffer = true)
    (data : String) : base64UrlDecodeUtf8 g data = some (base64UrlDecodeToUtf8 data) := by
  simp [base64UrlDecodeUtf8, ha, hb, base64UrlDecodeToUtf8_eq]

theorem isomorphicDecode_ascii {bytes : Bytes} (h : ∀ b ∈ bytes, b.toNat < 0x80) :
    isomorphicDecode bytes = String.mk (utf8Decode bytes) := by
  induction bytes with
  | nil => rfl
  | cons b bs ih =>
    have hb := h b (List.mem_cons_self _ _)
    have ih := congrArg String.toList (ih fun c hc => h c (List.mem_cons_of_mem _ hc))
    simp only [isomorphicDecode, toList_string_mk] at ih
    simp only [isomorphicDecode, List.map_cons, utf8Decode, decodeFrom_cons, decodeByte_init,
      startByte_ascii (show b.toNat ≤ 0x7F by omega), List.singleton_append]
    rw [ih]; rfl

/-- **On ASCII the two decoders agree**, whichever of `atob` and `Buffer` exist (one must). -/
theorem base64UrlDecodeUtf8_of_ascii {g : Globals} (hg : g.atob = true ∨ g.buffer = true)
    {bytes : Bytes} (h : ∀ b ∈ bytes, b.toNat < 0x80) :
    base64UrlDecodeUtf8 g (base64UrlEncode bytes) = some (base64UrlDecodeToUtf8 (base64UrlEncode bytes)) := by
  rw [base64UrlDecodeToUtf8_base64UrlEncode]
  cases ha : g.atob
  · rw [base64UrlDecodeUtf8_of_buffer ha (hg.resolve_left (by simp [ha])),
      base64UrlDecodeToUtf8_base64UrlEncode]
  · rw [base64UrlDecodeUtf8_of_atob ha, isomorphicDecode_ascii h]

/-- **The atob-first decoder reads the bytes `Buffer` reads.** Whatever `globalThis` offers and
whatever the segment, what `base64UrlDecodeUtf8` returns is the bytes `base64UrlDecodeToUtf8`
decodes: read as UTF-8, as that function reads them, or, where `atob` exists and accepts the text,
one character per byte. -/
theorem base64UrlDecodeUtf8_bytes (g : Globals) (data : String) {decoded : String}
    (h : base64UrlDecodeUtf8 g data = some decoded) :
    decoded = base64UrlDecodeToUtf8 data ∨
      (g.atob = true ∧ decoded = isomorphicDecode (bufferFromBase64 (padBase64Url data))) := by
  unfold base64UrlDecodeUtf8 at h
  dsimp only at h
  generalize hA : (if g.atob = true then atob (padBase64Url data) else none) = A at h
  rcases A with _ | d
  · left
    dsimp only at h
    split_ifs at h
    rw [base64UrlDecodeToUtf8_eq]; exact (Option.some.inj h).symm
  · right
    cases hg : g.atob
    · simp [hg] at hA
    · rw [hg, if_pos rfl] at hA
      obtain ⟨bytes, hb, rfl⟩ := Option.map_eq_some'.1 hA
      exact ⟨rfl, by rw [bufferFromBase64_of_forgivingBase64Decode hb]; exact (Option.some.inj h).symm⟩

/-- The segment `w6k`, the bytes of `é`, where `atob` exists: one character per byte. -/
theorem atob_reads_bytes_of_w6k :
    base64UrlDecodeUtf8 ⟨true, true, false⟩ "w6k" = some "Ã©" ∧
      ("Ã©" = base64UrlDecodeToUtf8 "w6k" ∨
        ((⟨true, true, false⟩ : Globals).atob = true ∧
          "Ã©" = isomorphicDecode (bufferFromBase64 (padBase64Url "w6k")))) :=
  ⟨rfl, base64UrlDecodeUtf8_bytes _ _ rfl⟩

/-- **The account id of an encoded payload.** In a token `h.p.s` with no dot in `h` or `s`, whose
`p` the decoder reads back as the payload text, the id is the payload's, checked as
`getOptionalString` checks it. -/
theorem getChatGptAccountIdFromAccessToken_encoded {g : Globals} {h s payload : String}
    (hh : '.' ∉ h.toList) (hs : '.' ∉ s.toList)
    (hdec : base64UrlDecodeUtf8 g (base64UrlEncode (utf8Encode payload.toList)) = some payload)
    {fields auth : List (String × JsValue)} (hp : jsonParse payload = some (.object fields))
    (ha : JsValue.field fields "https://api.openai.com/auth" = some (.object auth)) :
    getChatGptAccountIdFromAccessToken g (h ++ "." ++ base64UrlEncode (utf8Encode payload.toList) ++ "." ++ s) =
      getOptionalString auth "chatgpt_account_id" := by
  have hpe : payload ≠ "" := fun he => jsonParse_ne_empty hp (by rw [he]; rfl)
  unfold getChatGptAccountIdFromAccessToken
  rw [splitOn_dots hh (base64UrlEncode_no_dot _) hs]
  simp only [if_neg (base64UrlEncode_payload_ne_nil hp)]
  rw [string_mk_toList, hdec]
  simp only [if_neg hpe, hp, ha]

/-- **ASCII payloads keep their id as written**, whichever decoder runs. -/
theorem getChatGptAccountIdFromAccessToken_ascii {g : Globals} (hg : g.atob = true ∨ g.buffer = true)
    {h s payload : String} (hh : '.' ∉ h.toList) (hs : '.' ∉ s.toList)
    (hascii : ∀ c ∈ payload.toList, c.toNat < 0x80)
    {fields auth : List (String × JsValue)} (hp : jsonParse payload = some (.object fields))
    (ha : JsValue.field fields "https://api.openai.com/auth" = some (.object auth)) :
    getChatGptAccountIdFromAccessToken g (h ++ "." ++ base64UrlEncode (utf8Encode payload.toList) ++ "." ++ s) =
      getOptionalString auth "chatgpt_account_id" :=
  getChatGptAccountIdFromAccessToken_encoded hh hs
    (by rw [base64UrlDecodeUtf8_of_ascii hg (utf8Encode_ascii hascii),
      base64UrlDecodeToUtf8_base64UrlEncode, utf8Decode_utf8Encode]; rfl) hp ha

/-- A token whose payload `{"https://api.openai.com/auth":{"chatgpt_account_id":"acc"}}` is ASCII:
its id is `acc` where `atob` exists. -/
theorem ascii_account_id_sample :
    getChatGptAccountIdFromAccessToken ⟨true, true, false⟩ ("h" ++ "." ++
      base64UrlEncode (utf8Encode
        "\x7b\"https://api.openai.com/auth\":\x7b\"chatgpt_account_id\":\"acc\"\x7d\x7d".toList) ++
      "." ++ "s") = getOptionalString [("chatgpt_account_id", .string "acc")] "chatgpt_account_id" :=
  @getChatGptAccountIdFromAccessToken_ascii _ (.inl rfl) "h" "s" _ (by decide) (by decide) (by decide)
    [("https://api.openai.com/auth", .object [("chatgpt_account_id", .string "acc")])] _ rfl rfl

/-! ## `applyCodexHeaders` -/

/-- A request's headers, in insertion order. -/
abbrev Headers := List (String × String)

/-- `headers[key]`. -/
def headerValue (headers : Headers) (key : String) : Option String :=
  (headers.find? (·.1 == key)).map (·.2)

/-- `headers[key] = value`: in place when the header is there, last otherwise. -/
def setHeader (headers : Headers) (key value : String) : Headers :=
  if headers.any (·.1 == key) then headers.map fun p => if p.1 == key then (key, value) else p
  else headers ++ [(key, value)]

/-- `headers[key] = headers[key] || fallback`. -/
def defaultHeader (headers : Headers) (key fallback : String) : Headers :=
  setHeader headers key
    (match headerValue headers key with
     | some value => if value = "" then fallback else value
     | none => fallback)

/-- `applyCodexHeaders(headers, apiKey)`, `sessionId` being what `createSessionId()` returns. -/
def applyCodexHeaders (g : Globals) (sessionId : String) (headers : Headers)
    (apiKey : Option String) : Headers :=
  let headers := defaultHeader headers "Version" "0.21.0"
  let headers := defaultHeader headers "Openai-Beta" "responses=experimental"
  let headers := defaultHeader headers "Session_id" sessionId
  let headers := defaultHeader headers "Originator" "codex_cli_rs"
  let accountId := match apiKey with
    | some apiKey => if g.window then none else getChatGptAccountIdFromAccessToken g apiKey
    | none => none
  let headers := match accountId with
    | some accountId => if accountId = "" then headers else setHeader headers "Chatgpt-Account-Id" accountId
    | none => headers
  if !g.window && (headerValue headers "User-Agent").getD "" = "" then
    setHeader headers "User-Agent" "codex_cli_rs/0.50.0 (pi-mono)"
  else headers

set_option maxRecDepth 20000 in
/-- The token `h.p.s` whose payload is `{"https://api.openai.com/auth":{"chatgpt_account_id":"é"}}`:
its `p` is also the failing input of the decoders. -/
theorem account_id_read_byte_by_byte :
    base64UrlDecodeUtf8 ⟨true, true, false⟩ "w6k" = some "Ã©" ∧ base64UrlDecodeToUtf8 "w6k" = "é" ∧
    getChatGptAccountIdFromAccessToken ⟨true, true, false⟩
      "h.eyJodHRwczovL2FwaS5vcGVuYWkuY29tL2F1dGgiOnsiY2hhdGdwdF9hY2NvdW50X2lkIjoiw6kifX0.s" =
        some "Ã©" ∧
    getChatGptAccountIdFromAccessToken ⟨false, true, false⟩
      "h.eyJodHRwczovL2FwaS5vcGVuYWkuY29tL2F1dGgiOnsiY2hhdGdwdF9hY2NvdW50X2lkIjoiw6kifX0.s" =
        some "é" ∧
    headerValue (applyCodexHeaders ⟨true, true, false⟩ "sid" []
      (some "h.eyJodHRwczovL2FwaS5vcGVuYWkuY29tL2F1dGgiOnsiY2hhdGdwdF9hY2NvdW50X2lkIjoiw6kifX0.s"))
        "Chatgpt-Account-Id" = some "Ã©" :=
  ⟨rfl, rfl, rfl, rfl, rfl⟩

/-! ## Applying the headers

`applyCodexHeaders` mutates the request's headers. Each of its defaults binds a name to the
caller's value when that is not empty, else to the default. The account id is written over
whatever was there.
-/

/-- Every header named `key` has the value `value`, and there is one. -/
def Binds (headers : Headers) (key value : String) : Prop :=
  (∃ p ∈ headers, p.1 = key) ∧ ∀ p ∈ headers, p.1 = key → p.2 = value

theorem headerValue_of_binds {headers : Headers} {key value : String} (h : Binds headers key value) :
    headerValue headers key = some value := by
  obtain ⟨⟨p, hp, hpk⟩, hall⟩ := h
  unfold headerValue
  obtain ⟨q, hq⟩ : ∃ q, headers.find? (·.1 == key) = some q := by
    cases hf : headers.find? (·.1 == key) with
    | none => exact absurd (List.find?_eq_none.1 hf p hp) (by simp [hpk])
    | some q => exact ⟨q, rfl⟩
  have hqk : q.1 = key := by simpa using List.find?_some hq
  rw [hq, Option.map_some', hall q (List.mem_of_find?_eq_some hq) hqk]

theorem setHeader_of_binds {headers : Headers} {key value : String} (h : Binds headers key value) :
    setHeader headers key value = headers := by
  obtain ⟨⟨p, hp, hpk⟩, hall⟩ := h
  unfold setHeader
  rw [if_pos (List.any_eq_true.2 ⟨p, hp, by simp [hpk]⟩)]
  conv_rhs => rw [← List.map_id headers]
  refine List.map_congr_left fun q hq => ?_
  by_cases hqk : q.1 = key
  · rw [if_pos (by simp [hqk])]; ext <;> simp [hqk, hall q hq hqk]
  · rw [if_neg (by simp [hqk])]; rfl

theorem binds_setHeader (headers : Headers) (key value : String) :
    Binds (setHeader headers key value) key value := by
  unfold setHeader
  split_ifs with h
  · obtain ⟨p, hp, hpk⟩ := List.any_eq_true.1 h
    refine ⟨⟨(key, value), List.mem_map.2 ⟨p, hp, by simp [hpk]⟩, rfl⟩, fun q hq hqk => ?_⟩
    obtain ⟨r, -, rfl⟩ := List.mem_map.1 hq
    split_ifs at hqk ⊢ with hr
    · rfl
    · exact absurd (by simpa using hqk) hr
  · refine ⟨⟨(key, value), by simp, rfl⟩, fun q hq hqk => ?_⟩
    rcases List.mem_append.1 hq with hq | hq
    · exact absurd (List.any_eq_true.2 ⟨q, hq, by simp [hqk]⟩) h
    · simp at hq; rw [hq]

theorem binds_setHeader_ne {headers : Headers} {k key value w : String} (hk : k ≠ key)
    (h : Binds headers k w) : Binds (setHeader headers key value) k w := by
  obtain ⟨⟨p, hp, hpk⟩, hall⟩ := h
  unfold setHeader
  split_ifs
  · refine ⟨⟨p, List.mem_map.2 ⟨p, hp, by simp [hpk, hk]⟩, hpk⟩, fun q hq hqk => ?_⟩
    obtain ⟨r, hr, rfl⟩ := List.mem_map.1 hq
    split_ifs at hqk ⊢ with hrk
    · exact absurd hqk.symm hk
    · exact hall r hr hqk
  · refine ⟨⟨p, List.mem_append_left _ hp, hpk⟩, fun q hq hqk => ?_⟩
    rcases List.mem_append.1 hq with hq | hq
    · exact hall q hq hqk
    · simp at hq; subst hq; exact absurd hqk.symm hk

theorem headerValue_setHeader_ne {headers : Headers} {k key : String} (hk : k ≠ key) (value : String) :
    headerValue (setHeader headers key value) k = headerValue headers k := by
  unfold headerValue setHeader
  split_ifs
  · have hf : ((fun p : String × String => p.1 == k) ∘ fun p => if p.1 == key then (key, value) else p) =
        (·.1 == k) := by
      funext q
      by_cases hq : q.1 = key <;> simp [hq, Ne.symm hk]
    rw [List.find?_map, hf]
    cases hfind : headers.find? (·.1 == k) with
    | none => rfl
    | some q =>
      have : q.1 = k := by simpa using List.find?_some hfind
      simp [this, hk]
  · rw [List.find?_append]
    simp [Ne.symm hk]

theorem binds_defaultHeader_ne {headers : Headers} {k key fallback w : String} (hk : k ≠ key)
    (h : Binds headers k w) : Binds (defaultHeader headers key fallback) k w :=
  binds_setHeader_ne hk h

theorem binds_defaultHeader (headers : Headers) (key : String) {fallback : String}
    (hf : fallback ≠ "") : ∃ v, v ≠ "" ∧ (∀ w, headerValue headers key = some w → w ≠ "" → v = w) ∧
      Binds (defaultHeader headers key fallback) key v := by
  refine ⟨_, ?_, ?_, binds_setHeader headers key _⟩
  · split
    · split_ifs with h <;> assumption
    · exact hf
  · intro w hw hne
    rw [hw]; exact if_neg hne

theorem defaultHeader_of_binds {headers : Headers} {key v : String} (h : Binds headers key v)
    (hv : v ≠ "") (fallback : String) : defaultHeader headers key fallback = headers := by
  unfold defaultHeader
  rw [headerValue_of_binds h]
  dsimp only
  rw [if_neg hv, setHeader_of_binds h]

theorem headerValue_setHeader (headers : Headers) (key value k : String) :
    headerValue (setHeader headers key value) k =
      if k = key then some value else headerValue headers k := by
  split_ifs with hk
  · subst hk; exact headerValue_of_binds (binds_setHeader headers k value)
  · exact headerValue_setHeader_ne hk value

/-- The four defaults `applyCodexHeaders` sets first, in its order. -/
def codexDefaults (sessionId : String) (headers : Headers) : Headers :=
  defaultHeader (defaultHeader (defaultHeader (defaultHeader headers "Version" "0.21.0")
    "Openai-Beta" "responses=experimental") "Session_id" sessionId) "Originator" "codex_cli_rs"

/-- `accountId` of `applyCodexHeaders`: read from a string key, never in a browser. -/
def accountIdOf (g : Globals) (apiKey : Option String) : Option String :=
  match apiKey with
  | some apiKey => if g.window then none else getChatGptAccountIdFromAccessToken g apiKey
  | none => none

/-- `if (accountId) headers["Chatgpt-Account-Id"] = accountId`. -/
def setAccountId (accountId : Option String) (headers : Headers) : Headers :=
  match accountId with
  | some accountId => if accountId = "" then headers else setHeader headers "Chatgpt-Account-Id" accountId
  | none => headers

/-- The `User-Agent` default, outside a browser. -/
def defaultUserAgent (g : Globals) (headers : Headers) : Headers :=
  if !g.window && (headerValue headers "User-Agent").getD "" = "" then
    setHeader headers "User-Agent" "codex_cli_rs/0.50.0 (pi-mono)"
  else headers

/-- `applyCodexHeaders` as its three steps. -/
theorem applyCodexHeaders_eq (g : Globals) (sessionId : String) (headers : Headers)
    (apiKey : Option String) :
    applyCodexHeaders g sessionId headers apiKey =
      defaultUserAgent g (setAccountId (accountIdOf g apiKey) (codexDefaults sessionId headers)) :=
  rfl

/-- The names `codexDefaults` sets. -/
def defaultNames : List String := ["Version", "Openai-Beta", "Session_id", "Originator"]

/-- Each name `codexDefaults` sets holds a non-empty value. -/
def DefaultsSet (headers : Headers) : Prop :=
  ∀ key ∈ defaultNames, ∃ v, v ≠ "" ∧ Binds headers key v

theorem DefaultsSet.setHeader {headers : Headers} (h : DefaultsSet headers) {key : String}
    (hk : key ∉ defaultNames) (value : String) : DefaultsSet (setHeader headers key value) := by
  intro k hkm
  obtain ⟨v, hv, hb⟩ := h k hkm
  exact ⟨v, hv, binds_setHeader_ne (fun he => hk (he ▸ hkm)) hb⟩

theorem DefaultsSet.setAccountId {headers : Headers} (h : DefaultsSet headers)
    (accountId : Option String) : DefaultsSet (setAccountId accountId headers) := by
  unfold CodexBridge.setAccountId
  split
  · split_ifs
    · exact h
    · exact h.setHeader (by decide) _
  · exact h

theorem DefaultsSet.defaultUserAgent {headers : Headers} (h : DefaultsSet headers) (g : Globals) :
    DefaultsSet (defaultUserAgent g headers) := by
  unfold CodexBridge.defaultUserAgent
  split_ifs
  · exact h.setHeader (by decide) _
  · exact h

/-- The defaults are set, whatever the caller passed, when the session id is not empty. -/
theorem codexDefaults_set {sessionId : String} (hs : sessionId ≠ "") (headers : Headers) :
    DefaultsSet (codexDefaults sessionId headers) := by
  intro key hkey
  simp only [defaultNames, List.mem_cons, List.mem_singleton, List.not_mem_nil, or_false] at hkey
  unfold codexDefaults
  rcases hkey with rfl | rfl | rfl | rfl
  · obtain ⟨v, hv, -, hb⟩ := binds_defaultHeader headers "Version" (show "0.21.0" ≠ "" by decide)
    exact ⟨v, hv, binds_defaultHeader_ne (by decide) (binds_defaultHeader_ne (by decide)
      (binds_defaultHeader_ne (by decide) hb))⟩
  · obtain ⟨v, hv, -, hb⟩ := binds_defaultHeader (defaultHeader headers "Version" "0.21.0")
      "Openai-Beta" (show "responses=experimental" ≠ "" by decide)
    exact ⟨v, hv, binds_defaultHeader_ne (by decide) (binds_defaultHeader_ne (by decide) hb)⟩
  · obtain ⟨v, hv, -, hb⟩ := binds_defaultHeader (defaultHeader (defaultHeader headers "Version"
      "0.21.0") "Openai-Beta" "responses=experimental") "Session_id" hs
    exact ⟨v, hv, binds_defaultHeader_ne (by decide) hb⟩
  · obtain ⟨v, hv, -, hb⟩ := binds_defaultHeader _ "Originator" (show "codex_cli_rs" ≠ "" by decide)
    exact ⟨v, hv, hb⟩

theorem codexDefaults_of_set {headers : Headers} (h : DefaultsSet headers) (sessionId : String) :
    codexDefaults sessionId headers = headers := by
  have hd : ∀ key ∈ defaultNames, ∀ fallback, defaultHeader headers key fallback = headers :=
    fun key hk fallback => by
      obtain ⟨v, hv, hb⟩ := h key hk
      exact defaultHeader_of_binds hb hv fallback
  unfold codexDefaults
  rw [hd _ (by decide), hd _ (by decide), hd _ (by decide), hd _ (by decide)]

theorem defaultUserAgent_idem (g : Globals) (headers : Headers) :
    defaultUserAgent g (defaultUserAgent g headers) = defaultUserAgent g headers := by
  unfold defaultUserAgent
  by_cases h : (!g.window && (headerValue headers "User-Agent").getD "" = "") = true
  · rw [if_pos h, if_neg]
    rw [headerValue_setHeader, if_pos rfl]
    simp
  · rw [if_neg h, if_neg h]

theorem setAccountId_defaultUserAgent (g : Globals) (accountId : Option String) (headers : Headers) :
    setAccountId accountId (defaultUserAgent g (setAccountId accountId headers)) =
      defaultUserAgent g (setAccountId accountId headers) := by
  cases accountId with
  | none => rfl
  | some a =>
    by_cases ha : a = ""
    · simp only [setAccountId, if_pos ha]
    · simp only [setAccountId, if_neg ha]
      have hb := binds_setHeader headers "Chatgpt-Account-Id" a
      refine setHeader_of_binds ?_
      unfold defaultUserAgent
      split_ifs
      · exact binds_setHeader_ne (by decide) hb
      · exact hb

/-- **The headers are set once.** Applying them again, with any new session id, changes nothing,
when the first session id was not empty (`createSessionId` never returns an empty one). -/
theorem applyCodexHeaders_idem (g : Globals) {sessionId : String} (hs : sessionId ≠ "")
    (sessionId' : String) (headers : Headers) (apiKey : Option String) :
    applyCodexHeaders g sessionId' (applyCodexHeaders g sessionId headers apiKey) apiKey =
      applyCodexHeaders g sessionId headers apiKey := by
  have hX := ((codexDefaults_set hs headers).setAccountId (accountIdOf g apiKey)).defaultUserAgent g
  rw [applyCodexHeaders_eq, applyCodexHeaders_eq, codexDefaults_of_set hX,
    setAccountId_defaultUserAgent, defaultUserAgent_idem]

/-- Headers applied twice outside a browser, with the session ids `s1` and then `s2`. -/
theorem headers_applied_twice_sample :
    ("s1" : String) ≠ "" ∧
      applyCodexHeaders ⟨false, true, false⟩ "s2" (applyCodexHeaders ⟨false, true, false⟩ "s1" [] none)
        none = applyCodexHeaders ⟨false, true, false⟩ "s1" [] none :=
  ⟨by decide, applyCodexHeaders_idem _ (by decide) _ _ _⟩

theorem headerValue_defaultHeader (headers : Headers) (key fallback k : String) :
    headerValue (defaultHeader headers key fallback) k =
      if k = key then some (match headerValue headers key with
        | some value => if value = "" then fallback else value
        | none => fallback)
      else headerValue headers k :=
  headerValue_setHeader _ _ _ _

theorem headerValue_codexDefaults (sessionId : String) (headers : Headers) {key : String}
    (h : key ∉ defaultNames ∨ ∃ value, headerValue headers key = some value ∧ value ≠ "") :
    headerValue (codexDefaults sessionId headers) key = headerValue headers key := by
  rcases h with h | ⟨value, hv, hne⟩
  · simp only [defaultNames, List.mem_cons, List.mem_singleton, List.not_mem_nil, or_false,
      not_or] at h
    simp [codexDefaults, headerValue_defaultHeader, h]
  · by_cases hk : key ∈ defaultNames
    · simp only [defaultNames, List.mem_cons, List.mem_singleton, List.not_mem_nil, or_false] at hk
      rcases hk with rfl | rfl | rfl | rfl <;> simp [codexDefaults, headerValue_defaultHeader, hv, hne]
    · simp only [defaultNames, List.mem_cons, List.mem_singleton, List.not_mem_nil, or_false,
        not_or] at hk
      simp [codexDefaults, headerValue_defaultHeader, hk]

theorem headerValue_setAccountId {key : String} (hk : key ≠ "Chatgpt-Account-Id")
    (accountId : Option String) (headers : Headers) :
    headerValue (setAccountId accountId headers) key = headerValue headers key := by
  unfold setAccountId
  split
  · split_ifs
    · rfl
    · exact headerValue_setHeader_ne hk _
  · rfl

theorem headerValue_defaultUserAgent (g : Globals) (headers : Headers) {key : String}
    (h : key ≠ "User-Agent" ∨ ∃ value, headerValue headers key = some value ∧ value ≠ "") :
    headerValue (defaultUserAgent g headers) key = headerValue headers key := by
  unfold defaultUserAgent
  split_ifs with hs
  · rcases h with h | ⟨value, hv, hne⟩
    · exact headerValue_setHeader_ne h _
    · by_cases hk : key = "User-Agent"
      · subst hk
        simp [hv] at hs
        exact absurd hs.2 hne
      · exact headerValue_setHeader_ne hk _
  · rfl

/-- **The caller's headers stay.** `applyCodexHeaders` keeps every header the caller set to a
non-empty value, but `Chatgpt-Account-Id`, which the token's account id replaces. It leaves every
name it does not set as it was, and in a browser every name but the four defaults: no account id
and no `User-Agent` are added there. -/
theorem applyCodexHeaders_keeps (g : Globals) (sessionId : String) (headers : Headers)
    (apiKey : Option String) :
    (∀ key value, key ≠ "Chatgpt-Account-Id" → headerValue headers key = some value → value ≠ "" →
      headerValue (applyCodexHeaders g sessionId headers apiKey) key = some value) ∧
    (∀ key, key ∉ defaultNames → key ≠ "Chatgpt-Account-Id" → key ≠ "User-Agent" →
      headerValue (applyCodexHeaders g sessionId headers apiKey) key = headerValue headers key) ∧
    (g.window = true → ∀ key, key ∉ defaultNames →
      headerValue (applyCodexHeaders g sessionId headers apiKey) key = headerValue headers key) := by
  simp only [applyCodexHeaders_eq]
  refine ⟨fun key value hk hv hne => ?_, fun key hd hk hu => ?_, fun hw key hd => ?_⟩
  · have hD := headerValue_codexDefaults sessionId headers (.inr ⟨value, hv, hne⟩)
    rw [headerValue_defaultUserAgent, headerValue_setAccountId hk, hD, hv]
    exact .inr ⟨value, by rw [headerValue_setAccountId hk, hD, hv], hne⟩
  · rw [headerValue_defaultUserAgent g _ (.inl hu), headerValue_setAccountId hk,
      headerValue_codexDefaults sessionId headers (.inl hd)]
  · have hacc : accountIdOf g apiKey = none := by
      cases apiKey <;> simp [accountIdOf, hw]
    rw [hacc, show defaultUserAgent g (setAccountId none (codexDefaults sessionId headers)) =
      codexDefaults sessionId headers by simp [defaultUserAgent, setAccountId, hw],
      headerValue_codexDefaults sessionId headers (.inl hd)]

end CodexBridge
