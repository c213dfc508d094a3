import Mathlib.Data.List.Basic

/-!
# `Buffer.toString()`: the UTF-8 decoder

Both tools turn every chunk a pipe delivers into text with `data.toString()`, which decodes
UTF-8 as the WHATWG Encoding standard's decoder does: one byte at a time, a first byte setting
how many continuation bytes follow and the range of the next one, and each maximal ill-formed
subpart becoming one U+FFFD. A byte that breaks a sequence is read again from the start state;
a sequence still open at the end of the input is one U+FFFD.

`utf8Encode` is the encoder (`Buffer.from(s, "utf8")`, what `writeFile` stores).

**Theorem (`utf8Decode_utf8Encode_append`).** Decoding the encoding of a string followed by
any bytes gives the string followed by the decoding of those bytes. So decoding chunk by chunk
agrees with decoding the whole stream when every cut falls between characters
(`utf8Decode_flatten`); a cut inside a character gives two replacement characters.
-/

namespace CodexBridge

/-- The bytes of a `Buffer`. -/
abbrev Bytes := List UInt8

/-- U+FFFD. -/
def replacementChar : Char := '�'

/-- The decoder's variables: bytes needed, the code point so far, and the lower and upper
boundary of the next byte. -/
structure DecoderState where
  needed : Nat
  codePoint : Nat
  lower : Nat
  upper : Nat
  deriving DecidableEq

/-- Between characters. -/
def DecoderState.init : DecoderState := ⟨0, 0, 0x80, 0xBF⟩

/-- A byte read between characters: an ASCII character, the start of a sequence, or an
error. -/
def startByte (b : Nat) : List Char × DecoderState :=
  if b ≤ 0x7F then ([Char.ofNat b], .init)
  else if 0xC2 ≤ b ∧ b ≤ 0xDF then ([], ⟨1, b % 32, 0x80, 0xBF⟩)
  else if 0xE0 ≤ b ∧ b ≤ 0xEF then
    ([], ⟨2, b % 16, if b = 0xE0 then 0xA0 else 0x80, if b = 0xED then 0x9F else 0xBF⟩)
  else if 0xF0 ≤ b ∧ b ≤ 0xF4 then
    ([], ⟨3, b % 8, if b = 0xF0 then 0x90 else 0x80, if b = 0xF4 then 0x8F else 0xBF⟩)
  else ([replacementChar], .init)

/-- One byte: the characters it completes and the state after it. A byte out of range ends
the open sequence with U+FFFD and is read again between characters. -/
def decodeByte (st : DecoderState) (b : Nat) : List Char × DecoderState :=
  if st.needed = 0 then startByte b
  else if st.lower ≤ b ∧ b ≤ st.upper then
    if st.needed = 1 then ([Char.ofNat (64 * st.codePoint + b % 64)], .init)
    else ([], ⟨st.needed - 1, 64 * st.codePoint + b % 64, 0x80, 0xBF⟩)
  else
    let (out, st') := startByte b
    (replacementChar :: out, st')

/-- The characters of the rest of the input. -/
def decodeFrom (st : DecoderState) : Bytes → List Char
  | [] => if st.needed = 0 then [] else [replacementChar]
  | b :: bs =>
    let (out, st') := decodeByte st b.toNat
    out ++ decodeFrom st' bs

/-- `buf.toString()`. -/
def utf8Decode (bs : Bytes) : List Char := decodeFrom .init bs

/-- The UTF-8 bytes of one character. -/
def utf8EncodeChar (c : Char) : Bytes :=
  let n := c.toNat
  if n < 0x80 then [UInt8.ofNat n]
  else if n < 0x800 then [UInt8.ofNat (0xC0 + n / 64), UInt8.ofNat (0x80 + n % 64)]
  else if n < 0x10000 then
    [UInt8.ofNat (0xE0 + n / 4096), UInt8.ofNat (0x80 + n / 64 % 64), UInt8.ofNat (0x80 + n % 64)]
  else
    [UInt8.ofNat (0xF0 + n / 262144), UInt8.ofNat (0x80 + n / 4096 % 64),
      UInt8.ofNat (0x80 + n / 64 % 64), UInt8.ofNat (0x80 + n % 64)]

/-- `Buffer.from(s, "utf8")`. -/
def utf8Encode (cs : List Char) : Bytes := cs.flatMap utf8EncodeChar

/-! ## Decoding an encoding -/

theorem toNat_ofNat_byte {n : Nat} (h : n < 256) : (UInt8.ofNat n).toNat = n :=
  UInt8.toNat_ofNat_of_lt h

theorem decodeFrom_cons (st : DecoderState) (b : UInt8) (bs : Bytes) :
    decodeFrom st (b :: bs) = (decodeByte st b.toNat).1 ++ decodeFrom (decodeByte st b.toNat).2 bs :=
  rfl

@[simp] theorem utf8Decode_nil : utf8Decode [] = [] := rfl

theorem decodeByte_init (b : Nat) : decodeByte .init b = startByte b := rfl

theorem decodeByte_last {cp lo hi b : Nat} (h : lo ≤ b ∧ b ≤ hi) :
    decodeByte ⟨1, cp, lo, hi⟩ b = ([Char.ofNat (64 * cp + b % 64)], .init) := by
  simp [decodeByte, h]

theorem decodeByte_more {n cp lo hi b : Nat} (h : lo ≤ b ∧ b ≤ hi) (hn : 2 ≤ n) :
    decodeByte ⟨n, cp, lo, hi⟩ b = ([], ⟨n - 1, 64 * cp + b % 64, 0x80, 0xBF⟩) := by
  simp [decodeByte, h, show n ≠ 0 by omega, show n ≠ 1 by omega]

theorem startByte_ascii {b : Nat} (h : b ≤ 0x7F) : startByte b = ([Char.ofNat b], .init) := by
  simp [startByte, h]

theorem startByte_two {b : Nat} (h₁ : 0xC2 ≤ b) (h₂ : b ≤ 0xDF) :
    startByte b = ([], ⟨1, b % 32, 0x80, 0xBF⟩) := by
  simp [startByte, h₁, h₂, show ¬ b ≤ 0x7F by omega]

theorem startByte_three {b : Nat} (h₁ : 0xE0 ≤ b) (h₂ : b ≤ 0xEF) :
    startByte b = ([], ⟨2, b % 16, if b = 0xE0 then 0xA0 else 0x80,
      if b = 0xED then 0x9F else 0xBF⟩) := by
  simp [startByte, h₁, h₂, show ¬ b ≤ 0x7F by omega, show ¬ b ≤ 0xDF by omega]

theorem startByte_four {b : Nat} (h₁ : 0xF0 ≤ b) (h₂ : b ≤ 0xF4) :
    startByte b = ([], ⟨3, b % 8, if b = 0xF0 then 0x90 else 0x80,
      if b = 0xF4 then 0x8F else 0xBF⟩) := by
  simp [startByte, h₁, h₂, show ¬ b ≤ 0x7F by omega, show ¬ b ≤ 0xDF by omega,
    show ¬ b ≤ 0xEF by omega]

theorem decode_three {n : Nat} (h₁ : 0x800 ≤ n) (h₂ : n < 0x10000) (hs : n < 0xD800 ∨ 0xDFFF < n)
    (bs : Bytes) :
    decodeFrom .init (UInt8.ofNat (0xE0 + n / 4096) :: UInt8.ofNat (0x80 + n / 64 % 64) ::
      UInt8.ofNat (0x80 + n % 64) :: bs) = Char.ofNat n :: decodeFrom .init bs := by
  have hlo : (if 0xE0 + n / 4096 = 0xE0 then 0xA0 else 0x80) ≤ 0x80 + n / 64 % 64 := by
    split_ifs <;> omega
  have hhi : 0x80 + n / 64 % 64 ≤ if 0xE0 + n / 4096 = 0xED then 0x9F else 0xBF := by
    split_ifs <;> omega
  have hm : ∀ x, (0x80 + x % 64) % 64 = x % 64 := fun x => by omega
  have hn : 64 * (64 * ((0xE0 + n / 4096) % 16) + (0x80 + n / 64 % 64) % 64) +
      (0x80 + n % 64) % 64 = n := by
    rw [show (0xE0 + n / 4096) % 16 = n / 64 / 64 by omega, hm, hm, Nat.div_add_mod, Nat.div_add_mod]
  simp (disch := omega) only [decodeFrom_cons, toNat_ofNat_byte, decodeByte_init, startByte_three,
    decodeByte_more ⟨hlo, hhi⟩, Nat.reduceSub, decodeByte_last, hn]
  rfl

theorem decode_four {n : Nat} (h₁ : 0x10000 ≤ n) (h₂ : n < 0x110000) (bs : Bytes) :
    decodeFrom .init (UInt8.ofNat (0xF0 + n / 262144) :: UInt8.ofNat (0x80 + n / 4096 % 64) ::
      UInt8.ofNat (0x80 + n / 64 % 64) :: UInt8.ofNat (0x80 + n % 64) :: bs) =
      Char.ofNat n :: decodeFrom .init bs := by
  have hlo : (if 0xF0 + n / 262144 = 0xF0 then 0x90 else 0x80) ≤ 0x80 + n / 4096 % 64 := by
    split_ifs <;> omega
  have hhi : 0x80 + n / 4096 % 64 ≤ if 0xF0 + n / 262144 = 0xF4 then 0x8F else 0xBF := by
    split_ifs <;> omega
  have hm : ∀ x, (0x80 + x % 64) % 64 = x % 64 := fun x => by omega
  have hn : 64 * (64 * (64 * ((0xF0 + n / 262144) % 8) + (0x80 + n / 4096 % 64) % 64) +
      (0x80 + n / 64 % 64) % 64) + (0x80 + n % 64) % 64 = n := by
    rw [show (0xF0 + n / 262144) % 8 = n / 64 / 64 / 64 by omega, hm, hm, hm,
      show n / 4096 = n / 64 / 64 by omega, Nat.div_add_mod, Nat.div_add_mod, Nat.div_add_mod]
  simp (disch := omega) only [decodeFrom_cons, toNat_ofNat_byte, decodeByte_init, startByte_four,
    decodeByte_more ⟨hlo, hhi⟩, decodeByte_more, Nat.reduceSub, decodeByte_last, hn]
  rfl

/-- **One character.** Its encoding decodes to it, whatever follows. -/
theorem decodeFrom_utf8EncodeChar (c : Char) (bs : Bytes) :
    decodeFrom .init (utf8EncodeChar c ++ bs) = c :: decodeFrom .init bs := by
  have hv : c.toNat < 0xD800 ∨ (0xDFFF < c.toNat ∧ c.toNat < 0x110000) := c.valid
  unfold utf8EncodeChar
  dsimp only
  split_ifs with h₁ h₂ h₃
  · simp (disch := omega) only [List.singleton_append, decodeFrom_cons, toNat_ofNat_byte,
      decodeByte_init, startByte_ascii, Char.ofNat_toNat]
  · have : 64 * ((0xC0 + c.toNat / 64) % 32) + (0x80 + c.toNat % 64) % 64 = c.toNat := by omega
    simp (disch := omega) only [List.cons_append, List.nil_append, decodeFrom_cons,
      toNat_ofNat_byte, decodeByte_init, startByte_two, decodeByte_last, this, Char.ofNat_toNat]
  · rw [List.cons_append, List.cons_append, List.cons_append, List.nil_append,
      decode_three (by omega) (by omega) (by omega), Char.ofNat_toNat]
  · rw [List.cons_append, List.cons_append, List.cons_append, List.cons_append, List.nil_append,
      decode_four (by omega) (by omega), Char.ofNat_toNat]

/-- **Decoding an encoding.** The encoding of a string, followed by any bytes, decodes to the
string followed by the decoding of those bytes. -/
theorem utf8Decode_utf8Encode_append (cs : List Char) (bs : Bytes) :
    utf8Decode (utf8Encode cs ++ bs) = cs ++ utf8Decode bs := by
  induction cs with
  | nil => rfl
  | cons c cs ih =>
    rw [utf8Encode, List.flatMap_cons, List.append_assoc] at *
    rw [utf8Decode, decodeFrom_utf8EncodeChar]
    exact congrArg (c :: ·) ih

theorem utf8Decode_utf8Encode (cs : List Char) : utf8Decode (utf8Encode cs) = cs := by
  simpa only [utf8Decode_nil, List.append_nil] using utf8Decode_utf8Encode_append cs []

theorem utf8Encode_ascii {cs : List Char} (h : ∀ c ∈ cs, c.toNat < 0x80) :
    ∀ b ∈ utf8Encode cs, b.toNat < 0x80 := by
  simp only [utf8Encode, List.mem_flatMap]
  rintro b ⟨c, hc, hb⟩
  have hlt := h c hc
  simp only [utf8EncodeChar, if_pos hlt, List.mem_singleton] at hb
  rw [hb, toNat_ofNat_byte (by omega)]
  exact hlt

theorem utf8Encode_ne_nil {cs : List Char} (h : cs ≠ []) : utf8Encode cs ≠ [] := by
  obtain ⟨c, cs, rfl⟩ := List.exists_cons_of_ne_nil h
  simp only [utf8Encode, List.flatMap_cons, ne_eq, List.append_eq_nil, not_and]
  intro hc
  unfold utf8EncodeChar at hc
  dsimp only at hc
  split_ifs at hc

/-- A byte sequence every cut of which falls between characters: the encoding of a string. -/
def Utf8Whole (bs : Bytes) : Prop := ∃ cs, bs = utf8Encode cs

/-- **Chunk by chunk.** When every chunk but the last ends between characters, decoding the
chunks one by one and joining the texts decodes the whole stream. -/
theorem utf8Decode_flatten (chunks : List Bytes) (h : ∀ b ∈ chunks.dropLast, Utf8Whole b) :
    (chunks.map utf8Decode).flatten = utf8Decode chunks.flatten := by
  induction chunks with
  | nil => rfl
  | cons b rest ih =>
    cases rest with
    | nil => simp
    | cons b' rest =>
      obtain ⟨cs, rfl⟩ := h b (by simp)
      have ih := ih fun x hx => h x (by simp_all)
      rw [List.map_cons, List.flatten_cons, ih]
      simp only [List.flatten_cons, utf8Decode_utf8Encode_append, utf8Decode_utf8Encode]

end CodexBridge
