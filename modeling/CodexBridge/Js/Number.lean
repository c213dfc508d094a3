import Mathlib.Data.List.Basic
import Mathlib.Tactic.Ring

/-!
# Numbers, as `JSON.parse` builds them and `Number::toString` prints them

Both tools read numbers only out of JSON text (`exp`, `expires_in`, `usage.output_tokens`,
`exit_code`) and write them back only through `JSON.stringify` and template literals. A finite
number is therefore held exactly, as the decimal the text spells, in lowest terms
(`Decimal`); a literal beyond the double range is `±Infinity` and one below half the least
denormal is `0`, as IEEE rounding makes them. Rounding inside the range is not modelled: a
value is the literal's exact decimal, which `Number::toString` prints back digit for digit,
as it does the shortest round-tripping digits of a double.

**Theorem (`parseNumber_toChars`).** For every finite number in the double range, the JSON
number lexer reads `Number::toString`'s output back to the same number, whatever follows it
that cannot continue a number.
-/

namespace CodexBridge

/-! ## Decimal digits -/

/-- The value of decimal digits, most significant first. -/
def ofDigitsBE (ds : List Nat) : Nat := ds.foldl (fun n d => 10 * n + d) 0

theorem ofDigitsBE_append (ds es : List Nat) :
    ofDigitsBE (ds ++ es) = ofDigitsBE ds * 10 ^ es.length + ofDigitsBE es := by
  unfold ofDigitsBE
  induction es using List.reverseRecOn with
  | nil => simp
  | append_singleton es e ih =>
    simp only [← List.append_assoc, List.foldl_append, List.foldl_cons, List.foldl_nil, ih,
      List.length_append, List.length_singleton, pow_succ]
    ring

@[simp] theorem ofDigitsBE_nil : ofDigitsBE [] = 0 := rfl

theorem ofDigitsBE_singleton (d : Nat) : ofDigitsBE [d] = d := by simp [ofDigitsBE]

theorem ofDigitsBE_replicate_zero (z : Nat) : ofDigitsBE (List.replicate z 0) = 0 := by
  induction z with
  | zero => rfl
  | succ z ih =>
    rw [List.replicate_succ', ofDigitsBE_append, ih, ofDigitsBE_singleton]; simp

theorem ofDigitsBE_zero_cons (ds : List Nat) : ofDigitsBE (0 :: ds) = ofDigitsBE ds := by
  simp [ofDigitsBE]

theorem ofDigitsBE_append_zeros (ds : List Nat) (z : Nat) :
    ofDigitsBE (ds ++ List.replicate z 0) = ofDigitsBE ds * 10 ^ z := by
  simp [ofDigitsBE_append, ofDigitsBE_replicate_zero]

/-- `decimalDigits`' worker; `fuel` bounds the number of divisions. -/
def digitsAux : Nat → Nat → List Nat
  | 0, _ => []
  | fuel + 1, n => if n < 10 then [n] else digitsAux fuel (n / 10) ++ [n % 10]

/-- The decimal digits of `n`, most significant first; `[0]` for zero. -/
def decimalDigits (n : Nat) : List Nat := digitsAux (n + 1) n

/-- What `decimalDigits` promises, for every fuel above the number. -/
structure DigitsOf (n : Nat) (ds : List Nat) : Prop where
  value : ofDigitsBE ds = n
  lt_ten : ∀ d ∈ ds, d < 10
  head_pos : ∀ d rest, ds = d :: rest → 0 < n → 0 < d
  last_eq : ds.getLast? = some (n % 10)

theorem digitsOf_digitsAux : ∀ (fuel n : Nat), n < fuel → DigitsOf n (digitsAux fuel n)
  | 0, n, h => absurd h (Nat.not_lt_zero n)
  | fuel + 1, n, h => by
    unfold digitsAux
    split
    · exact ⟨ofDigitsBE_singleton n, by simpa, by simp, by simp [Nat.mod_eq_of_lt ‹_›]⟩
    · have ih := digitsOf_digitsAux fuel (n / 10) (by omega)
      refine ⟨?_, ?_, ?_, by simp⟩
      · rw [ofDigitsBE_append, ih.value, ofDigitsBE_singleton]; simp; omega
      · simp only [List.mem_append, List.mem_singleton]
        rintro d (hd | rfl)
        · exact ih.lt_ten d hd
        · omega
      · intro d rest hds _
        cases hq : digitsAux fuel (n / 10) with
        | nil => have := ih.value; simp [hq] at this; omega
        | cons d' rest' =>
          rw [hq, List.cons_append, List.cons.injEq] at hds
          exact hds.1 ▸ ih.head_pos d' rest' hq (by omega)

theorem digitsOf_decimalDigits (n : Nat) : DigitsOf n (decimalDigits n) :=
  digitsOf_digitsAux (n + 1) n (Nat.lt_succ_self n)

theorem decimalDigits_ne_nil (n : Nat) : decimalDigits n ≠ [] := by
  intro h
  have := (digitsOf_decimalDigits n).last_eq
  simp [h] at this

theorem ofDigitsBE_cons_ge (d : Nat) (ds : List Nat) : d * 10 ^ ds.length ≤ ofDigitsBE (d :: ds) := by
  rw [show d :: ds = [d] ++ ds from rfl, ofDigitsBE_append, ofDigitsBE_singleton]
  omega

theorem decimalDigits_length_le {n k : Nat} (hk : 0 < k) (h : n < 10 ^ k) :
    (decimalDigits n).length ≤ k := by
  rcases Nat.eq_zero_or_pos n with rfl | hn
  · exact hk
  have hd := digitsOf_decimalDigits n
  obtain ⟨d, ds, hds⟩ := List.exists_cons_of_ne_nil (decimalDigits_ne_nil n)
  have hge := ofDigitsBE_cons_ge d ds
  rw [← hds, hd.value] at hge
  have : 10 ^ ds.length ≤ d * 10 ^ ds.length := Nat.le_mul_of_pos_left _ (hd.head_pos d ds hds hn)
  have : ds.length < k := (Nat.pow_lt_pow_iff_right (show 1 < 10 by norm_num)).1
    (show 10 ^ ds.length < 10 ^ k by omega)
  rw [hds, List.length_cons]; omega

/-- The character of a digit. -/
def digitChar (d : Nat) : Char := Char.ofNat (48 + d)

/-- The digit a digit character stands for. -/
def digitVal (c : Char) : Nat := c.toNat - 48

def digitChars (ds : List Nat) : List Char := ds.map digitChar

theorem digitChar_isDigit_all : ∀ d, d < 10 → (digitChar d).isDigit = true := by decide

theorem digitVal_digitChar_all : ∀ d, d < 10 → digitVal (digitChar d) = d := by decide

theorem digitChar_eq_zero_all : ∀ d, d < 10 → (digitChar d = '0' ↔ d = 0) := by decide

/-! ## Decimals in lowest terms -/

/-- `m * 10 ^ e`, for `m > 0`, is at least `2 ^ 1024 - 2 ^ 970`, the least value the nearest
double to which is infinite. `m` has `L` digits, so a value of `L + e ≤ 308` digits is below
and one of `310` or more above; only the decade between is compared exactly. -/
def overflows (m : Nat) (e : Int) : Bool :=
  let L : Int := (decimalDigits m).length
  if L + e ≤ 308 then false
  else if 310 ≤ L + e then true
  else if e < 0 then decide ((2 ^ 1024 - 2 ^ 970) * 10 ^ (-e).toNat ≤ m)
  else decide (2 ^ 1024 - 2 ^ 970 ≤ m * 10 ^ e.toNat)

/-- `m * 10 ^ e`, for `m > 0`, is at most `2 ^ -1075`, half the least denormal, so it rounds
to zero. As for `overflows`, only the decade at the threshold is compared exactly. -/
def underflows (m : Nat) (e : Int) : Bool :=
  let L : Int := (decimalDigits m).length
  if -322 ≤ L + e then false
  else if L + e ≤ -324 then true
  else decide (m * 2 ^ 1075 ≤ 10 ^ (-e).toNat)

/-- A finite number `mantissa * 10 ^ exponent`, in lowest terms, so that equal numbers are
equal terms. -/
structure Decimal where
  mantissa : Int
  exponent : Int
  normal : mantissa % 10 ≠ 0 ∨ (mantissa = 0 ∧ exponent = 0)
  deriving DecidableEq

namespace Decimal

theorem ext {a b : Decimal} (hm : a.mantissa = b.mantissa) (he : a.exponent = b.exponent) :
    a = b := by
  cases a; cases b; simp_all

def zero : Decimal := ⟨0, 0, Or.inr ⟨rfl, rfl⟩⟩

/-- A nonzero finite number that a double can hold up to rounding (`overflows` and
`underflows` below). -/
def InRange (d : Decimal) : Prop :=
  d.mantissa = 0 ∨ (overflows d.mantissa.natAbs d.exponent = false ∧
    underflows d.mantissa.natAbs d.exponent = false)

instance (d : Decimal) : Decidable d.InRange := inferInstanceAs (Decidable (_ ∨ _))

end Decimal

/-- A JavaScript number: finite, infinite, or `NaN`. -/
inductive JsNumber
  | finite (d : Decimal)
  | posInf
  | negInf
  | nan
  deriving DecidableEq

namespace JsNumber

def zero : JsNumber := .finite Decimal.zero

/-- A number `JSON.stringify` writes as a number rather than `null`: finite, in the double
range. -/
def printable : JsNumber → Bool
  | .finite d => decide d.InRange
  | _ => false

/-- A number `JSON.parse` can give: in the double range if finite, and never `NaN`. -/
def parsed : JsNumber → Bool
  | .finite d => decide d.InRange
  | .nan => false
  | _ => true

/-- `Number.isFinite`. -/
def isFinite : JsNumber → Bool
  | .finite _ => true
  | _ => false

theorem printable_eq_parsed_and_isFinite (n : JsNumber) : n.printable = (n.parsed && n.isFinite) := by
  cases n <;> simp [printable, parsed, isFinite]

end JsNumber

/-! ## Reading a JSON number -/

/-- The syntax of a JSON number: `[ minus ] int [ frac ] [ exp ]`. -/
structure NumberLiteral where
  negative : Bool
  intDigits : List Nat
  fracDigits : List Nat
  expNegative : Bool
  expDigits : List Nat

/-- The longest run of digits at the front. -/
def spanDigits : List Char → List Nat × List Char
  | c :: cs =>
    if c.isDigit then
      match spanDigits cs with
      | (ds, r) => (digitVal c :: ds, r)
    else ([], c :: cs)
  | [] => ([], [])

/-- `int = zero / ( digit1-9 *DIGIT )` -/
def lexInt : List Char → Option (List Nat × List Char)
  | '0' :: cs => some ([0], cs)
  | c :: cs => if c.isDigit then some (spanDigits (c :: cs)) else none
  | [] => none

/-- `frac = decimal-point 1*DIGIT`, or nothing when no point follows. -/
def lexFrac : List Char → Option (List Nat × List Char)
  | '.' :: cs => if (spanDigits cs).1 = [] then none else some (spanDigits cs)
  | cs => some ([], cs)

/-- `exp = e [ minus / plus ] 1*DIGIT`, or nothing when no `e` follows. -/
def lexExp (cs : List Char) : Option (Bool × List Nat × List Char) :=
  match cs with
  | c :: cs' =>
    if c = 'e' ∨ c = 'E' then
      let (neg, rest) := match cs' with
        | '-' :: r => (true, r)
        | '+' :: r => (false, r)
        | r => (false, r)
      if (spanDigits rest).1 = [] then none else some (neg, spanDigits rest)
    else some (false, [], cs)
  | [] => some (false, [], [])

/-- A number after its sign: `int [ frac ] [ exp ]`. -/
def lexUnsigned (negative : Bool) (cs : List Char) : Option (NumberLiteral × List Char) :=
  (lexInt cs).bind fun (i, cs) =>
    (lexFrac cs).bind fun (f, cs) =>
      (lexExp cs).map fun (en, x, cs) => (⟨negative, i, f, en, x⟩, cs)

def lexNumber : List Char → Option (NumberLiteral × List Char)
  | '-' :: cs => lexUnsigned true cs
  | cs => lexUnsigned false cs

/-- Divide out the factors of ten of `m * 10 ^ e`; `fuel` bounds the divisions. -/
def stripTens : Nat → Nat → Int → Nat × Int
  | 0, m, e => (m, e)
  | fuel + 1, m, e => if m % 10 = 0 ∧ 0 < m then stripTens fuel (m / 10) (e + 1) else (m, e)

/-- The number `m * 10 ^ e`, negated when `negative`, as `JSON.parse` rounds it. -/
def roundDecimal (negative : Bool) (m : Nat) (e : Int) : JsNumber :=
  if h : m % 10 = 0 then .zero
  else if overflows m e then (if negative then .negInf else .posInf)
  else if underflows m e then .zero
  else .finite ⟨if negative then -(m : Int) else m, e, Or.inl (by split <;> omega)⟩

/-- A literal's digits, point dropped. -/
def NumberLiteral.mantissa (lit : NumberLiteral) : Nat := ofDigitsBE (lit.intDigits ++ lit.fracDigits)

/-- The power of ten that scales `mantissa` to the literal's value. -/
def NumberLiteral.exponent (lit : NumberLiteral) : Int :=
  (if lit.expNegative then -(ofDigitsBE lit.expDigits : Int) else ofDigitsBE lit.expDigits) -
    lit.fracDigits.length

/-- The value of a literal, in lowest terms, rounded to the double range. -/
def NumberLiteral.value (lit : NumberLiteral) : JsNumber :=
  let (m, e) := stripTens lit.mantissa lit.mantissa lit.exponent
  roundDecimal lit.negative m e

/-- Read a JSON number off the front of the input. -/
def parseNumber (cs : List Char) : Option (JsNumber × List Char) :=
  (lexNumber cs).map fun (lit, r) => (lit.value, r)

theorem roundDecimal_parsed (negative : Bool) (m : Nat) (e : Int) :
    (roundDecimal negative m e).parsed := by
  unfold roundDecimal
  split_ifs <;> simp_all [JsNumber.parsed, JsNumber.zero, Decimal.zero, Decimal.InRange]

/-- Every number `JSON.parse` reads is one it can build. -/
theorem parseNumber_parsed {cs r : List Char} {n : JsNumber} (h : parseNumber cs = some (n, r)) :
    n.parsed := by
  simp only [parseNumber, Option.map_eq_some'] at h
  obtain ⟨⟨lit, r'⟩, -, ⟨⟩⟩ := h
  exact roundDecimal_parsed _ _ _

/-! ## Printing: `Number::toString` -/

/-- The exponent of the exponential form: a sign, then the digits of its magnitude. -/
def exponentChars (x : Int) : List Char :=
  (if x < 0 then '-' else '+') :: digitChars (decimalDigits x.natAbs)

/-- `Number::toString` of a positive number with digits `ds` and decimal point position `n`
(ECMA-262 steps 6 to 10). -/
def magnitudeChars (ds : List Nat) (n : Int) : List Char :=
  if ds.length ≤ n ∧ n ≤ 21 then digitChars ds ++ List.replicate (n - ds.length).toNat '0'
  else if 0 < n ∧ n ≤ 21 then digitChars (ds.take n.toNat) ++ '.' :: digitChars (ds.drop n.toNat)
  else if -6 < n ∧ n ≤ 0 then '0' :: '.' :: (List.replicate (-n).toNat '0' ++ digitChars ds)
  else match ds with
    | d :: rest =>
      digitChar d :: ((if rest = [] then [] else '.' :: digitChars rest) ++
        'e' :: exponentChars (n - 1))
    | [] => []

/-- `Number::toString` of a finite number. -/
def Decimal.toChars (d : Decimal) : List Char :=
  if d.mantissa = 0 then ['0']
  else (if d.mantissa < 0 then ['-'] else []) ++
    magnitudeChars (decimalDigits d.mantissa.natAbs)
      ((decimalDigits d.mantissa.natAbs).length + d.exponent)

/-- `Number::toString`. -/
def JsNumber.toJsString : JsNumber → String
  | .finite d => String.mk d.toChars
  | .posInf => "Infinity"
  | .negInf => "-Infinity"
  | .nan => "NaN"

/-! ## Reading back what `Number::toString` prints -/

/-- Input that cannot continue a number: no digit, point or exponent mark comes first. -/
def EndsNumber : List Char → Prop
  | c :: _ => c.isDigit = false ∧ c ≠ '.' ∧ c ≠ 'e' ∧ c ≠ 'E'
  | [] => True

/-- Input whose first character, if any, is not a digit. -/
def NoDigitFirst : List Char → Prop
  | c :: _ => c.isDigit = false
  | [] => True

theorem EndsNumber.noDigitFirst {r : List Char} (h : EndsNumber r) : NoDigitFirst r := by
  cases r with
  | nil => trivial
  | cons c r => exact h.1

theorem noDigitFirst_cons {c : Char} (h : c.isDigit = false) (r : List Char) :
    NoDigitFirst (c :: r) := h

theorem spanDigits_of_isDigit {c : Char} (h : c.isDigit = true) (cs : List Char) :
    spanDigits (c :: cs) = (digitVal c :: (spanDigits cs).1, (spanDigits cs).2) := by
  simp [spanDigits, h]

theorem spanDigits_digitChars {ds : List Nat} (hds : ∀ d ∈ ds, d < 10) {r : List Char}
    (hr : NoDigitFirst r) : spanDigits (digitChars ds ++ r) = (ds, r) := by
  induction ds with
  | nil =>
    cases r with
    | nil => rfl
    | cons c r => simp [digitChars, spanDigits, show c.isDigit = false from hr]
  | cons d ds ih =>
    have hd := hds d (by simp)
    have ih' : spanDigits (digitChars ds ++ r) = (ds, r) := ih fun x hx => hds x (by simp [hx])
    rw [digitChars, List.map_cons, List.cons_append, ← digitChars,
      spanDigits_of_isDigit (digitChar_isDigit_all d hd), ih', digitVal_digitChar_all d hd]

theorem lexFrac_of_endsNumber {r : List Char} (hr : EndsNumber r) : lexFrac r = some ([], r) := by
  match r, hr with
  | [], _ => rfl
  | c :: r, ⟨_, hc, _⟩ => simp [lexFrac, hc]

theorem lexExp_of_endsNumber {r : List Char} (hr : EndsNumber r) :
    lexExp r = some (false, [], r) := by
  match r, hr with
  | [], _ => rfl
  | c :: r, ⟨_, _, he, hE⟩ => simp [lexExp, he, hE]

theorem stripTens_of_mod {m : Nat} (hm : m % 10 ≠ 0) : ∀ fuel e, stripTens fuel m e = (m, e)
  | 0, _ => rfl
  | _ + 1, _ => by simp [stripTens, hm]

theorem stripTens_mul_pow {m : Nat} (hm : m % 10 ≠ 0) :
    ∀ (z fuel : Nat) (e : Int), m * 10 ^ z ≤ fuel → stripTens fuel (m * 10 ^ z) e = (m, e + z)
  | 0, fuel, e, _ => by simpa using stripTens_of_mod hm fuel e
  | z + 1, fuel + 1, e, h => by
    have hpos : 0 < m * 10 ^ (z + 1) := Nat.mul_pos (by omega) (Nat.pos_pow_of_pos _ (by omega))
    have hdiv : m * 10 ^ (z + 1) / 10 = m * 10 ^ z := by
      rw [pow_succ, ← Nat.mul_assoc, Nat.mul_div_cancel _ (by omega)]
    have hsucc : m * 10 ^ (z + 1) = m * 10 ^ z * 10 := by ring
    rw [stripTens, if_pos ⟨by rw [hsucc]; simp, hpos⟩, hdiv,
      stripTens_mul_pow hm z fuel (e + 1) (by omega)]
    push_cast; ring_nf
  | z + 1, 0, _, h => by
    have : 0 < m * 10 ^ (z + 1) := Nat.mul_pos (by omega) (Nat.pos_pow_of_pos _ (by omega))
    omega

theorem roundDecimal_of_inRange {d : Decimal} (h0 : d.mantissa ≠ 0) (hd : d.InRange) :
    roundDecimal (decide (d.mantissa < 0)) d.mantissa.natAbs d.exponent = .finite d := by
  have hmod : d.mantissa.natAbs % 10 ≠ 0 := by
    rcases d.normal with h | h <;> omega
  rcases hd with h | ⟨ho, hu⟩
  · exact absurd h h0
  · rw [roundDecimal, dif_neg hmod, if_neg (by simp [ho]), if_neg (by simp [hu])]
    congr 1
    apply Decimal.ext
    · show (if decide (d.mantissa < 0) = true then _ else _) = _
      simp only [decide_eq_true_eq]
      split_ifs <;> omega
    · rfl

theorem lexInt_of_digit {c : Char} (h0 : c ≠ '0') (hc : c.isDigit = true) (cs : List Char) :
    lexInt (c :: cs) = some (spanDigits (c :: cs)) := by
  simp [lexInt, h0, hc]

theorem lexUnsigned_eq {neg : Bool} {cs cs₁ cs₂ cs₃ : List Char} {i f x : List Nat} {en : Bool}
    (h₁ : lexInt cs = some (i, cs₁)) (h₂ : lexFrac cs₁ = some (f, cs₂))
    (h₃ : lexExp cs₂ = some (en, x, cs₃)) :
    lexUnsigned neg cs = some (⟨neg, i, f, en, x⟩, cs₃) := by
  simp [lexUnsigned, h₁, h₂, h₃]

theorem lexNumber_of_lexUnsigned {cs : List Char} {p : NumberLiteral × List Char}
    (h : lexUnsigned false cs = some p) : lexNumber cs = some p := by
  match cs, h with
  | [], h => simp [lexUnsigned, lexInt] at h
  | c :: cs, h =>
    by_cases hc : c = '-'
    · subst hc; simp [lexUnsigned, lexInt] at h
    · simpa [lexNumber, hc] using h

theorem digitChars_append (xs ys : List Nat) :
    digitChars (xs ++ ys) = digitChars xs ++ digitChars ys := by
  simp [digitChars]

theorem digitChars_cons (x : Nat) (xs : List Nat) :
    digitChars (x :: xs) = digitChar x :: digitChars xs := rfl

theorem digitChars_replicate_zero (z : Nat) :
    digitChars (List.replicate z 0) = List.replicate z '0' := by
  simp [digitChars, List.map_replicate, show digitChar 0 = '0' from rfl]

theorem lexInt_digitChars {x : Nat} {xs : List Nat} (hx : 0 < x) (hlt : ∀ y ∈ x :: xs, y < 10)
    {rest : List Char} (hrest : NoDigitFirst rest) :
    lexInt (digitChars (x :: xs) ++ rest) = some (x :: xs, rest) := by
  have hsp := spanDigits_digitChars hlt hrest
  have hx10 := hlt x (List.mem_cons_self x xs)
  rw [digitChars_cons, List.cons_append] at hsp ⊢
  rw [lexInt_of_digit (by rw [Ne, digitChar_eq_zero_all x hx10]; omega)
    (digitChar_isDigit_all x hx10), hsp]

theorem lexFrac_digitChars {xs : List Nat} (hne : xs ≠ []) (hlt : ∀ y ∈ xs, y < 10)
    {rest : List Char} (hrest : NoDigitFirst rest) :
    lexFrac ('.' :: (digitChars xs ++ rest)) = some (xs, rest) := by
  simp only [lexFrac, spanDigits_digitChars hlt hrest, if_neg hne]

theorem lexExp_exponentChars (x : Int) {rest : List Char} (hrest : NoDigitFirst rest) :
    lexExp ('e' :: (exponentChars x ++ rest)) =
      some (decide (x < 0), decimalDigits x.natAbs, rest) := by
  have hsp := spanDigits_digitChars (digitsOf_decimalDigits x.natAbs).lt_ten hrest
  by_cases hx : x < 0 <;>
    simp [lexExp, exponentChars, hx, hsp, decimalDigits_ne_nil]

/-- What reading `magnitudeChars` back must give: a literal whose scaled digits strip to
the magnitude `a` and the exponent `n - k`. -/
def ReadsAs (neg : Bool) (a : Nat) (e : Int) (lit : NumberLiteral) : Prop :=
  lit.negative = neg ∧ stripTens lit.mantissa lit.mantissa lit.exponent = (a, e)

theorem value_of_readsAs {neg : Bool} {a : Nat} {e : Int} {lit : NumberLiteral}
    (h : ReadsAs neg a e lit) : lit.value = roundDecimal neg a e := by
  simp [NumberLiteral.value, h.2, h.1]

section Magnitude

variable {a : Nat} (ha : a % 10 ≠ 0) {r : List Char} (hr : EndsNumber r)
include ha hr

theorem readsAs_integer (neg : Bool) (z : Nat) :
    ∃ lit, lexUnsigned neg (digitChars (decimalDigits a) ++ List.replicate z '0' ++ r) =
      some (lit, r) ∧ ReadsAs neg a z lit := by
  have hd := digitsOf_decimalDigits a
  obtain ⟨d, rest, hds⟩ := List.exists_cons_of_ne_nil (decimalDigits_ne_nil a)
  have hd0 : 0 < d := hd.head_pos d rest hds (by omega)
  have hlt : ∀ x ∈ decimalDigits a ++ List.replicate z 0, x < 10 := by
    intro x hx
    simp only [List.mem_append, List.mem_replicate] at hx
    rcases hx with hx | ⟨-, rfl⟩
    · exact hd.lt_ten x hx
    · omega
  refine ⟨⟨neg, decimalDigits a ++ List.replicate z 0, [], false, []⟩, ?_, rfl, ?_⟩
  · rw [← digitChars_replicate_zero, ← digitChars_append]
    refine lexUnsigned_eq ?_ (lexFrac_of_endsNumber hr) (lexExp_of_endsNumber hr)
    rw [hds, List.cons_append] at hlt ⊢
    exact lexInt_digitChars hd0 hlt hr.noDigitFirst
  · have hm : (⟨neg, decimalDigits a ++ List.replicate z 0, [], false, []⟩ :
        NumberLiteral).mantissa = a * 10 ^ z := by
      simp [NumberLiteral.mantissa, ofDigitsBE_append_zeros, hd.value]
    simp only [hm, NumberLiteral.exponent]
    simpa using stripTens_mul_pow ha z (a * 10 ^ z) 0 le_rfl

theorem readsAs_point (neg : Bool) (n : Nat) (hn : 0 < n) (hnk : n < (decimalDigits a).length) :
    ∃ lit, lexUnsigned neg (digitChars ((decimalDigits a).take n) ++
      '.' :: digitChars ((decimalDigits a).drop n) ++ r) = some (lit, r) ∧
      ReadsAs neg a (n - (decimalDigits a).length) lit := by
  have hd := digitsOf_decimalDigits a
  obtain ⟨d, rest, hds⟩ := List.exists_cons_of_ne_nil (decimalDigits_ne_nil a)
  have hd0 : 0 < d := hd.head_pos d rest hds (by omega)
  obtain ⟨t, ht⟩ : ∃ t, (decimalDigits a).take n = d :: t := by
    rw [hds]; cases n with
    | zero => omega
    | succ n => exact ⟨_, rfl⟩
  have hdrop : (decimalDigits a).drop n ≠ [] := by simp; omega
  refine ⟨⟨neg, (decimalDigits a).take n, (decimalDigits a).drop n, false, []⟩, ?_, rfl, ?_⟩
  · have h₁ : lexInt (digitChars ((decimalDigits a).take n) ++
        '.' :: (digitChars ((decimalDigits a).drop n) ++ r)) =
        some ((decimalDigits a).take n, '.' :: (digitChars ((decimalDigits a).drop n) ++ r)) := by
      rw [ht]
      exact lexInt_digitChars hd0 (ht ▸ fun y hy => hd.lt_ten y (List.mem_of_mem_take hy))
        (noDigitFirst_cons (by decide) _)
    rw [List.append_assoc, List.cons_append]
    exact lexUnsigned_eq h₁ (lexFrac_digitChars hdrop
      (fun y hy => hd.lt_ten y (List.mem_of_mem_drop hy)) hr.noDigitFirst)
      (lexExp_of_endsNumber hr)
  · have hm : (⟨neg, (decimalDigits a).take n, (decimalDigits a).drop n, false, []⟩ :
        NumberLiteral).mantissa = a := by
      simp [NumberLiteral.mantissa, hd.value]
    simp only [hm, NumberLiteral.exponent, stripTens_of_mod ha, List.length_drop]
    simp; omega

theorem readsAs_fraction (neg : Bool) (z : Nat) :
    ∃ lit, lexUnsigned neg ('0' :: '.' :: (List.replicate z '0' ++ digitChars (decimalDigits a)) ++
      r) = some (lit, r) ∧ ReadsAs neg a (-(z : Int) - (decimalDigits a).length) lit := by
  have hd := digitsOf_decimalDigits a
  have hlt : ∀ x ∈ List.replicate z 0 ++ decimalDigits a, x < 10 := by
    intro x hx
    simp only [List.mem_append, List.mem_replicate] at hx
    rcases hx with ⟨-, rfl⟩ | hx
    · omega
    · exact hd.lt_ten x hx
  have hne : List.replicate z 0 ++ decimalDigits a ≠ [] := by simp [decimalDigits_ne_nil]
  refine ⟨⟨neg, [0], List.replicate z 0 ++ decimalDigits a, false, []⟩, ?_, rfl, ?_⟩
  · rw [← digitChars_replicate_zero, ← digitChars_append, List.cons_append, List.cons_append]
    exact lexUnsigned_eq rfl (lexFrac_digitChars hne hlt hr.noDigitFirst)
      (lexExp_of_endsNumber hr)
  · have hm : (⟨neg, [0], List.replicate z 0 ++ decimalDigits a, false, []⟩ :
        NumberLiteral).mantissa = a := by
      simp [NumberLiteral.mantissa, ofDigitsBE_zero_cons, ofDigitsBE_append,
        ofDigitsBE_replicate_zero, hd.value]
    simp only [hm, NumberLiteral.exponent, stripTens_of_mod ha]
    simp; omega

theorem readsAs_exponential (neg : Bool) {d : Nat} {rest : List Nat}
    (hds : decimalDigits a = d :: rest) (x : Int) :
    ∃ lit, lexUnsigned neg (digitChar d :: ((if rest = [] then [] else '.' :: digitChars rest) ++
      'e' :: exponentChars x) ++ r) = some (lit, r) ∧
      ReadsAs neg a (x + 1 - (decimalDigits a).length) lit := by
  have hd := digitsOf_decimalDigits a
  have hd0 : 0 < d := hd.head_pos d rest hds (by omega)
  have hlt : ∀ y ∈ d :: rest, y < 10 := hds ▸ hd.lt_ten
  have hexp := lexExp_exponentChars x hr.noDigitFirst
  have hint : ∀ tail : List Char, NoDigitFirst tail →
      lexInt (digitChars [d] ++ tail) = some ([d], tail) := fun tail ht =>
    lexInt_digitChars hd0 (fun y hy => hlt y (by simp_all)) ht
  refine ⟨⟨neg, [d], rest, decide (x < 0), decimalDigits x.natAbs⟩, ?_, rfl, ?_⟩
  · by_cases hrest : rest = []
    · subst hrest
      have := hint ('e' :: (exponentChars x ++ r)) (noDigitFirst_cons (by decide) _)
      simp only [if_true, List.nil_append, List.cons_append, List.append_assoc]
      exact lexUnsigned_eq this rfl hexp
    · have := hint ('.' :: (digitChars rest ++ 'e' :: (exponentChars x ++ r)))
        (noDigitFirst_cons (by decide) _)
      simp only [hrest, if_false, List.cons_append, List.append_assoc]
      exact lexUnsigned_eq this (lexFrac_digitChars hrest (fun y hy => hlt y (by simp [hy]))
        (noDigitFirst_cons (by decide) _)) hexp
  · have hm : (⟨neg, [d], rest, decide (x < 0), decimalDigits x.natAbs⟩ :
        NumberLiteral).mantissa = a := by
      simp [NumberLiteral.mantissa, ← hds, hd.value]
    simp only [hm, NumberLiteral.exponent, stripTens_of_mod ha, hds,
      (digitsOf_decimalDigits x.natAbs).value, decide_eq_true_eq, List.length_cons, ReadsAs]
    split_ifs <;> simp only [Prod.mk.injEq, true_and] <;> omega

theorem magnitude_readsAs (neg : Bool) (n : Int) :
    ∃ lit, lexUnsigned neg (magnitudeChars (decimalDigits a) n ++ r) = some (lit, r) ∧
      ReadsAs neg a (n - (decimalDigits a).length) lit := by
  unfold magnitudeChars
  split_ifs with h₁ h₂ h₃
  · obtain ⟨lit, h, hl⟩ := readsAs_integer ha hr neg (n - (decimalDigits a).length).toNat
    exact ⟨lit, h, by rwa [Int.toNat_of_nonneg (by omega)] at hl⟩
  · obtain ⟨lit, h, hl⟩ := readsAs_point ha hr neg n.toNat (by omega) (by omega)
    exact ⟨lit, h, by rwa [Int.toNat_of_nonneg (by omega)] at hl⟩
  · obtain ⟨lit, h, hl⟩ := readsAs_fraction ha hr neg (-n).toNat
    exact ⟨lit, h, by rwa [Int.toNat_of_nonneg (by omega), neg_neg] at hl⟩
  · split
    · rename_i d rest hds
      obtain ⟨lit, h, hl⟩ := readsAs_exponential ha hr neg hds (n - 1)
      exact ⟨lit, h, by rwa [sub_add_cancel] at hl⟩
    · exact absurd ‹_› (decimalDigits_ne_nil a)

end Magnitude

theorem Decimal.natAbs_mod_ne {d : Decimal} (h0 : d.mantissa ≠ 0) : d.mantissa.natAbs % 10 ≠ 0 := by
  rcases d.normal with h | h <;> omega

/-- **Numbers round-trip.** `JSON.parse` reads `Number::toString`'s digits back to the number
they print, for every finite number in the double range. -/
theorem parseNumber_toChars {d : Decimal} (hd : d.InRange) {r : List Char} (hr : EndsNumber r) :
    parseNumber (d.toChars ++ r) = some (.finite d, r) := by
  by_cases h0 : d.mantissa = 0
  · have hz : d = Decimal.zero :=
      Decimal.ext h0 (show d.exponent = 0 by rcases d.normal with h | h <;> omega)
    subst hz
    have hlex : lexNumber ('0' :: r) = some (⟨false, [0], [], false, []⟩, r) :=
      lexNumber_of_lexUnsigned (lexUnsigned_eq rfl (lexFrac_of_endsNumber hr)
        (lexExp_of_endsNumber hr))
    simp [parseNumber, Decimal.toChars, Decimal.zero, hlex, NumberLiteral.value,
      NumberLiteral.mantissa, NumberLiteral.exponent, ofDigitsBE_singleton, stripTens,
      roundDecimal, JsNumber.zero]
  · obtain ⟨lit, hlex, hl⟩ := magnitude_readsAs (Decimal.natAbs_mod_ne h0) hr
      (decide (d.mantissa < 0)) ((decimalDigits d.mantissa.natAbs).length + d.exponent)
    have hval : lit.value = .finite d := by
      rw [value_of_readsAs hl, add_sub_cancel_left, roundDecimal_of_inRange h0 hd]
    rw [Decimal.toChars, if_neg h0]
    by_cases hneg : d.mantissa < 0
    · rw [decide_eq_true hneg] at hlex
      simp [parseNumber, lexNumber, hneg, hlex, hval]
    · rw [decide_eq_false hneg] at hlex
      simp [parseNumber, lexNumber_of_lexUnsigned hlex, hneg, hval]

end CodexBridge
