import CodexBridge.Js.Number

/-!
# JavaScript values

The values both tools touch are JSON values (`JsValue`), and `undefined` where a property is
missing: a value a program sees is an `Option JsValue`, `none` being `undefined`. Objects keep
their properties in order; `JSON.parse` never builds two with one name.

Beside the values, the handful of runtime operations the code applies to them, each as
ECMA-262 defines it on these values: property reads (`.` throws on `null` and `undefined`,
`?.` gives `undefined`), truthiness, `String.prototype.trim`, the template-literal `ToString`
and the `length`/`slice` of a string, counted in UTF-16 code units.
-/

namespace CodexBridge

/-- A JSON value. -/
inductive JsValue
  | null
  | bool (b : Bool)
  | number (n : JsNumber)
  | string (s : String)
  | array (xs : List JsValue)
  | object (fields : List (String × JsValue))

namespace JsValue

mutual
/-- Structural equality. -/
def beq : JsValue → JsValue → Bool
  | .null, .null => true
  | .bool a, .bool b => a == b
  | .number a, .number b => a == b
  | .string a, .string b => a == b
  | .array xs, .array ys => beqList xs ys
  | .object xs, .object ys => beqFields xs ys
  | _, _ => false
def beqList : List JsValue → List JsValue → Bool
  | [], [] => true
  | x :: xs, y :: ys => beq x y && beqList xs ys
  | _, _ => false
def beqFields : List (String × JsValue) → List (String × JsValue) → Bool
  | [], [] => true
  | (k, x) :: xs, (l, y) :: ys => k == l && beq x y && beqFields xs ys
  | _, _ => false
end

mutual
theorem beq_iff : ∀ a b : JsValue, beq a b = true ↔ a = b
  | .null, b | .bool _, b | .number _, b | .string _, b => by
    cases b <;> first
      | exact ⟨fun _ => rfl, fun _ => rfl⟩
      | exact beq_iff_eq.trans ⟨congrArg _, fun h => by cases h; rfl⟩
      | exact ⟨fun h => (by cases h), fun h => (by cases h)⟩
  | .array xs, b => by
    cases b <;> first
      | exact (beqList_iff xs _).trans ⟨congrArg _, fun h => by cases h; rfl⟩
      | exact ⟨fun h => (by cases h), fun h => (by cases h)⟩
  | .object xs, b => by
    cases b <;> first
      | exact (beqFields_iff xs _).trans ⟨congrArg _, fun h => by cases h; rfl⟩
      | exact ⟨fun h => (by cases h), fun h => (by cases h)⟩
theorem beqList_iff : ∀ xs ys : List JsValue, beqList xs ys = true ↔ xs = ys
  | [], [] => ⟨fun _ => rfl, fun _ => rfl⟩
  | [], _ :: _ | _ :: _, [] => ⟨fun h => (by cases h), fun h => (by cases h)⟩
  | x :: xs, y :: ys => (Bool.and_eq_true _ _).to_iff.trans <|
      (and_congr (beq_iff x y) (beqList_iff xs ys)).trans List.cons_eq_cons.symm
theorem beqFields_iff : ∀ xs ys : List (String × JsValue), beqFields xs ys = true ↔ xs = ys
  | [], [] => ⟨fun _ => rfl, fun _ => rfl⟩
  | [], _ :: _ | _ :: _, [] => ⟨fun h => (by cases h), fun h => (by cases h)⟩
  | (k, x) :: xs, (l, y) :: ys => by
    show (k == l && beq x y && beqFields xs ys) = true ↔ _
    simp [beq_iff x y, beqFields_iff xs ys, and_assoc]
end

instance : DecidableEq JsValue := fun a b => decidable_of_iff _ (beq_iff a b)

/-! ## Property reads -/

/-- The own property `key` of an object's fields. -/
def field (fields : List (String × JsValue)) (key : String) : Option JsValue :=
  (fields.find? (·.1 == key)).map (·.2)

/-- `v[key]` on a value that is not `null`, for the names the code reads other than `length`
(`type`, `item`, `text`, …): an object's own property; other values have none of them. -/
def get (v : JsValue) (key : String) : Option JsValue :=
  match v with
  | .object fields => field fields key
  | _ => none

end JsValue

/-- `base.key`: a `TypeError` (`none`) on `null` and `undefined`. -/
def member (base : Option JsValue) (key : String) : Option (Option JsValue) :=
  match base with
  | some .null | none => none
  | some v => some (v.get key)

/-- `base?.key`: `undefined` on `null` and `undefined`. -/
def optMember (base : Option JsValue) (key : String) : Option JsValue :=
  (member base key).getD none

/-- JavaScript truthiness: `undefined`, `null`, `false`, `0`, `NaN` and `""` are falsy. -/
def truthy : Option JsValue → Bool
  | none | some .null | some (.bool false) | some (.string "") => false
  | some (.number (.finite d)) => d.mantissa != 0
  | some (.number .nan) => false
  | _ => true

/-- `a || b`. -/
def orElse (a b : Option JsValue) : Option JsValue := if truthy a then a else b

/-! ## Strings -/

/-- `WhiteSpace` and `LineTerminator` of ECMA-262, what `String.prototype.trim` removes: tab,
vertical tab, form feed, space, no-break space, byte order mark, the `Zs` spaces, line feed,
carriage return, line and paragraph separators. -/
def isJsSpace (c : Char) : Bool :=
  [0x09, 0x0B, 0x0C, 0x20, 0xA0, 0xFEFF, 0x1680, 0x202F, 0x205F, 0x3000,
    0x0A, 0x0D, 0x2028, 0x2029].contains c.toNat || (0x2000 ≤ c.toNat && c.toNat ≤ 0x200A)

/-- `String.prototype.trim`. -/
def jsTrim (s : String) : String :=
  String.mk ((s.toList.dropWhile isJsSpace).reverse.dropWhile isJsSpace).reverse

/-- `!s.trim()`. -/
def isBlank (s : String) : Bool := (jsTrim s).isEmpty

/-- `getOptionalString`: the property when it is a string that is not blank. -/
def getOptionalString (obj : List (String × JsValue)) (key : String) : Option String :=
  match JsValue.field obj key with
  | some (.string s) => if isBlank s then none else some s
  | _ => none

/-- The UTF-16 code units of a character: two for one beyond the basic plane. -/
def utf16Width (c : Char) : Nat := if c.toNat > 0xFFFF then 2 else 1

/-- `s.length`. -/
def utf16Length (s : String) : Nat := (s.toList.map utf16Width).sum

@[simp] theorem toList_string_mk (cs : List Char) : (String.mk cs).toList = cs := rfl

@[simp] theorem string_mk_toList (s : String) : String.mk s.toList = s := rfl

theorem utf16Length_bmp {cs : List Char} (h : ∀ c ∈ cs, c.toNat ≤ 0xFFFF) :
    utf16Length (String.mk cs) = cs.length := by
  simp only [utf16Length, toList_string_mk]
  induction cs with
  | nil => rfl
  | cons c cs ih =>
    have hc : utf16Width c = 1 := if_neg (by have := h c (List.mem_cons_self _ _); omega)
    rw [List.map_cons, List.sum_cons, hc, ih fun d hd => h d (List.mem_cons_of_mem _ hd),
      List.length_cons, Nat.add_comm]

/-- `s.slice(0, n)`: the characters within the first `n` code units. A pair the cut would
split leaves a lone surrogate in JavaScript, which a Lean string cannot hold; it is dropped. -/
def utf16Take : Nat → List Char → List Char
  | _, [] => []
  | n, c :: cs => if utf16Width c ≤ n then c :: utf16Take (n - utf16Width c) cs else []

/-! ## `ToString`, as template literals and `+` apply it -/

mutual
/-- `ToString(v)`, or `none` where it throws: on an object with an own `toString` property,
which is not callable, so `OrdinaryToPrimitive` finds no primitive. -/
def toJsString : JsValue → Option String
  | .null => some "null"
  | .bool b => some (toString b)
  | .number n => some n.toJsString
  | .string s => some s
  | .array xs => (joinElements xs).map (String.intercalate ",")
  | .object fields =>
    if (JsValue.field fields "toString").isSome then none else some "[object Object]"
/-- The elements as `Array.prototype.join` writes them, `null` as the empty string. -/
def joinElements : List JsValue → Option (List String)
  | [] => some []
  | .null :: xs => (joinElements xs).map ("" :: ·)
  | x :: xs => (toJsString x).bind fun s => (joinElements xs).map (s :: ·)
end

/-- `ToString` of what a program sees, `undefined` included. -/
def anyToString : Option JsValue → Option String
  | none => some "undefined"
  | some v => toJsString v

/-! ## Comparing with a number -/

/-- A natural number as a JavaScript number. -/
def JsNumber.ofNat (n : Nat) : JsNumber := (NumberLiteral.mk false (decimalDigits n) [] false []).value

/-- `n > k` for a number `n` and a natural `k`; `NaN` compares false. -/
def JsNumber.gtNat (n : JsNumber) (k : Nat) : Bool :=
  match n with
  | .finite d =>
    if 0 ≤ d.exponent then decide ((k : Int) < d.mantissa * 10 ^ d.exponent.toNat)
    else decide ((k : Int) * 10 ^ (-d.exponent).toNat < d.mantissa)
  | .posInf => true
  | .negInf | .nan => false

/-- The value of a hexadecimal digit. -/
def hexVal (c : Char) : Option Nat :=
  if '0' ≤ c ∧ c ≤ '9' then some (c.toNat - 48)
  else if 'a' ≤ c ∧ c ≤ 'f' then some (c.toNat - 87)
  else if 'A' ≤ c ∧ c ≤ 'F' then some (c.toNat - 55)
  else none

/-- The value of digits in a radix, if all are digits of it. -/
def radixValue (radix : Nat) (cs : List Char) : Option Nat :=
  cs.foldlM (fun n c => (hexVal c).bind fun d => if d < radix then some (radix * n + d) else none) 0

/-- `StrUnsignedDecimalLiteral` without `Infinity`: digits with an optional point (digits on
at least one side) and an optional exponent, the whole input. -/
def lexStrDecimal (negative : Bool) (cs : List Char) : Option NumberLiteral :=
  let (i, r) := spanDigits cs
  let (f, r, point) := match r with
    | '.' :: r => ((spanDigits r).1, (spanDigits r).2, true)
    | r => ([], r, false)
  if i = [] ∧ (f = [] ∨ ¬ point) then none
  else match lexExp r with
    | some (en, x, []) => some ⟨negative, if i = [] then [0] else i, f, en, x⟩
    | _ => none

/-- `StringToNumber`: the value of a `StringNumericLiteral`, white space around it ignored,
`NaN` for any other string, `0` for a blank one. -/
def stringToNumber (s : String) : JsNumber :=
  let signed (neg : Bool) (cs : List Char) : JsNumber :=
    if cs = "Infinity".toList then (if neg then .negInf else .posInf)
    else ((lexStrDecimal neg cs).map NumberLiteral.value).getD .nan
  match (jsTrim s).toList with
  | [] => .zero
  | '0' :: x :: ds =>
    let radix := if x = 'x' ∨ x = 'X' then 16 else if x = 'o' ∨ x = 'O' then 8
      else if x = 'b' ∨ x = 'B' then 2 else 0
    if radix = 0 then signed false ('0' :: x :: ds)
    else if ds = [] then .nan else ((radixValue radix ds).map JsNumber.ofNat).getD .nan
  | '-' :: cs => signed true cs
  | '+' :: cs => signed false cs
  | cs => signed false cs

/-- `v > k` for a value and a natural `k` (`IsLessThan` after `ToPrimitive`, hint number):
`undefined`, `null` and booleans are below, a string or an array compares as its
`StringToNumber`, and an object as `"[object Object]"`, `NaN`, unless its own `toString`
makes `ToPrimitive` throw (`none`). -/
def gtNat (v : Option JsValue) (k : Nat) : Option Bool :=
  match v with
  | some (.number n) => some (n.gtNat k)
  | some (.string s) => some ((stringToNumber s).gtNat k)
  | some (.array xs) => (toJsString (.array xs)).map fun s => (stringToNumber s).gtNat k
  | some (.object fs) => if (JsValue.field fs "toString").isSome then none else some false
  | _ => some false

end CodexBridge
