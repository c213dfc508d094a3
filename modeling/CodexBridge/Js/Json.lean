import CodexBridge.Js.Value
import Mathlib.Data.List.Nodup

/-!
# `JSON.parse`

The parser both tools call on every line of the event stream and on the credential file:
ECMA-404's grammar, white space being space, tab, line feed and carriage return. A
duplicated name keeps its first position and its last value, as `CreateDataProperty` does, and an
object lists its array-index names first, in ascending order, as `OrdinaryOwnPropertyKeys` does.

Strings are Lean strings, sequences of Unicode scalar values. A `\uXXXX` escape of a surrogate
pair gives the character it encodes; an escape of a lone surrogate, which `JSON.parse` turns
into a lone UTF-16 unit, is outside that type, and the parser refuses it.

Recursion runs on `fuel`, one unit per nested value and per element; `jsonParse` gives it
the length of the text, which every value needs at least one character of.
-/

namespace CodexBridge

/-- JSON white space. -/
def isJsonSpace (c : Char) : Bool := c = ' ' || c = '\t' || c = '\n' || c = '\r'

/-- Skip JSON white space. -/
def skipWs : List Char → List Char
  | c :: cs => if isJsonSpace c then skipWs cs else c :: cs
  | [] => []

/-- The character of a UTF-16 unit outside the surrogate range. -/
def unitChar (u : Nat) : Option Char :=
  if 0xD800 ≤ u ∧ u ≤ 0xDFFF then none else some (Char.ofNat u)

/-- The character a surrogate pair encodes. -/
def pairChar (hi lo : Nat) : Option Char :=
  if 0xD800 ≤ hi ∧ hi ≤ 0xDBFF ∧ 0xDC00 ≤ lo ∧ lo ≤ 0xDFFF then
    some (Char.ofNat (0x10000 + (hi - 0xD800) * 0x400 + (lo - 0xDC00)))
  else none

/-- The character a one-letter escape stands for. -/
def simpleEscape : Char → Option Char
  | '"' => some '"'
  | '\\' => some '\\'
  | '/' => some '/'
  | 'b' => some '\x08'
  | 'f' => some '\x0C'
  | 'n' => some '\n'
  | 'r' => some '\r'
  | 't' => some '\t'
  | _ => none

/-- Where the string lexer stands: between characters, after a backslash, inside the four
digits of a `\u` escape (`digits` read so far, `value` their value), or after the escape of a
high surrogate, which the escape of a low one must follow. -/
inductive StringLexState
  | chars
  | escape
  | unit (value digits : Nat)
  | lowEscape (hi : Nat)
  | lowU (hi : Nat)
  | lowUnit (hi value digits : Nat)

/-- A string literal's characters up to the closing quote, read one character at a time, and
the input after that quote. -/
def lexString : StringLexState → List Char → Option (List Char × List Char)
  | _, [] => none
  | .chars, c :: cs =>
    if c = '"' then some ([], cs)
    else if c = '\\' then lexString .escape cs
    else if c.toNat < 0x20 then none
    else (lexString .chars cs).map fun (s, r) => (c :: s, r)
  | .escape, c :: cs =>
    if c = 'u' then lexString (.unit 0 0) cs
    else (simpleEscape c).bind fun ch => (lexString .chars cs).map fun (s, r) => (ch :: s, r)
  | .unit value digits, c :: cs =>
    (hexVal c).bind fun x =>
      if digits < 3 then lexString (.unit (16 * value + x) (digits + 1)) cs
      else if 0xD800 ≤ 16 * value + x ∧ 16 * value + x ≤ 0xDBFF then
        lexString (.lowEscape (16 * value + x)) cs
      else (unitChar (16 * value + x)).bind fun ch =>
        (lexString .chars cs).map fun (s, r) => (ch :: s, r)
  | .lowEscape hi, c :: cs => if c = '\\' then lexString (.lowU hi) cs else none
  | .lowU hi, c :: cs => if c = 'u' then lexString (.lowUnit hi 0 0) cs else none
  | .lowUnit hi value digits, c :: cs =>
    (hexVal c).bind fun x =>
      if digits < 3 then lexString (.lowUnit hi (16 * value + x) (digits + 1)) cs
      else (pairChar hi (16 * value + x)).bind fun ch =>
        (lexString .chars cs).map fun (s, r) => (ch :: s, r)

/-- A string literal's characters after the opening quote, and the input after the closing
one. -/
def parseStringBody (cs : List Char) : Option (List Char × List Char) := lexString .chars cs

/-- The index a property name stands for when it is an array index: decimal digits, written as
`ToString` writes the number they stand for, below `2 ^ 32 - 1`. -/
def arrayIndex (key : String) : Option Nat :=
  let n := ofDigitsBE (key.toList.map digitVal)
  if key.toList.all Char.isDigit ∧ digitChars (decimalDigits n) = key.toList ∧ n < 4294967295 then
    some n
  else none

/-- `a` is listed before `b` among an object's own keys (`OrdinaryOwnPropertyKeys`): array
indices first, in ascending order, then the other names in the order they were created. -/
def keyPrecedes (a b : String) : Bool :=
  match arrayIndex a, arrayIndex b with
  | some i, some j => decide (i < j)
  | none, some _ => false
  | _, none => true

/-- A new property, where `OrdinaryOwnPropertyKeys` lists it: an array index before the first
name it precedes, any other name last. -/
def addProperty (key : String) (v : JsValue) : List (String × JsValue) → List (String × JsValue)
  | [] => [(key, v)]
  | p :: ps =>
    if (arrayIndex key).isSome && keyPrecedes key p.1 then (key, v) :: p :: ps
    else p :: addProperty key v ps

/-- Assign `fields[key] = v`: replace the value in place, or add the property. -/
def setField (fields : List (String × JsValue)) (key : String) (v : JsValue) :
    List (String × JsValue) :=
  if fields.any (·.1 == key) then fields.map fun p => if p.1 == key then (p.1, v) else p
  else addProperty key v fields

/-- An object's members, created in text order as `JSON.parse` creates them. -/
def mergeFields (members : List (String × JsValue)) : List (String × JsValue) :=
  members.foldl (fun acc p => setField acc p.1 p.2) []

/-- The input after the characters `lit`, if it starts with them. -/
def dropLiteral : List Char → List Char → Option (List Char)
  | [], cs => some cs
  | l :: ls, c :: cs => if c = l then dropLiteral ls cs else none
  | _ :: _, [] => none

mutual
/-- A value at the front of the input, which starts with no white space. -/
def parseValue : Nat → List Char → Option (JsValue × List Char)
  | 0, _ => none
  | _ + 1, [] => none
  | fuel + 1, c :: cs =>
    if c = 'n' then (dropLiteral "ull".toList cs).map (.null, ·)
    else if c = 't' then (dropLiteral "rue".toList cs).map (.bool true, ·)
    else if c = 'f' then (dropLiteral "alse".toList cs).map (.bool false, ·)
    else if c = '"' then (parseStringBody cs).map fun (s, r) => (.string (String.mk s), r)
    else if c = '[' then
      match skipWs cs with
      | d :: r => if d = ']' then some (.array [], r)
        else (parseElements fuel (d :: r)).map fun (xs, r) => (.array xs, r)
      | [] => none
    else if c = '\x7b' then
      match skipWs cs with
      | d :: r => if d = '\x7d' then some (.object [], r)
        else (parseMembers fuel (d :: r)).map fun (ms, r) => (.object (mergeFields ms), r)
      | [] => none
    else (parseNumber (c :: cs)).map fun (n, r) => (.number n, r)
/-- `value *( , value ) ]` of an array, after `[`. -/
def parseElements : Nat → List Char → Option (List JsValue × List Char)
  | 0, _ => none
  | fuel + 1, cs =>
    (parseValue fuel cs).bind fun (v, r) =>
      match skipWs r with
      | d :: r =>
        if d = ',' then (parseElements fuel (skipWs r)).map fun (vs, r) => (v :: vs, r)
        else if d = ']' then some ([v], r)
        else none
      | [] => none
/-- `member *( , member ) }` of an object, after `{`. -/
def parseMembers : Nat → List Char → Option (List (String × JsValue) × List Char)
  | 0, _ => none
  | _ + 1, [] => none
  | fuel + 1, c :: cs =>
    if c = '"' then
      (parseStringBody cs).bind fun (k, r) =>
        match skipWs r with
        | d :: r =>
          if d = ':' then
            (parseValue fuel (skipWs r)).bind fun (v, r) =>
              match skipWs r with
              | d :: r =>
                if d = ',' then
                  (parseMembers fuel (skipWs r)).map fun (ms, r) => ((String.mk k, v) :: ms, r)
                else if d = '\x7d' then some ([(String.mk k, v)], r)
                else none
              | [] => none
          else none
        | [] => none
    else none
end

/-- `JSON.parse(text)`: one value, white space around it, nothing else. `none` is the
`SyntaxError`. -/
def jsonParse (text : String) : Option JsValue :=
  match parseValue (text.length + 1) (skipWs text.toList) with
  | some (v, r) => if skipWs r = [] then some v else none
  | none => none

/-! ## Merging an object's members -/

/-- An object's names in `OrdinaryOwnPropertyKeys` order. -/
def InKeyOrder (fields : List (String × JsValue)) : Prop :=
  fields.Pairwise fun p q => keyPrecedes p.1 q.1 = true

instance (fields : List (String × JsValue)) : Decidable (InKeyOrder fields) :=
  inferInstanceAs (Decidable (List.Pairwise _ _))

theorem arrayIndex_inj {a b : String} {i : Nat} (ha : arrayIndex a = some i)
    (hb : arrayIndex b = some i) : a = b := by
  unfold arrayIndex at ha hb
  dsimp only at ha hb
  split_ifs at ha hb with h₁ h₂
  obtain ⟨-, hda, -⟩ := h₁
  obtain ⟨-, hdb, -⟩ := h₂
  rw [(Option.some.inj ha).trans (Option.some.inj hb).symm] at hda
  exact String.ext (hda.symm.trans hdb)

theorem keyPrecedes_of_none {a b : String} (hb : arrayIndex b = none) : keyPrecedes a b = true := by
  unfold keyPrecedes; split <;> simp_all

theorem keyPrecedes_trans {a b c : String} (h₁ : keyPrecedes a b = true) (h₂ : keyPrecedes b c = true) :
    keyPrecedes a c = true := by
  unfold keyPrecedes at h₁ h₂ ⊢
  generalize arrayIndex a = x at h₁ h₂ ⊢
  generalize arrayIndex b = y at h₁ h₂ ⊢
  generalize arrayIndex c = z at h₁ h₂ ⊢
  rcases x with _ | i <;> rcases y with _ | j <;> rcases z with _ | k <;> simp_all
  omega

theorem keyPrecedes_asymm {a b : String} (ha : (arrayIndex a).isSome = true)
    (h : keyPrecedes b a = true) : keyPrecedes a b = false := by
  obtain ⟨i, hi⟩ := Option.isSome_iff_exists.1 ha
  unfold keyPrecedes at h ⊢
  rw [hi] at h ⊢
  cases hb : arrayIndex b <;> simp_all
  omega

/-- Of two different names, one precedes the other. -/
theorem keyPrecedes_of_not {a b : String} (hne : a ≠ b) (h : keyPrecedes a b = false) :
    keyPrecedes b a = true := by
  unfold keyPrecedes at h ⊢
  cases ha : arrayIndex a <;> cases hb : arrayIndex b <;> simp_all
  rename_i i j
  rcases Nat.lt_or_ge j i with hlt | hge
  · exact hlt
  · exact absurd (arrayIndex_inj ha (hb.trans (congrArg some (by omega)))) hne

theorem addProperty_perm (key : String) (v : JsValue) (fields : List (String × JsValue)) :
    List.Perm (addProperty key v fields) ((key, v) :: fields) := by
  induction fields with
  | nil => exact .refl _
  | cons p ps ih =>
    unfold addProperty
    split_ifs
    · exact .refl _
    · exact (ih.cons p).trans (.swap _ _ _)

/-- A name that every name of the object precedes is added last. -/
theorem addProperty_of_precedes {fields : List (String × JsValue)} {key : String}
    (h : ∀ q ∈ fields, keyPrecedes q.1 key = true) (v : JsValue) :
    addProperty key v fields = fields ++ [(key, v)] := by
  induction fields with
  | nil => rfl
  | cons p ps ih =>
    have hg : ((arrayIndex key).isSome && keyPrecedes key p.1) = false := by
      cases hs : (arrayIndex key).isSome
      · rfl
      · simpa using keyPrecedes_asymm hs (h p (List.mem_cons_self _ _))
    rw [addProperty, if_neg (by simp [hg]), ih fun q hq => h q (List.mem_cons_of_mem _ hq)]
    rfl

theorem inKeyOrder_addProperty {fields : List (String × JsValue)} {key : String}
    (hk : key ∉ fields.map (·.1)) (h : InKeyOrder fields) (v : JsValue) :
    InKeyOrder (addProperty key v fields) := by
  induction fields with
  | nil => simp [InKeyOrder, addProperty]
  | cons p ps ih =>
    simp only [InKeyOrder, List.pairwise_cons, List.map_cons, List.mem_cons, not_or] at h hk ⊢
    unfold addProperty
    split_ifs with hg
    · simp only [Bool.and_eq_true] at hg
      refine List.pairwise_cons.2 ⟨fun q hq => ?_, List.pairwise_cons.2 h⟩
      rcases List.mem_cons.1 hq with rfl | hq
      · exact hg.2
      · exact keyPrecedes_trans hg.2 (h.1 q hq)
    · refine List.pairwise_cons.2 ⟨fun q hq => ?_, ih hk.2 h.2⟩
      rcases List.mem_cons.1 ((addProperty_perm key v ps).mem_iff.1 hq) with rfl | hq
      · cases hs : arrayIndex key
        · exact keyPrecedes_of_none hs
        · exact keyPrecedes_of_not hk.1 (by simpa [hs] using hg)
      · exact h.1 q hq

theorem field_cons (p : String × JsValue) (ps : List (String × JsValue)) (k : String) :
    JsValue.field (p :: ps) k = if p.1 = k then some p.2 else JsValue.field ps k := by
  simp only [JsValue.field, List.find?_cons, beq_iff_eq]
  split <;> simp_all

theorem field_addProperty {fields : List (String × JsValue)} {key : String}
    (h : key ∉ fields.map (·.1)) (v : JsValue) (k : String) :
    JsValue.field (addProperty key v fields) k = if k = key then some v else JsValue.field fields k := by
  induction fields with
  | nil =>
    rw [addProperty, field_cons]
    by_cases hk : k = key
    · simp [hk]
    · simp [hk, Ne.symm hk]
  | cons p ps ih =>
    simp only [List.map_cons, List.mem_cons, not_or] at h
    rw [addProperty]
    by_cases hg : ((arrayIndex key).isSome && keyPrecedes key p.1) = true
    · rw [if_pos hg, field_cons]
      by_cases hk : k = key
      · simp [hk]
      · simp [hk, Ne.symm hk]
    · rw [if_neg hg, field_cons, ih h.2, field_cons]
      by_cases hk : k = key
      · simp [hk, Ne.symm h.1]
      · simp [hk]

theorem setField_of_fresh {fields : List (String × JsValue)} {key : String}
    (h : key ∉ fields.map (·.1)) (v : JsValue) : setField fields key v = addProperty key v fields := by
  have : fields.any (·.1 == key) = false := by
    simpa using fun p hp he => h (List.mem_map.2 ⟨p, hp, he⟩)
  simp [setField, this]

theorem not_mem_keys_of_any {fields : List (String × JsValue)} {key : String}
    (h : ¬fields.any (·.1 == key) = true) : key ∉ fields.map (·.1) := by
  simpa using h

theorem keys_setField_nodup {fields : List (String × JsValue)} (h : (fields.map (·.1)).Nodup)
    (key : String) (v : JsValue) : ((setField fields key v).map (·.1)).Nodup := by
  unfold setField
  split_ifs with hk
  · simpa [Function.comp_def, apply_ite Prod.fst] using h
  · rw [((addProperty_perm key v fields).map (·.1)).nodup_iff]
    exact List.nodup_cons.2 ⟨not_mem_keys_of_any hk, h⟩

theorem inKeyOrder_setField {fields : List (String × JsValue)} (h : InKeyOrder fields)
    (key : String) (v : JsValue) : InKeyOrder (setField fields key v) := by
  unfold setField
  split_ifs with hk
  · exact List.pairwise_map.2 (h.imp fun hpq => by split_ifs <;> exact hpq)
  · exact inKeyOrder_addProperty (not_mem_keys_of_any hk) h v

theorem mem_setField {fields : List (String × JsValue)} {key : String} {v : JsValue}
    {p : String × JsValue} (h : p ∈ setField fields key v) : p ∈ fields ∨ p.2 = v := by
  unfold setField at h
  split_ifs at h
  · obtain ⟨q, hq, rfl⟩ := List.mem_map.1 h
    split_ifs <;> simp [hq]
  · rcases List.mem_cons.1 ((addProperty_perm key v fields).mem_iff.1 h) with rfl | h
    · exact .inr rfl
    · exact .inl h

theorem foldl_setField_nodup (members : List (String × JsValue)) :
    ∀ acc : List (String × JsValue), (acc.map (·.1)).Nodup →
      ((members.foldl (fun acc p => setField acc p.1 p.2) acc).map (·.1)).Nodup := by
  induction members with
  | nil => exact fun _ h => h
  | cons p ps ih => exact fun acc h => ih _ (keys_setField_nodup h _ _)

theorem foldl_setField_inKeyOrder (members : List (String × JsValue)) :
    ∀ acc : List (String × JsValue), InKeyOrder acc →
      InKeyOrder (members.foldl (fun acc p => setField acc p.1 p.2) acc) := by
  induction members with
  | nil => exact fun _ h => h
  | cons p ps ih => exact fun acc h => ih _ (inKeyOrder_setField h _ _)

theorem mem_foldl_setField (members : List (String × JsValue)) :
    ∀ acc p, p ∈ members.foldl (fun acc p => setField acc p.1 p.2) acc →
      p ∈ acc ∨ ∃ q ∈ members, q.2 = p.2 := by
  induction members with
  | nil => exact fun _ _ h => .inl h
  | cons q qs ih =>
    intro acc p h
    rcases ih _ p h with h | ⟨q₁, hq₁, he⟩
    · rcases mem_setField h with h | h
      · exact .inl h
      · exact .inr ⟨q, List.mem_cons_self _ _, h.symm⟩
    · exact .inr ⟨q₁, List.mem_cons_of_mem _ hq₁, he⟩

theorem foldl_setField_of_nodup (members : List (String × JsValue)) :
    ∀ acc : List (String × JsValue), ((acc ++ members).map (·.1)).Nodup → InKeyOrder (acc ++ members) →
      members.foldl (fun acc p => setField acc p.1 p.2) acc = acc ++ members := by
  induction members with
  | nil => simp
  | cons p ps ih =>
    intro acc h ho
    have hp : p.1 ∉ acc.map (·.1) := by
      simp only [List.map_append, List.map_cons, List.nodup_append, List.nodup_cons] at h
      exact fun hm => h.2.2 hm (List.mem_cons_self _ _)
    have hq : ∀ q ∈ acc, keyPrecedes q.1 p.1 = true := fun q hq =>
      (List.pairwise_append.1 ho).2.2 q hq p (List.mem_cons_self _ _)
    rw [List.foldl_cons, setField_of_fresh hp, addProperty_of_precedes hq,
      ih _ (by simpa using h) (by simpa using ho)]
    simp

theorem field_setField_self (fields : List (String × JsValue)) (key : String) (v : JsValue) :
    JsValue.field (setField fields key v) key = some v := by
  unfold setField
  split_ifs with h
  · unfold JsValue.field
    obtain ⟨q, hq, hk⟩ := List.any_eq_true.1 h
    have hfind : (fields.find? (·.1 == key)).isSome := List.find?_isSome.2 ⟨q, hq, hk⟩
    obtain ⟨r, hr⟩ := Option.isSome_iff_exists.1 hfind
    have hrk : r.1 = key := by simpa using List.find?_some hr
    have : ((fun p : String × JsValue => p.1 == key) ∘ fun p => if (p.1 == key) = true then (p.1, v) else p) =
        fun p => p.1 == key := by
      funext p; simp only [Function.comp]; split_ifs <;> rfl
    rw [List.find?_map, this, hr]
    simp [hrk]
  · rw [field_addProperty (not_mem_keys_of_any h), if_pos rfl]

theorem field_setField_ne (fields : List (String × JsValue)) {key k : String} (h : k ≠ key)
    (v : JsValue) : JsValue.field (setField fields key v) k = JsValue.field fields k := by
  unfold setField
  split_ifs with hk
  · unfold JsValue.field
    rw [List.find?_map]
    have : ((fun p : String × JsValue => p.1 == k) ∘ fun p => if (p.1 == key) = true then (p.1, v) else p) =
        fun p => p.1 == k := by
      funext p; simp only [Function.comp]; split_ifs <;> rfl
    rw [this, Option.map_map]
    cases hr : fields.find? (·.1 == k) with
    | none => rfl
    | some r =>
      have hrk : r.1 = k := by simpa using List.find?_some hr
      simp [hrk, h]
  · rw [field_addProperty (not_mem_keys_of_any hk), if_neg h]

/-- An object whose names are distinct and in property order merges to itself. -/
theorem mergeFields_of_ordered {members : List (String × JsValue)} (h : (members.map (·.1)).Nodup)
    (ho : InKeyOrder members) : mergeFields members = members :=
  foldl_setField_of_nodup members [] h ho

example : mergeFields [("b", .null), ("10", .null), ("2", .null), ("01", .null), ("b", .bool true)] =
    [("2", .null), ("10", .null), ("b", .bool true), ("01", .null)] := by
  decide

/-! ## What `JSON.parse` builds

No object with a name twice, and no number but those `parseNumber` gives (`JsNumber.parsed`).
-/

mutual
/-- No object of the value has a name twice or lists its names out of property order, and
every number of it passes `ok`. -/
def JsValue.wf (ok : JsNumber → Bool) : JsValue → Bool
  | .number n => ok n
  | .array xs => JsValue.wfList ok xs
  | .object fs => decide (fs.map (·.1)).Nodup && decide (InKeyOrder fs) && JsValue.wfFields ok fs
  | _ => true
def JsValue.wfList (ok : JsNumber → Bool) : List JsValue → Bool
  | [] => true
  | x :: xs => x.wf ok && JsValue.wfList ok xs
def JsValue.wfFields (ok : JsNumber → Bool) : List (String × JsValue) → Bool
  | [] => true
  | (_, v) :: fs => v.wf ok && JsValue.wfFields ok fs
end

theorem wfFields_iff {ok : JsNumber → Bool} {fields : List (String × JsValue)} :
    JsValue.wfFields ok fields = true ↔ ∀ p ∈ fields, p.2.wf ok = true := by
  induction fields with
  | nil => simp [JsValue.wfFields]
  | cons p ps ih => obtain ⟨k, v⟩ := p; simp [JsValue.wfFields, ih]

theorem wf_mergeFields {ok : JsNumber → Bool} {members : List (String × JsValue)}
    (h : JsValue.wfFields ok members = true) : (JsValue.object (mergeFields members)).wf ok = true := by
  simp only [JsValue.wf, Bool.and_eq_true, decide_eq_true_eq, wfFields_iff]
  refine ⟨⟨foldl_setField_nodup members [] List.nodup_nil,
    foldl_setField_inKeyOrder members [] List.Pairwise.nil⟩, fun p hp => ?_⟩
  rcases mem_foldl_setField members [] p hp with h₁ | ⟨q, hq, he⟩
  · cases h₁
  · exact he ▸ wfFields_iff.1 h q hq

theorem wf_setField {ok : JsNumber → Bool} {fields : List (String × JsValue)}
    (h : (JsValue.object fields).wf ok) {v : JsValue} (hv : v.wf ok) (key : String) :
    (JsValue.object (setField fields key v)).wf ok := by
  simp only [JsValue.wf, Bool.and_eq_true, decide_eq_true_eq, wfFields_iff] at h ⊢
  refine ⟨⟨keys_setField_nodup h.1.1 key v, inKeyOrder_setField h.1.2 key v⟩, fun p hp => ?_⟩
  rcases mem_setField hp with hp | hp
  · exact h.2 p hp
  · exact hp ▸ hv

theorem wf_field {ok : JsNumber → Bool} {fields : List (String × JsValue)}
    (h : (JsValue.object fields).wf ok) {key : String} {v : JsValue}
    (hv : JsValue.field fields key = some v) : v.wf ok := by
  simp only [JsValue.wf, Bool.and_eq_true, wfFields_iff] at h
  obtain ⟨q, hq, rfl⟩ := Option.map_eq_some'.1 hv
  exact h.2 q (List.mem_of_find?_eq_some hq)

mutual
theorem wf_and {p q : JsNumber → Bool} :
    ∀ v : JsValue, v.wf p → v.wf q → v.wf (fun n => p n && q n)
  | .null, _, _ | .bool _, _, _ | .string _, _, _ => rfl
  | .number n, hp, hq => by simp_all [JsValue.wf]
  | .array xs, hp, hq => wfList_and xs hp hq
  | .object fs, hp, hq => by
    simp only [JsValue.wf, Bool.and_eq_true] at hp hq ⊢
    exact ⟨hp.1, wfFields_and fs hp.2 hq.2⟩
theorem wfList_and {p q : JsNumber → Bool} :
    ∀ xs : List JsValue, JsValue.wfList p xs → JsValue.wfList q xs →
      JsValue.wfList (fun n => p n && q n) xs
  | [], _, _ => rfl
  | x :: xs, hp, hq => by
    simp only [JsValue.wfList, Bool.and_eq_true] at hp hq ⊢
    exact ⟨wf_and x hp.1 hq.1, wfList_and xs hp.2 hq.2⟩
theorem wfFields_and {p q : JsNumber → Bool} :
    ∀ fs : List (String × JsValue), JsValue.wfFields p fs → JsValue.wfFields q fs →
      JsValue.wfFields (fun n => p n && q n) fs
  | [], _, _ => rfl
  | (_, v) :: fs, hp, hq => by
    simp only [JsValue.wfFields, Bool.and_eq_true] at hp hq ⊢
    exact ⟨wf_and v hp.1 hq.1, wfFields_and fs hp.2 hq.2⟩
end

/-- Each of the three parsers gives only what `JSON.parse` builds. -/
theorem parse_wf (fuel : Nat) :
    (∀ cs v r, parseValue fuel cs = some (v, r) → v.wf JsNumber.parsed) ∧
    (∀ cs xs r, parseElements fuel cs = some (xs, r) → JsValue.wfList JsNumber.parsed xs) ∧
    (∀ cs ms r, parseMembers fuel cs = some (ms, r) → JsValue.wfFields JsNumber.parsed ms) := by
  induction fuel with
  | zero => exact ⟨by simp [parseValue], by simp [parseElements], by simp [parseMembers]⟩
  | succ fuel ih =>
    obtain ⟨ihv, ihe, ihm⟩ := ih
    refine ⟨fun cs v r h => ?_, fun cs xs r h => ?_, fun cs ms r h => ?_⟩
    · match cs with
      | [] => simp [parseValue] at h
      | c :: cs =>
        rw [parseValue] at h
        by_cases h₁ : c = 'n'
        · rw [if_pos h₁] at h; obtain ⟨_, -, ⟨⟩⟩ := Option.map_eq_some'.1 h; rfl
        rw [if_neg h₁] at h
        by_cases h₂ : c = 't'
        · rw [if_pos h₂] at h; obtain ⟨_, -, ⟨⟩⟩ := Option.map_eq_some'.1 h; rfl
        rw [if_neg h₂] at h
        by_cases h₃ : c = 'f'
        · rw [if_pos h₃] at h; obtain ⟨_, -, ⟨⟩⟩ := Option.map_eq_some'.1 h; rfl
        rw [if_neg h₃] at h
        by_cases h₄ : c = '"'
        · rw [if_pos h₄] at h; obtain ⟨_, -, ⟨⟩⟩ := Option.map_eq_some'.1 h; rfl
        rw [if_neg h₄] at h
        by_cases h₅ : c = '['
        · rw [if_pos h₅] at h
          split at h
          · split at h
            · cases h; rfl
            · obtain ⟨_, hxs, ⟨⟩⟩ := Option.map_eq_some'.1 h
              exact ihe _ _ _ hxs
          · cases h
        rw [if_neg h₅] at h
        by_cases h₆ : c = '\x7b'
        · rw [if_pos h₆] at h
          split at h
          · split at h
            · cases h; rfl
            · obtain ⟨_, hms, ⟨⟩⟩ := Option.map_eq_some'.1 h
              exact wf_mergeFields (ihm _ _ _ hms)
          · cases h
        rw [if_neg h₆] at h
        obtain ⟨_, hn, ⟨⟩⟩ := Option.map_eq_some'.1 h
        exact parseNumber_parsed hn
    · obtain ⟨⟨v, r₁⟩, hv, h⟩ := Option.bind_eq_some.1 h
      dsimp only at h
      split at h
      · split_ifs at h
        · obtain ⟨_, hvs, ⟨⟩⟩ := Option.map_eq_some'.1 h
          simp [JsValue.wfList, ihv _ _ _ hv, ihe _ _ _ hvs]
        · cases h; simp [JsValue.wfList, ihv _ _ _ hv]
      · cases h
    · match cs with
      | [] => simp [parseMembers] at h
      | c :: cs =>
        rw [parseMembers] at h
        by_cases hq : c = '"'
        swap; · rw [if_neg hq] at h; cases h
        rw [if_pos hq] at h
        obtain ⟨⟨k, r₁⟩, -, h⟩ := Option.bind_eq_some.1 h
        dsimp only at h
        split at h
        next d r₂ _ =>
          by_cases hc : d = ':'
          swap; · rw [if_neg hc] at h; cases h
          rw [if_pos hc] at h
          obtain ⟨⟨v, r₃⟩, hv, h⟩ := Option.bind_eq_some.1 h
          dsimp only at h
          split at h
          next e r₄ _ =>
            by_cases he : e = ','
            · rw [if_pos he] at h
              obtain ⟨_, hms, ⟨⟩⟩ := Option.map_eq_some'.1 h
              simp [JsValue.wfFields, ihv _ _ _ hv, ihm _ _ _ hms]
            rw [if_neg he] at h
            split_ifs at h
            cases h; simp [JsValue.wfFields, ihv _ _ _ hv]
          next => cases h
        next => cases h

/-- `JSON.parse` builds no object with a name twice and no number but those it reads. -/
theorem jsonParse_wf {text : String} {v : JsValue} (h : jsonParse text = some v) :
    v.wf JsNumber.parsed := by
  unfold jsonParse at h
  split at h
  · split_ifs at h
    cases h
    exact (parse_wf _).1 _ _ _ ‹_›
  · cases h

end CodexBridge
