import CodexBridge.Js.Json

/-!
# `JSON.stringify(value, null, 2)`

What `writeJsonFile` writes: ECMA-262's `SerializeJSONProperty` with a gap of two spaces. An
empty array or object is `[]` or `{}`; any other puts each element or member on its own line,
indented one gap deeper than the bracket, a member as its quoted name, `": "` and its value.
`QuoteJSONString` escapes the quote, the backslash and the control characters, with the short
forms where there are some and `\u00xx` (lower-case hexadecimal) elsewhere. A finite number is
written as `Number::toString` writes it; `Infinity`, `-Infinity` and `NaN` become `null`.

**Theorem (`jsonParse_stringify`).** `JSON.parse` reads back every value whose numbers are
finite and whose objects have no name twice and list their names in property order, with the
line feed `writeJsonFile` adds after it.
-/

namespace CodexBridge

/-- A lower-case hexadecimal digit. -/
def hexDigit (d : Nat) : Char := "0123456789abcdef".toList.getD d '0'

/-- One character of `QuoteJSONString`. -/
def quoteChar (c : Char) : List Char :=
  match c with
  | '\x08' => ['\\', 'b']
  | '\t' => ['\\', 't']
  | '\n' => ['\\', 'n']
  | '\x0C' => ['\\', 'f']
  | '\r' => ['\\', 'r']
  | '"' => ['\\', '"']
  | '\\' => ['\\', '\\']
  | c => if c.toNat < 0x20 then ['\\', 'u', '0', '0', hexDigit (c.toNat / 16), hexDigit (c.toNat % 16)]
    else [c]

/-- `QuoteJSONString`. -/
def quoteJson (cs : List Char) : List Char := '"' :: cs.flatMap quoteChar ++ ['"']

/-- A number in JSON text: `ToString` of a finite one, `null` otherwise. -/
def numberJson : JsNumber → List Char
  | .finite d => d.toChars
  | _ => "null".toList

/-- The gap `JSON.stringify(value, null, 2)` indents by. -/
def gap : List Char := [' ', ' ']

mutual
/-- `SerializeJSONProperty` of a value, `indent` being the current indentation. -/
def serValue (indent : List Char) : JsValue → List Char
  | .null => "null".toList
  | .bool true => "true".toList
  | .bool false => "false".toList
  | .number n => numberJson n
  | .string s => quoteJson s.toList
  | .array [] => ['[', ']']
  | .array (x :: xs) =>
    '[' :: '\n' :: (indent ++ gap) ++ serValue (indent ++ gap) x ++ serElements (indent ++ gap) xs ++
      '\n' :: indent ++ [']']
  | .object [] => ['{', '}']
  | .object ((k, v) :: ms) =>
    '{' :: '\n' :: (indent ++ gap) ++ quoteJson k.toList ++ ':' :: ' ' :: serValue (indent ++ gap) v ++
      serMembers (indent ++ gap) ms ++ '\n' :: indent ++ ['}']
/-- The elements after the first, each after `",\n"` and the indentation. -/
def serElements (indent : List Char) : List JsValue → List Char
  | [] => []
  | x :: xs => ',' :: '\n' :: indent ++ serValue indent x ++ serElements indent xs
/-- The members after the first. -/
def serMembers (indent : List Char) : List (String × JsValue) → List Char
  | [] => []
  | (k, v) :: ms =>
    ',' :: '\n' :: indent ++ quoteJson k.toList ++ ':' :: ' ' :: serValue indent v ++ serMembers indent ms
end

/-- `JSON.stringify(value, null, 2)`. -/
def stringify (v : JsValue) : List Char := serValue [] v

/-- A value `JSON.stringify` writes out as it is: its numbers finite, in the double range, and
no name twice in one of its objects, whose names are in property order. -/
def JsValue.serializable (v : JsValue) : Bool := v.wf JsNumber.printable

/-- What `JSON.parse` built is written as it is when its numbers are finite. -/
theorem serializable_of_parsed {v : JsValue} (hp : v.wf JsNumber.parsed) (hf : v.wf JsNumber.isFinite) :
    v.serializable := by
  have h : JsNumber.printable = fun n => n.parsed && n.isFinite :=
    funext JsNumber.printable_eq_parsed_and_isFinite
  rw [JsValue.serializable, h]
  exact wf_and v hp hf

/-! ## Reading a quoted string back -/

theorem hexVal_hexDigit : ∀ d, d < 16 → hexVal (hexDigit d) = some d := by
  decide

theorem parseStringBody_control {c : Char} (hc : c.toNat < 0x20) (rest : List Char) :
    parseStringBody ('\\' :: 'u' :: '0' :: '0' :: hexDigit (c.toNat / 16) :: hexDigit (c.toNat % 16) :: rest) =
      (parseStringBody rest).map fun (s, r) => (c :: s, r) := by
  have hu : 16 * (c.toNat / 16) + c.toNat % 16 = c.toNat := Nat.div_add_mod _ _
  have hch : unitChar c.toNat = some c := by
    simp [unitChar, show c.toNat < 0xD800 by omega]
  simp [parseStringBody, lexString, hexVal_hexDigit _ (show c.toNat / 16 < 16 by omega),
    hexVal_hexDigit _ (show c.toNat % 16 < 16 by omega), show hexVal '0' = some 0 by decide, hu, hch,
    show ¬ 0xD800 ≤ c.toNat by omega]

theorem parseStringBody_escape {e : Char} (he : e ≠ 'u') (rest : List Char) :
    parseStringBody ('\\' :: e :: rest) =
      (simpleEscape e).bind fun ch => (parseStringBody rest).map fun (s, r) => (ch :: s, r) := by
  simp [parseStringBody, lexString, he]

theorem parseStringBody_plain {c : Char} (hq : c ≠ '"') (hb : c ≠ '\\') (hc : ¬ c.toNat < 0x20)
    (rest : List Char) :
    parseStringBody (c :: rest) = (parseStringBody rest).map fun (s, r) => (c :: s, r) := by
  simp [parseStringBody, lexString, hq, hb, hc]

theorem parseStringBody_quoteChar (c : Char) (rest : List Char) :
    parseStringBody (quoteChar c ++ rest) = (parseStringBody rest).map fun (s, r) => (c :: s, r) := by
  unfold quoteChar
  split
  any_goals exact parseStringBody_escape (by decide) rest
  split_ifs with hc
  · exact parseStringBody_control hc rest
  · exact parseStringBody_plain ‹_› ‹_› hc rest

theorem parseStringBody_quote (cs rest : List Char) :
    parseStringBody (cs.flatMap quoteChar ++ '"' :: rest) = some (cs, rest) := by
  induction cs with
  | nil => simp [parseStringBody, lexString]
  | cons c cs ih => rw [List.flatMap_cons, List.append_assoc, parseStringBody_quoteChar, ih]; rfl

/-! ## The first character of a value -/

/-- The characters a number's text starts with. -/
def numberStart : List Char := "-0123456789".toList

theorem digitChar_mem_numberStart : ∀ x, x < 10 → digitChar x ∈ numberStart := by
  decide

theorem toChars_cons (d : Decimal) : ∃ c cs, d.toChars = c :: cs ∧ c ∈ numberStart := by
  unfold Decimal.toChars
  split_ifs with h₀ hneg
  · exact ⟨'0', [], rfl, by decide⟩
  · exact ⟨'-', _, rfl, by decide⟩
  · obtain ⟨x, xs, hds⟩ := List.exists_cons_of_ne_nil (decimalDigits_ne_nil d.mantissa.natAbs)
    have hx : digitChar x ∈ numberStart :=
      digitChar_mem_numberStart x ((digitsOf_decimalDigits d.mantissa.natAbs).lt_ten x
        (by rw [hds]; exact List.mem_cons_self _ _))
    rw [List.nil_append, hds, magnitudeChars]
    generalize ((x :: xs).length : Int) + d.exponent = n
    by_cases h₁ : ((x :: xs).length : Int) ≤ n ∧ n ≤ 21
    · rw [if_pos h₁]; exact ⟨_, _, rfl, hx⟩
    rw [if_neg h₁]
    by_cases h₂ : 0 < n ∧ n ≤ 21
    · rw [if_pos h₂]
      obtain ⟨k, hk⟩ : ∃ k, n.toNat = k + 1 := ⟨_, (Nat.succ_pred_eq_of_pos (by omega)).symm⟩
      exact ⟨_, _, by rw [hk]; rfl, hx⟩
    rw [if_neg h₂]
    by_cases h₃ : -6 < n ∧ n ≤ 0
    · rw [if_pos h₃]; exact ⟨_, _, rfl, by decide⟩
    · rw [if_neg h₃]; exact ⟨_, _, rfl, hx⟩

/-- The characters a serialized value can start with. -/
def valueStart : List Char := "nft\"[\x7b".toList ++ numberStart

theorem serValue_cons (ind : List Char) (v : JsValue) :
    ∃ c cs, serValue ind v = c :: cs ∧ c ∈ valueStart := by
  cases v with
  | number n =>
    cases n with
    | finite d =>
      obtain ⟨c, cs, h, hc⟩ := toChars_cons d
      exact ⟨c, cs, h, List.mem_append_right _ hc⟩
    | _ => exact ⟨_, _, rfl, by decide⟩
  | bool b => cases b <;> exact ⟨_, _, rfl, by decide⟩
  | array xs => cases xs <;> exact ⟨_, _, rfl, by decide⟩
  | object fs => cases fs <;> exact ⟨_, _, rfl, by decide⟩
  | _ => exact ⟨_, _, rfl, by decide⟩

theorem valueStart_facts : ∀ c ∈ valueStart,
    isJsonSpace c = false ∧ c ≠ ']' ∧ c ≠ '\x7d' := by
  decide

theorem numberStart_facts : ∀ c ∈ numberStart,
    c ≠ 'n' ∧ c ≠ 't' ∧ c ≠ 'f' ∧ c ≠ '"' ∧ c ≠ '[' ∧ c ≠ '\x7b' := by
  decide

/-! ## White space -/

/-- Indentation: white space only. -/
def Blank (ind : List Char) : Prop := ∀ c ∈ ind, isJsonSpace c = true

theorem Blank.indent {ind : List Char} (h : Blank ind) : Blank (ind ++ gap) := by
  simpa [Blank, gap, or_imp, forall_and, isJsonSpace] using h

theorem Blank.newline {ind : List Char} (h : Blank ind) : Blank ('\n' :: ind) := by
  simpa [Blank, isJsonSpace] using h

theorem skipWs_blank_append {ind : List Char} (h : Blank ind) (r : List Char) :
    skipWs (ind ++ r) = skipWs r := by
  induction ind with
  | nil => rfl
  | cons c cs ih =>
    simp only [Blank, List.mem_cons, forall_eq_or_imp] at h
    simp [skipWs, h.1, ih h.2]

theorem skipWs_newline_blank {ind : List Char} (h : Blank ind) (r : List Char) :
    skipWs ('\n' :: (ind ++ r)) = skipWs r :=
  skipWs_blank_append h.newline r

theorem skipWs_of_not_space {c : Char} (h : isJsonSpace c = false) (r : List Char) :
    skipWs (c :: r) = c :: r := by
  simp [skipWs, h]

theorem serValue_length_pos (ind : List Char) (v : JsValue) : 0 < (serValue ind v).length := by
  obtain ⟨c, cs, h, -⟩ := serValue_cons ind v
  simp [h]

theorem skipWs_serValue (ind : List Char) (v : JsValue) (r : List Char) :
    skipWs (serValue ind v ++ r) = serValue ind v ++ r := by
  obtain ⟨c, cs, h, hc⟩ := serValue_cons ind v
  rw [h, List.cons_append, skipWs_of_not_space (valueStart_facts c hc).1]

/-! ## The round trip -/

/-- What `parseValue fuel` reads back: a serialized value, followed by input that cannot
continue a number. -/
def ValueReads (fuel : Nat) : Prop :=
  ∀ ind v r, Blank ind → v.serializable → EndsNumber r → (serValue ind v).length ≤ fuel →
    parseValue fuel (serValue ind v ++ r) = some (v, r)

/-- What `parseElements fuel` reads back: the elements of a nonempty array and its closing
line. -/
def ElementsReads (fuel : Nat) : Prop :=
  ∀ ind ind₀ x xs r, Blank ind → Blank ind₀ → x.serializable → JsValue.wfList JsNumber.printable xs →
    (serValue ind x).length + (serElements ind xs).length < fuel →
    parseElements fuel (serValue ind x ++ (serElements ind xs ++ '\n' :: (ind₀ ++ ']' :: r))) =
      some (x :: xs, r)

/-- What `parseMembers fuel` reads back: the members of a nonempty object and its closing
line. -/
def MembersReads (fuel : Nat) : Prop :=
  ∀ ind ind₀ k v ms r, Blank ind → Blank ind₀ → v.serializable →
    JsValue.wfFields JsNumber.printable ms →
    (serValue ind v).length + (serMembers ind ms).length < fuel →
    parseMembers fuel ('"' :: (k.toList.flatMap quoteChar ++ '"' :: ':' :: ' ' ::
        (serValue ind v ++ (serMembers ind ms ++ '\n' :: (ind₀ ++ '\x7d' :: r))))) =
      some ((k, v) :: ms, r)

theorem endsNumber_serElements (ind : List Char) (xs : List JsValue) (rest : List Char) :
    EndsNumber (serElements ind xs ++ '\n' :: rest) := by
  cases xs <;> simp [serElements, EndsNumber]

theorem endsNumber_serMembers (ind : List Char) (ms : List (String × JsValue)) (rest : List Char) :
    EndsNumber (serMembers ind ms ++ '\n' :: rest) := by
  cases ms <;> simp [serMembers, EndsNumber]

theorem parseValue_open {fuel : Nat} {pre body : List Char} (hpre : Blank pre) {c : Char}
    {cs : List Char} (hb : body = c :: cs) (hc : c ∈ valueStart) :
    parseValue (fuel + 1) ('[' :: (pre ++ body)) =
        (parseElements fuel body).map (fun (xs, r) => (.array xs, r)) ∧
      parseValue (fuel + 1) ('\x7b' :: (pre ++ body)) =
        (parseMembers fuel body).map (fun (ms, r) => (.object (mergeFields ms), r)) := by
  obtain ⟨hs, hb₁, hb₂⟩ := valueStart_facts c hc
  subst hb
  simp [parseValue, skipWs_blank_append hpre, skipWs_of_not_space hs, hb₁, hb₂]

theorem valueReads_succ {fuel : Nat} (he : ElementsReads fuel) (hm : MembersReads fuel) :
    ValueReads (fuel + 1) := by
  intro ind v r hind hv hr hlen
  cases v with
  | null => rfl
  | bool b => cases b <;> rfl
  | number n =>
    cases n with
    | finite d =>
      obtain ⟨c, cs, hcs, hc⟩ := toChars_cons d
      have hd : d.InRange := by simpa [JsValue.serializable, JsValue.wf, JsNumber.printable] using hv
      have hn := parseNumber_toChars hd hr
      obtain ⟨h₁, h₂, h₃, h₄, h₅, h₆⟩ := numberStart_facts c hc
      rw [hcs, List.cons_append] at hn
      show parseValue (fuel + 1) (d.toChars ++ r) = _
      rw [hcs, List.cons_append]
      simp only [parseValue, if_neg h₁, if_neg h₂, if_neg h₃, if_neg h₄, if_neg h₅, if_neg h₆, hn]
      rfl
    | _ => simp [JsValue.serializable, JsValue.wf, JsNumber.printable] at hv
  | string s =>
    simp [serValue, quoteJson, parseValue, parseStringBody_quote]
  | array xs =>
    cases xs with
    | nil => simp [serValue, parseValue, skipWs, isJsonSpace]
    | cons x xs =>
      simp only [JsValue.serializable, JsValue.wf, JsValue.wfList, Bool.and_eq_true] at hv
      obtain ⟨hx, hxs⟩ := hv
      have htext : serValue ind (.array (x :: xs)) ++ r = '[' :: ('\n' :: (ind ++ gap) ++
          (serValue (ind ++ gap) x ++ (serElements (ind ++ gap) xs ++ '\n' :: (ind ++ ']' :: r)))) := by
        simp [serValue]
      obtain ⟨c, cs, hcs, hc⟩ := serValue_cons (ind ++ gap) x
      rw [htext, (parseValue_open hind.indent.newline (by rw [hcs]; rfl) hc).1,
        he _ _ x xs r hind.indent hind hx hxs (by simp [serValue] at hlen; omega)]
      rfl
  | object fs =>
    cases fs with
    | nil => simp [serValue, parseValue, skipWs, isJsonSpace]
    | cons m ms =>
      obtain ⟨k, v⟩ := m
      simp only [JsValue.serializable, JsValue.wf, JsValue.wfFields, Bool.and_eq_true,
        decide_eq_true_eq] at hv
      obtain ⟨⟨hnd, hord⟩, hv, hms⟩ := hv
      have htext : serValue ind (.object ((k, v) :: ms)) ++ r = '\x7b' :: ('\n' :: (ind ++ gap) ++
          ('"' :: (k.toList.flatMap quoteChar ++ '"' :: ':' :: ' ' :: (serValue (ind ++ gap) v ++
            (serMembers (ind ++ gap) ms ++ '\n' :: (ind ++ '\x7d' :: r)))))) := by
        simp [serValue, quoteJson]
      rw [htext, (parseValue_open hind.indent.newline rfl (by decide)).2,
        hm _ _ k v ms r hind.indent hind hv hms (by simp [serValue, quoteJson] at hlen; omega)]
      simp [mergeFields_of_ordered hnd hord]

theorem elementsReads_succ {fuel : Nat} (hv : ValueReads fuel) (he : ElementsReads fuel) :
    ElementsReads (fuel + 1) := by
  intro ind ind₀ x xs r hind hind₀ hx hxs hlen
  have hfirst := hv ind x _ hind hx (endsNumber_serElements ind xs (ind₀ ++ ']' :: r)) (by omega)
  simp only [parseElements, hfirst, Option.some_bind]
  cases xs with
  | nil => simp [serElements, skipWs_blank_append hind₀, skipWs, isJsonSpace]
  | cons y ys =>
    simp only [JsValue.wfList, Bool.and_eq_true] at hxs
    obtain ⟨hy, hys⟩ := hxs
    have hrest := he ind ind₀ y ys r hind hind₀ hy hys (by
      have := serValue_length_pos ind x
      simp [serElements] at hlen; omega)
    simp [serElements, skipWs, isJsonSpace, skipWs_blank_append hind, skipWs_serValue, hrest]

theorem membersReads_succ {fuel : Nat} (hv : ValueReads fuel) (hm : MembersReads fuel) :
    MembersReads (fuel + 1) := by
  intro ind ind₀ k v ms r hind hind₀ hvs hms hlen
  have hval := hv ind v _ hind hvs (endsNumber_serMembers ind ms (ind₀ ++ '\x7d' :: r)) (by omega)
  simp only [parseMembers, if_pos rfl, parseStringBody_quote, Option.some_bind]
  simp [skipWs, isJsonSpace, skipWs_serValue, hval, string_mk_toList]
  cases ms with
  | nil => simp [serMembers, skipWs_blank_append hind₀, skipWs, isJsonSpace]
  | cons m ms =>
    obtain ⟨k₁, v₁⟩ := m
    simp only [JsValue.wfFields, Bool.and_eq_true] at hms
    obtain ⟨hv₁, hms₁⟩ := hms
    have hrest := hm ind ind₀ k₁ v₁ ms r hind hind₀ hv₁ hms₁ (by
      have := serValue_length_pos ind v
      simp [serMembers, quoteJson] at hlen; omega)
    have htext : serMembers ind ((k₁, v₁) :: ms) ++ '\n' :: (ind₀ ++ '\x7d' :: r) = ',' :: '\n' :: (ind ++
        '"' :: (k₁.toList.flatMap quoteChar ++ '"' :: ':' :: ' ' :: (serValue ind v₁ ++
          (serMembers ind ms ++ '\n' :: (ind₀ ++ '\x7d' :: r))))) := by
      simp [serMembers, quoteJson]
    simp only [htext, skipWs_of_not_space (show isJsonSpace ',' = false from rfl), if_pos,
      skipWs_of_not_space (show isJsonSpace '"' = false from rfl),
      skipWs_newline_blank hind, hrest, Option.map_some']

/-- Every fuel reads back every text that fits in it. -/
theorem reads_all (fuel : Nat) : ValueReads fuel ∧ ElementsReads fuel ∧ MembersReads fuel := by
  induction fuel with
  | zero =>
    exact ⟨fun ind v _ _ _ _ h => absurd h (by have := serValue_length_pos ind v; omega),
      fun _ _ _ _ _ _ _ _ _ h => absurd h (Nat.not_lt_zero _),
      fun _ _ _ _ _ _ _ _ _ _ h => absurd h (Nat.not_lt_zero _)⟩
  | succ fuel ih =>
    exact ⟨valueReads_succ ih.2.1 ih.2.2, elementsReads_succ ih.1 ih.2.1, membersReads_succ ih.1 ih.2.2⟩

/-- **Round trip.** `JSON.parse` reads back the text `JSON.stringify(value, null, 2)` writes,
with a line feed after it, for every value whose numbers are finite and in range and whose
objects have no name twice and list their names in property order. -/
theorem jsonParse_stringify {v : JsValue} (hv : v.serializable) :
    jsonParse (String.mk (stringify v ++ ['\n'])) = some v := by
  have hread := (reads_all ((serValue [] v).length + 2)).1 [] v ['\n'] (by simp [Blank]) hv
    (by simp [EndsNumber]) (by omega)
  simp [jsonParse, stringify, skipWs_serValue, hread, skipWs, isJsonSpace]

end CodexBridge
