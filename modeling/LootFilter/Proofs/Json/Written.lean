import LootFilter.Proofs.Json.Token

/-!
# Written Texts

A value that is written without white space is read again as it was. Reading
gives a fragment, so the statement is that the fragment has no defect and is the
value seen as one, and that nothing behind the value was touched.

The reader is bounded by a number that falls with every value, item and member
that it enters. Each of them has a character at least, so the length of the text
is enough, and the induction carries this along: a value asks for more than its
own length, items and members for one more than that, because a last item is
entered twice.

Doubles are left out. Their digits are read back by other rules than they were
written by, and what is written of rules holds no doubles.

## Main definitions

* `Json.IsWhole`: All numbers of a value are integers of 64 bits.

## Theorems

* `Json.isWhole_array_iff`: The items of an array are looked at one by one.
* `Fragment.value_compactChars`: A written value is read as itself.
* `Fragment.ofText_compact`: So is the whole text of it.
-/

namespace LootFilter

/-- White space does not start a number. -/
theorem Fragment.isSpace_eq_false {c : Char} (h : c = '-' ∨ c.isDigit = true) :
    isSpace c = false := by
  rw [Bool.eq_false_iff]
  intro hspace
  simp only [isSpace, Bool.or_eq_true, beq_iff_eq] at hspace
  rcases hspace with ((rfl | rfl) | rfl) | rfl
  all_goals exact absurd h (by decide)

namespace Json

mutual

/-- All numbers of the value are integers of 64 bits. -/
def IsWhole : Json → Prop
  | .null => True
  | .bool _ => True
  | .number n => n.IsWhole
  | .string _ => True
  | .array items => IsWholeItems items
  | .object members => IsWholeMembers members

/-- All numbers of the items are integers of 64 bits. -/
def IsWholeItems : List Json → Prop
  | [] => True
  | j :: rest => IsWhole j ∧ IsWholeItems rest

/-- All numbers of the members are integers of 64 bits. -/
def IsWholeMembers : List (String × Json) → Prop
  | [] => True
  | (_, j) :: rest => IsWhole j ∧ IsWholeMembers rest

end

/-- The items of an array are looked at one by one. -/
theorem isWhole_array_iff (items : List Json) :
    IsWhole (.array items) ↔ ∀ j ∈ items, IsWhole j := by
  rw [IsWhole]
  induction items with
  | nil => simp [IsWholeItems]
  | cons j rest ih => rw [IsWholeItems, List.forall_mem_cons, ih]

/-- The members of an object are looked at one by one. -/
theorem isWhole_object_iff (members : List (String × Json)) :
    IsWhole (.object members) ↔ ∀ m ∈ members, IsWhole m.2 := by
  rw [IsWhole]
  induction members with
  | nil => simp [IsWholeMembers]
  | cons m rest ih => rw [IsWholeMembers, List.forall_mem_cons, ih]

/-- An integer starts with a minus or with a digit. -/
theorem exists_intChars_eq_cons (n : Int) :
    ∃ c cs, intChars n = c :: cs ∧ (c = '-' ∨ c.isDigit = true) := by
  rw [intChars]
  by_cases hn : n < 0
  · rw [if_pos hn]
    exact ⟨'-', _, rfl, Or.inl rfl⟩
  · rw [if_neg hn]
    rcases NumberToken.exists_toDigits_eq_cons n.natAbs with ⟨d, ds, hdigits, hd⟩
    exact ⟨d, ds, hdigits, Or.inr hd⟩

/-- A written value does not start with white space and not with a bracket that
    closes an array. -/
theorem exists_compactChars_eq_cons (j : Json) (h : j.IsWhole) :
    ∃ c cs, compactChars j = c :: cs ∧ Fragment.isSpace c = false ∧ c ≠ ']' := by
  cases j with
  | null => exact ⟨'n', _, rfl, by decide, by decide⟩
  | bool b =>
      cases b with
      | true => exact ⟨'t', _, rfl, by decide, by decide⟩
      | false => exact ⟨'f', _, rfl, by decide, by decide⟩
  | number n =>
      cases n with
      | int n =>
          rcases exists_intChars_eq_cons n with ⟨c, cs, hcs, hc⟩
          refine ⟨c, cs, by rw [compactChars, numberChars, hcs], Fragment.isSpace_eq_false hc, ?_⟩
          rintro rfl
          exact absurd hc (by decide)
      | float x => exact (h : (Number.float x).IsWhole).elim
  | string s => exact ⟨'"', _, rfl, by decide, by decide⟩
  | array items => exact ⟨'[', _, by rw [compactChars, List.cons_append], by decide, by decide⟩
  | object members => exact ⟨'{', _, by rw [compactChars, List.cons_append], by decide, by decide⟩

/-- Items behind the first one are set off by a comma. -/
theorem compactItems_cons_cons (j k : Json) (more : List Json) :
    compactItems (j :: k :: more) = compactChars j ++ ',' :: compactItems (k :: more) := by
  rw [compactItems]
  exact List.cons_ne_nil k more

/-- Members behind the first one are set off by a comma. -/
theorem compactMembers_cons_cons (k : String) (v : Json) (m : String × Json)
    (more : List (String × Json)) : compactMembers ((k, v) :: m :: more) =
      stringChars k ++ ':' :: (compactChars v ++ ',' :: compactMembers (m :: more)) := by
  rw [compactMembers, List.append_assoc, List.cons_append]
  exact List.cons_ne_nil m more

/-- Written items start as the first one does. -/
theorem exists_compactItems_eq_cons (j : Json) (more : List Json) (h : j.IsWhole) :
    ∃ c cs, compactItems (j :: more) = c :: cs ∧ Fragment.isSpace c = false ∧ c ≠ ']' := by
  rcases exists_compactChars_eq_cons j h with ⟨c, cs, hcs, hspace, hc⟩
  cases more with
  | nil => exact ⟨c, cs, by rw [compactItems, hcs], hspace, hc⟩
  | cons k more => exact ⟨c, _, by rw [compactItems_cons_cons, hcs, List.cons_append], hspace, hc⟩

/-- Written members start with the quote of a key. -/
theorem exists_compactMembers_eq_cons (m : String × Json) (more : List (String × Json)) :
    ∃ cs, compactMembers (m :: more) = '"' :: cs := by
  cases more with
  | nil => exact ⟨_, by rw [compactMembers, stringChars, List.cons_append, List.cons_append]⟩
  | cons l more => exact ⟨_, by rw [compactMembers_cons_cons, stringChars, List.cons_append,
      List.cons_append]⟩

end Json

namespace Fragment

/-- Where no white space stands there is none to skip. -/
theorem skipSpace_cons {c : Char} (h : isSpace c = false) (cs : List Char) :
    skipSpace (c :: cs) = c :: cs := by
  rw [skipSpace, List.dropWhile_cons_of_neg]
  rw [h]
  exact Bool.false_ne_true

/-! ## Single steps -/

/-- A minus or a digit starts a number. -/
theorem value_number (fuel : Nat) {c : Char} (h : c = '-' ∨ c.isDigit = true) (cs : List Char) :
    value (fuel + 1) (c :: cs) = numberValue (c :: cs) := by
  have hne : ∀ d ∈ ['n', 't', 'f', '"', '[', '{'], c ≠ d := by
    rintro d hd rfl
    simp only [List.mem_cons, List.not_mem_nil, or_false] at hd
    rcases hd with rfl | rfl | rfl | rfl | rfl | rfl
    all_goals exact absurd h (by decide)
  rw [value, skipSpace_cons (isSpace_eq_false h)]
  split
  all_goals first
    | rfl
    | rename_i heq
      exact absurd (List.cons.inj heq).1 (hne _ (by decide))

/-- A quote starts a string. -/
theorem value_string (fuel : Nat) (cs : List Char) :
    value (fuel + 1) ('"' :: cs) = stringValue cs := by
  rw [value, skipSpace_cons (by decide)]
  rfl

/-- An opening bracket is followed by the items, unless it is closed at once. -/
theorem value_array (fuel : Nat) {c : Char} {cs more : List Char} (h : skipSpace cs = c :: more)
    (hc : c ≠ ']') : value (fuel + 1) ('[' :: cs) =
      (.array (items fuel (c :: more)).1.1 (items fuel (c :: more)).1.2,
        (items fuel (c :: more)).2) := by
  rw [value, skipSpace_cons (by decide)]
  simp only [h]
  split
  · rename_i heq
    exact absurd (List.cons.inj heq).1 hc
  · rfl

/-- An opening brace is followed by the members, unless it is closed at once. -/
theorem value_object (fuel : Nat) {c : Char} {cs more : List Char} (h : skipSpace cs = c :: more)
    (hc : c ≠ '}') : value (fuel + 1) ('{' :: cs) =
      (.object (members fuel (c :: more)).1.1 (members fuel (c :: more)).1.2,
        (members fuel (c :: more)).2) := by
  rw [value, skipSpace_cons (by decide)]
  simp only [h]
  split
  · rename_i heq
    exact absurd (List.cons.inj heq).1 hc
  · rfl

section Steps

variable {fuel : Nat} {cs inner behind rest : List Char} {s : Option String} {f : Fragment}
  {end? : Option (List Char)}

/-- A bracket behind an item closes the array. -/
theorem items_last (h : value fuel cs = (f, some behind))
    (hclose : skipSpace behind = ']' :: rest) :
    items (fuel + 1) cs = (([f], true), some rest) := by
  rw [items, h]
  simp only [hclose]

/-- A comma behind an item is followed by more items. -/
theorem items_more (h : value fuel cs = (f, some behind)) (hcomma : skipSpace behind = ',' :: rest)
    {fs : List Fragment} (hmore : items fuel rest = ((fs, true), end?)) :
    items (fuel + 1) cs = ((f :: fs, true), end?) := by
  rw [items, h]
  simp only [hcomma, hmore]

/-- A brace behind a member closes the object. -/
theorem members_last {colon : List Char} (hkey : value fuel cs = (.string s, some colon))
    (hcolon : skipSpace colon = ':' :: inner) (h : value fuel inner = (f, some behind))
    (hclose : skipSpace behind = '}' :: rest) :
    members (fuel + 1) cs = (([(.string s, f)], true), some rest) := by
  rw [members, hkey]
  simp only [hcolon, h, hclose]

/-- A comma behind a member is followed by more members. -/
theorem members_more {colon : List Char} (hkey : value fuel cs = (.string s, some colon))
    (hcolon : skipSpace colon = ':' :: inner) (h : value fuel inner = (f, some behind))
    (hcomma : skipSpace behind = ',' :: rest) {fs : List (Fragment × Fragment)}
    (hmore : members fuel rest = ((fs, true), end?)) :
    members (fuel + 1) cs = (((.string s, f) :: fs, true), end?) := by
  rw [members, hkey]
  simp only [hcolon, h, hcomma, hmore]

end Steps

/-- A written string is read as itself, as a value or as a key. -/
theorem value_stringChars (fuel : Nat) (s : String) (rest : List Char) :
    value (fuel + 1) (Json.stringChars s ++ rest) = (.string (some s), some rest) := by
  rw [Json.stringChars, List.cons_append, List.cons_append, List.append_assoc, value_string]
  exact stringValue_escaped s rest

/-! ## Whole values -/

mutual

/-- A written value is read as itself, and what follows it is left. -/
theorem value_compactChars (j : Json) (hj : j.IsWhole) (fuel : Nat)
    (hfuel : (Json.compactChars j).length < fuel) {rest : List Char} (hrest : EndsNumber rest) :
    value fuel (Json.compactChars j ++ rest) = (ofJson j, some rest) := by
  match fuel, hfuel with
  | fuel + 1, hfuel =>
    match j with
    | .null => rfl
    | .bool true => rfl
    | .bool false => rfl
    | .number (.int n) =>
        have hnumber := numberValue_numberChars (.int n) hj hrest
        rcases Json.exists_intChars_eq_cons n with ⟨c, cs, hcs, hc⟩
        rw [Json.numberChars, hcs] at hnumber
        rw [Json.compactChars, Json.numberChars, hcs, ofJson]
        exact (value_number fuel hc (cs ++ rest)).trans hnumber
    | .number (.float x) => exact (hj : (Json.Number.float x).IsWhole).elim
    | .string s => exact value_stringChars fuel s rest
    | .array [] => rfl
    | .array (k :: more) =>
        rw [Json.IsWhole] at hj
        rcases Json.exists_compactItems_eq_cons k more hj.1 with ⟨c, cs, hcs, hspace, hc⟩
        rw [Json.compactChars, List.length_append, List.length_cons, List.length_singleton] at hfuel
        have hitems := items_compactItems k more hj fuel (by omega) rest
        rw [hcs, List.cons_append] at hitems
        rw [Json.compactChars, hcs, List.append_assoc, List.cons_append, List.cons_append,
          List.singleton_append, value_array fuel (skipSpace_cons hspace _) hc, hitems, ofJson]
    | .object [] => rfl
    | .object (m :: more) =>
        rw [Json.IsWhole] at hj
        rcases Json.exists_compactMembers_eq_cons m more with ⟨cs, hcs⟩
        rw [Json.compactChars, List.length_append, List.length_cons, List.length_singleton] at hfuel
        have hmembers := members_compactMembers m more hj fuel (by omega) rest
        rw [hcs, List.cons_append] at hmembers
        rw [Json.compactChars, hcs, List.append_assoc, List.cons_append, List.cons_append,
          List.singleton_append, value_object fuel (skipSpace_cons (by decide) _) (by decide),
          hmembers, ofJson]

/-- Written items are read as themselves up to the bracket behind them. -/
theorem items_compactItems (j : Json) (more : List Json) (hj : Json.IsWholeItems (j :: more))
    (fuel : Nat) (hfuel : (Json.compactItems (j :: more)).length + 1 < fuel) (rest : List Char) :
    items fuel (Json.compactItems (j :: more) ++ ']' :: rest) =
      ((ofItems (j :: more), true), some rest) := by
  match fuel, hfuel with
  | fuel + 1, hfuel =>
    match more with
    | [] =>
        rw [Json.compactItems] at hfuel ⊢
        exact items_last (value_compactChars j hj.1 fuel (by omega)
          (endsNumber_cons (by decide) rest)) (skipSpace_cons (by decide) rest)
    | k :: more =>
        rw [Json.compactItems_cons_cons, List.length_append, List.length_cons] at hfuel
        rw [Json.compactItems_cons_cons, List.append_assoc, List.cons_append]
        exact items_more (value_compactChars j hj.1 fuel (by omega)
          (endsNumber_cons (by decide) _)) (skipSpace_cons (by decide) _)
          (items_compactItems k more hj.2 fuel (by omega) rest)

/-- Written members are read as themselves up to the brace behind them. -/
theorem members_compactMembers (m : String × Json) (more : List (String × Json))
    (hj : Json.IsWholeMembers (m :: more)) (fuel : Nat)
    (hfuel : (Json.compactMembers (m :: more)).length + 1 < fuel) (rest : List Char) :
    members fuel (Json.compactMembers (m :: more) ++ '}' :: rest) =
      ((ofMembers (m :: more), true), some rest) := by
  match fuel, hfuel with
  | fuel + 2, hfuel =>
    match m, more with
    | (k, v), [] =>
        rw [Json.compactMembers, List.length_append, List.length_cons] at hfuel
        rw [Json.compactMembers, List.append_assoc, List.cons_append]
        exact members_last (value_stringChars fuel k _) (skipSpace_cons (by decide) _)
          (value_compactChars v hj.1 (fuel + 1) (by omega) (endsNumber_cons (by decide) rest))
          (skipSpace_cons (by decide) rest)
    | (k, v), l :: more =>
        rw [Json.compactMembers_cons_cons, List.length_append, List.length_cons,
          List.length_append, List.length_cons] at hfuel
        rw [Json.compactMembers_cons_cons, List.append_assoc, List.cons_append, List.append_assoc,
          List.cons_append]
        exact members_more (value_stringChars fuel k _) (skipSpace_cons (by decide) _)
          (value_compactChars v hj.1 (fuel + 1) (by omega) (endsNumber_cons (by decide) _))
          (skipSpace_cons (by decide) _)
          (members_compactMembers l more hj.2 (fuel + 1) (by omega) rest)

end

/-- The whole text of a value is read as the value, and nothing follows it. -/
theorem ofText_compact (j : Json) (hj : j.IsWhole) : ofText j.compact = (ofJson j, true) := by
  have hvalue := value_compactChars j hj ((Json.compactChars j).length + 1) (Nat.lt_succ_self _)
    endsNumber_nil
  rw [List.append_nil] at hvalue
  rw [ofText, Json.compact, String.toList_ofList, hvalue]
  rfl

/-- A text as which a value would be written is read as the value. -/
theorem ofText_of_compact_eq {j : Json} {text : String} (hj : j.IsWhole)
    (htext : j.compact = text) : ofText text = (ofJson j, true) := by
  rw [← htext]
  exact ofText_compact j hj

end Fragment

end LootFilter
