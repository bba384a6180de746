import LootFilter.Json.Writer

/-!
# What a Text Spells

A double that is not finite has no spelling in JSON, and `null` is written in its
place. So a written text does not always spell the value that it was written of. It
spells that value with every such double replaced, and the replaced value has the same
text. A value whose doubles are all finite is not changed by this.

The text is not read here. A double is spelled by decimal digits, and the reader of
numbers can end at a neighbour of the double that was written (`Json/Number`). So the
value that is spelled is not always the one that a reader of the text gets, and what is
said of it is said of the double before it is written.

## Main definitions

* `Json.spelled`: The value that the text of a value spells.
* `Json.IsSpellable`: A value that is spelled by its text.

## Theorems

* `Json.pretty_spelled`: The replaced value has the same text.
* `Json.isSpellable_object`: An object is looked at member by member.
-/

namespace LootFilter

namespace Json

mutual

/-- The value with `null` in place of every double that is not finite. -/
def spelled : Json → Json
  | .null => .null
  | .bool b => .bool b
  | .number (.int n) => .number (.int n)
  | .number (.float x) => if x.isFinite then .number (.float x) else .null
  | .string s => .string s
  | .array items => .array (spelledItems items)
  | .object members => .object (spelledMembers members)

/-- The items of an array with `null` in these places. -/
def spelledItems : List Json → List Json
  | [] => []
  | j :: rest => spelled j :: spelledItems rest

/-- The members of an object with `null` in these places. -/
def spelledMembers : List (String × Json) → List (String × Json)
  | [] => []
  | (k, v) :: rest => (k, spelled v) :: spelledMembers rest

end

/-- Items are replaced one by one. -/
theorem spelledItems_eq_map (items : List Json) : spelledItems items = items.map spelled := by
  induction items with
  | nil => rw [spelledItems, List.map_nil]
  | cons j rest ih => rw [spelledItems, ih, List.map_cons]

/-- Members are replaced one by one. -/
theorem spelledMembers_eq_map (members : List (String × Json)) :
    spelledMembers members = members.map fun m => (m.1, m.2.spelled) := by
  induction members with
  | nil => rw [spelledMembers, List.map_nil]
  | cons m rest ih => rw [spelledMembers, ih, List.map_cons]

/-- Items behind the first one are set off by a comma. -/
theorem prettyItems_cons_cons (level : Nat) (j k : Json) (more : List Json) :
    prettyItems level (j :: k :: more) =
      lineStart level ++ prettyChars level j ++ ',' :: prettyItems level (k :: more) := by
  rw [prettyItems]
  exact List.cons_ne_nil k more

/-- Members behind the first one are set off by a comma. -/
theorem prettyMembers_cons_cons (level : Nat) (k : String) (v : Json) (m : String × Json)
    (more : List (String × Json)) : prettyMembers level ((k, v) :: m :: more) =
      lineStart level ++ stringChars k ++ ':' :: ' ' :: prettyChars level v ++
        ',' :: prettyMembers level (m :: more) := by
  rw [prettyMembers]
  exact List.cons_ne_nil m more

mutual

/-- The replaced value is written as the value is. -/
theorem prettyChars_spelled (level : Nat) (j : Json) :
    prettyChars level j.spelled = prettyChars level j := by
  match j with
  | .null => rw [spelled]
  | .bool b => rw [spelled]
  | .string s => rw [spelled]
  | .number (.int n) => rw [spelled]
  | .number (.float x) =>
      rw [spelled]
      by_cases hfinite : x.isFinite = true
      · rw [if_pos hfinite]
      · -- The writer has the same four letters for both.
        rw [if_neg hfinite, prettyChars, prettyChars, compactChars, compactChars, numberChars,
          if_neg hfinite]
  | .array [] => rw [spelled, spelledItems]
  | .array (k :: more) =>
      -- The replaced list is still not empty, so it is written over several lines too.
      have hitems := prettyItems_spelled (level + 1) (k :: more)
      rw [spelledItems] at hitems
      rw [spelled, spelledItems, prettyChars, prettyChars, hitems]
      all_goals exact List.cons_ne_nil _ _
  | .object [] => rw [spelled, spelledMembers]
  | .object ((k, v) :: more) =>
      have hmembers := prettyMembers_spelled (level + 1) ((k, v) :: more)
      rw [spelledMembers] at hmembers
      rw [spelled, spelledMembers, prettyChars, prettyChars, hmembers]
      all_goals exact List.cons_ne_nil _ _

/-- The replaced items are written as the items are. -/
theorem prettyItems_spelled (level : Nat) (items : List Json) :
    prettyItems level (spelledItems items) = prettyItems level items := by
  match items with
  | [] => rw [spelledItems]
  | [j] => rw [spelledItems, spelledItems, prettyItems, prettyItems, prettyChars_spelled level j]
  | j :: k :: more =>
      have hrest := prettyItems_spelled level (k :: more)
      rw [spelledItems] at hrest
      rw [spelledItems, spelledItems, prettyItems_cons_cons, prettyItems_cons_cons, hrest,
        prettyChars_spelled level j]

/-- The replaced members are written as the members are. -/
theorem prettyMembers_spelled (level : Nat) (members : List (String × Json)) :
    prettyMembers level (spelledMembers members) = prettyMembers level members := by
  match members with
  | [] => rw [spelledMembers]
  | [(k, v)] =>
      rw [spelledMembers, spelledMembers, prettyMembers, prettyMembers, prettyChars_spelled level v]
  | (k, v) :: (k', v') :: more =>
      have hrest := prettyMembers_spelled level ((k', v') :: more)
      rw [spelledMembers] at hrest
      rw [spelledMembers, spelledMembers, prettyMembers_cons_cons, prettyMembers_cons_cons, hrest,
        prettyChars_spelled level v]

end

/-- The replaced value has the same text. -/
theorem pretty_spelled (j : Json) : j.spelled.pretty = j.pretty := by
  rw [pretty, pretty, prettyChars_spelled]

/-- The value is spelled by its text. -/
def IsSpellable (j : Json) : Prop :=
  j.spelled = j

/-- An integer is spellable. -/
theorem isSpellable_int (n : Int) : (int n).IsSpellable := by
  rw [IsSpellable, int, spelled]

/-- A text is spellable. -/
theorem isSpellable_string (s : String) : (string s).IsSpellable := by
  rw [IsSpellable, spelled]

/-- A double is spellable if it is finite. -/
theorem isSpellable_float {x : Binary64} (h : x.isFinite = true) : (float x).IsSpellable := by
  rw [IsSpellable, float, spelled, if_pos h]

/-- Any other double is spelled as `null`. -/
theorem spelled_float {x : Binary64} (h : x.isFinite = false) : (float x).spelled = null := by
  rw [float, spelled, if_neg (Bool.eq_false_iff.mp h)]

/-- An object is spellable if all of its members are. -/
theorem isSpellable_object {members : List (String × Json)}
    (h : ∀ m ∈ members, m.2.IsSpellable) : (object members).IsSpellable := by
  have hmembers : members.map (fun m => (m.1, m.2.spelled)) = members := by
    calc members.map (fun m => (m.1, m.2.spelled))
        = members.map id := List.map_congr_left fun m hm => Prod.ext rfl (h m hm)
      _ = members := List.map_id members
  rw [IsSpellable, spelled, spelledMembers_eq_map, hmembers]

/-- A member that may be absent is replaced if it is there. -/
theorem map_spelled_toList {α : Type} (name : String) (write : α → Json) (x : Option α) :
    ((x.map fun a => (name, write a)).toList.map fun m => (m.1, m.2.spelled)) =
      (x.map fun a => (name, (write a).spelled)).toList := by
  cases x with
  | none => rfl
  | some a => rfl

end Json

end LootFilter
