import LootFilter.Proofs.Json.Place
import LootFilter.Proofs.Json.Written
import LootFilter.Rule.Basic

/-!
# Undeclared Keys

There are six types of object in a rule file: rules, their two sections, and comparisons
of three types of value. Each declares its keys, and only the sections refuse any other
ones. A key that is added to a section makes the file be refused, and the key is named
as the reason, however deep in the file the section stands. But a key that is added to a
rule or to a comparison changes nothing. A rule with a misspelled section is a rule
without that section, so a block that was meant for some items is one for all of them.

The place of an object is a path from the list of rules. It leads through the members
of objects or, where an object is written as a list of its values, through the items of
that list. What is read of a file hinges on what is read at the end of the path.

## Main definitions

* `RuleObject`: The types of object in a rule file.
* `RuleObject.inner?`: The type of object that stands under a key.
* `RuleObject.DifferAt`: Two objects that differ in the members of one object.
* `Rule.DifferAt`: The same for two rule files.

## Theorems

* `RuleObject.DifferAt.hingesOn`: What is read of an object hinges on each place.
* `Rule.ofText_of_undeclared`: A key that is not declared is added to a rule file.
* `Rule.not_forall_declared`: Not all keys of a rule file are declared.
-/

namespace LootFilter

/-- The types of object in a rule file. -/
inductive RuleObject where
  | rule
  | conditions
  | actions
  /-- A comparison of numbers. -/
  | numbers
  /-- A comparison of rarities. -/
  | rarities
  /-- A comparison of texts. -/
  | texts
  deriving DecidableEq

/-- The type of object by which a value of a kind is written, if it is by any. -/
def Kind.object? : Kind → Option RuleObject
  | numbers => some .numbers
  | rarities => some .rarities
  | texts => some .texts
  | _ => none

namespace RuleObject

/-- What is read of an object. -/
@[reducible]
def Value : RuleObject → Type
  | rule => Rule
  | conditions => Conditions
  | actions => Actions
  | numbers => Comparison UInt32
  | rarities => Comparison Rarity
  | texts => Comparison String

/-- The members of an object. -/
def record : (o : RuleObject) → Record o.Value
  | rule => Rule.record .text
  | conditions => Settings.record .text
  | actions => Settings.record .text
  | numbers => Comparison.record .text Decode.uint32
  | rarities => Comparison.record .text (Vocabulary.decode Rarity .text)
  | texts => Comparison.record .text Decode.text

/-- The name of a type of object. -/
def typeName : RuleObject → String
  | rule => "Rule"
  | conditions => "Conditions"
  | actions => "Actions"
  | _ => "Comparison"

/-- Objects of the type have no members beside those that are declared. -/
def isStrict : RuleObject → Bool
  | conditions => true
  | actions => true
  | _ => false

/-- The keys that are declared for objects of the type. -/
def keys (o : RuleObject) : List String :=
  o.record.names

/-- The reader of objects of the type. -/
def decode (o : RuleObject) : Decoder o.Value :=
  o.record.decode .text o.typeName o.isStrict

/-- The type of object that stands under a key of an object, if any does. -/
def inner? : RuleObject → String → Option RuleObject
  | rule, "conditions" => some conditions
  | rule, "actions" => some actions
  | conditions, key =>
    (RuleSection.ofKey? key : Option Condition).bind fun c => (RuleSection.kind c).object?
  | actions, key =>
    (RuleSection.ofKey? key : Option Action).bind fun a => (RuleSection.kind a).object?
  | _, _ => none

/-- Two values that differ in one place: where the one has an object of a type with some
    members, the other one has an object with other members. The place is reached through
    members of objects, or through the items of objects that are written as lists. -/
inductive DifferAt (p : RuleObject) (ms ms' : List (Fragment × Fragment)) :
    RuleObject → Fragment → Fragment → Prop where
  | here : DifferAt p ms ms' p (.object ms true) (.object ms' true)
  | member {o q : RuleObject} {name : String} {f f' : Fragment}
      (before after : List (Fragment × Fragment)) (closed : Bool) (type : o.inner? name = some q)
      (inner : DifferAt p ms ms' q f f') :
      DifferAt p ms ms' o (.object (before ++ (.string (some name), f) :: after) closed)
        (.object (before ++ (.string (some name), f') :: after) closed)
  | item {o q : RuleObject} {name : String} {f f' : Fragment} (before after : List Fragment)
      (closed : Bool) (type : o.inner? name = some q) (place : o.keys[before.length]? = some name)
      (inner : DifferAt p ms ms' q f f') :
      DifferAt p ms ms' o (.array (before ++ f :: after) closed)
        (.array (before ++ f' :: after) closed)

/-- The reader of a kind of value that is written as an object is that of the object. -/
theorem hingesOn_kind {k : Kind} {p : RuleObject} (h : k.object? = some p) (f f' : Fragment) :
    HingesOn (k.decode .text f) (k.decode .text f') (p.decode f) (p.decode f') := by
  cases k with
  | numbers => cases h; exact .refl _ _
  | rarities => cases h; exact .refl _ _
  | texts => cases h; exact .refl _ _
  | _ => cases h

/-- The value of a setting is read by the reader of its kind. -/
theorem hingesAt_key {ι : Type} [RuleSection ι] [DecidableEq ι] {key : String} {i : ι}
    (h : RuleSection.ofKey? key = some i) :
    (Settings.record (ι := ι) .text).HingesAt key ((RuleSection.kind i).decode .text) := by
  refine ⟨?_, fun slots f f' hf hf' => ?_⟩
  · have hkey := List.find?_some h
    exact List.mem_map.mpr ⟨i, RuleSection.mem_all i, beq_iff_eq.mp hkey⟩
  · simp only [Settings.record, h]
    exact (Decode.hingesOn_optional hf hf').map _

/-- The value under a key that leads to an object is read by the reader of that
    object. -/
theorem exists_hingesAt {o q : RuleObject} {name : String} (h : o.inner? name = some q) :
    ∃ (β : Type) (read : Decoder β), o.record.HingesAt name read ∧
      ∀ f f', HingesOn (read f) (read f') (q.decode f) (q.decode f') := by
  unfold inner? at h
  split at h
  · cases h
    refine ⟨_, conditions.decode, ?_, fun f f' => .refl _ _⟩
    exact (((Record.hingesAt_optional _ _).both_left _).both_right (by simp)).map _
  · cases h
    refine ⟨_, actions.decode, ?_, fun f f' => .refl _ _⟩
    exact (((Record.hingesAt_optional _ _).both_right (by simp)).both_right (by simp)).map _
  · rcases Option.bind_eq_some_iff.mp h with ⟨c, hc, hkind⟩
    exact ⟨_, _, hingesAt_key hc, hingesOn_kind hkind⟩
  · rcases Option.bind_eq_some_iff.mp h with ⟨a, ha, hkind⟩
    exact ⟨_, _, hingesAt_key ha, hingesOn_kind hkind⟩
  · cases h

namespace DifferAt

variable {p o : RuleObject} {ms ms' : List (Fragment × Fragment)} {f f' : Fragment}

/-- Neither value is `null`. -/
theorem ne_null (h : DifferAt p ms ms' o f f') : f ≠ .null ∧ f' ≠ .null := by
  cases h with
  | here => exact ⟨Fragment.noConfusion, Fragment.noConfusion⟩
  | member before after closed type inner =>
      exact ⟨Fragment.noConfusion, Fragment.noConfusion⟩
  | item before after closed type place inner =>
      exact ⟨Fragment.noConfusion, Fragment.noConfusion⟩

/-- What is read of an object hinges on what is read in the place. -/
theorem hingesOn (h : DifferAt p ms ms' o f f') :
    HingesOn (o.decode f) (o.decode f') (p.decode (.object ms true))
      (p.decode (.object ms' true)) := by
  -- The induction is on the path, from the place outwards.
  induction h with
  | here => exact .refl _ _
  | member before after closed type inner ih =>
      rcases exists_hingesAt type with ⟨β, read, hat, hread⟩
      rcases inner.ne_null with ⟨hf, hf'⟩
      exact ((hat.decode_object _ _ _ before after closed hf hf').trans (hread _ _)).trans ih
  | item before after closed type place inner ih =>
      rcases exists_hingesAt type with ⟨β, read, hat, hread⟩
      rcases inner.ne_null with ⟨hf, hf'⟩
      exact ((hat.decode_array _ _ _ before after closed hf hf' place).trans (hread _ _)).trans ih

end DifferAt

end RuleObject

namespace Rule

/-- Two rule files of which one rule differs in the members of one object. -/
def DifferAt (p : RuleObject) (ms ms' : List (Fragment × Fragment)) (file file' : Fragment) :
    Prop :=
  ∃ before after rule rule' closed, file = .array (before ++ rule :: after) closed ∧
    file' = .array (before ++ rule' :: after) closed ∧
      RuleObject.DifferAt p ms ms' .rule rule rule'

/-- A rule file has an object of a type with the given members. -/
def HasObject (p : RuleObject) (ms : List (Fragment × Fragment)) (file : Fragment) : Prop :=
  DifferAt p ms ms file file

variable {p : RuleObject} {ms ms' : List (Fragment × Fragment)} {text text' : String}

/-- Nothing but white space follows a rule file that is accepted. -/
theorem snd_ofText_of_ok {rules : List Rule} (h : ofText text = .ok rules) :
    (Fragment.ofText text).2 = true := by
  unfold ofText at h
  rcases htext : Fragment.ofText text with ⟨file, ended⟩
  rw [htext] at h
  rcases (bind_eq_ok_iff _ _ _).mp h with ⟨_, _, hend⟩
  cases ended with
  | false => cases hend
  | true => rfl

/-- What is read of a file hinges on what is read in each place, if nothing that is no
    white space follows either file. -/
theorem hingesOn_ofText
    (h : DifferAt p ms ms' (Fragment.ofText text).1 (Fragment.ofText text').1)
    (hended : (Fragment.ofText text').2 = true) :
    HingesOn (ofText text) (ofText text') (p.decode (.object ms true))
      (p.decode (.object ms' true)) := by
  rcases htext : Fragment.ofText text with ⟨file, ended⟩
  rcases htext' : Fragment.ofText text' with ⟨file', ended'⟩
  rw [htext, htext'] at h
  rw [htext'] at hended
  rcases h with ⟨before, after, rule, rule', closed, hfile, hfile', hrule⟩
  have hlist : HingesOn (Decode.list (decode .text) file) (Decode.list (decode .text) file')
      (p.decode (.object ms true)) (p.decode (.object ms' true)) := by
    rw [show file = .array (before ++ rule :: after) closed from hfile,
      show file' = .array (before ++ rule' :: after) closed from hfile']
    exact (Decode.hingesOn_list before after rule rule' closed).trans hrule.hingesOn
  -- The texts are accepted only if nothing follows their lists, so what is done behind
  -- the list is the same for both.
  intro rules hrules
  have hfirst := snd_ofText_of_ok hrules
  rw [htext] at hfirst
  unfold ofText at hrules ⊢
  rw [htext, show ended = true from hfirst] at hrules
  rw [htext', show ended' = true from hended]
  exact hlist.bind _ rules hrules

/-- A rule file is accepted. Then all keys of its conditions and actions are declared. If
    a key that is not declared is added to an object somewhere in the file, and nothing
    else is changed, then the key is the reason for which the file is refused if the
    object is a section. In a rule or a comparison it is skipped, and the file has the
    same rules as before. -/
theorem ofText_of_undeclared {rules : List Rule} (h : ofText text = .ok rules) (p : RuleObject) :
    (p.isStrict = true → ∀ ms, HasObject p ms (Fragment.ofText text).1 →
      ∀ m ∈ ms, ∃ key ∈ p.keys, m.1 = .string (some key)) ∧
    ∀ (before after : List (Fragment × Fragment)) (key : String) (v : Fragment) (text' : String),
      key ∉ p.keys → v.isClosed = true → (Fragment.ofText text').2 = true →
      DifferAt p (before ++ after) (before ++ (.string (some key), v) :: after)
        (Fragment.ofText text).1 (Fragment.ofText text').1 →
      ofText text' = if p.isStrict then .error (.unknownField key p.keys) else .ok rules := by
  constructor
  · intro hstrict ms hobject
    have hended : (Fragment.ofText text).2 = true := snd_ofText_of_ok h
    rcases hingesOn_ofText hobject hended rules h with ⟨value, hvalue, -⟩
    exact Record.declared_of_decode hstrict hvalue
  · intro before after key v text' hkey hv hended hdiffer
    rcases hingesOn_ofText hdiffer hended rules h with ⟨value, hvalue, hkeep, hfail⟩
    have hplace : p.decode (.object (before ++ (.string (some key), v) :: after) true) =
        if p.isStrict then .error (.unknownField key p.keys) else .ok value :=
      Record.decode_undeclared hkey hv hvalue
    cases hstrict : p.isStrict with
    | true =>
        rw [hstrict, if_pos rfl] at hplace
        exact hfail _ hplace
    | false =>
        rw [hstrict, if_neg Bool.false_ne_true] at hplace
        exact hkeep hplace

/-- A rule that hides all items. -/
def hideText : String :=
  "[\x7b\"blockType\":\"Hide\"\x7d]"

/-- A rule that was meant for corrupted items, with its section misspelled. -/
def misspelledSectionText : String :=
  "[\x7b\"blockType\":\"Hide\",\"condition\":\x7b\"corrupted\":true\x7d\x7d]"

/-- A rule that hides all items, with an empty section. -/
def sectionText : String :=
  "[\x7b\"blockType\":\"Hide\",\"conditions\":\x7b\x7d\x7d]"

/-- A rule that was meant for corrupted items, with its condition misspelled. -/
def misspelledConditionText : String :=
  "[\x7b\"blockType\":\"Hide\",\"conditions\":\x7b\"corupted\":true\x7d\x7d]"

/-- The members of the rule that hides all items. -/
def hideMembers : List (Fragment × Fragment) :=
  [(.string (some "blockType"), .string (some "Hide"))]

/-- The member with the misspelled section. -/
def misspelledSection : Fragment × Fragment :=
  (.string (some "condition"), .object [(.string (some "corrupted"), .bool true)] true)

/-- The tree of the file with a rule that hides all items. -/
theorem ofText_hideText : Fragment.ofText hideText =
    (.array [.object hideMembers true] true, true) :=
  Fragment.ofText_of_compact_eq (j := .array [.object [("blockType", .string "Hide")]])
    (by simp [Json.IsWhole, Json.IsWholeItems, Json.IsWholeMembers]) (by decide +kernel)

/-- The tree of the file with the misspelled section. -/
theorem ofText_misspelledSectionText : Fragment.ofText misspelledSectionText =
    (.array [.object (hideMembers ++ [misspelledSection]) true] true, true) :=
  Fragment.ofText_of_compact_eq
    (j := .array [.object [("blockType", .string "Hide"),
      ("condition", .object [("corrupted", .bool true)])]])
    (by simp [Json.IsWhole, Json.IsWholeItems, Json.IsWholeMembers]) (by decide +kernel)

/-- The tree of the file with the empty section. -/
theorem ofText_sectionText : Fragment.ofText sectionText =
    (.array [.object (hideMembers ++ [(.string (some "conditions"), .object [] true)]) true] true,
      true) :=
  Fragment.ofText_of_compact_eq
    (j := .array [.object [("blockType", .string "Hide"), ("conditions", .object [])]])
    (by simp [Json.IsWhole, Json.IsWholeItems, Json.IsWholeMembers]) (by decide +kernel)

/-- The tree of the file with the misspelled condition. -/
theorem ofText_misspelledConditionText : Fragment.ofText misspelledConditionText =
    (.array [.object (hideMembers ++ [(.string (some "conditions"),
      .object [(.string (some "corupted"), .bool true)] true)]) true] true, true) :=
  Fragment.ofText_of_compact_eq
    (j := .array [.object [("blockType", .string "Hide"),
      ("conditions", .object [("corupted", .bool true)])]])
    (by simp [Json.IsWhole, Json.IsWholeItems, Json.IsWholeMembers]) (by decide +kernel)

/-- The misspelled section is skipped, and the misspelled condition is refused. -/
theorem ofText_of_undeclared_misspelled :
    ofText hideText = .ok [ofBlockType .hides] ∧
      ofText misspelledSectionText = .ok [ofBlockType .hides] ∧
      ofText sectionText = .ok [⟨.hides, some .empty, none⟩] ∧
      ofText misspelledConditionText =
        .error (.unknownField "corupted" RuleObject.conditions.keys) := by
  have hhide : ofText hideText = .ok [ofBlockType .hides] := by
    rw [ofText, ofText_hideText]
    rfl
  have hsection : ofText sectionText = .ok [⟨.hides, some .empty, none⟩] := by
    rw [ofText, ofText_sectionText]
    rfl
  refine ⟨hhide, ?_, hsection, ?_⟩
  · have hsectionAdded := (ofText_of_undeclared hhide .rule).2 hideMembers [] "condition"
      misspelledSection.2 misspelledSectionText (by decide) rfl
    rw [ofText_hideText, ofText_misspelledSectionText] at hsectionAdded
    exact hsectionAdded rfl ⟨[], [], _, _, true, rfl, rfl, .here⟩
  · have hconditionAdded := (ofText_of_undeclared hsection .conditions).2 [] [] "corupted"
      (.bool true) misspelledConditionText (by decide) rfl
    rw [ofText_sectionText, ofText_misspelledConditionText] at hconditionAdded
    exact hconditionAdded rfl
      ⟨[], [], _, _, true, rfl, rfl, .member hideMembers [] true rfl .here⟩

/-- Not all keys of a rule file that is accepted are declared. -/
theorem not_forall_declared : ¬ ∀ text rules, ofText text = .ok rules → ∀ p ms,
    HasObject p ms (Fragment.ofText text).1 →
      ∀ m ∈ ms, ∃ key ∈ p.keys, m.1 = .string (some key) := by
  intro h
  have hread : ofText misspelledSectionText = .ok [ofBlockType .hides] := by
    rw [ofText, ofText_misspelledSectionText]
    rfl
  have hobject : HasObject .rule (hideMembers ++ [misspelledSection])
      (Fragment.ofText misspelledSectionText).1 := by
    rw [ofText_misspelledSectionText]
    exact ⟨[], [], _, _, true, rfl, rfl, .here⟩
  rcases h _ _ hread _ _ hobject misspelledSection
    (List.mem_append_right _ (List.mem_singleton_self _)) with ⟨key, hkey, hcondition⟩
  cases hcondition
  exact absurd hkey (by decide)

end Rule

end LootFilter
