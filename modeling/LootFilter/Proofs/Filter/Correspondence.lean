import LootFilter.Proofs.Filter.Validation
import LootFilter.Proofs.Json.Decode

/-!
# What a Rule File Has and What a Filter Shows

A setting has a key in a rule file and a keyword in a filter. The object of a rule is
made by walking the list of settings, and its block by walking the catalogue, whose
entries read from the rule what they are written to read. The two lists agree
(`catalogue_eq`, `Rule.map_read_catalogueEntries`), and so what stands in the one stands
in the other: the members of the two sections and the fields of the block correspond
one by one, in order, each pair with the names of one setting and the same value of it
(`forall₂_corresponds`).

A field of a rule depends on its own setting. It is found under its keyword exactly
if the setting has a value, whatever else the rule has. So two rules that give the
same value to a setting have the same field for it, and two rules that differ in one
setting only have blocks that differ in one line only, which may be missing from one
of them.

## Main definitions

* `Rule.writtenMembers`: The members of a section as they are written.
* `Rule.Corresponds`: A member and a field that show the same setting.
* `Rule.AgreeOn`: Two rules that do not differ in a setting.
* `Rule.valueUnder`: The value that the block of a rule has under a keyword.

## Theorems

* `Rule.forall₂_corresponds`: Members and fields correspond one by one.
* `Rule.valueUnder_keyword`: A keyword leads to the value of its setting.
* `Rule.exists_fields_eq_of_agree`: Rules that differ in one setting.
* `Rule.fields_correspond_to_members`: All of this, for two rules.
-/

namespace LootFilter

/-- The members of an object; no other value has any. -/
def Json.members : Json → List (String × Json)
  | .object members => members
  | _ => []

namespace Rule

/-- The members of a section of a rule's object, in the order in which they are
    written. A section that is absent has none. -/
def writtenMembers (r : Rule) (name : String) : List (String × Json) :=
  ((r.toJson.get? name).map Json.members).getD []

/-- The member and the field show the same setting, with the value that the rule
    gives to it. -/
def Corresponds (r : Rule) (m : String × Json) (p : FieldSpec × FieldValue) : Prop :=
  ∃ (f : Field) (v : f.kind.Value), r.Sets f v ∧
    m = (f.key, f.kind.toJson v) ∧ p = (f.spec, f.kind.shape v)

/-- The member of a setting, if it has a value. -/
def memberOf (r : Rule) (f : Field) : Option (String × Json) :=
  (r.get f).map fun v => (f.key, f.kind.toJson v)

/-- The members of the conditions are those of the settings that are conditions. -/
theorem writtenMembers_conditions (r : Rule) :
    r.writtenMembers "conditions" = Condition.all.filterMap fun c => r.memberOf (.condition c) := by
  rcases r with ⟨b, _ | s, a⟩
  · -- Without the section no condition has a value.
    have hnone : (Condition.all.filterMap fun c => memberOf ⟨b, none, a⟩ (.condition c)) = [] :=
      List.filterMap_eq_nil_iff.mpr fun c _ => rfl
    rw [hnone]
    cases a <;> rfl
  · cases a <;> rfl

/-- The members of the actions are those of the settings that are actions. -/
theorem writtenMembers_actions (r : Rule) :
    r.writtenMembers "actions" = Action.all.filterMap fun a => r.memberOf (.action a) := by
  rcases r with ⟨b, c, _ | s⟩
  · have hnone : (Action.all.filterMap fun a => memberOf ⟨b, c, none⟩ (.action a)) = [] :=
      List.filterMap_eq_nil_iff.mpr fun a _ => rfl
    rw [hnone]
    cases c <;> rfl
  · cases c <;> rfl

/-- The members of both sections are those of all settings. -/
theorem writtenMembers_eq (r : Rule) :
    r.writtenMembers "conditions" ++ r.writtenMembers "actions" =
      Field.all.filterMap r.memberOf := by
  rw [writtenMembers_conditions, writtenMembers_actions, Field.all, List.filterMap_append,
    List.filterMap_map, List.filterMap_map]
  rfl

/-- Members and fields correspond one by one and in order. -/
theorem forall₂_corresponds (r : Rule) : List.Forall₂ r.Corresponds
    (r.writtenMembers "conditions" ++ r.writtenMembers "actions") r.fields := by
  rw [writtenMembers_eq, fields_eq]
  -- The catalogue has been put into the order of the settings, and the induction is on
  -- the list of these.
  induction Field.all with
  | nil => exact .nil
  | cons f rest ih =>
      rw [List.filterMap_cons, List.filterMap_cons, memberOf, fieldOf, shape?]
      cases hget : r.get f with
      | none => exact ih
      | some v => exact .cons ⟨f, v, (r.sets_iff_get f v).mpr hget, rfl, rfl⟩ ih

/-- The keywords of the fields are the keys of the members with capitals. -/
theorem map_keyword_fields (r : Rule) : r.fields.map (fun p => p.1.keyword) =
    (r.writtenMembers "conditions" ++ r.writtenMembers "actions").map
      fun m => Text.capitalized m.1 := by
  have hsame := r.forall₂_corresponds
  symm
  rw [← List.forall₂_eq_eq_eq, List.forall₂_map_left_iff, List.forall₂_map_right_iff]
  refine hsame.imp fun m p hmp => ?_
  rcases hmp with ⟨f, v, -, rfl, rfl⟩
  exact f.keyword_spec.symm

/-- The keywords of the fields are those of the settings that have a value. -/
theorem map_keyword_fields_eq_filter (r : Rule) : r.fields.map (fun p => p.1.keyword) =
    (Field.all.filter fun f => (r.get f).isSome).map Field.keyword := by
  rw [fields_eq]
  induction Field.all with
  | nil => rfl
  | cons f rest ih =>
      rw [List.filterMap_cons, List.filter_cons, fieldOf, shape?]
      cases r.get f with
      | none => exact ih
      | some v => exact congrArg₂ List.cons f.keyword_spec ih

/-- No keyword is listed twice. -/
theorem nodup_keyword_fields (r : Rule) : (r.fields.map fun p => p.1.keyword).Nodup := by
  rw [map_keyword_fields_eq_filter]
  exact Field.keyword_nodup.sublist (List.filter_sublist.map _)

/-- A keyword is listed exactly if its setting has a value. -/
theorem keyword_mem_fields_iff (r : Rule) (f : Field) :
    f.keyword ∈ r.fields.map (fun p => p.1.keyword) ↔ ∃ v, r.Sets f v := by
  rw [map_keyword_fields_eq_filter, List.mem_map, exists_sets_iff]
  constructor
  · rintro ⟨g, hg, hkeyword⟩
    rw [← Field.keyword_injective hkeyword]
    exact (List.mem_filter.mp hg).2
  · intro hf
    exact ⟨f, List.mem_filter.mpr ⟨f.mem_all, hf⟩, rfl⟩

/-- The two rules give the same value to the setting, or neither gives one. -/
def AgreeOn (r s : Rule) (f : Field) : Prop :=
  ∀ v, r.Sets f v ↔ s.Sets f v

/-- Rules that agree on a setting have the same value of it. -/
theorem agreeOn_iff (r s : Rule) (f : Field) : r.AgreeOn s f ↔ r.get f = s.get f := by
  rw [Option.ext_iff]
  simp only [AgreeOn, sets_iff_get]

/-- The value that the block of a rule has under a keyword. -/
def valueUnder (r : Rule) (keyword : String) : Option FieldValue :=
  (r.fields.find? fun p => p.1.keyword == keyword).map Prod.snd

/-- A keyword leads to the value of its setting, in the shape in which it is
    written. -/
theorem valueUnder_keyword (r : Rule) (f : Field) : r.valueUnder f.keyword = r.shape? f := by
  unfold valueUnder shape?
  cases hget : r.get f with
  | none =>
      rw [List.find?_eq_none.mpr, Option.map_none, Option.map_none]
      intro p hp hkeyword
      -- A field with this keyword would be one of the setting, which has no value.
      have hmem : f.keyword ∈ r.fields.map (fun p => p.1.keyword) :=
        List.mem_map.mpr ⟨p, hp, beq_iff_eq.mp hkeyword⟩
      rw [keyword_mem_fields_iff, exists_sets_iff, hget] at hmem
      exact Bool.false_ne_true hmem
  | some v =>
      have hmem : (f.spec, f.kind.shape v) ∈ r.fields :=
        (r.mem_fields_iff _).mpr ⟨f, v, hget, rfl⟩
      have hfind := find?_eq_some_of_nodup r.nodup_keyword_fields hmem
      rw [f.keyword_spec] at hfind
      rw [hfind, Option.map_some, Option.map_some]

/-- Two rules that differ in one setting at most have the same fields in front of it
    and behind it. -/
theorem exists_fields_eq_of_agree {r s : Rule} {f : Field}
    (h : ∀ g, g ≠ f → r.AgreeOn s g) : ∃ before after,
      r.fields = before ++ (r.fieldOf f).toList ++ after ∧
        s.fields = before ++ (s.fieldOf f).toList ++ after := by
  rcases List.append_of_mem f.mem_all with ⟨front, back, hall⟩
  -- The setting stands in the catalogue once, so neither part has it.
  have hnodup : (front ++ f :: back).Nodup := hall ▸ Field.keyword_nodup.of_map _
  rw [List.nodup_middle, List.nodup_cons, List.mem_append, not_or] at hnodup
  have hsame (l : List Field) (hl : f ∉ l) : l.filterMap r.fieldOf = l.filterMap s.fieldOf := by
    refine List.filterMap_congr fun g hg => ?_
    have hne : g ≠ f := fun hgf => hl (hgf ▸ hg)
    unfold fieldOf shape?
    rw [(agreeOn_iff r s g).mp (h g hne)]
  have hsplit (q : Rule) : q.fields =
      front.filterMap q.fieldOf ++ (q.fieldOf f).toList ++ back.filterMap q.fieldOf := by
    rw [fields_eq, hall, List.filterMap_append, List.filterMap_cons, List.append_assoc]
    cases q.fieldOf f with
    | none => rfl
    | some p => rfl
  refine ⟨front.filterMap r.fieldOf, back.filterMap r.fieldOf, hsplit r, ?_⟩
  rw [hsame front hnodup.1.1, hsame back hnodup.1.2]
  exact hsplit s

/-- So have their blocks all lines in common but the one of that setting. -/
theorem exists_lines_eq_of_agree {r s : Rule} {f : Field} (hblock : r.blockType = s.blockType)
    (h : ∀ g, g ≠ f → r.AgreeOn s g) : ∃ above below,
      r.lines = above ++ (r.fieldOf f).toList.map (fun p => p.1.renderLine p.2) ++ below ∧
        s.lines = above ++ (s.fieldOf f).toList.map (fun p => p.1.renderLine p.2) ++ below := by
  rcases exists_fields_eq_of_agree h with ⟨before, after, hr, hs⟩
  refine ⟨Vocabulary.token r.blockType :: before.map fun p => p.1.renderLine p.2,
    after.map fun p => p.1.renderLine p.2, ?_, ?_⟩
  · rw [lines, hr]
    simp only [List.map_append, List.cons_append]
  · rw [lines, hs, hblock]
    simp only [List.map_append, List.cons_append]

/-- The fields of a rule correspond to the members of its written sections: each
    shows the setting of its member, the keywords are the keys with capitals, in the
    same order and none of them twice, and a keyword is there exactly if its setting
    has a value. Two rules that give the same value to a setting have the same value
    under its keyword, whatever else they have. If they differ in no other setting
    then all other fields are the same, and so are all other lines of their blocks. -/
theorem fields_correspond_to_members (r s : Rule) :
    List.Forall₂ r.Corresponds (r.writtenMembers "conditions" ++ r.writtenMembers "actions")
      r.fields ∧
    r.fields.map (fun p => p.1.keyword) =
      (r.writtenMembers "conditions" ++ r.writtenMembers "actions").map
        (fun m => Text.capitalized m.1) ∧
    (r.fields.map fun p => p.1.keyword).Nodup ∧
    (∀ f : Field, f.keyword ∈ r.fields.map (fun p => p.1.keyword) ↔ ∃ v, r.Sets f v) ∧
    (∀ f : Field, r.AgreeOn s f → r.valueUnder f.keyword = s.valueUnder f.keyword) ∧
    ∀ f : Field, (∀ g, g ≠ f → r.AgreeOn s g) →
      (∃ before after, r.fields = before ++ (r.fieldOf f).toList ++ after ∧
        s.fields = before ++ (s.fieldOf f).toList ++ after) ∧
      (r.blockType = s.blockType → ∃ above below,
        r.lines = above ++ (r.fieldOf f).toList.map (fun p => p.1.renderLine p.2) ++ below ∧
          s.lines = above ++ (s.fieldOf f).toList.map (fun p => p.1.renderLine p.2) ++ below) := by
  refine ⟨r.forall₂_corresponds, r.map_keyword_fields, r.nodup_keyword_fields,
    r.keyword_mem_fields_iff, fun f hf => ?_, fun f hf => ⟨exists_fields_eq_of_agree hf,
      fun hblock => exists_lines_eq_of_agree hblock hf⟩⟩
  rw [valueUnder_keyword, valueUnder_keyword, shape?, shape?, (agreeOn_iff r s f).mp hf]

/-- The conditions of an item that has a waystone tier. -/
def tierConditions : Conditions :=
  Settings.empty.set .waystoneTier ⟨.eq, [16]⟩

/-- A rule that asks for a waystone tier. -/
def ofTier : Rule :=
  ⟨.shows, some tierConditions, none⟩

/-- A rule that asks for a corrupted item besides. -/
def ofCorruptedTier : Rule :=
  ⟨.shows, some (tierConditions.set .corrupted true), none⟩

/-- That the item is corrupted has a line of its own and no part in that of the
    tier. -/
theorem fields_correspond_to_members_ofTier :
    ofTier.AgreeOn ofCorruptedTier (.condition .waystoneTier) ∧
      ofTier.valueUnder "WaystoneTier" = ofCorruptedTier.valueUnder "WaystoneTier" ∧
      (∀ g, g ≠ .condition .corrupted → ofTier.AgreeOn ofCorruptedTier g) ∧
      ∃ above below,
        ofTier.lines = above ++ below ∧
          ofCorruptedTier.lines = above ++ ["Corrupted True"] ++ below := by
  have hall := fields_correspond_to_members ofTier ofCorruptedTier
  have htier : ofTier.AgreeOn ofCorruptedTier (.condition .waystoneTier) :=
    (agreeOn_iff _ _ _).mpr rfl
  have hrest : ∀ g, g ≠ .condition .corrupted → ofTier.AgreeOn ofCorruptedTier g := by
    intro g hg
    rw [agreeOn_iff]
    cases g with
    | condition c =>
        have hc : c ≠ .corrupted := fun h => hg (congrArg Field.condition h)
        exact (Settings.get_set_of_ne _ _ hc).symm
    | action a => rfl
  have hkeyword : (Field.condition .waystoneTier).keyword = "WaystoneTier" := by decide +kernel
  have hvalue := hall.2.2.2.2.1 _ htier
  rw [hkeyword] at hvalue
  have hnone : ofTier.fieldOf (.condition .corrupted) = none := rfl
  have hline : (ofCorruptedTier.fieldOf (.condition .corrupted)).toList.map
      (fun p => p.1.renderLine p.2) = ["Corrupted True"] := by decide +kernel
  refine ⟨htier, hvalue, hrest, ?_⟩
  rcases (hall.2.2.2.2.2 _ hrest).2 rfl with ⟨above, below, hbefore, hafter⟩
  rw [hnone, Option.toList_none, List.map_nil, List.append_nil] at hbefore
  rw [hline] at hafter
  exact ⟨above, below, hbefore, hafter⟩

end Rule

end LootFilter
