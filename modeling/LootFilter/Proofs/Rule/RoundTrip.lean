import LootFilter.Proofs.Rule.Value
import LootFilter.Rule.Basic

/-!
# Writing Rules and Reading Them

Rules that were written are read as they were. So whatever spelling a rule file
has, its rules have one text that stands for them: it is accepted, it gives the
same rules, and writing these gives the text again.

What is written of a section are the settings that have a value. They are put
back one after another into a section without any, so what carries the
induction is which settings are in place: those in front have their values, and
those behind have none yet. A setting without a value has no member and ends up
without one.

An absent section and a section without a value are spelled differently, the
one not at all and the other as an object without members, and are kept apart.

## Theorems

* `Settings.puts_members`: The members of some settings put their values back.
* `Settings.readsBack_decode`: A section is read as it was written.
* `Rule.readsBack_decode`: A rule is read as it was written.
* `Rule.ofText_toText`: So is the text of a list of rules.
* `Rule.ofText_eq_ok_of_map_toText`: Rules can be told by what is written of them.
* `Rule.ofText_toText_fixpoint`: The text that is written of a file is a fixed
  point.
-/

namespace LootFilter

namespace RuleSection

variable {ι : Type} [RuleSection ι]

/-- A key leads to its setting. -/
theorem ofKey?_key (i : ι) : ofKey? (key i) = some i :=
  find?_eq_some_of_nodup key_nodup (mem_all i)

end RuleSection

namespace Settings

variable {ι : Type} [RuleSection ι] [DecidableEq ι]

/-- The member of a setting, if it has a value. -/
def member? (s : Settings ι) (i : ι) : Option (String × Json) :=
  (s.get i).map fun v => (RuleSection.key i, (RuleSection.kind i).toJson v)

/-- The member of a setting that was not met puts its value in place. -/
theorem put_key (origin : Origin) (slots : List String × Settings ι) (i : ι)
    (v : (RuleSection.kind i).Value) : (record origin).put slots (RuleSection.key i)
      (.ofJson ((RuleSection.kind i).toJson v)) =
        .ok (RuleSection.key i :: slots.1, slots.2.set i v) := by
  have hvalue := (Kind.readsBack_decode origin (RuleSection.kind i)).optional_some
    (Kind.toJson_ne_null _) v
  simp only [record, RuleSection.ofKey?_key, hvalue]
  rfl

/-- The members of some settings put their values back, if none of them was
    met before. Every other setting keeps the value that it has. -/
theorem puts_members (origin : Origin) (s : Settings ι) (l : List ι)
    (hnodup : (l.map RuleSection.key).Nodup) (met : List String) (t : Settings ι)
    (hfresh : ∀ i ∈ l, RuleSection.key i ∉ met ∧ t.get i = none) :
    ∃ met' t', (record origin).Puts (met, t) (l.filterMap s.member?) (met', t') ∧
      (∀ i ∈ l, t'.get i = s.get i) ∧ ∀ i, i ∉ l → t'.get i = t.get i := by
  induction l generalizing met t with
  | nil =>
      exact ⟨met, t, .nil _, fun i hi => absurd hi List.not_mem_nil, fun _ _ => rfl⟩
  | cons i rest ih =>
      rw [List.map_cons, List.nodup_cons] at hnodup
      rcases List.forall_mem_cons.mp hfresh with ⟨⟨hmet, hnone⟩, hrest⟩
      have hi : i ∉ rest := fun hmem => hnodup.1 (List.mem_map_of_mem hmem)
      cases hvalue : s.get i with
      | none =>
          rcases ih hnodup.2 met t hrest with ⟨met', t', hputs, hin, hout⟩
          refine ⟨met', t', ?_, ?_, fun j hj => hout j fun hmem => hj (List.mem_cons_of_mem i hmem)⟩
          · rwa [List.filterMap_cons, member?, hvalue, Option.map_none]
          · rw [List.forall_mem_cons]
            exact ⟨by rw [hout i hi, hnone, hvalue], hin⟩
      | some v =>
          -- The settings behind have keys of their own, so they are still to be met.
          have hnext : ∀ j ∈ rest, RuleSection.key j ∉ RuleSection.key i :: met ∧
              (t.set i v).get j = none := by
            intro j hj
            have hne : j ≠ i := fun h => hi (h ▸ hj)
            refine ⟨?_, by rw [get_set_of_ne t v hne, (hrest j hj).2]⟩
            rw [List.mem_cons, not_or]
            exact ⟨fun h => hnodup.1 (h ▸ List.mem_map_of_mem hj), (hrest j hj).1⟩
          rcases ih hnodup.2 _ _ hnext with ⟨met', t', hputs, hin, hout⟩
          refine ⟨met', t', ?_, ?_, fun j hj => ?_⟩
          · rw [List.filterMap_cons, member?, hvalue, Option.map_some]
            have hknown := List.mem_map_of_mem (f := RuleSection.key) (RuleSection.mem_all i)
            refine .cons hknown ?_ (put_key origin _ i v) hputs
            exact Bool.eq_false_iff.mpr fun h => hmet (List.contains_iff_mem.mp h)
          · rw [List.forall_mem_cons]
            exact ⟨by rw [hout i hi, get_set_self, hvalue], hin⟩
          · rw [List.mem_cons, not_or] at hj
            rw [hout j hj.2, get_set_of_ne t v hj.1]

/-- A section is read as it was written. -/
theorem readsBack_decode (origin : Origin) (name : String) :
    Decode.ReadsBack (decode origin name) (toJson (ι := ι)) := by
  intro s
  rcases puts_members origin s RuleSection.all RuleSection.key_nodup [] empty
    (fun i _ => ⟨List.not_mem_nil, rfl⟩) with ⟨met, t, hputs, hget, -⟩
  have ht : t = s := by
    ext1
    funext i
    exact hget i (RuleSection.mem_all i)
  subst ht
  have hreads : (record origin).Reads t.members t := ⟨(met, t), hputs, rfl⟩
  exact hreads.decode origin name true

omit [DecidableEq ι] in
/-- A section has the numbers of its values. -/
theorem isWhole_toJson (s : Settings ι) : s.toJson.IsWhole := by
  rw [toJson, Json.isWhole_object_iff]
  intro m hm
  rcases List.mem_filterMap.mp hm with ⟨i, -, hi⟩
  rcases Option.map_eq_some_iff.mp hi with ⟨v, -, rfl⟩
  exact Kind.isWhole_toJson _ v

end Settings

namespace Rule

/-- A rule is read as it was written. -/
theorem readsBack_decode (origin : Origin) : Decode.ReadsBack (decode origin) toJson := by
  intro r
  have hblock := Record.reads_required "blockType" (Vocabulary.readsBack_decode origin r.blockType)
  have hconditions := Record.reads_optional "conditions"
    (Settings.readsBack_decode (ι := Condition) origin "Conditions")
    (fun _ => Json.noConfusion) r.conditions
  have hactions := Record.reads_optional "actions"
    (Settings.readsBack_decode (ι := Action) origin "Actions")
    (fun _ => Json.noConfusion) r.actions
  have hrule := hblock.both (hconditions.both hactions (by simp)) (by simp)
  exact (hrule.map _).decode origin "Rule" false

/-- The numbers of a rule are integers of 64 bits. -/
theorem isWhole_toJson (r : Rule) : r.toJson.IsWhole := by
  rw [toJson, Json.isWhole_object_iff]
  intro m hm
  rcases List.mem_cons.mp hm with rfl | hm
  · exact Json.isWhole_string _
  · rcases List.mem_append.mp hm with hm | hm
    · rcases Option.map_eq_some_iff.mp (Option.mem_toList.mp hm) with ⟨s, -, rfl⟩
      exact s.isWhole_toJson
    · rcases Option.map_eq_some_iff.mp (Option.mem_toList.mp hm) with ⟨s, -, rfl⟩
      exact s.isWhole_toJson

/-- The text of a list of rules is read as these rules. -/
theorem ofText_toText (rules : List Rule) : ofText (toText rules) = .ok rules := by
  have hwhole : (Json.array (rules.map toJson)).IsWhole := Json.isWhole_map isWhole_toJson rules
  rw [ofText, toText, Fragment.ofText_compact _ hwhole]
  simp only [(readsBack_decode .text).list rules]
  rfl

/-- Lists of rules that are written alike are the same. -/
theorem toText_injective : Function.Injective toText := by
  intro rules rules' h
  have hread := ofText_toText rules
  rw [h, ofText_toText rules'] at hread
  exact (Except.ok.inj hread).symm

/-- The rules of a text can be told by what is written of them. -/
theorem ofText_eq_ok_of_map_toText {text : String} {rules : List Rule}
    (h : (ofText text).map toText = .ok (toText rules)) : ofText text = .ok rules := by
  cases hread : ofText text with
  | error fault =>
      rw [hread] at h
      cases h
  | ok found =>
      rw [hread] at h
      rw [toText_injective (Except.ok.inj h)]

/-- Every list of rules is read as it was written. In particular this holds for
    the rules of a file, whatever its spelling: the text that is written of them
    gives the same rules, and what is written of these is that text. -/
theorem ofText_toText_fixpoint : (∀ rules, ofText (toText rules) = .ok rules) ∧
    ∀ text rules, ofText text = .ok rules → ofText (toText rules) = .ok rules ∧
      (ofText (toText rules)).map toText = .ok (toText rules) := by
  refine ⟨ofText_toText, fun text rules _ => ⟨ofText_toText rules, ?_⟩⟩
  rw [ofText_toText rules]
  rfl

/-- The fixed point of a file that spells a rule as a list with absent sections,
    and its keyword with an escape. -/
theorem ofText_toText_fixpoint_spelled_out :
    ofText "[ [\"Sh\\u006fw\", null, null] ]" = .ok [ofBlockType .shows] ∧
      ofText (toText [ofBlockType .shows]) = .ok [ofBlockType .shows] ∧
        (ofText (toText [ofBlockType .shows])).map toText = .ok (toText [ofBlockType .shows]) := by
  have hread : ofText "[ [\"Sh\\u006fw\", null, null] ]" = .ok [ofBlockType .shows] :=
    ofText_eq_ok_of_map_toText (by decide +kernel)
  exact ⟨hread, ofText_toText_fixpoint.2 _ _ hread⟩

end Rule

end LootFilter
