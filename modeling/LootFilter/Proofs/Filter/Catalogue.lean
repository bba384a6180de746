import LootFilter.Filter.Catalogue
import LootFilter.Proofs.Json.Decode
import Mathlib.Data.List.Nodup

/-!
# The Catalogue and the Settings

The settings of a rule are listed twice, once with the keys of a rule file and once
with the keywords of a filter. The second list says for each keyword which setting is
read and how its value is written, so it could name a setting under the wrong keyword,
leave one out, or list them in another order. It does none of this: the two lists have
the same settings in the same order (`catalogue_eq`), and what an entry reads from a
rule is the value of the setting in the same place of the other list
(`Rule.map_read_catalogueEntries`).

So the fields of a rule are the settings that it gives a value to, in that order
(`Rule.fields_eq`). Both the compiler and the validator see a rule through that list
alone, so all that has to be known about it is which pairs it holds and in which order.
Each setting stands in the catalogue once and under a keyword of its own, so a keyword
says which setting it belongs to, and the place of a keyword in the catalogue is the
place of its setting.

## Main definitions

* `Rule.Sets`: A section of the rule gives a value to a setting.
* `Rule.get`: The value of a setting in a rule.
* `Kind.shape`: A value in the shape in which it is written.
* `Field.quoting`, `Field.range`: How texts are written, and the limits of numbers.
* `Rule.fieldOf`: The field of one setting, if it has a value.
* `cataloguePlace`: The place of a keyword in the catalogue.

## Theorems

* `catalogue_eq`: What the catalogue says, and in which order.
* `Field.spec_eq`: What it says of a single setting.
* `Rule.fields_eq`: The fields of a rule by its settings.
* `Field.keyword_injective`: A keyword belongs to one setting.
* `Field.pairwise_place`: The list of settings is in the order of places.
* `Rule.mem_fields_iff`: The fields of a rule are its settings with a value.
* `Rule.pairwise_fields`: They are in the order of places too.
-/

namespace LootFilter

/-! ## Settings -/

namespace Rule

/-- The rule gives the value to the setting: it has the section of the setting, and
    there the setting has the value. -/
def Sets (r : Rule) : (f : Field) → f.kind.Value → Prop
  | .condition c, v => ∃ s, r.conditions = some s ∧ s.get c = some v
  | .action a, v => ∃ s, r.actions = some s ∧ s.get a = some v

/-- The value of a setting in a rule, if it has one. -/
def get (r : Rule) : (f : Field) → Option f.kind.Value
  | .condition c => r.conditions.bind fun s => s.get c
  | .action a => r.actions.bind fun s => s.get a

/-- The value of a setting is the one that a section gives to it. -/
theorem sets_iff_get (r : Rule) (f : Field) (v : f.kind.Value) :
    r.Sets f v ↔ r.get f = some v := by
  cases f with
  | condition c => exact Option.bind_eq_some_iff.symm
  | action a => exact Option.bind_eq_some_iff.symm

/-- A setting has a value if a section gives one to it. -/
theorem exists_sets_iff (r : Rule) (f : Field) : (∃ v, r.Sets f v) ↔ (r.get f).isSome := by
  simp only [sets_iff_get, Option.isSome_iff_exists]

/-- A condition has the value that the section gives it, if there is one. -/
theorem get_condition (r : Rule) (c : Condition) :
    r.get (.condition c) = (r.conditions.getD .empty).get c := by
  rcases r with ⟨_, _ | conditions, _⟩
  · rfl
  · rfl

/-- An action has the value that the section gives it, if there is one. -/
theorem get_action (r : Rule) (a : Action) :
    r.get (.action a) = (r.actions.getD .empty).get a := by
  rcases r with ⟨_, _, _ | actions⟩
  · rfl
  · rfl

end Rule

/-! ## What the catalogue says -/

namespace Kind

/-- A value in the shape in which it is written. -/
def shape : (k : Kind) → k.Value → FieldValue
  | numbers, c => .comparison c.op (c.values.map fun n => .ofNat n.toNat)
  | rarities, c => .comparison c.op (c.values.map fun r => .text (Vocabulary.token r))
  | texts, c => .comparison c.op (c.values.map .text)
  | textList, l => .quotedList l
  | flag, b => .scalar (.bool b)
  | number, n => .scalar (.ofNat n.toNat)
  | word, s => .scalar (.text s)
  | quotedText, s => .quotedList [s]
  | gemQuality, g => .scalar (.text (Vocabulary.token g))
  | influence, i => .scalar (.text (Vocabulary.token i))
  | color, c =>
    .tuple [.ofNat c.red.toNat, .ofNat c.green.toNat, .ofNat c.blue.toNat,
      match c.alpha with
      | some a => .ofNat a.toNat
      | none => .absent]
  | sound, s =>
    .tuple [match s.id with
      | some id => .ofNat id.toNat
      | none => .text "None",
      .ofNat s.volume.toNat]
  | icon, i =>
    .tuple [.ofNat i.size.toNat, .text (Vocabulary.token i.color), .text (Vocabulary.token i.shape)]
  | effect, e =>
    .tuple [.text (Vocabulary.token e.color),
      match e.duration with
      | some d => .text (Vocabulary.token d)
      | none => .absent]

end Kind

namespace Field

/-- Whether the texts of a setting's comparison stand between quotes. -/
def quoting : Field → Quoting
  | .condition .itemClass => .quoted
  | .condition .baseType => .quoted
  | _ => .bare

/-- The numbers that a setting allows. -/
def range : Field → Option (Nat × Nat)
  | .action .setFontSize => some (1, 45)
  | .action .playAlertSound => some (0, 300)
  | .action .playAlertSoundPositional => some (0, 300)
  | .action .minimapIcon => some (0, 2)
  | _ => none

/-- The list of settings misses none, since neither of the two sections misses
    one of its own. -/
theorem mem_all (f : Field) : f ∈ all := by
  rw [all, List.mem_append, List.mem_map, List.mem_map]
  cases f with
  | condition c => exact Or.inl ⟨c, RuleSection.mem_all c, rfl⟩
  | action a => exact Or.inr ⟨a, RuleSection.mem_all a, rfl⟩

end Field

/-- The catalogue has the settings of a rule file in their order, each under its key
    with a capital. -/
theorem catalogue_eq :
    catalogue = Field.all.map fun f => ⟨f.keyword, f.part, f.quoting, f.range⟩ := by
  decide +kernel

/-- No keyword stands in the catalogue twice, in one section or across the two. -/
theorem keyword_nodup_catalogue : (catalogue.map FieldSpec.keyword).Nodup := by
  decide +kernel

namespace Field

/-- What the catalogue says of a setting. -/
theorem spec_eq (f : Field) : f.spec = ⟨f.keyword, f.part, f.quoting, f.range⟩ := by
  have hmem : ⟨f.keyword, f.part, f.quoting, f.range⟩ ∈ catalogue := by
    rw [catalogue_eq]
    exact List.mem_map_of_mem (mem_all f)
  have hfind := find?_eq_some_of_nodup keyword_nodup_catalogue hmem
  rw [spec, hfind, Option.getD_some]

/-- It says it under the keyword of the setting. -/
@[simp]
theorem keyword_spec (f : Field) : f.spec.keyword = f.keyword := by
  rw [spec_eq]

/-- The texts of a setting are quoted as the catalogue says. -/
@[simp]
theorem quoting_spec (f : Field) : f.spec.quoting = f.quoting := by
  rw [spec_eq]

/-- The numbers of a setting are limited as the catalogue says. -/
@[simp]
theorem range_spec (f : Field) : f.spec.range = f.range := by
  rw [spec_eq]

end Field

/-- The catalogue says something of settings and of nothing else. -/
theorem catalogue_eq_map_spec : catalogue = Field.all.map Field.spec := by
  rw [catalogue_eq]
  exact List.map_congr_left fun f _ => f.spec_eq.symm

/-- It says something of every setting. -/
theorem Field.spec_mem_catalogue (f : Field) : f.spec ∈ catalogue := by
  rw [catalogue_eq_map_spec]
  exact List.mem_map_of_mem f.mem_all

namespace Rule

/-- The value of a setting in the shape in which it is written. -/
def shape? (r : Rule) (f : Field) : Option FieldValue :=
  (r.get f).map f.kind.shape

/-- The field of a setting, if it has a value. -/
def fieldOf (r : Rule) (f : Field) : Option (FieldSpec × FieldValue) :=
  (r.shape? f).map fun value => (f.spec, value)

/-- What the entries of the catalogue read from a rule are the values of the settings
    in the same places. -/
theorem map_read_catalogueEntries (r : Rule) :
    catalogueEntries.map (fun e => e.read r) = Field.all.map r.shape? := by
  rcases r with ⟨_, _ | conditions, _ | actions⟩
  · rfl
  · rfl
  · rfl
  · rfl

/-- The fields of a rule are those of its settings, in their order. -/
theorem fields_eq (r : Rule) : r.fields = Field.all.filterMap r.fieldOf := by
  -- An entry counts with what it says and with what it reads.
  have hpairs : catalogueEntries.map (fun e => (e.toFieldSpec, e.read r)) =
      Field.all.map fun f => (f.spec, r.shape? f) := by
    have hspecs : catalogueEntries.map FieldEntry.toFieldSpec = Field.all.map Field.spec :=
      catalogue_eq_map_spec
    rw [← List.zip_map', ← List.zip_map', hspecs, map_read_catalogueEntries]
  calc r.fields
      = (catalogueEntries.map fun e => (e.toFieldSpec, e.read r)).filterMap
          (fun p => p.2.map fun value => (p.1, value)) := by rw [List.filterMap_map]; rfl
    _ = (Field.all.map fun f => (f.spec, r.shape? f)).filterMap
          (fun p => p.2.map fun value => (p.1, value)) := by rw [hpairs]
    _ = Field.all.filterMap r.fieldOf := by rw [List.filterMap_map]; rfl

end Rule

/-! ## Places -/

/-- The place of a keyword in the catalogue, counted from zero. A word that is
    no keyword has the place behind the last one. -/
def cataloguePlace (keyword : String) : Nat :=
  (catalogue.map FieldSpec.keyword).idxOf keyword

namespace Field

/-- The keywords of the catalogue are those of the settings. -/
theorem map_keyword_catalogue : catalogue.map FieldSpec.keyword = all.map keyword := by
  rw [catalogue_eq, List.map_map]
  rfl

/-- So no two settings share a keyword. -/
theorem keyword_nodup : (all.map keyword).Nodup := by
  rw [← map_keyword_catalogue]
  exact keyword_nodup_catalogue

/-- A keyword belongs to one setting. -/
theorem keyword_injective {f g : Field} (h : f.keyword = g.keyword) : f = g :=
  List.inj_on_of_nodup_map keyword_nodup (mem_all f) (mem_all g) h

/-- The list of settings is in the order of the places of their keywords. A
    place is found by searching for the keyword from the front, and since no
    keyword stands twice the search ends at the setting itself. -/
theorem pairwise_place :
    all.Pairwise fun f g => cataloguePlace f.keyword < cataloguePlace g.keyword := by
  have hkeywords : (all.map keyword).Pairwise
      fun k l => cataloguePlace k < cataloguePlace l := by
    rw [List.pairwise_iff_getElem]
    intro i j hi hj hij
    -- Without repetitions, the place of the keyword at a position is the position.
    rw [cataloguePlace, cataloguePlace, map_keyword_catalogue,
      List.Nodup.idxOf_getElem keyword_nodup i hi, List.Nodup.idxOf_getElem keyword_nodup j hj]
    exact hij
  rwa [List.pairwise_map] at hkeywords

end Field

namespace Rule

/-- The field of a setting shows its value, in the shape in which it is written. -/
theorem fieldOf_eq_some_iff (r : Rule) (f : Field) (p : FieldSpec × FieldValue) :
    r.fieldOf f = some p ↔ ∃ v, r.get f = some v ∧ p = (f.spec, f.kind.shape v) := by
  rw [fieldOf, shape?, Option.map_map, Option.map_eq_some_iff]
  simp only [Function.comp_apply, eq_comm]

/-- The fields of a rule are its settings with a value, each with its entry in
    the catalogue and with its value in the shape in which it is written. -/
theorem mem_fields_iff (r : Rule) (p : FieldSpec × FieldValue) :
    p ∈ r.fields ↔ ∃ (f : Field) (v : f.kind.Value),
      r.get f = some v ∧ p = (f.spec, f.kind.shape v) := by
  rw [fields_eq, List.mem_filterMap]
  simp only [Field.mem_all, true_and, fieldOf_eq_some_iff]

/-- The fields of a rule are in the order of the catalogue, as its settings are. -/
theorem pairwise_fields (r : Rule) :
    r.fields.Pairwise fun p q => cataloguePlace p.1.keyword < cataloguePlace q.1.keyword := by
  rw [fields_eq, List.pairwise_filterMap]
  refine Field.pairwise_place.imp fun hfg p hp q hq => ?_
  rcases (r.fieldOf_eq_some_iff _ p).mp hp with ⟨v, -, rfl⟩
  rcases (r.fieldOf_eq_some_iff _ q).mp hq with ⟨w, -, rfl⟩
  rwa [Field.keyword_spec, Field.keyword_spec]

end Rule

end LootFilter
