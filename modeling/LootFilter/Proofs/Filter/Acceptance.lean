import LootFilter.Proofs.Filter.Check
import LootFilter.Proofs.Filter.Validation

/-!
# Acceptable Rules

Which rules can be written, told in terms of what stands in a rule and not of
what its check does. `Rule.IsWritable` is that description: lists have entries,
texts fit the place they are written to, and four actions keep the limits of
their numbers. Everything else is free, and a rule that is described so
compiles.

The description names fields, and the check knows only shapes and entries of the
catalogue. Between the two stands `Kind.check_shape_iff`, which says for each
kind of value, in an arbitrary field, what its check asks for: an entry in each
list, each free text fitting its quoting, and each number within the limits.
What remains is to look up which fields quote their texts and which have limits.

## Main definitions

* `Kind.entryCount?`: How many entries a list value has.
* `Kind.freeTexts`, `Kind.numbersOf`: The texts and numbers that a value holds.
* `Kind.textQuoting`: How the texts of a kind are quoted.
* `Rule.IsWritable`: A rule can be written.

## Theorems

* `Kind.check_shape_iff`: What a field accepts of a value of a kind.
* `Field.check_eq_ok_iff`: What a field accepts of its values.
* `Rule.isWritable_iff`: A writable rule is one of which nothing is refused.
* `Document.compile_succeeds_iff`: Writable rules and no others compile.
-/

namespace LootFilter

namespace Kind

/-- How many entries the value has, if it is a comparison or a list. -/
def entryCount? : (k : Kind) → k.Value → Option Nat
  | numbers, c => some c.values.length
  | rarities, c => some c.values.length
  | texts, c => some c.values.length
  | textList, l => some l.length
  | _, _ => none

/-- The texts of the value that are up to the author of a rule. The tokens of
    vocabularies are not among them. -/
def freeTexts : (k : Kind) → k.Value → List String
  | texts, c => c.values
  | textList, l => l
  | word, s => [s]
  | quotedText, s => [s]
  | _, _ => []

/-- The numbers of the value. -/
def numbersOf : (k : Kind) → k.Value → List Nat
  | numbers, c => c.values.map UInt32.toNat
  | number, n => [n.toNat]
  | color, c =>
    c.red.toNat :: c.green.toNat :: c.blue.toNat :: (c.alpha.map UInt8.toNat).toList
  | sound, s => (s.id.map UInt32.toNat).toList ++ [s.volume.toNat]
  | icon, i => [i.size.toNat]
  | _, _ => []

/-- How the texts of the kind are quoted in a field of the given quoting. -/
def textQuoting : Kind → Quoting → Quoting
  | textList, _ => .quoted
  | quotedText, _ => .quoted
  | _, quoting => quoting

section Check

variable (spec : FieldSpec) (inTuple bare : Bool)

/-- A token is accepted wherever it stands. -/
theorem checkScalar_token {α : Type} [Vocabulary α] [WordVocabulary α] (a : α) :
    spec.checkScalar inTuple bare (.text (Vocabulary.token a)) = .ok () :=
  FieldSpec.checkText_of_isWord inTuple bare (WordVocabulary.isWord_token a)

/-- A number of eight bits has only the limits of the field to keep. -/
theorem checkScalar_uint8 (hspec : spec.HasExactLimits) (n : UInt8) :
    spec.checkScalar inTuple bare (.ofNat n.toNat) = .ok () ↔ spec.Allows n.toNat :=
  spec.checkScalar_ofNat_iff hspec inTuple bare n.toNat (Nat.lt_trans n.toNat_lt (by decide))

/-- A number of thirty-two bits has only the limits of the field to keep. -/
theorem checkScalar_uint32 (hspec : spec.HasExactLimits) (n : UInt32) :
    spec.checkScalar inTuple bare (.ofNat n.toNat) = .ok () ↔ spec.Allows n.toNat :=
  spec.checkScalar_ofNat_iff hspec inTuple bare n.toNat (Nat.lt_trans n.toNat_lt (by decide))

/-- What a field accepts of a value, kind by kind. -/
theorem check_shape_iff (hspec : spec.HasExactLimits) (k : Kind) (v : k.Value) :
    spec.check (k.shape v) = .ok () ↔
      k.entryCount? v ≠ some 0 ∧
        (∀ s ∈ k.freeTexts v, (k.textQuoting spec.quoting).Fits s) ∧
          ∀ n ∈ k.numbersOf v, spec.Allows n := by
  have hlength {α : Type} (l : List α) : some l.length ≠ some 0 ↔ l ≠ [] := by simp
  cases k with
  | numbers =>
      rw [shape, FieldSpec.check_comparison_iff, List.forall_mem_map]
      simp only [checkScalar_uint32 spec _ _ hspec, entryCount?, freeTexts, numbersOf, hlength,
        List.forall_mem_map, List.not_mem_nil, false_implies, implies_true, true_and, ne_eq,
        List.map_eq_nil_iff]
  | rarities =>
      rw [shape, FieldSpec.check_comparison_iff, List.forall_mem_map]
      simp only [checkScalar_token, entryCount?, freeTexts, numbersOf, hlength, List.not_mem_nil,
        false_implies, implies_true, and_true, ne_eq, List.map_eq_nil_iff]
  | texts =>
      rw [shape, FieldSpec.check_comparison_iff, List.forall_mem_map]
      simp only [FieldSpec.checkScalar_text, FieldSpec.checkText_iff_fits, entryCount?, freeTexts,
        numbersOf, textQuoting, hlength, List.not_mem_nil, false_implies, implies_true, and_true,
        ne_eq, List.map_eq_nil_iff]
  | textList =>
      rw [shape, FieldSpec.check_quotedList_iff]
      simp only [entryCount?, freeTexts, numbersOf, textQuoting, Quoting.Fits, hlength,
        List.not_mem_nil, false_implies, implies_true, and_true]
  | flag =>
      rw [shape, FieldSpec.check_scalar_iff]
      simp [entryCount?, freeTexts, numbersOf]
  | number =>
      rw [shape, FieldSpec.check_scalar_iff, checkScalar_uint32 spec _ _ hspec]
      simp [entryCount?, freeTexts, numbersOf]
  | word =>
      rw [shape, FieldSpec.check_scalar_iff, FieldSpec.checkScalar_text,
        FieldSpec.checkText_iff_fits]
      simp [entryCount?, freeTexts, numbersOf, textQuoting]
  | quotedText =>
      rw [shape, FieldSpec.check_quotedList_iff]
      simp [entryCount?, freeTexts, numbersOf, textQuoting, Quoting.Fits]
  | gemQuality =>
      rw [shape, FieldSpec.check_scalar_iff]
      simp [checkScalar_token, entryCount?, freeTexts, numbersOf]
  | influence =>
      rw [shape, FieldSpec.check_scalar_iff]
      simp [checkScalar_token, entryCount?, freeTexts, numbersOf]
  | color =>
      rw [shape, FieldSpec.check_tuple_iff]
      cases h : v.alpha with
      | none =>
          simp [checkScalar_uint8 spec _ _ hspec, entryCount?, freeTexts, numbersOf, h]
      | some a =>
          simp [checkScalar_uint8 spec _ _ hspec, entryCount?, freeTexts, numbersOf, h]
  | sound =>
      rw [shape, FieldSpec.check_tuple_iff]
      cases h : v.id with
      | none =>
          -- The word that stands for no sound is fixed by the program.
          have hnone : spec.checkScalar true false (.text "None") = .ok () := by
            rw [FieldSpec.checkScalar_text]
            exact FieldSpec.checkText_of_isWord true false (by decide)
          simp [checkScalar_uint32 spec _ _ hspec, entryCount?, freeTexts, numbersOf, h, hnone]
      | some id =>
          simp [checkScalar_uint32 spec _ _ hspec, entryCount?, freeTexts, numbersOf, h]
  | icon =>
      rw [shape, FieldSpec.check_tuple_iff]
      simp [checkScalar_uint8 spec _ _ hspec, checkScalar_token, entryCount?, freeTexts, numbersOf]
  | effect =>
      rw [shape, FieldSpec.check_tuple_iff]
      cases h : v.duration with
      | none => simp [checkScalar_token, entryCount?, freeTexts, numbersOf]
      | some d => simp [checkScalar_token, entryCount?, freeTexts, numbersOf]

end Check

end Kind

namespace Field

/-- The settings whose texts stand between quotes. -/
def quotedTexts : List Field :=
  [.condition .itemClass, .condition .baseType, .condition .prophecy, .action .customAlertSound]

/-- The settings whose texts stand bare. -/
def bareTexts : List Field :=
  [.condition .socketGroup, .condition .hasExplicitMod, .condition .hasEnchantment,
    .condition .enchantmentPassiveNode]

/-- The limits of all settings are small. -/
theorem hasExactLimits (f : Field) : f.spec.HasExactLimits := by
  intro least most h
  rw [range_spec] at h
  unfold range at h
  split at h
  all_goals cases h
  all_goals decide

/-- What a field accepts of its values. -/
theorem check_eq_ok_iff (f : Field) (v : f.kind.Value) :
    f.spec.check (f.kind.shape v) = .ok () ↔
      f.kind.entryCount? v ≠ some 0 ∧
        (∀ s ∈ f.kind.freeTexts v, (f.kind.textQuoting f.quoting).Fits s) ∧
          ∀ n ∈ f.kind.numbersOf v, f.spec.Allows n := by
  have hcheck := Kind.check_shape_iff f.spec f.hasExactLimits f.kind v
  rwa [quoting_spec] at hcheck

/-- A setting whose values have free texts quotes them or writes them bare, and
    is listed accordingly. -/
theorem textQuoting_cases (f : Field) :
    (f ∈ quotedTexts ∧ f.kind.textQuoting f.quoting = .quoted) ∨
      (f ∈ bareTexts ∧ f.kind.textQuoting f.quoting = .bare) ∨
        ∀ v : f.kind.Value, f.kind.freeTexts v = [] := by
  rcases f with c | a
  · cases c
    all_goals first
      | exact Or.inl (by decide)
      | exact Or.inr (Or.inl (by decide))
      | exact Or.inr (Or.inr fun v => rfl)
  · cases a
    all_goals first
      | exact Or.inl (by decide)
      | exact Or.inr (Or.inr fun v => rfl)

/-- Texts are quoted where they are listed as quoted. -/
theorem textQuoting_of_mem_quotedTexts :
    ∀ f ∈ quotedTexts, f.kind.textQuoting f.quoting = .quoted := by
  decide

/-- Texts are bare where they are listed as bare. -/
theorem textQuoting_of_mem_bareTexts :
    ∀ f ∈ bareTexts, f.kind.textQuoting f.quoting = .bare := by
  decide

/-- Four actions limit their numbers, and no other setting does. -/
theorem range_cases (f : Field) :
    f = .action .setFontSize ∨ f = .action .playAlertSound ∨
      f = .action .playAlertSoundPositional ∨ f = .action .minimapIcon ∨ f.spec.range = none := by
  rw [range_spec]
  unfold range
  split
  · exact Or.inl rfl
  · exact Or.inr (Or.inl rfl)
  · exact Or.inr (Or.inr (Or.inl rfl))
  · exact Or.inr (Or.inr (Or.inr (Or.inl rfl)))
  · exact Or.inr (Or.inr (Or.inr (Or.inr rfl)))

end Field

namespace AlertSound

/-- The identifier, if there is one, and the volume are not too great. -/
def IsModest (s : AlertSound) : Prop :=
  (∀ id, s.id = some id → id ≤ 300) ∧ s.volume ≤ 300

/-- The numbers of a sound are its identifier and its volume. -/
theorem isModest_iff (s : AlertSound) :
    s.IsModest ↔ ∀ n ∈ Kind.numbersOf .sound s, 0 ≤ n ∧ n ≤ 300 := by
  cases h : s.id with
  | none => simp [IsModest, Kind.numbersOf, h, UInt32.le_iff_toNat_le]
  | some id => simp [IsModest, Kind.numbersOf, h, UInt32.le_iff_toNat_le]

end AlertSound

namespace Rule

/-- A rule can be written. The settings that are not mentioned, and the parts of
    values that are not mentioned, are free. -/
structure IsWritable (r : Rule) : Prop where
  /-- Comparisons, of numbers, rarities or texts, and lists have an entry. -/
  entries : ∀ (f : Field) (v : f.kind.Value), r.Sets f v → f.kind.entryCount? v ≠ some 0
  /-- Texts that are written between quotes can stand there. -/
  quoted : ∀ f ∈ Field.quotedTexts, ∀ v : f.kind.Value, r.Sets f v →
    ∀ s ∈ f.kind.freeTexts v, Text.IsQuotable s
  /-- Texts that are written bare are words. -/
  bare : ∀ f ∈ Field.bareTexts, ∀ v : f.kind.Value, r.Sets f v →
    ∀ s ∈ f.kind.freeTexts v, Text.IsWord s
  fontSize : ∀ actions : Actions, r.actions = some actions →
    ∀ n : UInt32, actions.get .setFontSize = some n → 1 ≤ n ∧ n ≤ 45
  sound : ∀ actions : Actions, r.actions = some actions →
    ∀ s : AlertSound, actions.get .playAlertSound = some s → s.IsModest
  positionalSound : ∀ actions : Actions, r.actions = some actions →
    ∀ s : AlertSound, actions.get .playAlertSoundPositional = some s → s.IsModest
  iconSize : ∀ actions : Actions, r.actions = some actions →
    ∀ i : MinimapIcon, actions.get .minimapIcon = some i → i.size ≤ 2

/-- A rule can be written exactly when no field refuses its value. -/
theorem isWritable_iff (r : Rule) : r.IsWritable ↔ r.IsAccepted := by
  constructor
  · intro h f v hv
    rw [← sets_iff_get] at hv
    rw [Field.check_eq_ok_iff]
    refine ⟨h.entries f v hv, fun s hs => ?_, fun n hn => ?_⟩
    -- The first goal asks which fields quote texts, the second which limit numbers.
    · rcases f.textQuoting_cases with ⟨hf, hq⟩ | ⟨hf, hq⟩ | hnone
      · rw [hq]
        exact h.quoted f hf v hv s hs
      · rw [hq]
        exact h.bare f hf v hv s hs
      · rw [hnone v] at hs
        exact absurd hs List.not_mem_nil
    · rcases f.range_cases with rfl | rfl | rfl | rfl | hrange
      · rcases hv with ⟨actions, hactions, hv⟩
        have hsize := h.fontSize actions hactions v hv
        rw [FieldSpec.allows_iff_of_range 1 45 (Field.range_spec _), List.mem_singleton.mp hn]
        exact hsize
      · rcases hv with ⟨actions, hactions, hv⟩
        rw [FieldSpec.allows_iff_of_range 0 300 (Field.range_spec _)]
        exact (AlertSound.isModest_iff v).mp (h.sound actions hactions v hv) n hn
      · rcases hv with ⟨actions, hactions, hv⟩
        rw [FieldSpec.allows_iff_of_range 0 300 (Field.range_spec _)]
        exact (AlertSound.isModest_iff v).mp (h.positionalSound actions hactions v hv) n hn
      · rcases hv with ⟨actions, hactions, hv⟩
        have hsize := h.iconSize actions hactions v hv
        rw [FieldSpec.allows_iff_of_range 0 2 (Field.range_spec _), List.mem_singleton.mp hn]
        exact ⟨Nat.zero_le _, hsize⟩
      · exact FieldSpec.allows_of_range_eq_none hrange n
  · intro h
    -- Each part of the description looks at some fields, and reads off their check.
    have haccepted (f : Field) (v : f.kind.Value) (hv : r.Sets f v) :=
      (Field.check_eq_ok_iff f v).mp (h f v ((r.sets_iff_get f v).mp hv))
    refine ⟨?_, ?_, ?_, ?_, ?_, ?_, ?_⟩
    · intro f v hv
      exact (haccepted f v hv).1
    · intro f hf v hv s hs
      have hfits := (haccepted f v hv).2.1 s hs
      rwa [Field.textQuoting_of_mem_quotedTexts f hf] at hfits
    · intro f hf v hv s hs
      have hfits := (haccepted f v hv).2.1 s hs
      rwa [Field.textQuoting_of_mem_bareTexts f hf] at hfits
    · intro actions hactions n hn
      have hallows := (haccepted (.action .setFontSize) n ⟨actions, hactions, hn⟩).2.2 n.toNat
        (List.mem_singleton_self _)
      exact (FieldSpec.allows_iff_of_range 1 45 (Field.range_spec _) _).mp hallows
    · intro actions hactions s hs
      refine (AlertSound.isModest_iff s).mpr fun n hn => ?_
      exact (FieldSpec.allows_iff_of_range 0 300 (Field.range_spec _) n).mp
        ((haccepted (.action .playAlertSound) s ⟨actions, hactions, hs⟩).2.2 n hn)
    · intro actions hactions s hs
      refine (AlertSound.isModest_iff s).mpr fun n hn => ?_
      exact (FieldSpec.allows_iff_of_range 0 300 (Field.range_spec _) n).mp
        ((haccepted (.action .playAlertSoundPositional) s ⟨actions, hactions, hs⟩).2.2 n hn)
    · intro actions hactions i hi
      have hallows := (haccepted (.action .minimapIcon) i ⟨actions, hactions, hi⟩).2.2 i.size.toNat
        (List.mem_singleton_self _)
      exact ((FieldSpec.allows_iff_of_range 0 2 (Field.range_spec _) _).mp hallows).2

end Rule

namespace Document

/-- Writable rules compile, and a list with a rule that cannot be written does
    not. -/
theorem compile_succeeds_iff (rules : List Rule) :
    (∃ d, compile rules = .ok d) ↔ ∀ r ∈ rules, r.IsWritable := by
  rw [exists_compile_eq_ok_iff, validate_eq_nil_iff]
  simp only [Rule.isWritable_iff]

/-- The greatest size of the font is accepted and a greater one is refused. -/
theorem compile_succeeds_iff_fontSizes :
    (Rule.ofFontSize 45).IsWritable ∧ ¬ ∃ d, compile [.ofFontSize 90] = .ok d := by
  constructor
  · have hcompile : ∃ d, compile [.ofFontSize 45] = .ok d := by
      rw [exists_compile_eq_ok_iff]
      decide +kernel
    exact (compile_succeeds_iff [.ofFontSize 45]).mp hcompile _ (List.mem_singleton_self _)
  · rw [compile_succeeds_iff, List.forall_mem_singleton]
    intro h
    exact absurd (h.fontSize _ rfl (90 : UInt32) rfl).2 (by decide)

end Document

end LootFilter
