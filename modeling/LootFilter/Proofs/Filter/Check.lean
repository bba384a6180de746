import LootFilter.Filter.Catalogue
import LootFilter.Proofs.Number.Whole
import Mathlib.Tactic.ByContra
import Mathlib.Tactic.SplitIfs

/-!
# What a Check Accepts

The check of a field goes through the single values of the field and through
guards within each of them, and gives the first reason that it meets. The
reason depends on the order of the guards, but whether there is one does not.
So acceptance has a plain description, value by value, and this module gives it
for texts, for numbers, and for the tokens that the program itself puts on a
line.

Two sorts of text matter. Between quotes a text may hold anything but a quote
and a line break. A text that stands bare has to be a word, without any blank.
A word is fit for both places, because the line breaks are blank, and every
token of a vocabulary is a word, so a check never refuses one.

## Main definitions

* `Text.IsQuotable`: A text can stand between quotes.
* `Text.IsWord`: A text can stand bare.
* `Quoting.Fits`: A text can stand where texts are quoted or bare.
* `WordVocabulary`: A vocabulary of words.
* `FieldSpec.Allows`: A number keeps the limits of a field.

## Theorems

* `Text.isWord_iff`: Whether a text is a word can be computed.
* `FieldSpec.checkScalars_eq_ok_iff`: Values are accepted one by one.
* `FieldSpec.checkText_eq_ok_iff`: The texts that pass all guards.
* `FieldSpec.checkText_of_isWord`: A word is accepted anywhere.
* `FieldSpec.checkScalar_ofNat_iff`: A whole number has only limits to keep.
* `FieldSpec.check_scalar_iff`, `FieldSpec.check_quotedList_iff`,
  `FieldSpec.check_comparison_iff`, `FieldSpec.check_tuple_iff`: What is
  accepted of each shape.
-/

namespace LootFilter

namespace Text

/-- The text can stand between quotes: it does not end them and does not end the
    line, and there is something to quote. -/
structure IsQuotable (s : String) : Prop where
  nonempty : s ≠ ""
  no_quote : '"' ∉ s.toList
  no_lineFeed : '\n' ∉ s.toList
  no_return : '\r' ∉ s.toList

/-- The text can stand bare: it is read back as a single word. -/
structure IsWord (s : String) : Prop where
  nonempty : s ≠ ""
  no_quote : '"' ∉ s.toList
  no_blank : ∀ c ∈ s.toList, isBlank c = false

/-- Whether a text is a word is found by going through its characters once. -/
theorem isWord_iff (s : String) :
    (!s.toList.isEmpty && s.toList.all fun c => c != '"' && !isBlank c) = true ↔ IsWord s := by
  rw [Bool.and_eq_true, List.all_eq_true]
  constructor
  · rintro ⟨hnonempty, hall⟩
    refine ⟨fun hs => ?_, fun hquote => ?_, fun c hc => ?_⟩
    · rw [hs] at hnonempty
      exact absurd hnonempty (by decide)
    · exact absurd (hall _ hquote) (by decide)
    · have hpair := hall c hc
      rw [Bool.and_eq_true, Bool.not_eq_true'] at hpair
      exact hpair.2
  · intro h
    refine ⟨?_, fun c hc => ?_⟩
    · rw [Bool.not_eq_true', List.isEmpty_eq_false_iff, ne_eq, String.toList_eq_nil_iff]
      exact h.nonempty
    · have hne : c ≠ '"' := fun hquote => h.no_quote (hquote ▸ hc)
      rw [Bool.and_eq_true, Bool.not_eq_true', bne_iff_ne]
      exact ⟨hne, h.no_blank c hc⟩

instance decidableIsWord (s : String) : Decidable (IsWord s) :=
  decidable_of_iff _ (isWord_iff s)

/-- A word does not hold any character that is blank. -/
theorem IsWord.not_mem_of_isBlank {s : String} (h : IsWord s) {c : Char}
    (hc : isBlank c = true) : c ∉ s.toList := by
  intro hmem
  rw [h.no_blank c hmem] at hc
  exact Bool.false_ne_true hc

/-- A word can stand between quotes as well, since line breaks are blank. -/
theorem IsWord.isQuotable {s : String} (h : IsWord s) : IsQuotable s :=
  ⟨h.nonempty, h.no_quote, h.not_mem_of_isBlank (by decide), h.not_mem_of_isBlank (by decide)⟩

end Text

namespace Quoting

/-- The text can stand where texts are quoted in this way. -/
def Fits : Quoting → String → Prop
  | bare => Text.IsWord
  | quoted => Text.IsQuotable

end Quoting

/-- A vocabulary whose tokens are words. -/
class WordVocabulary (α : Type) [Vocabulary α] : Prop where
  isWord_token : ∀ a : α, Text.IsWord (Vocabulary.token a)

instance : WordVocabulary BlockType := ⟨fun a => by cases a <;> decide⟩
instance : WordVocabulary Rarity := ⟨fun a => by cases a <;> decide⟩
instance : WordVocabulary GemQualityType := ⟨fun a => by cases a <;> decide⟩
instance : WordVocabulary Influence := ⟨fun a => by cases a <;> decide⟩
instance : WordVocabulary StandardColor := ⟨fun a => by cases a <;> decide⟩
instance : WordVocabulary IconShape := ⟨fun a => by cases a <;> decide⟩
instance : WordVocabulary EffectDuration := ⟨fun a => by cases a; decide⟩
instance : WordVocabulary Operator := ⟨fun a => by cases a <;> decide⟩

namespace FieldSpec

/-- The number keeps the limits of the field, if the field has any. -/
def Allows (spec : FieldSpec) (n : Nat) : Prop :=
  ∀ least most, spec.range = some (least, most) → least ≤ n ∧ n ≤ most

/-- The limits of the field are whole numbers that doubles can tell apart. -/
def HasExactLimits (spec : FieldSpec) : Prop :=
  ∀ least most, spec.range = some (least, most) → least < Nat.pow 2 53 ∧ most < Nat.pow 2 53

/-- A field with limits allows what lies within them. -/
theorem allows_iff_of_range {spec : FieldSpec} (least most : Nat)
    (h : spec.range = some (least, most)) (n : Nat) : spec.Allows n ↔ least ≤ n ∧ n ≤ most := by
  constructor
  · intro hallows
    exact hallows least most h
  · intro hn l m hlm
    rw [h, Option.some.injEq, Prod.mk.injEq] at hlm
    rcases hlm with ⟨rfl, rfl⟩
    exact hn

/-- A field without limits allows every number. -/
theorem allows_of_range_eq_none {spec : FieldSpec} (h : spec.range = none) (n : Nat) :
    spec.Allows n := by
  intro l m hlm
  rw [h] at hlm
  exact absurd hlm (by simp only [reduceCtorEq, not_false_eq_true])

/-- A text is checked as a text. -/
theorem checkScalar_text (spec : FieldSpec) (inTuple bare : Bool) (s : String) :
    spec.checkScalar inTuple bare (.text s) = checkText inTuple bare s :=
  rfl

/-- Truth values are always accepted. -/
@[simp]
theorem checkScalar_bool (spec : FieldSpec) (inTuple bare b : Bool) :
    spec.checkScalar inTuple bare (.bool b) = .ok () :=
  rfl

/-- An absent slot is always accepted. -/
@[simp]
theorem checkScalar_absent (spec : FieldSpec) (inTuple bare : Bool) :
    spec.checkScalar inTuple bare .absent = .ok () :=
  rfl

/-- Single values are accepted together exactly when each of them is. -/
theorem checkScalars_eq_ok_iff (spec : FieldSpec) (inTuple bare : Bool) (values : List Scalar) :
    spec.checkScalars inTuple bare values = .ok () ↔
      ∀ v ∈ values, spec.checkScalar inTuple bare v = .ok () := by
  induction values with
  | nil => simp [checkScalars]
  | cons v rest ih =>
      rw [checkScalars, List.forall_mem_cons, ← ih]
      cases h : spec.checkScalar inTuple bare v with
      | error reason =>
          -- The first value is refused, and then nothing after it is looked at.
          constructor
          · intro hbind
            cases hbind
          · rintro ⟨hok, -⟩
            cases hok
      | ok u =>
          constructor
          · intro hrest
            exact ⟨rfl, hrest⟩
          · rintro ⟨-, hrest⟩
            exact hrest

/-- The texts that pass all guards, whatever the order of the guards is. -/
theorem checkText_eq_ok_iff (inTuple bare : Bool) (s : String) :
    checkText inTuple bare s = .ok () ↔
      (s = "" → inTuple = true) ∧ '"' ∉ s.toList ∧ '\n' ∉ s.toList ∧ '\r' ∉ s.toList ∧
        (bare = true → ∀ c ∈ s.toList, Text.isBlank c = false) := by
  have hempty : s.toList.isEmpty = true ↔ s = "" := by simp
  have hbreak : (s.toList.any fun c => c == '\n' || c == '\r') = true ↔
      '\n' ∈ s.toList ∨ '\r' ∈ s.toList := by
    simp [List.any_eq_true, and_or_left, exists_or]
  have hblank : s.toList.any Text.isBlank = true ↔ ∃ c ∈ s.toList, Text.isBlank c = true :=
    List.any_eq_true
  unfold checkText
  simp only [Bool.and_eq_true, Bool.not_eq_true', List.contains_iff_mem]
  split_ifs with h1 h2 h3 h4
  · rw [false_iff]
    rintro ⟨h, -⟩
    rw [h (hempty.mp h1.1)] at h1
    exact Bool.noConfusion h1.2
  · rw [false_iff]
    rintro ⟨-, h, -⟩
    exact h h2
  · rw [false_iff]
    rintro ⟨-, -, hfeed, hreturn, -⟩
    rcases hbreak.mp h3 with h | h
    · exact hfeed h
    · exact hreturn h
  · rw [false_iff]
    rintro ⟨-, -, -, -, h⟩
    rcases hblank.mp h4.2 with ⟨c, hc, hcblank⟩
    rw [h h4.1 c hc] at hcblank
    exact Bool.noConfusion hcblank
  · -- No guard holds, which is all that the description says.
    rw [hbreak, not_or] at h3
    rw [eq_self_iff_true, true_iff]
    refine ⟨fun h => ?_, h2, h3.1, h3.2, fun hbare c hc => ?_⟩
    · by_contra hnot
      exact h1 ⟨hempty.mpr h, Bool.eq_false_iff.mpr hnot⟩
    · rw [← Bool.not_eq_true]
      intro hcblank
      exact h4 ⟨hbare, hblank.mpr ⟨c, hc, hcblank⟩⟩

/-- The texts that a field accepts between quotes. -/
theorem checkText_quoted_iff (s : String) :
    checkText false false s = .ok () ↔ Text.IsQuotable s := by
  rw [checkText_eq_ok_iff]
  constructor
  · rintro ⟨hempty, hquote, hfeed, hreturn, -⟩
    exact ⟨fun h => Bool.false_ne_true (hempty h), hquote, hfeed, hreturn⟩
  · intro h
    exact ⟨fun hs => absurd hs h.nonempty, h.no_quote, h.no_lineFeed, h.no_return,
      fun hbare => absurd hbare Bool.false_ne_true⟩

/-- A word is accepted in every place. -/
theorem checkText_of_isWord (inTuple bare : Bool) {s : String} (h : Text.IsWord s) :
    checkText inTuple bare s = .ok () :=
  (checkText_eq_ok_iff inTuple bare s).mpr ⟨fun hs => absurd hs h.nonempty, h.no_quote,
    h.isQuotable.no_lineFeed, h.isQuotable.no_return, fun _ => h.no_blank⟩

/-- The texts that a field accepts as values of a comparison or by themselves
    depend on whether it puts them between quotes. -/
theorem checkText_iff_fits (quoting : Quoting) (s : String) :
    checkText false (quoting == .bare) s = .ok () ↔ quoting.Fits s := by
  cases quoting with
  | bare =>
      constructor
      · intro h
        rcases (checkText_eq_ok_iff false true s).mp h with ⟨hempty, hquote, -, -, hblank⟩
        exact ⟨fun hs => Bool.false_ne_true (hempty hs), hquote, hblank rfl⟩
      · exact checkText_of_isWord false true
  | quoted => exact checkText_quoted_iff s

/-- A whole number is accepted exactly when it keeps the limits of the field. -/
theorem checkScalar_ofNat_iff (spec : FieldSpec) (hspec : spec.HasExactLimits)
    (inTuple bare : Bool) (n : Nat) (hn : n < Nat.pow 2 53) :
    spec.checkScalar inTuple bare (.ofNat n) = .ok () ↔ spec.Allows n := by
  rw [Scalar.ofNat, checkScalar, Binary64.isFinite_ofNat n hn, if_pos rfl, inRange]
  cases h : spec.range with
  | none =>
      simp only [true_iff]
      exact allows_of_range_eq_none h n
  | some limits =>
      rcases limits with ⟨least, most⟩
      rcases hspec least most h with ⟨hleast, hmost⟩
      rw [allows_iff_of_range least most h]
      simp only [Bool.or_eq_true, Binary64.lt_ofNat_iff _ _ hn hleast,
        Binary64.lt_ofNat_iff _ _ hmost hn]
      split_ifs with hout
      · simp only [false_iff]
        omega
      · simp only [true_iff]
        omega

/-- A single value is accepted exactly when it is accepted as the only one. -/
theorem check_scalar_iff (spec : FieldSpec) (v : Scalar) :
    spec.check (.scalar v) = .ok () ↔
      spec.checkScalar false (spec.quoting == .bare) v = .ok () := by
  have hcheck : spec.check (.scalar v) =
      spec.checkScalars false (spec.quoting == .bare && true) [v] := rfl
  rw [hcheck, Bool.and_true, checkScalars_eq_ok_iff, List.forall_mem_singleton]

/-- A list of quoted texts is accepted exactly when it has an entry and all of
    its entries can stand between quotes. -/
theorem check_quotedList_iff (spec : FieldSpec) (texts : List String) :
    spec.check (.quotedList texts) = .ok () ↔ texts ≠ [] ∧ ∀ s ∈ texts, Text.IsQuotable s := by
  cases texts with
  | nil => simp [check]
  | cons s rest =>
      have hcheck : spec.check (.quotedList (s :: rest)) =
          spec.checkScalars false (spec.quoting == .bare && false) ((s :: rest).map .text) := rfl
      rw [hcheck, Bool.and_false, checkScalars_eq_ok_iff, List.forall_mem_map]
      simp only [checkScalar_text, checkText_quoted_iff, ne_eq, reduceCtorEq, not_false_eq_true,
        true_and]

/-- A comparison is accepted exactly when it has a value and all of its values
    are accepted. -/
theorem check_comparison_iff (spec : FieldSpec) (op : Operator) (values : List Scalar) :
    spec.check (.comparison op values) = .ok () ↔
      values ≠ [] ∧ ∀ v ∈ values, spec.checkScalar false (spec.quoting == .bare) v = .ok () := by
  cases values with
  | nil => simp [check]
  | cons v rest =>
      have hcheck : spec.check (.comparison op (v :: rest)) =
          spec.checkScalars false (spec.quoting == .bare && true) (v :: rest) := rfl
      rw [hcheck, Bool.and_true, checkScalars_eq_ok_iff]
      simp only [ne_eq, reduceCtorEq, not_false_eq_true, true_and]

/-- A tuple is accepted exactly when all of its slots are. -/
theorem check_tuple_iff (spec : FieldSpec) (slots : List Scalar) :
    spec.check (.tuple slots) = .ok () ↔ ∀ v ∈ slots, spec.checkScalar true false v = .ok () := by
  have hcheck : spec.check (.tuple slots) =
      spec.checkScalars true (spec.quoting == .bare && false) slots := rfl
  rw [hcheck, Bool.and_false, checkScalars_eq_ok_iff]

end FieldSpec

end LootFilter
