/-!
# Searching Texts

Whether a word occurs in a text, letter for letter and anywhere, also within
another word.

## Main definitions

* `Text.mentions`: A word occurs in a text.

## Theorems

* `Text.occursIn_iff`: What an occurrence is.
-/

namespace LootFilter

namespace Text

/-- Some characters occur, one after another, in others. -/
def occursIn (word : List Char) : List Char → Bool
  | [] => word.isEmpty
  | c :: cs => word.isPrefixOf (c :: cs) || occursIn word cs

/-- A word occurs somewhere in a text. -/
def mentions (s word : String) : Bool :=
  occursIn word.toList s.toList

/-- A word occurs exactly if the text is something before it, the word, and
    something behind it. -/
theorem occursIn_iff (word cs : List Char) :
    occursIn word cs = true ↔ ∃ before after, cs = before ++ word ++ after := by
  induction cs with
  | nil =>
    rw [occursIn, List.isEmpty_iff]
    constructor
    · rintro rfl
      exact ⟨[], [], rfl⟩
    · rintro ⟨before, after, h⟩
      have hpair := List.append_eq_nil_iff.1 (List.append_eq_nil_iff.1 h.symm).1
      exact hpair.2
  | cons c cs ih =>
    rw [occursIn, Bool.or_eq_true, ih, List.isPrefixOf_iff_prefix]
    constructor
    · rintro (⟨after, h⟩ | ⟨before, after, rfl⟩)
      · exact ⟨[], after, h.symm⟩
      · exact ⟨c :: before, after, rfl⟩
    · rintro ⟨before, after, h⟩
      cases before with
      | nil => exact Or.inl ⟨after, h.symm⟩
      | cons b before =>
        rw [List.cons_append, List.cons_append, List.cons.injEq] at h
        exact Or.inr ⟨before, after, h.2⟩

end Text

end LootFilter
