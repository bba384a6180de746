import LootFilter.Rule.Basic

/-!
# Scalars

The single values of a filter line: numbers, texts, truth values, and the
absent value that a slot of a tuple may hold. An absent value is written as
nothing at all, so its slot remains as two neighbouring spaces or as a space at
the end of the line.

Whole numbers of fewer than sixteen digits are written as integers, and minus
zero as zero. All other numbers are written by their shortest digits without an
exponent, which for whole ones of that size is again an integer.

## Main definitions

* `Scalar`: A single value of a line.
* `Quoting`: Whether texts stand between quotes.
* `Scalar.render`, `Scalar.renderWith`: The text of a value.
-/

namespace LootFilter

/-- A single value as it stands on a filter line. -/
inductive Scalar where
  | number (x : Binary64)
  | text (s : String)
  | bool (b : Bool)
  /-- A slot without a value. -/
  | absent
  deriving DecidableEq

/-- Whether the texts of a field stand between quotes. -/
inductive Quoting where
  | bare
  | quoted
  deriving DecidableEq

namespace Scalar

/-- An unsigned number. -/
def ofNat (n : Nat) : Scalar :=
  .number (.ofNat n)

/-- The word of a vocabulary. -/
def ofToken {α : Type} [Vocabulary α] (a : α) : Scalar :=
  .text (Vocabulary.token a)

/-- A number as a filter line has it. -/
def numberText (x : Binary64) : String :=
  match x.toNat? with
  | some n =>
    if n < Nat.pow 10 15 then (if x.isNegative && n != 0 then "-" else "") ++ toString n
    else x.plain
  | none => x.plain

/-- The text of a value without quotes. -/
def render : Scalar → String
  | .number x => numberText x
  | .text s => s
  | .bool true => "True"
  | .bool false => "False"
  | .absent => ""

/-- A text between quotes. Nothing in it is escaped. -/
def quote (s : String) : String :=
  "\"" ++ s ++ "\""

/-- The text of a value; texts stand between quotes if the field wants it. -/
def renderWith (quoting : Quoting) : Scalar → String
  | .text s =>
    match quoting with
    | .quoted => quote s
    | .bare => s
  | v => v.render

end Scalar

/-- Texts separated by single spaces. -/
def spaced (words : List String) : String :=
  " ".intercalate words

end LootFilter
