import LootFilter.Text.Hexadecimal

/-!
# Tables of Characters

What a standard lays down about single characters is kept as text, close to the
form in which standards print it. A table is a sequence of words between blanks
and line breaks. Most words are code points or ranges of them, `5F` or `41-5A`.
A word that ends in a colon is a head: it says what the words behind it have in
common, up to the next head.

## Main definitions

* `Text.words`: The words of a table.
* `Text.CodeRange`: A range of code points.
* `Text.TableRow`, `Text.tableRows`: A head with its words.
* `Text.codeRanges`, `Text.labelledRanges`: The ranges of a table.
-/

namespace LootFilter

namespace Text

/-- The words of a table. -/
def words (table : String) : List (List Char) :=
  ((table.toList.map fun c => if c == '\n' then ' ' else c).splitOn ' ').filter (!·.isEmpty)

/-- The two numbers around the hyphen of a word. A word without one stands for
    the same number twice. -/
def numberPair (word : List Char) : Nat × Nat :=
  match word.splitOn '-' with
  | [a, b] => (hexNumber a, hexNumber b)
  | _ => (hexNumber word, hexNumber word)

/-- The code points from one to another, both included. -/
structure CodeRange where
  first : Nat
  last : Nat
  deriving DecidableEq

namespace CodeRange

/-- The range that a word writes. -/
def ofWord (word : List Char) : CodeRange :=
  let (first, last) := numberPair word
  ⟨first, last⟩

/-- The code point lies in the range. -/
def contains (r : CodeRange) (n : Nat) : Bool :=
  r.first ≤ n && n ≤ r.last

end CodeRange

/-- The words behind a head. -/
structure TableRow where
  /-- The head without its colon. -/
  head : List Char
  words : List (List Char)

/-- The rows of a table whose first word is a head. -/
def tableRows (table : String) : List TableRow :=
  ((words table).foldr (fun word (pending, rows) =>
    if word.getLast? = some ':' then ([], ⟨word.dropLast, pending⟩ :: rows)
    else (word :: pending, rows)) ([], [])).2

/-- The ranges of a table without heads. -/
def codeRanges (table : String) : Array CodeRange :=
  ((words table).map .ofWord).toArray

/-- The code point lies in one of the ranges. -/
def inRanges (ranges : Array CodeRange) (n : Nat) : Bool :=
  ranges.any (·.contains n)

/-- The ranges of a table with heads, each with the value of its head. -/
def labelledRanges {α : Type} (value : List Char → α) (table : String) :
    Array (CodeRange × α) :=
  ((tableRows table).flatMap fun row =>
    let label := value row.head
    row.words.map fun word => (.ofWord word, label)).toArray

/-- The first of the ranges in which the code point lies, with its value. -/
def labelled? {α : Type} (ranges : Array (CodeRange × α)) (n : Nat) : Option (CodeRange × α) :=
  ranges.find? (·.1.contains n)

end Text

end LootFilter
