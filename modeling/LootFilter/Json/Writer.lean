import LootFilter.Json.Basic
import LootFilter.Text.Quoted

/-!
# Writing JSON Texts

Two layouts of a value: the compact one without white space, and the pretty one
with a member or an item per line and two spaces of indent for every level.
Members are written in the order of the list. In a string only the quote, the
backslash and the control characters below the space are escaped, the usual
ones by their short escapes.

A double always keeps a point or an exponent, so that it is read back as a
double; one that is not finite has no text in JSON and is written as `null`.

## Main definitions

* `Json.layout`: How doubles are laid out.
* `Json.compact`: The text without white space.
* `Json.pretty`: The indented text.
-/

namespace LootFilter

namespace Json

/-- Doubles have an exponent part from `1e+16` up and below `0.00001`, whole
    ones keep a point, and of two equally short decimals the one with the even
    last digit is taken. -/
def layout : Layout :=
  ⟨some (-5, 15), true, false⟩

/-- One character of a string token. -/
def escapedChar (c : Char) : List Char :=
  match c with
  | '"' => ['\\', '"']
  | '\\' => ['\\', '\\']
  | '\x08' => ['\\', 'b']
  | '\x0c' => ['\\', 'f']
  | '\n' => ['\\', 'n']
  | '\r' => ['\\', 'r']
  | '\t' => ['\\', 't']
  | c =>
    if c.toNat < 16 then ['\\', 'u', '0', '0', '0'] ++ Text.hexDigits c.toNat
    else if c.toNat < 32 then ['\\', 'u', '0', '0'] ++ Text.hexDigits c.toNat
    else [c]

/-- A string token. -/
def stringChars (s : String) : List Char :=
  '"' :: s.toList.flatMap escapedChar ++ ['"']

/-- An integer in decimal digits. -/
def intChars (n : Int) : List Char :=
  if n < 0 then '-' :: Nat.toDigits 10 n.natAbs else Nat.toDigits 10 n.natAbs

/-- A number token, or `null` for a double that is not finite. -/
def numberChars : Number → List Char
  | .int n => intChars n
  | .float x => if x.isFinite then layout.write x else ['n', 'u', 'l', 'l']

mutual

/-- The compact text of a value. -/
def compactChars : Json → List Char
  | .null => ['n', 'u', 'l', 'l']
  | .bool true => ['t', 'r', 'u', 'e']
  | .bool false => ['f', 'a', 'l', 's', 'e']
  | .number n => numberChars n
  | .string s => stringChars s
  | .array items => '[' :: compactItems items ++ [']']
  | .object members => '{' :: compactMembers members ++ ['}']

/-- The items of an array, separated by commas. -/
def compactItems : List Json → List Char
  | [] => []
  | [j] => compactChars j
  | j :: rest => compactChars j ++ ',' :: compactItems rest

/-- The members of an object, separated by commas. -/
def compactMembers : List (String × Json) → List Char
  | [] => []
  | [(k, v)] => stringChars k ++ ':' :: compactChars v
  | (k, v) :: rest => stringChars k ++ ':' :: compactChars v ++ ',' :: compactMembers rest

end

/-- The text of a value without white space. -/
def compact (j : Json) : String :=
  String.ofList (compactChars j)

/-- The start of a line at a level of nesting. -/
def lineStart (level : Nat) : List Char :=
  '\n' :: List.replicate (2 * level) ' '

mutual

/-- The indented text of a value that starts at a level of nesting. -/
def prettyChars (level : Nat) : Json → List Char
  | .array [] => ['[', ']']
  | .object [] => ['{', '}']
  | .array items => '[' :: prettyItems (level + 1) items ++ lineStart level ++ [']']
  | .object members => '{' :: prettyMembers (level + 1) members ++ lineStart level ++ ['}']
  | .null => compactChars .null
  | .bool b => compactChars (.bool b)
  | .number n => compactChars (.number n)
  | .string s => compactChars (.string s)

/-- The items of an array, a line each. -/
def prettyItems (level : Nat) : List Json → List Char
  | [] => []
  | [j] => lineStart level ++ prettyChars level j
  | j :: rest => lineStart level ++ prettyChars level j ++ ',' :: prettyItems level rest

/-- The members of an object, a line each. -/
def prettyMembers (level : Nat) : List (String × Json) → List Char
  | [] => []
  | [(k, v)] => lineStart level ++ stringChars k ++ ':' :: ' ' :: prettyChars level v
  | (k, v) :: rest =>
    lineStart level ++ stringChars k ++ ':' :: ' ' :: prettyChars level v ++
      ',' :: prettyMembers level rest

end

/-- The text of a value with an item or a member per line. -/
def pretty (j : Json) : String :=
  String.ofList (prettyChars 0 j)

end Json

end LootFilter
