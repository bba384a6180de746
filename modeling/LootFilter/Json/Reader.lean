import LootFilter.Json.Number
import LootFilter.Text.Hexadecimal

/-!
# Reading JSON Texts

A text is read into a `Fragment`, from left to right and as far as the grammar
allows. Nothing here fails: where the text stops being JSON the fragment holds
`broken`, or an array or an object that is not closed, and the reading is over.

A string token is read in two steps. First it is cut into pieces, a character
each or the 16-bit unit that a numeric escape gives. Then the pieces are put
together, and a unit that is half a surrogate pair without its other half
leaves the token without a value.

The recursion is on a bound for the number of characters that are left. Every
nested value takes at least one character, so the length of the text suffices.

## Main definitions

* `Fragment.splitString?`: Splits a string token off a text.
* `Fragment.value`: Reads one value.
* `Fragment.ofText`: Reads a whole text.
* `Json.ofText?`: The value of a text without defects.
-/

namespace LootFilter

/-- A part of a string token. -/
inductive StringPiece where
  /-- A character, written as itself or by a short escape. -/
  | char (c : Char)
  /-- The unit that four hexadecimal digits give. -/
  | unit (n : Nat)

namespace StringPiece

/-- The text of a list of pieces. A leading surrogate needs a trailing one
    right behind it, and a trailing one needs a leading one before it. -/
def join? : List StringPiece → Option (List Char)
  | [] => some []
  | .char c :: rest => (join? rest).map (c :: ·)
  | .unit n :: rest =>
    if n < 0xD800 ∨ 0xDFFF < n then (join? rest).map (Char.ofNat n :: ·)
    else if 0xDC00 ≤ n then none
    else match rest with
      | .unit m :: rest =>
        if 0xDC00 ≤ m ∧ m ≤ 0xDFFF then
          (join? rest).map (Char.ofNat (0x10000 + (n - 0xD800) * 0x400 + (m - 0xDC00)) :: ·)
        else none
      | _ => none

end StringPiece

namespace Fragment

/-- The white space of the JSON grammar. -/
def isSpace (c : Char) : Bool :=
  c == ' ' || c == '\n' || c == '\t' || c == '\r'

/-- A text behind its leading white space. -/
def skipSpace (cs : List Char) : List Char :=
  cs.dropWhile isSpace

/-- The unit that four hexadecimal digits give. -/
def hexUnit? (a b c d : Char) : Option Nat := do
  let a ← Text.hexValue? a
  let b ← Text.hexValue? b
  let c ← Text.hexValue? c
  let d ← Text.hexValue? d
  return ((a * 16 + b) * 16 + c) * 16 + d

/-- The character that a short escape stands for. -/
def shortEscape? : Char → Option Char
  | '"' => some '"'
  | '\\' => some '\\'
  | '/' => some '/'
  | 'b' => some '\x08'
  | 'f' => some '\x0c'
  | 'n' => some '\n'
  | 'r' => some '\r'
  | 't' => some '\t'
  | _ => none

/-- Splits the rest of a string token off, up to the closing quote. Control
    characters have to be escaped. -/
def splitString? : List Char → Option (List StringPiece × List Char)
  | [] => none
  | '"' :: cs => some ([], cs)
  | '\\' :: 'u' :: a :: b :: c :: d :: cs => do
    let n ← hexUnit? a b c d
    let (pieces, rest) ← splitString? cs
    return (.unit n :: pieces, rest)
  | '\\' :: e :: cs => do
    let c ← shortEscape? e
    let (pieces, rest) ← splitString? cs
    return (.char c :: pieces, rest)
  | c :: cs =>
    if c = '\\' ∨ c.toNat < 32 then none
    else (splitString? cs).map fun (pieces, rest) => (.char c :: pieces, rest)

/-- A fragment and the text behind it; no text if the reading is over. -/
abbrev Reading (α : Type) :=
  α × Option (List Char)

/-- Reads a string token behind its opening quote. -/
def stringValue (cs : List Char) : Reading Fragment :=
  match splitString? cs with
  | some (pieces, rest) => (.string ((StringPiece.join? pieces).map String.ofList), some rest)
  | none => (.broken, none)

/-- Reads a number token. -/
def numberValue (cs : List Char) : Reading Fragment :=
  match NumberToken.split? cs with
  | some (token, rest) => (.number token.value?, some rest)
  | none => (.broken, none)

mutual

/-- Reads one value, leading white space included. -/
def value (fuel : Nat) (cs : List Char) : Reading Fragment :=
  match fuel with
  | 0 => (.broken, none)
  | fuel + 1 =>
    match skipSpace cs with
    | 'n' :: 'u' :: 'l' :: 'l' :: rest => (.null, some rest)
    | 't' :: 'r' :: 'u' :: 'e' :: rest => (.bool true, some rest)
    | 'f' :: 'a' :: 'l' :: 's' :: 'e' :: rest => (.bool false, some rest)
    | '"' :: rest => stringValue rest
    | '[' :: rest =>
      match skipSpace rest with
      | ']' :: rest => (.array [] true, some rest)
      | rest =>
        let ((items, closed), rest) := items fuel rest
        (.array items closed, rest)
    | '{' :: rest =>
      match skipSpace rest with
      | '}' :: rest => (.object [] true, some rest)
      | rest =>
        let ((members, closed), rest) := members fuel rest
        (.object members closed, rest)
    | cs => numberValue cs

/-- Reads the items of an array from the first one on, and tells whether the
    closing bracket was reached. -/
def items (fuel : Nat) (cs : List Char) : Reading (List Fragment × Bool) :=
  match fuel with
  | 0 => (([], false), none)
  | fuel + 1 =>
    match value fuel cs with
    | (item, none) => (([item], false), none)
    | (item, some rest) =>
      match skipSpace rest with
      | ',' :: rest =>
        let ((more, closed), rest) := items fuel rest
        ((item :: more, closed), rest)
      | ']' :: rest => (([item], true), some rest)
      | _ => (([item], false), none)

/-- Reads the members of an object from the first key on, and tells whether the
    closing brace was reached. -/
def members (fuel : Nat) (cs : List Char) : Reading (List (Fragment × Fragment) × Bool) :=
  match fuel with
  | 0 => (([], false), none)
  | fuel + 1 =>
    match value fuel cs with
    | (.string s, some rest) =>
      match skipSpace rest with
      | ':' :: rest =>
        match value fuel rest with
        | (v, none) => (([(.string s, v)], false), none)
        | (v, some rest) =>
          match skipSpace rest with
          | ',' :: rest =>
            let ((more, closed), rest) := members fuel rest
            (((.string s, v) :: more, closed), rest)
          | '}' :: rest => (([(.string s, v)], true), some rest)
          | _ => (([(.string s, v)], false), none)
      | _ => (([(.string s, .broken)], false), none)
    | (key, _) => (([(key, .broken)], false), none)

end

/-- The tree that a text starts with, and whether only white space follows
    it. -/
def ofText (s : String) : Fragment × Bool :=
  let cs := s.toList
  match value (cs.length + 1) cs with
  | (f, some rest) => (f, (skipSpace rest).isEmpty)
  | (f, none) => (f, false)

end Fragment

/-- How deep the arrays and objects of a value may nest. -/
def Json.depthLimit : Nat :=
  127

/-- The value that a text writes, if the text has no defect and does not nest
    too deep. -/
def Json.ofText? (s : String) : Option Json :=
  match Fragment.ofText s with
  | (f, true) => f.toJson? Json.depthLimit
  | (_, false) => none

end LootFilter
