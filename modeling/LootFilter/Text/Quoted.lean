import LootFilter.Text.Hexadecimal
import LootFilter.Text.Unprintable

/-!
# Quoted Texts

Messages show the text they complain about between double quotes, with every
character that could mislead a reader replaced by an escape: the quote and the
backslash, the line controls, and all that has no printed form of its own.
Paths and shape faults use the same form.

## Main definitions

* `Text.escaped`: One character of a quoted text.
* `Text.quoted`: A text between double quotes.
-/

namespace LootFilter

namespace Text

/-- One character as a quoted text shows it: itself when it can be printed,
    a short escape for quotes and line controls, and its code point in braces
    otherwise. -/
def escaped (c : Char) : List Char :=
  match c with
  | '"' => ['\\', '"']
  | '\\' => ['\\', '\\']
  | '\n' => ['\\', 'n']
  | '\r' => ['\\', 'r']
  | '\t' => ['\\', 't']
  | '\x00' => ['\\', '0']
  | c => if isPrintable c then [c] else ['\\', 'u', '{'] ++ hexDigits c.toNat ++ ['}']

/-- A text between double quotes, escaped. -/
def quoted (s : String) : String :=
  String.ofList ('"' :: s.toList.flatMap escaped ++ ['"'])

end Text

end LootFilter
