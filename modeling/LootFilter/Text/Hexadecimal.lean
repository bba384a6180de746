/-!
# Hexadecimal Digits

The digits in base sixteen that escapes and tables of characters are written
in. They are written in lower case and read in either case.

## Main definitions

* `Text.hexDigits`: The digits of a number.
* `Text.hexValue?`: The value of a digit.
* `Text.hexNumber`: The number of some digits.
-/

namespace LootFilter

namespace Text

/-- The lower-case hexadecimal digits of a number. -/
def hexDigits (n : Nat) : List Char :=
  Nat.toDigits 16 n

/-- The value of a hexadecimal digit of either case. -/
def hexValue? (c : Char) : Option Nat :=
  if c.isDigit then some (c.toNat - '0'.toNat)
  else if 'a' ≤ c ∧ c ≤ 'f' then some (c.toNat - 'a'.toNat + 10)
  else if 'A' ≤ c ∧ c ≤ 'F' then some (c.toNat - 'A'.toNat + 10)
  else none

/-- The number that hexadecimal digits write. Any other character counts as a
    zero. -/
def hexNumber (digits : List Char) : Nat :=
  digits.foldl (fun n c => 16 * n + (hexValue? c).getD 0) 0

end Text

end LootFilter
