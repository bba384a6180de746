import LootFilter.Json.Basic
import LootFilter.Number.Reading

/-!
# Numbers in JSON Texts

A number token is split into its parts by the grammar and then given a value.
The value is not always the double nearest to the decimal. Its digits are
gathered into one 64-bit significand as long as they fit, the rest are dropped,
and the significand is then multiplied or divided once by a power of ten, with
the rounding of doubles at each step. So `1000000000000000.5` is read one
eighth lower than the nearest double would be, and whoever compares tables read
here with tables read elsewhere will meet the difference.

## Main definitions

* `NumberToken`: The parts of a number token.
* `NumberToken.split?`: Splits a number token off a text.
* `NumberToken.value?`: The number that a token denotes, if a double can hold
  it.
-/

namespace LootFilter

/-- The parts of a number token. -/
structure NumberToken where
  /-- The token starts with a minus. -/
  negative : Bool
  /-- The digits before the point. -/
  whole : List Char
  /-- The digits after the point, if there is a point. -/
  fraction : Option (List Char)
  /-- The sign and the digits of the exponent, if there is one. -/
  exponent : Option (Bool × List Char)

namespace NumberToken

/-- Splits the digits before the point off. A zero stands alone. -/
def splitWhole? : List Char → Option (List Char × List Char)
  | '0' :: cs => if (cs.head?.map Char.isDigit).getD false then none else some (['0'], cs)
  | cs =>
    let digits := cs.takeWhile Char.isDigit
    if digits.isEmpty then none else some (digits, cs.dropWhile Char.isDigit)

/-- Splits a point and the digits after it off, of which there is at least
    one. -/
def splitFraction? : List Char → Option (Option (List Char) × List Char)
  | '.' :: cs =>
    let digits := cs.takeWhile Char.isDigit
    if digits.isEmpty then none else some (some digits, cs.dropWhile Char.isDigit)
  | cs => some (none, cs)

/-- Splits an exponent off, which has at least one digit. -/
def splitExponent? : List Char → Option (Option (Bool × List Char) × List Char)
  | [] => some (none, [])
  | c :: cs =>
    if c = 'e' ∨ c = 'E' then
      let (negative, rest) := takeSign cs
      let digits := rest.takeWhile Char.isDigit
      if digits.isEmpty then none
      else some (some (negative, digits), rest.dropWhile Char.isDigit)
    else some (none, c :: cs)

/-- Splits a number token off the front of a text. -/
def split? (cs : List Char) : Option (NumberToken × List Char) := do
  let (negative, cs) := match cs with
    | '-' :: rest => (true, rest)
    | _ => (false, cs)
  let (whole, cs) ← splitWhole? cs
  let (fraction, cs) ← splitFraction? cs
  let (exponent, cs) ← splitExponent? cs
  return (⟨negative, whole, fraction, exponent⟩, cs)

/-- Appends digits to a significand as long as it fits in 64 bits. The second
    part counts the digits that were appended. -/
def gather (significand : Nat) : List Char → Nat × Nat
  | [] => (significand, 0)
  | c :: cs =>
    let next := 10 * significand + digitValue c
    if next < UInt64.size then
      let (final, count) := gather next cs
      (final, count + 1)
    else (significand, 0)

/-- Multiplies or divides by a power of ten, one rounding for every power up to
    the greatest one that is a double. A result beyond all doubles is none. -/
def scaleByTen? (x : Binary64) (exponent : Int) : Option Binary64 :=
  if 0 ≤ exponent then
    if exponent ≤ 308 then
      let y := x.mul (.ofNat (Nat.pow 10 exponent.toNat))
      if y.isFinite then some y else none
    else if x.isZero then some x
    else none
  else if -308 ≤ exponent then some (x.div (.ofNat (Nat.pow 10 exponent.natAbs)))
  else if x.isZero then some x
  else scaleByTen? (x.div (.ofNat (Nat.pow 10 308))) (exponent + 308)
termination_by exponent.natAbs
decreasing_by omega

/-- The power of ten behind the digits. -/
private def power (t : NumberToken) : Int :=
  match t.exponent with
  | none => 0
  | some (negative, digits) =>
    if negative then -(digitsValue digits : Int) else digitsValue digits

/-- The value of a token as a double: the gathered significand, scaled once. -/
def double? (t : NumberToken) : Option Binary64 :=
  let (whole, kept) := gather 0 t.whole
  let dropped := t.whole.length - kept
  let (significand, places) := gather whole (t.fraction.getD [])
  let scaled := scaleByTen? (.ofNat significand) (t.power + dropped - places)
  scaled.map fun x => if t.negative then x.neg else x

/-- The number that a token denotes. A token without point and exponent is an
    integer if it lies within the signed or the unsigned 64-bit range. Minus
    zero is a double. -/
def value? (t : NumberToken) : Option Json.Number :=
  let n := digitsValue t.whole
  if t.fraction.isNone && t.exponent.isNone && !t.negative && n < UInt64.size then
    some (.int n)
  else if t.fraction.isNone && t.exponent.isNone && t.negative && n ≠ 0 && 2 * n ≤ UInt64.size then
    some (.int (-n))
  else t.double?.map .float

end NumberToken

end LootFilter
