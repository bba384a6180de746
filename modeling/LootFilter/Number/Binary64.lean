/-!
# Binary64 Numbers

The numbers of the tables and of rule values are doubles of the standard
binary64 format, and their last bit shows in the answers: an attack rate is a
quotient rounded twice. The operations here are therefore exact, on natural
numbers, so that each of them is a definition that can be computed and reasoned
about.

A finite number is a sign and a rank, its place among the finite magnitudes in
rising order with zero in front. Every rank below `magnitudes` is a number and
no two ranks are the same one, so equality of values other than the two zeros
is equality of representations. All finite magnitudes are whole multiples of
the smallest positive one, `2 ^ -1074`, and `units` counts those; that makes
each finite number a natural number over the fixed denominator `unit`.

## Main definitions

* `Binary64`: A number: a sign and a rank, an infinity, or not a number.
* `Binary64.blockSize`: How many neighbouring ranks have the same step.
* `Binary64.units`: A finite magnitude in multiples of `2 ^ -1074`.
* `Binary64.ofRatio`: The number nearest to a fraction, ties to the even rank.
* `Binary64.mul`, `Binary64.div`: The rounded product and quotient.
* `Binary64.roundAway`: The nearest whole number, halves away from zero.
* `Binary64.lt`: The order of the number line.
* `Binary64.toNat?`: The whole number that a number is, if it is one.

## Theorems

* `Binary64.units_of_lt`: The first two blocks of ranks count the units
  themselves.
-/

namespace LootFilter

/-- How many ranks form a block, within which the step from one magnitude to
    the next is the same: one for every value of the fifty-two stored bits of a
    significand. -/
def Binary64.blockSize : Nat :=
  Nat.pow 2 52

/-- How many finite magnitudes there are, zero included. -/
def Binary64.magnitudes : Nat :=
  2047 * blockSize

/-- A number of the binary64 format. -/
inductive Binary64 where
  /-- The finite number whose magnitude has this rank among all of them. -/
  | finite (negative : Bool) (rank : Fin Binary64.magnitudes)
  /-- Beyond all finite numbers on one side. -/
  | infinite (negative : Bool)
  /-- The result of an operation that has none. -/
  | nan
  deriving DecidableEq

namespace Binary64

/-- How many of the smallest positive magnitudes make one. -/
def unit : Nat :=
  Nat.pow 2 1074

/-- The magnitude of a rank, in multiples of the smallest positive one. The
    first block of ranks counts units one by one, and so does the second; every
    later block doubles the step of the block before. -/
def units (rank : Nat) : Nat :=
  if rank < blockSize then rank
  else (blockSize + rank % blockSize) * Nat.pow 2 (rank / blockSize - 1)

/-- The quotient rounded to the nearest whole number, a half going to the even
    neighbour. -/
def divHalfEven (num den : Nat) : Nat :=
  let q := num / den
  let r := num % den
  if 2 * r < den then q
  else if den < 2 * r then q + 1
  else q + q % 2

/-- The rank nearest to the fraction `num / den`, ties to the even one. The
    result may reach `magnitudes` or lie above it, which means that the
    fraction is too large. -/
def nearestRank (num den : Nat) : Nat :=
  let scaled := num * unit
  let step := Nat.log2 (scaled / den) - 52
  step * blockSize + divHalfEven scaled (den * Nat.pow 2 step)

/-- The number nearest to `num / den`, with the given sign, for `0 < den`. -/
def ofRatio (negative : Bool) (num den : Nat) : Binary64 :=
  let rank := nearestRank num den
  if h : rank < magnitudes then .finite negative ⟨rank, h⟩ else .infinite negative

/-- Positive zero. -/
def zero : Binary64 :=
  .finite false ⟨0, by decide⟩

/-- The number nearest to a natural number. -/
def ofNat (n : Nat) : Binary64 :=
  ofRatio false n 1

/-- The number nearest to an integer; zero is positive. -/
def ofInt (n : Int) : Binary64 :=
  ofRatio (n < 0) n.natAbs 1

/-- The number nearest to `digits * 10 ^ exponent`. Exponents far outside the
    range of the format are decided without raising ten to them. -/
def ofDecimal (negative : Bool) (digits : Nat) (exponent : Int) : Binary64 :=
  if digits = 0 then ofRatio negative 0 1
  else if 310 < exponent then .infinite negative
  else if exponent + (Nat.toDigits 10 digits).length < -330 then ofRatio negative 0 1
  else ofRatio negative (digits * Nat.pow 10 exponent.toNat) (Nat.pow 10 (-exponent).toNat)

/-- The number is negative, negative zero and negative infinity included. -/
def isNegative : Binary64 → Bool
  | .finite s _ => s
  | .infinite s => s
  | .nan => false

/-- The number is neither infinite nor undefined. -/
def isFinite : Binary64 → Bool
  | .finite _ _ => true
  | _ => false

/-- The number is one of the two zeros. -/
def isZero : Binary64 → Bool
  | .finite _ r => r.val == 0
  | _ => false

/-- The number with the other sign. -/
def neg : Binary64 → Binary64
  | .finite s r => .finite (!s) r
  | .infinite s => .infinite (!s)
  | .nan => .nan

/-- The place on the number line, in units. Both zeros have the same place,
    and the infinities lie beyond every finite number. -/
def position : Binary64 → Option Int
  | .finite s r => some (if s then -(units r.val : Int) else units r.val)
  | .infinite s => some (if s then -(units magnitudes : Int) else units magnitudes)
  | .nan => none

/-- The first number lies below the second one; never so when either is
    undefined. -/
def lt (a b : Binary64) : Bool :=
  match a.position, b.position with
  | some x, some y => decide (x < y)
  | _, _ => false

/-- The rounded product. Zero times infinity has none. -/
def mul : Binary64 → Binary64 → Binary64
  | .nan, _ => .nan
  | _, .nan => .nan
  | .infinite s, b => if b.isZero then .nan else .infinite (s != b.isNegative)
  | a, .infinite t => if a.isZero then .nan else .infinite (a.isNegative != t)
  | .finite s a, .finite t b => ofRatio (s != t) (units a.val * units b.val) (unit * unit)

/-- The rounded quotient. Zero over zero and infinity over infinity have none;
    any other number over zero is infinite. -/
def div : Binary64 → Binary64 → Binary64
  | .nan, _ => .nan
  | _, .nan => .nan
  | .infinite _, .infinite _ => .nan
  | .infinite s, .finite t _ => .infinite (s != t)
  | .finite s _, .infinite t => ofRatio (s != t) 0 1
  | .finite s a, .finite t b =>
    if b.val = 0 then if a.val = 0 then .nan else .infinite (s != t)
    else ofRatio (s != t) (units a.val) (units b.val)

/-- The nearest whole number, a half going away from zero. -/
def roundAway : Binary64 → Binary64
  | .finite s r => ofRatio s ((2 * units r.val + unit) / (2 * unit)) 1
  | a => a

/-- The magnitude as a natural number, if it is a whole one. -/
def toNat? : Binary64 → Option Nat
  | .finite _ r => if units r.val % unit = 0 then some (units r.val / unit) else none
  | _ => none

/-- The first two blocks of ranks count the units themselves: the second one
    still has the step of the first. -/
theorem units_of_lt (rank : Nat) (h : rank < 2 * blockSize) : units rank = rank := by
  have hs : blockSize = 4503599627370496 := by decide
  unfold units
  by_cases hb : rank < blockSize
  · rw [if_pos hb]
  · rw [hs] at h hb
    have hq : rank / 4503599627370496 = 1 := by omega
    have hp : Nat.pow 2 (1 - 1) = 1 := rfl
    rw [hs, if_neg hb, hq, hp]
    omega

end Binary64

end LootFilter
