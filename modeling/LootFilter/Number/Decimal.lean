import LootFilter.Number.Binary64

/-!
# Shortest Decimal Digits

A finite number is written with the fewest significant digits that read back
as that number, and of those with the ones nearest to it. A decimal reads back
exactly when it lies between the midpoints to the two neighbouring magnitudes,
the midpoints themselves included when the rank is even, because a tie is read
as the even rank.

If some decimal with a given number of digits lies in that interval, then one
of the two decimals of that length next to the number does. So the search
tries the lengths in rising order and looks at those two alone. All
comparisons are between natural numbers.

How the digits are then laid out, and which way an exact tie between two
decimals goes, is a decision of each format. A `Layout` records it.

## Main definitions

* `Decimal`: Digits and a power of ten.
* `Binary64.shortest`: The shortest decimal of a positive rank.
* `Layout`: How a format writes a decimal.
* `Layout.write`: The text of a number in a format.

## Theorems

* `Binary64.mem_plain`: The characters of a number in a message or on a line.
-/

namespace LootFilter

/-- The number `digits * 10 ^ exponent`. -/
structure Decimal where
  /-- The significant digits, read as one whole number. -/
  digits : Nat
  /-- The power of ten that they are multiples of. -/
  exponent : Int
  deriving DecidableEq

namespace Binary64

/-- Compares the decimal `digits * 10 ^ exponent` with a number of half
    units. -/
private def compareHalves (digits : Nat) (exponent : Int) (halves : Nat) : Ordering :=
  compare (digits * Nat.pow 10 exponent.toNat * (2 * unit))
    (halves * Nat.pow 10 (-exponent).toNat)

/-- The decimal reads back as the magnitude of the rank. -/
private def readsAs (rank digits : Nat) (exponent : Int) : Bool :=
  let low := units (rank - 1) + units rank
  let high := units rank + units (rank + 1)
  let atLow := compareHalves digits exponent low
  let atHigh := compareHalves digits exponent high
  if rank % 2 = 0 then atLow != .lt && atHigh != .gt else atLow == .gt && atHigh == .lt

/-- The multiple of `10 ^ exponent` at or below the magnitude of the rank,
    over that power. -/
private def floorDigits (rank : Nat) (exponent : Int) : Nat :=
  units rank * Nat.pow 10 (-exponent).toNat / (unit * Nat.pow 10 exponent.toNat)

/-- Of the two decimals around the magnitude, the nearer one; `tieUp` decides
    between two equally near ones, the even digit winning otherwise. -/
private def nearerDigits (tieUp : Bool) (rank digits : Nat) (exponent : Int) : Nat :=
  match compareHalves (2 * digits + 1) exponent (4 * units rank) with
  | .lt => digits + 1
  | .gt => digits
  | .eq => if tieUp then digits + 1 else digits + digits % 2

/-- The decimal on the grid `10 ^ exponent` that reads back as the rank, if
    there is one. -/
private def onGrid (tieUp : Bool) (rank : Nat) (exponent : Int) : Option Nat :=
  let below := floorDigits rank exponent
  match readsAs rank below exponent, readsAs rank (below + 1) exponent with
  | true, true => some (nearerDigits tieUp rank below exponent)
  | true, false => some below
  | false, true => some (below + 1)
  | false, false => none

/-- The first grid, from coarse to fine, that holds a decimal of the rank. -/
private def searchGrid (tieUp : Bool) (rank : Nat) : Nat → Int → Decimal
  | 0, exponent => ⟨floorDigits rank exponent, exponent⟩
  | fuel + 1, exponent =>
    match onGrid tieUp rank exponent with
    | some digits => ⟨digits, exponent⟩
    | none => searchGrid tieUp rank fuel (exponent - 1)

/-- The decimal without trailing zeros among its digits. -/
private def dropZeros : Nat → Decimal → Decimal
  | 0, d => d
  | fuel + 1, d =>
    if d.digits ≠ 0 ∧ d.digits % 10 = 0 then dropZeros fuel ⟨d.digits / 10, d.exponent + 1⟩ else d

/-- The number of decimal places of the whole part of a magnitude, or minus
    the number of zeros after the point when there is no whole part. -/
private def places (rank : Nat) : Int :=
  let whole := units rank / unit
  if whole = 0 then
    -- The least power of ten that brings the magnitude up to one or more.
    1 - ((List.range 330).find? (fun k => unit ≤ units rank * Nat.pow 10 k)).getD 330
  else (Nat.toDigits 10 whole).length

/-- The shortest decimal that reads back as a positive rank, and of those the
    nearest one. Seventeen digits always suffice. -/
def shortest (tieUp : Bool) (rank : Nat) : Decimal :=
  dropZeros 20 (searchGrid tieUp rank 17 (places rank - 1))

end Binary64

/-- How a format writes its numbers. -/
structure Layout where
  /-- The exponents of the leading digit that are written without an exponent
      part, from the least to the greatest; `none` if all of them are. -/
  positional : Option (Int × Int)
  /-- Whole numbers keep a point and a zero. -/
  keepsPoint : Bool
  /-- Of two shortest decimals equally near, the greater one is taken. -/
  tieUp : Bool

namespace Layout

/-- Zeros, as characters. -/
private def zeros (n : Nat) : List Char :=
  List.replicate n '0'

/-- The digits with the point in its place. -/
private def positionalChars (keepsPoint : Bool) (digits : List Char) (exponent : Int) :
    List Char :=
  let point := exponent + digits.length
  if 0 ≤ exponent then
    digits ++ zeros exponent.toNat ++ (if keepsPoint then ['.', '0'] else [])
  else if 0 < point then
    digits.take point.toNat ++ '.' :: digits.drop point.toNat
  else '0' :: '.' :: zeros (-point).toNat ++ digits

/-- The leading digit, the others behind the point, and the signed exponent. -/
private def scientificChars (digits : List Char) (exponent : Int) : List Char :=
  let leading := exponent + digits.length - 1
  digits.take 1 ++ (if digits.length ≤ 1 then [] else '.' :: digits.drop 1) ++
    'e' :: (if leading < 0 then '-' else '+') :: Nat.toDigits 10 leading.natAbs

/-- A decimal in a format. -/
def writeDecimal (layout : Layout) (d : Decimal) : List Char :=
  let digits := Nat.toDigits 10 d.digits
  let leading := d.exponent + digits.length - 1
  let inside := match layout.positional with
    | none => true
    | some (least, most) => least ≤ leading && leading ≤ most
  if inside then positionalChars layout.keepsPoint digits d.exponent
  else scientificChars digits d.exponent

/-- A number in a format. Zero keeps its sign. -/
def write (layout : Layout) : Binary64 → List Char
  | .nan => ['N', 'a', 'N']
  | .infinite s => (if s then ['-'] else []) ++ ['i', 'n', 'f']
  | .finite s r =>
    (if s then ['-'] else []) ++
      if r.val = 0 then layout.writeDecimal ⟨0, 0⟩
      else layout.writeDecimal (Binary64.shortest layout.tieUp r.val)

end Layout

/-- Numbers in messages and on filter lines are never written with an
    exponent, and a whole number has no point. -/
def plainLayout : Layout :=
  ⟨none, false, true⟩

/-- A number as messages and filter lines write it. -/
def Binary64.plain (x : Binary64) : String :=
  String.ofList (plainLayout.write x)

namespace Layout

/-- Without an exponent part a decimal is written by digits and a point. -/
theorem mem_writeDecimal_plain (d : Decimal) (c : Char) (h : c ∈ plainLayout.writeDecimal d) :
    c.isDigit = true ∨ c = '.' := by
  have hdigits (c : Char) (hc : c ∈ Nat.toDigits 10 d.digits) : c.isDigit = true :=
    Nat.isDigit_of_mem_toDigits (by decide) (by decide) hc
  have hzeros (n : Nat) (c : Char) (hc : c ∈ zeros n) : c.isDigit = true := by
    rw [List.eq_of_mem_replicate hc]
    rfl
  have hplaced : c ∈ positionalChars false (Nat.toDigits 10 d.digits) d.exponent := h
  unfold positionalChars at hplaced
  simp only [Bool.false_eq_true, if_false, List.append_nil] at hplaced
  split at hplaced
  · rcases List.mem_append.mp hplaced with hc | hc
    · exact Or.inl (hdigits c hc)
    · exact Or.inl (hzeros _ c hc)
  · split at hplaced
    · rcases List.mem_append.mp hplaced with hc | hc
      · exact Or.inl (hdigits c (List.mem_of_mem_take hc))
      · rcases List.mem_cons.mp hc with hc | hc
        · exact Or.inr hc
        · exact Or.inl (hdigits c (List.mem_of_mem_drop hc))
    · rcases List.mem_cons.mp hplaced with rfl | hc
      · exact Or.inl rfl
      · rcases List.mem_cons.mp hc with hc | hc
        · exact Or.inr hc
        · rcases List.mem_append.mp hc with hc | hc
          · exact Or.inl (hzeros _ c hc)
          · exact Or.inl (hdigits c hc)

end Layout

/-- A finite number is written by digits, a point and a minus sign. -/
theorem Binary64.mem_plain (x : Binary64) (hx : x.isFinite = true) (c : Char)
    (h : c ∈ x.plain.toList) : c.isDigit = true ∨ c = '.' ∨ c = '-' := by
  rw [plain, String.toList_ofList] at h
  cases x with
  | finite s r =>
    rcases List.mem_append.mp h with hc | hc
    · cases s with
      | true => exact Or.inr (Or.inr (List.mem_singleton.mp hc))
      | false => exact absurd hc List.not_mem_nil
    · split at hc
      · rcases Layout.mem_writeDecimal_plain _ c hc with hc | hc
        · exact Or.inl hc
        · exact Or.inr (Or.inl hc)
      · rcases Layout.mem_writeDecimal_plain _ c hc with hc | hc
        · exact Or.inl hc
        · exact Or.inr (Or.inl hc)
  | infinite s => exact absurd hx Bool.false_ne_true
  | nan => exact absurd hx Bool.false_ne_true

end LootFilter
