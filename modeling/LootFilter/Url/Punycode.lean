/-!
# Punycode

The ASCII form of a label that has characters beyond ASCII. The ASCII characters
come first, and behind a hyphen stands where the others have to be inserted: in
the order of their code points, each as the distance from the one before it. A
distance counts a step for every place of the label and every code point on the
way. It is written in base 36 with a threshold for each digit that says whether
the number goes on, and the thresholds follow the size of the distances met so
far.

## Main definitions

* `Punycode.encode`: The ASCII form of a label.
* `Punycode.decode?`: The label of an ASCII form.
-/

namespace LootFilter

namespace Punycode

/-- The digit of a value below 36: letters first, then figures. -/
def digit (n : Nat) : Char :=
  if n < 26 then Char.ofNat ('a'.toNat + n) else Char.ofNat ('0'.toNat + n - 26)

/-- The value of a digit. -/
def digitValue? (c : Char) : Option Nat :=
  if c.isLower then some (c.toNat - 'a'.toNat)
  else if c.isDigit then some (c.toNat - '0'.toNat + 26)
  else none

/-- The threshold of the digit at position `k`, which counts in steps of 36. -/
def threshold (bias k : Nat) : Nat :=
  max 1 (min 26 (k - bias))

/-- The digits of a distance, from position `k` on. -/
def distanceDigits (bias k distance : Nat) : List Char :=
  let t := threshold bias k
  if distance < t then [digit distance]
  else
    digit (t + (distance - t) % (36 - t)) ::
      distanceDigits bias (k + 36) ((distance - t) / (36 - t))
termination_by distance
decreasing_by
  have hpos : 1 ≤ threshold bias k := Nat.le_max_left 1 _
  exact Nat.lt_of_le_of_lt (Nat.div_le_self _ _) (by omega)

/-- How often a distance is cut down until it is small, and what is left. -/
def scaleDown (steps distance : Nat) : Nat × Nat :=
  if distance ≤ 455 then (steps, distance) else scaleDown (steps + 1) (distance / 35)
termination_by distance
decreasing_by omega

/-- The bias after a distance. The first distance of a label is large as a rule
    and counts little. -/
def nextBias (distance count : Nat) (isFirst : Bool) : Nat :=
  let distance := if isFirst then distance / 700 else distance / 2
  let (steps, rest) := scaleDown 0 (distance + distance / count)
  36 * steps + 36 * rest / (rest + 38)

/-- Where an encoding stands. -/
structure Progress where
  /-- What has been written. -/
  written : List Char
  /-- The distance from the last insertion. -/
  distance : Nat
  bias : Nat
  /-- The characters of the label that have been written or inserted. -/
  count : Nat

/-- Passes one character of the label while the code point `m` is inserted. -/
def pass (m basics : Nat) (p : Progress) (c : Char) : Progress :=
  if c.toNat < m then { p with distance := p.distance + 1 }
  else if c.toNat = m then
    { written := p.written ++ distanceDigits p.bias 36 p.distance
      distance := 0
      bias := nextBias p.distance (p.count + 1) (p.count == basics)
      count := p.count + 1 }
  else p

/-- Inserts code points, given in ascending order. The smallest one that has not
    been passed is `n`. -/
def insertAll (label : List Char) (basics : Nat) : Nat → List Nat → Progress → Progress
  | _, [], p => p
  | n, m :: rest, p =>
    let p := label.foldl (pass m basics)
      { p with distance := p.distance + (m - n) * (p.count + 1) }
    insertAll label basics (m + 1) rest { p with distance := p.distance + 1 }

/-- A number inserted into an ascending list that has each number once. -/
def insertOnce (n : Nat) : List Nat → List Nat
  | [] => [n]
  | m :: rest =>
    if n < m then n :: m :: rest else if n = m then m :: rest else m :: insertOnce n rest

/-- The ASCII form of a label, without the mark that announces it. -/
def encode (label : List Char) : List Char :=
  let basic := label.filter (·.toNat < 128)
  let others := (label.filter (128 ≤ ·.toNat)).foldr (fun c => insertOnce c.toNat) []
  let start : Progress := ⟨[], 0, 72, basic.length⟩
  basic ++ (if basic.isEmpty then [] else ['-']) ++
    (insertAll label basic.length 128 others start).written

/-- Reads the digits of a distance from position `k` on. The weight of the next
    digit is `weight`, and `sum` is what the digits so far came to. -/
def readDistance? (bias : Nat) : (k weight sum : Nat) → List Char → Option (Nat × List Char)
  | _, _, _, [] => none
  | k, weight, sum, c :: rest =>
    match digitValue? c with
    | none => none
    | some d =>
      let t := threshold bias k
      let sum := sum + d * weight
      if d < t then some (sum, rest) else readDistance? bias (k + 36) (weight * (36 - t)) sum rest

/-- Inserts the characters that the digits stand for. The number of characters
    is bounded by the number of digits, which serves as fuel. -/
def insertDecoded? (label : List Char) (n position bias : Nat) :
    (fuel : Nat) → List Char → Option (List Char)
  | _, [] => some label
  | 0, _ :: _ => none
  | fuel + 1, digits => do
    let (distance, rest) ← readDistance? bias 36 1 0 digits
    let places := label.length + 1
    let sum := position + distance
    let m := n + sum / places
    if m.isValidChar then
      insertDecoded? (label.insertIdx (sum % places) (Char.ofNat m)) m (sum % places + 1)
        (nextBias distance places (position == 0))
        fuel rest
    else none

/-- The label of an ASCII form, if it is one. The last hyphen ends the ASCII
    characters. -/
def decode? (text : List Char) : Option (List Char) :=
  let digits := (text.reverse.takeWhile (· != '-')).reverse
  let basic := text.take (text.length - digits.length - 1)
  insertDecoded? basic 128 0 72 digits.length digits

end Punycode

end LootFilter
