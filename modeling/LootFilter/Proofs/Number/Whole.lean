import LootFilter.Number.Binary64

/-!
# Whole Numbers as Doubles

The natural numbers below `2 ^ 53` are doubles. The format has a number for
each of them, rounding finds it, and the number can be read back. Every number
that a rule can hold is far below that bound, so checks and texts that go
through doubles say the same as they would on natural numbers.

The argument runs through ranks. A number with its leading bit at `k` is scaled
to the block in which the leading bit is the hidden one, and within that block
it lies on the grid, because it has at most fifty-three bits. Rounding a point of
the grid does nothing (`divHalfEven_mul`), and `units_block` computes the
magnitude of the rank that comes out.

## Theorems

* `Binary64.units_block`: The magnitudes within a block.
* `Binary64.nearestRank_eq`: The rank of a positive whole number.
* `Binary64.units_nearestRank`: The rank of a whole number has its magnitude.
* `Binary64.exists_ofNat_eq`: A whole number is a finite double of its
  magnitude.
* `Binary64.isFinite_ofNat`, `Binary64.toNat?_ofNat`, `Binary64.lt_ofNat_iff`:
  What the operations say of whole numbers.
-/

namespace LootFilter

namespace Binary64

/-- Powers of two are positive. -/
private theorem twoPow_pos (k : Nat) : 0 < Nat.pow 2 k :=
  Nat.pow_pos (by decide)

/-- Powers of two are multiplied by adding their exponents. -/
private theorem twoPow_add (j k : Nat) : Nat.pow 2 (j + k) = Nat.pow 2 j * Nat.pow 2 k :=
  Nat.pow_add 2 j k

/-- The unit is a power of two. The exponent is a variable here, so that no
    step of a proof sets out to compute the power. -/
private theorem unit_eq_twoPow : ∃ e, e = 1074 ∧ unit = Nat.pow 2 e :=
  ⟨1074, rfl, by unfold unit; rfl⟩

/-- The unit is positive. -/
theorem unit_pos : 0 < unit := by
  rcases unit_eq_twoPow with ⟨e, -, he⟩
  rw [he]
  exact twoPow_pos e

/-- Rounding a quotient that is a whole number already changes nothing. -/
theorem divHalfEven_mul (m den : Nat) (h : 0 < den) : divHalfEven (m * den) den = m := by
  have hq : m * den / den = m := Nat.mul_div_cancel m h
  have hr : m * den % den = 0 := Nat.mul_mod_left m den
  simp only [divHalfEven, hq, hr, Nat.mul_zero, if_pos h]

/-- The magnitudes of a block, with the significand `m` written out in full. The
    hidden bit of the significand is what takes the rank into the next block. -/
theorem units_block (step m : Nat) (hlow : blockSize ≤ m) (hhigh : m < 2 * blockSize) :
    units (step * blockSize + m) = m * Nat.pow 2 step := by
  have hpos : 0 < blockSize := twoPow_pos 52
  have hsplit : step * blockSize + m = (m - blockSize) + blockSize * (step + 1) := by
    rw [Nat.mul_succ, Nat.mul_comm]
    omega
  have hmod : (step * blockSize + m) % blockSize = m - blockSize := by
    rw [hsplit, Nat.add_mul_mod_self_left, Nat.mod_eq_of_lt (by omega)]
  have hdiv : (step * blockSize + m) / blockSize = step + 1 := by
    rw [hsplit, Nat.add_mul_div_left _ _ hpos, Nat.div_eq_of_lt (by omega), Nat.zero_add]
  unfold units
  rw [if_neg (by omega), hmod, hdiv, Nat.add_sub_cancel, Nat.add_sub_cancel' hlow]

/-- Scaling a number by a power of two moves its leading bit by the exponent. -/
theorem log2_mul_twoPow (n e : Nat) (h : n ≠ 0) :
    Nat.log2 (n * Nat.pow 2 e) = Nat.log2 n + e := by
  have hlow : Nat.pow 2 (Nat.log2 n) ≤ n := Nat.log2_self_le h
  have hhigh : n < Nat.pow 2 (Nat.log2 n + 1) := Nat.lt_log2_self
  rw [Nat.log2_eq_iff (Nat.mul_ne_zero h (Nat.ne_of_gt (twoPow_pos e)))]
  constructor
  · calc Nat.pow 2 (Nat.log2 n + e) = Nat.pow 2 (Nat.log2 n) * Nat.pow 2 e := twoPow_add _ _
      _ ≤ n * Nat.pow 2 e := Nat.mul_le_mul_right _ hlow
  · calc n * Nat.pow 2 e < Nat.pow 2 (Nat.log2 n + 1) * Nat.pow 2 e :=
          Nat.mul_lt_mul_of_pos_right hhigh (twoPow_pos e)
      _ = Nat.pow 2 (Nat.log2 n + 1 + e) := (twoPow_add _ _).symm
      _ = Nat.pow 2 (Nat.log2 n + e + 1) := by rw [Nat.add_right_comm]

/-- A whole number of at most fifty-three bits can be shifted until its leading
    bit is the hidden one. -/
theorem significand_bounds (n : Nat) (h0 : n ≠ 0) (hlog : Nat.log2 n ≤ 52) :
    blockSize ≤ n * Nat.pow 2 (52 - Nat.log2 n) ∧
      n * Nat.pow 2 (52 - Nat.log2 n) < 2 * blockSize := by
  have hlow : Nat.pow 2 (Nat.log2 n) ≤ n := Nat.log2_self_le h0
  have hhigh : n < Nat.pow 2 (Nat.log2 n + 1) := Nat.lt_log2_self
  have hshift : Nat.pow 2 (Nat.log2 n) * Nat.pow 2 (52 - Nat.log2 n) = blockSize := by
    rw [← twoPow_add, Nat.add_sub_cancel' hlog, blockSize]
  constructor
  · rw [← hshift]
    exact Nat.mul_le_mul_right _ hlow
  · have hlt := Nat.mul_lt_mul_of_pos_right hhigh (twoPow_pos (52 - Nat.log2 n))
    have htwo : Nat.pow 2 (Nat.log2 n + 1) = 2 * Nat.pow 2 (Nat.log2 n) := Nat.pow_succ'
    rwa [htwo, Nat.mul_assoc, hshift] at hlt

/-- The rank of a positive whole number, by the block of its leading bit and its
    significand. Nothing is rounded, since the significand is whole. -/
theorem nearestRank_eq (n : Nat) (h0 : n ≠ 0) (hlog : Nat.log2 n ≤ 52) :
    nearestRank n 1 = (Nat.log2 n + 1022) * blockSize + n * Nat.pow 2 (52 - Nat.log2 n) ∧
      n * unit = n * Nat.pow 2 (52 - Nat.log2 n) * Nat.pow 2 (Nat.log2 n + 1022) := by
  rcases unit_eq_twoPow with ⟨e, he, hunit⟩
  have hscaled : n * unit
      = n * Nat.pow 2 (52 - Nat.log2 n) * Nat.pow 2 (Nat.log2 n + 1022) := by
    rw [Nat.mul_assoc, ← twoPow_add, hunit,
      show 52 - Nat.log2 n + (Nat.log2 n + 1022) = e by omega]
  have hstep : Nat.log2 (n * unit) - 52 = Nat.log2 n + 1022 := by
    rw [hunit, log2_mul_twoPow n e h0]
    omega
  refine ⟨?_, hscaled⟩
  unfold nearestRank
  simp only [Nat.div_one, Nat.one_mul]
  rw [hstep, hscaled, divHalfEven_mul _ _ (twoPow_pos _)]

/-- A whole number below `2 ^ 53` has a finite rank of its own magnitude. -/
theorem units_nearestRank (n : Nat) (h : n < Nat.pow 2 53) :
    nearestRank n 1 < magnitudes ∧ units (nearestRank n 1) = n * unit := by
  by_cases h0 : n = 0
  · -- Zero has no leading bit. Its rank is the first one.
    rw [h0]
    have hrank : nearestRank 0 1 = 0 := by
      simp only [nearestRank, Nat.zero_mul, Nat.zero_div, Nat.log2_zero]
      rfl
    rw [hrank, units_of_lt 0 (by decide), Nat.zero_mul]
    exact ⟨by decide, rfl⟩
  · have hlog : Nat.log2 n ≤ 52 := by
      have := (Nat.log2_lt h0).mpr h
      omega
    rcases significand_bounds n h0 hlog with ⟨hlow, hhigh⟩
    rcases nearestRank_eq n h0 hlog with ⟨hrank, hscaled⟩
    rw [hrank]
    refine ⟨?_, ?_⟩
    · -- The last block that a whole number reaches is far from the last one.
      have hblocks := Nat.mul_le_mul_right blockSize (show Nat.log2 n + 1022 ≤ 1074 by omega)
      unfold magnitudes
      omega
    · rw [units_block _ _ hlow hhigh, ← hscaled]

/-- A whole number below `2 ^ 53` is a finite double of its magnitude. -/
theorem exists_ofNat_eq (n : Nat) (h : n < Nat.pow 2 53) :
    ∃ r : Fin magnitudes, ofNat n = .finite false r ∧ units r.val = n * unit := by
  rcases units_nearestRank n h with ⟨hlt, hunits⟩
  refine ⟨⟨nearestRank n 1, hlt⟩, ?_, hunits⟩
  rw [ofNat, ofRatio]
  simp only [dif_pos hlt]

/-- A whole number is finite. -/
theorem isFinite_ofNat (n : Nat) (h : n < Nat.pow 2 53) : (ofNat n).isFinite = true := by
  rcases exists_ofNat_eq n h with ⟨r, hr, -⟩
  rw [hr]
  rfl

/-- A whole number has no minus sign. -/
theorem isNegative_ofNat (n : Nat) (h : n < Nat.pow 2 53) : (ofNat n).isNegative = false := by
  rcases exists_ofNat_eq n h with ⟨r, hr, -⟩
  rw [hr]
  rfl

/-- A whole number reads back as itself. -/
theorem toNat?_ofNat (n : Nat) (h : n < Nat.pow 2 53) : (ofNat n).toNat? = some n := by
  rcases exists_ofNat_eq n h with ⟨r, hr, hunits⟩
  rw [hr]
  simp only [toNat?]
  rw [hunits, Nat.mul_mod_left, if_pos rfl, Nat.mul_div_cancel n unit_pos]

/-- The order of whole numbers is the order of natural numbers. -/
theorem lt_ofNat_iff (m n : Nat) (hm : m < Nat.pow 2 53) (hn : n < Nat.pow 2 53) :
    (ofNat m).lt (ofNat n) = true ↔ m < n := by
  rcases exists_ofNat_eq m hm with ⟨r, hr, hru⟩
  rcases exists_ofNat_eq n hn with ⟨s, hs, hsu⟩
  rw [hr, hs, lt]
  simp only [position, hru, hsu, decide_eq_true_eq, Bool.false_eq_true, if_false]
  rw [Int.ofNat_lt]
  exact Nat.mul_lt_mul_right unit_pos

end Binary64

end LootFilter
