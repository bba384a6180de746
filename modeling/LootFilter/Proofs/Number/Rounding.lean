import LootFilter.Proofs.Number.Whole
import Mathlib.Data.Nat.Log
import Mathlib.Tactic.ByContra
import Mathlib.Tactic.Ring
import Mathlib.Tactic.SplitIfs

/-!
# Rounding

How rounding to the nearest double goes with the order. A greater fraction never
gets a smaller rank, and a fraction that is the magnitude of a rank gets this very
rank. From these two all bounds follow that are needed of a rounded result: it is
enough to compare the exact one with a magnitude.

Rounding happens at one place, in `divHalfEven`, and all that matters of it is
`le_divHalfEven_iff`, which says when the result reaches a given number. The rank
that comes out has its block from the leading bit of the fraction, and the
significand stays within the block or just reaches the next one. So two fractions
with leading bits in different blocks are in order already, and two in the same
block are in the order of their significands.

## Main definitions

* `Binary64.doublings`: The block of a fraction, from its leading bit.
* `Binary64.significand`: Where in its block the fraction is rounded to.

## Theorems

* `Binary64.le_divHalfEven_iff`: What a rounded quotient reaches.
* `Binary64.divHalfEven_mono`: A greater quotient is not rounded to less.
* `Binary64.significand_le`, `Binary64.le_significand`: A significand keeps to its
  block.
* `Binary64.nearestRank_mono`: A greater fraction does not get a smaller rank.
* `Binary64.nearestRank_units`: A magnitude gets its own rank.
* `Binary64.nearestRank_le`: A fraction that a magnitude bounds gets at most its rank.
* `Binary64.units_mono`: A greater rank does not have a smaller magnitude.
-/

namespace LootFilter

namespace Binary64

/-- A rounded quotient reaches a number if the quotient reaches its lower half, and
    for exactly half of a step only if the number is even. -/
theorem le_divHalfEven_iff (m num den : Nat) (h : 0 < den) :
    m ≤ divHalfEven num den ↔
      2 * (m * den) < 2 * num + den ∨ 2 * (m * den) = 2 * num + den ∧ m % 2 = 0 := by
  have hnum : num = num / den * den + num % den := (Nat.div_add_mod' num den).symm
  have hrest : num % den < den := Nat.mod_lt num h
  unfold divHalfEven
  dsimp only
  -- All that is needed of the quotient and the rest is how they make up the number.
  generalize num / den = q at hnum ⊢
  generalize num % den = r at hnum hrest ⊢
  rcases Nat.lt_trichotomy m (q + 1) with hm | hm | hm
  · -- The quotient itself reaches the number.
    have hle : m * den ≤ q * den := Nat.mul_le_mul_right den (by omega)
    constructor
    · intro _
      left
      omega
    · intro _
      split_ifs
      all_goals omega
  · -- The number is the next one above the quotient, so the rest decides.
    have hnext : (q + 1) * den = q * den + den := Nat.succ_mul q den
    rw [hm, hnext]
    generalize q * den = p at hnum ⊢
    split_ifs
    all_goals omega
  · -- Rounding adds one at most, so the number is not reached.
    have hle : (q + 2) * den ≤ m * den := Nat.mul_le_mul_right den (by omega)
    rw [Nat.add_mul] at hle
    constructor
    · intro hreach
      split_ifs at hreach
      all_goals omega
    · rintro (hreach | ⟨hreach, -⟩)
      · omega
      · omega

/-- A greater quotient is not rounded to less. -/
theorem divHalfEven_mono {num den num' den' : Nat} (hden : 0 < den) (hden' : 0 < den')
    (h : num * den' ≤ num' * den) : divHalfEven num den ≤ divHalfEven num' den' := by
  have hreach := (le_divHalfEven_iff _ num den hden).mp (Nat.le_refl _)
  rw [le_divHalfEven_iff _ _ _ hden']
  generalize divHalfEven num den = m at hreach ⊢
  -- The two sides of what is reached are compared after clearing denominators.
  have hcross : 2 * (m * den) * den' = 2 * (m * den') * den := by ring
  have hbound : (2 * num + den) * den' ≤ (2 * num' + den') * den := by
    calc (2 * num + den) * den' = 2 * (num * den') + den * den' := by ring
      _ ≤ 2 * (num' * den) + den * den' := by omega
      _ = (2 * num' + den') * den := by ring
  rcases hreach with hlt | ⟨heq, heven⟩
  · left
    have hclear := Nat.mul_lt_mul_of_pos_right hlt hden'
    rw [hcross] at hclear
    exact Nat.lt_of_mul_lt_mul_right (Nat.lt_of_lt_of_le hclear hbound)
  · rw [← heq, hcross] at hbound
    rcases Nat.lt_or_eq_of_le (Nat.le_of_mul_le_mul_right hbound hden) with hless | hsame
    · exact Or.inl hless
    · exact Or.inr ⟨hsame, heven⟩

/-- A quotient of at most a whole number is rounded to at most that. -/
theorem divHalfEven_le {m num den : Nat} (hden : 0 < den) (h : num ≤ m * den) :
    divHalfEven num den ≤ m := by
  have hmono := divHalfEven_mono hden hden (Nat.mul_le_mul_right den h)
  rwa [divHalfEven_mul m den hden] at hmono

/-- A quotient of at least a whole number is rounded to at least that. -/
theorem le_divHalfEven {m num den : Nat} (hden : 0 < den) (h : m * den ≤ num) :
    m ≤ divHalfEven num den := by
  have hmono := divHalfEven_mono hden hden (Nat.mul_le_mul_right den h)
  rwa [divHalfEven_mul m den hden] at hmono

/-! ## Ranks -/

/-- How many times the step of the first block is doubled for a fraction that is
    given in units. -/
def doublings (num den : Nat) : Nat :=
  Nat.log2 (num / den) - 52

/-- The significand of a fraction that is given in units, rounded. -/
def significand (num den : Nat) : Nat :=
  divHalfEven num (den * Nat.pow 2 (doublings num den))

/-- A rank is made of the block and of the significand in it. -/
theorem nearestRank_eq_doublings (num den : Nat) :
    nearestRank num den =
      doublings (num * unit) den * blockSize + significand (num * unit) den :=
  rfl

section Significand

variable {num den : Nat}

/-- The denominator of a significand is positive. -/
theorem scaled_pos (hden : 0 < den) (k : Nat) : 0 < den * Nat.pow 2 k :=
  Nat.mul_pos hden (Nat.pow_pos (by decide))

/-- A block ends where the next one begins. -/
theorem blockSize_mul_twoPow (k : Nat) : blockSize * Nat.pow 2 k = Nat.pow 2 (52 + k) :=
  (Nat.pow_add 2 52 k).symm

/-- A significand goes at most as far as the next block. -/
theorem significand_le (hden : 0 < den) : significand num den ≤ 2 * blockSize := by
  refine divHalfEven_le (scaled_pos hden _) ?_
  have hfloor : num / den < Nat.pow 2 (53 + doublings num den) := by
    have hlog : num / den < Nat.pow 2 (Nat.log2 (num / den) + 1) := Nat.lt_log2_self
    refine Nat.lt_of_lt_of_le hlog (Nat.pow_le_pow_right (by decide) ?_)
    unfold doublings
    omega
  have hnum : num < den * Nat.pow 2 (53 + doublings num den) := by
    rw [Nat.mul_comm]
    exact (Nat.div_lt_iff_lt_mul hden).mp hfloor
  have htwice : 2 * blockSize * (den * Nat.pow 2 (doublings num den)) =
      den * Nat.pow 2 (53 + doublings num den) := by
    have hpow : Nat.pow 2 (53 + doublings num den) =
        2 * (blockSize * Nat.pow 2 (doublings num den)) := by
      rw [blockSize_mul_twoPow, show 53 + doublings num den = 52 + doublings num den + 1 by omega]
      exact Nat.pow_succ'
    rw [hpow]
    ring
  rw [htwice]
  exact Nat.le_of_lt hnum

/-- Behind the first block a significand has its hidden bit. -/
theorem le_significand (hden : 0 < den) (h : 0 < doublings num den) :
    blockSize ≤ significand num den := by
  refine le_divHalfEven (scaled_pos hden _) ?_
  have hlog : Nat.log2 (num / den) = 52 + doublings num den := by
    unfold doublings at h ⊢
    omega
  have hzero : num / den ≠ 0 := by
    intro hzero
    rw [hzero, Nat.log2_zero] at hlog
    omega
  have hfloor : Nat.pow 2 (52 + doublings num den) ≤ num / den := by
    rw [← hlog]
    exact Nat.log2_self_le hzero
  calc blockSize * (den * Nat.pow 2 (doublings num den))
      = Nat.pow 2 (52 + doublings num den) * den := by
        rw [← blockSize_mul_twoPow]
        ring
    _ ≤ num / den * den := Nat.mul_le_mul_right den hfloor
    _ ≤ num := Nat.div_mul_le_self num den

end Significand

/-- A greater fraction is not in an earlier block. -/
theorem doublings_mono {num den num' den' : Nat} (hden : 0 < den) (hden' : 0 < den')
    (h : num * den' ≤ num' * den) : doublings num den ≤ doublings num' den' := by
  -- The block depends on the whole part only, which is in the same order.
  have hfloor : num / den ≤ num' / den' := by
    rw [Nat.le_div_iff_mul_le hden']
    refine Nat.le_of_mul_le_mul_right ?_ hden
    calc num / den * den' * den = num / den * den * den' := by ring
      _ ≤ num * den' := Nat.mul_le_mul_right den' (Nat.div_mul_le_self num den)
      _ ≤ num' * den := h
  unfold doublings
  rw [Nat.log2_eq_log_two, Nat.log2_eq_log_two]
  exact Nat.sub_le_sub_right (Nat.log_mono_right hfloor) 52

/-- A greater fraction does not get a smaller rank. -/
theorem nearestRank_mono {num den num' den' : Nat} (hden : 0 < den) (hden' : 0 < den')
    (h : num * den' ≤ num' * den) : nearestRank num den ≤ nearestRank num' den' := by
  have hunits : num * unit * den' ≤ num' * unit * den := by
    calc num * unit * den' = num * den' * unit := by ring
      _ ≤ num' * den * unit := Nat.mul_le_mul_right unit h
      _ = num' * unit * den := by ring
  rw [nearestRank_eq_doublings, nearestRank_eq_doublings]
  rcases Nat.lt_or_eq_of_le (doublings_mono hden hden' hunits) with hless | hsame
  · -- The smaller one does not get beyond its block, and the greater one is behind it.
    have hlow : significand (num * unit) den ≤ 2 * blockSize := significand_le hden
    have hhigh : blockSize ≤ significand (num' * unit) den' := le_significand hden' (by omega)
    have hblocks : (doublings (num * unit) den + 1) * blockSize ≤
        doublings (num' * unit) den' * blockSize := Nat.mul_le_mul_right blockSize hless
    rw [Nat.add_one_mul] at hblocks
    omega
  · -- Within one block both are quotients by the same power of two.
    have hsignificand : significand (num * unit) den ≤ significand (num' * unit) den' := by
      unfold significand
      rw [← hsame]
      refine divHalfEven_mono (scaled_pos hden _) (scaled_pos hden' _) ?_
      rw [← Nat.mul_assoc, ← Nat.mul_assoc]
      exact Nat.mul_le_mul_right _ hunits
    rw [hsame]
    omega

/-- A rank behind the first block, by its block and its significand. -/
theorem exists_rank_eq {rank : Nat} (h : blockSize ≤ rank) :
    ∃ step m, blockSize ≤ m ∧ m < 2 * blockSize ∧ rank = step * blockSize + m := by
  have hpos : 0 < blockSize := Nat.pow_pos (by decide)
  have hrest := Nat.mod_lt rank hpos
  have hsplit := Nat.div_add_mod' rank blockSize
  have hblock : 0 < rank / blockSize := Nat.div_pos h hpos
  -- One of the whole blocks in the rank is the hidden bit of the significand.
  refine ⟨rank / blockSize - 1, blockSize + rank % blockSize, by omega, by omega, ?_⟩
  have hstep := Nat.succ_mul (rank / blockSize - 1) blockSize
  rw [Nat.succ_eq_add_one, Nat.sub_add_cancel hblock] at hstep
  omega

/-- The magnitude of a rank gets this rank. -/
theorem nearestRank_units (rank : Nat) : nearestRank (units rank) unit = rank := by
  rw [nearestRank_eq_doublings, significand, doublings, Nat.mul_div_cancel _ unit_pos]
  by_cases hfirst : rank < blockSize
  · -- Below the hidden bit nothing is doubled, and the rank is the significand.
    have hlog : Nat.log2 rank - 52 = 0 := by
      by_cases hzero : rank = 0
      · rw [hzero, Nat.log2_zero]
      · have hlt : Nat.log2 rank < 52 := (Nat.log2_lt hzero).mpr hfirst
        omega
    have hone : Nat.pow 2 0 = 1 := rfl
    rw [units_of_lt rank (by omega), hlog, hone, Nat.mul_one, divHalfEven_mul _ _ unit_pos,
      Nat.zero_mul, Nat.zero_add]
  · -- The magnitude is on the grid of its block, so there is nothing to round.
    rcases exists_rank_eq (Nat.le_of_not_lt hfirst) with ⟨step, m, hlow, hhigh, hrank⟩
    have hzero : m ≠ 0 := by
      have hpos : 0 < blockSize := Nat.pow_pos (by decide)
      omega
    have hlog : Nat.log2 m = 52 :=
      (Nat.log2_eq_iff hzero).mpr ⟨hlow, Nat.lt_of_lt_of_eq hhigh Nat.pow_succ'.symm⟩
    have hstep : Nat.log2 (m * Nat.pow 2 step) - 52 = step := by
      rw [log2_mul_twoPow m step hzero, hlog, Nat.add_sub_cancel_left]
    have hgrid : m * Nat.pow 2 step * unit = m * (unit * Nat.pow 2 step) := by ring
    rw [hrank, units_block step m hlow hhigh, hstep, hgrid,
      divHalfEven_mul _ _ (scaled_pos unit_pos step)]

/-- A greater rank does not have a smaller magnitude. -/
theorem units_mono {r s : Nat} (h : r ≤ s) : units r ≤ units s := by
  by_contra hnot
  have hless : units s < units r := Nat.lt_of_not_le hnot
  have hrank : nearestRank (units s) unit ≤ nearestRank (units r) unit :=
    nearestRank_mono unit_pos unit_pos (Nat.mul_le_mul_right unit (Nat.le_of_lt hless))
  -- Each magnitude gets its own rank back, so the two ranks are the same.
  rw [nearestRank_units, nearestRank_units] at hrank
  rw [Nat.le_antisymm h hrank] at hless
  exact Nat.lt_irrefl _ hless

/-- A fraction of at most a magnitude gets at most its rank. -/
theorem nearestRank_le {rank num den : Nat} (hden : 0 < den) (h : num * unit ≤ units rank * den) :
    nearestRank num den ≤ rank := by
  have hmono := nearestRank_mono hden unit_pos h
  rwa [nearestRank_units] at hmono

end Binary64

end LootFilter
