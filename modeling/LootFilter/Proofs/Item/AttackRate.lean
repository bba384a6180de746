import LootFilter.Proofs.Item.NestedLoop
import LootFilter.Proofs.Number.Rounding

/-!
# Attack Rates

The attack rate of a weapon is the number of its intervals in a second, rounded to
two decimals. An interval can be any positive number, and then the rate can be too
large for a double: the join only looks at the interval. What it gives for the rate
is an infinity in that case, never anything undefined.

The rate is computed by a division, a scaling to hundredths, a rounding to a whole
number, and a division back. Only the first two can overflow. Rounding to a whole
number keeps to the finite numbers because the greatest of them is whole, and the
last division makes its argument smaller. What the first two come to falls as the
interval grows, since rounding keeps the order, so there is a least interval with a
finite rate, and all greater ones have one too.

## Main definitions

* `Binary64.IsRateInRange`: The first two steps do not overflow.
* `Binary64.leastInterval`: The rank of the least interval with a finite rate.

## Theorems

* `Binary64.IsRateInRange.mono`: A greater interval has a smaller rate.
* `attacksPerSecond_of_inRange`, `attacksPerSecond_of_not_inRange`: What the
  computation comes to.
* `isFinite_attacksPerSecond_iff`: Which intervals have a finite rate.
-/

namespace LootFilter

namespace Binary64

/-- A fraction whose rank is one of the magnitudes is finite. -/
theorem ofRatio_of_lt (negative : Bool) {num den : Nat} (h : nearestRank num den < magnitudes) :
    ofRatio negative num den = .finite negative ⟨nearestRank num den, h⟩ := by
  rw [ofRatio]
  exact dif_pos h

/-- A fraction whose rank is beyond all magnitudes is infinite. -/
theorem ofRatio_of_not_lt (negative : Bool) {num den : Nat}
    (h : ¬ nearestRank num den < magnitudes) : ofRatio negative num den = .infinite negative := by
  rw [ofRatio]
  exact dif_neg h

/-- The greatest finite magnitude, as a natural number. -/
def greatest : Nat :=
  units (magnitudes - 1) / unit

/-- The greatest finite magnitude is a whole number. -/
theorem units_last : units (magnitudes - 1) = greatest * unit := by
  have hwhole : units (magnitudes - 1) % unit = 0 := by decide +kernel
  unfold greatest
  -- The magnitude is a number of its own here, so that no step sets out to compute it.
  generalize units (magnitudes - 1) = last at hwhole ⊢
  exact (Nat.div_mul_cancel (Nat.dvd_of_mod_eq_zero hwhole)).symm

/-- No finite number is beyond the greatest magnitude. -/
theorem units_le_greatest {rank : Nat} (h : rank < magnitudes) : units rank ≤ greatest * unit := by
  rw [← units_last]
  exact units_mono (Nat.le_sub_one_of_lt h)

/-- A fraction of at most the greatest magnitude is finite. -/
theorem nearestRank_lt_magnitudes {num den : Nat} (hden : 0 < den) (h : num ≤ greatest * den) :
    nearestRank num den < magnitudes := by
  have hlast : num * unit ≤ units (magnitudes - 1) * den := by
    rw [units_last, Nat.mul_right_comm]
    exact Nat.mul_le_mul_right unit h
  have hpos : 0 < magnitudes := by decide
  exact Nat.lt_of_le_of_lt (nearestRank_le hden hlast) (Nat.sub_one_lt_of_lt hpos)

/-- The nearest whole number to a finite one is finite. -/
theorem exists_roundAway_eq (rank : Fin magnitudes) :
    ∃ r : Fin magnitudes, roundAway (.finite false rank) = .finite false r := by
  have hbound := units_le_greatest rank.isLt
  -- Half a unit does not get from the greatest whole number to the next one.
  have hwhole : (2 * units rank.val + unit) / (2 * unit) ≤ greatest * 1 := by
    have hpos := unit_pos
    have hsucc := Nat.succ_mul greatest unit
    rw [Nat.mul_one, ← Nat.lt_add_one_iff, Nat.div_lt_iff_lt_mul (by omega),
      Nat.mul_left_comm, hsucc]
    omega
  exact ⟨_, ofRatio_of_lt false (nearestRank_lt_magnitudes Nat.one_pos hwhole)⟩

section Whole

variable {n : Nat} (hn : 0 < n) (hsmall : n < Nat.pow 2 53)
include hn hsmall

/-- A positive whole number, as a rank and its magnitude. -/
theorem exists_positive_ofNat_eq :
    ∃ k : Fin magnitudes, ofNat n = .finite false k ∧ units k.val = n * unit ∧ k.val ≠ 0 := by
  rcases exists_ofNat_eq n hsmall with ⟨k, hk, hunits⟩
  have hpos : 0 < units k.val := by
    rw [hunits]
    exact Nat.mul_pos hn unit_pos
  exact ⟨k, hk, hunits, Nat.ne_of_gt ((units_pos_iff k.val).mp hpos)⟩

/-- A whole number divided by a positive one is a fraction of whole numbers. -/
theorem ofNat_div_eq {rank : Fin magnitudes} (h : 0 < rank.val) :
    (ofNat n).div (.finite false rank) = ofRatio false (n * unit) (units rank.val) := by
  rcases exists_positive_ofNat_eq hn hsmall with ⟨k, hk, hunits, -⟩
  rw [hk, div, if_neg (Nat.ne_of_gt h), hunits]
  rfl

/-- A finite number times a whole one is a fraction. -/
theorem mul_ofNat_eq (rank : Fin magnitudes) :
    (finite false rank).mul (ofNat n) =
      ofRatio false (units rank.val * (n * unit)) (unit * unit) := by
  rcases exists_positive_ofNat_eq hn hsmall with ⟨k, hk, hunits, -⟩
  rw [hk, mul, hunits]
  rfl

/-- An infinity times a whole number is that infinity. -/
theorem infinite_mul_ofNat : (infinite false).mul (ofNat n) = .infinite false := by
  rcases exists_positive_ofNat_eq hn hsmall with ⟨k, hk, -, hzero⟩
  have hnonzero : (finite false k).isZero = false := beq_eq_false_iff_ne.mpr hzero
  rw [hk, mul, hnonzero]
  · rfl
  · exact Binary64.noConfusion

/-- An infinity divided by a whole number is that infinity. -/
theorem infinite_div_ofNat : (infinite false).div (ofNat n) = .infinite false := by
  rcases exists_positive_ofNat_eq hn hsmall with ⟨k, hk, -⟩
  rw [hk]
  rfl

/-- A finite number divided by a whole one is finite. -/
theorem exists_div_ofNat_eq (rank : Fin magnitudes) :
    ∃ r : Fin magnitudes, (finite false rank).div (ofNat n) = .finite false r := by
  rcases exists_positive_ofNat_eq hn hsmall with ⟨k, hk, hunits, hzero⟩
  have hquotient : (finite false rank).div (ofNat n) =
      ofRatio false (units rank.val) (n * unit) := by
    rw [hk, div, if_neg hzero, hunits]
    rfl
  -- The quotient is not beyond the dividend, which is finite.
  have hbound : units rank.val ≤ greatest * (n * unit) := by
    calc units rank.val ≤ greatest * unit := units_le_greatest rank.isLt
      _ ≤ greatest * (n * unit) :=
        Nat.mul_le_mul_left greatest (Nat.le_mul_of_pos_left unit hn)
  rw [hquotient]
  exact ⟨_, ofRatio_of_lt false (nearestRank_lt_magnitudes (Nat.mul_pos hn unit_pos) hbound)⟩

end Whole

/-! ## Intervals -/

/-- The rank of the number of intervals in a second. -/
def rateRank (interval : Nat) : Nat :=
  nearestRank (1000 * unit) (units interval)

/-- The rank of a hundred times that number. -/
def hundredthsRank (interval : Nat) : Nat :=
  nearestRank (units (rateRank interval) * (100 * unit)) (unit * unit)

/-- Neither the rate nor a hundred times the rate is too large for a double. -/
def IsRateInRange (interval : Nat) : Prop :=
  rateRank interval < magnitudes ∧ hundredthsRank interval < magnitudes

instance : DecidablePred IsRateInRange :=
  fun _ => inferInstanceAs (Decidable (_ ∧ _))

/-- A greater interval has a smaller rate. -/
theorem rateRank_anti {r s : Nat} (hr : 0 < r) (h : r ≤ s) : rateRank s ≤ rateRank r := by
  have hs : 0 < s := Nat.lt_of_lt_of_le hr h
  exact nearestRank_mono ((units_pos_iff s).mpr hs) ((units_pos_iff r).mpr hr)
    (Nat.mul_le_mul_left _ (units_mono h))

/-- If the rate of an interval is in range then so are the rates of all greater
    ones. -/
theorem IsRateInRange.mono {r s : Nat} (hrange : IsRateInRange r) (hr : 0 < r) (h : r ≤ s) :
    IsRateInRange s := by
  -- Both ranks fall as the interval grows, the second one with the first.
  have hrate := rateRank_anti hr h
  refine ⟨Nat.lt_of_le_of_lt hrate hrange.1, Nat.lt_of_le_of_lt ?_ hrange.2⟩
  have hunits := Nat.mul_pos unit_pos unit_pos
  refine nearestRank_mono hunits hunits (Nat.mul_le_mul_right _ ?_)
  exact Nat.mul_le_mul_right _ (units_mono hrate)

/-- The rank of the least interval whose rate is in range, about `5.56e-304`. -/
def leastInterval : Nat :=
  69922342456786945

/-- The rates that are in range are those of this interval and of greater ones. -/
theorem isRateInRange_iff {interval : Nat} (h : 0 < interval) :
    IsRateInRange interval ↔ leastInterval ≤ interval := by
  constructor
  · intro hrange
    by_contra hnot
    -- The interval just below is out of range already.
    have hbelow : ¬ IsRateInRange (leastInterval - 1) := by decide +kernel
    exact hbelow (hrange.mono h (Nat.le_sub_one_of_lt (Nat.lt_of_not_le hnot)))
  · intro hle
    have hleast : IsRateInRange leastInterval := by decide +kernel
    exact hleast.mono (by decide) hle

end Binary64

open Binary64

variable {interval : Fin magnitudes} (h : 0 < interval.val)
include h

/-- The number of intervals in a second, if it is in range. -/
theorem thousand_div_of_lt (hrate : rateRank interval.val < magnitudes) :
    (Binary64.ofNat 1000).div (.finite false interval) =
      .finite false ⟨rateRank interval.val, hrate⟩ :=
  (ofNat_div_eq (by decide) (by decide) h).trans (ofRatio_of_lt false hrate)

/-- The attack rate of an interval whose rate is in range is finite. -/
theorem attacksPerSecond_of_inRange (hrange : IsRateInRange interval.val) :
    ∃ r : Fin magnitudes, attacksPerSecond (.finite false interval) = .finite false r := by
  have hhundredths : (finite false ⟨rateRank interval.val, hrange.1⟩).mul (.ofNat 100) =
      .finite false ⟨hundredthsRank interval.val, hrange.2⟩ :=
    (mul_ofNat_eq (by decide) (by decide) _).trans (ofRatio_of_lt false hrange.2)
  rcases exists_roundAway_eq ⟨hundredthsRank interval.val, hrange.2⟩ with ⟨whole, hwhole⟩
  -- The last two steps stay finite, whatever the hundredths are.
  rw [attacksPerSecond, thousand_div_of_lt h hrange.1, hhundredths, hwhole]
  exact exists_div_ofNat_eq (by decide) (by decide) whole

/-- The attack rate of any other interval is infinite. -/
theorem attacksPerSecond_of_not_inRange (hrange : ¬ IsRateInRange interval.val) :
    attacksPerSecond (.finite false interval) = .infinite false := by
  -- An infinity stays one, whatever is done to it behind.
  have hinfinite : (infinite false).roundAway.div (.ofNat 100) = .infinite false :=
    infinite_div_ofNat (by decide) (by decide)
  by_cases hrate : rateRank interval.val < magnitudes
  · have hlarge : ¬ hundredthsRank interval.val < magnitudes := fun hlt => hrange ⟨hrate, hlt⟩
    have hhundredths : (finite false ⟨rateRank interval.val, hrate⟩).mul (.ofNat 100) =
        .infinite false :=
      (mul_ofNat_eq (by decide) (by decide) _).trans (ofRatio_of_not_lt false hlarge)
    rw [attacksPerSecond, thousand_div_of_lt h hrate, hhundredths, hinfinite]
  · have hquotient : (Binary64.ofNat 1000).div (.finite false interval) = .infinite false :=
      (ofNat_div_eq (by decide) (by decide) h).trans (ofRatio_of_not_lt false hrate)
    rw [attacksPerSecond, hquotient, infinite_mul_ofNat (by decide) (by decide), hinfinite]

/-- A positive interval has a finite attack rate exactly from the least one on, and
    an infinite one below. -/
theorem isFinite_attacksPerSecond_iff :
    (attacksPerSecond (.finite false interval)).isFinite = true ↔
      leastInterval ≤ interval.val := by
  rw [← isRateInRange_iff h]
  by_cases hrange : IsRateInRange interval.val
  · rcases attacksPerSecond_of_inRange h hrange with ⟨r, hr⟩
    rw [hr]
    exact iff_of_true rfl hrange
  · rw [attacksPerSecond_of_not_inRange h hrange]
    exact iff_of_false Bool.false_ne_true hrange

end LootFilter
