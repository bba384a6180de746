import LootFilter.Proofs.Item.AttackRate
import LootFilter.Proofs.Item.RoundTrip

/-!
# Exported Items

The items of a join are written to a text that others decode. What keeps a weapon
from getting through is its attack rate. The join looks at the interval and lets every
positive one pass, so a very short one leads to an item whose rate is infinite. Such a
rate has no spelling, the text has a `null` for it, and an item with a `null` there is
refused. No other part of an item is refused.

What is decoded here is the value that the text spells (`Json.spelled`), with its
doubles as they were before they were written. That a reader can end at a neighbour of
a double does not matter for whether the item is refused, since it would be a finite
double as well, but it is not part of what is proved.

The weapon of an item is a copy of a row, made in one step of the join, and that
step is where the interval was looked at. A run makes each of its items in such a
step, so what one step gives holds for all items of a run.

## Main definitions

* `Binary64.IsLongEnough`: An interval whose rate can be spelled.
* `WeaponStats.IsRated`: Stats with a positive interval and the rate computed of it.
* `Item.IsKept`, `Item.IsLost`: An item that is decoded from what its text spells, and one
  that is refused.

## Theorems

* `WeaponStats.IsRated.isFinite_rate_iff`: When the rate of such stats is finite.
* `ItemTables.IsJoined.isRated`, `ItemTables.isRated_of_join`: The weapon of an item,
  after one step of the join and after a run.
* `Item.listToText_eq`: What is in the document of some items.
* `Item.isKept_iff`, `Item.isLost_iff`: Which items get through.
* `ItemTables.join_export_outcomes`: What becomes of each item of a join.
* `ItemTables.not_forall_isFinite_of_join`: A join with an infinite rate.
-/

namespace LootFilter

/-- The interval is not too short for its attack rate to be a finite double. -/
def Binary64.IsLongEnough (interval : Binary64) : Prop :=
  ∃ rank, interval = .finite false rank ∧ Binary64.leastInterval ≤ rank.val

namespace WeaponStats

/-- The interval is positive, and the rate is the one that is computed of it. -/
structure IsRated (w : WeaponStats) : Prop where
  interval : w.speed.IsPositive
  rate : w.attacksPerSecond = LootFilter.attacksPerSecond w.speed

namespace IsRated

variable {w : WeaponStats} (h : w.IsRated)
include h

/-- The interval itself is finite. -/
theorem isFinite_speed : w.speed.isFinite = true := by
  rcases h.interval with ⟨rank, hspeed, -⟩
  rw [hspeed]
  rfl

/-- The rate is finite exactly if the interval is long enough. -/
theorem isFinite_rate_iff : w.attacksPerSecond.isFinite = true ↔ w.speed.IsLongEnough := by
  rcases h.interval with ⟨rank, hspeed, hpos⟩
  rw [h.rate, hspeed, isFinite_attacksPerSecond_iff hpos]
  constructor
  · intro hle
    exact ⟨rank, rfl, hle⟩
  · rintro ⟨r, hr, hle⟩
    rw [Binary64.finite.injEq] at hr
    rwa [hr.2]

/-- A rate that is not finite is the positive infinity. -/
theorem rate_eq_infinite (hrate : ¬ w.speed.IsLongEnough) :
    w.attacksPerSecond = .infinite false := by
  rcases h.interval with ⟨rank, hspeed, hpos⟩
  rw [h.rate, hspeed]
  -- A rate in range would make the interval long enough.
  refine attacksPerSecond_of_not_inRange hpos fun hrange => hrate ?_
  exact ⟨rank, hspeed, (Binary64.isRateInRange_iff hpos).mp hrange⟩

end IsRated

end WeaponStats

/-- The stats of a row with a positive interval have the rate that is computed. -/
theorem WeaponTypeRow.isRated_toStats {r : WeaponTypeRow} (h : r.speed.IsPositive) :
    r.toStats.IsRated := by
  refine ⟨h, ?_⟩
  simp only [toStats, attacksPerSecond]

namespace ItemTables

variable {t : ItemTables} {config : JoinConfig}

/-- The weapon of an item is a copy of a row whose interval is positive. -/
theorem IsJoined.isRated {row : BaseItemRow} {i : Item} (h : t.IsJoined config row i) :
    ∀ w, i.weapon = some w → w.IsRated := by
  have hpart := h.weapon
  have hinterval := h.interval
  intro w hw
  rw [hw] at hpart
  cases hpart with
  | copied r hr => exact WeaponTypeRow.isRated_toStats (hinterval r hr)

/-- So are the weapons of all items of a run. -/
theorem isRated_of_join {items : List Item} (h : t.join config = .ok items) :
    ∀ i ∈ items, ∀ w, i.weapon = some w → w.IsRated := by
  rw [join, IndexedTables.unifyAll_eq_ok_iff] at h
  -- The induction is on the base rows, each with the step that made its item.
  generalize t.baseItems = rows at h
  induction h with
  | nil => exact List.forall_mem_nil _
  | cons hstep _ ih =>
      rw [List.forall_mem_cons]
      exact ⟨((t.unify_eq_ok_iff config _ _).mp hstep).isRated, ih⟩

end ItemTables

/-! ## What becomes of an item -/

namespace Item

/-- The doubles of the item are finite, and the value that its text spells is decoded to
    the item. -/
structure IsKept (i : Item) : Prop where
  finite : ∀ w, i.weapon = some w → w.IsFinite
  decoded : decode (.ofJson i.toJson.spelled) = .ok i

/-- The rate of the weapon is infinite, and the value that the text spells is refused
    for the `null` that stands for it. -/
structure IsLost (i : Item) : Prop where
  infinite : ∃ w, i.weapon = some w ∧ w.attacksPerSecond = .infinite false
  refused : decode (.ofJson i.toJson.spelled) = .error (.wrongType .null "f64")

/-- The document of some items has what each of them spells. -/
theorem listToText_eq (items : List Item) :
    listToText items = (Json.array (items.map fun i => i.toJson.spelled)).pretty := by
  have hspelled : (Json.array (items.map toJson)).spelled =
      .array (items.map fun i => i.toJson.spelled) := by
    rw [Json.spelled, Json.spelledItems_eq_map, List.map_map]
    rfl
  rw [listToText, ← Json.pretty_spelled, hspelled]

variable {i : Item} (h : ∀ w, i.weapon = some w → w.IsRated)
include h

/-- An item is kept exactly if it has no weapon with a too short interval. -/
theorem isKept_iff : i.IsKept ↔ ∀ w, i.weapon = some w → w.speed.IsLongEnough := by
  constructor
  · intro hkept w hw
    exact (h w hw).isFinite_rate_iff.mp (hkept.finite w hw).2
  · intro hlong
    have hfinite (w : WeaponStats) (hw : i.weapon = some w) : w.IsFinite :=
      ⟨(h w hw).isFinite_speed, (h w hw).isFinite_rate_iff.mpr (hlong w hw)⟩
    exact ⟨hfinite, decode_spelled_of_finite hfinite⟩

/-- An item is lost exactly if it has one. -/
theorem isLost_iff : i.IsLost ↔ ∃ w, i.weapon = some w ∧ ¬ w.speed.IsLongEnough := by
  constructor
  · rintro ⟨⟨w, hw, hrate⟩, -⟩
    refine ⟨w, hw, fun hlong => ?_⟩
    have hfinite := (h w hw).isFinite_rate_iff.mpr hlong
    rw [hrate] at hfinite
    exact Bool.false_ne_true hfinite
  · rintro ⟨w, hw, hshort⟩
    have hrate := (h w hw).rate_eq_infinite hshort
    have hnot : w.attacksPerSecond.isFinite = false := by
      rw [hrate]
      rfl
    exact ⟨⟨w, hw, hrate⟩, decode_spelled_of_not_finite hw (h w hw).isFinite_speed hnot⟩

end Item

namespace ItemTables

variable {t : ItemTables} {config : JoinConfig}

/-- The document of the items of a join has what each of them spells, in their order.
    Every item has a weapon with a positive interval and the rate that is computed of
    it, if it has a weapon at all, and is kept or lost by that interval alone. -/
theorem join_export_outcomes {items : List Item} (h : t.join config = .ok items) :
    Item.listToText items = (Json.array (items.map fun i => i.toJson.spelled)).pretty ∧
      ∀ i ∈ items, (∀ w, i.weapon = some w → w.IsRated) ∧
        (i.IsKept ↔ ∀ w, i.weapon = some w → w.speed.IsLongEnough) ∧
          (i.IsLost ↔ ∃ w, i.weapon = some w ∧ ¬ w.speed.IsLongEnough) := by
  refine ⟨Item.listToText_eq items, fun i hi => ?_⟩
  have hrated := isRated_of_join h i hi
  exact ⟨hrated, Item.isKept_iff hrated, Item.isLost_iff hrated⟩

/-! ## A bow that is lost -/

/-- A table of bows in which there is one, with the given interval. -/
def ofBow (interval : Binary64) : ItemTables where
  baseItems := [⟨0, "bow", "bow", 1, some 0, none⟩]
  itemClasses := [⟨0, "Bow", "Bows"⟩]
  armourTypes := []
  weaponTypes := [⟨.index 0, 500, interval, 5, 13, 120⟩]
  shieldTypes := []
  attributeRequirements := []

end ItemTables

/-- The item of such a bow. -/
def Item.bow (interval : Binary64) : Item where
  base := ⟨"bow", "bow", 1⟩
  itemClass := ⟨"Bow", "Bows"⟩
  requirements := none
  shield := none
  weapon := some ⟨500, interval, attacksPerSecond interval, 5, 13, 120⟩
  armour := none

namespace ItemTables

/-- Any positive interval will do for a bow. -/
theorem join_ofBow {interval : Binary64} (h : interval.IsPositive) :
    (ofBow interval).join {} = .ok [.bow interval] := by
  rw [join, IndexedTables.unifyAll_eq_ok_iff]
  refine .cons ?_ .nil
  have hclass : (ofBow interval).indexed.classes[JoinKey.index 0]? = some ⟨0, "Bow", "Bows"⟩ :=
    RowIndex.getElem?_ofRows _ _ _
  have hweapon : (ofBow interval).indexed.weapon[JoinKey.index 0]? =
      some ⟨.index 0, 500, interval, 5, 13, 120⟩ := RowIndex.getElem?_ofRows _ _ _
  rw [unify_eq_ok_iff, isJoined_iff]
  refine ⟨⟨0, "Bow", "Bows"⟩, ?_, fun w hw => ?_, ?_⟩
  · rw [BaseItemRow.resolve?, List.findSome?_cons, Option.bind_some, hclass]
  · rw [← Option.some.inj (hweapon.symm.trans hw)]
    exact h
  · have harmour : (ofBow interval).indexed.armour[JoinKey.index 0]? = none :=
      RowIndex.getElem?_ofRows _ _ _
    have hshield : (ofBow interval).indexed.shield[JoinKey.index 0]? = none :=
      RowIndex.getElem?_ofRows _ _ _
    have hrequirements : (ofBow interval).indexed.attributeRequirements[JoinKey.id "bow"]? = none :=
      RowIndex.getElem?_ofRows _ _ _
    simp only [IndexedTables.itemOf, ← JoinConfig.keyOf_keySource, JoinConfig.keySource,
      KeySource.keyOf, hweapon, harmour, hshield, hrequirements, Option.map_some, Option.map_none]
    rfl

/-- An interval of about `4e-304` milliseconds, which is positive. -/
def shortInterval : Binary64 :=
  .finite false ⟨67991856045572457, by decide⟩

/-- The join takes it. -/
theorem isPositive_shortInterval : shortInterval.IsPositive :=
  ⟨_, rfl, by decide⟩

/-- The rate of it is out of range. -/
theorem not_isLongEnough_shortInterval : ¬ shortInterval.IsLongEnough := by
  rintro ⟨rank, hrank, hle⟩
  -- A double has one rank, and that of the interval is too small.
  rw [shortInterval, Binary64.finite.injEq] at hrank
  rw [← hrank.2] at hle
  exact absurd hle (by decide)

/-- So the bow with this interval is an item, and it is lost. -/
theorem join_export_outcomes_ofBow :
    (ofBow shortInterval).join {} = .ok [.bow shortInterval] ∧ (Item.bow shortInterval).IsLost := by
  have hjoin := join_ofBow isPositive_shortInterval
  refine ⟨hjoin, ?_⟩
  have houtcomes := (join_export_outcomes hjoin).2 _ (List.mem_singleton_self _)
  exact houtcomes.2.2.mpr ⟨_, rfl, not_isLongEnough_shortInterval⟩

/-- Not every rate that a join gives is finite. -/
theorem not_forall_isFinite_of_join : ¬ ∀ (t : ItemTables) (config : JoinConfig)
    (items : List Item), t.join config = .ok items →
      ∀ i ∈ items, ∀ w, i.weapon = some w → w.attacksPerSecond.isFinite = true := by
  intro hall
  have hjoin := join_ofBow isPositive_shortInterval
  have hitem := List.mem_singleton_self (Item.bow shortInterval)
  have hrated := isRated_of_join hjoin _ hitem _ rfl
  have hfinite := hall _ _ _ hjoin _ hitem _ rfl
  exact not_isLongEnough_shortInterval (hrated.isFinite_rate_iff.mp hfinite)

end ItemTables

end LootFilter
