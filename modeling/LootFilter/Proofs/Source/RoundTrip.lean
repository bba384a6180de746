import LootFilter.Proofs.Item.Kept
import LootFilter.Proofs.Number.Whole
import LootFilter.Proofs.Source.Load
import LootFilter.Proofs.Table.RoundTrip

/-!
# Rows and Items Round Trip

Everything that is both written and read comes back as it was, through a value in
memory: rows of five tables, and items. The one condition is on doubles. A double that
is not finite is kept as `null`, so the speed of a row and both doubles of an item's
weapon have to be finite.

The typed rows of a table are read one by one, so if each row comes back then so does
every list of them, in its order.

## Main definitions

* `RoundTrips`: Values come back, alone and as rows of a table.

## Theorems

* `decodeRows_map_kept`: Rows come back if each of them does.
* `rows_and_items_round_trip`: All rows and items do.
-/

namespace LootFilter

/-- Rows come back as rows of any table if each of them does. -/
theorem decodeRows_map_kept {α : Type} {read : Decoder α} {write : α → Json} (table : TableName)
    (rows : List α) (h : ∀ a ∈ rows, read (.ofJson (write a).kept) = .ok a) :
    decodeRows table read (rows.map fun a => (write a).kept) = .ok rows := by
  rw [decodeRows, decodeRowsFrom_eq_ok_iff, List.forall₂_map_left_iff]
  exact List.forall₂_same.mpr h

/-- Values of which a condition holds come back from what is kept of them, alone and as
    the rows of any table. -/
structure RoundTrips {α : Type} (read : Decoder α) (write : α → Json) (condition : α → Prop) :
    Prop where
  /-- A single value comes back. -/
  single : ∀ a, condition a → read (.ofJson (write a).kept) = .ok a
  /-- A list of values comes back. -/
  rows : ∀ (table : TableName) (rows : List α), (∀ a ∈ rows, condition a) →
    decodeRows table read (rows.map fun a => (write a).kept) = .ok rows

/-- It suffices that single values come back. -/
theorem RoundTrips.of_single {α : Type} {read : Decoder α} {write : α → Json}
    {condition : α → Prop} (h : ∀ a, condition a → read (.ofJson (write a).kept) = .ok a) :
    RoundTrips read write condition where
  single := h
  rows table rows hrows := decodeRows_map_kept table rows fun a ha => h a (hrows a ha)

/-- All rows that are written and all items come back, the ones with doubles if these are
    finite. A key comes back as one of its own kind. Of the parts of an item exactly
    those are written that it has. -/
theorem rows_and_items_round_trip :
    RoundTrips BaseItemRow.decode BaseItemRow.toJson (fun _ => True) ∧
    RoundTrips ItemClassRow.decode ItemClassRow.toJson (fun _ => True) ∧
    RoundTrips WeaponTypeRow.decode WeaponTypeRow.toJson WeaponTypeRow.IsFinite ∧
    RoundTrips ShieldTypeRow.decode ShieldTypeRow.toJson (fun _ => True) ∧
    RoundTrips AttributeRequirementRow.decode AttributeRequirementRow.toJson (fun _ => True) ∧
    RoundTrips Item.decode Item.toJson Item.IsFinite ∧
    (∀ k : JoinKey, JoinKey.decode (.ofJson k.toJson.kept) = .ok k) ∧
    ∀ i : Item,
      i.toJson.kept.get? "attributeRequirements" = i.requirements.map (fun r => r.toJson.kept) ∧
        i.toJson.kept.get? "shieldInfo" = i.shield.map (fun s => s.toJson.kept) ∧
        i.toJson.kept.get? "weaponInfo" = i.weapon.map (fun w => w.toJson.kept) ∧
        i.toJson.kept.get? "armourInfo" = i.armour.map fun a => a.toJson.kept :=
  ⟨.of_single fun r _ => BaseItemRow.readsKept_decode r,
    .of_single fun r _ => ItemClassRow.readsKept_decode r,
    .of_single fun _ h => WeaponTypeRow.decode_kept h,
    .of_single fun r _ => ShieldTypeRow.readsKept_decode r,
    .of_single fun r _ => AttributeRequirementRow.readsKept_decode r,
    .of_single fun _ h => Item.decode_kept h,
    JoinKey.readsKept_decode, Item.get?_kept_toJson⟩

/-- A weapon of the base item that has the given key. -/
def weaponOf (key : JoinKey) : WeaponTypeRow :=
  ⟨key, 500, .ofNat 1400, 5, 13, 120⟩

/-- The identifier `7` and the position 7 stay apart. -/
theorem rows_and_items_round_trip_weaponOf :
    (weaponOf (.id "7")).speed.isFinite = true ∧ (weaponOf (.index 7)).speed.isFinite = true ∧
      decodeRows .weaponTypes WeaponTypeRow.decode
        ([.id "7", .index 7].map fun key => (weaponOf key).toJson.kept) =
          .ok [weaponOf (.id "7"), weaponOf (.index 7)] := by
  have hfinite (key : JoinKey) : (weaponOf key).speed.isFinite = true := by
    have hspeed := Binary64.isFinite_ofNat 1400 (by decide)
    simp only [weaponOf, hspeed]
  have hrows := rows_and_items_round_trip.2.2.1.rows .weaponTypes
    [weaponOf (.id "7"), weaponOf (.index 7)]
  refine ⟨hfinite _, hfinite _, hrows ?_⟩
  rw [List.forall_mem_cons, List.forall_mem_singleton]
  exact ⟨hfinite _, hfinite _⟩

end LootFilter
