import LootFilter.Proofs.Item.RoundTrip
import LootFilter.Proofs.Json.Kept

/-!
# Items Kept in Memory

An item that is kept in memory is read as the item that it was. Its parts are records
of texts and numbers, which are kept as they are if the doubles of the weapon are
finite, so of each part only the order of its members is lost. The item itself has the
parts as its members. Those that are absent have no member, neither in front of the
sorting nor behind it, and nothing is read in their places.

## Theorems

* `Item.decode_kept`: An item is read as it was kept.
* `Item.get?_kept_toJson`: What is kept of the parts of an item.
-/

namespace LootFilter

/-! ## Parts -/

/-- What every base item has is read from what is kept. -/
theorem BaseItem.readsKept_decode : Decode.ReadsBack decode fun b => b.toJson.kept := by
  intro b
  refine Record.decode_kept_of_flat (readsBack_decode b) (by simp) ?_
  simp only [List.forall_mem_cons]
  exact ⟨Json.kept_string _, Json.kept_string _, Json.kept_int _, List.forall_mem_nil _⟩

/-- A class is read from what is kept. -/
theorem ItemClass.readsKept_decode : Decode.ReadsBack decode fun c => c.toJson.kept := by
  intro c
  refine Record.decode_kept_of_flat (readsBack_decode c) (by simp) ?_
  simp only [List.forall_mem_cons]
  exact ⟨Json.kept_string _, Json.kept_string _, List.forall_mem_nil _⟩

/-- Requirements are read from what is kept. -/
theorem AttributeRequirements.readsKept_decode :
    Decode.ReadsBack decode fun r => r.toJson.kept := by
  intro r
  refine Record.decode_kept_of_flat (readsBack_decode r) (by simp) ?_
  simp only [List.forall_mem_cons]
  exact ⟨Json.kept_int _, Json.kept_int _, Json.kept_int _, List.forall_mem_nil _⟩

/-- The stats of a shield are read from what is kept. -/
theorem ShieldStats.readsKept_decode : Decode.ReadsBack decode fun s => s.toJson.kept := by
  intro s
  refine Record.decode_kept_of_flat (readsBack_decode s) (by simp) ?_
  simp only [List.forall_mem_cons]
  exact ⟨Json.kept_int _, List.forall_mem_nil _⟩

/-- The stats of a weapon are read from what is kept if both doubles are finite. -/
theorem WeaponStats.decode_kept {w : WeaponStats} (h : w.IsFinite) :
    decode (.ofJson w.toJson.kept) = .ok w := by
  refine Record.decode_kept_of_flat (readsBack_decode w) (by simp) ?_
  simp only [List.forall_mem_cons]
  exact ⟨Json.kept_int _, Json.kept_float h.1, Json.kept_float h.2, Json.kept_int _,
    Json.kept_int _, Json.kept_int _, List.forall_mem_nil _⟩

namespace StatRange

instance (name : String) : (bounds name).IsOrderFree :=
  Record.isOrderFree_map _

/-- The members of a stat are kept as they are. -/
theorem kept_of_mem_members {name : String} {r : StatRange} {m : String × Json}
    (h : m ∈ r.members name) : m.2.kept = m.2 := by
  rw [members, List.mem_cons, List.mem_singleton] at h
  rcases h with rfl | rfl
  · exact Json.kept_int _
  · exact Json.kept_int _

end StatRange

/-- The stats of a piece of armour are read from what is kept. -/
theorem ArmourStats.readsKept_decode : Decode.ReadsBack decode fun a => a.toJson.kept := by
  intro a
  refine Record.decode_kept_of_flat (readsBack_decode a) (by simp [StatRange.members]) ?_
  simp only [List.forall_mem_append, List.forall_mem_singleton]
  exact ⟨⟨⟨⟨fun m => StatRange.kept_of_mem_members, fun m => StatRange.kept_of_mem_members⟩,
    fun m => StatRange.kept_of_mem_members⟩, Json.kept_int _⟩,
    fun m => StatRange.kept_of_mem_members⟩

/-! ## Whole items -/

namespace Item

/-- All doubles of an item are finite. -/
def IsFinite (i : Item) : Prop :=
  ∀ w, i.weapon = some w → w.IsFinite

/-- The weapon of an item is read from what is kept of it, or from nothing. -/
theorem reads_weapon_kept {i : Item} (h : i.IsFinite) :
    (Record.optional "weaponInfo" WeaponStats.decode).Reads
      (i.weapon.map fun w => ("weaponInfo", w.toJson.kept)).toList i.weapon := by
  refine Record.reads_optional_of "weaponInfo" i.weapon fun w hw => ?_
  rw [Decode.optional, WeaponStats.decode_kept (h w hw)]
  · rfl
  · rw [Fragment.ofJson_eq_null_iff]
    exact Json.kept_object_ne_null _

/-- An item is read as it was kept, if all of its doubles are finite. -/
theorem decode_kept {i : Item} (h : i.IsFinite) : decode (.ofJson i.toJson.kept) = .ok i := by
  have hbase := Record.reads_required "baseItem" (BaseItem.readsKept_decode i.base)
  have hclass := Record.reads_required "itemClass" (ItemClass.readsKept_decode i.itemClass)
  have hrequirements := Record.reads_optional "attributeRequirements"
    AttributeRequirements.readsKept_decode (fun _ => Json.kept_object_ne_null _) i.requirements
  have hshield := Record.reads_optional "shieldInfo" ShieldStats.readsKept_decode
    (fun _ => Json.kept_object_ne_null _) i.shield
  have harmour := Record.reads_optional "armourInfo" ArmourStats.readsKept_decode
    (fun _ => Json.kept_object_ne_null _) i.armour
  have hstats := hshield.both ((reads_weapon_kept h).both harmour (by simp)) (by simp)
  have hparts := hrequirements.both hstats (by simp)
  have hall := hbase.both (hclass.both hparts (by simp)) (by simp)
  refine (hall.map _).decode_kept ?_ .memory "UnifiedItem" false
  simp only [List.map_append, List.map_cons, Json.map_kept_toList, List.append_assoc,
    List.cons_append, List.nil_append]

/-- What is kept of the parts of an item: of each part that it has what is kept of that,
    and nothing of any other one. -/
theorem get?_kept_toJson (i : Item) :
    i.toJson.kept.get? "attributeRequirements" = i.requirements.map (fun r => r.toJson.kept) ∧
      i.toJson.kept.get? "shieldInfo" = i.shield.map (fun s => s.toJson.kept) ∧
      i.toJson.kept.get? "weaponInfo" = i.weapon.map (fun w => w.toJson.kept) ∧
      i.toJson.kept.get? "armourInfo" = i.armour.map fun a => a.toJson.kept := by
  have hkept (name : String) :
      i.toJson.kept.get? name = (i.toJson.get? name).map Json.kept := by
    refine Json.get?_kept_object ?_ name
    rcases i with ⟨b, c, _ | r, _ | s, _ | w, _ | a⟩
    all_goals simp
  rw [hkept, hkept, hkept, hkept]
  -- Which members there are depends on which of the four parts are.
  rcases i with ⟨b, c, _ | r, _ | s, _ | w, _ | a⟩
  all_goals exact ⟨rfl, rfl, rfl, rfl⟩

end Item

end LootFilter
