import LootFilter.Item.Basic
import LootFilter.Proofs.Json.Record
import LootFilter.Proofs.Json.Spelled

/-!
# Items Read Back

An item is read as it was written, part by part. The parts are records whose fields
are texts and integers of fixed widths, all of which read back, and absent parts are
not written at all. The two doubles of a weapon are the only values that a text may
not spell. If the attack rate is not finite then the text has a `null` in its place,
and the reader, which wants a number there, refuses the whole item.

All members ahead of the weapon and all behind it are the same in both cases, so the
reader of an item is looked at once, with any members in that one place.

## Main definitions

* `WeaponStats.IsFinite`: Stats without such a double.
* `Item.membersAround`: The members of an item, but those of its weapon.

## Theorems

* `Item.readsBack_decode`: An item is read as it was written.
* `Item.spelled_toJson`: What the text of an item spells.
* `Item.decode_spelled_of_finite`, `Item.decode_spelled_of_not_finite`: How that is
  read.
-/

namespace LootFilter

/-! ## Parts -/

/-- What every base item has is read back. -/
theorem BaseItem.readsBack_decode : Decode.ReadsBack decode toJson := by
  intro b
  have hid := Record.reads_required "id" (Decode.readsBack_text b.id)
  have hname := Record.reads_required "name" (Decode.readsBack_text b.name)
  have hlevel := Record.reads_required "dropLevel" (Decode.readsBack_uint32 b.dropLevel)
  have hall := hid.both (hname.both hlevel (by simp)) (by simp)
  exact (hall.map _).decode .memory "BaseItemInfo" false

/-- What every base item has is spelled by its text. -/
theorem BaseItem.isSpellable_toJson (b : BaseItem) : b.toJson.IsSpellable := by
  refine Json.isSpellable_object ?_
  simp only [List.forall_mem_cons]
  exact ⟨Json.isSpellable_string _, Json.isSpellable_string _, Json.isSpellable_int _,
    List.forall_mem_nil _⟩

/-- A class is read back. -/
theorem ItemClass.readsBack_decode : Decode.ReadsBack decode toJson := by
  intro c
  have hid := Record.reads_required "id" (Decode.readsBack_text c.id)
  have hname := Record.reads_required "name" (Decode.readsBack_text c.name)
  exact ((hid.both hname (by simp)).map _).decode .memory "ItemClassInfo" false

/-- A class is spelled by its text. -/
theorem ItemClass.isSpellable_toJson (c : ItemClass) : c.toJson.IsSpellable := by
  refine Json.isSpellable_object ?_
  simp only [List.forall_mem_cons]
  exact ⟨Json.isSpellable_string _, Json.isSpellable_string _, List.forall_mem_nil _⟩

/-- Requirements are read back. -/
theorem AttributeRequirements.readsBack_decode : Decode.ReadsBack decode toJson := by
  intro r
  have hstrength := Record.reads_required "str" (Decode.readsBack_int32 r.strength)
  have hdexterity := Record.reads_required "dex" (Decode.readsBack_int32 r.dexterity)
  have hintelligence := Record.reads_required "int" (Decode.readsBack_int32 r.intelligence)
  have hall := hstrength.both (hdexterity.both hintelligence (by simp)) (by simp)
  exact (hall.map _).decode .memory "AttributeRequirements" false

/-- Requirements are spelled by their text. -/
theorem AttributeRequirements.isSpellable_toJson (r : AttributeRequirements) :
    r.toJson.IsSpellable := by
  refine Json.isSpellable_object ?_
  simp only [List.forall_mem_cons]
  exact ⟨Json.isSpellable_int _, Json.isSpellable_int _, Json.isSpellable_int _,
    List.forall_mem_nil _⟩

/-- The stats of a shield are read back. -/
theorem ShieldStats.readsBack_decode : Decode.ReadsBack decode toJson := by
  intro s
  have hblock := Record.reads_required "block" (Decode.readsBack_int32 s.block)
  exact (hblock.map _).decode .memory "ShieldInfo" false

/-- The stats of a shield are spelled by their text. -/
theorem ShieldStats.isSpellable_toJson (s : ShieldStats) : s.toJson.IsSpellable := by
  refine Json.isSpellable_object ?_
  simp only [List.forall_mem_cons]
  exact ⟨Json.isSpellable_int _, List.forall_mem_nil _⟩

namespace WeaponStats

/-- The stats of a weapon are read back, whatever its doubles are. -/
theorem readsBack_decode : Decode.ReadsBack decode toJson := by
  intro w
  have hcritical := Record.reads_required "crit" (Decode.readsBack_int32 w.critical)
  have hspeed := Record.reads_required "speed" (Decode.readsBack_double w.speed)
  have hrate := Record.reads_required "aps" (Decode.readsBack_double w.attacksPerSecond)
  have hmin := Record.reads_required "min" (Decode.readsBack_int32 w.damageMin)
  have hmax := Record.reads_required "max" (Decode.readsBack_int32 w.damageMax)
  have hrange := Record.reads_required "rng" (Decode.readsBack_int32 w.range)
  have hdamage := hmin.both (hmax.both hrange (by simp)) (by simp)
  have hall := hcritical.both (hspeed.both (hrate.both hdamage (by simp)) (by simp)) (by simp)
  exact (hall.map _).decode .memory "WeaponInfo" false

/-- Both doubles of a weapon are finite. -/
def IsFinite (w : WeaponStats) : Prop :=
  w.speed.isFinite = true ∧ w.attacksPerSecond.isFinite = true

/-- The stats of a weapon are spelled by their text if both doubles are finite. -/
theorem isSpellable_toJson {w : WeaponStats} (h : w.IsFinite) : w.toJson.IsSpellable := by
  refine Json.isSpellable_object ?_
  simp only [List.forall_mem_cons]
  exact ⟨Json.isSpellable_int _, Json.isSpellable_float h.1, Json.isSpellable_float h.2,
    Json.isSpellable_int _, Json.isSpellable_int _, Json.isSpellable_int _, List.forall_mem_nil _⟩

/-- Without a finite attack rate the reader meets a `null` where it wants a number. -/
theorem decode_spelled_of_not_finite {w : WeaponStats} (hspeed : w.speed.isFinite = true)
    (hrate : w.attacksPerSecond.isFinite = false) :
    decode (.ofJson w.toJson.spelled) = .error (.wrongType .null "f64") := by
  have hspelled : w.toJson.spelled = .object ([("crit", .int32 w.critical)] ++
      ([("speed", .float w.speed)] ++ ([("aps", .null)] ++ [("min", .int32 w.damageMin),
        ("max", .int32 w.damageMax), ("rng", .int32 w.range)]))) := by
    have hint (n : Int32) : (Json.int32 n).spelled = .int32 n := Json.isSpellable_int _
    have hfloat : (Json.float w.speed).spelled = .float w.speed := Json.isSpellable_float hspeed
    rw [toJson, Json.spelled, Json.spelledMembers_eq_map]
    simp only [List.map_cons, List.map_nil, hint, hfloat, Json.spelled_float hrate]
    rfl
  have hcritical := Record.reads_required "crit" (Decode.readsBack_int32 w.critical)
  have hfirst := Record.reads_required "speed" (Decode.readsBack_double w.speed)
  have hnull := Record.refuses_required "aps" Decode.double_ofJson_null
  rw [hspelled]
  -- The members ahead of the attack rate are read, and those behind are not met.
  have hrest := hnull.both_left ((Record.required "min" Decode.int32).both
    ((Record.required "max" Decode.int32).both (Record.required "rng" Decode.int32)))
    [("min", .int32 w.damageMin), ("max", .int32 w.damageMax), ("rng", .int32 w.range)]
  have hall := hcritical.both_refuses (hfirst.both_refuses hrest (by simp)) (by simp)
  exact (hall.map _).decode .memory "WeaponInfo" false

end WeaponStats

namespace StatRange

/-- A stat has two names, one for each bound. -/
@[simp]
theorem names_bounds (name : String) : (bounds name).names = [name ++ "Min", name ++ "Max"] :=
  rfl

/-- The bounds of a stat are read back from their two members. -/
theorem reads_bounds (name : String) (r : StatRange) : (bounds name).Reads (r.members name) r := by
  have hmin := Record.reads_required (name ++ "Min") (Decode.readsBack_int32 r.min)
  have hmax := Record.reads_required (name ++ "Max") (Decode.readsBack_int32 r.max)
  exact (hmin.both hmax (by simp)).map _

/-- The members of a stat are spelled by their text. -/
theorem isSpellable_members (name : String) (r : StatRange) :
    ∀ m ∈ r.members name, m.2.IsSpellable := by
  unfold members
  simp only [List.forall_mem_cons]
  exact ⟨Json.isSpellable_int _, Json.isSpellable_int _, List.forall_mem_nil _⟩

end StatRange

namespace ArmourStats

/-- The members of the stats, those of the single stats one after another. -/
theorem toJson_eq (a : ArmourStats) : a.toJson = .object (a.armour.members "armour" ++
    (a.evasion.members "evasion" ++ (a.energyShield.members "energyShield" ++
      ([("movementSpeed", .int32 a.movementSpeed)] ++ a.ward.members "ward")))) := by
  rw [toJson]
  simp only [List.append_assoc]

/-- The stats of a piece of armour are read back. -/
theorem readsBack_decode : Decode.ReadsBack decode toJson := by
  intro a
  have harmour := a.armour.reads_bounds "armour"
  have hevasion := a.evasion.reads_bounds "evasion"
  have hshield := a.energyShield.reads_bounds "energyShield"
  have hspeed := Record.reads_required "movementSpeed" (Decode.readsBack_int32 a.movementSpeed)
  have hward := a.ward.reads_bounds "ward"
  have hlast := hspeed.both hward (by simp)
  have hall := harmour.both (hevasion.both (hshield.both hlast (by simp)) (by simp)) (by simp)
  rw [toJson_eq]
  exact (hall.map _).decode .memory "ArmourInfo" false

/-- The stats of a piece of armour are spelled by their text. -/
theorem isSpellable_toJson (a : ArmourStats) : a.toJson.IsSpellable := by
  rw [toJson_eq]
  refine Json.isSpellable_object ?_
  simp only [List.forall_mem_append, List.forall_mem_singleton]
  exact ⟨a.armour.isSpellable_members _, a.evasion.isSpellable_members _,
    a.energyShield.isSpellable_members _, Json.isSpellable_int _, a.ward.isSpellable_members _⟩

end ArmourStats

/-! ## Whole items -/

namespace Item

/-- The members of an item with the given ones in place of its weapon. -/
def membersAround (i : Item) (weapon : List (String × Json)) : List (String × Json) :=
  [("baseItem", i.base.toJson)] ++ ([("itemClass", i.itemClass.toJson)] ++
    ((i.requirements.map fun r => ("attributeRequirements", r.toJson)).toList ++
      ((i.shield.map fun s => ("shieldInfo", s.toJson)).toList ++
        (weapon ++ (i.armour.map fun a => ("armourInfo", a.toJson)).toList))))

/-- An item is written with its own weapon in that place. -/
theorem toJson_eq (i : Item) : i.toJson =
    .object (i.membersAround (i.weapon.map fun w => ("weaponInfo", w.toJson)).toList) := by
  rw [toJson, membersAround]
  simp only [List.append_assoc, List.cons_append, List.nil_append]

section Front

variable (i : Item)

/-- What every base item has is read. -/
theorem reads_base : (Record.required "baseItem" BaseItem.decode).Reads
    [("baseItem", i.base.toJson)] i.base :=
  Record.reads_required "baseItem" (BaseItem.readsBack_decode i.base)

/-- The class is read. -/
theorem reads_itemClass : (Record.required "itemClass" ItemClass.decode).Reads
    [("itemClass", i.itemClass.toJson)] i.itemClass :=
  Record.reads_required "itemClass" (ItemClass.readsBack_decode i.itemClass)

/-- The requirements are read if there are any. -/
theorem reads_requirements :
    (Record.optional "attributeRequirements" AttributeRequirements.decode).Reads
      (i.requirements.map fun r => ("attributeRequirements", r.toJson)).toList i.requirements :=
  Record.reads_optional "attributeRequirements" AttributeRequirements.readsBack_decode
    (fun _ => Json.noConfusion) i.requirements

/-- The stats of a shield are read if there are any. -/
theorem reads_shield : (Record.optional "shieldInfo" ShieldStats.decode).Reads
    (i.shield.map fun s => ("shieldInfo", s.toJson)).toList i.shield :=
  Record.reads_optional "shieldInfo" ShieldStats.readsBack_decode (fun _ => Json.noConfusion)
    i.shield

variable {i} {weapon : List (String × Json)}

/-- If the weapon is read then the item is. -/
theorem decode_membersAround_of_reads
    (h : (Record.optional "weaponInfo" WeaponStats.decode).Reads weapon i.weapon) :
    decode (.ofJson (.object (i.membersAround weapon))) = .ok i := by
  have harmour := Record.reads_optional "armourInfo" ArmourStats.readsBack_decode
    (fun _ => Json.noConfusion) i.armour
  have hstats := i.reads_shield.both (h.both harmour (by simp)) (by simp)
  have hparts := i.reads_requirements.both hstats (by simp)
  have hall := i.reads_base.both (i.reads_itemClass.both hparts (by simp)) (by simp)
  exact (hall.map _).decode .memory "UnifiedItem" false

/-- If the weapon is refused then it is the first thing that is, and the item is
    refused for it. -/
theorem decode_membersAround_of_refuses {fault : Fault}
    (h : (Record.optional "weaponInfo" WeaponStats.decode).Refuses weapon fault) :
    decode (.ofJson (.object (i.membersAround weapon))) = .error fault := by
  have hweapon := h.both_left (Record.optional "armourInfo" ArmourStats.decode)
    (i.armour.map fun a => ("armourInfo", a.toJson)).toList
  have hstats := i.reads_shield.both_refuses hweapon (by simp)
  have hparts := i.reads_requirements.both_refuses hstats (by simp)
  have hall := i.reads_base.both_refuses (i.reads_itemClass.both_refuses hparts (by simp))
    (by simp)
  exact (hall.map _).decode .memory "UnifiedItem" false

end Front

/-- An item is read as it was written. -/
theorem readsBack_decode : Decode.ReadsBack decode toJson := by
  intro i
  rw [toJson_eq]
  exact decode_membersAround_of_reads (Record.reads_optional "weaponInfo"
    WeaponStats.readsBack_decode (fun _ => Json.noConfusion) i.weapon)

/-! ## What the text of an item spells -/

/-- The text of an item spells all of it but the weapon, and that as its own text
    does. -/
theorem spelled_toJson (i : Item) : i.toJson.spelled =
    .object (i.membersAround (i.weapon.map fun w => ("weaponInfo", w.toJson.spelled)).toList) := by
  have hbase : i.base.toJson.spelled = i.base.toJson := i.base.isSpellable_toJson
  have hclass : i.itemClass.toJson.spelled = i.itemClass.toJson := i.itemClass.isSpellable_toJson
  have hrequirements (r : AttributeRequirements) : r.toJson.spelled = r.toJson :=
    r.isSpellable_toJson
  have hshield (s : ShieldStats) : s.toJson.spelled = s.toJson := s.isSpellable_toJson
  have harmour (a : ArmourStats) : a.toJson.spelled = a.toJson := a.isSpellable_toJson
  -- Outside the weapon there are texts and integers only.
  rw [toJson_eq, Json.spelled, Json.spelledMembers_eq_map, membersAround, membersAround]
  simp only [List.map_append, List.map_cons, List.map_nil, Json.map_spelled_toList, hbase, hclass,
    hrequirements, hshield, harmour]

variable {i : Item}

/-- The item that a text spells is the one that was written if all doubles of the
    weapon are finite. -/
theorem decode_spelled_of_finite (h : ∀ w, i.weapon = some w → w.IsFinite) :
    decode (.ofJson i.toJson.spelled) = .ok i := by
  -- The weapon is spelled as it is, so the item is.
  have hweapon : (i.weapon.map fun w => ("weaponInfo", w.toJson.spelled)) =
      i.weapon.map fun w => ("weaponInfo", w.toJson) := by
    cases hw : i.weapon with
    | none => rfl
    | some w =>
        have hspelled : w.toJson.spelled = w.toJson := WeaponStats.isSpellable_toJson (h w hw)
        rw [Option.map_some, Option.map_some, hspelled]
  rw [spelled_toJson, hweapon, ← toJson_eq]
  exact readsBack_decode i

/-- What is spelled is no item if the attack rate is not finite. -/
theorem decode_spelled_of_not_finite {w : WeaponStats} (hw : i.weapon = some w)
    (hspeed : w.speed.isFinite = true) (hrate : w.attacksPerSecond.isFinite = false) :
    decode (.ofJson i.toJson.spelled) = .error (.wrongType .null "f64") := by
  have hnull : w.toJson.spelled ≠ .null := by
    rw [WeaponStats.toJson, Json.spelled]
    exact Json.noConfusion
  rw [spelled_toJson, hw]
  exact decode_membersAround_of_refuses
    (Record.refuses_optional "weaponInfo" (WeaponStats.decode_spelled_of_not_finite hspeed hrate)
      hnull)

end Item

end LootFilter
