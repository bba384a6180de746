import LootFilter.Proofs.Json.Kept
import LootFilter.Table.Row

/-!
# Rows Read Back

A row that is kept in memory is read as the row that it was. Its columns are texts,
integers of fixed widths, optional positions and in one case a double, and each of them
is read back if the double is finite. A column with a default is written like any other
one, so its default does not come into play, and an absent reference to a class is
written as `null` and read as an absent one.

A key is written without a word on which kind it is of. Positions are numbers and
identifiers are texts, and this is what tells them apart when they are read, even if an
identifier has no other characters than digits.

## Theorems

* `JoinKey.readsKept_decode`: A key keeps its kind.
* `BaseItemRow.readsKept_decode`, `ItemClassRow.readsKept_decode`,
  `ShieldTypeRow.readsKept_decode`, `AttributeRequirementRow.readsKept_decode`: Rows are
  read back.
* `WeaponTypeRow.decode_kept`: So are those with a finite double.
-/

namespace LootFilter

namespace JoinKey

/-- A key is kept. -/
theorem kept_toJson (k : JoinKey) : k.toJson.kept = k.toJson := by
  cases k with
  | index n => exact Json.kept_int _
  | id s => exact Json.kept_string s

/-- A key keeps its kind. -/
theorem readsBack_decode : Decode.ReadsBack decode toJson := by
  intro k
  cases k with
  | index n =>
      have hlt := n.toNat_lt
      rw [toJson, Json.position, Json.int, Fragment.ofJson, decode, if_pos (by omega)]
      exact congrArg (fun n => Except.ok (index n)) UInt64.ofNat_toNat
  | id s => rw [toJson, Fragment.ofJson, decode]

/-- So it is read from what is kept. -/
theorem readsKept_decode : Decode.ReadsBack decode fun k => k.toJson.kept :=
  readsBack_decode.kept kept_toJson

/-- The column of a key is read from what is kept. -/
theorem reads_column (k : JoinKey) : column.Reads [("BaseItemTypesKey", k.toJson.kept)] k :=
  Record.reads_required "BaseItemTypesKey" (readsKept_decode k)

/-- A key stands in one column. -/
@[simp]
theorem names_column : column.names = ["BaseItemTypesKey"] :=
  rfl

instance : column.IsOrderFree :=
  Record.isOrderFree_required _ _

end JoinKey

/-- A base item is read from what is kept. -/
theorem BaseItemRow.readsKept_decode : Decode.ReadsBack decode fun r => r.toJson.kept := by
  intro r
  have hposition (x : Option UInt64) := Decode.readsKept_optional Decode.readsKept_position
    (fun n => (Json.kept_int _).trans_ne Json.noConfusion) x
  have hindex := Record.reads_required "_index" (Decode.readsKept_position r.index)
  have hid := Record.reads_required "Id" (Decode.readsKept_text r.id)
  have hname := Record.reads_required "Name" (Decode.readsKept_text r.name)
  have hlevel := Record.reads_required "DropLevel" (Decode.readsKept_uint32 r.dropLevel)
  have hclass := Record.reads_field "ItemClass" (hposition r.itemClass) (some none)
  have hkey := Record.reads_field "ItemClassesKey" (hposition r.itemClassesKey) (some none)
  have hclasses := hlevel.both (hclass.both hkey (by simp)) (by simp)
  have hall := hindex.both (hid.both (hname.both hclasses (by simp)) (by simp)) (by simp)
  exact (hall.map _).decode_kept rfl .memory "BaseItemRow" false

/-- A class is read from what is kept. -/
theorem ItemClassRow.readsKept_decode : Decode.ReadsBack decode fun r => r.toJson.kept := by
  intro r
  have hindex := Record.reads_required "_index" (Decode.readsKept_position r.index)
  have hid := Record.reads_required "Id" (Decode.readsKept_text r.id)
  have hname := Record.reads_required "Name" (Decode.readsKept_text r.name)
  have hall := hindex.both (hid.both hname (by simp)) (by simp)
  exact (hall.map _).decode_kept rfl .memory "ItemClassRow" false

namespace WeaponTypeRow

/-- The speed of a weapon is finite. -/
def IsFinite (r : WeaponTypeRow) : Prop :=
  r.speed.isFinite = true

/-- A weapon with a finite speed is read from what is kept. -/
theorem decode_kept {r : WeaponTypeRow} (h : r.IsFinite) :
    decode (.ofJson r.toJson.kept) = .ok r := by
  have hkey := r.key.reads_column
  have hcritical := Record.reads_required "Critical" (Decode.readsKept_int32 r.critical)
  have hspeed := Record.reads_required "Speed" (Decode.double_ofJson_kept h)
  have hmin := Record.reads_required "DamageMin" (Decode.readsKept_int32 r.damageMin)
  have hmax := Record.reads_required "DamageMax" (Decode.readsKept_int32 r.damageMax)
  have hrange := Record.reads_required "RangeMax" (Decode.readsKept_int32 r.rangeMax)
  have hdamage := hmin.both (hmax.both hrange (by simp)) (by simp)
  have hall := hkey.both (hcritical.both (hspeed.both hdamage (by simp)) (by simp)) (by simp)
  exact (hall.map _).decode_kept rfl .memory "WeaponTypeRow" false

end WeaponTypeRow

/-- A shield is read from what is kept. -/
theorem ShieldTypeRow.readsKept_decode : Decode.ReadsBack decode fun r => r.toJson.kept := by
  intro r
  have hblock := Record.reads_required "Block" (Decode.readsKept_int32 r.block)
  have hall := r.key.reads_column.both hblock (by simp)
  exact (hall.map _).decode_kept rfl .memory "ShieldTypeRow" false

/-- Requirements are read from what is kept, and their defaults are not needed. -/
theorem AttributeRequirementRow.readsKept_decode :
    Decode.ReadsBack decode fun r => r.toJson.kept := by
  intro r
  have hstrength := Record.reads_field "ReqStr" (Decode.readsKept_int32 r.strength) (some 0)
  have hdexterity := Record.reads_field "ReqDex" (Decode.readsKept_int32 r.dexterity) (some 0)
  have hintelligence := Record.reads_field "ReqInt" (Decode.readsKept_int32 r.intelligence) (some 0)
  have hrequirements := hstrength.both (hdexterity.both hintelligence (by simp)) (by simp)
  have hall := r.key.reads_column.both hrequirements (by simp)
  exact (hall.map _).decode_kept rfl .memory "AttributeRequirementRow" false

end LootFilter
