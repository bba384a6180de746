import LootFilter.Json.Record
import LootFilter.Table.Version

/-!
# Rows

The typed rows of the game's tables. The columns have the names that the game
gives them, and columns that no join needs are skipped.

A satellite row refers to its base item by a key, which is either the position
of the item in its table or the item's identifier. The two kinds of key are
never equal: the text `"7"` is not the position 7.

Armour columns changed over time. Older tables have one value per stat, newer
ones a least and a greatest value, and some rows have only one of these. A stat
is therefore reduced to a range when its row is read.

## Main definitions

* `JoinKey`: A reference to a base item.
* `BaseItemRow`, `ItemClassRow`, `ArmourTypeRow`, `WeaponTypeRow`,
  `ShieldTypeRow`, `AttributeRequirementRow`: The rows.
* `StatRange.ofColumns`: The range of an armour stat.
* `ItemTables`: The tables of one join.
-/

namespace LootFilter

/-- A reference to a base item. -/
inductive JoinKey where
  /-- The position of the item in its table. -/
  | index (n : UInt64)
  /-- The identifier of the item. -/
  | id (s : String)
  deriving DecidableEq, Hashable

namespace JoinKey

/-- A key as it is shown: a position after a number sign, an identifier between
    single quotes. -/
def display : JoinKey → String
  | .index n => "#" ++ toString n.toNat
  | .id s => "'" ++ s ++ "'"

/-- A key in JSON. -/
def toJson : JoinKey → Json
  | .index n => .position n
  | .id s => .string s

/-- The reader of a key. -/
def decode : Decoder JoinKey
  | .number (some (.int n)) =>
    if 0 ≤ n ∧ n ≤ 18446744073709551615 then .ok (.index (.ofNat n.toNat)) else .error .noKeyForm
  | .string (some s) => .ok (.id s)
  | _ => .error .noKeyForm

/-- The column in which satellite rows have their key. -/
def column : Record JoinKey :=
  Record.required "BaseItemTypesKey" decode

end JoinKey

/-! ## Base items and their classes -/

/-- A base item. Its class is referred to in the one column or the other,
    depending on the age of the table. -/
structure BaseItemRow where
  index : UInt64
  id : String
  name : String
  dropLevel : UInt32
  itemClass : Option UInt64
  itemClassesKey : Option UInt64
  deriving DecidableEq

namespace BaseItemRow

/-- The columns of a row. -/
def record : Record BaseItemRow :=
  ((Record.required "_index" Decode.position).both
    ((Record.required "Id" Decode.text).both
      ((Record.required "Name" Decode.text).both
        ((Record.required "DropLevel" Decode.uint32).both
          ((Record.optional "ItemClass" Decode.position).both
            (Record.optional "ItemClassesKey" Decode.position)))))).map
    fun (index, id, name, dropLevel, itemClass, itemClassesKey) =>
      ⟨index, id, name, dropLevel, itemClass, itemClassesKey⟩

/-- The reader of a row. -/
def decode : Decoder BaseItemRow :=
  record.decode .memory "BaseItemRow" false

/-- The object of a row. -/
def toJson (r : BaseItemRow) : Json :=
  .object [("_index", .position r.index), ("Id", .string r.id), ("Name", .string r.name),
    ("DropLevel", .uint32 r.dropLevel), ("ItemClass", .orNull (r.itemClass.map .position)),
    ("ItemClassesKey", .orNull (r.itemClassesKey.map .position))]

end BaseItemRow

/-- A class of items. -/
structure ItemClassRow where
  index : UInt64
  id : String
  name : String
  deriving DecidableEq

namespace ItemClassRow

/-- The columns of a row. -/
def record : Record ItemClassRow :=
  ((Record.required "_index" Decode.position).both
    ((Record.required "Id" Decode.text).both (Record.required "Name" Decode.text))).map
    fun (index, id, name) => ⟨index, id, name⟩

/-- The reader of a row. -/
def decode : Decoder ItemClassRow :=
  record.decode .memory "ItemClassRow" false

/-- The object of a row. -/
def toJson (r : ItemClassRow) : Json :=
  .object [("_index", .position r.index), ("Id", .string r.id), ("Name", .string r.name)]

end ItemClassRow

/-! ## Armour -/

/-- The least and the greatest value of a stat. -/
structure StatRange where
  min : Int32
  max : Int32
  deriving DecidableEq

namespace StatRange

/-- The range of a stat from its three columns. A missing end takes the other
    end, and without any end both take the single value, which is zero if it is
    missing too. -/
def ofColumns (single least greatest : Option Int32) : StatRange :=
  let value := single.getD 0
  ⟨(least.or greatest).getD value, (greatest.or least).getD value⟩

/-- The object of a range. -/
def toJson (r : StatRange) : Json :=
  .object [("min", .int32 r.min), ("max", .int32 r.max)]

/-- The three columns of the stat with the given name. -/
def columns (name : String) : Record StatRange :=
  ((Record.optional name Decode.int32).both
    ((Record.optional (name ++ "Min") Decode.int32).both
      (Record.optional (name ++ "Max") Decode.int32))).map
    fun (single, least, greatest) => ofColumns single least greatest

end StatRange

/-- The armour of a base item. -/
structure ArmourTypeRow where
  key : JoinKey
  armour : StatRange
  evasion : StatRange
  energyShield : StatRange
  ward : StatRange
  movementSpeed : Int32
  deriving DecidableEq

namespace ArmourTypeRow

/-- The columns of a row. -/
def record : Record ArmourTypeRow :=
  (JoinKey.column.both ((StatRange.columns "Armour").both
    ((StatRange.columns "Evasion").both
      ((StatRange.columns "EnergyShield").both
        ((StatRange.columns "Ward").both
          (Record.field "IncreasedMovementSpeed" Decode.int32 (some 0))))))).map
    fun (key, armour, evasion, energyShield, ward, movementSpeed) =>
      ⟨key, armour, evasion, energyShield, ward, movementSpeed⟩

/-- The reader of a row. Complaints are about the columns as they stand in the
    table, before they are reduced to ranges. -/
def decode : Decoder ArmourTypeRow :=
  record.decode .memory "RawArmourTypeRow" false

end ArmourTypeRow

/-! ## Weapons, shields and requirements -/

/-- The weapon stats of a base item. The speed is the time between two attacks
    in milliseconds. -/
structure WeaponTypeRow where
  key : JoinKey
  critical : Int32
  speed : Binary64
  damageMin : Int32
  damageMax : Int32
  rangeMax : Int32
  deriving DecidableEq

namespace WeaponTypeRow

/-- The columns of a row. -/
def record : Record WeaponTypeRow :=
  (JoinKey.column.both ((Record.required "Critical" Decode.int32).both
    ((Record.required "Speed" Decode.double).both
      ((Record.required "DamageMin" Decode.int32).both
        ((Record.required "DamageMax" Decode.int32).both
          (Record.required "RangeMax" Decode.int32)))))).map
    fun (key, critical, speed, damageMin, damageMax, rangeMax) =>
      ⟨key, critical, speed, damageMin, damageMax, rangeMax⟩

/-- The reader of a row. -/
def decode : Decoder WeaponTypeRow :=
  record.decode .memory "WeaponTypeRow" false

/-- The object of a row. -/
def toJson (r : WeaponTypeRow) : Json :=
  .object [("BaseItemTypesKey", r.key.toJson), ("Critical", .int32 r.critical),
    ("Speed", .float r.speed), ("DamageMin", .int32 r.damageMin),
    ("DamageMax", .int32 r.damageMax), ("RangeMax", .int32 r.rangeMax)]

end WeaponTypeRow

/-- The chance of a shield to block. -/
structure ShieldTypeRow where
  key : JoinKey
  block : Int32
  deriving DecidableEq

namespace ShieldTypeRow

/-- The columns of a row. -/
def record : Record ShieldTypeRow :=
  (JoinKey.column.both (Record.required "Block" Decode.int32)).map
    fun (key, block) => ⟨key, block⟩

/-- The reader of a row. -/
def decode : Decoder ShieldTypeRow :=
  record.decode .memory "ShieldTypeRow" false

/-- The object of a row. -/
def toJson (r : ShieldTypeRow) : Json :=
  .object [("BaseItemTypesKey", r.key.toJson), ("Block", .int32 r.block)]

end ShieldTypeRow

/-- The attributes that a base item requires. -/
structure AttributeRequirementRow where
  key : JoinKey
  strength : Int32
  dexterity : Int32
  intelligence : Int32
  deriving DecidableEq

namespace AttributeRequirementRow

/-- The columns of a row. An absent requirement is zero. -/
def record : Record AttributeRequirementRow :=
  (JoinKey.column.both ((Record.field "ReqStr" Decode.int32 (some 0)).both
    ((Record.field "ReqDex" Decode.int32 (some 0)).both
      (Record.field "ReqInt" Decode.int32 (some 0))))).map
    fun (key, strength, dexterity, intelligence) => ⟨key, strength, dexterity, intelligence⟩

/-- The reader of a row. -/
def decode : Decoder AttributeRequirementRow :=
  record.decode .memory "AttributeRequirementRow" false

/-- The object of a row. -/
def toJson (r : AttributeRequirementRow) : Json :=
  .object [("BaseItemTypesKey", r.key.toJson), ("ReqStr", .int32 r.strength),
    ("ReqDex", .int32 r.dexterity), ("ReqInt", .int32 r.intelligence)]

end AttributeRequirementRow

/-! ## The tables of a join -/

/-- The rows of the six tables that are joined. -/
structure ItemTables where
  baseItems : List BaseItemRow
  itemClasses : List ItemClassRow
  armourTypes : List ArmourTypeRow
  weaponTypes : List WeaponTypeRow
  shieldTypes : List ShieldTypeRow
  attributeRequirements : List AttributeRequirementRow
  deriving DecidableEq

namespace ItemTables

/-- The number of rows of all tables. -/
def rowCount (t : ItemTables) : Nat :=
  t.baseItems.length + t.itemClasses.length + t.armourTypes.length + t.weaponTypes.length +
    t.shieldTypes.length + t.attributeRequirements.length

end ItemTables

end LootFilter
