import LootFilter.Table.Row

/-!
# Items

A base item together with everything that the tables know about it: its class,
and the requirements, shield, weapon and armour stats that it has. A part that
no table has a row for is absent, and then it is not written either.

## Main definitions

* `Item`: A base item with its parts.
* `Item.toJson`, `Item.decode`: The object of an item and its reader.
* `Item.listToText`: The document of a list of items.
-/

namespace LootFilter

/-- What every base item has. -/
structure BaseItem where
  id : String
  name : String
  dropLevel : UInt32
  deriving DecidableEq

/-- The class of an item. -/
structure ItemClass where
  id : String
  name : String
  deriving DecidableEq

/-- The attributes that an item requires. -/
structure AttributeRequirements where
  strength : Int32
  dexterity : Int32
  intelligence : Int32
  deriving DecidableEq

/-- The stats of a shield. -/
structure ShieldStats where
  block : Int32
  deriving DecidableEq

/-- The stats of a weapon. The speed is the time between two attacks in
    milliseconds, and the attack rate follows from it. -/
structure WeaponStats where
  critical : Int32
  speed : Binary64
  attacksPerSecond : Binary64
  damageMin : Int32
  damageMax : Int32
  range : Int32
  deriving DecidableEq

/-- The stats of a piece of armour. -/
structure ArmourStats where
  armour : StatRange
  evasion : StatRange
  energyShield : StatRange
  ward : StatRange
  movementSpeed : Int32
  deriving DecidableEq

/-- A base item with everything that is known about it. -/
structure Item where
  base : BaseItem
  itemClass : ItemClass
  requirements : Option AttributeRequirements
  shield : Option ShieldStats
  weapon : Option WeaponStats
  armour : Option ArmourStats
  deriving DecidableEq

/-! ## Spelling -/

namespace BaseItem

/-- The object of a base item. -/
def toJson (b : BaseItem) : Json :=
  .object [("id", .string b.id), ("name", .string b.name), ("dropLevel", .uint32 b.dropLevel)]

/-- The reader of a base item. -/
def decode : Decoder BaseItem :=
  (((Record.required "id" Decode.text).both ((Record.required "name" Decode.text).both
    (Record.required "dropLevel" Decode.uint32))).map
    fun (id, name, dropLevel) => BaseItem.mk id name dropLevel).decode
    .memory "BaseItemInfo" false

end BaseItem

namespace ItemClass

/-- The object of a class. -/
def toJson (c : ItemClass) : Json :=
  .object [("id", .string c.id), ("name", .string c.name)]

/-- The reader of a class. -/
def decode : Decoder ItemClass :=
  (((Record.required "id" Decode.text).both (Record.required "name" Decode.text)).map
    fun (id, name) => ItemClass.mk id name).decode .memory "ItemClassInfo" false

end ItemClass

namespace AttributeRequirements

/-- The object of the requirements. -/
def toJson (r : AttributeRequirements) : Json :=
  .object [("str", .int32 r.strength), ("dex", .int32 r.dexterity), ("int", .int32 r.intelligence)]

/-- The reader of the requirements. -/
def decode : Decoder AttributeRequirements :=
  (((Record.required "str" Decode.int32).both ((Record.required "dex" Decode.int32).both
    (Record.required "int" Decode.int32))).map
    fun (strength, dexterity, intelligence) =>
      AttributeRequirements.mk strength dexterity intelligence).decode
    .memory "AttributeRequirements" false

end AttributeRequirements

namespace ShieldStats

/-- The object of a shield's stats. -/
def toJson (s : ShieldStats) : Json :=
  .object [("block", .int32 s.block)]

/-- The reader of a shield's stats. -/
def decode : Decoder ShieldStats :=
  ((Record.required "block" Decode.int32).map ShieldStats.mk).decode .memory "ShieldInfo" false

end ShieldStats

namespace WeaponStats

/-- The object of a weapon's stats. -/
def toJson (w : WeaponStats) : Json :=
  .object [("crit", .int32 w.critical), ("speed", .float w.speed),
    ("aps", .float w.attacksPerSecond), ("min", .int32 w.damageMin), ("max", .int32 w.damageMax),
    ("rng", .int32 w.range)]

/-- The reader of a weapon's stats. -/
def decode : Decoder WeaponStats :=
  (((Record.required "crit" Decode.int32).both ((Record.required "speed" Decode.double).both
    ((Record.required "aps" Decode.double).both ((Record.required "min" Decode.int32).both
      ((Record.required "max" Decode.int32).both (Record.required "rng" Decode.int32)))))).map
    fun (critical, speed, attacksPerSecond, damageMin, damageMax, range) =>
      WeaponStats.mk critical speed attacksPerSecond damageMin damageMax range).decode
    .memory "WeaponInfo" false

end WeaponStats

namespace StatRange

/-- The two members of a stat with the given name. -/
def members (name : String) (r : StatRange) : List (String × Json) :=
  [(name ++ "Min", .int32 r.min), (name ++ "Max", .int32 r.max)]

/-- The two members of a stat while they are read. Both have to be present. -/
def bounds (name : String) : Record StatRange :=
  ((Record.required (name ++ "Min") Decode.int32).both
    (Record.required (name ++ "Max") Decode.int32)).map fun (min, max) => ⟨min, max⟩

end StatRange

namespace ArmourStats

/-- The object of the stats of a piece of armour. -/
def toJson (a : ArmourStats) : Json :=
  .object (a.armour.members "armour" ++ a.evasion.members "evasion" ++
    a.energyShield.members "energyShield" ++ [("movementSpeed", .int32 a.movementSpeed)] ++
    a.ward.members "ward")

/-- The reader of the stats of a piece of armour. -/
def decode : Decoder ArmourStats :=
  (((StatRange.bounds "armour").both ((StatRange.bounds "evasion").both
    ((StatRange.bounds "energyShield").both ((Record.required "movementSpeed" Decode.int32).both
      (StatRange.bounds "ward"))))).map
    fun (armour, evasion, energyShield, movementSpeed, ward) =>
      ArmourStats.mk armour evasion energyShield ward movementSpeed).decode
    .memory "ArmourInfo" false

end ArmourStats

namespace Item

/-- The object of an item. Absent parts are not written. -/
def toJson (i : Item) : Json :=
  .object ([("baseItem", i.base.toJson), ("itemClass", i.itemClass.toJson)] ++
    (i.requirements.map fun r => ("attributeRequirements", r.toJson)).toList ++
    (i.shield.map fun s => ("shieldInfo", s.toJson)).toList ++
    (i.weapon.map fun w => ("weaponInfo", w.toJson)).toList ++
    (i.armour.map fun a => ("armourInfo", a.toJson)).toList)

/-- The members of an item. -/
def record : Record Item :=
  ((Record.required "baseItem" BaseItem.decode).both
    ((Record.required "itemClass" ItemClass.decode).both
      ((Record.optional "attributeRequirements" AttributeRequirements.decode).both
        ((Record.optional "shieldInfo" ShieldStats.decode).both
          ((Record.optional "weaponInfo" WeaponStats.decode).both
            (Record.optional "armourInfo" ArmourStats.decode)))))).map
    fun (base, itemClass, requirements, shield, weapon, armour) =>
      ⟨base, itemClass, requirements, shield, weapon, armour⟩

/-- The reader of an item. Members that it does not have are skipped. -/
def decode : Decoder Item :=
  record.decode .memory "UnifiedItem" false

/-- The document of a list of items, indented. -/
def listToText (items : List Item) : String :=
  (Json.array (items.map toJson)).pretty

end Item

end LootFilter
