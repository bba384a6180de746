import LootFilter.Item.Basic
import LootFilter.Item.Index

/-!
# Joining the Tables

Every base item is joined with its class and with the rows of the satellite
tables that carry its key. The items come out in the order of the base table,
one for each of its rows. A satellite without a row for an item just leaves the
part out, but two things fail the join: a base item without a class, and a
weapon whose attack interval is no positive finite number. The first failing
base item decides, and its class is looked at before its weapon.

A satellite table is keyed by the position of the base item or by its
identifier; which of the two is a setting of the join. In the tables of the
game only the attribute requirements go by identifier.

## Main definitions

* `KeySource`: The key of a base item that a satellite goes by.
* `JoinConfig`: The key source of each satellite.
* `JoinError`: Why tables cannot be joined.
* `ItemTables.join`: The items of some tables.
-/

namespace LootFilter

/-- The tables that carry parts of base items. -/
inductive Satellite where
  | armour | weapon | shield | attributeRequirements
  deriving DecidableEq

/-- The key of a base item that the rows of a satellite refer to. -/
inductive KeySource where
  /-- The position of the item. -/
  | position
  /-- The identifier of the item. -/
  | identifier
  deriving DecidableEq

namespace KeySource

/-- The key of a base item. -/
def keyOf : KeySource → BaseItemRow → JoinKey
  | .position, row => .index row.index
  | .identifier, row => .id row.id

end KeySource

/-- The key source of each satellite. -/
structure JoinConfig where
  armour : KeySource := .position
  weapon : KeySource := .position
  shield : KeySource := .position
  attributeRequirements : KeySource := .identifier
  deriving DecidableEq

namespace JoinConfig

/-- The key source of a satellite. -/
def keySource (config : JoinConfig) : Satellite → KeySource
  | .armour => config.armour
  | .weapon => config.weapon
  | .shield => config.shield
  | .attributeRequirements => config.attributeRequirements

end JoinConfig

/-- Why tables cannot be joined. -/
inductive JoinError where
  /-- A base item, given by position and identifier, has no class. -/
  | missingClass (index : UInt64) (id : String)
  /-- A weapon's attack interval is not positive and finite. -/
  | invalidInterval (id : String) (interval : Binary64)
  deriving DecidableEq

namespace JoinError

/-- The wording of a failed join. -/
def message : JoinError → String
  | .missingClass index id =>
    "Base item '" ++ id ++ "' (row " ++ toString index.toNat ++
      ") does not resolve to any item class"
  | .invalidInterval id interval =>
    "Weapon '" ++ id ++ "' has invalid attack interval " ++ interval.plain

end JoinError

/-- Attacks per second for a time between two attacks in milliseconds, rounded
    to two decimals. -/
def attacksPerSecond (interval : Binary64) : Binary64 :=
  (((Binary64.ofNat 1000).div interval).mul (.ofNat 100)).roundAway.div (.ofNat 100)

namespace BaseItemRow

/-- The class of a base item: the first of its references that leads to a row
    counts. -/
def resolve? (row : BaseItemRow) (classes : RowIndex ItemClassRow) : Option ItemClassRow :=
  [row.itemClass, row.itemClassesKey].findSome? fun reference =>
    reference.bind fun n => classes[JoinKey.index n]?

end BaseItemRow

namespace ItemClassRow

/-- The classes by position. -/
def indexOf (classes : List ItemClassRow) : RowIndex ItemClassRow :=
  .ofRows (fun c => .index c.index) classes

end ItemClassRow

namespace WeaponTypeRow

/-- The weapon stats of the base item with the given identifier. -/
def stats (id : String) (row : WeaponTypeRow) : Except JoinError WeaponStats :=
  if row.speed.isFinite && Binary64.zero.lt row.speed then
    .ok ⟨row.critical, row.speed, attacksPerSecond row.speed, row.damageMin, row.damageMax,
      row.rangeMax⟩
  else .error (.invalidInterval id row.speed)

end WeaponTypeRow

/-- The tables of a join, indexed. -/
structure IndexedTables where
  classes : RowIndex ItemClassRow
  armour : RowIndex ArmourTypeRow
  weapon : RowIndex WeaponTypeRow
  shield : RowIndex ShieldTypeRow
  attributeRequirements : RowIndex AttributeRequirementRow

namespace ItemTables

/-- The indexes of the tables that base items refer to or are referred to by. -/
def indexed (t : ItemTables) : IndexedTables where
  classes := ItemClassRow.indexOf t.itemClasses
  armour := .ofRows ArmourTypeRow.key t.armourTypes
  weapon := .ofRows WeaponTypeRow.key t.weaponTypes
  shield := .ofRows ShieldTypeRow.key t.shieldTypes
  attributeRequirements := .ofRows AttributeRequirementRow.key t.attributeRequirements

end ItemTables

namespace IndexedTables

/-- The item of a base row. -/
def unify (t : IndexedTables) (config : JoinConfig) (row : BaseItemRow) :
    Except JoinError Item := do
  let some itemClass := row.resolve? t.classes
    | throw (.missingClass row.index row.id)
  let key (s : Satellite) := (config.keySource s).keyOf row
  let weapon ← match t.weapon[key .weapon]? with
    | some w => (w.stats row.id).map some
    | none => pure none
  return {
    base := ⟨row.id, row.name, row.dropLevel⟩
    itemClass := ⟨itemClass.id, itemClass.name⟩
    requirements := t.attributeRequirements[key .attributeRequirements]?.map fun r =>
      ⟨r.strength, r.dexterity, r.intelligence⟩
    shield := t.shield[key .shield]?.map fun s => ⟨s.block⟩
    weapon
    armour := t.armour[key .armour]?.map fun a =>
      ⟨a.armour, a.evasion, a.energyShield, a.ward, a.movementSpeed⟩
  }

/-- The items of some base rows; the first failure ends them. -/
def unifyAll (t : IndexedTables) (config : JoinConfig) :
    List BaseItemRow → Except JoinError (List Item)
  | [] => .ok []
  | row :: rest => do
    let item ← t.unify config row
    let items ← t.unifyAll config rest
    return item :: items

end IndexedTables

namespace ItemTables

/-- The items of the tables, in the order of the base table. -/
def join (t : ItemTables) (config : JoinConfig) : Except JoinError (List Item) :=
  t.indexed.unifyAll config t.baseItems

end ItemTables

end LootFilter
