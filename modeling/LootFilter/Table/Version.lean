import LootFilter.Json.Vocabulary
import LootFilter.Text.Blank

/-!
# Game Versions

The game comes in two generations, told apart by the tag of a patch: the tags
of the second one start with `4.`. A join needs six tables. Five of them have
the same name in both generations; the attribute requirements were renamed, so
their table is chosen by the version.

## Main definitions

* `TableName`: The tables that a join can need.
* `GameVersion`: The tag of a patch.
* `GameVersion.requiredTables`: The six tables of a version, in the order in
  which they are loaded.
-/

namespace LootFilter

/-- A table of the game's data. -/
inductive TableName where
  | baseItemTypes | itemClasses | armourTypes | weaponTypes | shieldTypes
  | componentAttributeRequirements | attributeRequirements
  deriving DecidableEq, Hashable

instance : Vocabulary TableName where
  all := [.baseItemTypes, .itemClasses, .armourTypes, .weaponTypes, .shieldTypes,
    .componentAttributeRequirements, .attributeRequirements]
  token
    | .baseItemTypes => "BaseItemTypes"
    | .itemClasses => "ItemClasses"
    | .armourTypes => "ArmourTypes"
    | .weaponTypes => "WeaponTypes"
    | .shieldTypes => "ShieldTypes"
    | .componentAttributeRequirements => "ComponentAttributeRequirements"
    | .attributeRequirements => "AttributeRequirements"
  mem_all a := by cases a <;> decide
  token_nodup := by decide

namespace TableName

/-- The name of a table. -/
def name (t : TableName) : String :=
  Vocabulary.token t

end TableName

/-- The tag of a patch, such as `3.25.3.4`. A tag that was read from JSON can
    have blanks at its ends, any other has been trimmed. -/
structure GameVersion where
  tag : String
  deriving DecidableEq

namespace GameVersion

/-- The version of a tag that was typed in. -/
def ofTag (tag : String) : GameVersion :=
  ⟨Text.trim tag⟩

/-- The reader of a version, which takes the tag as it stands. -/
def decode : Decoder GameVersion :=
  fun f => (Decode.text f).map GameVersion.mk

/-- The version belongs to the second generation of the game. -/
def isSecondGeneration (v : GameVersion) : Bool :=
  ['4', '.'].isPrefixOf v.tag.toList

/-- The table with the attribute requirements of base items. -/
def attributeTable (v : GameVersion) : TableName :=
  if v.isSecondGeneration then .attributeRequirements else .componentAttributeRequirements

/-- The tables that a join needs, in the order in which they are loaded. -/
def requiredTables (v : GameVersion) : List TableName :=
  [.baseItemTypes, .itemClasses, .armourTypes, .weaponTypes, .shieldTypes, v.attributeTable]

end GameVersion

end LootFilter
