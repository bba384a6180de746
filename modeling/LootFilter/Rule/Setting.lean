import LootFilter.Rule.Value

/-!
# Settings

The settings that a rule can have: forty-one conditions, which say what items
it matches, and eleven actions, which say how they are shown. A setting is
named by its constructor and has an entry with the key under which it stands in
a rule file and the kind of its value. The lists are in the order in which the
settings are written to such a file. How they are written to a filter is none of
their business; the catalogue of fields has a list of its own for that.

A section of a rule gives a value to some of its settings. It is a function
from the settings to optional values, each of the type that the setting's kind
has, so no definition below mentions a setting by name.

## Main definitions

* `Condition`, `Action`: The settings of the two sections.
* `RuleSection`: All settings of a section with their entries.
* `Settings`: Values for some of the settings of a section.
* `Settings.toJson`, `Settings.decode`: The object of a section and its reader.

## Theorems

* `Settings.get_set_self`: A setting that was given a value has it.
* `Settings.get_set_of_ne`: Every other setting keeps its own.
-/

namespace LootFilter

/-- The name of a setting and the kind of its value. -/
structure SettingEntry where
  /-- The key in a rule file. -/
  key : String
  kind : Kind

/-- The settings of one section of a rule. -/
class RuleSection (ι : Type) where
  /-- Every setting, in the order of a rule file. -/
  all : List ι
  entry : ι → SettingEntry
  /-- The list misses no setting. -/
  mem_all : ∀ i, i ∈ all
  /-- No key belongs to two settings. -/
  key_nodup : (all.map fun i => (entry i).key).Nodup

namespace RuleSection

variable {ι : Type} [RuleSection ι]

/-- The kind of a setting's value. -/
@[reducible]
def kind (i : ι) : Kind :=
  (entry i).kind

/-- The key of a setting in a rule file. -/
def key (i : ι) : String :=
  (entry i).key

/-- The setting that a key belongs to. -/
def ofKey? (name : String) : Option ι :=
  (all : List ι).find? fun i => key i == name

end RuleSection

/-- What a rule can ask of an item. -/
inductive Condition where
  | areaLevel | waystoneTier | itemLevel | dropLevel | quality | rarity | itemClass | baseType
  | prophecy | linkedSockets | socketGroup | sockets | height | width | hasExplicitMod
  | anyEnchantment | hasEnchantment | enchantmentPassiveNode | enchantmentPassiveNum | stackSize
  | gemLevel | gemQualityType | alternateQuality | replica | identified | corrupted
  | corruptedMods | mirrored | elderItem | shaperItem | hasInfluence | hasSearingExarchImplicit
  | hasEaterOfWorldsImplicit | fracturedItem | synthesisedItem | elderMap | shaperMap
  | blightedMap | mapTier | hasImplicitMod | hasCruciblePassiveTree
  deriving DecidableEq

namespace Condition

/-- The name of a setting and the kind of its value. -/
def entry : Condition → SettingEntry
  | areaLevel => ⟨"areaLevel", .numbers⟩
  | waystoneTier => ⟨"waystoneTier", .numbers⟩
  | itemLevel => ⟨"itemLevel", .numbers⟩
  | dropLevel => ⟨"dropLevel", .numbers⟩
  | quality => ⟨"quality", .numbers⟩
  | rarity => ⟨"rarity", .rarities⟩
  | itemClass => ⟨"class", .texts⟩
  | baseType => ⟨"baseType", .texts⟩
  | prophecy => ⟨"prophecy", .textList⟩
  | linkedSockets => ⟨"linkedSockets", .numbers⟩
  | socketGroup => ⟨"socketGroup", .texts⟩
  | sockets => ⟨"sockets", .numbers⟩
  | height => ⟨"height", .numbers⟩
  | width => ⟨"width", .numbers⟩
  | hasExplicitMod => ⟨"hasExplicitMod", .texts⟩
  | anyEnchantment => ⟨"anyEnchantment", .flag⟩
  | hasEnchantment => ⟨"hasEnchantment", .word⟩
  | enchantmentPassiveNode => ⟨"enchantmentPassiveNode", .word⟩
  | enchantmentPassiveNum => ⟨"enchantmentPassiveNum", .numbers⟩
  | stackSize => ⟨"stackSize", .numbers⟩
  | gemLevel => ⟨"gemLevel", .numbers⟩
  | gemQualityType => ⟨"gemQualityType", .gemQuality⟩
  | alternateQuality => ⟨"alternateQuality", .flag⟩
  | replica => ⟨"replica", .flag⟩
  | identified => ⟨"identified", .flag⟩
  | corrupted => ⟨"corrupted", .flag⟩
  | corruptedMods => ⟨"corruptedMods", .numbers⟩
  | mirrored => ⟨"mirrored", .flag⟩
  | elderItem => ⟨"elderItem", .flag⟩
  | shaperItem => ⟨"shaperItem", .flag⟩
  | hasInfluence => ⟨"hasInfluence", .influence⟩
  | hasSearingExarchImplicit => ⟨"hasSearingExarchImplicit", .numbers⟩
  | hasEaterOfWorldsImplicit => ⟨"hasEaterOfWorldsImplicit", .numbers⟩
  | fracturedItem => ⟨"fracturedItem", .flag⟩
  | synthesisedItem => ⟨"synthesisedItem", .flag⟩
  | elderMap => ⟨"elderMap", .flag⟩
  | shaperMap => ⟨"shaperMap", .flag⟩
  | blightedMap => ⟨"blightedMap", .flag⟩
  | mapTier => ⟨"mapTier", .numbers⟩
  | hasImplicitMod => ⟨"hasImplicitMod", .flag⟩
  | hasCruciblePassiveTree => ⟨"hasCruciblePassiveTree", .flag⟩

/-- Every setting of the section, in the order of a rule file. -/
def all : List Condition :=
  [.areaLevel, .waystoneTier, .itemLevel, .dropLevel, .quality, .rarity, .itemClass, .baseType,
    .prophecy, .linkedSockets, .socketGroup, .sockets, .height, .width, .hasExplicitMod,
    .anyEnchantment, .hasEnchantment, .enchantmentPassiveNode, .enchantmentPassiveNum, .stackSize,
    .gemLevel, .gemQualityType, .alternateQuality, .replica, .identified, .corrupted,
    .corruptedMods, .mirrored, .elderItem, .shaperItem, .hasInfluence, .hasSearingExarchImplicit,
    .hasEaterOfWorldsImplicit, .fracturedItem, .synthesisedItem, .elderMap, .shaperMap,
    .blightedMap, .mapTier, .hasImplicitMod, .hasCruciblePassiveTree]

end Condition

instance : RuleSection Condition where
  all := Condition.all
  entry := Condition.entry
  mem_all i := by cases i <;> decide
  key_nodup := by decide +kernel

/-- How a rule can show an item. -/
inductive Action where
  | setBorderColor | setTextColor | setBackgroundColor | setFontSize | playAlertSound
  | playAlertSoundPositional | disableDropSound | enableDropSound | customAlertSound
  | minimapIcon | playEffect
  deriving DecidableEq

namespace Action

/-- The name of a setting and the kind of its value. -/
def entry : Action → SettingEntry
  | setBorderColor => ⟨"setBorderColor", .color⟩
  | setTextColor => ⟨"setTextColor", .color⟩
  | setBackgroundColor => ⟨"setBackgroundColor", .color⟩
  | setFontSize => ⟨"setFontSize", .number⟩
  | playAlertSound => ⟨"playAlertSound", .sound⟩
  | playAlertSoundPositional => ⟨"playAlertSoundPositional", .sound⟩
  | disableDropSound => ⟨"disableDropSound", .flag⟩
  | enableDropSound => ⟨"enableDropSound", .flag⟩
  | customAlertSound => ⟨"customAlertSound", .quotedText⟩
  | minimapIcon => ⟨"minimapIcon", .icon⟩
  | playEffect => ⟨"playEffect", .effect⟩

/-- Every setting of the section, in the order of a rule file. -/
def all : List Action :=
  [.setBorderColor, .setTextColor, .setBackgroundColor, .setFontSize, .playAlertSound,
    .playAlertSoundPositional, .disableDropSound, .enableDropSound, .customAlertSound,
    .minimapIcon, .playEffect]

end Action

instance : RuleSection Action where
  all := Action.all
  entry := Action.entry
  mem_all i := by cases i <;> decide
  key_nodup := by decide +kernel

/-- Values for some of the settings of a section. -/
@[ext]
structure Settings (ι : Type) [RuleSection ι] where
  /-- The value of a setting, if it has one. -/
  get : (i : ι) → Option (RuleSection.kind i).Value

/-- The conditions of a rule. -/
abbrev Conditions :=
  Settings Condition

/-- The actions of a rule. -/
abbrev Actions :=
  Settings Action

namespace Settings

variable {ι : Type} [RuleSection ι] [DecidableEq ι]

/-- No setting has a value. -/
def empty : Settings ι :=
  ⟨fun _ => none⟩

/-- The settings with one of them given a value or deprived of it. -/
def update (s : Settings ι) (i : ι) (value : Option (RuleSection.kind i).Value) : Settings ι :=
  ⟨fun j => if h : j = i then h ▸ value else s.get j⟩

/-- The settings with one of them given a value. -/
def set (s : Settings ι) (i : ι) (value : (RuleSection.kind i).Value) : Settings ι :=
  s.update i (some value)

/-- A setting that was given a value has it. -/
@[simp]
theorem get_set_self (s : Settings ι) (i : ι) (value : (RuleSection.kind i).Value) :
    (s.set i value).get i = some value := by
  simp [set, update]

/-- Every other setting keeps its own value. -/
theorem get_set_of_ne (s : Settings ι) {i j : ι} (value : (RuleSection.kind i).Value)
    (h : j ≠ i) : (s.set i value).get j = s.get j := by
  simp [set, update, h]

/-- The members of the section's object: the settings that have a value, in
    order. -/
def members (s : Settings ι) : List (String × Json) :=
  (RuleSection.all : List ι).filterMap fun i =>
    (s.get i).map fun v => (RuleSection.key i, (RuleSection.kind i).toJson v)

/-- The object of a section. -/
def toJson (s : Settings ι) : Json :=
  .object s.members

/-- The members of a section while it is read. A member that is `null` leaves
    its setting without a value but counts as met. -/
def record (origin : Origin) : Record (Settings ι) where
  Slots := List String × Settings ι
  empty := ([], empty)
  names := (RuleSection.all : List ι).map RuleSection.key
  isSet slots name := slots.1.contains name
  put slots name f :=
    match (RuleSection.ofKey? name : Option ι) with
    | none => .ok slots
    | some i =>
      (Decode.optional ((RuleSection.kind i).decode origin) f).map fun value =>
        (name :: slots.1, slots.2.update i value)
  finish slots := .ok slots.2

/-- The reader of a section of the given name. It has no members beside its
    settings. -/
def decode (origin : Origin) (name : String) : Decoder (Settings ι) :=
  (record origin).decode origin name true

end Settings

end LootFilter
