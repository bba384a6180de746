import LootFilter.Item.Basic
import LootFilter.Rule.Basic
import LootFilter.Text.Search

/-!
# Preset Rules

The rules that are built from the items of a join: a highlighted block for
every base of pure energy shield armour from the expert tier, and one for every
wand. An item that is both gets a block in each group.

The presets go by names. An expert base says so in its name, and the tables
hold placeholder entries for random wands that no item ever has.

## Main definitions

* `Rule.highlight`: A rule with the actions of medium importance.
* `Item.isEnergyShieldExpertBase`, `Item.isWand`: The items of the presets.
* `presetRules`: The preset rules for a list of items.
-/

namespace LootFilter

namespace Color

/-- The red of highlighted items, with the alpha left to the game. -/
def signalRed : Color :=
  ⟨255, 0, 0, none⟩

end Color

namespace Rule

/-- A rule with a red border and text, a large red circle on the minimap, the
    first alert sound at volume 100 and font size 35. The other actions stay. -/
def highlight (r : Rule) : Rule :=
  { r with actions := some <|
      (r.actions.getD .empty
        |>.set .setBorderColor .signalRed
        |>.set .setTextColor .signalRed
        |>.set .minimapIcon ⟨0, .red, .circle⟩
        |>.set .playAlertSound ⟨some 1, 100⟩
        |>.set .setFontSize (35 : UInt32)) }

end Rule

namespace Item

/-- A rule that shows exactly the base type of an item. -/
def showBaseType (i : Item) : Rule :=
  { Rule.ofBlockType .shows with
    conditions := some (Settings.empty.set .baseType ⟨.eq, [i.base.name]⟩) }

/-- The item is pure energy shield armour of the expert tier. -/
def isEnergyShieldExpertBase (i : Item) : Bool :=
  match i.armour with
  | some a =>
    0 < a.energyShield.min && a.evasion.min ≤ 0 && a.armour.min ≤ 0 &&
      Text.mentions i.base.name "Expert"
  | none => false

/-- The item is a wand and no placeholder for a random one. -/
def isWand (i : Item) : Bool :=
  Text.mentions i.base.name "Wand" && !Text.mentions i.base.name "Random"

end Item

/-- The preset rules for a list of items: energy shield bases first, wands after
    them, each group in the order of the items. -/
def presetRules (items : List Item) : List Rule :=
  (items.filter Item.isEnergyShieldExpertBase ++ items.filter Item.isWand).map fun i =>
    i.showBaseType.highlight

end LootFilter
