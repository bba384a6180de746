import LootFilter.Json.Vocabulary

/-!
# Keywords

The closed vocabularies of the rule language. Each of them is listed once, in
declaration order, with the token of every value; a token stands for its value
both on a filter line and in a rule file.

## Main definitions

* `BlockType`: What a block does with its items.
* `Rarity`, `GemQualityType`, `Influence`: What conditions ask for.
* `StandardColor`, `IconShape`, `EffectDuration`: What actions show.
* `Operator`: The operators of comparisons.
-/

namespace LootFilter

/-- What a block does with the items that it matches. -/
inductive BlockType where
  | shows | hides | continues
  deriving DecidableEq

instance : Vocabulary BlockType where
  all := [.shows, .hides, .continues]
  token
    | .shows => "Show"
    | .hides => "Hide"
    | .continues => "Continue"
  mem_all a := by cases a <;> decide
  token_nodup := by decide

/-- How rare an item is. -/
inductive Rarity where
  | normal | magic | rare | unique
  deriving DecidableEq

instance : Vocabulary Rarity where
  all := [.normal, .magic, .rare, .unique]
  token
    | .normal => "Normal"
    | .magic => "Magic"
    | .rare => "Rare"
    | .unique => "Unique"
  mem_all a := by cases a <;> decide
  token_nodup := by decide

/-- The variety of quality that a gem has. -/
inductive GemQualityType where
  | superior | anomalous | divergent | phantasmal
  deriving DecidableEq

instance : Vocabulary GemQualityType where
  all := [.superior, .anomalous, .divergent, .phantasmal]
  token
    | .superior => "Superior"
    | .anomalous => "Anomalous"
    | .divergent => "Divergent"
    | .phantasmal => "Phantasmal"
  mem_all a := by cases a <;> decide
  token_nodup := by decide

/-- The influence that an item carries. -/
inductive Influence where
  | shaper | elder | crusader | hunter | redeemer | warlord
  deriving DecidableEq

instance : Vocabulary Influence where
  all := [.shaper, .elder, .crusader, .hunter, .redeemer, .warlord]
  token
    | .shaper => "Shaper"
    | .elder => "Elder"
    | .crusader => "Crusader"
    | .hunter => "Hunter"
    | .redeemer => "Redeemer"
    | .warlord => "Warlord"
  mem_all a := by cases a <;> decide
  token_nodup := by decide

/-- The named colours of minimap icons and beams. Grey is also read in its other
    spelling. -/
inductive StandardColor where
  | red | green | blue | brown | white | yellow | orange | purple | cyan | grey | black | pink
  deriving DecidableEq

instance : Vocabulary StandardColor where
  all := [.red, .green, .blue, .brown, .white, .yellow, .orange, .purple, .cyan, .grey, .black,
    .pink]
  token
    | .red => "Red"
    | .green => "Green"
    | .blue => "Blue"
    | .brown => "Brown"
    | .white => "White"
    | .yellow => "Yellow"
    | .orange => "Orange"
    | .purple => "Purple"
    | .cyan => "Cyan"
    | .grey => "Grey"
    | .black => "Black"
    | .pink => "Pink"
  aliases
    | .grey => ["Gray"]
    | _ => []
  mem_all a := by cases a <;> decide
  token_nodup := by decide

/-- The shape of a minimap icon. -/
inductive IconShape where
  | circle | diamond | hexagon | square | star | triangle | cross | moon | raindrop | kite
  | pentagon | upsideDownHouse
  deriving DecidableEq

instance : Vocabulary IconShape where
  all := [.circle, .diamond, .hexagon, .square, .star, .triangle, .cross, .moon, .raindrop, .kite,
    .pentagon, .upsideDownHouse]
  token
    | .circle => "Circle"
    | .diamond => "Diamond"
    | .hexagon => "Hexagon"
    | .square => "Square"
    | .star => "Star"
    | .triangle => "Triangle"
    | .cross => "Cross"
    | .moon => "Moon"
    | .raindrop => "Raindrop"
    | .kite => "Kite"
    | .pentagon => "Pentagon"
    | .upsideDownHouse => "UpsideDownHouse"
  mem_all a := by cases a <;> decide
  token_nodup := by decide

/-- A beam that is only shown while the item drops. -/
inductive EffectDuration where
  | temp
  deriving DecidableEq

instance : Vocabulary EffectDuration where
  all := [.temp]
  token
    | .temp => "Temp"
  mem_all a := by cases a; decide
  token_nodup := by decide

/-- The operator of a comparison. -/
inductive Operator where
  | eq | not | lt | le | gt | ge
  deriving DecidableEq

instance : Vocabulary Operator where
  all := [.eq, .not, .lt, .le, .gt, .ge]
  token
    | .eq => "="
    | .not => "!"
    | .lt => "<"
    | .le => "<="
    | .gt => ">"
    | .ge => ">="
  mem_all a := by cases a <;> decide
  token_nodup := by decide

end LootFilter
