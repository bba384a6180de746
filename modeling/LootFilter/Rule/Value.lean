import LootFilter.Json.Record
import LootFilter.Rule.Keyword

/-!
# Values of Settings

The types of value that a condition or an action can have, their spelling in
JSON, and their readers. Every setting of a rule has one of the kinds listed in
`Kind`, and whatever is done to settings is done kind by kind, so that fifty-two
settings need no fifty-two definitions.

Compound values that are not comparisons are written as lists. A slot of such a
list may be `null` where the game has a default: the alpha of a colour, the
identifier of an alert sound, the duration of a beam.

## Main definitions

* `Comparison`, `Color`, `AlertSound`, `MinimapIcon`, `PlayEffect`: The compound
  values.
* `Kind`: The kinds of value.
* `Kind.Value`: The type of the values of a kind.
* `Kind.toJson`, `Kind.decode`: The spelling of a value and its reader.
-/

namespace LootFilter

/-- An operator applied to a list of values. -/
structure Comparison (α : Type) where
  op : Operator
  values : List α
  deriving DecidableEq

/-- A colour. Without an alpha the game chooses one. -/
structure Color where
  red : UInt8
  green : UInt8
  blue : UInt8
  alpha : Option UInt8
  deriving DecidableEq

/-- The sound of a drop and its volume. Without an identifier the usual sound is
    silenced. -/
structure AlertSound where
  id : Option UInt32
  volume : UInt32
  deriving DecidableEq

/-- An icon on the minimap; size zero is the largest. -/
structure MinimapIcon where
  size : UInt8
  color : StandardColor
  shape : IconShape
  deriving DecidableEq

/-- A beam above the item, for good or only while the item drops. -/
structure PlayEffect where
  color : StandardColor
  duration : Option EffectDuration
  deriving DecidableEq

/-- The kinds of value that a setting can have. -/
inductive Kind where
  /-- A comparison of numbers. -/
  | numbers
  /-- A comparison of rarities. -/
  | rarities
  /-- A comparison of texts. -/
  | texts
  /-- A list of texts without an operator. -/
  | textList
  /-- A truth value. -/
  | flag
  /-- A single number. -/
  | number
  /-- A text of one word. -/
  | word
  /-- A text of any words. -/
  | quotedText
  | gemQuality
  | influence
  | color
  | sound
  | icon
  | effect
  deriving DecidableEq

namespace Kind

/-- The type of the values of a kind. -/
@[reducible]
def Value : Kind → Type
  | numbers => Comparison UInt32
  | rarities => Comparison Rarity
  | texts => Comparison String
  | textList => List String
  | flag => Bool
  | number => UInt32
  | word => String
  | quotedText => String
  | gemQuality => GemQualityType
  | influence => Influence
  | color => Color
  | sound => AlertSound
  | icon => MinimapIcon
  | effect => PlayEffect

instance (k : Kind) : DecidableEq k.Value := by
  cases k <;> infer_instance

end Kind

/-! ## Spelling -/

namespace Comparison

/-- The object of a comparison. -/
def toJson {α : Type} (item : α → Json) (c : Comparison α) : Json :=
  .object [("op", Vocabulary.toJson c.op), ("values", .array (c.values.map item))]

/-- The members of a comparison. -/
def record {α : Type} (origin : Origin) (item : Decoder α) : Record (Comparison α) :=
  ((Record.required "op" (Vocabulary.decode Operator origin)).both
    (Record.required "values" (Decode.list item))).map fun (op, values) => ⟨op, values⟩

/-- The reader of a comparison. Members that it does not have are skipped. -/
def decode {α : Type} (origin : Origin) (item : Decoder α) : Decoder (Comparison α) :=
  (record origin item).decode origin "Comparison" false

end Comparison

namespace Color

/-- The list of a colour. -/
def toJson (c : Color) : Json :=
  .array [.uint8 c.red, .uint8 c.green, .uint8 c.blue, .orNull (c.alpha.map .uint8)]

/-- The slots of a colour. -/
def slots : Record Color :=
  ((Record.required "0" Decode.uint8).both ((Record.required "1" Decode.uint8).both
    ((Record.required "2" Decode.uint8).both
      (Record.required "3" (Decode.optional Decode.uint8))))).map
    fun (red, green, blue, alpha) => ⟨red, green, blue, alpha⟩

end Color

namespace AlertSound

/-- The list of a sound. -/
def toJson (s : AlertSound) : Json :=
  .array [.orNull (s.id.map .uint32), .uint32 s.volume]

/-- The slots of a sound. -/
def slots : Record AlertSound :=
  ((Record.required "0" (Decode.optional Decode.uint32)).both
    (Record.required "1" Decode.uint32)).map fun (id, volume) => ⟨id, volume⟩

end AlertSound

namespace MinimapIcon

/-- The list of an icon. -/
def toJson (i : MinimapIcon) : Json :=
  .array [.uint8 i.size, Vocabulary.toJson i.color, Vocabulary.toJson i.shape]

/-- The slots of an icon. -/
def slots (origin : Origin) : Record MinimapIcon :=
  ((Record.required "0" Decode.uint8).both
    ((Record.required "1" (Vocabulary.decode StandardColor origin)).both
      (Record.required "2" (Vocabulary.decode IconShape origin)))).map
    fun (size, color, shape) => ⟨size, color, shape⟩

end MinimapIcon

namespace PlayEffect

/-- The list of a beam. -/
def toJson (e : PlayEffect) : Json :=
  .array [Vocabulary.toJson e.color, .orNull (e.duration.map Vocabulary.toJson)]

/-- The slots of a beam. -/
def slots (origin : Origin) : Record PlayEffect :=
  ((Record.required "0" (Vocabulary.decode StandardColor origin)).both
    (Record.required "1" (Decode.optional (Vocabulary.decode EffectDuration origin)))).map
    fun (color, duration) => ⟨color, duration⟩

end PlayEffect

namespace Kind

/-- The spelling of a value. -/
def toJson : (k : Kind) → k.Value → Json
  | numbers, c => c.toJson .uint32
  | rarities, c => c.toJson Vocabulary.toJson
  | texts, c => c.toJson .string
  | textList, l => .array (l.map .string)
  | flag, b => .bool b
  | number, n => .uint32 n
  | word, s => .string s
  | quotedText, s => .string s
  | gemQuality, g => Vocabulary.toJson g
  | influence, i => Vocabulary.toJson i
  | color, c => c.toJson
  | sound, s => s.toJson
  | icon, i => i.toJson
  | effect, e => e.toJson

/-- The reader of the values of a kind. -/
def decode (origin : Origin) : (k : Kind) → Decoder k.Value
  | numbers => Comparison.decode origin Decode.uint32
  | rarities => Comparison.decode origin (Vocabulary.decode Rarity origin)
  | texts => Comparison.decode origin Decode.text
  | textList => Decode.list Decode.text
  | flag => Decode.bool
  | number => Decode.uint32
  | word => Decode.text
  | quotedText => Decode.text
  | gemQuality => Vocabulary.decode GemQualityType origin
  | influence => Vocabulary.decode Influence origin
  | color => Color.slots.decodeTuple origin "Color"
  | sound => AlertSound.slots.decodeTuple origin "AlertSound"
  | icon => (MinimapIcon.slots origin).decodeTuple origin "MinimapIcon"
  | effect => (PlayEffect.slots origin).decodeTuple origin "PlayEffect"

end Kind

end LootFilter
