import LootFilter.Filter.Scalar
import LootFilter.Text.Blank

/-!
# The Catalogue of Fields

Every keyword that a block can carry, in the order in which the game wants the
lines, with the way in which its value is read from a rule and written, and the
limits that the value has to keep. A set field is reduced to one of four shapes:
a single value, a list of quoted texts, an operator with its values, or a tuple
of slots. Checking and rendering look at the shape alone.

The catalogue is a list of its own beside the list of settings that a rule file
goes by. An entry says for itself which setting it reads and into which shape it
puts the value, so nothing about it follows from the setting. That the two lists
belong together is shown in `Proofs/Filter/Catalogue`.

The checks refuse what could not be read back as one line with one value: empty
lists and texts, quotes and line breaks inside a text, blanks inside a text
that stands bare, numbers out of range. They look at the values one by one and
give the first reason they meet. The words of a tuple are fixed by the program,
so an empty one is let through there.

## Main definitions

* `FieldValue`: A set field in the shape in which it is written.
* `FieldSpec`: A keyword, its section, and its limits.
* `FieldSpec.check`: Refuses a value that cannot be written.
* `FieldSpec.renderLine`: The line of a value.
* `FieldEntry`: A field with the way in which it is read from a rule.
* `catalogueEntries`: The entries of all fields.
* `Rule.fields`: The set fields of a rule, in catalogue order.
* `Field.spec`: What the catalogue says of a setting.
-/

namespace LootFilter

/-- A set field in the shape in which it is written. -/
inductive FieldValue where
  /-- A flag, a number or a bare word. -/
  | scalar (value : Scalar)
  /-- Texts between quotes, without an operator. -/
  | quotedList (texts : List String)
  /-- An operator and the values behind it. -/
  | comparison (op : Operator) (values : List Scalar)
  /-- A fixed number of slots. -/
  | tuple (slots : List Scalar)
  deriving DecidableEq

namespace FieldValue

/-- The single values of a field. -/
def scalars : FieldValue → List Scalar
  | .scalar v => [v]
  | .quotedList texts => texts.map .text
  | .comparison _ values => values
  | .tuple slots => slots

/-- The field is a tuple of slots. -/
def isTuple : FieldValue → Bool
  | .tuple _ => true
  | _ => false

/-- The texts of the field can stand bare, which needs them to be one word. -/
def mayBeBare : FieldValue → Bool
  | .scalar _ => true
  | .comparison _ _ => true
  | _ => false

end FieldValue

/-- The part of a block that a field belongs to. -/
inductive Section where
  | condition
  | action
  deriving DecidableEq

/-- What the catalogue knows of a field. -/
structure FieldSpec where
  keyword : String
  part : Section
  /-- Whether the texts of a comparison stand between quotes. -/
  quoting : Quoting
  /-- The least and the greatest number allowed, if numbers are limited. -/
  range : Option (Nat × Nat)
  deriving DecidableEq

/-- Why a value cannot be written. -/
inductive Malformed where
  | noValues (op : Operator)
  | emptyList
  | notFinite (x : Binary64)
  | outside (x : Binary64) (least most : Nat)
  | emptyText
  | doubleQuote (s : String)
  | lineBreak (s : String)
  | blank (s : String)
  deriving DecidableEq

namespace Malformed

/-- The wording of a reason. -/
def message : Malformed → String
  | .noValues op => "operator '" ++ Vocabulary.token op ++ "' has no values"
  | .emptyList => "list has no values"
  | .notFinite x => "number " ++ x.plain ++ " is not finite"
  | .outside x least most =>
    x.plain ++ " is outside " ++ toString least ++ "..=" ++ toString most
  | .emptyText => "text is empty"
  | .doubleQuote s => "text " ++ Text.quoted s ++ " contains a double quote"
  | .lineBreak s => "text " ++ Text.quoted s ++ " contains a line break"
  | .blank s => "unquoted text " ++ Text.quoted s ++ " contains whitespace"

end Malformed

namespace FieldSpec

/-- A number keeps the limits of the field. -/
def inRange (spec : FieldSpec) (x : Binary64) : Except Malformed Unit :=
  match spec.range with
  | some (least, most) =>
    if x.lt (.ofNat least) || (Binary64.ofNat most).lt x then .error (.outside x least most)
    else .ok ()
  | none => .ok ()

/-- Checks a text. An empty one is allowed within a tuple, and blanks are
    allowed unless the text stands bare. -/
def checkText (inTuple bare : Bool) (s : String) : Except Malformed Unit :=
  let cs := s.toList
  if cs.isEmpty && !inTuple then .error .emptyText
  else if cs.contains '"' then .error (.doubleQuote s)
  else if cs.any fun c => c == '\n' || c == '\r' then .error (.lineBreak s)
  else if bare && cs.any Text.isBlank then .error (.blank s)
  else .ok ()

/-- Checks a single value of a field. -/
def checkScalar (spec : FieldSpec) (inTuple bare : Bool) : Scalar → Except Malformed Unit
  | .number x => if x.isFinite then spec.inRange x else .error (.notFinite x)
  | .text s => checkText inTuple bare s
  | .bool _ => .ok ()
  | .absent => .ok ()

/-- Checks single values from the first to the last. -/
def checkScalars (spec : FieldSpec) (inTuple bare : Bool) : List Scalar → Except Malformed Unit
  | [] => .ok ()
  | v :: rest => do
    spec.checkScalar inTuple bare v
    spec.checkScalars inTuple bare rest

/-- Refuses a value that cannot be written as one well-formed line. -/
def check (spec : FieldSpec) (value : FieldValue) : Except Malformed Unit :=
  match value with
  | .comparison op [] => .error (.noValues op)
  | .quotedList [] => .error .emptyList
  | value =>
    spec.checkScalars value.isTuple (spec.quoting == .bare && value.mayBeBare) value.scalars

/-- The text of a value, which follows the keyword on the line. -/
def render (spec : FieldSpec) : FieldValue → String
  | .scalar v => v.render
  | .quotedList texts => spaced (texts.map Scalar.quote)
  | .comparison op values =>
    Vocabulary.token op ++ " " ++ spaced (values.map (Scalar.renderWith spec.quoting))
  | .tuple slots => spaced (slots.map Scalar.render)

/-- The line of a value. -/
def renderLine (spec : FieldSpec) (value : FieldValue) : String :=
  spec.keyword ++ " " ++ spec.render value

end FieldSpec

/-! ## Reading fields -/

namespace FieldValue

/-- A comparison of values that are written one by one. -/
def ofComparison {α : Type} (scalar : α → Scalar) (value : Option (Comparison α)) :
    Option FieldValue :=
  value.map fun c => .comparison c.op (c.values.map scalar)

/-- A comparison of numbers. -/
def ofNumbers : Option (Comparison UInt32) → Option FieldValue :=
  ofComparison fun n => .ofNat n.toNat

/-- A comparison of rarities. -/
def ofRarities : Option (Comparison Rarity) → Option FieldValue :=
  ofComparison Scalar.ofToken

/-- A comparison of texts. -/
def ofTexts : Option (Comparison String) → Option FieldValue :=
  ofComparison Scalar.text

/-- A truth value. -/
def ofFlag (value : Option Bool) : Option FieldValue :=
  value.map fun b => .scalar (.bool b)

/-- A single number. -/
def ofNumber (value : Option UInt32) : Option FieldValue :=
  value.map fun n => .scalar (.ofNat n.toNat)

/-- A text that stands bare. -/
def ofWord (value : Option String) : Option FieldValue :=
  value.map fun s => .scalar (.text s)

/-- The word of a vocabulary. -/
def ofToken {α : Type} [Vocabulary α] (value : Option α) : Option FieldValue :=
  value.map fun a => .scalar (.ofToken a)

/-- The word of a gem's quality. -/
def ofGemQuality : Option GemQualityType → Option FieldValue :=
  ofToken

/-- The word of an influence. -/
def ofInfluence : Option Influence → Option FieldValue :=
  ofToken

/-- A list of texts between quotes. -/
def ofTextList (value : Option (List String)) : Option FieldValue :=
  value.map fun l => .quotedList l

/-- A single text between quotes. -/
def ofQuotedText (value : Option String) : Option FieldValue :=
  value.map fun s => .quotedList [s]

/-- The slots of a colour. The last one stays empty without an alpha. -/
def ofColor (value : Option Color) : Option FieldValue :=
  value.map fun c => .tuple [.ofNat c.red.toNat, .ofNat c.green.toNat, .ofNat c.blue.toNat,
    match c.alpha with
    | some a => .ofNat a.toNat
    | none => .absent]

/-- The slots of a sound. A word stands for the lack of an identifier. -/
def ofSound (value : Option AlertSound) : Option FieldValue :=
  value.map fun s => .tuple [match s.id with
    | some id => .ofNat id.toNat
    | none => .text "None",
    .ofNat s.volume.toNat]

/-- The slots of an icon on the minimap. -/
def ofIcon (value : Option MinimapIcon) : Option FieldValue :=
  value.map fun i => .tuple [.ofNat i.size.toNat, .ofToken i.color, .ofToken i.shape]

/-- The slots of a beam. The last one stays empty for a beam that lasts. -/
def ofEffect (value : Option PlayEffect) : Option FieldValue :=
  value.map fun e => .tuple [.ofToken e.color,
    match e.duration with
    | some d => .ofToken d
    | none => .absent]

end FieldValue

/-! ## The entries -/

/-- An entry of the catalogue. -/
structure FieldEntry extends FieldSpec where
  /-- The value of the field in a rule, if the rule sets it. -/
  read : Rule → Option FieldValue

namespace FieldEntry

/-- A condition whose texts stand bare and whose numbers are not limited. -/
def condition (keyword : String) (read : Rule → Option FieldValue) : FieldEntry :=
  ⟨⟨keyword, .condition, .bare, none⟩, read⟩

/-- An action of the same kind. -/
def action (keyword : String) (read : Rule → Option FieldValue) : FieldEntry :=
  ⟨⟨keyword, .action, .bare, none⟩, read⟩

/-- The entry with texts between quotes. -/
def inQuotes (e : FieldEntry) : FieldEntry :=
  { e with quoting := .quoted }

/-- The entry with limits for its numbers. -/
def within (least most : Nat) (e : FieldEntry) : FieldEntry :=
  { e with range := some (least, most) }

end FieldEntry

namespace Catalogue

open FieldEntry FieldValue

/-- The conditions, in the order of the filter language. The names of classes
    and bases have blanks in them. -/
def conditions : List FieldEntry :=
  [condition "AreaLevel" fun r => do ofNumbers ((← r.conditions).get .areaLevel),
    condition "WaystoneTier" fun r => do ofNumbers ((← r.conditions).get .waystoneTier),
    condition "ItemLevel" fun r => do ofNumbers ((← r.conditions).get .itemLevel),
    condition "DropLevel" fun r => do ofNumbers ((← r.conditions).get .dropLevel),
    condition "Quality" fun r => do ofNumbers ((← r.conditions).get .quality),
    condition "Rarity" fun r => do ofRarities ((← r.conditions).get .rarity),
    inQuotes <| condition "Class" fun r => do ofTexts ((← r.conditions).get .itemClass),
    inQuotes <| condition "BaseType" fun r => do ofTexts ((← r.conditions).get .baseType),
    condition "Prophecy" fun r => do ofTextList ((← r.conditions).get .prophecy),
    condition "LinkedSockets" fun r => do ofNumbers ((← r.conditions).get .linkedSockets),
    condition "SocketGroup" fun r => do ofTexts ((← r.conditions).get .socketGroup),
    condition "Sockets" fun r => do ofNumbers ((← r.conditions).get .sockets),
    condition "Height" fun r => do ofNumbers ((← r.conditions).get .height),
    condition "Width" fun r => do ofNumbers ((← r.conditions).get .width),
    condition "HasExplicitMod" fun r => do ofTexts ((← r.conditions).get .hasExplicitMod),
    condition "AnyEnchantment" fun r => do ofFlag ((← r.conditions).get .anyEnchantment),
    condition "HasEnchantment" fun r => do ofWord ((← r.conditions).get .hasEnchantment),
    condition "EnchantmentPassiveNode" fun r => do
      ofWord ((← r.conditions).get .enchantmentPassiveNode),
    condition "EnchantmentPassiveNum" fun r => do
      ofNumbers ((← r.conditions).get .enchantmentPassiveNum),
    condition "StackSize" fun r => do ofNumbers ((← r.conditions).get .stackSize),
    condition "GemLevel" fun r => do ofNumbers ((← r.conditions).get .gemLevel),
    condition "GemQualityType" fun r => do ofGemQuality ((← r.conditions).get .gemQualityType),
    condition "AlternateQuality" fun r => do ofFlag ((← r.conditions).get .alternateQuality),
    condition "Replica" fun r => do ofFlag ((← r.conditions).get .replica),
    condition "Identified" fun r => do ofFlag ((← r.conditions).get .identified),
    condition "Corrupted" fun r => do ofFlag ((← r.conditions).get .corrupted),
    condition "CorruptedMods" fun r => do ofNumbers ((← r.conditions).get .corruptedMods),
    condition "Mirrored" fun r => do ofFlag ((← r.conditions).get .mirrored),
    condition "ElderItem" fun r => do ofFlag ((← r.conditions).get .elderItem),
    condition "ShaperItem" fun r => do ofFlag ((← r.conditions).get .shaperItem),
    condition "HasInfluence" fun r => do ofInfluence ((← r.conditions).get .hasInfluence),
    condition "HasSearingExarchImplicit" fun r => do
      ofNumbers ((← r.conditions).get .hasSearingExarchImplicit),
    condition "HasEaterOfWorldsImplicit" fun r => do
      ofNumbers ((← r.conditions).get .hasEaterOfWorldsImplicit),
    condition "FracturedItem" fun r => do ofFlag ((← r.conditions).get .fracturedItem),
    condition "SynthesisedItem" fun r => do ofFlag ((← r.conditions).get .synthesisedItem),
    condition "ElderMap" fun r => do ofFlag ((← r.conditions).get .elderMap),
    condition "ShaperMap" fun r => do ofFlag ((← r.conditions).get .shaperMap),
    condition "BlightedMap" fun r => do ofFlag ((← r.conditions).get .blightedMap),
    condition "MapTier" fun r => do ofNumbers ((← r.conditions).get .mapTier),
    condition "HasImplicitMod" fun r => do ofFlag ((← r.conditions).get .hasImplicitMod),
    condition "HasCruciblePassiveTree" fun r => do
      ofFlag ((← r.conditions).get .hasCruciblePassiveTree)]

/-- The actions, in the order of the filter language. -/
def actions : List FieldEntry :=
  [action "SetBorderColor" fun r => do ofColor ((← r.actions).get .setBorderColor),
    action "SetTextColor" fun r => do ofColor ((← r.actions).get .setTextColor),
    action "SetBackgroundColor" fun r => do ofColor ((← r.actions).get .setBackgroundColor),
    within 1 45 <| action "SetFontSize" fun r => do ofNumber ((← r.actions).get .setFontSize),
    within 0 300 <| action "PlayAlertSound" fun r => do
      ofSound ((← r.actions).get .playAlertSound),
    within 0 300 <| action "PlayAlertSoundPositional" fun r => do
      ofSound ((← r.actions).get .playAlertSoundPositional),
    action "DisableDropSound" fun r => do ofFlag ((← r.actions).get .disableDropSound),
    action "EnableDropSound" fun r => do ofFlag ((← r.actions).get .enableDropSound),
    action "CustomAlertSound" fun r => do ofQuotedText ((← r.actions).get .customAlertSound),
    within 0 2 <| action "MinimapIcon" fun r => do ofIcon ((← r.actions).get .minimapIcon),
    action "PlayEffect" fun r => do ofEffect ((← r.actions).get .playEffect)]

end Catalogue

/-- The entries of all fields in the order of the filter language. -/
def catalogueEntries : List FieldEntry :=
  Catalogue.conditions ++ Catalogue.actions

/-- What is known of all fields, in the same order. -/
def catalogue : List FieldSpec :=
  catalogueEntries.map FieldEntry.toFieldSpec

namespace Rule

/-- The set fields of a rule, in catalogue order. -/
def fields (r : Rule) : List (FieldSpec × FieldValue) :=
  catalogueEntries.filterMap fun e => (e.read r).map fun value => (e.toFieldSpec, value)

end Rule

/-! ## The entries of settings -/

/-- A text with its first letter as a capital. -/
def Text.capitalized (s : String) : String :=
  match s.toList with
  | [] => ""
  | c :: cs => String.ofList (c.toUpper :: cs)

namespace Field

/-- The keyword of a setting, which is its key with a capital. -/
def keyword (f : Field) : String :=
  Text.capitalized f.key

/-- The setting that a keyword belongs to. -/
def ofKeyword? (keyword : String) : Option Field :=
  all.find? fun f => f.keyword == keyword

/-- The section of a setting. -/
def part : Field → Section
  | .condition _ => .condition
  | .action _ => .action

/-- What the catalogue says of a setting: its entry is the one under the keyword
    of the setting. -/
def spec (f : Field) : FieldSpec :=
  (catalogue.find? fun s => s.keyword == f.keyword).getD ⟨f.keyword, f.part, .bare, none⟩

end Field

end LootFilter
