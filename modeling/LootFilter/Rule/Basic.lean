import LootFilter.Json.Reader
import LootFilter.Rule.Setting

/-!
# Rules

A rule says what a filter does with the items that meet its conditions. It has
a block type and, if it needs them, a section of conditions and a section of
actions. An absent section and a section without any value mean the same to the
game, but a rule file can tell them apart, so a rule can too.

Rules are read from files and written to them as JSON. A file is decoded in the
order in which it is written; its first problem is the one that is reported.

## Main definitions

* `Field`: A setting of either section.
* `Rule`: A block type and two sections.
* `Rule.toJson`, `Rule.decode`: The object of a rule and its reader.
* `Rule.ofText`: The rules that a text holds.
* `Rule.toText`: The text of a list of rules.
-/

namespace LootFilter

/-- A setting of a rule: a condition or an action. -/
inductive Field where
  | condition (c : Condition)
  | action (a : Action)
  deriving DecidableEq

namespace Field

/-- Every setting, conditions before actions, in the order of a rule file. -/
def all : List Field :=
  Condition.all.map .condition ++ Action.all.map .action

/-- The name of a setting and the kind of its value. -/
def entry : Field → SettingEntry
  | .condition c => RuleSection.entry c
  | .action a => RuleSection.entry a

/-- The kind of a setting's value. -/
@[reducible]
def kind (f : Field) : Kind :=
  f.entry.kind

/-- The key of a setting in a rule file. -/
def key (f : Field) : String :=
  f.entry.key

end Field

/-- What a filter does with the items that meet some conditions. -/
structure Rule where
  blockType : BlockType
  conditions : Option Conditions
  actions : Option Actions

namespace Rule

/-- A rule that matches every item and changes nothing about it. -/
def ofBlockType (blockType : BlockType) : Rule :=
  ⟨blockType, none, none⟩

/-- The object of a rule. Absent sections are not written. -/
def toJson (r : Rule) : Json :=
  .object (("blockType", Vocabulary.toJson r.blockType) ::
    ((r.conditions.map fun s => ("conditions", s.toJson)).toList ++
      (r.actions.map fun s => ("actions", s.toJson)).toList))

/-- The members of a rule. -/
def record (origin : Origin) : Record Rule :=
  ((Record.required "blockType" (Vocabulary.decode BlockType origin)).both
    ((Record.optional "conditions" (Settings.decode origin "Conditions")).both
      (Record.optional "actions" (Settings.decode origin "Actions")))).map
    fun (blockType, conditions, actions) => ⟨blockType, conditions, actions⟩

/-- The reader of a rule. Members that it does not have are skipped. -/
def decode (origin : Origin) : Decoder Rule :=
  (record origin).decode origin "Rule" false

/-- The rules that a text holds. The text is decoded in its own order, and what
    follows the list is looked at last. -/
def ofText (text : String) : Except Fault (List Rule) :=
  match Fragment.ofText text with
  | (fragment, ended) => do
    let rules ← Decode.list (decode .text) fragment
    if ended then return rules else throw .invalidJson

/-- The text of a list of rules. -/
def toText (rules : List Rule) : String :=
  (Json.array (rules.map toJson)).compact

end Rule

end LootFilter
