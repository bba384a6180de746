import LootFilter.Filter.Catalogue

/-!
# Filter Documents

A rule is written as a block: the token of its block type on a line, and a line
for each set field in catalogue order. A document has a block per rule with
blank lines between them, and a filter that was written by hand can follow.

Writing stops at the first value that its field refuses. Validation looks at
the same fields in the same order but goes on, and gives all the values that
are refused.

## Main definitions

* `MalformedValue`: A refused value and where it stands.
* `Rule.block`: The block of a rule.
* `Document.compile`: The document of a list of rules.
* `Document.compileWithBase`: The same ahead of a filter written by hand.
* `Document.validate`: All refused values of a list of rules.
-/

namespace LootFilter

/-- A refused value: the position of its rule, its keyword, and why. -/
structure MalformedValue where
  rule : Nat
  field : String
  reason : Malformed
  deriving DecidableEq

namespace MalformedValue

/-- The wording of a refusal. -/
def message (e : MalformedValue) : String :=
  "Rule " ++ toString e.rule ++ ": malformed " ++ e.field ++ " value: " ++ e.reason.message

end MalformedValue

namespace Rule

/-- The lines of some fields; the first refused value ends them. -/
def fieldLines (index : Nat) :
    List (FieldSpec × FieldValue) → Except MalformedValue (List String)
  | [] => .ok []
  | (spec, value) :: rest =>
    match spec.check value with
    | .error reason => .error ⟨index, spec.keyword, reason⟩
    | .ok () => do
      let lines ← fieldLines index rest
      return spec.renderLine value :: lines

/-- The block of a rule. The index is the rule's position in its list and only
    shows in a refusal. -/
def block (r : Rule) (index : Nat) : Except MalformedValue String := do
  let lines ← fieldLines index r.fields
  return "\n".intercalate (Vocabulary.token r.blockType :: lines)

/-- The refused values of a rule. -/
def malformed (r : Rule) (index : Nat) : List MalformedValue :=
  r.fields.filterMap fun (spec, value) =>
    match spec.check value with
    | .error reason => some ⟨index, spec.keyword, reason⟩
    | .ok () => none

end Rule

namespace Document

/-- The blocks of a list of rules whose first one has the given position. -/
def blocks (start : Nat) : List Rule → Except MalformedValue (List String)
  | [] => .ok []
  | r :: rest => do
    let block ← r.block start
    let more ← blocks (start + 1) rest
    return block :: more

/-- The document of a list of rules. -/
def compile (rules : List Rule) : Except MalformedValue String :=
  (blocks 0 rules).map "\n\n".intercalate

/-- The document of a list of rules ahead of a filter written by hand. -/
def compileWithBase (rules : List Rule) (base : String) : Except MalformedValue String :=
  (compile rules).map fun compiled => "\n" ++ compiled ++ "\n\n" ++ base ++ "\n"

/-- The document, ahead of a filter written by hand if there is one. -/
def compileOver (rules : List Rule) : Option String → Except MalformedValue String
  | some base => compileWithBase rules base
  | none => compile rules

/-- The refused values of a list of rules whose first one has the given
    position. -/
def malformedFrom (start : Nat) : List Rule → List MalformedValue
  | [] => []
  | r :: rest => r.malformed start ++ malformedFrom (start + 1) rest

/-- All refused values of a list of rules, in order. -/
def validate (rules : List Rule) : List MalformedValue :=
  malformedFrom 0 rules

end Document

end LootFilter
