import LootFilter.Json.Decode

/-!
# Decoding Records

A record type is described once, by its fields in declaration order, and read
in either of two forms from that description: an object, whose members may
stand in any order, or a list with the values in declaration order.

Descriptions are put together from single fields. While an object is read, each
field has a slot for the value that was met; what is still missing when the
object ends takes its default or is a fault. A member is decoded when it is
met, so the first fault in the order of the members is reported, and absent
fields only count after all members that are present.

## Main definitions

* `Record`: The description of a record type.
* `Record.field`, `Record.both`, `Record.map`: How descriptions are made.
* `Record.ofMembers`, `Record.ofItems`: The two forms.
* `Record.decode`: The reader of a record type.
* `Record.decodeTuple`: The reader of a type that has the list form only.
-/

namespace LootFilter

/-- The description of a record type `α` by its fields. -/
structure Record (α : Type) where
  /-- What is known of the fields while the record is read. -/
  Slots : Type
  /-- Nothing is known yet. -/
  empty : Slots
  /-- The names of the fields in declaration order. -/
  names : List String
  /-- A value of the field with this name is known. -/
  isSet : Slots → String → Bool
  /-- Decodes a value of the field with this name into its slot. -/
  put : Slots → String → Fragment → Except Fault Slots
  /-- The record, or the name of the first field that is missing. -/
  finish : Slots → Except String α

namespace Record

/-- A single field. Without a default it has to be present. -/
def field {α : Type} (name : String) (read : Decoder α) (absent : Option α) : Record α where
  Slots := Option α
  empty := none
  names := [name]
  isSet slot _ := slot.isSome
  put _ _ f := (read f).map some
  finish slot :=
    match slot, absent with
    | some a, _ => .ok a
    | none, some a => .ok a
    | none, none => .error name

/-- A field that has to be present. -/
def required {α : Type} (name : String) (read : Decoder α) : Record α :=
  field name read none

/-- A field that may be absent or `null`. -/
def optional {α : Type} (name : String) (read : Decoder α) : Record (Option α) :=
  field name (Decode.optional read) (some none)

/-- The fields of one description followed by those of another. -/
def both {α β : Type} (r : Record α) (s : Record β) : Record (α × β) where
  Slots := r.Slots × s.Slots
  empty := (r.empty, s.empty)
  names := r.names ++ s.names
  isSet slots name :=
    if r.names.contains name then r.isSet slots.1 name else s.isSet slots.2 name
  put slots name f :=
    if r.names.contains name then (r.put slots.1 name f).map fun first => (first, slots.2)
    else (s.put slots.2 name f).map fun second => (slots.1, second)
  finish slots := do
    let a ← r.finish slots.1
    let b ← s.finish slots.2
    return (a, b)

/-- The same fields, put into another type at the end. -/
def map {α β : Type} (f : α → β) (r : Record α) : Record β where
  Slots := r.Slots
  empty := r.empty
  names := r.names
  isSet := r.isSet
  put := r.put
  finish slots := (r.finish slots).map f

/-- Reads the members of an object into the slots. A `strict` record has no
    members beside its fields; otherwise such members are skipped, which only
    asks of them that they do not break off. -/
def putMembers {α : Type} (r : Record α) (strict : Bool) :
    r.Slots → List (Fragment × Fragment) → Except Fault r.Slots
  | slots, [] => .ok slots
  | slots, (.string (some name), f) :: rest =>
    if r.names.contains name then
      if r.isSet slots name then .error (.duplicateField name)
      else do
        let slots ← r.put slots name f
        r.putMembers strict slots rest
    else if strict then .error (.unknownField name r.names)
    else if f.isClosed then r.putMembers strict slots rest
    else .error .invalidJson
  | _, _ :: _ => .error .invalidJson

/-- The record whose fields are the members of an object. -/
def ofMembers {α : Type} (r : Record α) (strict : Bool) (members : List (Fragment × Fragment))
    (closed : Bool) : Except Fault α := do
  let slots ← r.putMembers strict r.empty members
  if closed then
    match r.finish slots with
    | .ok a => return a
    | .error name => throw (.missingField name)
  else throw .invalidJson

/-- Reads items into the slots of the fields, in declaration order. The items
    beyond the last field are left over. -/
def putItems {α : Type} (r : Record α) :
    r.Slots → List String → List Fragment → Except Fault (r.Slots × List Fragment)
  | slots, name :: names, f :: rest => do
    let slots ← r.put slots name f
    r.putItems slots names rest
  | slots, _, rest => .ok (slots, rest)

/-- The record whose fields are the items of a list. `expected` says what a
    list of another length should have been. -/
def ofItems {α : Type} (r : Record α) (origin : Origin) (expected : String)
    (items : List Fragment) (closed : Bool) : Except Fault α := do
  let (slots, rest) ← r.putItems r.empty r.names items
  -- A list that breaks off within the fields ends the reading there.
  if !closed && items.length < r.names.length then throw .invalidJson
  match r.finish slots with
  | .error name => throw (.wrongLength (r.names.idxOf name) expected)
  | .ok a =>
    if rest.isEmpty && closed then return a
    else
      match origin with
      | .text => throw .invalidJson
      | .memory => throw (.wrongLength items.length "fewer elements in array")

/-- The fields of a record as a count. -/
def countFields (n : Nat) : String :=
  toString n ++ (if n = 1 then " element" else " elements")

/-- The reader of a record type with the given name, in either form. -/
def decode {α : Type} (r : Record α) (origin : Origin) (name : String) (strict : Bool) :
    Decoder α
  | .object members closed => r.ofMembers strict members closed
  | .array items closed =>
    r.ofItems origin ("struct " ++ name ++ " with " ++ countFields r.names.length) items closed
  | f => .error (f.mismatch ("struct " ++ name))

/-- The reader of a type with the given name that is written as a list. -/
def decodeTuple {α : Type} (r : Record α) (origin : Origin) (name : String) : Decoder α
  | .array items closed =>
    r.ofItems origin ("tuple struct " ++ name ++ " with " ++ countFields r.names.length)
      items closed
  | f => .error (f.mismatch ("tuple struct " ++ name))

end Record

end LootFilter
