import LootFilter.Json.Fault

/-!
# Decoding Simple Values

Readers for the types that have no members of their own: truth values, texts,
integers of a range, doubles, lists, optional values and keywords.

A reader is told where its fragment comes from. The two origins differ in three
points only. In a text a keyword can only start with a quote or a brace, and the
key of a keyword's object only with a quote; anything else is a slip of the
syntax, while in memory it is a value of the wrong kind. In a text that key is
met before the number of members is known. And what follows the last expected
item of a list is a slip of the syntax in a text, and a wrong length in memory.

## Main definitions

* `Origin`: Where a fragment comes from.
* `Decode.integer`, `Decode.double`, `Decode.text`, `Decode.bool`: Readers.
* `Decode.list`, `Decode.optional`: Readers over readers.
* `Decode.keyword`: The reader of one of a list of names.
-/

namespace LootFilter

/-- Where a fragment comes from: a text that is met in the order in which it is
    written, or a value in memory. -/
inductive Origin where
  | text
  | memory
  deriving DecidableEq

/-- A reader of typed values. -/
abbrev Decoder (α : Type) :=
  Fragment → Except Fault α

namespace Fragment

/-- What a complaint about the fragment says was found. A token without a value
    and a break of the grammar are complaints of their own. -/
def found : Fragment → Except Fault Found
  | .null => .ok .null
  | .bool b => .ok (.bool b)
  | .number (some (.int n)) => .ok (.int n)
  | .number (some (.float x)) => .ok (.float x)
  | .number none => .error .invalidJson
  | .string (some s) => .ok (.text s)
  | .string none => .error .invalidJson
  | .array _ _ => .ok .sequence
  | .object _ _ => .ok .map
  | .broken => .error .invalidJson

/-- The complaint that a fragment is not what was expected. -/
def mismatch (expected : String) (f : Fragment) : Fault :=
  match f.found with
  | .ok found => .wrongType found expected
  | .error fault => fault

end Fragment

namespace Decode

/-- A truth value. -/
def bool : Decoder Bool
  | .bool b => .ok b
  | f => .error (f.mismatch "a boolean")

/-- A text. -/
def text : Decoder String
  | .string (some s) => .ok s
  | f => .error (f.mismatch "a string")

/-- An integer between two bounds, both included, of a type with the given
    name. -/
def integer (name : String) (least most : Int) : Decoder Int
  | .number (some (.int n)) =>
    if least ≤ n ∧ n ≤ most then .ok n else .error (.outOfRange n name)
  | f => .error (f.mismatch name)

/-- An unsigned 8-bit integer. -/
def uint8 (f : Fragment) : Except Fault UInt8 :=
  (integer "u8" 0 255 f).map fun n => .ofNat n.toNat

/-- An unsigned 32-bit integer. -/
def uint32 (f : Fragment) : Except Fault UInt32 :=
  (integer "u32" 0 4294967295 f).map fun n => .ofNat n.toNat

/-- A row position, which has 64 bits. -/
def position (f : Fragment) : Except Fault UInt64 :=
  (integer "usize" 0 18446744073709551615 f).map fun n => .ofNat n.toNat

/-- A signed 32-bit integer. -/
def int32 (f : Fragment) : Except Fault Int32 :=
  (integer "i32" (-2147483648) 2147483647 f).map Int32.ofInt

/-- A double; an integer is rounded to the nearest one. -/
def double : Decoder Binary64
  | .number (some (.float x)) => .ok x
  | .number (some (.int n)) => .ok (.ofInt n)
  | f => .error (f.mismatch "f64")

/-- A value or `null`. -/
def optional {α : Type} (read : Decoder α) : Decoder (Option α)
  | .null => .ok none
  | f => (read f).map some

/-- The items of a list, in order. -/
def items {α : Type} (read : Decoder α) : List Fragment → Except Fault (List α)
  | [] => .ok []
  | f :: rest => do
    let a ← read f
    let more ← items read rest
    return a :: more

/-- A list of values of one type. -/
def list {α : Type} (read : Decoder α) : Decoder (List α)
  | .array fs closed => do
    let values ← items read fs
    if closed then return values else throw .invalidJson
  | f => .error (f.mismatch "a sequence")

/-- The value of a name, if it is known. -/
def named {α : Type} (known : List (String × α)) (name : String) : Except Fault α :=
  match known.find? (fun p => p.1 == name) with
  | some (_, a) => .ok a
  | none => .error (.unknownVariant name (known.map Prod.fst))

/-- The empty content of a keyword that is written as an object. -/
def unit : Decoder Unit
  | .null => .ok ()
  | f => .error (f.mismatch "unit")

/-- A keyword out of a list of names: the name itself, or an object with the
    name as its only key and nothing under it. -/
def keyword {α : Type} (origin : Origin) (known : List (String × α)) : Decoder α
  | .string (some s) => named known s
  | .object members closed =>
    match origin, members with
    | .memory, [(.string (some name), content)] => do
      let a ← named known name
      unit content
      return a
    | .memory, _ => .error .notSingleKey
    | .text, (.string (some name), content) :: rest => do
      let a ← named known name
      unit content
      if rest.isEmpty && closed then return a else throw .invalidJson
    | .text, _ => .error .invalidJson
  | f =>
    match origin with
    | .text => .error .invalidJson
    | .memory => .error (f.mismatch "string or map")

end Decode

end LootFilter
