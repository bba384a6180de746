import LootFilter.Number.Decimal

/-!
# JSON Values

Two views of JSON. A `Json` is a value in memory, whole and without a spelling.
A `Fragment` is what could be read of a text: the tree of its values in the
order in which they were written, as far as the text is JSON at all. Rule files
are decoded from fragments, so that the first problem of a file is the one
reported, whether it is a slip of the syntax or a value of the wrong shape.

Two kinds of defect are told apart. A token may follow the grammar and still
denote no value, such as the escape of half a surrogate pair or a number beyond
all doubles. It spoils only those who ask for its value, and a member that
nobody asks for may hold one. A break of the grammar, on the other hand, ends
the reading, so all that encloses it is left open.

Numbers keep the distinction of their spelling: whole numbers within 64 bits
are integers, and everything else is a double.

## Main definitions

* `Json`: A value in memory.
* `Json.Number`: An integer or a double.
* `Fragment`: The tree that was read of a text.
* `Fragment.ofJson`: A value seen as a fragment without defects.
* `Fragment.toJson?`: The value of a fragment without defects.
-/

namespace LootFilter

/-- An integer or a double. -/
inductive Json.Number where
  | int (n : Int)
  | float (x : Binary64)
  deriving DecidableEq

/-- A JSON value. The members of an object are kept in a list; a value that was
    read from a text holds them sorted by key, each key once. -/
inductive Json where
  | null
  | bool (b : Bool)
  | number (n : Json.Number)
  | string (s : String)
  | array (items : List Json)
  | object (members : List (String × Json))

namespace Json

/-- An integer as a value. -/
def int (n : Int) : Json :=
  .number (.int n)

/-- An unsigned 8-bit number as a value. -/
def uint8 (n : UInt8) : Json :=
  .int n.toNat

/-- An unsigned 32-bit number as a value. -/
def uint32 (n : UInt32) : Json :=
  .int n.toNat

/-- A signed 32-bit number as a value. -/
def int32 (n : Int32) : Json :=
  .int n.toInt

/-- The position of a row as a value. -/
def position (n : UInt64) : Json :=
  .int n.toNat

/-- A double as a value. -/
def float (x : Binary64) : Json :=
  .number (.float x)

/-- The value, or `null` in its absence. -/
def orNull : Option Json → Json
  | some j => j
  | none => .null

/-- The member of an object under a key. -/
def get? (key : String) : Json → Option Json
  | .object members => (members.find? (fun m => m.1 == key)).map Prod.snd
  | _ => none

/-- A member list with one more member. The list stays sorted by key, and a
    member of the same key is replaced. -/
def insertMember (key : String) (value : Json) :
    List (String × Json) → List (String × Json)
  | [] => [(key, value)]
  | (k, v) :: rest =>
    if key = k then (key, value) :: rest
    else if key < k then (key, value) :: (k, v) :: rest
    else (k, v) :: insertMember key value rest

/-- The members in key order. Of several members with one key the last one
    counts. -/
def sortMembers (members : List (String × Json)) : List (String × Json) :=
  members.foldl (fun sorted m => insertMember m.1 m.2 sorted) []

end Json

/-- What could be read of a JSON text. -/
inductive Fragment where
  | null
  | bool (b : Bool)
  /-- A number; `none` if it is too large for a double. -/
  | number (n : Option Json.Number)
  /-- A text; `none` if one of its escapes denotes no character. -/
  | string (s : Option String)
  /-- The items that were read, and whether the closing bracket was. -/
  | array (items : List Fragment) (closed : Bool)
  /-- The members that were read, and whether the closing brace was. A key that
      is no text is always the last one, since it ends the reading. -/
  | object (members : List (Fragment × Fragment)) (closed : Bool)
  /-- What stands here is not JSON. -/
  | broken

namespace Fragment

/-- Nothing that belongs to the fragment broke off, so what follows it in the
    text was read too. -/
def isClosed : Fragment → Bool
  | .array _ closed => closed
  | .object _ closed => closed
  | .broken => false
  | _ => true

mutual

/-- A value in memory as a fragment without defects. -/
def ofJson : Json → Fragment
  | .null => .null
  | .bool b => .bool b
  | .number n => .number (some n)
  | .string s => .string (some s)
  | .array items => .array (ofItems items) true
  | .object members => .object (ofMembers members) true

/-- The items of an array as fragments. -/
def ofItems : List Json → List Fragment
  | [] => []
  | j :: rest => ofJson j :: ofItems rest

/-- The members of an object as fragments. -/
def ofMembers : List (String × Json) → List (Fragment × Fragment)
  | [] => []
  | (k, v) :: rest => (.string (some k), ofJson v) :: ofMembers rest

end

mutual

/-- The value of a fragment without defects whose arrays and objects nest at
    most `depth` deep. Objects come out sorted by key. -/
def toJson? (depth : Nat) : Fragment → Option Json
  | .null => some .null
  | .bool b => some (.bool b)
  | .number n => n.map .number
  | .string s => s.map .string
  | .array items closed =>
    match depth with
    | 0 => none
    | d + 1 => if closed then (toItems? d items).map .array else none
  | .object members closed =>
    match depth with
    | 0 => none
    | d + 1 => if closed then (toMembers? d members).map (.object ∘ Json.sortMembers) else none
  | .broken => none

/-- The values of the items of an array. -/
def toItems? (depth : Nat) : List Fragment → Option (List Json)
  | [] => some []
  | f :: rest => do
    let item ← toJson? depth f
    let items ← toItems? depth rest
    return item :: items

/-- The keys and values of the members of an object. -/
def toMembers? (depth : Nat) : List (Fragment × Fragment) → Option (List (String × Json))
  | [] => some []
  | (.string (some key), v) :: rest => do
    let value ← toJson? depth v
    let members ← toMembers? depth rest
    return (key, value) :: members
  | _ :: _ => none

end

end Fragment

end LootFilter
