import LootFilter.Json.Reader
import LootFilter.Source.Error
import LootFilter.Table.Row
import Std.Data.HashMap

/-!
# Loading Tables

The six tables of a version are fetched first, all of them, and decoded only
then. So a table that cannot be fetched is reported before any row that does not
fit, and both go by the order in which the version needs its tables. Either all
tables are loaded or none.

In between the rows are kept by the name of their table. Each table is taken out
of there once, and a table that is not there would be taken for an empty one.

## Main definitions

* `rowsOfText`: The rows that the text of a table holds.
* `decodeRows`: The typed rows of a table.
* `fetchAll`: The rows of some tables.
* `FetchedRows`: Rows by the name of their table.
* `ItemTables.load`: The tables of a version from anything that gives rows.
-/

namespace LootFilter

namespace Json

/-- A value's kind, with an article. -/
def kindName : Json → String
  | .null => "null"
  | .bool _ => "a boolean"
  | .number _ => "a number"
  | .string _ => "a string"
  | .array _ => "an array"
  | .object _ => "an object"

end Json

/-- The rows that the text of a table holds. -/
def rowsOfText (table : TableName) (text : String) : Except SourceError (List Json) :=
  match Json.ofText? text with
  | some (.array rows) => .ok rows
  | some other => .error (.malformedTable table (.notRows other.kindName))
  | none => .error (.malformedTable table .invalidJson)

/-- The typed rows of a table whose first row has the given position. -/
def decodeRowsFrom {α : Type} (table : TableName) (read : Decoder α) (start : Nat) :
    List Json → Except SourceError (List α)
  | [] => .ok []
  | row :: rest =>
    match read (.ofJson row) with
    | .error fault => .error (.malformedRow table start fault)
    | .ok a => do
      let more ← decodeRowsFrom table read (start + 1) rest
      return a :: more

/-- The typed rows of a table; the first row that does not fit ends them. -/
def decodeRows {α : Type} (table : TableName) (read : Decoder α) (rows : List Json) :
    Except SourceError (List α) :=
  decodeRowsFrom table read 0 rows

/-- The rows of some tables, each with its table. The first table that cannot be
    fetched ends them. -/
def fetchAll (fetch : TableName → Except SourceError (List Json)) :
    List TableName → Except SourceError (List (TableName × List Json))
  | [] => .ok []
  | table :: rest => do
    let rows ← fetch table
    let more ← fetchAll fetch rest
    return (table, rows) :: more

/-- Rows that were fetched, by the name of their table. -/
abbrev FetchedRows :=
  Std.HashMap TableName (List Json)

namespace FetchedRows

/-- Takes the rows of a table out. A table that is not there has no rows. -/
def take (fetched : FetchedRows) (table : TableName) : List Json × FetchedRows :=
  (fetched.getD table [], fetched.erase table)

end FetchedRows

namespace ItemTables

/-- The typed tables of a version from the rows that were fetched. -/
def ofFetched (version : GameVersion) (fetched : FetchedRows) :
    Except SourceError ItemTables := do
  let (rows, fetched) := fetched.take .baseItemTypes
  let baseItems ← decodeRows .baseItemTypes BaseItemRow.decode rows
  let (rows, fetched) := fetched.take .itemClasses
  let itemClasses ← decodeRows .itemClasses ItemClassRow.decode rows
  let (rows, fetched) := fetched.take .armourTypes
  let armourTypes ← decodeRows .armourTypes ArmourTypeRow.decode rows
  let (rows, fetched) := fetched.take .weaponTypes
  let weaponTypes ← decodeRows .weaponTypes WeaponTypeRow.decode rows
  let (rows, fetched) := fetched.take .shieldTypes
  let shieldTypes ← decodeRows .shieldTypes ShieldTypeRow.decode rows
  let (rows, _) := fetched.take version.attributeTable
  let attributeRequirements ←
    decodeRows version.attributeTable AttributeRequirementRow.decode rows
  return {
    baseItems, itemClasses, armourTypes, weaponTypes, shieldTypes, attributeRequirements
  }

/-- The tables of a version. `fetch` gives the rows of a table. -/
def load (fetch : TableName → Except SourceError (List Json)) (version : GameVersion) :
    Except SourceError ItemTables := do
  let fetched ← fetchAll fetch version.requiredTables
  ofFetched version (.ofList fetched)

end ItemTables

end LootFilter
