import LootFilter.Disk.Basic
import LootFilter.Json.Fault
import LootFilter.Table.Version
import LootFilter.Url.Host

/-!
# Failures of Table Sources

Why a source gives no tables. A table can be absent, or out of reach, or there
but not made of rows; and a server's address can be useless from the start.

## Main definitions

* `SourceError`: Why a source gives no tables.
* `SourceError.message`: The wording of a failure.
-/

namespace LootFilter

/-- What is wrong with a table as a whole. -/
inductive TableFault where
  | invalidJson
  /-- A value of another kind stands in the place of the rows. -/
  | notRows (kind : String)
  deriving DecidableEq

namespace TableFault

/-- The wording of a fault. -/
def message : TableFault → String
  | .invalidJson => "invalid JSON"
  | .notRows kind => "expected an array of rows, got " ++ kind

end TableFault

/-- Why a source gives no tables. -/
inductive SourceError where
  /-- The source has no such table; it was looked up at a place, if the source
      has places. -/
  | notFound (table : TableName) (version : GameVersion) (place : Option String)
  /-- The file of the table cannot be read. -/
  | unreadable (error : DiskError)
  /-- The address is not one that tables can be fetched from. -/
  | refused (address : String)
  /-- The server does not answer. -/
  | unreachable (address : String)
  /-- The table is not made of rows. -/
  | malformedTable (table : TableName) (fault : TableFault)
  /-- A row does not have the columns of its table. -/
  | malformedRow (table : TableName) (row : Nat) (fault : Fault)
  /-- The address of the server is no URL. -/
  | invalidAddress (error : UrlError)
  /-- The address of the server has no hierarchy that tables could be in. -/
  | unsuitableAddress (address : String)
  deriving DecidableEq

namespace SourceError

/-- The wording of a failure. -/
def message : SourceError → String
  | .notFound table version place =>
    "table not found: " ++ table.name ++ " for " ++ version.tag ++
      match place with
      | some place => " (" ++ place ++ ")"
      | none => ""
  | .unreadable error => "fetch failed: " ++ error.message
  | .refused address => "fetch failed: builder error for url (" ++ address ++ ")"
  | .unreachable address => "fetch failed: error sending request for url (" ++ address ++ ")"
  | .malformedTable table fault =>
    "malformed table " ++ table.name ++ ": " ++ fault.message
  | .malformedRow table row fault =>
    "malformed row " ++ toString row ++ " in table " ++ table.name ++ ": " ++ fault.message
  | .invalidAddress error => "config error: " ++ error.message
  | .unsuitableAddress address =>
    "config error: '" ++ address ++ "' cannot be used as a base URL"

end SourceError

end LootFilter
