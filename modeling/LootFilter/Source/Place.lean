import LootFilter.Disk.Basic
import LootFilter.Source.Load
import LootFilter.Text.Search
import LootFilter.Url.Parser

/-!
# Table Sources

A source of tables is a folder or a server. Both have the same layout: a folder
for each version, in it a folder `tables`, and in that a file for each table.

The text that names a source is the address of a server if it starts with a
scheme of the web, and the path of a folder otherwise. A path may be written as
a file URL; no other scheme is known.

A server can only be asked for tables if its scheme is one of the web. Nothing
here goes through a network, so the tables of such a server count as out of
reach.

## Main definitions

* `TableServer`, `TableFolder`: A server or a folder with tables.
* `TableServer.tableUrl`, `TableFolder.tablePath`: Where a table is.
* `TableSource`: A folder or a server.
* `TableSource.ofUri`: The source that a text names.
-/

namespace LootFilter

/-- The path of a table below the root of any source. -/
def tablePath (version : GameVersion) (table : TableName) : String :=
  version.tag ++ "/tables/" ++ table.name ++ ".json"

/-! ## Servers -/

/-- A server with tables. Its address ends in a slash, so that the path of a
    table continues it. -/
structure TableServer where
  address : Url
  deriving DecidableEq

namespace TableServer

/-- The server at an address. -/
def ofAddress (address : String) : Except SourceError TableServer :=
  match Url.parse address with
  | .error e => .error (.invalidAddress e)
  | .ok url =>
    if !url.isHierarchical then .error (.unsuitableAddress url.toText)
    else if url.path.getLast? = some '/' then .ok ⟨url⟩
    else .ok ⟨url.setPath (url.path ++ ['/'])⟩

/-- The address of a table. -/
def tableUrl (s : TableServer) (table : TableName) (version : GameVersion) :
    Except SourceError Url :=
  match s.address.join (tablePath version table) with
  | .error e => .error (.invalidAddress e)
  | .ok url => .ok url

/-- What asking the server for a table comes to. Credentials to log in with are
    not part of the address that is asked. -/
def fetch (s : TableServer) (table : TableName) (version : GameVersion) :
    Except SourceError (List Json) := do
  let url ← s.tableUrl table version
  let address := url.withoutLogin.toText
  if url.scheme = "http".toList ∨ url.scheme = "https".toList then
    throw (.unreachable address)
  else throw (.refused address)

end TableServer

/-! ## Folders -/

/-- A folder with tables. -/
structure TableFolder where
  root : String
  deriving DecidableEq

namespace TableFolder

/-- The path of a table. -/
def tablePath (f : TableFolder) (table : TableName) (version : GameVersion) : String :=
  Path.join (Path.join (Path.join f.root version.tag) "tables") (table.name ++ ".json")

/-- The rows of a table from what reading its file gave. -/
def rows (f : TableFolder) (table : TableName) (version : GameVersion) :
    Except DiskError String → Except SourceError (List Json)
  | .ok text => rowsOfText table text
  | .error .notFound => .error (.notFound table version (some (f.tablePath table version)))
  | .error e => .error (.unreadable e)

end TableFolder

/-! ## Either of them -/

/-- A folder or a server with tables. -/
inductive TableSource where
  | folder (f : TableFolder)
  | server (s : TableServer)
  deriving DecidableEq

/-- Why a text names no source. -/
inductive SourceUriError where
  | empty
  | unsupported (uri : String)
  | unusable (error : SourceError)
  deriving DecidableEq

namespace SourceUriError

/-- The wording of an error. -/
def message : SourceUriError → String
  | .empty => "Table source URI is empty"
  | .unsupported uri => "Unsupported table source URI: " ++ uri
  | .unusable error => error.message

end SourceUriError

namespace TableSource

/-- A text starts with another one. -/
def startsWith (s start : String) : Bool :=
  start.toList.isPrefixOf s.toList

/-- The source that a text names. -/
def ofUri (uri : String) : Except SourceUriError TableSource :=
  let uri := Text.trim uri
  if uri.isEmpty then .error .empty
  else if startsWith uri "http://" || startsWith uri "https://" then
    match TableServer.ofAddress uri with
    | .ok s => .ok (.server s)
    | .error e => .error (.unusable e)
  else if startsWith uri "file://" then
    .ok (.folder ⟨String.ofList (uri.toList.drop "file://".length)⟩)
  else if Text.mentions uri "://" then .error (.unsupported uri)
  else .ok (.folder ⟨uri⟩)

end TableSource

end LootFilter
