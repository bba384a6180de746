import LootFilter.Source.Place

/-!
# Configuration of the Source

Where the tables come from and for which version is taken from the environment
and can be overridden by options. A blank variable counts as absent, except for
the version, which must not be blank. An option for the source replaces both
places of the environment at once; otherwise a folder goes before a server.

## Main definitions

* `Environment`: The variables that are looked at.
* `SourceConfig`: The places and the version.
* `SourceConfig.ofEnvironment`: What the environment says.
* `SourceConfig.override`: What the options change.
* `SourceConfig.uri`: The source to be used.
-/

namespace LootFilter

/-- The variables of the environment that are looked at. -/
structure Environment where
  tablesFolder : Option String := none
  tablesAddress : Option String := none
  gameVersion : Option String := none
  baseFilter : Option String := none
  deriving DecidableEq

/-- Where the tables come from and for which version. -/
structure SourceConfig where
  folder : Option String
  address : Option String
  version : GameVersion
  deriving DecidableEq

/-- What a configuration can lack. -/
inductive ConfigError where
  | blankVersion
  | noSource
  deriving DecidableEq

namespace ConfigError

/-- The wording of an error. -/
def message : ConfigError → String
  | .blankVersion => "Invalid LOOTGEN_GAME_VERSION: empty"
  | .noSource =>
    "No table source configured (set LOOTGEN_TABLES_DIR, LOOTGEN_TABLES_URL or --tables)"

end ConfigError

namespace SourceConfig

/-- The version that is meant when none is given. -/
def usualVersion : String :=
  "4.1.0.11"

/-- A variable, unless it is blank. -/
def nonBlank (value : Option String) : Option String :=
  value.filter fun s => !(Text.trim s).isEmpty

/-- What the environment says. -/
def ofEnvironment (env : Environment) : Except ConfigError SourceConfig :=
  let tag := env.gameVersion.getD usualVersion
  if (Text.trim tag).isEmpty then .error .blankVersion
  else .ok ⟨nonBlank env.tablesFolder, nonBlank env.tablesAddress, .ofTag tag⟩

/-- The configuration changed by options. A source given there replaces both
    places. -/
def override (c : SourceConfig) (tables version : Option String) : SourceConfig :=
  let c := match tables with
    | some tables => { c with folder := some tables, address := none }
    | none => c
  match version with
  | some tag => { c with version := .ofTag tag }
  | none => c

/-- The text that names the source. -/
def uri (c : SourceConfig) : Except ConfigError String :=
  match c.folder.or c.address with
  | some uri => .ok uri
  | none => .error .noSource

end SourceConfig

end LootFilter
