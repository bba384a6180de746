import LootFilter.Command.Arguments
import LootFilter.Command.Program
import LootFilter.Filter.Document
import LootFilter.Item.Join
import LootFilter.Preset

/-!
# Running Commands

A command is a program of steps, each of which can fail: files are read, tables
loaded, rules checked and compiled, and at the end a text is written to a file or
printed. A failure ends the command where it is met, and nothing of what was done
before is taken back.

A failure is shown by its own line, a blank one, and the cause of it, if it has
one. Refused values of a rules file are all listed ahead of that.

## Main definitions

* `CommandError`: Why a command fails.
* `Step`: A part of a command.
* `Command.steps`: The steps of a command.
* `commandLine`: The program of a command line, with the code that it ends with.
* `Outcome`: What is left of a run: a code, two texts, and a disk.
* `runArguments`: The run of a command line.
-/

namespace LootFilter

/-- Why a command fails. -/
inductive CommandError where
  | rulesUnreadable (path : String) (error : DiskError)
  | rulesMalformed (path : String) (fault : Fault)
  /-- A number of values in the rules are refused. -/
  | rulesRefused (count : Nat)
  | baseUnreadable (path : String) (error : DiskError)
  | config (error : ConfigError)
  | source (error : SourceUriError)
  | tables (version : GameVersion) (error : SourceError)
  | join (error : JoinError)
  | refused (value : MalformedValue)
  | outputUnwritable (path : String) (error : DiskError)
  deriving DecidableEq

namespace CommandError

/-- The wording of a failure. -/
def message : CommandError → String
  | .rulesUnreadable path _ => "Failed to read rules file " ++ Text.quoted path
  | .rulesMalformed path _ => "Failed to parse rules file " ++ Text.quoted path
  | .rulesRefused count => "Rule validation failed with " ++ toString count ++ " errors"
  | .baseUnreadable path _ => "Failed to read base filter " ++ Text.quoted path
  | .config error => error.message
  | .source error => error.message
  | .tables version _ => "Failed to load item tables for " ++ version.tag
  | .join error => error.message
  | .refused value => value.message
  | .outputUnwritable path _ => "Failed to write " ++ Text.quoted path

/-- The wording of what caused a failure. -/
def cause? : CommandError → Option String
  | .rulesUnreadable _ error => some error.message
  | .rulesMalformed _ fault => some fault.message
  | .baseUnreadable _ error => some error.message
  | .tables _ error => some error.message
  | .outputUnwritable _ error => some error.message
  | _ => none

/-- A text with its line breaks indented. -/
def indented (s : String) : String :=
  String.ofList (s.toList.flatMap fun c => if c = '\n' then '\n' :: List.replicate 4 ' ' else [c])

/-- The text of a failure. -/
def text (e : CommandError) : String :=
  "Error: " ++ e.message ++ "\n" ++
    match e.cause? with
    | some cause => "\nCaused by:\n    " ++ indented cause ++ "\n"
    | none => ""

end CommandError

/-- A part of a command, which can fail. -/
abbrev Step (α : Type) :=
  ExceptT CommandError Program α

namespace Step

/-- A result that is there already. -/
def ofExcept {α ε : Type} (wrap : ε → CommandError) : Except ε α → Step α
  | .ok a => pure a
  | .error e => throw (wrap e)

/-- Steps that cannot fail. -/
def ofProgram {α : Type} (p : Program α) : Step α :=
  ExceptT.lift p

/-- The text of a file. -/
def readFile (path : String) (wrap : DiskError → CommandError) : Step String := do
  ofExcept wrap (← ofProgram (.read path .done))

/-- Prints a text. -/
def print (text : String) : Step Unit :=
  ofProgram (.print text (.done ()))

/-- Complains of each value that is refused. -/
def complainOf : List MalformedValue → Step Unit
  | [] => pure ()
  | value :: rest => do
    ofProgram (.complain ("Validation error: " ++ value.message ++ "\n") (.done ()))
    complainOf rest

/-- A text goes to a file, or is printed in the absence of one. -/
def writeOutput (output : Option String) (text : String) : Step Unit :=
  match output with
  | some path => do
    ofExcept (.outputUnwritable path) (← ofProgram (.write path text .done))
  | none => print text

end Step

namespace Command

/-- The rules of a file. -/
def readRules (path : String) : Step (List Rule) := do
  let text ← Step.readFile path (.rulesUnreadable path)
  Step.ofExcept (.rulesMalformed path) (Rule.ofText text)

/-- The filter that is put behind the rules, if there is one. -/
def readBase : Option String → Step (Option String)
  | none => pure none
  | some path => do
    let text ← Step.readFile path (.baseUnreadable path)
    return some text

/-- Fails if a value in the rules is refused, after a complaint of each. -/
def ensureValid (rules : List Rule) : Step Unit :=
  match Document.validate rules with
  | [] => pure ()
  | values => do
    Step.complainOf values
    throw (.rulesRefused values.length)

/-- The rows of some tables of a source. -/
def fetchTables (source : TableSource) (version : GameVersion) :
    List TableName → Reading (List (TableName × Except SourceError (List Json)))
  | [] => pure []
  | table :: rest => do
    let rows ← match source with
      | .server s => pure (s.fetch table version)
      | .folder f => do
        let text ← Reading.file (f.tablePath table version)
        pure (f.rows table version text)
    let more ← fetchTables source version rest
    return (table, rows) :: more

/-- The tables of a version from a source. -/
def readTables (source : TableSource) (version : GameVersion) :
    Reading (Except SourceError ItemTables) := do
  let fetched ← fetchTables source version version.requiredTables
  let fetch (table : TableName) :=
    (fetched.lookup table).getD (.error (.notFound table version none))
  return ItemTables.load fetch version

/-- The joined items of the tables that the options and the environment name. -/
def readItems (env : Environment) (options : SourceOptions) : Step (List Item) := do
  let config ← Step.ofExcept .config (SourceConfig.ofEnvironment env)
  let config := config.override options.tables options.gameVersion
  let uri ← Step.ofExcept .config config.uri
  let source ← Step.ofExcept .source (TableSource.ofUri uri)
  let tables ← Step.ofExcept (.tables config.version)
    (← Step.ofProgram (.ofReading (readTables source config.version)))
  Step.ofExcept .join (tables.join {})

/-- The rules of a command compiled, with the filter behind them. -/
def renderFilter (rules : List Rule) (base : Option String) : Step String :=
  Step.ofExcept .refused (Document.compileOver rules base)

/-- The steps of a command. -/
def steps (env : Environment) : Command → Step Unit
  | .exportItems options output => do
    let items ← readItems env options
    Step.writeOutput output (Item.listToText items)
  | .validateRules path => do
    let rules ← readRules path
    ensureValid rules
    Step.print "Rules file is valid\n"
    Step.print ("  Rules: " ++ toString rules.length ++ "\n")
  | .compile path base output => do
    let rules ← readRules path
    ensureValid rules
    let base ← readBase base
    let filter ← renderFilter rules base
    Step.writeOutput output filter
  | .generate options base output => do
    let base ← readBase base
    let items ← readItems env options
    let rules := presetRules items
    let filter ← renderFilter rules base
    Step.writeOutput (some output) filter
    Step.print "\n=== Filter Generated ===\n"
    Step.print ("Items: " ++ toString items.length ++ "\n")
    Step.print ("Rules: " ++ toString rules.length ++ "\n")
    Step.print ("Output: " ++ Text.quoted output ++ "\n")

end Command

/-! ## Command lines -/

/-- How the program is called. The commands have no help of their own: this text is printed
    whenever help is asked for, and it follows every complaint about arguments. -/
def usageText : String :=
  "Loot filter generator - join base item tables and compile filter rules\n\n" ++
    "Usage: lootgen [OPTIONS] <COMMAND>\n\n" ++
    "Commands:\n" ++
    "  export-items    Join the base item tables and write the items as JSON\n" ++
    "  validate-rules  Validate a rules JSON file\n" ++
    "  compile         Compile a rules JSON file into filter text\n" ++
    "  generate        Build the preset highlight rules from the item tables and compile them\n" ++
    "  help            Print this message or the help of the given subcommand(s)\n\n" ++
    "Options:\n" ++
    "  -v, --verbose  Enable verbose logging\n" ++
    "  -h, --help     Print help\n" ++
    "  -V, --version  Print version\n"

/-- The name and the version of the program. -/
def versionText : String :=
  "lootgen 0.1.0\n"

/-- The program of a command line. It ends with zero for success, one for a
    failed command, and two for arguments that make no command. What stands behind the
    complaint about such arguments is the one text on how the program is called, whatever
    command they began with. -/
def commandLine (env : Environment) (arguments : List String) : Program Nat :=
  match Request.ofArguments env arguments with
  | .ok .help => .print usageText (.done 0)
  | .ok .version => .print versionText (.done 0)
  | .ok (.run command) => do
    match ← (command.steps env).run with
    | .ok () => return 0
    | .error e => .complain e.text (.done 1)
  | .error e => .complain ("error: " ++ e.message ++ "\n\n" ++ usageText) (.done 2)

/-- What is left of a run. -/
structure Outcome where
  code : Nat
  printed : String
  complaint : String
  disk : Disk

/-- The run of a command line on a disk. -/
def runArguments (arguments : List String) (env : Environment) (disk : Disk) : Outcome :=
  let (code, world) := (commandLine env arguments).run ⟨disk, "", ""⟩
  ⟨code, world.printed, world.complaint, world.disk⟩

end LootFilter
