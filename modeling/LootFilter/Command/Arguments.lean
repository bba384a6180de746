import LootFilter.Source.Config

/-!
# Command Lines

The first argument that is no option names a command, and what follows belongs
to it. An option is given at most once. Its value is the next argument, or what
is attached to it; an argument that looks like an option is never taken for the
value of another one. Behind two hyphens nothing is an option any more.

Arguments are judged one by one, so what is wrong first decides, and asking for
help counts as soon as it is met.

## Main definitions

* `Command`: What the program can be asked to do.
* `CommandLineError`: Why arguments make no command.
* `Request`: A command, or an answer that needs none.
* `Request.ofArguments`: The request of a command line.
-/

namespace LootFilter

/-- Where the tables of a command come from, as far as the options say. -/
structure SourceOptions where
  tables : Option String
  gameVersion : Option String
  deriving DecidableEq

/-- What the program can be asked to do. -/
inductive Command where
  /-- Joins the tables and writes the items. -/
  | exportItems (source : SourceOptions) (output : Option String)
  /-- Checks the rules of a file. -/
  | validateRules (rules : String)
  /-- Writes the rules of a file as a filter. -/
  | compile (rules : String) (base output : Option String)
  /-- Writes the preset rules for the joined items as a filter. -/
  | generate (source : SourceOptions) (base : Option String) (output : String)
  deriving DecidableEq

/-- Why arguments make no command. -/
inductive CommandLineError where
  | noCommand
  | unknownCommand (name : String)
  | unexpected (argument : String)
  | repeated (option : String)
  | noValue (option : String)
  | needlessValue (option : String)
  | emptyPath (option : String)
  | noRules
  deriving DecidableEq

namespace CommandLineError

/-- The wording of an error. -/
def message : CommandLineError → String
  | .noCommand => "a command is required"
  | .unknownCommand name => "unrecognized command '" ++ name ++ "'"
  | .unexpected argument => "unexpected argument '" ++ argument ++ "'"
  | .repeated option => "'" ++ option ++ "' cannot be used multiple times"
  | .noValue option => "a value is required for '" ++ option ++ "'"
  | .needlessValue option => "'" ++ option ++ "' takes no value"
  | .emptyPath option => "the path of '" ++ option ++ "' is empty"
  | .noRules => "the path of a rules file is required"

end CommandLineError

/-- A command, or an answer that needs none. -/
inductive Request where
  | help
  | version
  | run (command : Command)
  deriving DecidableEq

/-! ## Options -/

/-- An option of the program or of a command. -/
inductive CommandOption where
  | help | version | verbose | tables | gameVersion | baseFilter | output
  deriving DecidableEq

namespace CommandOption

/-- The name behind two hyphens. -/
def name : CommandOption → String
  | .help => "help"
  | .version => "version"
  | .verbose => "verbose"
  | .tables => "tables"
  | .gameVersion => "game-version"
  | .baseFilter => "base-filter"
  | .output => "output"

/-- The letter behind one hyphen. -/
def letter? : CommandOption → Option Char
  | .help => some 'h'
  | .version => some 'V'
  | .verbose => some 'v'
  | .output => some 'o'
  | _ => none

/-- The option has a value. -/
def hasValue : CommandOption → Bool
  | .tables | .gameVersion | .baseFilter | .output => true
  | _ => false

/-- The value of the option is a path, which cannot be empty. -/
def isPath : CommandOption → Bool
  | .baseFilter | .output => true
  | _ => false

end CommandOption

/-- What a command line has given so far. -/
structure Given where
  /-- The options with their values; one without a value has the empty text. -/
  options : List (CommandOption × String)
  /-- The path of the rules file. -/
  rules : Option String

namespace Given

/-- Nothing has been given. -/
def nothing : Given :=
  ⟨[], none⟩

/-- The value of an option, if it was given. -/
def value? (g : Given) (option : CommandOption) : Option String :=
  g.options.lookup option

end Given

/-- What ends the reading of a command line early. -/
inductive Stop where
  | help
  | version
  | error (e : CommandLineError)

/-- The options that a command understands, and whether it wants rules. -/
structure Usage where
  options : List CommandOption
  wantsRules : Bool

namespace Usage

/-- Notes an option with its value. -/
def note (g : Given) (option : CommandOption) (value : String) : Except Stop Given :=
  match option with
  | .help => .error .help
  | .version => .error .version
  | option =>
    if (g.value? option).isSome then .error (.error (.repeated option.name))
    else if option.isPath && value.isEmpty then .error (.error (.emptyPath option.name))
    else .ok { g with options := (option, value) :: g.options }

/-- Notes an argument that is no option. -/
def notePlain (s : Usage) (g : Given) (argument : String) : Except Stop Given :=
  if !s.wantsRules || g.rules.isSome then .error (.error (.unexpected argument))
  else if argument.isEmpty then .error (.error (.emptyPath "rules"))
  else .ok { g with rules := some argument }

/-- Reads letters behind a hyphen. The last one can be an option that waits for
    its value. -/
def readLetters (s : Usage) (g : Given) : List Char → Except Stop (Given × Option CommandOption)
  | [] => .ok (g, none)
  | c :: rest =>
    match s.options.find? (·.letter? = some c) with
    | none => .error (.error (.unexpected (String.ofList ['-', c])))
    | some option =>
      if option.hasValue then
        match rest with
        | [] => .ok (g, some option)
        | '=' :: value => (note g option (String.ofList value)).map (·, none)
        | value => (note g option (String.ofList value)).map (·, none)
      else do
        let g ← note g option ""
        s.readLetters g rest

/-- Reads a name behind two hyphens, with the value that is attached to it. -/
def readName (s : Usage) (g : Given) (cs : List Char) :
    Except Stop (Given × Option CommandOption) :=
  let (name, attached) := cs.span (· != '=')
  match s.options.find? (·.name = String.ofList name) with
  | none => .error (.error (.unexpected (String.ofList ('-' :: '-' :: name))))
  | some option =>
    match attached with
    | [] => if option.hasValue then .ok (g, some option) else (note g option "").map (·, none)
    | _ :: value =>
      if option.hasValue then (note g option (String.ofList value)).map (·, none)
      else .error (.error (.needlessValue option.name))

/-- Reads one argument. An option that waits for its value is given back. -/
def readArgument (s : Usage) (g : Given) (argument : String) :
    Except Stop (Given × Option CommandOption) :=
  match argument.toList with
  | '-' :: '-' :: cs => s.readName g cs
  | '-' :: c :: cs => s.readLetters g (c :: cs)
  | _ => (s.notePlain g argument).map (·, none)

/-- The argument looks like an option. -/
def isOptionLike (argument : String) : Bool :=
  match argument.toList with
  | '-' :: _ :: _ => true
  | _ => false

/-- Reads arguments none of which is an option. -/
def readPlain (s : Usage) : Given → List String → Except Stop Given
  | g, [] => .ok g
  | g, argument :: rest => do
    let g ← s.notePlain g argument
    s.readPlain g rest

/-- Reads the arguments of a command. -/
def read (s : Usage) : Given → List String → Except Stop Given
  | g, [] => .ok g
  | g, "--" :: rest => s.readPlain g rest
  | g, argument :: rest => do
    match ← s.readArgument g argument with
    | (g, none) => s.read g rest
    | (g, some option) =>
      match rest with
      | value :: rest =>
        if isOptionLike value then throw (.error (.noValue option.name))
        let g ← note g option value
        s.read g rest
      | [] => throw (.error (.noValue option.name))

end Usage

/-! ## Commands -/

/-- The commands by name. -/
inductive CommandName where
  | exportItems | validateRules | compile | generate
  deriving DecidableEq

namespace CommandName

/-- The command of a name. -/
def ofText? : String → Option CommandName
  | "export-items" => some .exportItems
  | "validate-rules" => some .validateRules
  | "compile" => some .compile
  | "generate" => some .generate
  | _ => none

/-- What a command understands. -/
def usage : CommandName → Usage
  | .exportItems => ⟨[.help, .verbose, .tables, .gameVersion, .output], false⟩
  | .validateRules => ⟨[.help, .verbose], true⟩
  | .compile => ⟨[.help, .verbose, .baseFilter, .output], true⟩
  | .generate => ⟨[.help, .verbose, .tables, .gameVersion, .baseFilter, .output], false⟩

end CommandName

namespace Request

/-- The base filter: the option, or else the variable, whose path must not be
    empty either. -/
def baseFilter (env : Environment) (g : Given) : Except Stop (Option String) :=
  match g.value? .baseFilter, env.baseFilter with
  | some path, _ => .ok (some path)
  | none, some "" => .error (.error (.emptyPath "base-filter"))
  | none, path => .ok path

/-- The rules file, which has to be given. -/
def rules (g : Given) : Except Stop String :=
  match g.rules with
  | some path => .ok path
  | none => .error (.error .noRules)

/-- The command of a name and what was given to it. -/
def command (env : Environment) (name : CommandName) (g : Given) : Except Stop Command := do
  let source : SourceOptions := ⟨g.value? .tables, g.value? .gameVersion⟩
  let output := g.value? .output
  match name with
  | .exportItems => return .exportItems source output
  | .validateRules => return .validateRules (← rules g)
  | .compile =>
    let base ← baseFilter env g
    return .compile (← rules g) base output
  | .generate =>
    let base ← baseFilter env g
    return .generate source base (output.getD "output.filter")

/-- Help on a command, on help itself, or in general. -/
def readHelp : List String → Stop
  | [] => .help
  | ["help"] => .help
  | [name] =>
    if (CommandName.ofText? name).isSome then .help else .error (.unknownCommand name)
  | name :: next :: _ =>
    if name = "help" ∨ (CommandName.ofText? name).isSome then .error (.unknownCommand next)
    else .error (.unknownCommand name)

/-- Reads a command line up to its command. `isVerbose` says whether the option
    for that was met. -/
def readCommand (env : Environment) : Given → List String → Except Stop Command
  | _, [] => .error (.error .noCommand)
  | g, argument :: rest =>
    let program : Usage := ⟨[.help, .version, .verbose], false⟩
    if Usage.isOptionLike argument then
      if argument = "--" then
        match rest with
        | [] => .error (.error .noCommand)
        | next :: _ => .error (.error (.unexpected next))
      else do
        let (g, _) ← program.readArgument g argument
        readCommand env g rest
    else if argument = "help" then .error (readHelp rest)
    else
      match CommandName.ofText? argument with
      | none => .error (.error (.unknownCommand argument))
      | some name => do
        let g ← name.usage.read .nothing rest
        command env name g

/-- The request of a command line. -/
def ofArguments (env : Environment) (arguments : List String) :
    Except CommandLineError Request :=
  match readCommand env .nothing arguments with
  | .ok command => .ok (.run command)
  | .error .help => .ok .help
  | .error .version => .ok .version
  | .error (.error e) => .error e

end Request

end LootFilter
