import LootFilter.Proofs.Command.Effect
import LootFilter.Proofs.Filter.Validation

/-!
# Commands on a Rules File

A rules file can be validated and it can be compiled, and the two commands agree
about it. They read the file and check its rules in the same way, and whatever is
wrong is found in this common part; `Command.checkRules` is what it comes to.
Behind it the commands go separate ways, and neither can fail any more: there is
nothing left to refuse, so rules that were checked compile.

With a path for the output the compiled text goes into a file, from which it is
read back as it would have been printed. With a filter written by hand, that
filter follows the text and changes nothing else.

Many lines of arguments ask for the same command. What is said of a run holds for
all of them, and the plainest ones are listed.

## Main definitions

* `Asks`: Arguments that ask for a command.
* `IsPlainArgument`: A text that can be given as an argument by itself.
* `Command.checkRules`: What reading and checking the rules of a file comes to.
* `Document.textOver`: The text of some rules, ahead of a filter if there is one.
* `complaints`: The complaints of refused values.

## Theorems

* `asks_validateRules`, `asks_compile`: Arguments for the commands.
* `Command.outcome_checked`: The part that the commands have in common.
* `runArguments_of_checkRules_error`: A rules file that is rejected.
* `code_validateRules_eq_zero_iff`, `code_compile_eq_zero_iff`: Which rules files are
  not.
* `runArguments_compile_print`, `runArguments_compile_write`: A rules file that is
  compiled.
* `rules_commands_agree`: The two commands agree on every rules file.
-/

namespace LootFilter

/-! ## Arguments -/

/-- The arguments ask for the command. -/
def Asks (env : Environment) (arguments : List String) (c : Command) : Prop :=
  Request.ofArguments env arguments = .ok (.run c)

/-- The text can be given as an argument by itself: it is not empty, and it is
    not taken for an option. -/
def IsPlainArgument (argument : String) : Prop :=
  argument ≠ "" ∧ Usage.isOptionLike argument = false

instance : DecidablePred IsPlainArgument :=
  fun argument => inferInstanceAs (Decidable (argument ≠ "" ∧ _))

namespace Usage

/-- The first argument that is no option is the path of the rules. -/
theorem read_plain_cons {s : Usage} (hs : s.wantsRules = true) {path : String}
    (h : IsPlainArgument path) (options : List (CommandOption × String)) (rest : List String) :
    s.read ⟨options, none⟩ (path :: rest) = s.read ⟨options, some path⟩ rest := by
  have hplain := h.2
  have hne : path ≠ "--" := by
    rintro rfl
    exact absurd hplain (by decide)
  have hpath : path.isEmpty = false := by
    rw [Bool.eq_false_iff, ne_eq, String.isEmpty_iff]
    exact h.1
  have hargument : s.readArgument ⟨options, none⟩ path = .ok (⟨options, some path⟩, none) := by
    unfold isOptionLike at hplain
    unfold readArgument
    -- An argument that begins like an option would look like one.
    split
    · rename_i heq
      rw [heq] at hplain
      cases hplain
    · rename_i heq
      rw [heq] at hplain
      cases hplain
    · rw [notePlain, hs, hpath]
      rfl
  rw [read, hargument]
  · rfl
  · exact hne

/-- An option for a path takes the next argument, if that is a plain one and the
    option was not given yet. -/
theorem read_path_cons {s : Usage} {g : Given} {argument value : String} {option : CommandOption}
    (hargument : argument ≠ "--") (hwaits : s.readArgument g argument = .ok (g, some option))
    (hoption : option.isPath = true) (hnew : g.value? option = none)
    (hvalue : IsPlainArgument value) (rest : List String) :
    s.read g (argument :: value :: rest) =
      s.read ⟨(option, value) :: g.options, g.rules⟩ rest := by
  have hnonempty : value.isEmpty = false := by
    rw [Bool.eq_false_iff, ne_eq, String.isEmpty_iff]
    exact hvalue.1
  have hnote : note g option value = .ok ⟨(option, value) :: g.options, g.rules⟩ := by
    cases option with
    | baseFilter => simp [note, hnew, hnonempty]
    | output => simp [note, hnew, hnonempty]
    | _ => cases hoption
  rw [read, hwaits]
  · simp only [bind, Except.bind, hvalue.2, hnote]
    rfl
  · exact hargument

/-- The same for an option that need not be there. -/
theorem read_path_append {s : Usage} {g : Given} (argument : String) (option : CommandOption)
    {value : Option String} (hargument : argument ≠ "--")
    (hwaits : s.readArgument g argument = .ok (g, some option)) (hoption : option.isPath = true)
    (hnew : g.value? option = none) (hvalue : ∀ v ∈ value, IsPlainArgument v)
    (rest : List String) :
    s.read g ((value.elim [] fun v => [argument, v]) ++ rest) =
      s.read ⟨(value.map fun v => (option, v)).toList ++ g.options, g.rules⟩ rest := by
  cases value with
  | none => rfl
  | some v => exact read_path_cons hargument hwaits hoption hnew (hvalue v rfl) rest

end Usage

/-- The name of a command and arguments that it can read ask for the command. -/
theorem asks_of_read {env : Environment} {word : String} {rest : List String} {c : Command}
    (name : CommandName) (given : Given) (hword : Usage.isOptionLike word = false)
    (hhelp : word ≠ "help") (hname : CommandName.ofText? word = some name)
    (hread : name.usage.read .nothing rest = .ok given)
    (hc : Request.command env name given = .ok c) : Asks env (word :: rest) c := by
  have hcommand : Request.readCommand env .nothing (word :: rest) = .ok c := by
    unfold Request.readCommand
    simp only [hword, Bool.false_eq_true, if_false, if_neg hhelp, hname, hread]
    exact hc
  rw [Asks, Request.ofArguments, hcommand]

/-- The arguments for validating a rules file. -/
theorem asks_validateRules (env : Environment) {path : String} (h : IsPlainArgument path) :
    Asks env ["validate-rules", path] (.validateRules path) := by
  refine asks_of_read .validateRules ⟨[], some path⟩ (by decide) (by decide) (by decide) ?_ rfl
  exact Usage.read_plain_cons rfl h [] []

/-- The arguments for compiling a rules file, with a filter behind the rules and a
    path for the output if there are any. -/
def compileArguments (path : String) (base output : Option String) : List String :=
  "compile" :: path ::
    ((base.elim [] fun b => ["--base-filter", b]) ++ output.elim [] fun o => ["-o", o])

/-- What these arguments give: the path of the rules, and the options that are there,
    the last one first. -/
def compileGiven (path : String) (base output : Option String) : Given where
  options := (output.map fun o => (.output, o)).toList ++
    (base.map fun b => (.baseFilter, b)).toList
  rules := some path

section Compile

variable (path : String) (base output : Option String)

/-- The filter behind the rules is found among the options. -/
theorem value?_compileGiven_baseFilter :
    (compileGiven path base output).value? .baseFilter = base := by
  cases output with
  | none =>
      cases base with
      | none => rfl
      | some b => rfl
  | some o =>
      cases base with
      | none => rfl
      | some b => rfl

/-- The path for the output is found among them. -/
theorem value?_compileGiven_output :
    (compileGiven path base output).value? .output = output := by
  cases output with
  | none =>
      cases base with
      | none => rfl
      | some b => rfl
  | some o => rfl

variable (hpath : IsPlainArgument path) (hbase : ∀ b ∈ base, IsPlainArgument b)
  (houtput : ∀ o ∈ output, IsPlainArgument o)
include hpath hbase houtput

/-- The arguments are read one option after the other. -/
theorem read_compileArguments :
    CommandName.compile.usage.read .nothing (compileArguments path base output).tail =
      .ok (compileGiven path base output) := by
  have hfirst (rest : List String) : CommandName.compile.usage.read ⟨[], some path⟩
      ((base.elim [] fun b => ["--base-filter", b]) ++ rest) =
        CommandName.compile.usage.read (compileGiven path base none) rest := by
    have happend := Usage.read_path_append (s := CommandName.compile.usage) (g := ⟨[], some path⟩)
      "--base-filter" .baseFilter (by decide) rfl rfl rfl hbase rest
    rwa [List.append_nil] at happend
  have hlast : CommandName.compile.usage.read (compileGiven path base none)
      (output.elim [] fun o => ["-o", o]) = .ok (compileGiven path base output) := by
    have hnew : (compileGiven path base none).value? .output = none :=
      value?_compileGiven_output path base none
    have happend := Usage.read_path_append (s := CommandName.compile.usage) "-o" .output
      (by decide) rfl rfl hnew houtput []
    rw [List.append_nil] at happend
    exact happend
  exact ((Usage.read_plain_cons rfl hpath [] _).trans (hfirst _)).trans hlast

/-- The arguments for compiling a rules file ask for it, unless the environment
    has a filter where the arguments have none. -/
theorem asks_compile {env : Environment} (henv : base = none → env.baseFilter = none) :
    Asks env (compileArguments path base output) (.compile path base output) := by
  have hbaseFilter : Request.baseFilter env (compileGiven path base output) = .ok base := by
    rw [Request.baseFilter, value?_compileGiven_baseFilter]
    cases base with
    | none => rw [henv rfl]
    | some b => rfl
  refine asks_of_read .compile (compileGiven path base output) (by decide) (by decide)
    (by decide) (read_compileArguments path base output hpath hbase houtput) ?_
  rw [Request.command, hbaseFilter, Request.rules, value?_compileGiven_output]
  rfl

end Compile

/-! ## Reading and checking -/

namespace Step

/-- A result or a failure that is there already is what the step comes to. -/
theorem outcome_ofExcept {α ε : Type} (wrap : ε → CommandError) (x : Except ε α) (w : World) :
    outcome (ofExcept wrap x) w = (x.mapError wrap, w) := by
  cases x with
  | ok a => rfl
  | error e => rfl

/-- Reading a file comes to its text, or to why there is none. -/
theorem outcome_readFile (path : String) (wrap : DiskError → CommandError) (w : World) :
    outcome (readFile path wrap) w = ((w.disk.read path).mapError wrap, w) := by
  rw [readFile, outcome_bind_of_ok (outcome_ofProgram _ w)]
  exact outcome_ofExcept wrap _ w

end Step

/-- The complaints of refused values, a line for each. -/
def complaints (values : List MalformedValue) : String :=
  String.join (values.map fun value => "Validation error: " ++ value.message ++ "\n")

/-- The complaints of a value come ahead of those of the values behind it. -/
theorem complaints_cons (value : MalformedValue) (rest : List MalformedValue) :
    complaints (value :: rest) =
      "Validation error: " ++ value.message ++ "\n" ++ complaints rest := by
  rw [complaints, List.map_cons, String.join_cons]
  rfl

/-- The complaints go where complaints go, in order. -/
theorem Step.outcome_complainOf (values : List MalformedValue) (w : World) :
    outcome (complainOf values) w =
      (.ok (), { w with complaint := w.complaint ++ complaints values }) := by
  induction values generalizing w with
  | nil =>
      rw [complaints, List.map_nil, String.join_nil, String.append_empty]
      rfl
  | cons value rest ih =>
      rw [complainOf, outcome_bind_of_ok (outcome_ofProgram _ w), Program.run, Program.run, ih,
        complaints_cons]
      simp only [String.append_assoc]

/-- The text of a failure for refused values says how many there are. -/
theorem CommandError.text_rulesRefused (count : Nat) :
    text (.rulesRefused count) =
      "Error: Rule validation failed with " ++ toString count ++ " errors\n" := by
  have htext : text (.rulesRefused count) =
      "Error: " ++ ("Rule validation failed with " ++ toString count ++ " errors") ++ "\n" ++ "" :=
    rfl
  have hbegin : "Error: Rule validation failed with " =
      "Error: " ++ "Rule validation failed with " := by decide +kernel
  have hend : " errors\n" = " errors" ++ "\n" := by decide +kernel
  rw [htext, hbegin, hend]
  simp only [String.append_empty, String.append_assoc]

namespace Command

/-- What reading the rules of a file comes to. -/
def rulesOf (disk : Disk) (path : String) : Except CommandError (List Rule) :=
  match disk.read path with
  | .error e => .error (.rulesUnreadable path e)
  | .ok text => (Rule.ofText text).mapError (.rulesMalformed path)

/-- What reading and checking the rules of a file comes to: the rules, or why there
    are none and what was complained ahead of that. -/
def checkRules (disk : Disk) (path : String) : Except (CommandError × String) (List Rule) :=
  match rulesOf disk path with
  | .error e => .error (e, "")
  | .ok rules =>
    if Document.validate rules = [] then .ok rules
    else .error
      (.rulesRefused (Document.validate rules).length, complaints (Document.validate rules))

/-- A file has the given rules if it can be read and they stand in it. -/
theorem rulesOf_eq_ok_iff (disk : Disk) (path : String) (rules : List Rule) :
    rulesOf disk path = .ok rules ↔
      ∃ text, disk.read path = .ok text ∧ Rule.ofText text = .ok rules := by
  unfold rulesOf
  cases disk.read path with
  | error e => simp
  | ok text =>
      simp only [Except.ok.injEq, exists_eq_left']
      cases Rule.ofText text with
      | error fault => simp [Except.mapError]
      | ok found => simp [Except.mapError]

/-- The rules of a file are accepted if nothing of them is refused. -/
theorem checkRules_eq_ok_iff (disk : Disk) (path : String) (rules : List Rule) :
    checkRules disk path = .ok rules ↔
      rulesOf disk path = .ok rules ∧ Document.validate rules = [] := by
  unfold checkRules
  cases rulesOf disk path with
  | error e => simp
  | ok found =>
      simp only [Except.ok.injEq]
      by_cases hvalidate : Document.validate found = []
      · rw [if_pos hvalidate, Except.ok.injEq]
        exact ⟨fun h => ⟨h, h ▸ hvalidate⟩, And.left⟩
      · rw [if_neg hvalidate]
        constructor
        · intro h
          cases h
        · rintro ⟨rfl, hnil⟩
          exact absurd hnil hvalidate

/-- Rules with refused values are rejected with a complaint of each and with the
    number of them. -/
theorem checkRules_of_validate_ne_nil {disk : Disk} {path : String} {rules : List Rule}
    (hrules : rulesOf disk path = .ok rules) (hrefused : Document.validate rules ≠ []) :
    checkRules disk path = .error
      (.rulesRefused (Document.validate rules).length, complaints (Document.validate rules)) := by
  rw [checkRules, hrules]
  exact if_neg hrefused

/-- Rules of a file are accepted if the file can be read, rules stand in it, and
    nothing of them is refused. -/
theorem exists_checkRules_eq_ok_iff (disk : Disk) (path : String) :
    (∃ rules, checkRules disk path = .ok rules) ↔
      ∃ text rules, disk.read path = .ok text ∧ Rule.ofText text = .ok rules ∧
        Document.validate rules = [] := by
  simp only [checkRules_eq_ok_iff, rulesOf_eq_ok_iff]
  constructor
  · rintro ⟨rules, ⟨text, hread, htext⟩, hvalid⟩
    exact ⟨text, rules, hread, htext, hvalid⟩
  · rintro ⟨text, rules, hread, htext, hvalid⟩
    exact ⟨rules, ⟨text, hread, htext⟩, hvalid⟩

/-- The rules that are accepted are the ones that stand in the file. -/
theorem eq_of_checkRules_eq_ok {disk : Disk} {path text : String} {rules found : List Rule}
    (hread : disk.read path = .ok text) (htext : Rule.ofText text = .ok rules)
    (h : checkRules disk path = .ok found) : found = rules := by
  have hfound := ((checkRules_eq_ok_iff disk path found).mp h).1
  have hrules := (rulesOf_eq_ok_iff disk path rules).mpr ⟨text, hread, htext⟩
  exact Except.ok.inj (hfound.symm.trans hrules)

/-- Reading the rules of a file leaves the world as it is. -/
theorem outcome_readRules (path : String) (w : World) :
    (readRules path).outcome w = (rulesOf w.disk path, w) := by
  have hfile := Step.outcome_readFile path (.rulesUnreadable path) w
  unfold rulesOf
  cases hread : w.disk.read path with
  | error e =>
      rw [hread] at hfile
      exact Step.outcome_bind_of_error hfile _
  | ok text =>
      rw [hread] at hfile
      exact (Step.outcome_bind_of_ok hfile _).trans (Step.outcome_ofExcept _ _ w)

/-- Rules of which nothing is refused are valid. -/
theorem outcome_ensureValid_of_nil {rules : List Rule} (h : Document.validate rules = [])
    (w : World) : (ensureValid rules).outcome w = (.ok (), w) := by
  rw [ensureValid, h]
  rfl

/-- Each refused value is complained of before a command fails for them. -/
theorem outcome_ensureValid_of_ne_nil {rules : List Rule} (h : Document.validate rules ≠ [])
    (w : World) : (ensureValid rules).outcome w =
      (.error (.rulesRefused (Document.validate rules).length),
        { w with complaint := w.complaint ++ complaints (Document.validate rules) }) := by
  unfold ensureValid
  split
  · rename_i hnil
    exact absurd hnil h
  · exact Step.outcome_bind_of_ok (Step.outcome_complainOf _ w) _

/-- What the commands on a rules file have in common. They go on with rules that
    are accepted, as if these had been there already, and end otherwise. -/
theorem outcome_checked {β : Type} (path : String) (next : List Rule → Step β) (w : World) :
    (readRules path >>= fun rules => ensureValid rules >>= fun _ => next rules).outcome w =
      match checkRules w.disk path with
      | .ok rules => (next rules).outcome w
      | .error (e, said) => (.error e, { w with complaint := w.complaint ++ said }) := by
  have hrules := outcome_readRules path w
  unfold checkRules
  cases hfound : rulesOf w.disk path with
  | error e =>
      rw [hfound] at hrules
      rw [Step.outcome_bind_of_error hrules]
      simp only [String.append_empty]
  | ok rules =>
      rw [hfound] at hrules
      rw [Step.outcome_bind_of_ok hrules]
      -- The rules are there, and what is refused of them decides.
      by_cases hvalidate : Document.validate rules = []
      · simp only [if_pos hvalidate]
        exact Step.outcome_bind_of_ok (outcome_ensureValid_of_nil hvalidate w) _
      · simp only [if_neg hvalidate]
        exact Step.outcome_bind_of_error (outcome_ensureValid_of_ne_nil hvalidate w) _

/-- What reading the filter behind the rules comes to. -/
def baseOf (disk : Disk) : Option String → Except CommandError (Option String)
  | none => .ok none
  | some path => ((disk.read path).map some).mapError (.baseUnreadable path)

/-- Reading the filter behind the rules leaves the world as it is. -/
theorem outcome_readBase (base : Option String) (w : World) :
    (readBase base).outcome w = (baseOf w.disk base, w) := by
  cases base with
  | none => rfl
  | some path =>
      have hfile := Step.outcome_readFile path (.baseUnreadable path) w
      cases hread : w.disk.read path with
      | error e =>
          rw [hread] at hfile
          rw [baseOf, hread]
          exact Step.outcome_bind_of_error hfile _
      | ok text =>
          rw [hread] at hfile
          rw [baseOf, hread]
          exact Step.outcome_bind_of_ok hfile _

end Command

namespace Document

/-- The text of some rules, ahead of a filter written by hand if there is one. -/
def textOver (rules : List Rule) : Option String → String
  | none => text rules
  | some base => "\n" ++ text rules ++ "\n\n" ++ base ++ "\n"

/-- Rules of which nothing is refused compile, whatever filter stands behind them. -/
theorem compileOver_eq_ok {rules : List Rule} (h : validate rules = []) (base : Option String) :
    compileOver rules base = .ok (textOver rules base) := by
  have hcompile : compile rules = .ok (text rules) :=
    (compile_eq_ok_iff rules _).mpr ⟨h, rfl⟩
  cases base with
  | none => exact hcompile
  | some filter =>
      rw [compileOver, compileWithBase, hcompile]
      rfl

end Document

/-! ## Runs -/

namespace Command

/-- The rules file of a command that has one. -/
def rulesPath? : Command → Option String
  | .validateRules path => some path
  | .compile path _ _ => some path
  | _ => none

end Command

/-- A rules file that is rejected ends every command on it in the same way. -/
theorem runArguments_of_checkRules_error {env : Environment} {arguments : List String}
    {c : Command} {path : String} {disk : Disk} {e : CommandError} {said : String}
    (h : Asks env arguments c) (hpath : c.rulesPath? = some path)
    (hrules : Command.checkRules disk path = .error (e, said)) :
    runArguments arguments env disk = ⟨1, "", said ++ e.text, disk⟩ := by
  have hfailed : (c.steps env).outcome ⟨disk, "", ""⟩ = (.error e, ⟨disk, "", "" ++ said⟩) := by
    cases c with
    | validateRules file =>
        cases hpath
        refine (Command.outcome_checked path _ _).trans ?_
        rw [hrules]
    | compile file base output =>
        cases hpath
        refine (Command.outcome_checked path _ _).trans ?_
        rw [hrules]
    | exportItems options output => cases hpath
    | generate options base output => cases hpath
  rw [runArguments_of_run h, hfailed, String.empty_append]

/-- A rules file that is accepted is reported to be valid. -/
theorem runArguments_validateRules {env : Environment} {arguments : List String} {path : String}
    {disk : Disk} {rules : List Rule} (h : Asks env arguments (.validateRules path))
    (hrules : Command.checkRules disk path = .ok rules) :
    runArguments arguments env disk =
      ⟨0, "Rules file is valid\n" ++ ("  Rules: " ++ toString rules.length ++ "\n"), "", disk⟩ := by
  have hdone : ((Command.validateRules path).steps env).outcome ⟨disk, "", ""⟩ =
      (.ok (), ⟨disk, "" ++ "Rules file is valid\n" ++
        ("  Rules: " ++ toString rules.length ++ "\n"), ""⟩) := by
    refine (Command.outcome_checked path _ _).trans ?_
    rw [hrules]
    rfl
  rw [runArguments_of_run h, hdone, String.empty_append]

/-- Behind a rules file that is accepted, compiling it only has to write. -/
theorem Command.outcome_compile {env : Environment} {path : String} {base output : Option String}
    {w : World} {rules : List Rule} {filter : Option String}
    (hrules : checkRules w.disk path = .ok rules) (hbase : baseOf w.disk base = .ok filter) :
    ((Command.compile path base output).steps env).outcome w =
      (Step.writeOutput output (Document.textOver rules filter)).outcome w := by
  -- The rules are accepted, so rendering them cannot fail any more.
  have hvalid := ((checkRules_eq_ok_iff w.disk path rules).mp hrules).2
  have hread := outcome_readBase base w
  have hrender := Step.outcome_ofExcept .refused (Document.compileOver rules filter) w
  rw [hbase] at hread
  rw [Document.compileOver_eq_ok hvalid] at hrender
  refine (outcome_checked path _ w).trans ?_
  rw [hrules]
  refine (Step.outcome_bind_of_ok hread _).trans ?_
  refine Step.outcome_bind_of_ok ?_ _
  rw [renderFilter, Document.compileOver_eq_ok hvalid]
  exact hrender

/-- A rules file that is accepted is compiled, and without a path for the output
    the text is printed. -/
theorem runArguments_compile_print {env : Environment} {arguments : List String} {path : String}
    {base : Option String} {disk : Disk} {rules : List Rule} {filter : Option String}
    (h : Asks env arguments (.compile path base none))
    (hrules : Command.checkRules disk path = .ok rules)
    (hbase : Command.baseOf disk base = .ok filter) :
    runArguments arguments env disk = ⟨0, Document.textOver rules filter, "", disk⟩ := by
  have hdone : ((Command.compile path base none).steps env).outcome ⟨disk, "", ""⟩ =
      (.ok (), ⟨disk, "" ++ Document.textOver rules filter, ""⟩) :=
    Command.outcome_compile hrules hbase
  rw [runArguments_of_run h, hdone, String.empty_append]

/-- With a path for the output the text is in the file there, if it can be written
    at all. -/
theorem runArguments_compile_write {env : Environment} {arguments : List String}
    {path output : String} {base : Option String} {disk : Disk} {rules : List Rule}
    {filter : Option String} (h : Asks env arguments (.compile path base (some output)))
    (hrules : Command.checkRules disk path = .ok rules)
    (hbase : Command.baseOf disk base = .ok filter) (houtput : disk.IsWritable output) :
    (runArguments arguments env disk).code = 0 ∧
      (runArguments arguments env disk).disk.read output =
        .ok (Document.textOver rules filter) := by
  rcases houtput.exists_write (Document.textOver rules filter) with ⟨disk', hwrite, hread⟩
  have hcompile : ((Command.compile path base (some output)).steps env).outcome ⟨disk, "", ""⟩ =
      (Step.writeOutput (some output) (Document.textOver rules filter)).outcome ⟨disk, "", ""⟩ :=
    Command.outcome_compile hrules hbase
  have hwritten : (Step.writeOutput (some output) (Document.textOver rules filter)).outcome
      ⟨disk, "", ""⟩ = (.ok (), ⟨disk', "", ""⟩) :=
    Step.outcome_writeOutput_of_ok hwrite
  rw [runArguments_of_run h, hcompile, hwritten]
  exact ⟨rfl, hread⟩

/-- A rules file that is rejected makes the exit code one. -/
theorem code_ne_zero_of_checkRules_error {env : Environment} {arguments : List String}
    {c : Command} {path : String} {disk : Disk} {failure : CommandError × String}
    (h : Asks env arguments c) (hpath : c.rulesPath? = some path)
    (hrules : Command.checkRules disk path = .error failure) :
    (runArguments arguments env disk).code ≠ 0 := by
  rw [runArguments_of_checkRules_error h hpath hrules]
  exact Nat.one_ne_zero

section Codes

variable {env : Environment} {arguments : List String} {path : String} {disk : Disk}

/-- Validating ends with zero exactly on files with rules that are accepted. -/
theorem code_validateRules_eq_zero_iff (h : Asks env arguments (.validateRules path)) :
    (runArguments arguments env disk).code = 0 ↔
      ∃ rules, Command.checkRules disk path = .ok rules := by
  cases hcheck : Command.checkRules disk path with
  | error failure =>
      have hcode := code_ne_zero_of_checkRules_error h rfl hcheck
      simp only [hcode, reduceCtorEq, exists_false]
  | ok rules =>
      rw [runArguments_validateRules h hcheck]
      exact iff_of_true rfl ⟨rules, rfl⟩

/-- So does compiling without a filter behind the rules and without an output. -/
theorem code_compile_eq_zero_iff (h : Asks env arguments (.compile path none none)) :
    (runArguments arguments env disk).code = 0 ↔
      ∃ rules, Command.checkRules disk path = .ok rules := by
  cases hcheck : Command.checkRules disk path with
  | error failure =>
      have hcode := code_ne_zero_of_checkRules_error h rfl hcheck
      simp only [hcode, reduceCtorEq, exists_false]
  | ok rules =>
      rw [runArguments_compile_print h hcheck rfl]
      exact iff_of_true rfl ⟨rules, rfl⟩

end Codes

/-- A rules file that is rejected gives the same code and the same complaint,
    whichever of the commands meets it. -/
theorem runArguments_agree_of_ne_zero {env env' : Environment} {validating other : List String}
    {c : Command} {path : String} {disk : Disk} (h : Asks env validating (.validateRules path))
    (hother : Asks env' other c) (hpath : c.rulesPath? = some path)
    (hcode : (runArguments validating env disk).code ≠ 0) :
    (runArguments validating env disk).code = (runArguments other env' disk).code ∧
      (runArguments validating env disk).complaint = (runArguments other env' disk).complaint := by
  cases hcheck : Command.checkRules disk path with
  | error failure =>
      rw [runArguments_of_checkRules_error h rfl hcheck,
        runArguments_of_checkRules_error hother hpath hcheck]
      exact ⟨rfl, rfl⟩
  | ok rules => exact absurd ((code_validateRules_eq_zero_iff h).mpr ⟨rules, hcheck⟩) hcode

/-- Rules of which something is refused are complained of, and counted in the end. -/
theorem complaint_of_validate_ne_nil {env : Environment} {arguments : List String} {c : Command}
    {path text : String} {disk : Disk} {rules : List Rule} (h : Asks env arguments c)
    (hpath : c.rulesPath? = some path) (hread : disk.read path = .ok text)
    (htext : Rule.ofText text = .ok rules) (hrefused : Document.validate rules ≠ []) :
    (runArguments arguments env disk).complaint =
      complaints (Document.validate rules) ++ "Error: Rule validation failed with " ++
        toString (Document.validate rules).length ++ " errors\n" := by
  have hrules := (Command.rulesOf_eq_ok_iff disk path rules).mpr ⟨text, hread, htext⟩
  have hcheck := Command.checkRules_of_validate_ne_nil hrules hrefused
  rw [runArguments_of_checkRules_error h hpath hcheck, CommandError.text_rulesRefused]
  simp only [String.append_assoc]

/-- The commands on a rules file agree about it, on every disk.

    Validating the file ends with zero exactly if printing the compiled rules does,
    and otherwise both end with the same code and the same complaint. They end with
    zero exactly if rules can be read from the file of which nothing is refused. What
    is printed then is what the rules compile to, which rules of which nothing is
    refused always do.

    If values in the rules are refused then there is a complaint of each, in the
    order of the report, and then the number of them.

    With a path for the output at which something can be written, the printed text is
    read there in the end. A filter behind the rules that can be read stands behind
    the printed text, framed by line breaks, whether it is printed or written. -/
theorem rules_commands_agree {env : Environment} {validating printing : List String}
    {path : String} (hvalidating : Asks env validating (.validateRules path))
    (hprinting : Asks env printing (.compile path none none)) (disk : Disk) :
    let validated := runArguments validating env disk
    let printed := runArguments printing env disk
    (validated.code = 0 ↔ printed.code = 0) ∧
    (validated.code ≠ 0 →
      validated.code = printed.code ∧ validated.complaint = printed.complaint) ∧
    (printed.code = 0 ↔ ∃ text rules, disk.read path = .ok text ∧ Rule.ofText text = .ok rules ∧
      Document.validate rules = []) ∧
    (∀ rules base, Document.validate rules = [] → ∃ d, Document.compileOver rules base = .ok d) ∧
    (∀ text rules, disk.read path = .ok text → Rule.ofText text = .ok rules →
      (printed.code = 0 → Document.compile rules = .ok printed.printed) ∧
      (Document.validate rules ≠ [] → printed.complaint =
        complaints (Document.validate rules) ++ "Error: Rule validation failed with " ++
          toString (Document.validate rules).length ++ " errors\n")) ∧
    (printed.code = 0 → ∀ env' arguments output, disk.IsWritable output →
      Asks env' arguments (.compile path none (some output)) →
        (runArguments arguments env' disk).code = 0 ∧
        (runArguments arguments env' disk).disk.read output = .ok printed.printed) ∧
    (printed.code = 0 → ∀ env' arguments base filter, disk.read base = .ok filter →
      (Asks env' arguments (.compile path (some base) none) →
        (runArguments arguments env' disk).code = 0 ∧
        (runArguments arguments env' disk).printed =
          "\n" ++ printed.printed ++ "\n\n" ++ filter ++ "\n") ∧
      ∀ output, disk.IsWritable output →
        Asks env' arguments (.compile path (some base) (some output)) →
          (runArguments arguments env' disk).code = 0 ∧
          (runArguments arguments env' disk).disk.read output =
            .ok ("\n" ++ printed.printed ++ "\n\n" ++ filter ++ "\n")) := by
  intro validated printed
  have hvalidated : validated.code = 0 ↔ ∃ rules, Command.checkRules disk path = .ok rules :=
    code_validateRules_eq_zero_iff hvalidating
  have hprinted : printed.code = 0 ↔ ∃ rules, Command.checkRules disk path = .ok rules :=
    code_compile_eq_zero_iff hprinting
  have hprint (hcode : printed.code = 0) : ∃ rules, Command.checkRules disk path = .ok rules ∧
      printed = ⟨0, Document.text rules, "", disk⟩ := by
    rcases hprinted.mp hcode with ⟨rules, hcheck⟩
    exact ⟨rules, hcheck, runArguments_compile_print hprinting hcheck rfl⟩
  refine ⟨hvalidated.trans hprinted.symm, runArguments_agree_of_ne_zero hvalidating hprinting rfl,
    hprinted.trans (Command.exists_checkRules_eq_ok_iff disk path),
    fun rules base h => ⟨_, Document.compileOver_eq_ok h base⟩, ?_, ?_, ?_⟩
  · intro text rules hread htext
    refine ⟨fun hcode => ?_, complaint_of_validate_ne_nil hprinting rfl hread htext⟩
    rcases hprint hcode with ⟨found, hcheck, htold⟩
    rw [htold, ← Command.eq_of_checkRules_eq_ok hread htext hcheck]
    have hvalid := ((Command.checkRules_eq_ok_iff disk path found).mp hcheck).2
    exact (Document.compile_eq_ok_iff found _).mpr ⟨hvalid, rfl⟩
  · intro hcode env' arguments output houtput hasks
    rcases hprint hcode with ⟨rules, hcheck, htold⟩
    rw [htold]
    exact runArguments_compile_write hasks hcheck rfl houtput
  · intro hcode env' arguments base filter hfilter
    rcases hprint hcode with ⟨rules, hcheck, htold⟩
    have hbase : Command.baseOf disk (some base) = .ok (some filter) := by
      rw [Command.baseOf, hfilter]
      rfl
    rw [htold]
    refine ⟨fun hasks => ?_, fun output houtput hasks => ?_⟩
    · rw [runArguments_compile_print hasks hcheck hbase]
      exact ⟨rfl, rfl⟩
    · exact runArguments_compile_write hasks hcheck hbase houtput

/-- Rules that are accepted, rules that are not, and a filter written by hand. -/
def rulesFolder : Disk :=
  let accepted := "[\x7b\"blockType\":\"Hide\"\x7d]"
  let refused := "[\x7b\"blockType\":\"Show\",\"actions\":\x7b\"setFontSize\":90\x7d\x7d]"
  (((Disk.ofWorkingFolder []).add "r.json" (some accepted)).add "s.json" (some refused)).add
    "b" (some "Show\n")

/-- One rule that hides every item is printed, written and put ahead of the filter. A
    letter size that is refused is complained of by both commands. -/
theorem rules_commands_agree_folder :
    let env : Environment := ⟨none, none, none, none⟩
    let run (arguments : List String) := runArguments arguments env rulesFolder
    let complaint :=
      "Validation error: Rule 0: malformed SetFontSize value: 90 is outside 1..=45\n" ++
        "Error: Rule validation failed with 1 errors\n"
    (Asks env ["validate-rules", "r.json"] (.validateRules "r.json") ∧
      Asks env ["compile", "r.json"] (.compile "r.json" none none) ∧
      (run ["validate-rules", "r.json"]).code = 0 ∧
      (run ["compile", "r.json"]).printed = "Hide" ∧
      (run ["compile", "r.json", "-o", "f"]).disk.read "f" = .ok "Hide" ∧
      (run ["compile", "r.json", "--base-filter", "b"]).printed = "\nHide\n\nShow\n\n") ∧
    (run ["validate-rules", "s.json"]).code = 1 ∧
    (run ["compile", "s.json"]).code = 1 ∧
    (run ["validate-rules", "s.json"]).complaint = complaint ∧
    (run ["compile", "s.json"]).complaint = complaint := by
  intro env run complaint
  have haccepted : IsPlainArgument "r.json" := by decide
  have hrefused : IsPlainArgument "s.json" := by decide
  have hbase : IsPlainArgument "b" := by decide
  have houtput : IsPlainArgument "f" := by decide
  have hprinting {path : String} (hpath : IsPlainArgument path) :
      Asks env ["compile", path] (.compile path none none) :=
    asks_compile path none none hpath (fun _ h => nomatch h) (fun _ h => nomatch h) fun _ => rfl
  have hwriting : Asks env ["compile", "r.json", "-o", "f"] (.compile "r.json" none (some "f")) :=
    asks_compile "r.json" none (some "f") haccepted (fun _ h => nomatch h)
      (fun _ h => Option.some.inj h ▸ houtput) fun _ => rfl
  have hframing : Asks env ["compile", "r.json", "--base-filter", "b"]
      (.compile "r.json" (some "b") none) :=
    asks_compile "r.json" (some "b") none haccepted (fun _ h => Option.some.inj h ▸ hbase)
      (fun _ h => nomatch h) fun h => nomatch h
  constructor
  · have hvalidating := asks_validateRules env haccepted
    have hagree := rules_commands_agree hvalidating (hprinting haccepted) rulesFolder
    have hcode : (run ["compile", "r.json"]).code = 0 := by decide +kernel
    have htext : (run ["compile", "r.json"]).printed = "Hide" := by decide +kernel
    have hfilter : rulesFolder.read "b" = .ok "Show\n" := by decide +kernel
    have hwritten := (hagree.2.2.2.2.2.1 hcode env _ "f" ⟨"", _, rfl⟩ hwriting).2
    have hframed := ((hagree.2.2.2.2.2.2 hcode env _ "b" _ hfilter).1 hframing).2
    rw [htext] at hwritten hframed
    exact ⟨hvalidating, hprinting haccepted, hagree.1.mpr hcode, htext, hwritten, hframed⟩
  · have hagree :=
      rules_commands_agree (asks_validateRules env hrefused) (hprinting hrefused) rulesFolder
    have hcode : (run ["validate-rules", "s.json"]).code = 1 := by decide +kernel
    have hcomplaint : (run ["compile", "s.json"]).complaint = complaint := by decide +kernel
    have hsame := hagree.2.1 (hcode ▸ Nat.one_ne_zero)
    exact ⟨hcode, hsame.1.symm.trans hcode, hsame.2.trans hcomplaint, hcomplaint⟩

end LootFilter
