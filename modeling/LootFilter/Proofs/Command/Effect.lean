import LootFilter.Command.Run
import LootFilter.Proofs.Disk.Write

/-!
# What a Command Leaves Behind

A command that fails leaves the disk as it was and prints nothing, and one that
succeeds touches at most the file that it was asked to write. Programs can write
and print at any place and nothing of it is ever taken back, so this is a matter
of order: whatever can fail comes before the one thing that is written, and what
is printed about it comes last.

Steps are told apart by what they may do. Quiet ones touch neither the disk nor
the output, whether they fail or not; all that a command does up to its end is of
this kind. Printing ones cannot fail. In between stands the step that writes, and
it is all or nothing: either it fails and has done nothing, or the text is in the
file. A command is put together from these, first quiet steps, then that one, then
printing ones, and `CommitsTo` holds of it as of the one in the middle.

Where a command writes is decided by its arguments. They have one word that names
the command, and what is behind it gives the options.

## Main definitions

* `Step.IsQuiet`: A step that leaves the disk and the output alone.
* `Step.IsPrinting`: A step that cannot fail and leaves the disk alone.
* `Step.CommitsTo`: Steps that do nothing if they fail, and else write one file.
* `Command.output?`, `CommandName.output?`: Where a command writes.
* `IsCommandLine`: Arguments that name a command and give its options.

## Theorems

* `Step.IsQuiet.bind_commitsTo`: Quiet steps may come before the writing.
* `Step.CommitsTo.bind_printing`: Printing steps may come behind it.
* `Command.commitsTo_steps`: Every command does nothing or all of its work.
* `Request.exists_isCommandLine`: Where the command of some arguments writes.
* `runArguments_effect`: What a run leaves behind.
-/

namespace LootFilter

namespace Step

variable {α β : Type}

/-- What a step comes to, and the world after it. -/
def outcome (x : Step α) (w : World) : Except CommandError α × World :=
  Program.run x.run w

/-- Behind a step that succeeds, a sequence goes on in the world after it. -/
theorem outcome_bind_of_ok {x : Step α} {w w' : World} {a : α} (h : outcome x w = (.ok a, w'))
    (f : α → Step β) : outcome (x >>= f) w = outcome (f a) w' := by
  have hrun : (x >>= f).run = x.run >>= ExceptT.bindCont f := rfl
  rw [outcome] at h
  rw [outcome, hrun, Program.run_bind, h]
  rfl

/-- A step that fails ends the sequence. -/
theorem outcome_bind_of_error {x : Step α} {w w' : World} {e : CommandError}
    (h : outcome x w = (.error e, w')) (f : α → Step β) :
    outcome (x >>= f) w = (.error e, w') := by
  have hrun : (x >>= f).run = x.run >>= ExceptT.bindCont f := rfl
  rw [outcome] at h
  rw [outcome, hrun, Program.run_bind, h]
  rfl

/-- Steps that cannot fail come to what their program comes to. -/
theorem outcome_ofProgram (p : Program α) (w : World) :
    outcome (ofProgram p) w = (.ok (p.run w).1, (p.run w).2) := by
  have hrun : (ofProgram p).run = p >>= fun a => pure (.ok a) := rfl
  rw [outcome, hrun, Program.run_bind]
  rfl

/-! ## Quiet steps -/

/-- The step leaves the disk and the output alone, whatever it comes to. -/
def IsQuiet (x : Step α) : Prop :=
  ∀ w, (outcome x w).2.disk = w.disk ∧ (outcome x w).2.printed = w.printed

/-- A result is quiet. -/
theorem isQuiet_pure (a : α) : IsQuiet (pure a : Step α) :=
  fun _ => ⟨rfl, rfl⟩

/-- A failure is quiet. -/
theorem isQuiet_throw (e : CommandError) : IsQuiet (throw e : Step α) :=
  fun _ => ⟨rfl, rfl⟩

/-- A result or a failure that is there already is quiet. -/
theorem isQuiet_ofExcept {ε : Type} (wrap : ε → CommandError) (x : Except ε α) :
    IsQuiet (ofExcept wrap x) := by
  cases x with
  | ok a => exact isQuiet_pure a
  | error e => exact isQuiet_throw (wrap e)

/-- A sequence of quiet steps is quiet. -/
theorem IsQuiet.bind {x : Step α} {f : α → Step β} (hx : IsQuiet x) (hf : ∀ a, IsQuiet (f a)) :
    IsQuiet (x >>= f) := by
  intro w
  have hfirst := hx w
  rcases h : outcome x w with ⟨result, w'⟩
  rw [h] at hfirst
  cases result with
  | error e =>
      rw [outcome_bind_of_error h]
      exact hfirst
  | ok a =>
      rw [outcome_bind_of_ok h]
      exact ⟨(hf a w').1.trans hfirst.1, (hf a w').2.trans hfirst.2⟩

/-- Reading is quiet. -/
theorem isQuiet_ofReading (r : Reading α) : IsQuiet (ofProgram (.ofReading r)) := by
  intro w
  rw [outcome_ofProgram, Program.run_ofReading]
  exact ⟨rfl, rfl⟩

/-- Reading a file is quiet, also if there is none. -/
theorem isQuiet_readFile (path : String) (wrap : DiskError → CommandError) :
    IsQuiet (readFile path wrap) :=
  IsQuiet.bind (isQuiet_ofReading (Reading.file path)) fun _ => isQuiet_ofExcept wrap _

/-- Complaints do not go to the output. -/
theorem isQuiet_complainOf (values : List MalformedValue) : IsQuiet (complainOf values) := by
  induction values with
  | nil => exact isQuiet_pure ()
  | cons value rest ih => exact IsQuiet.bind (fun _ => ⟨rfl, rfl⟩) fun _ => ih

/-! ## Printing steps -/

/-- The step cannot fail and leaves the disk alone. -/
def IsPrinting (x : Step α) : Prop :=
  ∀ w, ∃ a w', outcome x w = (.ok a, w') ∧ w'.disk = w.disk

/-- Printing does not fail. -/
theorem isPrinting_print (text : String) : IsPrinting (print text) :=
  fun _ => ⟨(), _, rfl, rfl⟩

/-- A sequence of printing steps is printing. -/
theorem IsPrinting.bind {x : Step α} {f : α → Step β} (hx : IsPrinting x)
    (hf : ∀ a, IsPrinting (f a)) : IsPrinting (x >>= f) := by
  intro w
  rcases hx w with ⟨a, w', hw', hdisk⟩
  rcases hf a w' with ⟨b, w'', hw'', hdisk'⟩
  refine ⟨b, w'', ?_, hdisk'.trans hdisk⟩
  rw [outcome_bind_of_ok hw']
  exact hw''

/-! ## Writing one file -/

/-- If the steps fail then they have left the disk and the output alone, and if
    they do not then at most the file at the given path was written. -/
structure CommitsTo (x : Step α) (output : Option String) : Prop where
  failed : ∀ {w e w'}, outcome x w = (.error e, w') → w'.disk = w.disk ∧ w'.printed = w.printed
  finished : ∀ {w a w'}, outcome x w = (.ok a, w') →
    w'.disk = w.disk ∨ ∃ path text, output = some path ∧ w.disk.IsWritten path text w'.disk

/-- Printing does not fail, so it commits to anything. -/
theorem IsPrinting.commitsTo {x : Step α} (h : IsPrinting x) (output : Option String) :
    CommitsTo x output where
  failed {w _ _} hfail := by
    rcases h w with ⟨a, w', hw', -⟩
    rw [hw'] at hfail
    cases hfail
  finished {w _ _} hdone := by
    rcases h w with ⟨a, w', hw', hdisk⟩
    rw [hw'] at hdone
    cases hdone
    exact Or.inl hdisk

/-- A file that can be written is written. -/
theorem outcome_writeOutput_of_ok {w : World} {path text : String} {disk : Disk}
    (h : w.disk.write path text = .ok disk) :
    outcome (writeOutput (some path) text) w = (.ok (), { w with disk }) := by
  rw [writeOutput, outcome_bind_of_ok (outcome_ofProgram _ w), Program.run, h]
  rfl

/-- A file that cannot be written is reported, and nothing has happened. -/
theorem outcome_writeOutput_of_error {w : World} {path text : String} {e : DiskError}
    (h : w.disk.write path text = .error e) :
    outcome (writeOutput (some path) text) w = (.error (.outputUnwritable path e), w) := by
  rw [writeOutput, outcome_bind_of_ok (outcome_ofProgram _ w), Program.run, h]
  rfl

/-- Writing the output is all or nothing. -/
theorem commitsTo_writeOutput (output : Option String) (text : String) :
    CommitsTo (writeOutput output text) output := by
  cases output with
  | none => exact (isPrinting_print text).commitsTo none
  | some path =>
      constructor
      · intro w e w' hfail
        cases hwrite : w.disk.write path text with
        | ok disk =>
            rw [outcome_writeOutput_of_ok hwrite] at hfail
            cases hfail
        | error d =>
            rw [outcome_writeOutput_of_error hwrite] at hfail
            cases hfail
            exact ⟨rfl, rfl⟩
      · intro w a w' hdone
        cases hwrite : w.disk.write path text with
        | ok disk =>
            rw [outcome_writeOutput_of_ok hwrite] at hdone
            cases hdone
            exact Or.inr ⟨path, text, rfl, Disk.isWritten_of_write hwrite⟩
        | error d =>
            rw [outcome_writeOutput_of_error hwrite] at hdone
            cases hdone

/-- Quiet steps may come before the writing. If one of them fails then nothing
    was written yet. -/
theorem IsQuiet.bind_commitsTo {x : Step α} {f : α → Step β} {output : Option String}
    (hx : IsQuiet x) (hf : ∀ a, CommitsTo (f a) output) : CommitsTo (x >>= f) output := by
  constructor
  · intro w e w' hfail
    have hfirst := hx w
    rcases h : outcome x w with ⟨result, w''⟩
    rw [h] at hfirst
    cases result with
    | error d =>
        rw [outcome_bind_of_error h] at hfail
        cases hfail
        exact hfirst
    | ok a =>
        rw [outcome_bind_of_ok h] at hfail
        have hsecond := (hf a).failed hfail
        exact ⟨hsecond.1.trans hfirst.1, hsecond.2.trans hfirst.2⟩
  · intro w b w' hdone
    have hfirst := hx w
    rcases h : outcome x w with ⟨result, w''⟩
    rw [h] at hfirst
    cases result with
    | error d =>
        rw [outcome_bind_of_error h] at hdone
        cases hdone
    | ok a =>
        rw [outcome_bind_of_ok h] at hdone
        have hsecond := (hf a).finished hdone
        rwa [hfirst.1] at hsecond

/-- Printing steps may come behind the writing, since none of them fails. -/
theorem CommitsTo.bind_printing {x : Step α} {f : α → Step β} {output : Option String}
    (hx : CommitsTo x output) (hf : ∀ a, IsPrinting (f a)) : CommitsTo (x >>= f) output := by
  constructor
  · intro w e w' hfail
    rcases h : outcome x w with ⟨result, w''⟩
    cases result with
    | error d =>
        rw [outcome_bind_of_error h] at hfail
        cases hfail
        exact hx.failed h
    | ok a =>
        rcases hf a w'' with ⟨b, w₃, hb, -⟩
        rw [outcome_bind_of_ok h, hb] at hfail
        cases hfail
  · intro w b w' hdone
    rcases h : outcome x w with ⟨result, w''⟩
    cases result with
    | error d =>
        rw [outcome_bind_of_error h] at hdone
        cases hdone
    | ok a =>
        rcases hf a w'' with ⟨c, w₃, hc, hdisk⟩
        rw [outcome_bind_of_ok h, hc] at hdone
        cases hdone
        rw [hdisk]
        exact hx.finished h

end Step

/-! ## Commands -/

namespace Command

/-- Where a command writes, if it writes at all. -/
def output? : Command → Option String
  | .exportItems _ output => output
  | .validateRules _ => none
  | .compile _ _ output => output
  | .generate _ _ output => some output

/-- Reading rules is quiet. -/
theorem isQuiet_readRules (path : String) : (readRules path).IsQuiet :=
  Step.IsQuiet.bind (Step.isQuiet_readFile path _) fun _ => Step.isQuiet_ofExcept _ _

/-- Reading the filter behind the rules is quiet. -/
theorem isQuiet_readBase (base : Option String) : (readBase base).IsQuiet := by
  cases base with
  | none => exact Step.isQuiet_pure none
  | some path =>
      refine Step.IsQuiet.bind (Step.isQuiet_readFile path _) fun text => ?_
      exact Step.isQuiet_pure (some text)

/-- Checking rules is quiet: what is refused is complained of. -/
theorem isQuiet_ensureValid (rules : List Rule) : (ensureValid rules).IsQuiet := by
  rw [ensureValid]
  split
  · exact Step.isQuiet_pure ()
  · exact Step.IsQuiet.bind (Step.isQuiet_complainOf _) fun _ => Step.isQuiet_throw _

/-- Loading and joining tables is quiet. -/
theorem isQuiet_readItems (env : Environment) (options : SourceOptions) :
    (readItems env options).IsQuiet := by
  rw [readItems]
  refine Step.IsQuiet.bind (Step.isQuiet_ofExcept _ _) fun config => ?_
  refine Step.IsQuiet.bind (Step.isQuiet_ofExcept _ _) fun uri => ?_
  refine Step.IsQuiet.bind (Step.isQuiet_ofExcept _ _) fun source => ?_
  refine Step.IsQuiet.bind (Step.isQuiet_ofReading _) fun loaded => ?_
  refine Step.IsQuiet.bind (Step.isQuiet_ofExcept _ _) fun tables => ?_
  exact Step.isQuiet_ofExcept _ _

/-- Every command does nothing, or it does all of its work and writes no file
    but its output. -/
theorem commitsTo_steps (env : Environment) (c : Command) : (c.steps env).CommitsTo c.output? := by
  cases c with
  | exportItems options output =>
      refine Step.IsQuiet.bind_commitsTo (isQuiet_readItems env options) fun items => ?_
      exact Step.commitsTo_writeOutput output _
  | validateRules path =>
      refine Step.IsQuiet.bind_commitsTo (isQuiet_readRules path) fun rules => ?_
      refine Step.IsQuiet.bind_commitsTo (isQuiet_ensureValid rules) fun _ => ?_
      exact ((Step.isPrinting_print _).bind fun _ => Step.isPrinting_print _).commitsTo none
  | compile path base output =>
      refine Step.IsQuiet.bind_commitsTo (isQuiet_readRules path) fun rules => ?_
      refine Step.IsQuiet.bind_commitsTo (isQuiet_ensureValid rules) fun _ => ?_
      refine Step.IsQuiet.bind_commitsTo (isQuiet_readBase base) fun text => ?_
      refine Step.IsQuiet.bind_commitsTo (Step.isQuiet_ofExcept _ _) fun filter => ?_
      exact Step.commitsTo_writeOutput output filter
  | generate options base output =>
      refine Step.IsQuiet.bind_commitsTo (isQuiet_readBase base) fun text => ?_
      refine Step.IsQuiet.bind_commitsTo (isQuiet_readItems env options) fun items => ?_
      refine Step.IsQuiet.bind_commitsTo (Step.isQuiet_ofExcept _ _) fun filter => ?_
      refine (Step.commitsTo_writeOutput (some output) filter).bind_printing fun _ => ?_
      refine (Step.isPrinting_print _).bind fun _ => ?_
      refine (Step.isPrinting_print _).bind fun _ => ?_
      exact (Step.isPrinting_print _).bind fun _ => Step.isPrinting_print _

end Command

/-! ## Command lines -/

namespace CommandName

/-- Where the command of a name writes when it is given some options. -/
def output? (given : Given) : CommandName → Option String
  | exportItems => given.value? .output
  | validateRules => none
  | compile => given.value? .output
  | generate => some ((given.value? .output).getD "output.filter")

end CommandName

/-- The first argument that is no option names the command, and what is behind it
    gives the options of the command. -/
def IsCommandLine (arguments : List String) (name : CommandName) (given : Given) : Prop :=
  ∃ before word rest, arguments = before ++ word :: rest ∧
    (∀ argument ∈ before, Usage.isOptionLike argument = true) ∧
      Usage.isOptionLike word = false ∧ CommandName.ofText? word = some name ∧
        name.usage.read .nothing rest = .ok given

/-- Arguments name one command and give it one set of options. -/
theorem IsCommandLine.unique {arguments : List String} {name name' : CommandName}
    {given given' : Given} (h : IsCommandLine arguments name given)
    (h' : IsCommandLine arguments name' given') : name = name' ∧ given = given' := by
  rcases h with ⟨before, word, rest, hsplit, hbefore, hword, hname, hgiven⟩
  rcases h' with ⟨before', word', rest', hsplit', hbefore', hword', hname', hgiven'⟩
  -- The word and what is behind it are what is left without the options in front.
  have hrest : arguments.dropWhile Usage.isOptionLike = word :: rest := by
    rw [hsplit, List.dropWhile_append_of_pos hbefore, List.dropWhile_cons_of_neg]
    exact Bool.eq_false_iff.mp hword
  rw [hsplit', List.dropWhile_append_of_pos hbefore', List.dropWhile_cons_of_neg
    (Bool.eq_false_iff.mp hword')] at hrest
  cases hrest
  rw [hname, Option.some.injEq] at hname'
  subst hname'
  rw [hgiven, Except.ok.injEq] at hgiven'
  exact ⟨rfl, hgiven'⟩

namespace Request

/-- A command writes where its name and its options say. -/
theorem output?_command {env : Environment} {name : CommandName} {given : Given} {c : Command}
    (h : command env name given = .ok c) : c.output? = name.output? given := by
  cases name with
  | exportItems =>
      cases h
      rfl
  | validateRules =>
      rcases (bind_eq_ok_iff _ _ c).mp h with ⟨path, -, hc⟩
      cases hc
      rfl
  | compile =>
      rcases (bind_eq_ok_iff _ _ c).mp h with ⟨base, -, hrules⟩
      rcases (bind_eq_ok_iff _ _ c).mp hrules with ⟨path, -, hc⟩
      cases hc
      rfl
  | generate =>
      rcases (bind_eq_ok_iff _ _ c).mp h with ⟨base, -, hc⟩
      cases hc
      rfl

/-- A command is read off its name and off the options behind it. -/
theorem exists_isCommandLine_of_readCommand {env : Environment} {g : Given}
    {arguments : List String} {c : Command} (h : readCommand env g arguments = .ok c) :
    ∃ name given, IsCommandLine arguments name given ∧ c.output? = name.output? given := by
  induction arguments generalizing g with
  | nil => cases h
  | cons argument rest ih =>
      unfold readCommand at h
      by_cases hoption : Usage.isOptionLike argument = true
      · rw [if_pos hoption] at h
        by_cases hhyphens : argument = "--"
        · rw [if_pos hhyphens] at h
          cases rest with
          | nil => cases h
          | cons next more => cases h
        · rw [if_neg hhyphens] at h
          rcases (bind_eq_ok_iff _ _ c).mp h with ⟨⟨g', waiting⟩, -, hrest⟩
          rcases ih hrest with ⟨name, given, ⟨before, word, more, hsplit, hbefore, hword⟩, houtput⟩
          refine ⟨name, given, ⟨argument :: before, word, more, ?_, ?_, hword⟩, houtput⟩
          · rw [hsplit, List.cons_append]
          · exact List.forall_mem_cons.mpr ⟨hoption, hbefore⟩
      · rw [if_neg hoption] at h
        by_cases hhelp : argument = "help"
        · rw [if_pos hhelp] at h
          cases h
        · rw [if_neg hhelp] at h
          cases hname : CommandName.ofText? argument with
          | none =>
              rw [hname] at h
              cases h
          | some name =>
              rw [hname] at h
              rcases (bind_eq_ok_iff _ _ c).mp h with ⟨given, hgiven, hcommand⟩
              exact ⟨name, given, ⟨[], argument, rest, rfl, List.forall_mem_nil _,
                Bool.eq_false_iff.mpr hoption, hname, hgiven⟩, output?_command hcommand⟩

/-- Where the command of some arguments writes is said by the arguments. -/
theorem exists_isCommandLine {env : Environment} {arguments : List String} {c : Command}
    (h : ofArguments env arguments = .ok (.run c)) :
    ∃ name given, IsCommandLine arguments name given ∧ c.output? = name.output? given := by
  rw [ofArguments] at h
  split at h
  · rename_i d hread
    cases h
    exact exists_isCommandLine_of_readCommand hread
  · cases h
  · cases h
  · cases h

end Request

/-- The run of a command ends as its steps do, with a complaint if they fail. -/
theorem runArguments_of_run {env : Environment} {arguments : List String} {c : Command}
    (h : Request.ofArguments env arguments = .ok (.run c)) (disk : Disk) :
    runArguments arguments env disk =
      match (c.steps env).outcome ⟨disk, "", ""⟩ with
      | (.ok (), w) => ⟨0, w.printed, w.complaint, w.disk⟩
      | (.error e, w) => ⟨1, w.printed, w.complaint ++ e.text, w.disk⟩ := by
  rw [runArguments, commandLine, h]
  simp only [Program.run_bind]
  rcases houtcome : (c.steps env).outcome ⟨disk, "", ""⟩ with ⟨result, w⟩
  rw [Step.outcome] at houtcome
  rw [houtcome]
  cases result with
  | ok a => rfl
  | error e => rfl

/-- The run of a command that ends with another code than zero has done nothing,
    and one that ends with zero has written at most its output. -/
theorem runArguments_command_effect {env : Environment} {arguments : List String} {c : Command}
    (h : Request.ofArguments env arguments = .ok (.run c)) (disk : Disk) :
    ((runArguments arguments env disk).code ≠ 0 →
      (runArguments arguments env disk).disk = disk ∧
        (runArguments arguments env disk).printed = "") ∧
      ((runArguments arguments env disk).disk = disk ∨ ∃ path text, c.output? = some path ∧
        disk.IsWritten path text (runArguments arguments env disk).disk) := by
  have hcommits := c.commitsTo_steps env
  rw [runArguments_of_run h]
  rcases houtcome : (c.steps env).outcome ⟨disk, "", ""⟩ with ⟨result, w⟩
  cases result with
  | ok a => exact ⟨fun hcode => absurd rfl hcode, hcommits.finished houtcome⟩
  | error e =>
      have hfailed := hcommits.failed houtcome
      exact ⟨fun _ => hfailed, Or.inl hfailed.1⟩

/-- Arguments that make no command have no effect on the disk, and only an answer
    is printed. -/
theorem runArguments_of_ne_run {env : Environment} {arguments : List String}
    (h : ∀ c, Request.ofArguments env arguments ≠ .ok (.run c)) (disk : Disk) :
    (runArguments arguments env disk).disk = disk ∧
      ((runArguments arguments env disk).code ≠ 0 →
        (runArguments arguments env disk).printed = "") := by
  rw [runArguments, commandLine]
  cases hrequest : Request.ofArguments env arguments with
  | error e => exact ⟨rfl, fun _ => rfl⟩
  | ok request =>
      cases request with
      | help => exact ⟨rfl, fun hcode => absurd rfl hcode⟩
      | version => exact ⟨rfl, fun hcode => absurd rfl hcode⟩
      | run c => exact absurd hrequest (h c)

/-- What a run leaves behind.

    If it ends with another code than zero then the disk is what it was, and nothing
    was printed. If it ends with zero then the disk is what it was, or else a text is
    in the file at the path that the arguments give for the output, and nothing but
    this file differs. In particular the disk is what it was if the arguments give no
    such path. -/
theorem runArguments_effect (arguments : List String) (env : Environment) (disk : Disk) :
    ((runArguments arguments env disk).code ≠ 0 →
      (runArguments arguments env disk).disk = disk ∧
        (runArguments arguments env disk).printed = "") ∧
      ((runArguments arguments env disk).code = 0 →
        (runArguments arguments env disk).disk = disk ∨
          ∃ name given path text, IsCommandLine arguments name given ∧
            name.output? given = some path ∧
              disk.IsWritten path text (runArguments arguments env disk).disk) ∧
      ∀ name given, IsCommandLine arguments name given → name.output? given = none →
        (runArguments arguments env disk).disk = disk := by
  by_cases hrun : ∃ c, Request.ofArguments env arguments = .ok (.run c)
  · rcases hrun with ⟨c, hrequest⟩
    rcases runArguments_command_effect hrequest disk with ⟨hfailed, hwritten⟩
    rcases Request.exists_isCommandLine hrequest with ⟨name, given, hline, houtput⟩
    refine ⟨hfailed, fun _ => ?_, fun name' given' hline' hnone => ?_⟩
    · rcases hwritten with hsame | ⟨path, text, hpath, htext⟩
      · exact Or.inl hsame
      · exact Or.inr ⟨name, given, path, text, hline, houtput ▸ hpath, htext⟩
    · -- The arguments give one set of options, so there is no output to write to.
      rcases hline.unique hline' with ⟨rfl, rfl⟩
      rcases hwritten with hsame | ⟨path, text, hpath, -⟩
      · exact hsame
      · rw [houtput, hnone] at hpath
        cases hpath
  · rcases runArguments_of_ne_run (not_exists.mp hrun) disk with ⟨hsame, hprinted⟩
    exact ⟨fun hcode => ⟨hsame, hprinted hcode⟩, fun _ => Or.inl hsame, fun _ _ _ _ => hsame⟩

end LootFilter
