import LootFilter.Command.Reading

/-!
# Programs

A command is a sequence of steps that read files, write files, print and
complain. It is kept as a tree: either it is done, or it takes one step and goes
on with whatever the step gives. So a program says in which order things happen,
and it can be run on a disk in memory as well as on the file system of a machine.

What a step did is not undone by what follows it. A program that fails after it
has written a file leaves the file behind. The step itself is all or nothing: a file
has the new text or is as it was. Letting a text out cannot fail.

## Main definitions

* `Program`: A sequence of steps.
* `World`: What steps act on: a disk and the texts that came out.
* `Program.run`: What a program comes to, and the world after it.
* `Program.ofReading`: A program that only reads.

## Theorems

* `Program.run_bind`: Running a sequence is running its parts in order.
* `Program.run_ofReading`: Reading leaves the world as it is.
-/

namespace LootFilter

/-- A computation that reads and writes files and lets texts out. -/
inductive Program (α : Type) where
  | done (a : α)
  | read (path : String) (next : Except DiskError String → Program α)
  | write (path text : String) (next : Except DiskError Unit → Program α)
  /-- A text goes to the output. -/
  | print (text : String) (next : Program α)
  /-- A text goes to where complaints go. -/
  | complain (text : String) (next : Program α)

/-- What the steps of a program act on. -/
structure World where
  disk : Disk
  /-- Everything that was printed. -/
  printed : String
  /-- Everything that was complained. -/
  complaint : String

namespace Program

/-- One computation after another. -/
def bind {α β : Type} (f : α → Program β) : Program α → Program β
  | done a => f a
  | read path next => read path fun text => bind f (next text)
  | write path text next => write path text fun result => bind f (next result)
  | print text next => print text (bind f next)
  | complain text next => complain text (bind f next)

instance : Monad Program where
  pure := done
  bind p f := bind f p

/-- A computation that reads files, as a program. -/
def ofReading {α : Type} : Reading α → Program α
  | .done a => done a
  | .ask path next => read path fun text => ofReading (next text)

/-- What a program comes to, and the world after it. A write that fails leaves the disk as
    it was, and a text that is let out always arrives. -/
def run {α : Type} : Program α → World → α × World
  | done a, w => (a, w)
  | read path next, w => run (next (w.disk.read path)) w
  | write path text next, w =>
    match w.disk.write path text with
    | .ok disk => run (next (.ok ())) { w with disk }
    | .error e => run (next (.error e)) w
  | print text next, w => run next { w with printed := w.printed ++ text }
  | complain text next, w => run next { w with complaint := w.complaint ++ text }

/-- What is done comes to its value and leaves the world as it is. -/
@[simp]
theorem run_pure {α : Type} (a : α) (w : World) : run (pure a) w = (a, w) :=
  rfl

/-- Running a sequence is running its parts in order. -/
theorem run_bind {α β : Type} (p : Program α) (f : α → Program β) (w : World) :
    run (p >>= f) w = run (f (run p w).1) (run p w).2 := by
  induction p generalizing w with
  | done a => rfl
  | read path next ih => exact ih _ w
  | write path text next ih =>
    change run (write path text fun result => bind f (next result)) w = _
    rw [run, run]
    cases w.disk.write path text with
    | error e => exact ih _ w
    | ok disk => exact ih _ { w with disk }
  | print text next ih => exact ih _
  | complain text next ih => exact ih _

/-- A computation that reads files comes to what it comes to on the disk, and it
    leaves the world as it is. -/
theorem run_ofReading {α : Type} (r : Reading α) (w : World) :
    run (ofReading r) w = (r.run w.disk.read, w) := by
  induction r with
  | done a => rfl
  | ask path next ih => exact ih _

end Program

end LootFilter
