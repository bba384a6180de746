import LootFilter.Disk.Basic

/-!
# Computations that Read

Tables are put together from the texts of files. Such a computation is a tree:
either it is done, or it wants the text of a file and goes on with whatever
reading the file gives. Nothing in it can change a file, so what it comes to
depends on the texts alone.

## Main definitions

* `Reading`: A computation that reads files.
* `Reading.run`: What it comes to, given what reading each file gives.

## Theorems

* `Reading.run_bind`: Running a sequence is running its parts in order.
-/

namespace LootFilter

/-- A computation that reads files. -/
inductive Reading (α : Type) where
  | done (a : α)
  | ask (path : String) (next : Except DiskError String → Reading α)

namespace Reading

/-- One computation after another. -/
def bind {α β : Type} (f : α → Reading β) : Reading α → Reading β
  | done a => f a
  | ask path next => ask path fun text => bind f (next text)

instance : Monad Reading where
  pure := done
  bind r f := bind f r

/-- The text of a file. -/
def file (path : String) : Reading (Except DiskError String) :=
  ask path done

/-- What a computation comes to. `look` says what reading a file gives. -/
def run {α : Type} (look : String → Except DiskError String) : Reading α → α
  | done a => a
  | ask path next => run look (next (look path))

variable {α β : Type} (look : String → Except DiskError String)

/-- What is done comes to its value. -/
@[simp]
theorem run_pure (a : α) : run look (pure a) = a :=
  rfl

/-- Reading a file comes to what reading it gives. -/
@[simp]
theorem run_file (path : String) : run look (file path) = look path :=
  rfl

/-- Running a sequence is running its parts in order. -/
@[simp]
theorem run_bind (r : Reading α) (f : α → Reading β) :
    run look (r >>= f) = run look (f (run look r)) := by
  induction r with
  | done a => rfl
  | ask path next ih => exact ih (look path)

end Reading

end LootFilter
