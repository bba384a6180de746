import LootFilter.Command.Run

/-!
# The Program

The command line on the file system of the machine. Everything is decided by
`commandLine`; here its steps are carried out.

## Main definitions

* `Program.perform`: Carries out a program on the file system.
* `main`: The entry point.
-/

namespace LootFilter

namespace DiskError

/-- What the code of an error says about a path. Codes come with either sign. -/
def ofCode? (code : UInt32) : Option DiskError :=
  if code = 20 ∨ code = -20 then some .notFolder
  else if code = 21 ∨ code = -21 then some .isFolder
  else if code = 36 ∨ code = -36 then some .nameTooLong
  else none

/-- What an error of the system means. -/
def ofSystem (e : IO.Error) : DiskError :=
  match e with
  | .noFileOrDirectory _ _ _ => .notFound
  | .inappropriateType _ code _ => (ofCode? code).getD (.other (toString e))
  | .invalidArgument _ code _ => (ofCode? code).getD (.other (toString e))
  | _ => .other (toString e)

end DiskError

/-- What an action on the file system gives, or what is wrong with it. -/
def DiskError.catching {α : Type} (act : IO α) : IO (Except DiskError α) := do
  try
    let a ← act
    pure (.ok a)
  catch e => pure (.error (.ofSystem e))

/-- The text of a file. The bytes of a file need not be a text. -/
def DiskError.readText (path : String) : IO (Except DiskError String) := do
  match ← DiskError.catching (IO.FS.readBinFile ⟨path⟩) with
  | .error e => pure (.error e)
  | .ok bytes =>
    match String.fromUTF8? bytes with
    | some text => pure (.ok text)
    | none => pure (.error .notText)

namespace Program

/-- Carries out a program on the file system. -/
def perform {α : Type} : Program α → IO α
  | done a => pure a
  | read path next => do
    let text ← DiskError.readText path
    perform (next text)
  | write path text next => do
    let result ← DiskError.catching (IO.FS.writeFile ⟨path⟩ text)
    perform (next result)
  | print text next => do
    IO.print text
    perform next
  | complain text next => do
    IO.eprint text
    perform next

end Program

namespace Environment

/-- The variables of the process. -/
def ofProcess : IO Environment := do
  return {
    tablesFolder := ← IO.getEnv "LOOTGEN_TABLES_DIR"
    tablesAddress := ← IO.getEnv "LOOTGEN_TABLES_URL"
    gameVersion := ← IO.getEnv "LOOTGEN_GAME_VERSION"
    baseFilter := ← IO.getEnv "LOOTGEN_BASE_FILTER"
  }

end Environment

end LootFilter

open LootFilter in
/-- The entry point. -/
def main (arguments : List String) : IO UInt32 := do
  let env ← Environment.ofProcess
  let code ← (commandLine env arguments).perform
  return .ofNat code
