-- SUMMARY: The command line program.
import FieldedSearch.CommandLine.Program

/-!
# The executable

The program runs on the files of the machine. It has no network of its own, so every
request is answered as by a backend that cannot be reached.
-/

namespace FieldedSearch.CommandLine

/-- The home directories of the users in a list with one user on a line. -/
def usersOf (list : String) : List (String × String) :=
  (list.splitOn "\n").filterMap fun line =>
    match line.splitOn ":" with
    | [name, _, _, _, _, home, _] => some (name, home)
    | _ => none

def here : IO Place := do
  let current := Path.ofText (toString (← IO.currentDir))
  let list ← try IO.FS.readFile "/etc/passwd" catch _ => pure ""
  let home ← IO.getEnv "HOME"
  return ⟨home.getD current.write, usersOf list, ⟨Location.shorten current.names⟩⟩

/-- Do something with files, and report what the system says if it cannot be done. -/
def attempt {α : Type} (act : IO α) : IO (Except Failure α) := do
  try
    return .ok (← act)
  catch e => return .error (.reported .internal (toString e))

def lookAt (l : Location) : IO FileState := do
  let root ← IO.currentDir
  let file := root / l.write
  if ← file.isDir then return .directory
  else if ← file.pathExists then return .file (← IO.FS.readBinFile file)
  else return .absent

def store (l : Location) (content : ByteArray) : IO Unit := do
  let root ← IO.currentDir
  IO.FS.createDirAll (root / l.parent.write)
  IO.FS.writeBinFile (root / l.write) content

/-- The surroundings that the machine offers. -/
def machine : IO (Surroundings IO) := do
  return {
    place := ← here
    look := fun l => attempt (lookAt l)
    write := fun l content => do
      match ← attempt (store l content) with
      | .ok _ => return none
      | .error e => return some e
    send := fun _ => return .unreachable "no network" }

end FieldedSearch.CommandLine

def main (arguments : List String) : IO UInt32 := do
  let t ← FieldedSearch.CommandLine.run (← FieldedSearch.CommandLine.machine) arguments
  let (code, failure) := t.result
  (← IO.getStdout).putStr t.out
  (← IO.getStderr).putStr t.err
  match failure with
  | some e => (← IO.getStderr).putStrLn e.message
  | none => pure ()
  return code.toUInt32
