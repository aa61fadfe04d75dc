import MarkupTex.CommandLine
/-!
# The program

Reads the input, asks which images there are, and writes what `CommandLine` answers.
-/

set_option autoImplicit false

namespace MarkupTex.CommandLine

/-- What the system says, in the words of a `SystemError`. -/
def SystemError.ofError (e : IO.Error) : SystemError :=
  match e with
  | .noFileOrDirectory .. => notFound
  | .inappropriateType .. => isDirectory
  | .permissionDenied .. => ⟨13, "PermissionDenied", "Permission denied"⟩
  | e => ⟨5, "Other", toString e⟩

/-- Whether a file or a directory can be opened, or is at least there. -/
def exists? (path : String) : IO Bool := do
  try
    let _ ← IO.FS.Handle.mk path .read
    return true
  catch
    | .noFileOrDirectory .. => return false
    | _ => return true

def readInput (a : Arguments) : IO (Except SystemError String) := do
  if !a.needsInput then return .ok ""
  try
    match a.input with
    | some path => return .ok (← IO.FS.readFile path)
    | none => return .ok (← (← IO.getStdin).readToEnd)
  catch e => return .error (.ofError e)

def saveText (save : Save) : IO (Option SystemError) := do
  try
    IO.FS.writeFile save.path save.text
    return none
  catch e => return some (.ofError e)

def answer (a : Arguments) : IO Outcome := do
  match ← readInput a with
  | .error e => return .unreadable e
  | .ok input =>
    let places := a.imagePlaces (Html.parse input)
    let found ← places.filterM exists?
    let outcome := a.respond found.contains input
    match outcome.save with
    | some save => return outcome.afterSaving (← saveText save)
    | none => return outcome

end MarkupTex.CommandLine

open MarkupTex.CommandLine in
def main (args : List String) : IO UInt32 := do
  let outcome ←
    match parse? args with
    | some a => answer a
    | none => pure Outcome.badUsage
  (← IO.getStdout).putStr outcome.stdout
  (← IO.getStderr).putStr outcome.stderr
  return UInt32.ofNat outcome.code
