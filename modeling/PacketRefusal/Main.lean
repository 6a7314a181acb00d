import PacketRefusal.Startup.Launch
import Std.Time.Format
import Std.Time.Zoned

/-!
# The program

`main` finds out what the program needs to know of its surroundings, has `PacketRefusal.launch`
decide what to do, and does it. The file of variables is looked for in the working directory and
then in the directories above it. Standard output and standard error are taken to be no terminals.
-/

set_option autoImplicit false
set_option relaxedAutoImplicit false

namespace PacketRefusal.Program

def readFile? (path : String) : IO (Option String) := do
  try
    return some (← IO.FS.readFile path)
  catch _ =>
    return none

/-- The text of the nearest file of variables, looked for in a directory and a number of directories
above it. -/
def environmentFile (directory : String) : Nat → IO String
  | 0 => return ""
  | levels + 1 => do
    match ← readFile? (directory ++ ".env") with
    | some text => return text
    | none => environmentFile (directory ++ "../") levels

/-- The names that may be asked for: those of the program's own variables, and every word of the
file of variables, which may set it or refer to it. -/
def names (file : String) : List String :=
  let isSeparator (char : Char) : Bool := !(EnvironmentFile.continuesName char)
  ["DIVERT_PRIORITY", "DIVERT_BUFFER_SIZE", "LOG_LEVEL", "LOG_FILE", "NO_COLOR", "RUST_LOG",
    "RUST_LOG_STYLE", "CLICOLOR_FORCE"] ++ (file.split isSeparator).toList.map toString

/-- The values of those names that are set. -/
def environment (names : List String) : IO Variables := do
  let pairs ← names.filterMapM fun name ↦ do
    return (← IO.getEnv name).map (name, ·)
  return fun name ↦ pairs.lookup name

/-- The text of an error of the system, with its number. -/
def refusal : IO.Error → String
  | .noFileOrDirectory _ code detail
  | .inappropriateType _ code detail
  | .permissionDenied _ code detail
  | .resourceExhausted _ code detail
  | .alreadyExists _ code detail
  | .otherError code detail => detail ++ " (os error " ++ toString code ++ ")"
  | error => toString error

/-- Creates an empty file, or says why that is impossible. -/
def createFile (path : String) : IO (Except String Destination) := do
  try
    IO.FS.writeFile path ""
    return .ok (.file path)
  catch error =>
    return .error (refusal error)

/-- The local time as it is written in the log. -/
def time : IO String := do
  return (← Std.Time.PlainDateTime.now).format "uuuu-MM-dd HH:mm:ss"

/-- What is written when the file of variables breaks off the program. -/
def breakdown : String := "a variable cannot be set: its value contains a null character\n"

/-- What the program finds when it starts, before any file is created. -/
def host : IO Host := do
  let directory := (← IO.currentDir).toString
  let file ← environmentFile "" directory.length
  let now ← time
  return .withoutTerminal (← environment (names file)) file (fun _ ↦ .ok .nowhere) (fun _ ↦ now)
    breakdown

end PacketRefusal.Program

/-- Runs the program and returns its status. -/
def main (arguments : List String) : IO UInt32 := do
  let host ← PacketRefusal.Program.host
  let created ← match host.requestedLog? arguments with
    | some path => PacketRefusal.Program.createFile path
    | none => pure (.ok .nowhere)
  let outcome := PacketRefusal.launch { host with createFile := fun _ ↦ created } arguments
  IO.print outcome.output
  IO.eprint outcome.errorOutput
  match outcome.logFile with
  | some (path, content) => IO.FS.writeFile path content
  | none => pure ()
  return .ofNat outcome.status
