import PacketRefusal.Startup.Destination
import PacketRefusal.Text.Whitespace

/-!
# Creating a file from a fresh directory

`FreshDirectory.create` says what comes of creating a file while the working directory, which lies
in the directory of temporary files, holds nothing but the file of variables. It yields where the
file's content arrives, or why the system refuses.

A path is followed part by part, from the root or from the working directory. The last part names
the file. Besides the directories that every system has at its root, only the usual devices are
known; the content of a file outside of the working directory counts as lost, and so does that of
the file of variables.
-/

set_option autoImplicit false
set_option relaxedAutoImplicit false

namespace PacketRefusal.FreshDirectory

/-- Why the system refuses to create a file. -/
inductive Refusal
  | noEntry
  | noDevice
  | notDirectory
  | isDirectory
  | nameTooLong
  deriving DecidableEq

/-- The system's text for a refusal, with its number. -/
def Refusal.text : Refusal → String
  | noEntry => "No such file or directory (os error 2)"
  | noDevice => "No such device or address (os error 6)"
  | notDirectory => "Not a directory (os error 20)"
  | isDirectory => "Is a directory (os error 21)"
  | nameTooLong => "File name too long (os error 36)"

def maximumNameLength : Nat := 255

def maximumPathLength : Nat := 4095

/-- A place in the file system: the names that lead to it from the root, the innermost first. -/
abbrev Place := List String

/-- The working directory. Its own name is not known, and no part of a path is empty. -/
def workingDirectory : Place := ["", "tmp"]

/-- The one file in the working directory. -/
def occupiedName : String := ".env"

def rootDirectories : List String :=
  ["bin", "boot", "dev", "etc", "home", "lib", "lib64", "media", "mnt", "opt", "proc", "root",
    "run", "sbin", "srv", "sys", "tmp", "usr", "var"]

/-- What stands at a place. -/
inductive Entry
  | directory
  /-- Anything that can be written to, and where it takes what is written. -/
  | writable (destination : Destination)
  /-- The terminal, which the program does not have. -/
  | terminal
  | absent
  deriving DecidableEq

/-- What the entries for open files stand for, by their numbers. -/
def openFile : String → Entry
  | "0" => .writable .nowhere
  | "1" => .writable .output
  | "2" => .writable .errorOutput
  | _ => .absent

/-- What stands at a name in the directory of devices. -/
def device : String → Entry
  | "null" | "zero" | "full" | "random" | "urandom" | "ptmx" => .writable .nowhere
  | "stdin" => openFile "0"
  | "stdout" => openFile "1"
  | "stderr" => openFile "2"
  | "tty" => .terminal
  | "fd" | "pts" | "shm" | "mqueue" => .directory
  | _ => .absent

/-- What stands at a place. -/
def entryAt (place : Place) : Entry :=
  if place = [] ∨ place = workingDirectory then .directory
  else if place = occupiedName :: workingDirectory then .writable .nowhere
  else
    match place with
    | [name] => if name ∈ rootDirectories then .directory else .absent
    | [name, "dev"] => device name
    | ["self", "proc"] | ["fd", "self", "proc"] => .directory
    | [number, "fd", "dev"] | [number, "fd", "self", "proc"] => openFile number
    | _ => .absent

/-- Whether files can be created in the directory at a place. The directories that show processes
do not allow it. -/
def admitsFiles (place : Place) : Bool :=
  place.getLast? != some "proc" && place != ["fd", "dev"]

/-- Creates a file of some name in the directory at a place. -/
def createIn (place : Place) (name : String) : Except Refusal Destination :=
  if maximumNameLength < name.utf8ByteSize then .error .nameTooLong
  else
    match entryAt (name :: place) with
    | .directory => .error .isDirectory
    | .writable destination => .ok destination
    | .terminal => .error .noDevice
    | .absent =>
      if place = workingDirectory then .ok (.file name)
      else if admitsFiles place then .ok .nowhere
      else .error .noEntry

/-- Creates a file given by the parts of its path behind a place. A path may be `closed` by a slash,
which only the path of a directory can be. -/
def createAt (closed : Bool) (place : Place) : List String → Except Refusal Destination
  | [] => .error .isDirectory
  | [last] =>
    if closed || last == "." || last == ".." then .error .isDirectory else createIn place last
  | part :: rest =>
    if part = "." then createAt closed place rest
    else if part = ".." then createAt closed place.tail rest
    else if maximumNameLength < part.utf8ByteSize then .error .nameTooLong
    else
      match entryAt (part :: place) with
      | .directory => createAt closed (part :: place) rest
      | .writable _ | .terminal => .error .notDirectory
      | .absent => .error .noEntry

def create (path : String) : Except Refusal Destination :=
  if path = "" then .error .noEntry
  else if maximumPathLength < path.utf8ByteSize then .error .nameTooLong
  else
    let parts := (Text.pieces '/' path.toList).map String.ofList
    createAt (parts.getLast? == some "") (if parts.head? = some "" then [] else workingDirectory)
      (parts.filter (· != ""))

end PacketRefusal.FreshDirectory
