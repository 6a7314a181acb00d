import PacketRefusal.Startup.CommandLine
import PacketRefusal.Startup.Device
import PacketRefusal.Startup.EnvironmentFile
import PacketRefusal.Startup.Filter
import PacketRefusal.Startup.Destination
import PacketRefusal.Startup.LogFilter

/-!
# Starting the program

`launch` is the whole course of the program where there is no diversion driver: from the command
line and its surroundings to what it writes and the status it ends with. The stages come in a fixed
order, and the first that fails ends the program: reading the configuration, creating the log file,
building the filter, and opening the device, which always fails.

Standard output belongs to the reports of packets, so that the log goes to standard error or to a
file. A `Host` is what the program finds when it starts. What arrives of the text that it writes and
what comes of creating a file are parts of the host, of which the program knows nothing.
-/

set_option autoImplicit false
set_option relaxedAutoImplicit false

namespace PacketRefusal

/-- What the program finds when it starts. -/
structure Host where
  environment : Variables
  /-- The text of the file that adds to the variables. -/
  environmentFile : String
  /-- Where what is written to a path arrives, or why the file cannot be created. -/
  createFile : String → Except String Destination
  /-- What arrives of a text that is written. -/
  delivery : Channel → String → String
  /-- The time at which an entry is logged, as the log shows it. -/
  time : LogEntry → String
  /-- What stands on standard error when the program is broken off. -/
  breakdown : String

/-- What the program leaves behind: its status, what it wrote to standard output and standard
error, and the name and content of the log file if there is one. -/
structure Outcome where
  status : Nat
  output : String := ""
  errorOutput : String := ""
  logFile : Option (String × String) := none
  deriving DecidableEq

/-- An entry as a line of the log. -/
def LogEntry.line (entry : LogEntry) (time : String) : String :=
  time ++ " [" ++ entry.record.severity.text ++ "] " ++ entry.origin ++ " - " ++
    entry.record.message ++ "\n"

/-- The last line of a start that failed. -/
def StartError.line (error : StartError) : String := "error: " ++ error.message ++ "\n"

/-- The filter of the log, and the warnings about its specification. -/
def LoggingSettings.logFilter (settings : LoggingSettings) (specification : Option String) :
    LogFilter × String :=
  let filter := LogFilter.ofLevel ((Log.Level.ofText? settings.level).getD .off)
  match specification with
  | none => (filter, "")
  | some specification => filter.refine specification

namespace Host

/-- A host on which nothing is a terminal. -/
def withoutTerminal (environment : Variables) (environmentFile : String)
    (createFile : String → Except String Destination) (time : LogEntry → String)
    (breakdown : String) : Host where
  environment
  environmentFile
  createFile
  delivery := environment.deliveryWithoutTerminal
    ((EnvironmentFile.load? environment environmentFile).getD environment)
  time
  breakdown

/-- The variables in effect once those of the file are added, unless that fails. -/
def inEffect? (host : Host) : Option Variables :=
  EnvironmentFile.load? host.environment host.environmentFile

/-- Where the log arrives. The log file is created if the settings name one. -/
def createLog (host : Host) (settings : LoggingSettings) : Except StartError Destination :=
  match settings.file with
  | none => .ok .errorOutput
  | some path => (host.createFile path).mapError fun detail ↦ .logger (path ++ ": " ++ detail)

/-- What arrives of some entries that are written to the log. -/
def written (host : Host) (settings : LoggingSettings) (entries : List LogEntry) : String :=
  String.join (entries.map fun entry ↦
    host.delivery (.log settings.file.isSome) (entry.line (host.time entry)))

/-- The path at which the program is going to create its log file, if it gets that far and the
configuration names one. -/
def requestedLog? (host : Host) (arguments : List String) : Option String :=
  match Invocation.ofArguments arguments, host.inEffect?.map Configuration.ofVariables with
  | .filter _, some (.ok configuration) => configuration.logging.file
  | _, _ => none

end Host

/-- The entries about a filter and the device opened with it, and the error that ends the start. -/
def openEntries (settings : DiversionSettings) (words : List String) : List LogEntry × StartError :=
  match Filter.build words with
  | .error error => ([], error)
  | .ok filter =>
    let (records, error) := Device.openWithoutDriver filter settings.priority
    (⟨"divert_reject", .info, "フィルタ: " ++ filter⟩ ::
      records.map (⟨"divert_reject::network", ·⟩), error)

/-- The course of the program once a filter was given and the variables are known. -/
def start (host : Host) (inEffect : Variables) (words : List String) : Outcome :=
  match Configuration.ofVariables inEffect with
  | .error error => { status := 1, errorOutput := error.toStartError.line }
  | .ok configuration =>
    match host.createLog configuration.logging with
    | .error error => { status := 1, errorOutput := error.line }
    | .ok destination =>
      let (filter, warnings) := configuration.logging.logFilter (inEffect "RUST_LOG")
      let (entries, error) := openEntries configuration.diversion words
      let written := host.written configuration.logging (entries.filter filter.admits)
      match destination with
      | .errorOutput => { status := 1, errorOutput := warnings ++ written ++ error.line }
      | .output => { status := 1, output := written, errorOutput := warnings ++ error.line }
      | .file name =>
        { status := 1, errorOutput := warnings ++ error.line, logFile := some (name, written) }
      | .nowhere => { status := 1, errorOutput := warnings ++ error.line }

/-- The course of the program. -/
def launch (host : Host) (arguments : List String) : Outcome :=
  let output := host.delivery .output
  let errorOutput := host.delivery .errorOutput
  match Invocation.ofArguments arguments with
  | .help => { status := 0, output := output CommandLine.help }
  | .version => { status := 0, output := output CommandLine.version }
  | .missingFilter => { status := 2, errorOutput := errorOutput CommandLine.missingFilter }
  | .unexpectedValue option value =>
    { status := 2, errorOutput := errorOutput (CommandLine.unexpectedValue option value) }
  | .filter words =>
    match host.inEffect? with
    | none => { status := 101, errorOutput := host.breakdown }
    | some inEffect => start host inEffect words

end PacketRefusal
