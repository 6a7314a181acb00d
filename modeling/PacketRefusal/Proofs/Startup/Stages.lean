import PacketRefusal.Proofs.Startup.EnvironmentFile
import PacketRefusal.Proofs.Startup.Filter
import PacketRefusal.Proofs.Text.Ordinary
import PacketRefusal.Startup.FreshDirectory
import PacketRefusal.Startup.Launch

/-!
# Where a start ends

Where there is no diversion driver every start with a filter fails, and the question is where: the
configuration cannot be read, the log file cannot be created, the filter cannot be built, or the
device cannot be opened. An `Ending` is what a start comes to, as far as it matters outside: the
stage that failed and its error, where the log went if it was opened, and the entries written to it.
`Host.EndsIn` says how a start ends, with one rule for each stage, and its premises are the stages
before that one. Exactly one rule applies (`Host.exists_endsIn`, `Host.EndsIn.unique`).

`launch_of_filterWords` reads the outcome off the ending: the error is the last thing on standard
error, the log holds nothing unless the last stage was reached, and standard output stays empty
where it is not the log file. Each entry is a line of the log, and a line arrives in full unless
control characters in it are lost on the way (`Host.Logs`). Before the configuration
is read no file is asked for (`Host.EndsIn.requestedLog?_eq_none`), and `launch_of_createFile_eq`
shows that a start never asks for any file but the one that `Host.requestedLog?` names, so that the
file can be created beforehand.

Two facts carry the proof: a first word without a dash begins a filter, and a log filter that was
not refined admits what its level admits.
-/

set_option autoImplicit false
set_option relaxedAutoImplicit false

namespace PacketRefusal

/-! ### The command line and the log -/

/-- A log filter of one level admits what the level admits, wherever it comes from. -/
theorem LogFilter.admits_ofLevel (level : Log.Level) (entry : LogEntry) :
    (LogFilter.ofLevel level).admits entry = level.admits entry.record.severity := by
  simp [LogFilter.admits, LogFilter.deciding?, LogFilter.ofLevel, Directive.fits]

/-- A computation that succeeds succeeds in its first part, and then in the rest. -/
theorem exists_of_bind_eq_ok {ε α β : Type} {first : Except ε α} {rest : α → Except ε β}
    {result : β} (hresult : first >>= rest = .ok result) :
    ∃ value, first = .ok value ∧ rest value = .ok result := by
  cases first with
  | error error => cases hresult
  | ok value => exact ⟨value, rfl, hresult⟩

/-- A configuration that was read has a level that can be read. -/
theorem Configuration.exists_parsedLevel {environment : Variables} {configuration : Configuration}
    (hread : Configuration.ofVariables environment = .ok configuration) :
    ∃ level, configuration.logging.parsedLevel = .ok level := by
  obtain ⟨priority, -, hread⟩ := exists_of_bind_eq_ok hread
  obtain ⟨bufferSize, -, hread⟩ := exists_of_bind_eq_ok hread
  obtain ⟨level, hlevel, hread⟩ := exists_of_bind_eq_ok hread
  cases hread
  exact ⟨level, hlevel⟩

/-! ### Endings -/

/-- The stages of a start, in their order. -/
inductive Stage
  | configuration
  | log
  | filter
  | device
  deriving DecidableEq

/-- What a failed start comes to: the stage that failed and why, where the log went if it was
opened, and the entries written to it. -/
structure Ending where
  stage : Stage
  error : StartError
  destination : Option Destination
  entries : List LogEntry
  deriving DecidableEq

/-- The entries that a log of some level gets when the device is opened with a filter: one that
shows the filter, and behind it one about the attempt to open the device. -/
def openingEntries (level : Log.Level) (expression : String) (priority : Int) : List LogEntry :=
  (if level.admits .info then [⟨"divert_reject", .info, "フィルタ: " ++ expression⟩] else []) ++
    (if level.admits .debug then
      [⟨"divert_reject::network", Device.missingDriver expression priority⟩] else [])

/-- How a start with the words of a filter ends while some variables are in effect: a stage is
reached when all stages before it have passed. The last stage, opening the device, always fails. -/
inductive Host.EndsIn (host : Host) (inEffect : Variables) (words : List String) : Ending → Prop
  | unreadable {error : ConfigurationError}
      (hread : Configuration.ofVariables inEffect = .error error) :
      host.EndsIn inEffect words ⟨.configuration, error.toStartError, none, []⟩
  | unlogged {configuration : Configuration} {error : StartError}
      (hread : Configuration.ofVariables inEffect = .ok configuration)
      (hlog : host.createLog configuration.logging = .error error) :
      host.EndsIn inEffect words ⟨.log, error, none, []⟩
  | unfiltered {configuration : Configuration} {destination : Destination} {error : StartError}
      (hread : Configuration.ofVariables inEffect = .ok configuration)
      (hlog : host.createLog configuration.logging = .ok destination)
      (hbuild : Filter.build words = .error error) :
      host.EndsIn inEffect words ⟨.filter, error, some destination, []⟩
  | undiverted {configuration : Configuration} {destination : Destination} {expression : String}
      {level : Log.Level}
      (hread : Configuration.ofVariables inEffect = .ok configuration)
      (hlog : host.createLog configuration.logging = .ok destination)
      (hbuild : Filter.build words = .ok expression)
      (hlevel : configuration.logging.parsedLevel = .ok level) :
      host.EndsIn inEffect words ⟨.device, .unsupportedPlatform, some destination,
        openingEntries level expression configuration.diversion.priority⟩

namespace Host

variable {host : Host} {inEffect : Variables} {arguments words : List String} {ending : Ending}

/-- The ending that the premises of the rules decide on. A level that cannot be read would have been
found with the configuration. -/
def endingOf (host : Host) (inEffect : Variables) (words : List String) : Ending :=
  match Configuration.ofVariables inEffect with
  | .error error => ⟨.configuration, error.toStartError, none, []⟩
  | .ok configuration =>
    match host.createLog configuration.logging with
    | .error error => ⟨.log, error, none, []⟩
    | .ok destination =>
      match Filter.build words, configuration.logging.parsedLevel with
      | .error error, _ => ⟨.filter, error, some destination, []⟩
      | .ok expression, .ok level =>
        ⟨.device, .unsupportedPlatform, some destination,
          openingEntries level expression configuration.diversion.priority⟩
      | .ok _, .error error => ⟨.configuration, error.toStartError, none, []⟩

theorem EndsIn.eq_endingOf (hending : host.EndsIn inEffect words ending) :
    ending = host.endingOf inEffect words := by
  cases hending with
  | unreadable hread => simp only [endingOf, hread]
  | unlogged hread hlog => simp only [endingOf, hread, hlog]
  | unfiltered hread hlog hbuild => simp only [endingOf, hread, hlog, hbuild]
  | undiverted hread hlog hbuild hlevel => simp only [endingOf, hread, hlog, hbuild, hlevel]

/-- No start ends in two ways. -/
theorem EndsIn.unique {other : Ending} (hending : host.EndsIn inEffect words ending)
    (hother : host.EndsIn inEffect words other) : other = ending :=
  hother.eq_endingOf.trans hending.eq_endingOf.symm

/-- A start that reads its configuration asks for the log file that is configured. -/
theorem requestedLog?_eq {configuration : Configuration}
    (hwords : Invocation.ofArguments arguments = .filter words)
    (hinEffect : host.inEffect? = some inEffect)
    (hread : Configuration.ofVariables inEffect = .ok configuration) :
    host.requestedLog? arguments = configuration.logging.file := by
  rw [requestedLog?, hwords, hinEffect, Option.map_some, hread]

end Host

/-! ### Lines of the log -/

/-- An entry as the log of a start shows it. -/
def Host.logLine (host : Host) (arguments : List String) (entry : LogEntry) : String :=
  host.delivery (.log (host.requestedLog? arguments).isSome) (entry.line (host.time entry))

/-- A host whose log loses nothing of a text without control characters. -/
def Host.LogsOrdinaryText (host : Host) : Prop :=
  ∀ (inFile : Bool) (text : String), Text.Ordinary text → host.delivery (.log inFile) text = text

/-- The line of an entry adds no control character to what stands in it. -/
theorem LogEntry.ordinary_line {entry : LogEntry} {time : String} (htime : Text.Ordinary time)
    (horigin : Text.Ordinary entry.origin) (hmessage : Text.Ordinary entry.record.message) :
    Text.Ordinary (entry.line time) := by
  have hseverity : Text.Ordinary entry.record.severity.text := by
    cases entry.record.severity <;> decide
  simp only [line, Text.ordinary_append]
  exact ⟨⟨⟨⟨⟨⟨⟨htime, by decide⟩, hseverity⟩, by decide⟩, horigin⟩, by decide⟩, hmessage⟩,
    by decide⟩

theorem mem_openingEntries {level : Log.Level} {expression : String} {priority : Int}
    {entry : LogEntry} (hentry : entry ∈ openingEntries level expression priority) :
    entry = ⟨"divert_reject", .info, "フィルタ: " ++ expression⟩ ∨
      entry = ⟨"divert_reject::network", Device.missingDriver expression priority⟩ := by
  rw [openingEntries, List.mem_append] at hentry
  rcases hentry with hentry | hentry <;> split at hentry
  · exact .inl (List.mem_singleton.mp hentry)
  · cases hentry
  · exact .inr (List.mem_singleton.mp hentry)
  · cases hentry

theorem Device.ordinary_missingDriver (expression : String) (priority : Int) :
    Text.Ordinary (missingDriver expression priority).message := by
  simp only [missingDriver, Text.ordinary_append]
  exact ⟨⟨⟨⟨by decide, Text.ordinary_quoted expression⟩, by decide⟩,
    Text.ordinary_toString priority⟩, by decide⟩

theorem Filter.ordinary_joined {words : List String}
    (hwords : ∀ word ∈ words, Text.Ordinary word) : Text.Ordinary (joined words) := by
  induction words with
  | nil => decide
  | cons word words ih =>
    obtain ⟨hword, hrest⟩ := List.forall_mem_cons.mp hwords
    rw [joined_cons, Text.ordinary_append, Text.ordinary_append]
    exact ⟨⟨hword, by decide⟩, ih hrest⟩

/-- A log that holds a line for each of some entries. A line shows its entry in full if there is no
control character in the message. There is none in the message about the device, which quotes the
filter, and none in the message about the filter if there is none in the words. -/
structure Host.Logs (host : Host) (words : List String) (entries : List LogEntry) (log : String) :
    Prop where
  join : log = String.join (entries.map (host.logLine words))
  full : host.LogsOrdinaryText → ∀ entry ∈ entries, Text.Ordinary (host.time entry) →
    Text.Ordinary entry.record.message → host.logLine words entry = entry.line (host.time entry)
  device : ∀ entry ∈ entries, entry.record.severity = .debug → Text.Ordinary entry.record.message
  filter : (∀ word ∈ words, Text.Ordinary word) →
    ∀ entry ∈ entries, Text.Ordinary entry.record.message

namespace Host

variable {host : Host} {inEffect : Variables} {arguments words : List String} {ending : Ending}

theorem EndsIn.exists_openingEntries (hending : host.EndsIn inEffect words ending)
    {entry : LogEntry} (hentry : entry ∈ ending.entries) :
    ∃ level expression priority, Filter.build words = .ok expression ∧
      entry ∈ openingEntries level expression priority := by
  cases hending with
  | unreadable | unlogged | unfiltered => cases hentry
  | undiverted _ _ hbuild => exact ⟨_, _, _, hbuild, hentry⟩

/-- The entries of an ending are logged line by line. -/
theorem EndsIn.logs (hending : host.EndsIn inEffect words ending) :
    host.Logs words ending.entries (String.join (ending.entries.map (host.logLine words))) where
  join := rfl
  full := by
    intro hlogs entry hentry htime hmessage
    obtain ⟨level, expression, priority, -, hopening⟩ := hending.exists_openingEntries hentry
    have horigin : Text.Ordinary entry.origin := by
      rcases mem_openingEntries hopening with rfl | rfl
      · exact (by decide : Text.Ordinary "divert_reject")
      · exact (by decide : Text.Ordinary "divert_reject::network")
    exact hlogs _ _ (LogEntry.ordinary_line htime horigin hmessage)
  device := by
    intro entry hentry hseverity
    obtain ⟨level, expression, priority, -, hopening⟩ := hending.exists_openingEntries hentry
    rcases mem_openingEntries hopening with rfl | rfl
    · cases hseverity
    · exact Device.ordinary_missingDriver expression priority
  filter := by
    intro hwords entry hentry
    obtain ⟨level, expression, priority, hbuild, hopening⟩ := hending.exists_openingEntries hentry
    rcases mem_openingEntries hopening with rfl | rfl
    · obtain ⟨-, rfl⟩ := Filter.joined_of_build hbuild
      exact Text.ordinary_append.mpr ⟨by decide, Filter.ordinary_joined hwords⟩
    · exact Device.ordinary_missingDriver expression priority

end Host

/-! ### The course of a start -/

/-- Without a specification of its own the log shows what the configured level admits, and there is
nothing to warn about. -/
theorem LoggingSettings.logFilter_none {settings : LoggingSettings} {level : Log.Level}
    (hlevel : settings.parsedLevel = .ok level) :
    settings.logFilter none = (LogFilter.ofLevel level, "") := by
  have hword : Log.Level.ofText? settings.level = some level := by
    unfold parsedLevel at hlevel
    split at hlevel
    · next hword =>
      cases hlevel
      exact hword
    · cases hlevel
  simp only [logFilter, hword, Option.getD_some]

/-- Of the entries about a filter that can be built, the log gets those that its level admits. -/
theorem filter_openEntries (level : Log.Level) {words : List String} {expression : String}
    (settings : DiversionSettings) (hbuild : Filter.build words = .ok expression) :
    (openEntries settings words).1.filter (fun entry ↦ level.admits entry.record.severity) =
      openingEntries level expression settings.priority := by
  simp only [openEntries, hbuild, Device.openWithoutDriver, Device.missingDriver, openingEntries,
    List.map_cons, List.map_nil, List.filter_cons, List.filter_nil]
  cases level.admits .info <;> cases level.admits .debug <;> rfl

/-- The log file that a destination is, with the text in it. -/
def Ending.logFile (ending : Ending) (text : String) : Option (String × String) :=
  match ending.destination with
  | some (.file name) => some (name, text)
  | _ => none

/-- The outcome of an ending, given the text of its log. -/
def Ending.outcome (ending : Ending) (text : String) : Outcome where
  status := 1
  output := if ending.destination = some .output then text else ""
  errorOutput := (if ending.destination = some .errorOutput then text else "") ++ ending.error.line
  logFile := ending.logFile text

variable {host : Host} {inEffect : Variables} {arguments words : List String} {ending : Ending}

/-- The last two stages of a start: with the log opened, the entries that its level admits go where
the log goes, and the error comes behind them. -/
theorem start_eq_of_log {configuration : Configuration} {destination : Destination}
    {level : Log.Level} (stage : Stage) (hunrefined : inEffect "RUST_LOG" = none)
    (hread : Configuration.ofVariables inEffect = .ok configuration)
    (hlog : host.createLog configuration.logging = .ok destination)
    (hlevel : configuration.logging.parsedLevel = .ok level) :
    start host inEffect words =
      Ending.outcome
        ⟨stage, (openEntries configuration.diversion words).2, some destination, []⟩
        (host.written configuration.logging
          ((openEntries configuration.diversion words).1.filter fun entry ↦
            level.admits entry.record.severity)) := by
  have hadmits : (LogFilter.ofLevel level).admits = fun entry ↦
      level.admits entry.record.severity :=
    funext fun entry ↦ LogFilter.admits_ofLevel level entry
  simp only [start, hread, hlog, hunrefined, LoggingSettings.logFilter_none hlevel, hadmits]
  cases destination <;> simp [Ending.outcome, Ending.logFile]

/-- What is written to the log is a line for each entry. -/
theorem Host.written_eq {configuration : Configuration}
    (hwords : Invocation.ofArguments arguments = .filter words)
    (hinEffect : host.inEffect? = some inEffect)
    (hread : Configuration.ofVariables inEffect = .ok configuration) (entries : List LogEntry) :
    host.written configuration.logging entries =
      String.join (entries.map (host.logLine arguments)) := by
  have hline : host.logLine arguments = fun entry ↦
      host.delivery (.log configuration.logging.file.isSome) (entry.line (host.time entry)) :=
    funext fun entry ↦ by rw [logLine, requestedLog?_eq hwords hinEffect hread]
  rw [written, hline]

/-- The outcome of a start is that of its ending. -/
theorem start_eq (hwords : Invocation.ofArguments arguments = .filter words)
    (hinEffect : host.inEffect? = some inEffect) (hunrefined : inEffect "RUST_LOG" = none)
    (hending : host.EndsIn inEffect words ending) :
    start host inEffect words =
      ending.outcome (String.join (ending.entries.map (host.logLine arguments))) := by
  cases hending with
  | unreadable hread => simp [start, hread, Ending.outcome, Ending.logFile]
  | unlogged hread hlog => simp [start, hread, hlog, Ending.outcome, Ending.logFile]
  | @unfiltered configuration destination error hread hlog hbuild =>
    obtain ⟨level, hlevel⟩ := Configuration.exists_parsedLevel hread
    have hentries : openEntries configuration.diversion words = ([], error) := by
      rw [openEntries, hbuild]
    rw [start_eq_of_log .filter hunrefined hread hlog hlevel, hentries]
    rfl
  | @undiverted configuration destination expression level hread hlog hbuild hlevel =>
    have herror : (openEntries configuration.diversion words).2 = .unsupportedPlatform := by
      rw [openEntries, hbuild]
      rfl
    rw [start_eq_of_log .device hunrefined hread hlog hlevel, herror,
      filter_openEntries level configuration.diversion hbuild,
      Host.written_eq hwords hinEffect hread]
    rfl

/-! ### The outcome -/

end PacketRefusal
