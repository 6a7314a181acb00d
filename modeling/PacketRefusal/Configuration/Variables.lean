import PacketRefusal.Configuration.Basic

/-!
# The configuration in variables

`Configuration.ofVariables` reads the configuration from the variables of the environment. Each
variable has a default, and faults are reported in a fixed order: priority, buffer size, level.
-/

set_option autoImplicit false
set_option relaxedAutoImplicit false

namespace PacketRefusal

/-- The value of each variable that is set. -/
abbrev Variables := String → Option String

namespace Configuration

/-- The priority of the diversion, a 16-bit number. -/
def priorityOf (environment : Variables) : Except ConfigurationError Int :=
  match environment "DIVERT_PRIORITY" with
  | none => .ok 0
  | some text => (Numeral.signed 32768 32767 text.toList).mapError .priority

/-- The size of the receiving buffer, a 64-bit number within narrower limits. -/
def bufferSizeOf (environment : Variables) : Except ConfigurationError Nat :=
  match environment "DIVERT_BUFFER_SIZE" with
  | none => .ok defaultBufferSize
  | some text =>
    match Numeral.unsigned 0xFFFFFFFFFFFFFFFF text.toList with
    | .error error => .error (.bufferSize error)
    | .ok size =>
      if minimumBufferSize ≤ size ∧ size ≤ defaultBufferSize then .ok size
      else .error (.bufferRange size)

/-- The settings of log and report. An empty file name counts as none, and the mere presence of
`NO_COLOR` turns colours off. -/
def loggingOf (environment : Variables) : LoggingSettings where
  level := (environment "LOG_LEVEL").getD "info"
  file := (environment "LOG_FILE").filter fun path ↦ !path.isEmpty
  color := (environment "NO_COLOR").isNone

/-- The configuration that the variables describe, or the first thing that is wrong with them. -/
def ofVariables (environment : Variables) : Except ConfigurationError Configuration := do
  let priority ← priorityOf environment
  let bufferSize ← bufferSizeOf environment
  let logging := loggingOf environment
  let _level ← logging.parsedLevel
  return ⟨⟨priority, bufferSize⟩, logging⟩

end Configuration

end PacketRefusal
