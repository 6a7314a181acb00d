import PacketRefusal.Configuration.Numeral
import PacketRefusal.Log
import PacketRefusal.Startup.Error

/-!
# The configuration

`Configuration` is what can be set from outside: how packets are diverted, and how the program
reports and logs. `ConfigurationError` lists what can be wrong with it.
-/

set_option autoImplicit false
set_option relaxedAutoImplicit false

namespace PacketRefusal

def minimumBufferSize : Nat := 64

/-- The size of the receiving buffer when none is given, which is also the largest. -/
def defaultBufferSize : Nat := 65535

structure DiversionSettings where
  priority : Int
  bufferSize : Nat
  deriving DecidableEq

/-- How the program logs and reports. The level is kept as it was written. -/
structure LoggingSettings where
  level : String
  file : Option String
  color : Bool
  deriving DecidableEq

structure Configuration where
  diversion : DiversionSettings
  logging : LoggingSettings
  deriving DecidableEq

inductive ConfigurationError
  | priority (error : Numeral.Error)
  | bufferSize (error : Numeral.Error)
  | bufferRange (size : Nat)
  | level (word : String)
  deriving DecidableEq

def ConfigurationError.detail : ConfigurationError → String
  | priority error => "無効な優先度: " ++ error.message
  | bufferSize error => "無効なバッファサイズ: " ++ error.message
  | bufferRange size =>
    "バッファサイズは " ++ toString minimumBufferSize ++ " から " ++ toString defaultBufferSize ++
      " の範囲で指定してください: " ++ toString size
  | level word =>
    "無効なログレベル " ++ word ++
      ": attempted to convert a string that doesn't match an existing log level"

/-- A fault of the configuration as a reason not to start. -/
def ConfigurationError.toStartError (error : ConfigurationError) : StartError :=
  .configuration error.detail

def LoggingSettings.parsedLevel (settings : LoggingSettings) :
    Except ConfigurationError Log.Level :=
  match Log.Level.ofText? settings.level with
  | some level => .ok level
  | none => .error (.level settings.level)

end PacketRefusal
