import PacketRefusal.Configuration.Variables
import PacketRefusal.Text.Plain

/-!
# Where text goes, and what of it arrives

What is written to a path may arrive in a file, but also at standard output or standard error, or be
lost; `Destination` tells these apart. A `Channel` is a way by which text leaves the program. Its
control sequences may be dropped on the way, and which ones are is not up to the program.

`Variables.deliveryWithoutTerminal` is what arrives where nothing is a terminal: text without its
control sequences, unless variables ask to keep them. One that forces colours does unless another
one forbids colours, and the log has a variable of its own that decides wherever the log goes.
-/

set_option autoImplicit false
set_option relaxedAutoImplicit false

namespace PacketRefusal

/-- Where what is written to a path arrives. -/
inductive Destination
  | file (name : String)
  | output
  | errorOutput
  | nowhere
  deriving DecidableEq

/-- A way by which text leaves the program. The log may be told to go to a file. -/
inductive Channel
  | output
  | errorOutput
  | log (inFile : Bool)
  deriving DecidableEq

/-- A text with or without its control sequences. -/
def delivered (keepsControls : Bool) (text : String) : String :=
  if keepsControls then text else Text.plain text

namespace Variables

/-- Whether a variable has a value that is not empty. -/
def isFilled (environment : Variables) (name : String) : Bool :=
  (environment name).any fun value ↦ value != ""

/-- Whether the variables force colours on standard output and standard error. -/
def forceColors (environment : Variables) : Bool :=
  environment.isFilled "CLICOLOR_FORCE" && !environment.isFilled "NO_COLOR"

/-- Whether the log keeps control sequences, on standard error or in a file. -/
def logKeepsControls (environment : Variables) (inFile : Bool) : Bool :=
  match environment "RUST_LOG_STYLE" with
  | some "always" => true
  | some "never" => false
  | _ => !inFile && environment.forceColors

/-- What arrives of a text where nothing is a terminal. For the answers to a command line the
variables count that the program was called with, for the log those in effect when it is opened. -/
def deliveryWithoutTerminal (environment inEffect : Variables) : Channel → String → String
  | .output | .errorOutput => delivered environment.forceColors
  | .log inFile => delivered (inEffect.logKeepsControls inFile)

end Variables

end PacketRefusal
