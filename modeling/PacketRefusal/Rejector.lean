import PacketRefusal.Log
import PacketRefusal.Reply.Patch
import PacketRefusal.Report.Line

/-!
# The rejector

The rejector takes one packet after another, reports each that has a network header, and refuses
those that carry TCP or UDP by a forged reply. Nothing that fails on the way stops it.

One step is a function from the state and what the step meets to the new state and what the step
does. `Surroundings` says whether the report and the sending succeed, `Effect` lists what is done to
the outside, and `Turn` is the outcome. `Rejector.handle` deals with one packet,
`Rejector.step` with one attempt to receive one, and `Rejector.run` with a sequence of attempts.
-/

set_option autoImplicit false
set_option relaxedAutoImplicit false

namespace PacketRefusal

/-- What became of a packet. -/
inductive Verdict
  /-- Neither IPv4 nor IPv6: neither reported nor answered. -/
  | skipped
  /-- Reported, and not put back. -/
  | dropped
  /-- Reported and answered, whether or not the answer could be sent. -/
  | rejected (reply : Reply)
  deriving DecidableEq

/-- Which effects of a step fail, and how they do. -/
structure Surroundings where
  reportFailure : Option String := none
  sendFailure : Option HandlingError := none
  deriving DecidableEq

/-- What a step does to the outside. -/
inductive Effect
  | report (line : String)
  | send (address : Diversion.Address) (packet : Bytes)
  | log (record : Log.Record)
  deriving DecidableEq

/-- A rejector: the templates of its replies and the size of its receiving buffer. -/
structure Rejector where
  templates : Templates
  capacity : Nat
  deriving DecidableEq

/-- The outcome of a step: the state after it, what became of the packet if there was one, and what
was done, in order. -/
structure Turn where
  rejector : Rejector
  verdict : Option Verdict
  effects : List Effect
  deriving DecidableEq

def Effect.report? : Effect → Option String
  | report line => some line
  | _ => none

def Effect.send? : Effect → Option (Diversion.Address × Bytes)
  | send address packet => some (address, packet)
  | _ => none

def Effect.log? : Effect → Option Log.Record
  | log record => some record
  | _ => none

def Turn.reports (turn : Turn) : List String := turn.effects.filterMap Effect.report?

def Turn.sends (turn : Turn) : List (Diversion.Address × Bytes) :=
  turn.effects.filterMap Effect.send?

def Turn.logs (turn : Turn) : List Log.Record := turn.effects.filterMap Effect.log?

/-- A record of a failure that the rejector survives. -/
def Effect.warning (message : String) : Effect := .log ⟨.warning, message⟩

/-- The patch that fills in a reply to a packet. -/
def Packet.patch (packet : Packet) (captured : Diversion.Address) :
    Reply → Except BuildError Patch
  | .tcpReset =>
    match packet.ipv4, packet.tcp with
    | none, _ => .error .missingIpv4
    | some _, none => .error .missingTcp
    | some ip, some tcp => .ok (.tcpReset captured ip tcp packet.payloadLength)
  | .tcpResetV6 =>
    match packet.ipv6, packet.tcp with
    | none, _ => .error .missingIpv6
    | some _, none => .error .missingTcp
    | some ip, some tcp => .ok (.tcpResetV6 captured ip tcp packet.payloadLength)
  | .icmpUnreachable =>
    match packet.ipv4 with
    | none => .error .missingIpv4
    | some ip => .ok (.icmpUnreachable captured ip packet.raw)
  | .icmpv6Unreachable =>
    match packet.ipv6 with
    | none => .error .missingIpv6
    | some ip => .ok (.icmpv6Unreachable captured ip packet.raw)

namespace Rejector

def initial (capacity : Nat) : Rejector := ⟨.initial, capacity⟩

/-- The record of a reply that was not sent. -/
def unsent (reply : Reply) (error : HandlingError) : Effect :=
  .warning (reply.text ++ "の送信に失敗しました: " ++ error.message)

/-- What is recorded once a reply was given to be sent. -/
def sendingOutcome (reply : Reply) : Option HandlingError → Effect
  | none => .log ⟨.debug, reply.text ++ "を送信しました"⟩
  | some error => unsent reply error

/-- Builds a reply to a packet and sends it. -/
def answer (rejector : Rejector) (surroundings : Surroundings) (captured : Diversion.Address)
    (packet : Packet) (reply : Reply) : Rejector × List Effect :=
  match packet.patch captured reply with
  | .error error => (rejector, [unsent reply error.toHandlingError])
  | .ok patch =>
    match (Templates.patch patch).run rejector.templates with
    | .error error templates =>
      ({ rejector with templates }, [unsent reply error.toHandlingError])
    | .ok _ templates =>
      let template := templates.get reply
      ({ rejector with templates },
        [.send template.address template.packet, sendingOutcome reply surroundings.sendFailure])

/-- Reports a packet. -/
def reporting (surroundings : Surroundings) (packet : Packet) : List Effect :=
  .report packet.reportLine ::
    match surroundings.reportFailure with
    | none => []
    | some cause => [.warning ("パケット情報の出力に失敗しました: " ++ cause)]

/-- Deals with one packet. -/
def handle (rejector : Rejector) (surroundings : Surroundings) (capture : Diversion.Capture) :
    Turn :=
  let packet := Packet.parse capture.data
  if packet.hasNetworkHeader then
    match packet.reply? with
    | none => ⟨rejector, some .dropped, reporting surroundings packet⟩
    | some reply =>
      let (rejector, effects) := rejector.answer surroundings capture.address packet reply
      ⟨rejector, some (.rejected reply), reporting surroundings packet ++ effects⟩
  else ⟨rejector, some .skipped, []⟩

/-- Deals with one attempt to receive a packet into a buffer of the rejector's size. -/
def step (rejector : Rejector) (surroundings : Surroundings) (attempt : Diversion.Attempt) : Turn :=
  match attempt rejector.capacity with
  | .packet capture => rejector.handle surroundings capture
  | .failure error => ⟨rejector, none, [.warning error.message]⟩

/-- The outcomes of a sequence of attempts. -/
def run (rejector : Rejector) : List (Surroundings × Diversion.Attempt) → List Turn
  | [] => []
  | (surroundings, attempt) :: rest =>
    let turn := rejector.step surroundings attempt
    turn :: turn.rejector.run rest

end Rejector

end PacketRefusal
