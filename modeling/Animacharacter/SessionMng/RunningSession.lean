import Mathlib.Data.Rat.Defs
import Mathlib.Algebra.Order.Ring.Rat
import Animacharacter.Library.StepSystem
import Animacharacter.Commons.MotionframeDecoders
import Animacharacter.Packetcodec.SessionDispatch

set_option autoImplicit false

namespace Animacharacter.SessionMng

open StepSystem Struct Packetcodec PacketDecoder Commons

def HEARTBEAT_TIMEOUT_SEC : ℚ := 10

@[ext] structure MetricsTracker where
  recTcp : Nat
  recUdp : Nat
  motionCmds : Nat
deriving DecidableEq

def MetricsTracker.reset : MetricsTracker := ⟨0, 0, 0⟩

-- What can leave a task of a running session.
inductive SessionRaised where
  | arecv (exception : String)
  | parseBytes (raised : Raised)
  | zeroDivision
  | decodeMotionframe
  | publish (exception : String)
deriving DecidableEq

-- A task of the event loop, by the await that it stands at.
inductive Task (Locals : Type) where
  | created
  | awaiting (locals : Locals)
  | returned
  | raised
  | cancelled
deriving DecidableEq

namespace Task

variable {Locals : Type}

def IsOver : Task Locals → Prop
  | .created | .awaiting _ => False
  | .returned | .raised | .cancelled => True

instance : (task : Task Locals) → Decidable task.IsOver
  | .created | .awaiting _ => inferInstanceAs (Decidable False)
  | .returned | .raised | .cancelled => inferInstanceAs (Decidable True)

-- asyncio.run cancels what is left when _run_main raised.
def cancel : Task Locals → Task Locals
  | .created | .awaiting _ => .cancelled
  | .returned => .returned
  | .raised => .raised
  | .cancelled => .cancelled

end Task

-- The runner's attributes and the event, and what it published and reported.
structure SessionShared where
  allStop : Bool
  heartbeatDeadline : ℚ
  metrics : MetricsTracker
  configs : List String
  motionframes : List (List UInt16 × List UInt32)
  reports : List MetricsTracker
deriving DecidableEq

-- Messages and datagrams that were received, with what publishing what is in
-- them raises, and looks at the deadline.
inductive SessionEvent where
  | message (now : ℚ) (msg : List UInt8) (publish : Option String)
  | datagram (data : List UInt8) (publish : Option String)
  | check (now : ℚ)
deriving DecidableEq

section Handlers

variable {Obj : Type}

-- The match over the classes of packets.
def handlePacket (shared : SessionShared) (now : ℚ) (publish : Option String) (packet : Packet (List (Attribute Obj))) :
    SessionShared × Option SessionRaised :=
  if packet.className = "ConfigurationPacket" then
    match packet.fields with
    | [.plain (.str jsonStr), _, .flag true] =>
        match publish with
        | none => ({ shared with configs := shared.configs ++ [jsonStr] }, none)
        | some exception => (shared, some (.publish exception))
    | _ => (shared, none)
  else if packet.className = "SessionEndRequestPacket" then ({ shared with allStop := true }, none)
  else if packet.className = "HeartBeatPacket" then
    ({ shared with heartbeatDeadline := now + HEARTBEAT_TIMEOUT_SEC }, none)
  else (shared, none)

def handleMessage (serializers : Serializers Obj) (shared : SessionShared) (now : ℚ) (publish : Option String)
    (msg : List UInt8) : SessionShared × Option SessionRaised :=
  let counted := { shared with metrics := { shared.metrics with recTcp := shared.metrics.recTcp + 1 } }
  match parse (sessionCodec serializers) msg with
  | .error raised => (counted, some (.parseBytes raised))
  | .ok parsed => handlePacket counted now publish parsed.packet

-- The datagram is counted once it is published.
def forwardMotionframe (order : ByteOrder) (shared : SessionShared) (publish : Option String)
    (motionframeRaw : List UInt8) : SessionShared × Option SessionRaised :=
  match decodeMotionframePacketIntoArrays order motionframeRaw, publish with
  | none, _ => (shared, some .decodeMotionframe)
  | some _, some exception => (shared, some (.publish exception))
  | some (arrIds, arrValues), none =>
      ({ shared with
          motionframes := shared.motionframes ++ [(arrIds, arrValues)]
          metrics :=
            { shared.metrics with
              recUdp := shared.metrics.recUdp + 1
              motionCmds := shared.metrics.motionCmds + arrIds.length } }, none)

def reportMetrics (shared : SessionShared) : SessionShared :=
  { shared with reports := shared.reports ++ [shared.metrics], metrics := .reset }

def checkHeartbeat (shared : SessionShared) (now : ℚ) : SessionShared :=
  if shared.heartbeatDeadline < now then { shared with allStop := true } else shared

end Handlers

-- `failed` is the first exception that the gather was given, `outcome` what
-- _run_main came to; `events` is bookkeeping.
structure SessionRun where
  shared : SessionShared
  controller : Task ℚ
  packetHandler : Task Unit
  forwarder : Task Unit
  failed : Option SessionRaised
  outcome : Option (Except SessionRaised Unit)
  events : List SessionEvent

-- A task that runs up to its next await, with the readings of the clock that it
-- makes, what its await gave and what a publish raises; and _run_main once its
-- gather is done.
inductive TaskAction where
  | controllerStarts (lastTime : ℚ)
  | controllerWakes (woken checked lastTime : ℚ)
  | handlerStarts
  | handlerReceives (received : Except String (List UInt8)) (now : ℚ) (publish : Option String)
  | forwarderStarts
  | forwarderReceives (received : Except String (List UInt8)) (publish : Option String)
  | mainResumes

namespace SessionRun

-- _run_main up to its gather; the metrics are what earlier sessions of the runner left.
def init (now : ℚ) (metrics : MetricsTracker) : SessionRun :=
  ⟨⟨false, now + HEARTBEAT_TIMEOUT_SEC, metrics, [], [], []⟩, .created, .created, .created, none, none, []⟩

def fail (run : SessionRun) (raised : SessionRaised) : SessionRun := { run with failed := run.failed.or (some raised) }

def logged (run : SessionRun) (shared : SessionShared) (event : SessionEvent) : SessionRun :=
  { run with shared := shared, events := run.events ++ [event] }

-- The three loop tests.
def controllerLoop (run : SessionRun) (lastTime : ℚ) : SessionRun :=
  { run with controller := if run.shared.allStop then .returned else .awaiting lastTime }

def handlerLoop (run : SessionRun) : SessionRun :=
  { run with packetHandler := if run.shared.allStop then .returned else .awaiting () }

def forwarderLoop (run : SessionRun) : SessionRun :=
  if run.shared.allStop then { run with forwarder := .returned, shared := { run.shared with allStop := true } }
  else { run with forwarder := .awaiting () }

def controllerWakes (run : SessionRun) (lastTime woken checked next : ℚ) : SessionRun :=
  if woken - lastTime = 0 then fail { run with controller := .raised } .zeroDivision
  else (run.logged (checkHeartbeat (reportMetrics run.shared) checked) (.check checked)).controllerLoop next

section Receiving

variable {Obj : Type} (order : ByteOrder) (serializers : Serializers Obj)

def handlerReceives (run : SessionRun) (now : ℚ) (publish : Option String) : Except String (List UInt8) → SessionRun
  | .error exception => fail { run with packetHandler := .raised } (.arecv exception)
  | .ok msg =>
      if msg = [] then run.handlerLoop
      else
        let after := run.logged (handleMessage serializers run.shared now publish msg).1 (.message now msg publish)
        match (handleMessage serializers run.shared now publish msg).2 with
        | some raised => fail { after with packetHandler := .raised } raised
        | none => after.handlerLoop

def forwarderReceives (run : SessionRun) (publish : Option String) : Except String (List UInt8) → SessionRun
  | .error _ => run.forwarderLoop
  | .ok motionframeRaw =>
      if motionframeRaw = [] then run.forwarderLoop
      else
        let after := run.logged (forwardMotionframe order run.shared publish motionframeRaw).1
          (.datagram motionframeRaw publish)
        match (forwardMotionframe order run.shared publish motionframeRaw).2 with
        | some raised => fail { after with forwarder := .raised } raised
        | none => after.forwarderLoop

-- The gather raises the first exception at once and returns when all have returned.
def mainResumes (run : SessionRun) : Option SessionRun :=
  match run.failed with
  | some raised =>
      some { run with
        controller := run.controller.cancel
        packetHandler := run.packetHandler.cancel
        forwarder := run.forwarder.cancel
        outcome := some (.error raised) }
  | none =>
      if run.controller = .returned ∧ run.packetHandler = .returned ∧ run.forwarder = .returned then
        some { run with outcome := some (.ok ()) }
      else none

def step (run : SessionRun) (action : TaskAction) : Option SessionRun :=
  match run.outcome, action with
  | some _, _ => none
  | none, .controllerStarts lastTime =>
      if run.controller = .created then some (run.controllerLoop lastTime) else none
  | none, .controllerWakes woken checked next =>
      match run.controller with
      | .awaiting lastTime => some (run.controllerWakes lastTime woken checked next)
      | _ => none
  | none, .handlerStarts => if run.packetHandler = .created then some run.handlerLoop else none
  | none, .handlerReceives received now publish =>
      if run.packetHandler = .awaiting () then some (run.handlerReceives serializers now publish received) else none
  | none, .forwarderStarts => if run.forwarder = .created then some run.forwarderLoop else none
  | none, .forwarderReceives received publish =>
      if run.forwarder = .awaiting () then some (run.forwarderReceives order publish received) else none
  | none, .mainResumes => run.mainResumes

end Receiving

end SessionRun

def session {Obj : Type} (order : ByteOrder) (serializers : Serializers Obj) : System SessionRun TaskAction where
  start run := ∃ now metrics, run = .init now metrics
  step := SessionRun.step order serializers

end Animacharacter.SessionMng
