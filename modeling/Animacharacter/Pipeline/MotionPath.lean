import Animacharacter.Authmsg.ChannelOrder
import Animacharacter.SessionMng.SessionRuns
import Animacharacter.HardwareMng.Entrypoint

set_option autoImplicit false

namespace Animacharacter.Pipeline

open StepSystem Struct Packetcodec PacketDecoder Commons Authmsg SessionMng HardwareMng

-- A MotionframeArray, with the bits of its values.
abbrev Motionframe := List UInt16 × List UInt32

-- An actuator id, and the bits of a value for it.
abbrev MotionCommand := Int × UInt32

def commandsOf (msg : Motionframe) : List MotionCommand := (msg.1.map fun id => (id.toNat : Int)).zip msg.2

-- The way of the motion commands from the client, at A, over the UDP channel to
-- the running session, at B, over the topic to the hardware manager node and from
-- its queues to the controllers. `motionframes` are what send_motionframe was given.
structure MotionPath where
  network : Network
  run : SessionRun
  topic : List Motionframe
  isActive : Bool
  controllers : List (CommandState MotionCommand)
  motionframes : List (List Record)

inductive PathAction where
  | sendMotionframe (motionframe : List Record)
  | arecv (data : List UInt8) (publish : Option String)
  | arecvTimeout
  | arecvRaises (exception : String)
  | session (action : TaskAction)
  | network (action : NetworkAction)
  | topicLoses (index : Nat)
  | topicDelivers
  | activity (isActive : Bool)
  | controller (index : Nat) (action : QueueAction MotionCommand)

namespace MotionPath

def put (state : CommandState MotionCommand) (command : MotionCommand) : CommandState MotionCommand :=
  state.step (.put command)

section Path

variable {Obj : Type} (order : ByteOrder) (serializers : Serializers Obj) (groups : List CommandGroup)

def sendMotionframe (path : MotionPath) (motionframe : List Record) : Option MotionPath :=
  (encodeMotionframePacket order motionframe).map fun encoded =>
    { path with
      network := path.network.send .A .UDP encoded
      motionframes := path.motionframes ++ [motionframe] }

def moveSession (path : MotionPath) (action : TaskAction) : Option MotionPath :=
  (path.run.step order serializers action).map fun run =>
    { path with run, topic := path.topic ++ run.shared.motionframes.drop path.run.shared.motionframes.length }

-- _finish_recv after a datagram has come.
def arecvd (path : MotionPath) (data : List UInt8) : Except String (List UInt8) :=
  match ((path.network.peers .B .UDP).unpack data).2 with
  | .ok (some msg) => .ok msg
  | .ok none => .ok []
  | .error _ => .error "unpack"

def arecv (path : MotionPath) (data : List UInt8) (publish : Option String) : Option MotionPath :=
  (path.moveSession order serializers (.forwarderReceives (path.arecvd data) publish)).map fun moved =>
    { moved with network := path.network.deliver .B .UDP data }

def topicDelivers (path : MotionPath) : Option MotionPath :=
  match path.topic with
  | [] => none
  | msg :: rest =>
      some { path with
        topic := rest
        controllers := motionframeCallback put (configuredDispatcher groups) path.isActive path.controllers
          (msg.1.map fun id => (id.toNat : Int)) msg.2 }

def step (path : MotionPath) : PathAction → Option MotionPath
  | .sendMotionframe motionframe => path.sendMotionframe order motionframe
  | .arecv data publish => path.arecv order serializers data publish
  | .arecvTimeout => path.moveSession order serializers (.forwarderReceives (.ok []) none)
  | .arecvRaises exception => path.moveSession order serializers (.forwarderReceives (.error exception) none)
  -- What the forwarder receives comes from the network.
  | .session (.forwarderReceives _ _) => none
  | .session action => path.moveSession order serializers action
  -- The client sends nothing but motionframes on UDP.
  | .network (.send .A .UDP _) | .network (.deliver .B .UDP _) => none
  | .network action => (path.network.step action).map fun network => { path with network }
  | .topicLoses index => some { path with topic := path.topic.eraseIdx index }
  | .topicDelivers => path.topicDelivers groups
  | .activity isActive => some { path with isActive }
  -- Commands come to the queues from the topic.
  | .controller _ (.put _) => none
  | .controller index action =>
      some { path with controllers := path.controllers.modify index fun state => state.step action }

end Path

end MotionPath

def motionPath {Obj : Type} (order : ByteOrder) (serializers : Serializers Obj) (groups : List CommandGroup) :
    System MotionPath PathAction where
  start path := Authmsg.session.start path.network ∧ (SessionMng.session order serializers).start path.run ∧
    path.topic = [] ∧ path.controllers.length = groups.length ∧
    (∀ state ∈ path.controllers, ∃ handlers, state = .init handlers) ∧ path.motionframes = []
  step := MotionPath.step order serializers groups

-- The adversary of the network at B's UDP socket and elsewhere.
def courseKept (path : MotionPath) : PathAction → Prop
  | .arecv data _ => unforgedOnCourse path.network (.deliver .B .UDP data)
  | .network action => unforgedOnCourse path.network action
  | _ => True

namespace MotionPath

-- No datagram that was sent is passed over, no publish raises, the topic loses
-- nothing, the node is active at what comes from it, and no flush drops its commands.
def lossless (path : MotionPath) : PathAction → Prop
  | .sendMotionframe _ => (path.network.peers .A .UDP).sendSequence + 1 < 256 ^ SEQUENCE_SIZE
  | .arecv data publish =>
      publish = none ∧ unforgedOnCourse path.network (.deliver .B .UDP data) ∧
        ((∃ packed ∈ path.network.sentOn .A .UDP, packed.frame = data) →
          BigEndian.fromBytes (headerOf data) ≤ (path.network.peers .B .UDP).lastReceivedSequence + 1)
  | .network action => unforgedOnCourse path.network action
  | .topicLoses _ => False
  | .topicDelivers => path.isActive = true
  | .controller index action => ∀ state ∈ path.controllers[index]?, state.Controls action
  | .arecvTimeout | .arecvRaises _ | .session _ | .activity _ => True

theorem lossless_course (path : MotionPath) (action : PathAction) (kept : path.lossless action) :
    courseKept path action := by
  cases action with
  | arecv data publish => exact kept.2.1
  | network action => exact kept
  | sendMotionframe _ | arecvTimeout | arecvRaises _ | session _ | topicLoses _ | topicDelivers | activity _
  | controller _ _ => trivial

end MotionPath

end Animacharacter.Pipeline
