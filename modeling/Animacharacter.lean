import Animacharacter.Library.StepSystem
import Animacharacter.Library.Simulation
import Animacharacter.Library.BroadcastLog
import Animacharacter.Library.FailureDetector
import Animacharacter.Library.Bytes
import Animacharacter.Library.Dict
import Animacharacter.Library.Since
import Animacharacter.Library.Grouping
import Animacharacter.Library.Objects
import Animacharacter.Library.BigEndian
import Animacharacter.Library.Sha256
import Animacharacter.Library.Blake2s
import Animacharacter.Library.Md5
import Animacharacter.Library.Struct
import Animacharacter.SerialDevice.Device
import Animacharacter.SerialDevice.FastTable
import Animacharacter.SerialDevice.PacketDispatch
import Animacharacter.SerialDevice.Transfer
import Animacharacter.SerialDevice.Handlers
import Animacharacter.SerialDevice.Invariant
import Animacharacter.SerialDevice.Integrity
import Animacharacter.SerialDevice.Receiver
import Animacharacter.SerialDevice.Completeness
import Animacharacter.SerialDevice.ReceiverBounds
import Animacharacter.SerialDevice.WaitPacket
import Animacharacter.SerialDevice.StreamSender
import Animacharacter.SerialDevice.SendLarge
import Animacharacter.Authmsg.Protocol
import Animacharacter.Authmsg.WireProtocol
import Animacharacter.Authmsg.Channels
import Animacharacter.Authmsg.ChannelOrder
import Animacharacter.Packetcodec.PacketDecoder
import Animacharacter.Packetcodec.SessionPackets
import Animacharacter.Packetcodec.SessionDispatch
import Animacharacter.Mcudrivers.HeadDriver
import Animacharacter.Mcudrivers.FlushUpdates
import Animacharacter.Mcudrivers.PacketRanges
import Animacharacter.Mcudrivers.AxisScaling
import Animacharacter.Mcudrivers.FlushCall
import Animacharacter.Mcudrivers.HeadLifecycle
import Animacharacter.Firmware.BodySteppers
import Animacharacter.Firmware.BodyLifecycle
import Animacharacter.Firmware.BodyHandshake
import Animacharacter.Firmware.BodyMotion
import Animacharacter.Firmware.Quad2DLerper
import Animacharacter.Firmware.PwmDevices
import Animacharacter.Firmware.SimmetricPwmPair
import Animacharacter.Behaviors.Engine
import Animacharacter.Behaviors.Borrowing
import Animacharacter.Behaviors.Scheduling
import Animacharacter.Behaviors.NestedCalls
import Animacharacter.Behaviors.Context
import Animacharacter.Behaviors.BehaviorThread
import Animacharacter.Commons.UdpMotionframeSchema
import Animacharacter.Commons.MotionframeDecoders
import Animacharacter.Pysafeudp.SafeUdpSock
import Animacharacter.Pysafeudp.ReplayProtection
import Animacharacter.Pysafeudp.Addressing
import Animacharacter.Alerts.Alert
import Animacharacter.Alerts.Server
import Animacharacter.Alerts.Client
import Animacharacter.Alerts.Mirror
import Animacharacter.Alerts.Lifetime
import Animacharacter.Alerts.Waiters
import Animacharacter.Orchestration.SystemCommons
import Animacharacter.Orchestration.Supervisor
import Animacharacter.Orchestration.Heartbeats
import Animacharacter.Orchestration.HeartbeatGenerator
import Animacharacter.Orchestration.Registry
import Animacharacter.Orchestration.StateMachine
import Animacharacter.Orchestration.SessionTracking
import Animacharacter.Orchestration.SystemStatus
import Animacharacter.Orchestration.StatusCurrent
import Animacharacter.Orchestration.FaultReference
import Animacharacter.Orchestration.MachineMoves
import Animacharacter.Orchestration.Startup
import Animacharacter.Orchestration.LifecycleSupUtility
import Animacharacter.Orchestration.SystemBringUp
import Animacharacter.Orchestration.Shutdown
import Animacharacter.Orchestration.StickyFault
import Animacharacter.HardwareMng.Controller
import Animacharacter.HardwareMng.MotionCommands
import Animacharacter.HardwareMng.Looper
import Animacharacter.HardwareMng.Reconciler
import Animacharacter.HardwareMng.FatalSignal
import Animacharacter.HardwareMng.SignalWiring
import Animacharacter.HardwareMng.Pass
import Animacharacter.HardwareMng.PassRuns
import Animacharacter.HardwareMng.Teardown
import Animacharacter.HardwareMng.Convergence
import Animacharacter.HardwareMng.LoopThread
import Animacharacter.HardwareMng.PausedLoop
import Animacharacter.HardwareMng.ThreadedNode
import Animacharacter.HardwareMng.ControllerSteps
import Animacharacter.HardwareMng.HookExclusion
import Animacharacter.HardwareMng.StaleMotion
import Animacharacter.HardwareMng.Databus
import Animacharacter.HardwareMng.DatabusDelivery
import Animacharacter.HardwareMng.DatabusFailures
import Animacharacter.HardwareMng.ConfigDispatch
import Animacharacter.HardwareMng.BatchDispatcher
import Animacharacter.HardwareMng.CommandOrder
import Animacharacter.HardwareMng.HeadController
import Animacharacter.HardwareMng.Entrypoint
import Animacharacter.SessionMng.SessionManager
import Animacharacter.SessionMng.Resources
import Animacharacter.SessionMng.Exclusion
import Animacharacter.SessionMng.SingleSession
import Animacharacter.SessionMng.LockOut
import Animacharacter.SessionMng.SessManagerNode
import Animacharacter.SessionMng.HardwareDisarm
import Animacharacter.SessionMng.SessionCreation
import Animacharacter.SessionMng.CleanupCallbacks
import Animacharacter.SessionMng.RunningSession
import Animacharacter.SessionMng.SessionRuns
import Animacharacter.SessionMng.SessionEnds
import Animacharacter.SessionMng.SessionHeartbeats
import Animacharacter.SessionMng.SessionListener
import Animacharacter.SessionMng.InitiateSession
import Animacharacter.SessionMng.SessionRequests
import Animacharacter.SessionMng.ServedRequests
import Animacharacter.SessionMng.Establishment
import Animacharacter.Animadummies.ActuatorGroup
import Animacharacter.JsonTree.DeepMerge
import Animacharacter.JsonTree.Node
import Animacharacter.JsonTree.Gather
import Animacharacter.JsonTree.Publication
import Animacharacter.Pipeline.MotionPath
import Animacharacter.Pipeline.CommandsDelivered
import Animacharacter.Pipeline.CommandsConserved
