import Animacharacter.Alerts.Alert
import Animacharacter.Orchestration.SystemCommons

set_option autoImplicit false

namespace Animacharacter.Orchestration

open Alerts

inductive SysEventType where
  | START
  | EXIT
  | CRASH
deriving DecidableEq

def SysEventType.ofValue (value : UInt8) : Option SysEventType :=
  if value = 0 then some .START
  else if value = 1 then some .EXIT
  else if value = 2 then some .CRASH
  else none

-- interfaces/msg/ProcessEvent
structure ProcessEvent where
  procName : String
  eventType : UInt8
  exitCode : Int32
deriving DecidableEq

def procSource (procName : String) : String := if procName = "" then "unknown-process" else procName

-- The alert the callback raises on the server, if any; an unknown event type
-- is a ValueError.
def onProcessEventCb (event : ProcessEvent) : Option Alert := do
  let evtType ← SysEventType.ofValue event.eventType
  let action := if evtType = .CRASH then "crashed" else "exited"
  let code := event.exitCode.toInt
  let cause := getCause code
  if evtType = .EXIT ∨ evtType = .CRASH then
    if getDomainFromProcName event.procName = some DOMAIN_CORE then
      return {
        level := Level.FATAL
        src := procSource event.procName
        code := AlertCodes.FTL_CORE_PROC_CRASH
        subcode := code
        brief := s!"Core process {action}"
        description := s!"The core process \"{event.procName}\" has crashed with code: {code}.\nCause: {cause}" }
    else
      return {
        level := Level.ERR
        src := procSource event.procName
        code := AlertCodes.ERR_NONCRITICAL_PROC_CRASH
        subcode := code
        brief := s!"Non-critical process {action}"
        description := s!"The non-critical process \"{event.procName}\" has crashed with code: {code}.\nCause: {cause}"
        ttl := .seconds 30 }
  else none

def onHeartbeatTimeoutCb (hbName : String) : Alert :=
  if getDomainFromProcName hbName = some DOMAIN_CORE then {
    level := Level.FATAL
    src := hbName
    code := AlertCodes.HEARTBEAT_TIMEOUT
    brief := s!"Heartbeat {hbName} has timed out"
    description := s!"The core process \"{hbName}\" heartbeat has timed out." }
  else {
    level := Level.WARN
    src := hbName
    code := AlertCodes.HEARTBEAT_TIMEOUT
    brief := s!"Heartbeat {hbName} has timed out"
    description := s!"The non critical process \"{hbName}\" heartbeat has timed out." }

end Animacharacter.Orchestration
