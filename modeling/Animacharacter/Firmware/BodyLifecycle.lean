import Mathlib.Data.List.Basic
import Animacharacter.Library.StepSystem

set_option autoImplicit false

namespace Animacharacter.Firmware

open StepSystem

structure PspPacket where
  id : UInt8
  data : List UInt8
deriving DecidableEq

def PSP_PACKID_MOTION : UInt8 := 1
def PSP_PACKID_CONTROL_FLAGS : UInt8 := 4
def PSP_PACKID_DIAGNOSTICS : UInt8 := 5

def DGN_HARDWARE_INIT_OK : UInt8 := 0x01
def DGN_BEGINALL_OK : UInt8 := 0x02
def DGN_HARDWARE_DEINIT_ACK : UInt8 := 0x03

def INIT_HARDWARE : UInt8 := 0x01
def BEGIN_ALL : UInt8 := 0x02
def DEINIT_HARDWARE : UInt8 := 0x04

def checkAndClearBit (c mask : UInt8) : UInt8 × Bool := if c &&& mask ≠ 0 then (c &&& ~~~mask, true) else (c, false)

-- Where main.cpp is: the two waits of setup, loop, and the watchdog's reset.
inductive BodyStage where
  | waitInit
  | waitBegin
  | looping
  | restarting
deriving DecidableEq

-- The control flags and whether the motor drivers are on.
structure BodyBoard where
  stage : BodyStage
  flags : UInt8
  enabled : Bool
deriving DecidableEq

namespace BodyBoard

-- setup up to its first wait, after a reset.
def setup : BodyBoard := ⟨.waitInit, 0, false⟩

-- What a poll does to the flags: handleControl, or a handler that leaves them.
def poll (board : BodyBoard) (packet : PspPacket) : BodyBoard :=
  if packet.id = PSP_PACKID_CONTROL_FLAGS then { board with flags := board.flags ||| packet.data.headD 0 } else board

-- The look at the flags of the stage, with the diagnostics code that it sends;
-- initializeHardware returns 0 only.
def check (board : BodyBoard) : BodyBoard × Option UInt8 :=
  match board.stage with
  | .waitInit =>
      let looked := checkAndClearBit board.flags INIT_HARDWARE
      if looked.2 then (⟨.waitBegin, looked.1, true⟩, some DGN_HARDWARE_INIT_OK) else (board, none)
  | .waitBegin =>
      let looked := checkAndClearBit board.flags BEGIN_ALL
      if looked.2 then ({ board with stage := .looping, flags := looked.1 }, some DGN_BEGINALL_OK) else (board, none)
  | .looping =>
      let looked := checkAndClearBit board.flags DEINIT_HARDWARE
      if looked.2 then (⟨.restarting, looked.1, false⟩, some DGN_HARDWARE_DEINIT_ACK) else (board, none)
  | .restarting => (setup, none)

end BodyBoard

-- Where the driver waits for a packet.
inductive DriverStage where
  | idle
  | awaitsInit
  | awaitsBegin
  | awaitsDeinit
deriving DecidableEq

-- How begin() and deinit() return: begun, deinitSkipped and deinitDone are True.
inductive Returned where
  | noDevice
  | beginFailed
  | begun
  | deinitSkipped
  | deinitUnsent
  | deinitFailed
  | deinitDone
deriving DecidableEq

inductive Opening where
  | closed
  | wrongName
  | found
deriving DecidableEq

-- The board, what is on its way to it and from it, and the driver; `returned` is
-- what its calls gave since an opening last reset the board.
structure BodyLink where
  board : BodyBoard
  up : List PspPacket
  down : List PspPacket
  driver : DriverStage
  initialized : Bool
  returned : List Returned
deriving DecidableEq

-- begin with what the opening of the port gives, and whether it resets the board.
inductive LinkAction where
  | begin_ (opening : Opening) (resets : Bool)
  | deinit (sent : Bool)
  | flush (payload : List UInt8)
  | received
  | timedOut
  | loseUp (index : Nat)
  | loseDown (index : Nat)
  | poll
  | check

namespace BodyLink

def init : BodyLink := ⟨.setup, [], [], .idle, false, []⟩

def control (flag : UInt8) : PspPacket := ⟨PSP_PACKID_CONTROL_FLAGS, [flag]⟩

def diagnostics (code : UInt8) : PspPacket := ⟨PSP_PACKID_DIAGNOSTICS, [code]⟩

def ends (link : BodyLink) (result : Returned) : BodyLink :=
  { link with driver := .idle, returned := link.returned ++ [result] }

def opened (link : BodyLink) (resets : Bool) : BodyLink :=
  if resets then { link with board := .setup, returned := [] } else link

def begin_ (link : BodyLink) (opening : Opening) (resets : Bool) : BodyLink :=
  if link.initialized then link.ends .begun
  else
    match opening with
    | .closed => link.ends .noDevice
    | .wrongName => (link.opened resets).ends .noDevice
    | .found =>
        let link := link.opened resets
        { link with up := link.up ++ [control INIT_HARDWARE], driver := .awaitsInit }

def deinit (link : BodyLink) (sent : Bool) : BodyLink :=
  if link.initialized then
    if sent then { link with up := link.up ++ [control DEINIT_HARDWARE], driver := .awaitsDeinit }
    else link.ends .deinitUnsent
  else link.ends .deinitSkipped

-- What the driver does with the packet that wait_packet returns.
def received (link : BodyLink) (packet : PspPacket) : BodyLink :=
  match link.driver with
  | .idle => link
  | .awaitsInit =>
      if packet = diagnostics DGN_HARDWARE_INIT_OK then
        { link with up := link.up ++ [control BEGIN_ALL], driver := .awaitsBegin }
      else link.ends .beginFailed
  | .awaitsBegin =>
      if packet = diagnostics DGN_BEGINALL_OK then { link with initialized := true }.ends .begun
      else link.ends .beginFailed
  | .awaitsDeinit =>
      if packet = diagnostics DGN_HARDWARE_DEINIT_ACK then { link with initialized := false }.ends .deinitDone
      else link.ends .deinitFailed

def timedOut (link : BodyLink) : BodyLink :=
  match link.driver with
  | .idle => link
  | .awaitsInit | .awaitsBegin => link.ends .beginFailed
  | .awaitsDeinit => link.ends .deinitFailed

def checked (link : BodyLink) : BodyLink :=
  { link with
    board := link.board.check.1
    down := link.down ++ (link.board.check.2.map diagnostics).toList }

def step (link : BodyLink) : LinkAction → Option BodyLink
  | .begin_ opening resets => if link.driver = .idle then some (link.begin_ opening resets) else none
  | .deinit sent => if link.driver = .idle then some (link.deinit sent) else none
  | .flush payload =>
      if link.driver = .idle then some { link with up := link.up ++ [⟨PSP_PACKID_MOTION, payload⟩] } else none
  | .received =>
      match link.driver, link.down with
      | .idle, _ | _, [] => none
      | _, packet :: rest => some ({ link with down := rest }.received packet)
  | .timedOut => if link.driver = .idle then none else some link.timedOut
  | .loseUp index => some { link with up := link.up.eraseIdx index }
  | .loseDown index => some { link with down := link.down.eraseIdx index }
  | .poll =>
      match link.board.stage, link.up with
      | .restarting, _ | _, [] => none
      | _, packet :: rest => some { link with board := link.board.poll packet, up := rest }
  | .check => some link.checked

-- A port that is opened starts empty, and the two seconds that begin() sleeps
-- outlast what was on its way.
def portOpensEmpty (link : BodyLink) : LinkAction → Prop
  | .begin_ opening _ => link.initialized = false → opening ≠ .closed → link.up = [] ∧ link.down = []
  | .deinit _ | .flush _ | .received | .timedOut | .loseUp _ | .loseDown _ | .poll | .check => True

instance : (link : BodyLink) → (action : LinkAction) → Decidable (portOpensEmpty link action)
  | link, .begin_ opening _ =>
      inferInstanceAs (Decidable (link.initialized = false → opening ≠ .closed → link.up = [] ∧ link.down = []))
  | _, .deinit _ | _, .flush _ | _, .received | _, .timedOut | _, .loseUp _ | _, .loseDown _ | _, .poll | _, .check =>
      inferInstanceAs (Decidable True)

end BodyLink

def bodyLink : System BodyLink LinkAction where
  start link := link = .init
  step := BodyLink.step

end Animacharacter.Firmware
