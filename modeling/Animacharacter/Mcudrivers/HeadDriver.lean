import Animacharacter.Library.Struct

set_option autoImplicit false

namespace Animacharacter.Mcudrivers

open Struct

-- The numbers that axes are written with, and what the driver does with them;
-- `int` fails on a NaN or an infinity.
class PyNumber (Value : Type) where
  ofInt : Int → Value
  half : Value
  add : Value → Value → Value
  sub : Value → Value → Value
  mul : Value → Value → Value
  lt : Value → Value → Bool
  int : Value → Option Int
  bool : Value → Bool

open PyNumber

inductive Axis where
  | LED_R
  | LED_G
  | LED_B
  | LED_L1
  | LED_L2
  | MOUTH
  | EAR_L
  | EAR_R
  | NECK_PITCH
  | NECK_TILT
  | EYES_PITCH
  | EYE_L
  | EYE_R
  | LID_L
  | LID_R
  | EYES_OPEN
deriving DecidableEq, Repr

-- The two packets: what the driver has one of for each, it has twice.
inductive Packet where
  | motion
  | leds
deriving DecidableEq, Repr

def PACK_ID_MOTION : Nat := 0x10
def PACK_ID_LEDS : Nat := 0x09

def Packet.packId : Packet → Nat
  | .motion => PACK_ID_MOTION
  | .leds => PACK_ID_LEDS

-- Whether an axis is in _LED_AXIS decides which packet it makes dirty.
def Axis.packet : Axis → Packet
  | .LED_R | .LED_G | .LED_B | .LED_L1 | .LED_L2 => .leds
  | _ => .motion

def EYE_YAW_RANGE_DEG : Int := 60
def EYE_PITCH_RANGE_DEG : Int := 30
def LID_WIDENESS_MAX_DEG : Int := 60
def MOUTH_INPUT_SCALE : Int := 255
def EARS_INPUT_SCALE : Int := 127
def NECK_PITCH_SCALE : Int := 50
def NECK_TILT_SCALE : Int := 35
def NECK_L_OFFSET : Int := 150
def NECK_R_OFFSET : Int := 270

variable {Value : Type} [PyNumber Value]

def clamp (x : Value) (lo hi : Int) : Value :=
  if lt x (ofInt lo) then ofInt lo else if lt (ofInt hi) x then ofInt hi else x

def topwm8 (x : Value) : Option Int := (int x).map fun number => min (max (number * 255) 0) 1

def topwm12 (x : Value) : Option Int := (int x).map fun number => min (max (number * 4095) 0) 1

structure Axes (Value : Type) where
  ledR : Int
  ledG : Int
  ledB : Int
  ledL1 : Int
  ledL2 : Int
  mouth : Value
  earLeft : Value
  earRight : Value
  neckTilt : Value
  neckPitch : Value
  eyeLeft : Value
  eyeRight : Value
  eyesPitch : Value
  lidLeftWideness : Value
  lidRightWideness : Value
  eyesOpen : Value

namespace Axes

def init : Axes Value where
  ledR := 0
  ledG := 0
  ledB := 0
  ledL1 := 0
  ledL2 := 0
  mouth := ofInt 1
  earLeft := ofInt 0
  earRight := ofInt 0
  neckTilt := ofInt 0
  neckPitch := ofInt 0
  eyeLeft := ofInt 0
  eyeRight := ofInt 0
  eyesPitch := ofInt 0
  lidLeftWideness := ofInt 20
  lidRightWideness := ofInt 20
  eyesOpen := ofInt 1

-- `none` where the value raises before anything is assigned.
def writeAxis (axes : Axes Value) (axis : Axis) (val : Value) : Option (Axes Value) :=
  match axis with
  | .LED_R => (topwm12 val).map fun duty => { axes with ledR := duty }
  | .LED_G => (topwm12 val).map fun duty => { axes with ledG := duty }
  | .LED_B => (topwm12 val).map fun duty => { axes with ledB := duty }
  | .LED_L1 => (topwm8 val).map fun duty => { axes with ledL1 := duty }
  | .LED_L2 => (topwm8 val).map fun duty => { axes with ledL2 := duty }
  | .MOUTH => some { axes with mouth := clamp val 0 1 }
  | .EAR_L => some { axes with earLeft := clamp val (-1) 1 }
  | .EAR_R => some { axes with earRight := clamp val (-1) 1 }
  | .NECK_TILT => some { axes with neckTilt := clamp val (-1) 1 }
  | .NECK_PITCH => some { axes with neckPitch := clamp val (-1) 1 }
  | .EYE_L => some { axes with eyeLeft := clamp val (-EYE_YAW_RANGE_DEG) EYE_YAW_RANGE_DEG }
  | .EYE_R => some { axes with eyeRight := clamp val (-EYE_YAW_RANGE_DEG) EYE_YAW_RANGE_DEG }
  | .EYES_PITCH => some { axes with eyesPitch := clamp val (-EYE_PITCH_RANGE_DEG) EYE_PITCH_RANGE_DEG }
  | .LID_L => some { axes with lidLeftWideness := clamp (mul val half) 0 LID_WIDENESS_MAX_DEG }
  | .LID_R => some { axes with lidRightWideness := clamp (mul val half) 0 LID_WIDENESS_MAX_DEG }
  | .EYES_OPEN => some { axes with eyesOpen := ofInt (if bool val then 1 else 0) }

end Axes

def neckLeftMot (neckTilt neckPitch : Value) : Option Int :=
  int (add (sub (ofInt NECK_L_OFFSET) (mul neckTilt (ofInt NECK_TILT_SCALE))) (mul neckPitch (ofInt NECK_PITCH_SCALE)))

def neckRightMot (neckTilt neckPitch : Value) : Option Int :=
  int (add (add (ofInt NECK_R_OFFSET) (mul neckTilt (ofInt NECK_TILT_SCALE))) (mul neckPitch (ofInt NECK_PITCH_SCALE)))

def mpPacker : Format := ⟨false, .little, [.B, .B, .B, .B, .B, .h, .h, .h, .h, .h]⟩

def ledsPacker : Format := ⟨false, .little, [.h, .h, .h, .h, .h]⟩

-- `none` for struct.error as well as for an int() that raises.
def packMotion (axes : Axes Value) (neckLeft neckRight : Int) : Option (List UInt8) := do
  let mouth ← int (mul axes.mouth (ofInt MOUTH_INPUT_SCALE))
  let earLeft ← int (mul axes.earLeft (ofInt EARS_INPUT_SCALE))
  let earRight ← int (mul axes.earRight (ofInt EARS_INPUT_SCALE))
  let lidLeft ← int (mul axes.lidLeftWideness axes.eyesOpen)
  let lidRight ← int (mul axes.lidRightWideness axes.eyesOpen)
  let eyeLeft ← int axes.eyeLeft
  let eyeRight ← int axes.eyeRight
  let eyesPitch ← int axes.eyesPitch
  mpPacker.pack [.int mouth, .int earLeft, .int earRight, .int lidLeft, .int lidRight, .int eyeLeft, .int eyeRight,
    .int eyesPitch, .int neckLeft, .int neckRight]

def packLeds (axes : Axes Value) : Option (List UInt8) :=
  ledsPacker.pack [.int axes.ledR, .int axes.ledG, .int axes.ledB, .int axes.ledL1, .int axes.ledL2]

-- Where flush stands, with the values that it has read so far. The neck is read
-- and computed before the lock is taken; the packets are packed under it.
inductive FlushPc (Value : Type) where
  | idle
  | testLeds
  | readTilt
  | readPitch (neckTilt : Value)
  | readTiltAgain (neckLeft : Int)
  | readPitchAgain (neckLeft : Int) (neckTilt : Value)
  | pack (neckLeft neckRight : Int)
  | test (packet : Packet)
  | send (packet : Packet)
  | clear (packet : Packet)

inductive SendOutcome where
  | success
  | failure
  | raises
deriving DecidableEq

-- The driver, its flush, and what both have done: every packet sent, the latest
-- first, the writes in their order, whether the flush that runs was called after
-- the last of them, and whether such a flush has completed.
structure HeadMcuDriver (Value : Type) where
  axes : Axes Value
  buffer : Packet → List UInt8
  dirty : Packet → Bool
  pc : FlushPc Value
  sent : List (Nat × List UInt8)
  writes : List (Axis × Value)
  begunSince : Bool
  flushed : Bool

-- One move of either thread. `outcome` is that of send_object; `broken` is what a
-- failed pack_into leaves in the buffers.
inductive DriverAction (Value : Type) where
  | write (axis : Axis) (val : Value)
  | flush
  | advance (outcome : SendOutcome) (broken : Packet → List UInt8)

namespace HeadMcuDriver

def init : HeadMcuDriver Value where
  axes := .init
  buffer
    | .motion => List.replicate 15 0
    | .leds => List.replicate 10 0
  dirty _ := false
  pc := .idle
  sent := []
  writes := []
  begunSince := false
  flushed := false

def setDirty (driver : HeadMcuDriver Value) (packet : Packet) (flag : Bool) : HeadMcuDriver Value :=
  { driver with dirty := fun other => if other = packet then flag else driver.dirty other }

def setBuffer (driver : HeadMcuDriver Value) (packet : Packet) (bytes : List UInt8) : HeadMcuDriver Value :=
  { driver with buffer := fun other => if other = packet then bytes else driver.buffer other }

def write (driver : HeadMcuDriver Value) (axis : Axis) (val : Value) : HeadMcuDriver Value :=
  match driver.axes.writeAxis axis val with
  | none => driver
  | some axes =>
      { driver with
        axes := axes
        writes := driver.writes ++ [(axis, val)]
        begunSince := false
        flushed := false }.setDirty axis.packet true

-- flush returns, with True or False, or raises.
def complete (driver : HeadMcuDriver Value) : HeadMcuDriver Value :=
  { driver with
    pc := .idle
    flushed := driver.flushed || driver.begunSince }

def flush (driver : HeadMcuDriver Value) : HeadMcuDriver Value :=
  { driver with
    pc := if driver.dirty .motion then .readTilt else .testLeds
    begunSince := true }

-- A dirty packet is packed into its buffer; false where that fails.
def packInto (driver : HeadMcuDriver Value) (packet : Packet) (packed : Option (List UInt8)) (broken : Packet → List UInt8) :
    HeadMcuDriver Value × Bool :=
  if driver.dirty packet then
    match packed with
    | none => (driver.setBuffer packet (broken packet), false)
    | some bytes => (driver.setBuffer packet bytes, true)
  else (driver, true)

def packPhase (driver : HeadMcuDriver Value) (neckLeft neckRight : Int) (broken : Packet → List UInt8) :
    HeadMcuDriver Value :=
  match driver.packInto .motion (packMotion driver.axes neckLeft neckRight) broken with
  | (driver, false) => driver.complete
  | (driver, true) =>
      match driver.packInto .leds (packLeds driver.axes) broken with
      | (driver, false) => driver.complete
      | (driver, true) => { driver with pc := .test .motion }

def nextPacket (driver : HeadMcuDriver Value) : Packet → HeadMcuDriver Value
  | .motion => { driver with pc := .test .leds }
  | .leds => driver.complete

def advance (driver : HeadMcuDriver Value) (outcome : SendOutcome) (broken : Packet → List UInt8) :
    Option (HeadMcuDriver Value) :=
  match driver.pc with
  | .idle => none
  | .testLeds => some (if driver.dirty .leds then { driver with pc := .readTilt } else driver.complete)
  | .readTilt => some { driver with pc := .readPitch driver.axes.neckTilt }
  | .readPitch neckTilt =>
      match neckLeftMot neckTilt driver.axes.neckPitch with
      | none => some driver.complete
      | some neckLeft => some { driver with pc := .readTiltAgain neckLeft }
  | .readTiltAgain neckLeft => some { driver with pc := .readPitchAgain neckLeft driver.axes.neckTilt }
  | .readPitchAgain neckLeft neckTilt =>
      match neckRightMot neckTilt driver.axes.neckPitch with
      | none => some driver.complete
      | some neckRight => some { driver with pc := .pack neckLeft neckRight }
  | .pack neckLeft neckRight => some (driver.packPhase neckLeft neckRight broken)
  | .test packet => some (if driver.dirty packet then { driver with pc := .send packet } else driver.nextPacket packet)
  | .send packet =>
      match outcome with
      | .success =>
          some { driver with
            sent := (packet.packId, driver.buffer packet) :: driver.sent
            pc := .clear packet }
      | .failure => some (driver.nextPacket packet)
      | .raises => some driver.complete
  | .clear packet => some ((driver.setDirty packet false).nextPacket packet)

def step (driver : HeadMcuDriver Value) : DriverAction Value → Option (HeadMcuDriver Value)
  | .write axis val => some (driver.write axis val)
  | .flush =>
      match driver.pc with
      | .idle => some driver.flush
      | _ => none
  | .advance outcome broken => driver.advance outcome broken

end HeadMcuDriver

end Animacharacter.Mcudrivers
