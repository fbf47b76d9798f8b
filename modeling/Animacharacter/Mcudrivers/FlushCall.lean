import Animacharacter.Mcudrivers.AxisScaling

set_option autoImplicit false

namespace Animacharacter.Mcudrivers

open PyNumber StepSystem

-- How a call of the driver ends.
inductive CallEnd where
  | returned (value : Bool)
  | raised
deriving DecidableEq

-- What the serial device does within one flush: what send_object gives for each
-- packet, and what a failed pack_into leaves in the buffers.
structure Serial where
  sends : Packet → SendOutcome
  broken : Packet → List UInt8

inductive Packing where
  | packed
  | structError
  | raised
deriving DecidableEq

section Calls

variable {Value : Type} [PyNumber Value]

-- `none` where an int() raises.
def motionArgs (axes : Axes Value) (neckLeft neckRight : Int) : Option (List Struct.Arg) := do
  let mouth ← int (mul axes.mouth (ofInt MOUTH_INPUT_SCALE))
  let earLeft ← int (mul axes.earLeft (ofInt EARS_INPUT_SCALE))
  let earRight ← int (mul axes.earRight (ofInt EARS_INPUT_SCALE))
  let lidLeft ← int (mul axes.lidLeftWideness axes.eyesOpen)
  let lidRight ← int (mul axes.lidRightWideness axes.eyesOpen)
  let eyeLeft ← int axes.eyeLeft
  let eyeRight ← int axes.eyeRight
  let eyesPitch ← int axes.eyesPitch
  some [.int mouth, .int earLeft, .int earRight, .int lidLeft, .int lidRight, .int eyeLeft, .int eyeRight,
    .int eyesPitch, .int neckLeft, .int neckRight]

def ledArgs (axes : Axes Value) : List Struct.Arg :=
  [.int axes.ledR, .int axes.ledG, .int axes.ledB, .int axes.ledL1, .int axes.ledL2]

theorem pack_motion_args (axes : Axes Value) (neckLeft neckRight : Int) :
    packMotion axes neckLeft neckRight = (motionArgs axes neckLeft neckRight).bind mpPacker.pack := by
  simp only [packMotion, motionArgs, bind, Option.bind_assoc, Option.bind_some]

namespace HeadMcuDriver

def packOne (driver : HeadMcuDriver Value) (packet : Packet) (args : Option (List Struct.Arg))
    (broken : Packet → List UInt8) : HeadMcuDriver Value × Packing :=
  if driver.dirty packet then
    match args with
    | none => (driver, .raised)
    | some args =>
        match packet.format.pack args with
        | none => (driver.setBuffer packet (broken packet), .structError)
        | some bytes => (driver.setBuffer packet bytes, .packed)
  else (driver, .packed)

def sendOne (driver : HeadMcuDriver Value) (packet : Packet) (outcome : SendOutcome) :
    HeadMcuDriver Value × SendOutcome :=
  if driver.dirty packet then
    match outcome with
    | .success =>
        ({ driver with sent := (packet.packId, driver.buffer packet) :: driver.sent }.setDirty packet false, .success)
    | failed => (driver, failed)
  else (driver, .success)

def sendLeds (driver : HeadMcuDriver Value) (motion leds : SendOutcome) : HeadMcuDriver Value × CallEnd :=
  match driver.sendOne .leds leds with
  | (driver, .raises) => (driver.complete, .returned false)
  | (driver, leds) => (driver.complete, .returned (motion = .success ∧ leds = .success))

def sendCall (driver : HeadMcuDriver Value) (sends : Packet → SendOutcome) : HeadMcuDriver Value × CallEnd :=
  match driver.sendOne .motion (sends .motion) with
  | (driver, .raises) => (driver.complete, .returned false)
  | (driver, motion) => driver.sendLeds motion (sends .leds)

def packCall (driver : HeadMcuDriver Value) (neckLeft neckRight : Int) (serial : Serial) :
    HeadMcuDriver Value × CallEnd :=
  match driver.packOne .motion (motionArgs driver.axes neckLeft neckRight) serial.broken with
  | (driver, .raised) => (driver.complete, .raised)
  | (driver, .structError) => (driver.complete, .returned false)
  | (driver, .packed) =>
      match driver.packOne .leds (some (ledArgs driver.axes)) serial.broken with
      | (driver, .raised) => (driver.complete, .raised)
      | (driver, .structError) => (driver.complete, .returned false)
      | (driver, .packed) => driver.sendCall serial.sends

-- A flush with nothing written meanwhile, from its call to its end.
def flushCall (driver : HeadMcuDriver Value) (serial : Serial) : HeadMcuDriver Value × CallEnd :=
  if driver.dirty .motion = false ∧ driver.dirty .leds = false then (driver.flush.complete, .returned false)
  else
    match neckLeftMot driver.axes.neckTilt driver.axes.neckPitch,
      neckRightMot driver.axes.neckTilt driver.axes.neckPitch with
    | some neckLeft, some neckRight => driver.flush.packCall neckLeft neckRight serial
    | _, _ => (driver.flush.complete, .raised)

section Refinement

def unwritten (_driver : HeadMcuDriver Value) : DriverAction Value → Prop
  | .write _ _ => False
  | .flush | .advance _ _ => True

theorem advance_runs (driver next : HeadMcuDriver Value) (outcome : SendOutcome) (broken : Packet → List UInt8)
    (moved : driver.advance outcome broken = some next) : Runs headDriver unwritten driver next :=
  .single ⟨.advance outcome broken, trivial, moved⟩

-- What a flush does after it has dealt with a packet.
def goOn (sent : HeadMcuDriver Value × SendOutcome) (packet : Packet) : HeadMcuDriver Value :=
  if sent.2 = .raises then sent.1.complete else sent.1.nextPacket packet

theorem send_one_runs (driver : HeadMcuDriver Value) (packet : Packet) (outcome : SendOutcome)
    (pc : driver.pc = .test packet) :
    Runs headDriver unwritten driver (goOn (driver.sendOne packet outcome) packet) := by
  have moved : driver.advance outcome driver.buffer =
      some (if driver.dirty packet then { driver with pc := .send packet } else driver.nextPacket packet) := by
    simp only [advance, pc]
  have test := advance_runs driver _ outcome driver.buffer moved
  cases flag : driver.dirty packet with
  | false =>
      rw [flag] at test
      simpa [sendOne, flag, goOn] using test
  | true =>
      rw [flag, if_pos rfl] at test
      refine test.trans ?_
      cases outcome with
      | success =>
          have send := advance_runs { driver with pc := .send packet } _ .success driver.buffer rfl
          have clear := advance_runs { driver with
            pc := .clear packet
            sent := (packet.packId, driver.buffer packet) :: driver.sent } _ .success driver.buffer rfl
          refine (send.trans clear).trans ?_
          simp only [sendOne, flag, if_true, goOn]
          cases packet <;> exact .refl
      | failure =>
          refine (advance_runs _ _ .failure driver.buffer rfl).trans ?_
          simp only [sendOne, flag, if_true, goOn]
          cases packet <;> exact .refl
      | raises =>
          refine (advance_runs _ _ .raises driver.buffer rfl).trans ?_
          simp only [sendOne, flag, if_true, goOn]
          exact .refl

omit [PyNumber Value] in
theorem send_leds_driver (driver : HeadMcuDriver Value) (motion leds : SendOutcome) :
    (driver.sendLeds motion leds).1 = (driver.sendOne .leds leds).1.complete := by
  rw [sendLeds]
  obtain ⟨last, ended⟩ := driver.sendOne .leds leds
  cases ended <;> rfl

omit [PyNumber Value] in
theorem send_call_driver (driver : HeadMcuDriver Value) (sends : Packet → SendOutcome) :
    (driver.sendCall sends).1 =
      if (driver.sendOne .motion (sends .motion)).2 = .raises then (driver.sendOne .motion (sends .motion)).1.complete
      else ((driver.sendOne .motion (sends .motion)).1.sendOne .leds (sends .leds)).1.complete := by
  rw [sendCall]
  obtain ⟨sent, outcome⟩ := driver.sendOne .motion (sends .motion)
  cases outcome with
  | raises => rfl
  | success => exact send_leds_driver sent .success (sends .leds)
  | failure => exact send_leds_driver sent .failure (sends .leds)

omit [PyNumber Value] in
theorem send_one_pc (driver : HeadMcuDriver Value) (pc : FlushPc Value) (packet : Packet) (outcome : SendOutcome) :
    { driver with pc }.sendOne packet outcome =
      ({ (driver.sendOne packet outcome).1 with pc }, (driver.sendOne packet outcome).2) := by
  cases flag : driver.dirty packet with
  | false => simp [sendOne, flag]
  | true => cases outcome <;> simp [sendOne, flag, setDirty]

theorem send_call_runs (driver : HeadMcuDriver Value) (sends : Packet → SendOutcome) (pc : driver.pc = .test .motion) :
    Runs headDriver unwritten driver (driver.sendCall sends).1 := by
  refine (send_one_runs driver .motion (sends .motion) pc).trans ?_
  rw [send_call_driver, goOn]
  obtain ⟨sent, outcome⟩ := driver.sendOne .motion (sends .motion)
  split
  · exact .refl
  · have leds := send_one_runs (sent.nextPacket .motion) .leds (sends .leds) rfl
    have ends (last : HeadMcuDriver Value × SendOutcome) : goOn last .leds = last.1.complete := by
      rw [goOn]
      split <;> rfl
    have same : ((sent.nextPacket .motion).sendOne .leds (sends .leds)).1.complete =
        (sent.sendOne .leds (sends .leds)).1.complete := by
      rw [nextPacket, send_one_pc]
      rfl
    rw [ends, same] at leds
    exact leds

-- An int() that raises leaves the buffer as it was.
def leftover (driver : HeadMcuDriver Value) (args : Option (List Struct.Arg)) (broken : Packet → List UInt8) :
    Packet → List UInt8
  | .motion => if args = none then driver.buffer .motion else broken .motion
  | .leds => broken .leds

omit [PyNumber Value] in
theorem pack_one_into (driver : HeadMcuDriver Value) (packet : Packet) (args : Option (List Struct.Arg))
    (broken left : Packet → List UInt8)
    (leaves : left packet = if args = none then driver.buffer packet else broken packet) :
    driver.packInto packet (args.bind packet.format.pack) left =
      ((driver.packOne packet args broken).1, decide ((driver.packOne packet args broken).2 = .packed)) := by
  have kept : driver.setBuffer packet (driver.buffer packet) = driver := by
    simp only [setBuffer]
    congr
    funext other
    split
    · rename_i same
      rw [same]
    · rfl
  cases flag : driver.dirty packet with
  | false => simp [packInto, packOne, flag]
  | true =>
      cases args with
      | none => simp [packInto, packOne, flag, leaves, kept]
      | some args =>
          cases packed : packet.format.pack args with
          | none => simp [packInto, packOne, flag, leaves, packed]
          | some bytes => simp [packInto, packOne, flag, packed]

omit [PyNumber Value] in
theorem pack_one_pc (driver : HeadMcuDriver Value) (pc : FlushPc Value) (packet : Packet)
    (args : Option (List Struct.Arg)) (broken : Packet → List UInt8) :
    { driver with pc }.packOne packet args broken =
      ({ (driver.packOne packet args broken).1 with pc }, (driver.packOne packet args broken).2) := by
  cases flag : driver.dirty packet with
  | false => simp [packOne, flag]
  | true =>
      cases args with
      | none => simp [packOne, flag]
      | some args => cases packed : packet.format.pack args <;> simp [packOne, flag, packed, setBuffer]

omit [PyNumber Value] in
theorem send_call_pc (driver : HeadMcuDriver Value) (pc : FlushPc Value) (sends : Packet → SendOutcome) :
    { driver with pc }.sendCall sends = driver.sendCall sends := by
  have leds (sent : HeadMcuDriver Value) (motion : SendOutcome) :
      { sent with pc }.sendLeds motion (sends .leds) = sent.sendLeds motion (sends .leds) := by
    rw [sendLeds, sendLeds, send_one_pc]
    obtain ⟨last, ended⟩ := sent.sendOne .leds (sends .leds)
    cases ended <;> rfl
  rw [sendCall, sendCall, send_one_pc]
  obtain ⟨sent, outcome⟩ := driver.sendOne .motion (sends .motion)
  cases outcome with
  | raises => rfl
  | success => exact leds sent .success
  | failure => exact leds sent .failure

theorem pack_call_pc (driver : HeadMcuDriver Value) (pc : FlushPc Value) (neckLeft neckRight : Int) (serial : Serial) :
    { driver with pc }.packCall neckLeft neckRight serial = driver.packCall neckLeft neckRight serial := by
  rw [packCall, packCall, pack_one_pc]
  obtain ⟨packed, result⟩ := driver.packOne .motion (motionArgs driver.axes neckLeft neckRight) serial.broken
  cases result with
  | raised => rfl
  | structError => rfl
  | packed =>
      simp only [pack_one_pc]
      obtain ⟨last, ended⟩ := packed.packOne .leds (some (ledArgs packed.axes)) serial.broken
      cases ended with
      | raised => rfl
      | structError => rfl
      | packed => exact send_call_pc last pc serial.sends

-- The packing phase of a flush, and its sends.
theorem pack_call_runs (driver : HeadMcuDriver Value) (neckLeft neckRight : Int) (serial : Serial)
    (pc : driver.pc = .pack neckLeft neckRight) :
    Runs headDriver unwritten driver (driver.packCall neckLeft neckRight serial).1 := by
  have moved (left : Packet → List UInt8) : driver.advance .success left =
      some (driver.packPhase neckLeft neckRight left) := by
    simp only [advance, pc]
  have args := pack_motion_args driver.axes neckLeft neckRight
  have motion := pack_one_into driver .motion (motionArgs driver.axes neckLeft neckRight) serial.broken
    (driver.leftover (motionArgs driver.axes neckLeft neckRight) serial.broken) rfl
  refine (advance_runs driver _ _ _ (moved (driver.leftover (motionArgs driver.axes neckLeft neckRight) serial.broken))).trans ?_
  simp only [Packet.format] at motion
  rw [packPhase, packCall, args, motion]
  obtain ⟨packed, result⟩ := driver.packOne .motion (motionArgs driver.axes neckLeft neckRight) serial.broken
  cases result with
  | raised => exact .refl
  | structError => exact .refl
  | packed =>
      have leds := pack_one_into packed .leds (some (ledArgs packed.axes)) serial.broken
        (driver.leftover (motionArgs driver.axes neckLeft neckRight) serial.broken) rfl
      have same : (some (ledArgs packed.axes)).bind Packet.leds.format.pack = packLeds packed.axes := rfl
      rw [same] at leds
      simp only [decide_true, leds]
      obtain ⟨last, ended⟩ := packed.packOne .leds (some (ledArgs packed.axes)) serial.broken
      cases ended with
      | raised => exact .refl
      | structError => exact .refl
      | packed =>
          have sends := send_call_runs { last with pc := .test .motion } serial.sends rfl
          rw [send_call_pc] at sends
          exact sends

-- A call of flush that nothing writes into is a run of the flush's moves.
theorem flush_call_runs (driver : HeadMcuDriver Value) (serial : Serial) (idle : driver.pc = .idle) :
    Runs headDriver unwritten driver (driver.flushCall serial).1 := by
  have called : Runs headDriver unwritten driver driver.flush :=
    .single ⟨.flush, trivial, by simp only [headDriver, step, idle]⟩
  have advances (source target : HeadMcuDriver Value) := advance_runs source target .success driver.buffer
  refine called.trans ?_
  rw [flushCall]
  split
  · rename_i clean
    refine advances _ _ ?_
    simp [advance, flush, clean.1, clean.2]
  · rename_i unclean
    have reading : Runs headDriver unwritten driver.flush { driver.flush with pc := .readTilt } := by
      cases motion : driver.dirty .motion with
      | true =>
          have here : driver.flush.pc = .readTilt := by simp [flush, motion]
          rw [← here]
          exact .refl
      | false =>
          have leds : driver.dirty .leds = true := by simpa [motion] using unclean
          refine advances _ _ ?_
          simp [advance, flush, motion, leds]
    have tilt := advances { driver.flush with pc := .readTilt } _ rfl
    refine (reading.trans tilt).trans ?_
    cases left : neckLeftMot driver.axes.neckTilt driver.axes.neckPitch with
    | none =>
        refine advances _ _ ?_
        simp only [advance, flush, left]
        rfl
    | some neckLeft =>
        have again := advances { driver.flush with pc := .readPitch driver.axes.neckTilt }
          { driver.flush with pc := .readTiltAgain neckLeft } (by simp only [advance, flush, left])
        have tiltAgain := advances { driver.flush with pc := .readTiltAgain neckLeft } _ rfl
        refine (again.trans tiltAgain).trans ?_
        cases right : neckRightMot driver.axes.neckTilt driver.axes.neckPitch with
        | none =>
            refine advances _ _ ?_
            simp only [advance, flush, right]
            rfl
        | some neckRight =>
            have pitch := advances { driver.flush with pc := .readPitchAgain neckLeft driver.axes.neckTilt }
              { driver.flush with pc := .pack neckLeft neckRight } (by simp only [advance, flush, right])
            have packs := pack_call_runs { driver.flush with pc := .pack neckLeft neckRight } neckLeft neckRight serial rfl
            rw [pack_call_pc] at packs
            exact pitch.trans packs

end Refinement

-- The ids of the packets that were sent in between, the latest first.
def sentSince (after before : HeadMcuDriver Value) : List Nat :=
  (after.sent.take (after.sent.length - before.sent.length)).map Prod.fst

-- Flags fall for the packets that are sent, and only for them.
structure Lowered (after before : HeadMcuDriver Value) : Prop where
  axes : after.axes = before.axes
  dirty : ∀ packet, after.dirty packet = (before.dirty packet && !decide (packet.packId ∈ after.sentSince before))
  grown : ∃ new, after.sent = new ++ before.sent

section Lowering

variable (after before : HeadMcuDriver Value)

omit [PyNumber Value]

theorem sent_since (new : List (Nat × List UInt8)) (sent : after.sent = new ++ before.sent) :
    after.sentSince before = new.map Prod.fst := by
  rw [sentSince, sent, List.length_append, Nat.add_sub_cancel_right, List.take_left]

theorem unsent_lowered (axes : after.axes = before.axes) (dirty : after.dirty = before.dirty)
    (sent : after.sent = before.sent) : after.Lowered before := by
  refine ⟨axes, fun packet => ?_, [], sent⟩
  rw [sent_since after before [] sent, dirty]
  simp

theorem pack_one_lowered (driver : HeadMcuDriver Value) (packet : Packet) (args : Option (List Struct.Arg))
    (broken : Packet → List UInt8) : (driver.packOne packet args broken).1.Lowered driver := by
  cases flag : driver.dirty packet with
  | false => exact unsent_lowered _ _ (by simp [packOne, flag]) (by simp [packOne, flag]) (by simp [packOne, flag])
  | true =>
      cases args with
      | none => exact unsent_lowered _ _ (by simp [packOne, flag]) (by simp [packOne, flag]) (by simp [packOne, flag])
      | some args =>
          apply unsent_lowered <;> cases packed : packet.format.pack args <;> simp [packOne, flag, packed, setBuffer]

theorem send_one_lowered (driver : HeadMcuDriver Value) (packet : Packet) (outcome : SendOutcome) :
    (driver.sendOne packet outcome).1.Lowered driver := by
  cases flag : driver.dirty packet with
  | false => exact unsent_lowered _ _ (by simp [sendOne, flag]) (by simp [sendOne, flag]) (by simp [sendOne, flag])
  | true =>
      cases outcome with
      | success =>
          have sent : (driver.sendOne packet .success).1.sent = [(packet.packId, driver.buffer packet)] ++ driver.sent := by
            simp [sendOne, flag, setDirty]
          refine ⟨by simp [sendOne, flag, setDirty], fun other => ?_, _, sent⟩
          rw [sent_since _ driver _ sent]
          cases packet <;> cases other <;> simp [sendOne, flag, setDirty, Packet.packId, PACK_ID_MOTION, PACK_ID_LEDS]
      | failure => exact unsent_lowered _ _ (by simp [sendOne, flag]) (by simp [sendOne, flag]) (by simp [sendOne, flag])
      | raises => exact unsent_lowered _ _ (by simp [sendOne, flag]) (by simp [sendOne, flag]) (by simp [sendOne, flag])

theorem lowered_trans (between : HeadMcuDriver Value) (later : after.Lowered between) (sooner : between.Lowered before) :
    after.Lowered before := by
  obtain ⟨new, sent⟩ := later.grown
  obtain ⟨old, sentBefore⟩ := sooner.grown
  have sentAll : after.sent = (new ++ old) ++ before.sent := by rw [sent, sentBefore, List.append_assoc]
  refine ⟨later.axes.trans sooner.axes, fun packet => ?_, _, sentAll⟩
  rw [later.dirty, sooner.dirty, sent_since after before _ sentAll, sent_since after between new sent,
    sent_since between before old sentBefore, List.map_append, Bool.and_assoc]
  congr 1
  rw [Bool.and_comm]
  simp only [List.mem_append, Bool.decide_or, Bool.not_or]

theorem complete_lowered (lowered : after.Lowered before) : after.complete.Lowered before :=
  ⟨lowered.axes, lowered.dirty, lowered.grown⟩

theorem send_call_lowered (driver : HeadMcuDriver Value) (sends : Packet → SendOutcome) :
    (driver.sendCall sends).1.Lowered driver := by
  have motion := send_one_lowered driver .motion (sends .motion)
  rw [send_call_driver]
  split
  · exact complete_lowered _ _ motion
  · exact complete_lowered _ _ (lowered_trans _ _ _ (send_one_lowered _ .leds (sends .leds)) motion)

end Lowering

theorem pack_call_lowered (driver : HeadMcuDriver Value) (neckLeft neckRight : Int) (serial : Serial) :
    (driver.packCall neckLeft neckRight serial).1.Lowered driver := by
  have motion := pack_one_lowered driver .motion (motionArgs driver.axes neckLeft neckRight) serial.broken
  rw [packCall]
  revert motion
  obtain ⟨packed, result⟩ := driver.packOne .motion (motionArgs driver.axes neckLeft neckRight) serial.broken
  intro motion
  cases result with
  | raised => exact complete_lowered _ _ motion
  | structError => exact complete_lowered _ _ motion
  | packed =>
      have leds := pack_one_lowered packed .leds (some (ledArgs packed.axes)) serial.broken
      revert leds
      simp only
      obtain ⟨last, ended⟩ := packed.packOne .leds (some (ledArgs packed.axes)) serial.broken
      intro leds
      have both := lowered_trans _ _ _ leds motion
      cases ended with
      | raised => exact complete_lowered _ _ both
      | structError => exact complete_lowered _ _ both
      | packed => exact lowered_trans _ _ _ (send_call_lowered last serial.sends) both

theorem flush_call_lowered (driver : HeadMcuDriver Value) (serial : Serial) :
    (driver.flushCall serial).1.Lowered driver := by
  have called : driver.flush.Lowered driver := unsent_lowered _ _ rfl rfl rfl
  rw [flushCall]
  split
  · exact complete_lowered _ _ called
  · split
    · exact lowered_trans _ _ _ (pack_call_lowered driver.flush _ _ serial) called
    · exact complete_lowered _ _ called

end HeadMcuDriver

end Calls

namespace HeadMcuDriver

theorem both_packets (property : Packet → Prop) : (∀ packet, property packet) ↔ property .motion ∧ property .leds := by
  apply Iff.intro
  · exact fun all => ⟨all .motion, all .leds⟩
  · intro both packet
    cases packet with
    | motion => exact both.1
    | leds => exact both.2

theorem send_call_returns_iff (driver : HeadMcuDriver ℚ) (sends : Packet → SendOutcome) :
    (driver.sendCall sends).2 = .returned true ↔ ∀ packet, driver.dirty packet = true → sends packet = .success := by
  rw [both_packets]
  cases motion : driver.dirty .motion <;> cases leds : driver.dirty .leds <;> cases first : sends .motion <;>
    cases second : sends .leds <;> simp [sendCall, sendLeds, sendOne, motion, leds, first, second, setDirty]

theorem pack_one_iff (driver : HeadMcuDriver ℚ) (packet : Packet) (args : List Struct.Arg)
    (broken : Packet → List UInt8) :
    (driver.packOne packet (some args) broken).2 ≠ .raised ∧
      ((driver.packOne packet (some args) broken).2 = .packed ↔
        (driver.dirty packet = true → (packet.format.pack args).isSome = true)) := by
  cases flag : driver.dirty packet <;> cases packed : packet.format.pack args <;> simp [packOne, flag, packed]

-- Whatever is unsent can be packed and is sent.
def Sends (driver : HeadMcuDriver ℚ) (serial : Serial) : Prop :=
  ∀ packet, driver.dirty packet = true → (encode packet driver.axes).isSome = true ∧ serial.sends packet = .success

-- A packing phase that succeeds leaves the flags to the sends.
theorem pack_one_dirty (driver : HeadMcuDriver ℚ) (packet : Packet) (args : Option (List Struct.Arg))
    (broken : Packet → List UInt8) :
    (driver.packOne packet args broken).1.dirty = driver.dirty ∧ (driver.packOne packet args broken).1.axes = driver.axes := by
  cases flag : driver.dirty packet with
  | false => simp [packOne, flag]
  | true =>
      cases args with
      | none => simp [packOne, flag]
      | some args => cases packed : packet.format.pack args <;> simp [packOne, flag, packed, setBuffer]

theorem encode_motion_args (axes : Axes ℚ) : ∃ args, motionArgs axes (neckLeft axes) (neckRight axes) = some args ∧
    encode .motion axes = Packet.motion.format.pack args := by
  obtain ⟨left, right⟩ := neck_mot axes
  refine ⟨_, rfl, ?_⟩
  simp only [encode, left, right, pack_motion_args]
  rfl

theorem pack_call_returns_iff (driver : HeadMcuDriver ℚ) (serial : Serial) :
    (driver.packCall (neckLeft driver.axes) (neckRight driver.axes) serial).2 = .returned true ↔
      driver.Sends serial := by
  obtain ⟨args, numbers, encoded⟩ := encode_motion_args driver.axes
  obtain ⟨sound, packs⟩ := pack_one_iff driver .motion args serial.broken
  obtain ⟨dirty, axes⟩ := pack_one_dirty driver .motion (some args) serial.broken
  rw [packCall, numbers, Sends, both_packets, encoded]
  revert sound packs dirty axes
  obtain ⟨packed, result⟩ := driver.packOne .motion (some args) serial.broken
  intro sound packs dirty axes
  cases result with
  | raised => exact absurd rfl sound
  | structError =>
      apply iff_of_false
      · simp
      · intro sends
        exact absurd (packs.mpr fun unsent => (sends.1 unsent).1) (by simp)
  | packed =>
      have motionPacks := packs.mp rfl
      obtain ⟨ledSound, ledPacks⟩ := pack_one_iff packed .leds (ledArgs packed.axes) serial.broken
      obtain ⟨ledDirty, ledAxes⟩ := pack_one_dirty packed .leds (some (ledArgs packed.axes)) serial.broken
      simp only
      revert ledSound ledPacks ledDirty ledAxes
      obtain ⟨last, ended⟩ := packed.packOne .leds (some (ledArgs packed.axes)) serial.broken
      intro ledSound ledPacks ledDirty ledAxes
      rw [dirty, axes] at ledPacks
      cases ended with
      | raised => exact absurd rfl ledSound
      | structError =>
          apply iff_of_false
          · simp
          · intro sends
            exact absurd (ledPacks.mpr fun unsent => (sends.2 unsent).1) (by simp)
      | packed =>
          have ledsPack := ledPacks.mp rfl
          simp only
          rw [send_call_returns_iff, ledDirty, dirty, both_packets]
          apply Iff.intro
          · intro sent
            exact ⟨fun unsent => ⟨motionPacks unsent, sent.1 unsent⟩, fun unsent => ⟨ledsPack unsent, sent.2 unsent⟩⟩
          · intro sends
            exact ⟨fun unsent => (sends.1 unsent).2, fun unsent => (sends.2 unsent).2⟩

theorem flush_returns_iff (driver : HeadMcuDriver ℚ) (serial : Serial) :
    (driver.flushCall serial).2 = .returned true ↔ (∃ packet, driver.dirty packet = true) ∧ driver.Sends serial := by
  obtain ⟨left, right⟩ := neck_mot driver.axes
  rw [flushCall]
  split
  · rename_i clean
    have none : ¬ ∃ packet, driver.dirty packet = true := by
      rw [not_exists, both_packets]
      exact ⟨Bool.eq_false_iff.mp clean.1, Bool.eq_false_iff.mp clean.2⟩
    simp [none]
  · rename_i unclean
    have some : ∃ packet, driver.dirty packet = true := by
      by_contra none
      rw [not_exists, both_packets] at none
      exact unclean ⟨Bool.eq_false_iff.mpr none.1, Bool.eq_false_iff.mpr none.2⟩
    simp only [left, right, some, true_and]
    exact pack_call_returns_iff driver.flush serial

end HeadMcuDriver

end Animacharacter.Mcudrivers
