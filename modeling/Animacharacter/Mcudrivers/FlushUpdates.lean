import Mathlib.Algebra.Order.Ring.Rat
import Animacharacter.Library.StepSystem
import Animacharacter.Mcudrivers.HeadDriver

set_option autoImplicit false

namespace Animacharacter.Mcudrivers

open PyNumber StepSystem

variable {Value : Type} [PyNumber Value]

-- The packet that shows the values of the axes, if they can be packed.
def encode (packet : Packet) (axes : Axes Value) : Option (List UInt8) :=
  match packet with
  | .motion =>
      match neckLeftMot axes.neckTilt axes.neckPitch, neckRightMot axes.neckTilt axes.neckPitch with
      | some neckLeft, some neckRight => packMotion axes neckLeft neckRight
      | _, _ => none
  | .leds => packLeds axes

def axesOf (writes : List (Axis × Value)) : Axes Value :=
  writes.foldl (fun axes write => (axes.writeAxis write.1 write.2).getD axes) .init

namespace FlushPc

-- Between packing a packet and the end of what is done about its flag.
def packed (pc : FlushPc Value) (packet : Packet) : Bool :=
  match pc with
  | .test .motion | .send .motion | .clear .motion => true
  | .test .leds | .send .leds | .clear .leds => packet = .leds
  | _ => false

def sending (pc : FlushPc Value) (packet : Packet) : Bool :=
  match pc with
  | .send current | .clear current => current = packet
  | _ => false

def clearing (pc : FlushPc Value) (packet : Packet) : Bool :=
  match pc with
  | .clear current => current = packet
  | _ => false

-- The flush has found the motion packet clean, or sent it.
def pastMotion : FlushPc Value → Bool
  | .testLeds | .test .leds | .send .leds | .clear .leds => true
  | _ => false

-- Nothing is promised about the buffers and flags here.
def calm (pc : FlushPc Value) : Bool :=
  match pc with
  | .testLeds | .test _ | .send _ | .clear _ => false
  | _ => true

end FlushPc

namespace HeadMcuDriver

def lastSent (driver : HeadMcuDriver Value) (packet : Packet) : Option (List UInt8) :=
  (driver.sent.find? fun sent => sent.1 = packet.packId).map Prod.snd

-- If an axis of the packet has been written, the last one sent shows all their values.
def Shown (driver : HeadMcuDriver Value) (packet : Packet) : Prop :=
  (∃ write ∈ driver.writes, write.1.packet = packet) →
    ∃ bytes, encode packet (axesOf driver.writes) = some bytes ∧ driver.lastSent packet = some bytes

def Delivered (driver : HeadMcuDriver Value) : Prop := driver.flushed = true → ∀ packet, driver.Shown packet

def sendsSucceed (_driver : HeadMcuDriver Value) : DriverAction Value → Prop
  | .advance outcome _ => outcome = .success
  | .write _ _ | .flush => True

-- What the next move of the flush must find: packing does not fail in a flush
-- called after the last write, and the neck values that were read before the lock
-- still give the packet of the axes under it.
def packsCurrent (driver : HeadMcuDriver Value) : FlushPc Value → Prop
  | .readPitch neckTilt => neckLeftMot neckTilt driver.axes.neckPitch = none → driver.begunSince = false
  | .readPitchAgain _ neckTilt => neckRightMot neckTilt driver.axes.neckPitch = none → driver.begunSince = false
  | .pack neckLeft neckRight =>
      (driver.dirty .motion = true → (packMotion driver.axes neckLeft neckRight = none → driver.begunSince = false) ∧
        ∀ bytes ∈ packMotion driver.axes neckLeft neckRight, encode .motion driver.axes = some bytes) ∧
      (driver.dirty .leds = true → packLeds driver.axes = none → driver.begunSince = false)
  | _ => True

-- A write between the packing of a packet and the clearing of its flag must leave
-- the packet in the buffer up to date.
def undisturbed (driver : HeadMcuDriver Value) : DriverAction Value → Prop
  | .write axis val =>
      ∀ axes ∈ driver.axes.writeAxis axis val, driver.pc.packed axis.packet = true →
        encode axis.packet axes = some (driver.buffer axis.packet)
  | .flush => True
  | .advance _ _ => driver.packsCurrent driver.pc

def undisturbedSuccess (driver : HeadMcuDriver Value) (action : DriverAction Value) : Prop :=
  driver.sendsSucceed action ∧ driver.undisturbed action

end HeadMcuDriver

def headDriver : System (HeadMcuDriver Value) (DriverAction Value) where
  start driver := driver = .init
  step := HeadMcuDriver.step

namespace HeadMcuDriver

structure Tracked (driver : HeadMcuDriver Value) : Prop where
  axes : driver.axes = axesOf driver.writes
  clean : ∀ packet, driver.dirty packet = false → driver.Shown packet
  packed : ∀ packet, driver.pc.packed packet = true → driver.dirty packet = true →
    encode packet driver.axes = some (driver.buffer packet)
  sending : ∀ packet, driver.pc.sending packet = true → driver.dirty packet = true
  sent : ∀ packet, driver.pc.clearing packet = true → driver.lastSent packet = some (driver.buffer packet)
  fresh : driver.begunSince = true → driver.pc.pastMotion = true → driver.dirty .motion = false
  finished : driver.flushed = true → ∀ packet, driver.dirty packet = false

omit [PyNumber Value] in
theorem calm_promises (pc : FlushPc Value) (calm : pc.calm = true) :
    (∀ packet, pc.packed packet = false) ∧ (∀ packet, pc.sending packet = false) ∧
      (∀ packet, pc.clearing packet = false) ∧ pc.pastMotion = false := by
  cases pc <;> first | exact ⟨fun _ => rfl, fun _ => rfl, fun _ => rfl, rfl⟩ | cases calm

theorem tracked_calm (driver : HeadMcuDriver Value) (pc : FlushPc Value) (calm : pc.calm = true)
    (inv : driver.Tracked) : Tracked { driver with pc := pc } := by
  obtain ⟨packed, sending, clearing, past⟩ := calm_promises pc calm
  refine ⟨inv.axes, inv.clean, ?_, ?_, ?_, ?_, inv.finished⟩
  · intro packet held
    rw [packed packet] at held
    cases held
  · intro packet held
    rw [sending packet] at held
    cases held
  · intro packet held
    rw [clearing packet] at held
    cases held
  · intro _ held
    rw [past] at held
    cases held

theorem tracked_complete (driver : HeadMcuDriver Value) (inv : driver.Tracked)
    (clean : driver.begunSince = true → ∀ packet, driver.dirty packet = false) : driver.complete.Tracked := by
  have rest := tracked_calm driver .idle rfl inv
  refine ⟨rest.axes, rest.clean, rest.packed, rest.sending, rest.sent, rest.fresh, fun flushed => ?_⟩
  rcases Bool.or_eq_true_iff.mp flushed with before | now
  · exact inv.finished before
  · exact clean now

theorem encode_other (axes after : Axes Value) (axis : Axis) (val : Value) (packet : Packet)
    (written : axes.writeAxis axis val = some after) (other : axis.packet ≠ packet) : encode packet after = encode packet axes := by
  cases axis <;> cases packet <;> first | exact absurd rfl other | skip
  all_goals
    simp only [Axes.writeAxis, Option.map_eq_some_iff, Option.some.injEq] at written
  all_goals first
    | (subst written; rfl)
    | (obtain ⟨duty, _, rfl⟩ := written; rfl)

theorem axes_of_snoc (writes : List (Axis × Value)) (axis : Axis) (val : Value) (after : Axes Value)
    (written : (axesOf writes).writeAxis axis val = some after) : axesOf (writes ++ [(axis, val)]) = after := by
  rw [axesOf, List.foldl_append, List.foldl_cons, List.foldl_nil, ← axesOf, written, Option.getD_some]

theorem write_tracked (driver : HeadMcuDriver Value) (axis : Axis) (val : Value) (inv : driver.Tracked)
    (undisturbed : driver.undisturbed (.write axis val)) : (driver.write axis val).Tracked := by
  unfold write
  split
  · exact inv
  · rename_i after written
    have track : axesOf (driver.writes ++ [(axis, val)]) = after := axes_of_snoc driver.writes axis val after (inv.axes ▸ written)
    refine ⟨track.symm, ?_, ?_, ?_, inv.sent, ?_, ?_⟩
    · intro packet clean
      simp only [setDirty] at clean
      split at clean
      · cases clean
      · rename_i distinct
        intro some_written
        obtain ⟨write, member, same⟩ := some_written
        have earlier : write ∈ driver.writes := by
          rcases List.mem_append.mp member with old | new
          · exact old
          · rw [List.mem_singleton.mp new] at same
            exact absurd same.symm distinct
        obtain ⟨bytes, encoded, last⟩ := inv.clean packet clean ⟨write, earlier, same⟩
        refine ⟨bytes, ?_, last⟩
        refine (congrArg (encode packet) track).trans ?_
        rw [encode_other driver.axes after axis val packet written (Ne.symm distinct), inv.axes]
        exact encoded
    · intro packet held dirty
      simp only [setDirty] at dirty
      split at dirty
      · rename_i same
        subst same
        exact undisturbed after written held
      · rename_i distinct
        refine (encode_other driver.axes after axis val packet written (Ne.symm distinct)).trans ?_
        exact inv.packed packet held dirty
    · intro packet held
      simp only [setDirty]
      split
      · rfl
      · exact inv.sending packet held
    · intro begun
      cases begun
    · intro flushed
      cases flushed

theorem flush_tracked (driver : HeadMcuDriver Value) (inv : driver.Tracked) : driver.flush.Tracked := by
  cases dirty : driver.dirty .motion with
  | true =>
      have after := tracked_calm driver .readTilt rfl inv
      simp only [flush, dirty, if_true]
      refine ⟨after.axes, after.clean, after.packed, after.sending, after.sent, ?_, after.finished⟩
      intro _ past
      cases past
  | false =>
      simp only [flush, dirty]
      refine ⟨inv.axes, inv.clean, ?_, ?_, ?_, ?_, inv.finished⟩
      · intro packet held
        cases held
      · intro packet held
        cases held
      · intro packet held
        cases held
      · intro _ _
        exact dirty

theorem tracked_packed (driver : HeadMcuDriver Value) (inv : driver.Tracked)
    (packed : ∀ packet, driver.dirty packet = true → encode packet driver.axes = some (driver.buffer packet)) :
    Tracked { driver with pc := .test .motion } := by
  refine ⟨inv.axes, inv.clean, fun packet _ => packed packet, ?_, ?_, ?_, inv.finished⟩
  · intro packet held
    cases held
  · intro packet held
    cases held
  · intro _ past
    cases past

theorem tracked_buffer (driver : HeadMcuDriver Value) (buffer : Packet → List UInt8) (calm : driver.pc.calm = true)
    (inv : driver.Tracked) : Tracked { driver with buffer := buffer } := by
  obtain ⟨packed, _, clearing, _⟩ := calm_promises driver.pc calm
  refine ⟨inv.axes, inv.clean, ?_, inv.sending, ?_, inv.fresh, inv.finished⟩
  · intro packet held
    rw [packed packet] at held
    cases held
  · intro packet held
    rw [clearing packet] at held
    cases held

-- Packing one packet fails only if it is dirty; else it is in its buffer if it is dirty.
inductive PackedInto (driver : HeadMcuDriver Value) (packet : Packet) (packed : Option (List UInt8))
    (result : HeadMcuDriver Value × Bool) : Prop where
  | failed (buffer : Packet → List UInt8) (dirty : driver.dirty packet = true) (raised : packed = none)
      (outcome : result = ({ driver with buffer := buffer }, false))
  | ready (buffer : Packet → List UInt8) (others : ∀ other, other ≠ packet → buffer other = driver.buffer other)
      (current : driver.dirty packet = true → packed = some (buffer packet))
      (outcome : result = ({ driver with buffer := buffer }, true))

omit [PyNumber Value] in
theorem pack_into_cases (driver : HeadMcuDriver Value) (packet : Packet) (packed : Option (List UInt8))
    (broken : Packet → List UInt8) : PackedInto driver packet packed (driver.packInto packet packed broken) := by
  unfold packInto
  split
  · rename_i dirty
    cases packed with
    | none => exact .failed _ dirty rfl rfl
    | some bytes =>
        refine .ready _ (fun other distinct => ?_) (fun _ => ?_) rfl
        · simp only [if_neg distinct]
        · simp only [if_true]
  · rename_i clean
    exact .ready driver.buffer (fun _ _ => rfl) (fun dirty => absurd dirty clean) rfl

structure PackUndisturbed (driver : HeadMcuDriver Value) (neckLeft neckRight : Int) : Prop where
  motion : driver.dirty .motion = true → packMotion driver.axes neckLeft neckRight = none → driver.begunSince = false
  current : driver.dirty .motion = true → ∀ bytes ∈ packMotion driver.axes neckLeft neckRight,
    encode .motion driver.axes = some bytes
  leds : driver.dirty .leds = true → packLeds driver.axes = none → driver.begunSince = false

theorem pack_tracked (driver : HeadMcuDriver Value) (neckLeft neckRight : Int) (broken : Packet → List UInt8)
    (inv : driver.Tracked) (calm : driver.pc.calm = true) (undisturbed : driver.PackUndisturbed neckLeft neckRight) :
    (driver.packPhase neckLeft neckRight broken).Tracked := by
  have failed (buffer : Packet → List UInt8) (stale : driver.begunSince = false) :
      (HeadMcuDriver.complete { driver with buffer := buffer }).Tracked := by
    refine tracked_complete _ (tracked_buffer driver buffer calm inv) fun begun => ?_
    rw [show driver.begunSince = true from begun] at stale
    cases stale
  unfold packPhase
  cases pack_into_cases driver .motion (packMotion driver.axes neckLeft neckRight) broken with
  | failed buffer dirty raised outcome =>
      rw [outcome]
      exact failed buffer (undisturbed.motion dirty raised)
  | ready buffer _ motion outcome =>
      rw [outcome]
      simp only
      cases pack_into_cases { driver with buffer := buffer } .leds (packLeds driver.axes) broken with
      | failed after dirty raised outcome =>
          rw [outcome]
          exact failed after (undisturbed.leds dirty raised)
      | ready after others leds outcome =>
          rw [outcome]
          refine tracked_packed _ (tracked_buffer driver after calm inv) fun packet dirty => ?_
          cases packet with
          | motion =>
              refine undisturbed.current dirty (after .motion) ?_
              rw [others .motion (by decide)]
              exact motion dirty
          | leds => exact leds dirty

-- The flush is done with a packet, whose flag is clear, and goes on.
theorem next_tracked (driver : HeadMcuDriver Value) (packet : Packet) (axes : driver.axes = axesOf driver.writes)
    (clean : ∀ other, driver.dirty other = false → driver.Shown other) (handled : driver.dirty packet = false)
    (leds : packet = .motion → driver.dirty .leds = true → encode .leds driver.axes = some (driver.buffer .leds))
    (motion : packet = .leds → driver.begunSince = true → driver.dirty .motion = false)
    (finished : driver.flushed = true → ∀ other, driver.dirty other = false) : (driver.nextPacket packet).Tracked := by
  cases packet with
  | motion =>
      refine ⟨axes, clean, ?_, ?_, ?_, fun _ _ => handled, finished⟩
      · intro other held
        cases of_decide_eq_true held
        exact leds rfl
      · intro other held
        cases held
      · intro other held
        cases held
  | leds =>
      refine ⟨axes, clean, ?_, ?_, ?_, ?_, fun flushed => ?_⟩
      · intro other held
        cases held
      · intro other held
        cases held
      · intro other held
        cases held
      · intro _ held
        cases held
      · rcases Bool.or_eq_true_iff.mp flushed with before | begun
        · exact finished before
        · intro other
          cases other with
          | motion => exact motion rfl begun
          | leds => exact handled

theorem test_tracked (driver : HeadMcuDriver Value) (packet : Packet) (inv : driver.Tracked)
    (here : driver.pc = .test packet) :
    Tracked (if driver.dirty packet then { driver with pc := .send packet } else driver.nextPacket packet) := by
  split
  · rename_i dirty
    refine ⟨inv.axes, inv.clean, ?_, ?_, ?_, ?_, inv.finished⟩
    · intro other held
      refine inv.packed other ?_
      rw [here]
      cases packet <;> exact held
    · intro other held
      cases of_decide_eq_true held
      exact dirty
    · intro other held
      cases held
    · intro begun past
      refine inv.fresh begun ?_
      rw [here]
      cases packet <;> exact past
  · rename_i clean
    refine next_tracked driver packet inv.axes inv.clean (Bool.eq_false_iff.mpr clean) ?_ ?_ inv.finished
    · rintro rfl
      exact inv.packed .leds (by rw [here]; rfl)
    · rintro rfl begun
      exact inv.fresh begun (by rw [here]; rfl)

theorem send_tracked (driver : HeadMcuDriver Value) (packet : Packet) (inv : driver.Tracked)
    (here : driver.pc = .send packet) :
    Tracked { driver with
      sent := (packet.packId, driver.buffer packet) :: driver.sent
      pc := .clear packet } := by
  have dirty : driver.dirty packet = true := inv.sending packet (by rw [here]; exact decide_eq_true rfl)
  refine ⟨inv.axes, ?_, ?_, ?_, ?_, ?_, inv.finished⟩
  · intro other clean written
    have distinct : other ≠ packet := by
      rintro rfl
      rw [show driver.dirty other = false from clean] at dirty
      cases dirty
    have ids : packet.packId ≠ other.packId := by
      cases packet <;> cases other <;> first | exact absurd rfl distinct | decide
    obtain ⟨bytes, encoded, last⟩ := inv.clean other clean written
    refine ⟨bytes, encoded, ?_⟩
    simpa [lastSent, List.find?_cons, ids] using last
  · intro other held
    refine inv.packed other ?_
    rw [here]
    cases packet <;> exact held
  · intro other held
    cases of_decide_eq_true held
    exact dirty
  · intro other held
    cases of_decide_eq_true held
    simp [lastSent]
  · intro begun past
    refine inv.fresh begun ?_
    rw [here]
    cases packet <;> exact past

theorem clear_tracked (driver : HeadMcuDriver Value) (packet : Packet) (inv : driver.Tracked)
    (here : driver.pc = .clear packet) : ((driver.setDirty packet false).nextPacket packet).Tracked := by
  have self : decide (packet = packet) = true := decide_eq_true rfl
  have dirty : driver.dirty packet = true := inv.sending packet (by rw [here]; exact self)
  have last : driver.lastSent packet = some (driver.buffer packet) := inv.sent packet (by rw [here]; exact self)
  have shown : encode packet driver.axes = some (driver.buffer packet) :=
    inv.packed packet (by rw [here]; cases packet <;> rfl) dirty
  refine next_tracked _ packet inv.axes ?_ ?_ ?_ ?_ ?_
  · intro other clean written
    by_cases same : other = packet
    · subst same
      exact ⟨_, inv.axes ▸ shown, last⟩
    · simp only [setDirty, if_neg same] at clean
      exact inv.clean other clean written
  · simp only [setDirty, if_true]
  · rintro rfl dirtyLeds
    exact inv.packed .leds (by rw [here]; rfl) dirtyLeds
  · rintro rfl begun
    exact inv.fresh begun (by rw [here]; rfl)
  · intro flushed
    rw [inv.finished flushed packet] at dirty
    cases dirty

-- int() of a neck motor's position: it raises, or the flush goes on with it.
theorem neck_tracked (driver next : HeadMcuDriver Value) (motor : Option Int) (place : Int → FlushPc Value)
    (calm : ∀ position, (place position).calm = true) (inv : driver.Tracked)
    (moved : (match motor with
      | none => some driver.complete
      | some position => some { driver with pc := place position }) = some next)
    (stale : motor = none → driver.begunSince = false) : next.Tracked := by
  cases motor with
  | none =>
      cases Option.some.inj moved
      refine tracked_complete driver inv fun begun => ?_
      rw [stale rfl] at begun
      cases begun
  | some position =>
      cases Option.some.inj moved
      exact tracked_calm driver (place position) (calm position) inv

theorem advance_tracked (driver next : HeadMcuDriver Value) (broken : Packet → List UInt8) (inv : driver.Tracked)
    (undisturbed : driver.undisturbed (.advance .success broken)) (moved : driver.advance .success broken = some next) :
    next.Tracked := by
  unfold advance at moved
  cases here : driver.pc with
  | idle =>
      rw [here] at moved
      cases moved
  | testLeds =>
      rw [here] at moved
      cases Option.some.inj moved
      split
      · exact tracked_calm driver .readTilt rfl inv
      · rename_i clean
        refine tracked_complete driver inv fun begun packet => ?_
        cases packet with
        | motion => exact inv.fresh begun (by rw [here]; rfl)
        | leds => exact Bool.eq_false_iff.mpr clean
  | readTilt =>
      rw [here] at moved
      cases Option.some.inj moved
      exact tracked_calm driver _ rfl inv
  | readPitch neckTilt =>
      simp only [HeadMcuDriver.undisturbed, here, packsCurrent] at undisturbed
      simp only [here] at moved
      exact neck_tracked driver next _ .readTiltAgain (fun _ => rfl) inv moved undisturbed
  | readTiltAgain neckLeft =>
      rw [here] at moved
      cases Option.some.inj moved
      exact tracked_calm driver _ rfl inv
  | readPitchAgain neckLeft neckTilt =>
      simp only [HeadMcuDriver.undisturbed, here, packsCurrent] at undisturbed
      simp only [here] at moved
      exact neck_tracked driver next _ (.pack neckLeft) (fun _ => rfl) inv moved undisturbed
  | pack neckLeft neckRight =>
      simp only [HeadMcuDriver.undisturbed, here, packsCurrent] at undisturbed
      rw [here] at moved
      cases Option.some.inj moved
      exact pack_tracked driver neckLeft neckRight broken inv (by rw [here]; rfl)
        ⟨fun dirty => (undisturbed.1 dirty).1, fun dirty => (undisturbed.1 dirty).2, undisturbed.2⟩
  | test packet =>
      rw [here] at moved
      cases Option.some.inj moved
      exact test_tracked driver packet inv here
  | send packet =>
      rw [here] at moved
      cases Option.some.inj moved
      exact send_tracked driver packet inv here
  | clear packet =>
      rw [here] at moved
      cases Option.some.inj moved
      exact clear_tracked driver packet inv here

theorem init_tracked : Tracked (init : HeadMcuDriver Value) := by
  refine ⟨rfl, ?_, ?_, ?_, ?_, ?_, ?_⟩
  · rintro packet _ ⟨write, member, _⟩
    cases member
  · intro packet held
    cases held
  · intro packet held
    cases held
  · intro packet held
    cases held
  · intro begun
    cases begun
  · intro flushed
    cases flushed

theorem reached_tracked (driver : HeadMcuDriver Value) (reached : Reached headDriver undisturbedSuccess driver) :
    driver.Tracked := by
  apply reached_invariant headDriver undisturbedSuccess Tracked _ _ driver reached
  · rintro initial rfl
    exact init_tracked
  · rintro source action target inv ⟨succeeds, quiet⟩ moved
    cases action with
    | write axis val =>
        cases Option.some.inj moved
        exact write_tracked source axis val inv quiet
    | flush =>
        cases here : source.pc with
        | idle =>
            simp only [headDriver, step, here] at moved
            cases Option.some.inj moved
            exact flush_tracked source inv
        | _ =>
            simp only [headDriver, step, here] at moved
            cases moved
    | advance outcome broken =>
        cases succeeds
        exact advance_tracked source target broken inv quiet moved

theorem flush_delivers (driver : HeadMcuDriver Value) (reached : Reached headDriver undisturbedSuccess driver) :
    driver.Delivered := by
  intro flushed packet
  have inv := reached_tracked driver reached
  exact inv.clean packet (inv.finished flushed packet)

instance : PyNumber ℚ where
  ofInt number := number
  half := 1 / 2
  add := (· + ·)
  sub := (· - ·)
  mul := (· * ·)
  lt left right := left < right
  int value := some (value.num.tdiv value.den)
  bool value := value ≠ 0

instance (driver : HeadMcuDriver ℚ) : (pc : FlushPc ℚ) → Decidable (driver.packsCurrent pc)
  | .readPitch _ | .readPitchAgain _ _ => inferInstanceAs (Decidable (_ → _))
  | .pack _ _ => inferInstanceAs (Decidable ((_ → (_ → _) ∧ ∀ _ ∈ _, _) ∧ (_ → _ → _)))
  | .idle | .testLeds | .readTilt | .readTiltAgain _ | .test _ | .send _ | .clear _ => inferInstanceAs (Decidable True)

instance (driver : HeadMcuDriver ℚ) : (action : DriverAction ℚ) → Decidable (driver.undisturbed action)
  | .write _ _ => inferInstanceAs (Decidable (∀ _ ∈ _, _ → _))
  | .flush => inferInstanceAs (Decidable True)
  | .advance _ _ => inferInstanceAs (Decidable (driver.packsCurrent driver.pc))

instance (driver : HeadMcuDriver ℚ) : (action : DriverAction ℚ) → Decidable (driver.sendsSucceed action)
  | .write _ _ | .flush => inferInstanceAs (Decidable True)
  | .advance outcome _ => inferInstanceAs (Decidable (outcome = .success))

instance (driver : HeadMcuDriver ℚ) (action : DriverAction ℚ) : Decidable (driver.undisturbedSuccess action) :=
  inferInstanceAs (Decidable (_ ∧ _))

def moves (count : Nat) : List (DriverAction ℚ) := List.replicate count (.advance .success fun _ => [])

-- An LED is written while a flush reads the neck; the next flush finds nothing to do.
def ledDuringFlush : List (DriverAction ℚ) :=
  [.write .MOUTH (1 / 2), .flush] ++ moves 2 ++ [.write .LED_R 1] ++ moves 9 ++ [.flush] ++ moves 1

theorem flush_delivers_led_during_flush : ∃ driver : HeadMcuDriver ℚ,
    (driver.flushed = true ∧ driver.sent = [(PACK_ID_LEDS, [1, 0, 0, 0, 0, 0, 0, 0, 0, 0]),
      (PACK_ID_MOTION, [127, 0, 0, 20, 20, 0, 0, 0, 0, 0, 0, 150, 0, 14, 1])]) ∧ driver.Delivered := by
  obtain ⟨driver, reached, ends⟩ := replay_exists headDriver undisturbedSuccess ledDuringFlush .init
    (fun driver : HeadMcuDriver ℚ =>
      driver.flushed = true ∧ driver.sent = [(PACK_ID_LEDS, [1, 0, 0, 0, 0, 0, 0, 0, 0, 0]),
        (PACK_ID_MOTION, [127, 0, 0, 20, 20, 0, 0, 0, 0, 0, 0, 150, 0, 14, 1])])
    rfl (by decide +kernel)
  exact ⟨driver, ends, flush_delivers driver reached⟩

-- The mouth is written again after the motion packet has been packed.
def mouthAfterPacking : List (DriverAction ℚ) :=
  [.write .MOUTH (1 / 2), .flush] ++ moves 5 ++ [.write .MOUTH (1 / 4)] ++ moves 4 ++ [.flush] ++ moves 1

def earBack : List (DriverAction ℚ) := [.write .EAR_L (-1), .flush] ++ moves 5

theorem not_delivered (driver : HeadMcuDriver ℚ) (packet : Packet) (flushed : driver.flushed = true)
    (written : driver.writes.any (fun write => write.1.packet = packet) = true)
    (hidden : encode packet (axesOf driver.writes) = none ∨ driver.lastSent packet ≠ encode packet (axesOf driver.writes)) :
    ¬ driver.Delivered := by
  intro delivered
  obtain ⟨write, member, same⟩ := List.any_eq_true.mp written
  obtain ⟨bytes, encoded, last⟩ := delivered flushed packet ⟨write, member, of_decide_eq_true same⟩
  rcases hidden with fails | differs
  · rw [fails] at encoded
    cases encoded
  · exact differs (last.trans encoded.symm)

-- The second write of the mouth is lost; an ear that points back is never sent.
theorem update_lost :
    (∃ driver : HeadMcuDriver ℚ, Reached headDriver sendsSucceed driver ∧
      driver.writes = [(.MOUTH, 1 / 2), (.MOUTH, 1 / 4)] ∧
      driver.sent = [(PACK_ID_MOTION, [127, 0, 0, 20, 20, 0, 0, 0, 0, 0, 0, 150, 0, 14, 1])] ∧ ¬ driver.Delivered) ∧
    ∃ driver : HeadMcuDriver ℚ, Reached headDriver sendsSucceed driver ∧ driver.writes = [(.EAR_L, -1)] ∧
      driver.sent = [] ∧ ¬ driver.Delivered := by
  constructor
  · obtain ⟨driver, reached, writes, sent, flushed, written, differs⟩ := replay_exists headDriver sendsSucceed
      mouthAfterPacking .init
      (fun driver : HeadMcuDriver ℚ => driver.writes = [(.MOUTH, 1 / 2), (.MOUTH, 1 / 4)] ∧
        driver.sent = [(PACK_ID_MOTION, [127, 0, 0, 20, 20, 0, 0, 0, 0, 0, 0, 150, 0, 14, 1])] ∧
        driver.flushed = true ∧ driver.writes.any (fun write => write.1.packet = .motion) = true ∧
        driver.lastSent .motion ≠ encode .motion (axesOf driver.writes))
      rfl (by decide +kernel)
    exact ⟨driver, reached, writes, sent, not_delivered driver .motion flushed written (.inr differs)⟩
  · obtain ⟨driver, reached, writes, sent, flushed, written, fails⟩ := replay_exists headDriver sendsSucceed earBack .init
      (fun driver : HeadMcuDriver ℚ => driver.writes = [(.EAR_L, -1)] ∧ driver.sent = [] ∧ driver.flushed = true ∧
        driver.writes.any (fun write => write.1.packet = .motion) = true ∧
        encode .motion (axesOf driver.writes) = none)
      rfl (by decide +kernel)
    exact ⟨driver, reached, writes, sent, not_delivered driver .motion flushed written (.inl fails)⟩

end HeadMcuDriver

end Animacharacter.Mcudrivers
