import Animacharacter.Firmware.BodyHandshake
import Animacharacter.Firmware.BodySteppers
import Animacharacter.Library.Struct

set_option autoImplicit false

namespace Animacharacter.Firmware

open StepSystem Struct

-- The driver's right_mot, left_mot and rotation_mot.
structure Motion where
  right : Int
  left : Int
  rotation : Int
deriving DecidableEq

def bodyPacker : Format := ⟨false, .little, [.h, .h, .h]⟩

def Motion.pack (motion : Motion) : Option (List UInt8) :=
  bodyPacker.pack [.int motion.right, .int motion.left, .int motion.rotation]

-- A field of the packed struct as the board's little-endian processor reads it.
def int16At (bytes : List UInt8) (place : Nat) : Int16 :=
  Int16.ofNat ((bytes.getD place 0).toNat + 256 * (bytes.getD (place + 1) 0).toNat)

def recvPacket (bytes : List UInt8) : BodyMotionVars := ⟨int16At bytes 0, int16At bytes 2, int16At bytes 4⟩

def BodyMotionVars.motion (vars : BodyMotionVars) : Motion := ⟨vars.stpR.toInt, vars.stpL.toInt, vars.motRot.toInt⟩

theorem short_read (value : Int) (low : -2 ^ 15 ≤ value) (high : value < 2 ^ 15) (field : Nat)
    (packed : field = (value % 2 ^ 16).toNat) :
    (Int16.ofNat ((UInt8.ofNat field).toNat + 256 * (UInt8.ofNat (field / 256)).toNat)).toInt = value := by
  have whole : (UInt8.ofNat field).toNat + 256 * (UInt8.ofNat (field / 256)).toNat = field := by
    rw [UInt8.toNat_ofNat', UInt8.toNat_ofNat']
    omega
  have size : Int16.size = 65536 := rfl
  rw [whole, Int16.toInt_ofNat', Int.bmod_def, size]
  split <;> omega

theorem short_bytes (value : Int) (field : List UInt8) (packed : packField .little .h (.int value) = some field) :
    ∃ low high, field = [low, high] ∧ (Int16.ofNat (low.toNat + 256 * high.toNat)).toInt = value := by
  simp only [packField, Option.ite_none_right_eq_some, Option.some.injEq] at packed
  obtain ⟨⟨low, high⟩, rfl⟩ := packed
  exact ⟨_, _, rfl, short_read value low high _ rfl⟩

-- The board reads the values that the driver packed.
theorem recv_packed (motion : Motion) (bytes : List UInt8) (packed : motion.pack = some bytes) :
    (recvPacket bytes).motion = motion := by
  obtain ⟨_, _, right, rest, same, first, packed, rfl⟩ := pack_from_cons _ _ _ _ _ _ _ packed
  cases same
  obtain ⟨_, _, left, rest, same, second, packed, rfl⟩ := pack_from_cons _ _ _ _ _ _ _ packed
  cases same
  obtain ⟨_, _, rotation, rest, same, third, packed, rfl⟩ := pack_from_cons _ _ _ _ _ _ _ packed
  cases same
  obtain ⟨_, _, rfl, right⟩ := short_bytes motion.right right first
  obtain ⟨_, _, rfl, left⟩ := short_bytes motion.left left second
  obtain ⟨_, _, rfl, rotation⟩ := short_bytes motion.rotation rotation third
  cases motion
  exact congr (congr (congrArg Motion.mk right) left) rotation

-- The link with the body's globals and motors; the motions that flush sent, and
-- those that the board has handled since its last reset.
structure BodyRun (Stepper : Type) where
  link : BodyLink
  body : Body Stepper
  flushed : List Motion
  handled : List BodyMotionVars

inductive BodyAction where
  | flush (motion : Motion)
  | link (action : LinkAction)
  | drive

-- Whether an action on the link resets the board.
def BodyLink.resets (link : BodyLink) : LinkAction → Bool
  | .begin_ opening resets => !link.initialized && opening ≠ .closed && resets
  | .check => link.board.stage = .restarting
  | _ => false

namespace BodyRun

section Moving

variable {Stepper : Type} (accel : AccelStepper Stepper)

-- initializeHardware tells both steppers of the wheels to go to 0.
def checkedBody (run : BodyRun Stepper) : Body Stepper :=
  if run.link.board.stage = .waitInit ∧ run.link.board.check.1.stage = .waitBegin then
    { run.body with
      movedR := 0
      movedL := 0 }
  else run.body

def polled (run : BodyRun Stepper) (link : BodyLink) (packet : PspPacket) : BodyRun Stepper :=
  if packet.id = PSP_PACKID_MOTION then
    { run with
      link
      body := handleMotion run.body (recvPacket packet.data)
      handled := run.handled ++ [recvPacket packet.data] }
  else { run with link }

def linked (run : BodyRun Stepper) (action : LinkAction) (link : BodyLink) : BodyRun Stepper :=
  if run.link.resets action then
    { run with
      link
      body := initializeHardware accel
      handled := [] }
  else
    match action with
    | .poll =>
        match run.link.up with
        | [] => { run with link }
        | packet :: _ => run.polled link packet
    | .check => { run with link, body := run.checkedBody }
    | _ => { run with link }

-- struct.error goes to the caller of flush; driveHardare runs in loop() only.
def step (run : BodyRun Stepper) : BodyAction → Option (BodyRun Stepper)
  | .flush motion =>
      match motion.pack with
      | none => some run
      | some bytes =>
          (run.link.step (.flush bytes)).map fun link => { run with link, flushed := run.flushed ++ [motion] }
  | .link (.flush _) => none
  | .link action => (run.link.step action).map (run.linked accel action)
  | .drive =>
      if run.link.board.stage = .looping then some { run with body := driveHardare accel run.body } else none

end Moving

end BodyRun

def bodyRun {Stepper : Type} (accel : AccelStepper Stepper) : System (BodyRun Stepper) BodyAction where
  start run := run = ⟨.init, initializeHardware accel, [], []⟩
  step := BodyRun.step accel

def PspPacket.carries (packet : PspPacket) : Option Motion :=
  if packet.id = PSP_PACKID_MOTION then some (recvPacket packet.data).motion else none

namespace BodyLink

-- The motions on their way to the board.
def inFlight (link : BodyLink) : List Motion := link.up.filterMap PspPacket.carries

theorem control_in_flight (up : List PspPacket) (flag : UInt8) :
    (up ++ [control flag]).filterMap PspPacket.carries = up.filterMap PspPacket.carries := by
  rw [List.filterMap_append]
  exact List.append_nil _

theorem received_in_flight (link : BodyLink) (packet : PspPacket) :
    (link.received packet).inFlight = link.inFlight := by
  rw [received]
  split
  · rfl
  · split
    · exact control_in_flight link.up BEGIN_ALL
    · rfl
  · split <;> rfl
  · split <;> rfl

theorem step_in_flight (link target : BodyLink) (action : LinkAction) (other : ∀ payload, action ≠ .flush payload)
    (moved : link.step action = some target) : target.inFlight.Sublist link.inFlight := by
  cases action with
  | begin_ opening resets =>
      simp only [step, Option.ite_none_right_eq_some, Option.some.injEq] at moved
      obtain ⟨_, rfl⟩ := moved
      simp only [begin_]
      split
      · exact .refl _
      · have same : (link.opened resets).up = link.up := by
          rw [opened]
          split <;> rfl
        cases opening with
        | closed => exact .refl _
        | wrongName =>
            show ((link.opened resets).up.filterMap PspPacket.carries).Sublist link.inFlight
            rw [same]
            exact .refl _
        | found =>
            have sent := control_in_flight (link.opened resets).up INIT_HARDWARE
            rw [inFlight, sent, same]
            exact .refl _
  | deinit sent =>
      simp only [step, Option.ite_none_right_eq_some, Option.some.injEq] at moved
      obtain ⟨_, rfl⟩ := moved
      rw [deinit]
      split
      · split
        · have sent := control_in_flight link.up DEINIT_HARDWARE
          rw [inFlight, sent]
          exact .refl _
        · exact .refl _
      · exact .refl _
  | flush payload => exact absurd rfl (other payload)
  | received =>
      simp only [step] at moved
      split at moved
      · cases moved
      · cases moved
      · cases moved
        rw [received_in_flight]
        exact .refl _
  | timedOut =>
      simp only [step, Option.ite_none_left_eq_some, Option.some.injEq] at moved
      obtain ⟨_, rfl⟩ := moved
      rw [timedOut]
      split <;> exact .refl _
  | loseUp index =>
      cases moved
      exact (List.eraseIdx_sublist link.up index).filterMap _
  | loseDown index =>
      cases moved
      exact .refl _
  | poll =>
      simp only [step] at moved
      split at moved
      · cases moved
      · cases moved
      · rename_i packet rest waiting _
        cases moved
        rw [inFlight, inFlight, waiting]
        exact (List.sublist_cons_self packet rest).filterMap _
  | check =>
      cases moved
      exact .refl _

-- A board that waits for its initialization did so before, unless it was reset.
theorem waited_before (link target : BodyLink) (action : LinkAction) (moved : link.step action = some target)
    (kept : link.resets action = false) (waiting : target.board.stage = .waitInit) : link.board.stage = .waitInit := by
  cases action with
  | begin_ opening resets =>
      simp only [BodyLink.step, Option.ite_none_right_eq_some, Option.some.injEq] at moved
      obtain ⟨_, rfl⟩ := moved
      cases opening <;> cases resets <;> cases begun : link.initialized <;>
        simp_all [BodyLink.resets, BodyLink.begin_, BodyLink.opened, BodyLink.ends]
  | deinit sent =>
      simp only [BodyLink.step, Option.ite_none_right_eq_some, Option.some.injEq] at moved
      obtain ⟨_, rfl⟩ := moved
      rwa [BodyLink.deinit_board] at waiting
  | flush payload =>
      simp only [BodyLink.step, Option.ite_none_right_eq_some, Option.some.injEq] at moved
      obtain ⟨_, rfl⟩ := moved
      exact waiting
  | received =>
      simp only [BodyLink.step] at moved
      split at moved
      · cases moved
      · cases moved
      · cases moved
        rwa [BodyLink.received_board] at waiting
  | timedOut =>
      simp only [BodyLink.step, Option.ite_none_left_eq_some, Option.some.injEq] at moved
      obtain ⟨_, rfl⟩ := moved
      rwa [BodyLink.timed_out_board] at waiting
  | loseUp index =>
      cases moved
      exact waiting
  | loseDown index =>
      cases moved
      exact waiting
  | poll =>
      simp only [BodyLink.step] at moved
      split at moved
      · cases moved
      · cases moved
      · cases moved
        rwa [BodyBoard.poll_stage] at waiting
  | check =>
      cases moved
      cases stage : link.board.stage with
      | waitInit => rfl
      | waitBegin =>
          simp only [BodyLink.checked, BodyBoard.check, stage] at waiting
          split at waiting
          · cases waiting
          · cases stage.symm.trans waiting
      | looping =>
          simp only [BodyLink.checked, BodyBoard.check, stage] at waiting
          split at waiting
          · cases waiting
          · cases stage.symm.trans waiting
      | restarting => simp [BodyLink.resets, stage] at kept

theorem poll_takes (link target : BodyLink) (moved : link.step .poll = some target) :
    ∃ packet rest, link.up = packet :: rest ∧ target.up = rest := by
  simp only [BodyLink.step] at moved
  split at moved
  · cases moved
  · cases moved
  · rename_i packet rest waiting _
    cases moved
    exact ⟨packet, rest, waiting, rfl⟩

end BodyLink

namespace BodyRun

section Keeping

variable {Stepper : Type} (accel : AccelStepper Stepper) (documented : accel.Documented)

def lastHandled (run : BodyRun Stepper) : BodyMotionVars := run.handled.getLastD ⟨0, 0, 0⟩

structure InStep (run : BodyRun Stepper) : Prop where
  powered : run.link.board.Powered
  order : (run.handled.map BodyMotionVars.motion ++ run.link.inFlight).Sublist run.flushed
  vars : run.body.bodyMotionVars = run.lastHandled
  cached : Cached accel run.body
  still : run.link.board.stage = .waitInit → run.body.movedR = 0 ∧ run.body.movedL = 0

theorem drive_keeps_vars (body : Body Stepper) : (driveHardare accel body).bodyMotionVars = body.bodyMotionVars := by
  have right : (driveR body).bodyMotionVars = body.bodyMotionVars := by
    rw [driveR]
    split <;> rfl
  have left : (driveL (driveR body)).bodyMotionVars = (driveR body).bodyMotionVars := by
    rw [driveL]
    split <;> rfl
  have rotation : (driveROT accel (driveL (driveR body))).bodyMotionVars = (driveL (driveR body)).bodyMotionVars := by
    rw [driveROT]
    split <;> rfl
  calc
    (driveHardare accel body).bodyMotionVars = (driveROT accel (driveL (driveR body))).bodyMotionVars := by
      rw [driveHardare]
    _ = body.bodyMotionVars := by rw [rotation, left, right]

theorem checked_in_step (run : BodyRun Stepper) (good : run.InStep accel) :
    Cached accel run.checkedBody ∧ run.checkedBody.bodyMotionVars = run.body.bodyMotionVars ∧
      run.checkedBody.movedR = run.body.movedR ∧ run.checkedBody.movedL = run.body.movedL := by
  rw [checkedBody]
  split
  · rename_i initializes
    obtain ⟨right, left⟩ := good.still initializes.1
    exact ⟨⟨right.symm.trans good.cached.right, left.symm.trans good.cached.left, good.cached.rotation⟩, rfl,
      right.symm, left.symm⟩
  · exact ⟨good.cached, rfl, rfl, rfl⟩

theorem flush_in_step (run after : BodyRun Stepper) (motion : Motion) (good : run.InStep accel)
    (moved : run.step accel (.flush motion) = some after) : after.InStep accel := by
  simp only [step] at moved
  cases packed : motion.pack with
  | none =>
      rw [packed] at moved
      cases moved
      exact good
  | some bytes =>
      rw [packed] at moved
      obtain ⟨link, sent, rfl⟩ := Option.map_eq_some_iff.mp moved
      simp only [BodyLink.step, Option.ite_none_right_eq_some, Option.some.injEq] at sent
      obtain ⟨_, rfl⟩ := sent
      refine ⟨good.powered, ?_, good.vars, good.cached, good.still⟩
      have carried : PspPacket.carries ⟨PSP_PACKID_MOTION, bytes⟩ = some motion := by
        rw [PspPacket.carries, if_pos rfl, recv_packed motion bytes packed]
      have added : (run.link.up ++ [(⟨PSP_PACKID_MOTION, bytes⟩ : PspPacket)]).filterMap PspPacket.carries =
          run.link.inFlight ++ [motion] := by
        rw [List.filterMap_append, List.filterMap_cons_some carried, List.filterMap_nil]
        rfl
      rw [BodyLink.inFlight, added, ← List.append_assoc]
      exact good.order.append (.refl _)

-- Without a reset the link goes on beside the body.
theorem beside_in_step (run : BodyRun Stepper) (link : BodyLink) (action : LinkAction) (body : Body Stepper)
    (good : run.InStep accel) (moved : run.link.step action = some link) (other : ∀ payload, action ≠ .flush payload)
    (kept : run.link.resets action = false) (cached : Cached accel body)
    (vars : body.bodyMotionVars = run.body.bodyMotionVars) (right : body.movedR = run.body.movedR)
    (left : body.movedL = run.body.movedL) : { run with link, body }.InStep accel := by
  have powered := BodyLink.step_powered run.link link action good.powered moved
  refine ⟨powered, ?_, vars.trans good.vars, cached, fun waiting => ?_⟩
  · have flight := BodyLink.step_in_flight run.link link action other moved
    exact ((List.Sublist.refl _).append flight).trans good.order
  · obtain ⟨stillR, stillL⟩ := good.still (BodyLink.waited_before run.link link action moved kept waiting)
    exact ⟨right.trans stillR, left.trans stillL⟩

-- A motion packet that is polled is the next one that was on its way.
theorem polled_in_step (run : BodyRun Stepper) (link : BodyLink) (packet : PspPacket) (rest : List PspPacket)
    (good : run.InStep accel) (moved : run.link.step .poll = some link) (next : run.link.up = packet :: rest)
    (left : link.up = rest) : (run.polled link packet).InStep accel := by
  have powered := BodyLink.step_powered run.link link .poll good.powered moved
  have still (waiting : link.board.stage = .waitInit) :=
    good.still (BodyLink.waited_before run.link link .poll moved rfl waiting)
  have order := good.order
  rw [BodyLink.inFlight, next] at order
  rw [polled]
  split
  · rename_i isMotion
    refine ⟨powered, ?_, ?_, ⟨good.cached.right, good.cached.left, good.cached.rotation⟩, still⟩
    · rw [List.filterMap_cons_some (by rw [PspPacket.carries, if_pos isMotion])] at order
      rw [BodyLink.inFlight, left, List.map_append, List.map_singleton, List.append_assoc, List.singleton_append]
      exact order
    · rw [lastHandled, List.getLastD_concat]
      rfl
  · rename_i otherPacket
    refine ⟨powered, ?_, good.vars, good.cached, still⟩
    rw [List.filterMap_cons_none (by rw [PspPacket.carries, if_neg otherPacket])] at order
    rw [BodyLink.inFlight, left]
    exact order

-- flush goes through the motion that it packs, so it is not an action on the link.
theorem step_link (run after : BodyRun Stepper) (action : LinkAction)
    (moved : run.step accel (.link action) = some after) :
    (∀ payload, action ≠ .flush payload) ∧
      ∃ link, run.link.step action = some link ∧ run.linked accel action link = after := by
  have other : ∀ payload, action ≠ .flush payload := by
    intro payload same
    rw [same] at moved
    cases moved
  have mapped : (run.link.step action).map (run.linked accel action) = some after := by
    cases action with
    | flush payload => exact absurd rfl (other payload)
    | _ => exact moved
  exact ⟨other, Option.map_eq_some_iff.mp mapped⟩

include documented

theorem drive_in_step (run after : BodyRun Stepper) (good : run.InStep accel)
    (moved : run.step accel .drive = some after) :
    after.InStep accel ∧ after.link.board.stage = .looping ∧ after.body.movedR = after.lastHandled.stpR.toInt ∧
      after.body.movedROT = after.lastHandled.motRot.toInt := by
  simp only [step, Option.ite_none_right_eq_some, Option.some.injEq] at moved
  obtain ⟨looping, rfl⟩ := moved
  have passed := pass_passed accel documented run.body run.body.bodyMotionVars good.cached
  have same : pass accel run.body run.body.bodyMotionVars = driveHardare accel run.body := rfl
  rw [same, good.vars] at passed
  have kept := drive_keeps_vars accel run.body
  -- From here on the drive is only what these two facts say of it.
  generalize driveHardare accel run.body = driven at passed kept ⊢
  refine ⟨⟨good.powered, good.order, kept.trans good.vars, passed.cached, fun waiting => ?_⟩, looping, passed.right,
    passed.rotation⟩
  rw [looping] at waiting
  cases waiting

-- A reset sets the globals back; what is on its way stays on its way.
theorem reset_in_step (run : BodyRun Stepper) (link : BodyLink) (powered : link.board.Powered)
    (order : link.inFlight.Sublist run.flushed) :
    (⟨link, initializeHardware accel, run.flushed, []⟩ : BodyRun Stepper).InStep accel :=
  ⟨powered, order, rfl, initialize_cached accel documented, fun _ => ⟨rfl, rfl⟩⟩

theorem linked_in_step (run : BodyRun Stepper) (link : BodyLink) (action : LinkAction) (good : run.InStep accel)
    (moved : run.link.step action = some link) (other : ∀ payload, action ≠ .flush payload) :
    (run.linked accel action link).InStep accel := by
  cases reset : run.link.resets action with
  | true =>
      rw [linked.eq_def, if_pos reset]
      have powered := BodyLink.step_powered run.link link action good.powered moved
      have flight := BodyLink.step_in_flight run.link link action other moved
      exact reset_in_step accel documented run link powered
        (flight.trans ((List.sublist_append_right _ _).trans good.order))
  | false =>
      have beside := beside_in_step accel run link action run.body good moved other reset good.cached rfl rfl rfl
      have goes : ¬ run.link.resets action = true := Bool.not_eq_true _ ▸ reset
      rw [linked.eq_def, if_neg goes]
      cases action with
      | poll =>
          obtain ⟨packet, rest, next, left⟩ := BodyLink.poll_takes run.link link moved
          have polled := polled_in_step accel run link packet rest good moved next left
          simp only [next]
          exact polled
      | check =>
          obtain ⟨cached, vars, right, left⟩ := checked_in_step accel run good
          exact beside_in_step accel run link .check run.checkedBody good moved other reset cached vars right left
      | begin_ opening resets => exact beside
      | deinit sent => exact beside
      | flush payload => exact beside
      | received => exact beside
      | timedOut => exact beside
      | loseUp index => exact beside
      | loseDown index => exact beside

theorem step_in_step (run after : BodyRun Stepper) (action : BodyAction) (good : run.InStep accel)
    (moved : run.step accel action = some after) : after.InStep accel := by
  cases action with
  | flush motion => exact flush_in_step accel run after motion good moved
  | link action =>
      obtain ⟨other, link, stepped, rfl⟩ := step_link accel run after action moved
      exact linked_in_step accel documented run link action good stepped other
  | drive => exact (drive_in_step accel documented run after good moved).1

theorem reached_in_step (run : BodyRun Stepper) (reached : Reached (bodyRun accel) anyAction run) :
    run.InStep accel := by
  apply reached_invariant (bodyRun accel) anyAction (fun run => run.InStep accel) _ _ run reached
  · intro run started
    rw [started]
    exact reset_in_step accel documented ⟨.init, initializeHardware accel, [], []⟩ .init (by
      simp [BodyBoard.Powered, BodyLink.init, BodyBoard.setup]) (.refl _)
  · intro source action target good _ moved
    exact step_in_step accel documented source target action good moved

-- The board drives with its motors on only, the motions that it has handled since
-- its last reset were flushed, in this order, and after a pass the right wheel and
-- the rotation stand where the last of them tells them to.
theorem body_driven_as_flushed (run after : BodyRun Stepper) (reached : Reached (bodyRun accel) anyAction run)
    (driven : run.step accel .drive = some after) :
    after.link.board.enabled = true ∧ (after.handled.map BodyMotionVars.motion).Sublist after.flushed ∧
      after.body.movedR = after.lastHandled.stpR.toInt ∧ after.body.movedROT = after.lastHandled.motRot.toInt := by
  have good := reached_in_step accel documented run reached
  obtain ⟨stays, looping, right, rotation⟩ := drive_in_step accel documented run after good driven
  have handled := (List.sublist_append_left _ after.link.inFlight).trans stays.order
  exact ⟨stays.powered.mpr (.inr looping), handled, right, rotation⟩

end Keeping

def flushesOnce : List BodyAction :=
  (BodyLink.begins true).map .link ++ [.flush ⟨10, 20, 5⟩, .flush ⟨0, 40000, 0⟩, .link .poll]

theorem body_driven_as_flushed_once : ∃ run after, Reached (bodyRun targetOnly) anyAction run ∧
    run.step targetOnly .drive = some after ∧ after.flushed = [⟨10, 20, 5⟩] ∧ after.handled = [⟨10, 20, 5⟩] ∧
      after.link.board.enabled = true ∧ after.body.movedR = 10 ∧ after.body.movedROT = 5 := by
  obtain ⟨run, reached, flushed, handled, looping⟩ := replay_exists (bodyRun targetOnly) anyAction flushesOnce
    ⟨.init, initializeHardware targetOnly, [], []⟩
    (fun run => run.flushed = [⟨10, 20, 5⟩] ∧ run.handled = [⟨10, 20, 5⟩] ∧ run.link.board.stage = .looping) rfl
    (by decide)
  have driven : run.step targetOnly .drive = some { run with body := driveHardare targetOnly run.body } :=
    if_pos looping
  obtain ⟨enabled, _, right, rotation⟩ :=
    body_driven_as_flushed targetOnly target_only_documented run _ reached driven
  rw [lastHandled, handled] at right rotation
  exact ⟨run, _, reached, driven, flushed, handled, enabled, right, rotation⟩

end BodyRun

end Animacharacter.Firmware
