import Mathlib.Data.List.Chain

set_option autoImplicit false

namespace Animacharacter.Firmware

-- What the driver of the rotation stepper is used for.
structure AccelStepper (Stepper : Type) where
  new : Stepper
  moveTo : Stepper → Int → Stepper
  run : Stepper → Stepper
  targetPosition : Stepper → Int

structure AccelStepper.Documented {Stepper : Type} (accel : AccelStepper Stepper) : Prop where
  new : accel.targetPosition accel.new = 0
  moveTo : ∀ stepper absolute, accel.targetPosition (accel.moveTo stepper absolute) = absolute
  run : ∀ stepper, accel.targetPosition (accel.run stepper) = accel.targetPosition stepper

structure BodyMotionVars where
  stpR : Int16
  stpL : Int16
  motRot : Int16
deriving DecidableEq

-- The globals of the body, with the last position that moveTo was called with on
-- each of the three steppers.
structure Body (Stepper : Type) where
  bodyMotionVars : BodyMotionVars
  stepperRTrgt : Int
  stepperLTrgt : Int
  stepperROT : Stepper
  movedR : Int
  movedL : Int
  movedROT : Int

section Driving

variable {Stepper : Type} (accel : AccelStepper Stepper)

def initializeHardware : Body Stepper where
  bodyMotionVars := ⟨0, 0, 0⟩
  stepperRTrgt := 0
  stepperLTrgt := 0
  stepperROT := accel.new
  movedR := 0
  movedL := 0
  movedROT := 0

def handleMotion (body : Body Stepper) (packet : BodyMotionVars) : Body Stepper :=
  { body with bodyMotionVars := packet }

def driveR (body : Body Stepper) : Body Stepper :=
  if body.bodyMotionVars.stpR.toInt ≠ body.stepperRTrgt then
    { body with
      stepperRTrgt := body.bodyMotionVars.stpR.toInt
      movedR := body.bodyMotionVars.stpR.toInt }
  else body

-- The test is on stp_r here too.
def driveL (body : Body Stepper) : Body Stepper :=
  if body.bodyMotionVars.stpR.toInt ≠ body.stepperLTrgt then
    { body with
      stepperLTrgt := body.bodyMotionVars.stpL.toInt
      movedL := body.bodyMotionVars.stpL.toInt }
  else body

def driveROT (body : Body Stepper) : Body Stepper :=
  if body.bodyMotionVars.motRot.toInt ≠ accel.targetPosition body.stepperROT then
    { body with
      stepperROT := accel.moveTo body.stepperROT body.bodyMotionVars.motRot.toInt
      movedROT := body.bodyMotionVars.motRot.toInt }
  else body

def driveHardare (body : Body Stepper) : Body Stepper :=
  let driven := driveROT accel (driveL (driveR body))
  { driven with stepperROT := accel.run driven.stepperROT }

def pass (body : Body Stepper) (packet : BodyMotionVars) : Body Stepper := driveHardare accel (handleMotion body packet)

def passes (packets : List BodyMotionVars) : Body Stepper := packets.foldl (pass accel) (initializeHardware accel)

-- What the change tests compare with is what the motors were told.
structure Cached (body : Body Stepper) : Prop where
  right : body.movedR = body.stepperRTrgt
  left : body.movedL = body.stepperLTrgt
  rotation : body.movedROT = accel.targetPosition body.stepperROT

structure Follows (body : Body Stepper) (packet : BodyMotionVars) : Prop where
  right : body.movedR = packet.stpR.toInt
  left : body.movedL = packet.stpL.toInt
  rotation : body.movedROT = packet.motRot.toInt

-- The left one follows if the test on stp_r fires or happens to be harmless.
def LeftFollows (before next : BodyMotionVars) : Prop := next.stpR ≠ before.stpL ∨ next.stpL = next.stpR

instance decidableLeftFollows (before next : BodyMotionVars) : Decidable (LeftFollows before next) :=
  inferInstanceAs (Decidable (_ ∨ _))

theorem drive_r_moves (body : Body Stepper) (cached : Cached accel body) :
    Cached accel (driveR body) ∧ (driveR body).movedR = body.bodyMotionVars.stpR.toInt ∧
      (driveR body).movedL = body.movedL ∧ (driveR body).bodyMotionVars = body.bodyMotionVars := by
  unfold driveR
  split
  · exact ⟨⟨rfl, cached.left, cached.rotation⟩, rfl, rfl, rfl⟩
  · rename_i same
    exact ⟨cached, cached.right.trans (not_not.mp same).symm, rfl, rfl⟩

theorem drive_l_moves (body : Body Stepper) (cached : Cached accel body) :
    Cached accel (driveL body) ∧
      (driveL body).movedL =
        (if body.bodyMotionVars.stpR.toInt ≠ body.movedL then body.bodyMotionVars.stpL.toInt else body.movedL) ∧
      (driveL body).movedR = body.movedR ∧ (driveL body).bodyMotionVars = body.bodyMotionVars := by
  rw [cached.left]
  unfold driveL
  split
  · exact ⟨⟨cached.right, rfl, cached.rotation⟩, rfl, rfl, rfl⟩
  · exact ⟨cached, cached.left, rfl, rfl⟩

theorem drive_rot_moves (documented : accel.Documented) (body : Body Stepper) (cached : Cached accel body) :
    Cached accel (driveROT accel body) ∧ (driveROT accel body).movedROT = body.bodyMotionVars.motRot.toInt ∧
      (driveROT accel body).movedR = body.movedR ∧ (driveROT accel body).movedL = body.movedL := by
  unfold driveROT
  split
  · exact ⟨⟨cached.right, cached.left, (documented.moveTo _ _).symm⟩, rfl, rfl, rfl⟩
  · rename_i same
    exact ⟨cached, cached.rotation.trans (not_not.mp same).symm, rfl, rfl⟩

structure Passed (body : Body Stepper) (packet : BodyMotionVars) (after : Body Stepper) : Prop where
  cached : Cached accel after
  right : after.movedR = packet.stpR.toInt
  left : after.movedL = if packet.stpR.toInt ≠ body.movedL then packet.stpL.toInt else body.movedL
  rotation : after.movedROT = packet.motRot.toInt

theorem pass_passed (documented : accel.Documented) (body : Body Stepper) (packet : BodyMotionVars)
    (cached : Cached accel body) : Passed accel body packet (pass accel body packet) := by
  have received : Cached accel (handleMotion body packet) := ⟨cached.right, cached.left, cached.rotation⟩
  obtain ⟨cachedR, right, keptL, varsR⟩ := drive_r_moves accel (handleMotion body packet) received
  obtain ⟨cachedL, left, keptR, varsL⟩ := drive_l_moves accel _ cachedR
  obtain ⟨cachedROT, rotation, lastR, lastL⟩ := drive_rot_moves accel documented _ cachedL
  rw [varsR, keptL] at left
  rw [varsL, varsR] at rotation
  rw [keptR, right] at lastR
  rw [left] at lastL
  rw [pass, driveHardare]
  generalize driveROT accel (driveL (driveR (handleMotion body packet))) = driven at *
  apply Passed.mk
  · exact ⟨cachedROT.right, cachedROT.left, cachedROT.rotation.trans (documented.run _).symm⟩
  · exact lastR
  · exact lastL
  · exact rotation

theorem initialize_cached (documented : accel.Documented) : Cached accel (initializeHardware accel) :=
  ⟨rfl, rfl, documented.new.symm⟩

theorem passes_snoc (packets : List BodyMotionVars) (packet : BodyMotionVars) :
    passes accel (packets ++ [packet]) = pass accel (passes accel packets) packet := by
  simp only [passes, List.foldl_append, List.foldl_cons, List.foldl_nil]

theorem passes_cached (documented : accel.Documented) (packets : List BodyMotionVars) :
    Cached accel (passes accel packets) := by
  induction packets using List.reverseRecOn with
  | nil => exact initialize_cached accel documented
  | append_singleton packets packet ih =>
      rw [passes_snoc]
      exact (pass_passed accel documented _ packet ih).cached

theorem right_rotation_follow (documented : accel.Documented) (packets : List BodyMotionVars)
    (packet : BodyMotionVars) :
    (passes accel (packets ++ [packet])).movedR = packet.stpR.toInt ∧
      (passes accel (packets ++ [packet])).movedROT = packet.motRot.toInt := by
  have passed := pass_passed accel documented _ packet (passes_cached accel documented packets)
  rw [passes_snoc]
  exact ⟨passed.right, passed.rotation⟩

theorem left_follows_iff (documented : accel.Documented) (body : Body Stepper) (before packet : BodyMotionVars)
    (cached : Cached accel body) (last : body.movedL = before.stpL.toInt) :
    (pass accel body packet).movedL = packet.stpL.toInt ↔ LeftFollows before packet := by
  rw [(pass_passed accel documented body packet cached).left, last, LeftFollows]
  by_cases same : packet.stpR = before.stpL
  · rw [if_neg (not_not.mpr (congrArg Int16.toInt same)), Int16.toInt_inj, same]
    simp [eq_comm]
  · rw [if_pos (fun equal => same (Int16.toInt_inj.mp equal))]
    simp [same]

-- loop() calls driveHardare again and again until the next packet comes.
theorem drive_again (documented : accel.Documented) (body : Body Stepper) (packet : BodyMotionVars)
    (cached : Cached accel body) :
    (pass accel (pass accel body packet) packet).movedR = (pass accel body packet).movedR ∧
      (pass accel (pass accel body packet) packet).movedL = (pass accel body packet).movedL ∧
      (pass accel (pass accel body packet) packet).movedROT = (pass accel body packet).movedROT := by
  have once := pass_passed accel documented body packet cached
  have twice := pass_passed accel documented _ packet once.cached
  refine ⟨twice.right.trans once.right.symm, ?_, twice.rotation.trans once.rotation.symm⟩
  rw [twice.left, once.left]
  by_cases fires : packet.stpR.toInt = body.movedL
  · simp [fires]
  · simp [fires]

-- Every call of a run leaves all three where their packet says.
def Followed (body : Body Stepper) : List BodyMotionVars → Prop
  | [] => True
  | packet :: packets => Follows (pass accel body packet) packet ∧ Followed (pass accel body packet) packets

theorem followed_iff_chain (documented : accel.Documented) (packets : List BodyMotionVars) (body : Body Stepper)
    (before : BodyMotionVars) (cached : Cached accel body) (last : body.movedL = before.stpL.toInt) :
    Followed accel body packets ↔ List.IsChain LeftFollows (before :: packets) := by
  induction packets generalizing body before with
  | nil => simp [Followed]
  | cons packet packets ih =>
      have passed := pass_passed accel documented body packet cached
      rw [Followed, List.isChain_cons_cons, ← left_follows_iff accel documented body before packet cached last]
      apply Iff.intro
      · rintro ⟨follows, rest⟩
        exact ⟨follows.left, (ih _ packet passed.cached follows.left).mp rest⟩
      · rintro ⟨left, chain⟩
        exact ⟨⟨passed.right, left, passed.rotation⟩, (ih _ packet passed.cached left).mpr chain⟩

theorem followed_iff_prefixes (packets : List BodyMotionVars) (body : Body Stepper) :
    Followed accel body packets ↔
      ∀ sent packet, sent ++ [packet] <+: packets → Follows ((sent ++ [packet]).foldl (pass accel) body) packet := by
  induction packets generalizing body with
  | nil => simp [Followed]
  | cons first packets ih =>
      rw [Followed, ih]
      apply Iff.intro
      · rintro ⟨follows, rest⟩ sent packet starts
        cases sent with
        | nil =>
            cases (List.cons_prefix_cons.mp starts).1
            exact follows
        | cons other sent =>
            obtain ⟨rfl, later⟩ := List.cons_prefix_cons.mp starts
            rw [List.cons_append, List.foldl_cons]
            exact rest sent packet later
      · intro every
        apply And.intro
        · exact every [] first (List.cons_prefix_cons.mpr ⟨rfl, List.nil_prefix⟩)
        · intro sent packet starts
          have follows := every (first :: sent) packet (List.cons_prefix_cons.mpr ⟨rfl, starts⟩)
          rw [List.cons_append, List.foldl_cons] at follows
          exact follows

theorem stepper_targets_follow (documented : accel.Documented) (packets : List BodyMotionVars) :
    (∀ sent packet, sent ++ [packet] <+: packets → Follows (passes accel (sent ++ [packet])) packet) ↔
      List.IsChain LeftFollows (⟨0, 0, 0⟩ :: packets) := by
  rw [← followed_iff_chain accel documented packets _ ⟨0, 0, 0⟩ (initialize_cached accel documented) rfl]
  exact (followed_iff_prefixes accel packets _).symm

end Driving

-- An AccelStepper of which only the target counts.
def targetOnly : AccelStepper Int where
  new := 0
  moveTo _ absolute := absolute
  run stepper := stepper
  targetPosition stepper := stepper

theorem target_only_documented : targetOnly.Documented := ⟨rfl, fun _ _ => rfl, fun _ => rfl⟩

theorem stepper_targets_follow_twice : Follows (passes targetOnly [⟨10, 20, 5⟩, ⟨-7, 30, 5⟩]) ⟨-7, 30, 5⟩ :=
  (stepper_targets_follow targetOnly target_only_documented [⟨10, 20, 5⟩, ⟨-7, 30, 5⟩]).mpr (by decide)
    [⟨10, 20, 5⟩] ⟨-7, 30, 5⟩ (List.prefix_refl _)

-- The first packet moves only the left stepper, which is never told.
theorem left_not_told : (passes targetOnly [⟨0, 100, 0⟩]).movedL = 0 ∧
    ¬ Follows (passes targetOnly [⟨0, 100, 0⟩]) ⟨0, 100, 0⟩ := by
  have stays : (passes targetOnly [⟨0, 100, 0⟩]).movedL = 0 := by decide
  refine ⟨stays, ?_⟩
  intro follows
  have told := follows.left
  rw [stays] at told
  exact absurd told (by decide)

end Animacharacter.Firmware
