import Animacharacter.Firmware.BodyLifecycle

set_option autoImplicit false

namespace Animacharacter.Firmware

open StepSystem

-- Clearing one bit, or setting bits, does not set another one.
theorem flag_stays_clear (flags mask other : UInt8) (clear : flags &&& other = 0) : flags &&& ~~~mask &&& other = 0 := by
  rw [UInt8.and_assoc, UInt8.and_comm (~~~mask), ← UInt8.and_assoc, clear, UInt8.zero_and]

theorem flag_cleared (flags mask : UInt8) : flags &&& ~~~mask &&& mask = 0 := by
  rw [UInt8.and_assoc, UInt8.and_comm (~~~mask), UInt8.and_not_self, UInt8.and_zero]

theorem flags_or_clear (flags added mask : UInt8) (clear : flags &&& mask = 0) (more : added &&& mask = 0) :
    (flags ||| added) &&& mask = 0 := by
  have spread : (flags ||| added) &&& mask = flags &&& mask ||| added &&& mask := by
    apply UInt8.toBitVec_inj.mp
    ext index
    simp [Bool.and_or_distrib_right]
  rw [spread, clear, more, UInt8.zero_or]

theorem check_and_clear_stays (flags mask other : UInt8) (clear : flags &&& other = 0) :
    (checkAndClearBit flags mask).1 &&& other = 0 := by
  rw [checkAndClearBit]
  split
  · exact flag_stays_clear flags mask other clear
  · exact clear

theorem check_and_clear_tests (flags mask : UInt8) :
    (checkAndClearBit flags mask).2 = decide (flags &&& mask ≠ 0) := by
  rw [checkAndClearBit]
  split <;> simp_all

theorem check_and_clear_clears (flags mask : UInt8) : (checkAndClearBit flags mask).1 &&& mask = 0 := by
  rw [checkAndClearBit]
  split
  · exact flag_cleared flags mask
  · rename_i absent
    exact not_not.mp absent

def PspPacket.RequestsDeinit (packet : PspPacket) : Prop :=
  packet.id = PSP_PACKID_CONTROL_FLAGS ∧ packet.data.headD 0 &&& DEINIT_HARDWARE ≠ 0

namespace BodyBoard

-- The motor drivers are on from the initialization to the deinitialization.
def Powered (board : BodyBoard) : Prop := board.enabled = true ↔ board.stage = .waitBegin ∨ board.stage = .looping

def NoDeinit (board : BodyBoard) : Prop := board.flags &&& DEINIT_HARDWARE = 0

-- Off, and nothing that it was told before can switch it on.
def Off (board : BodyBoard) : Prop :=
  board.enabled = false ∧ board.NoDeinit ∧ (board.stage = .restarting ∨ board.stage = .waitInit ∧ board.flags = 0)

theorem setup_off : Off setup := ⟨rfl, by rw [NoDeinit, setup, UInt8.zero_and], .inr ⟨rfl, rfl⟩⟩

theorem check_powered (board : BodyBoard) (powered : board.Powered) : board.check.1.Powered := by
  cases board with
  | mk stage flags enabled =>
      cases stage with
      | waitInit =>
          simp only [check]
          split
          · simp [Powered]
          · exact powered
      | waitBegin =>
          simp only [check]
          split
          · simpa [Powered] using powered
          · exact powered
      | looping =>
          simp only [check]
          split
          · simp [Powered]
          · exact powered
      | restarting => simp [check, setup, Powered]

theorem poll_powered (board : BodyBoard) (packet : PspPacket) (powered : board.Powered) : (board.poll packet).Powered := by
  rw [poll]
  split
  · exact powered
  · exact powered

theorem poll_stage (board : BodyBoard) (packet : PspPacket) : (board.poll packet).stage = board.stage := by
  rw [poll]
  split <;> rfl

theorem poll_no_deinit (board : BodyBoard) (packet : PspPacket) (clear : board.NoDeinit)
    (other : ¬ packet.RequestsDeinit) : (board.poll packet).NoDeinit := by
  rw [poll]
  split
  · rename_i isControl
    apply flags_or_clear _ _ _ clear
    by_contra requests
    exact other ⟨isControl, requests⟩
  · exact clear

theorem poll_other (board : BodyBoard) (packet : PspPacket) (other : packet.id ≠ PSP_PACKID_CONTROL_FLAGS) :
    board.poll packet = board := if_neg other

-- What a packet from the board says about it, as long as it is not told to stop.
def Answers (board : BodyBoard) (packet : PspPacket) : Prop :=
  packet = BodyLink.diagnostics DGN_HARDWARE_INIT_OK ∧ (board.stage = .waitBegin ∨ board.stage = .looping) ∨
    packet = BodyLink.diagnostics DGN_BEGINALL_OK ∧ board.stage = .looping

-- A look at the flags of a board that is not told to stop takes it onwards only.
structure Onwards (board : BodyBoard) : Prop where
  noDeinit : board.check.1.NoDeinit
  begun : board.stage = .waitBegin ∨ board.stage = .looping → board.check.1.stage = .waitBegin ∨ board.check.1.stage = .looping
  looping : board.stage = .looping → board.check.1.stage = .looping
  answered : ∀ code ∈ board.check.2, board.check.1.Answers (BodyLink.diagnostics code)

theorem check_onwards (board : BodyBoard) (clear : board.NoDeinit) : board.Onwards := by
  cases board with
  | mk stage flags enabled =>
      have kept (mask : UInt8) := check_and_clear_stays flags mask DEINIT_HARDWARE clear
      cases stage with
      | waitInit =>
          by_cases set : (checkAndClearBit flags INIT_HARDWARE).2 = true
          · constructor <;> simp [check, set, Answers, NoDeinit, kept]
          · constructor <;> simp_all [check, NoDeinit]
      | waitBegin =>
          by_cases set : (checkAndClearBit flags BEGIN_ALL).2 = true
          · constructor <;> simp [check, set, Answers, NoDeinit, kept]
          · constructor <;> simp_all [check, NoDeinit]
      | looping =>
          have unset : (checkAndClearBit flags DEINIT_HARDWARE).2 = false := by
            rw [check_and_clear_tests]
            exact decide_eq_false (not_not.mpr clear)
          constructor <;> simp_all [check, NoDeinit]
      | restarting => constructor <;> simp [check, setup, NoDeinit]

theorem onwards_answers (board : BodyBoard) (onwards : board.Onwards) (packet : PspPacket)
    (answers : board.Answers packet) : board.check.1.Answers packet := by
  rcases answers with ⟨same, begun⟩ | ⟨same, looping⟩
  · exact .inl ⟨same, onwards.begun begun⟩
  · exact .inr ⟨same, onwards.looping looping⟩

theorem check_off (board : BodyBoard) (off : board.Off) : board.check.1.Off ∧ board.check.2 = none := by
  obtain ⟨disabled, clear, restarting | ⟨waiting, zero⟩⟩ := off
  · rw [check, restarting]
    exact ⟨setup_off, rfl⟩
  · have unset : (checkAndClearBit board.flags INIT_HARDWARE).2 = false := by
      rw [zero, checkAndClearBit, UInt8.zero_and]
      rfl
    rw [check, waiting]
    simp only [unset]
    exact ⟨⟨disabled, clear, .inr ⟨waiting, zero⟩⟩, rfl⟩

-- A board that is told to stop does so at its next look.
theorem check_stops (board : BodyBoard) (looping : board.stage = .looping) (told : ¬ board.NoDeinit) :
    board.check.1.Off := by
  have set : (checkAndClearBit board.flags DEINIT_HARDWARE).2 = true := by
    rw [check_and_clear_tests]
    exact decide_eq_true told
  rw [check, looping]
  simp only [set, if_true]
  exact ⟨rfl, check_and_clear_clears _ _, .inl rfl⟩

theorem check_goes_on (board : BodyBoard) (looping : board.stage = .looping) (clear : board.NoDeinit) :
    board.check = (board, none) := by
  have unset : (checkAndClearBit board.flags DEINIT_HARDWARE).2 = false := by
    rw [check_and_clear_tests]
    exact decide_eq_false (not_not.mpr clear)
  rw [check, looping]
  simp [unset]

end BodyBoard

namespace BodyLink

open BodyBoard

def Calm (link : BodyLink) : Prop := link.board.NoDeinit ∧ ∀ packet ∈ link.up, ¬ packet.RequestsDeinit

def Answered (link : BodyLink) : Prop := ∀ packet ∈ link.down, link.board.Answers packet

def Quiet (link : BodyLink) : Prop := link.board.Off ∧ ∀ packet ∈ link.up, packet.id ≠ PSP_PACKID_CONTROL_FLAGS

-- The joint states of the driver and the board, while no deinit has failed.
inductive Orderly (link : BodyLink) : Prop where
  | closed (driver : link.driver = .idle) (uninitialized : link.initialized = false) (calm : link.Calm)
      (quiet : .beginFailed ∉ link.returned → link.Quiet)
  | starting (driver : link.driver = .awaitsInit) (uninitialized : link.initialized = false) (calm : link.Calm)
      (answered : link.Answered)
  | beginning (driver : link.driver = .awaitsBegin) (uninitialized : link.initialized = false) (calm : link.Calm)
      (answered : link.Answered)
  | running (driver : link.driver = .idle) (initialized : link.initialized = true) (calm : link.Calm)
      (answered : link.Answered) (looping : link.board.stage = .looping)
  | stopping (driver : link.driver = .awaitsDeinit) (initialized : link.initialized = true) (answered : link.Answered)
      (looping : link.board.stage = .looping)
      (last : link.up.Pairwise fun before after => before.RequestsDeinit → after.id ≠ PSP_PACKID_CONTROL_FLAGS)
      (told : ¬ link.board.NoDeinit → ∀ packet ∈ link.up, packet.id ≠ PSP_PACKID_CONTROL_FLAGS)
  | stopped (driver : link.driver = .awaitsDeinit) (initialized : link.initialized = true) (quiet : link.Quiet)

theorem lost_orderly (link : BodyLink) (up down : List PspPacket) (orderly : Orderly link) (upLeft : up.Sublist link.up)
    (downLeft : down.Sublist link.down) : Orderly { link with up := up, down := down } := by
  have calm (before : link.Calm) : Calm { link with up := up, down := down } :=
    ⟨before.1, fun packet inside => before.2 packet (upLeft.subset inside)⟩
  have answered (before : link.Answered) : Answered { link with up := up, down := down } :=
    fun packet inside => before packet (downLeft.subset inside)
  have quiet (before : link.Quiet) : Quiet { link with up := up, down := down } :=
    ⟨before.1, fun packet inside => before.2 packet (upLeft.subset inside)⟩
  cases orderly with
  | closed driver uninitialized before off => exact .closed driver uninitialized (calm before) fun none => quiet (off none)
  | starting driver uninitialized before answers => exact .starting driver uninitialized (calm before) (answered answers)
  | beginning driver uninitialized before answers => exact .beginning driver uninitialized (calm before) (answered answers)
  | running driver initialized before answers looping =>
      exact .running driver initialized (calm before) (answered answers) looping
  | stopping driver initialized answers looping last told =>
      exact .stopping driver initialized (answered answers) looping (last.sublist upLeft)
        fun flagged packet inside => told flagged packet (upLeft.subset inside)
  | stopped driver initialized before => exact .stopped driver initialized (quiet before)

theorem quiet_calm (link : BodyLink) (quiet : link.Quiet) : link.Calm :=
  ⟨quiet.1.2.1, fun packet inside requests => quiet.2 packet inside requests.1⟩

theorem poll_orderly (link : BodyLink) (packet : PspPacket) (rest : List PspPacket) (orderly : Orderly link)
    (waiting : link.up = packet :: rest) : Orderly { link with board := link.board.poll packet, up := rest } := by
  have first : packet ∈ link.up := waiting ▸ List.mem_cons_self
  have later : ∀ other ∈ rest, other ∈ link.up := fun other inside => waiting ▸ List.mem_cons_of_mem packet inside
  have stage := poll_stage link.board packet
  have calm (before : link.Calm) : Calm { link with board := link.board.poll packet, up := rest } :=
    ⟨poll_no_deinit link.board packet before.1 (before.2 packet first), fun other inside => before.2 other (later other inside)⟩
  have answered (before : link.Answered) : Answered { link with board := link.board.poll packet, up := rest } := by
    intro one inside
    simp only [Answers, stage]
    exact before one inside
  have quiet (before : link.Quiet) : Quiet { link with board := link.board.poll packet, up := rest } := by
    refine ⟨?_, fun other inside => before.2 other (later other inside)⟩
    simp only [poll_other link.board packet (before.2 packet first)]
    exact before.1
  cases orderly with
  | closed driver uninitialized before off => exact .closed driver uninitialized (calm before) fun none => quiet (off none)
  | starting driver uninitialized before answers => exact .starting driver uninitialized (calm before) (answered answers)
  | beginning driver uninitialized before answers => exact .beginning driver uninitialized (calm before) (answered answers)
  | running driver initialized before answers looping =>
      exact .running driver initialized (calm before) (answered answers) (stage.trans looping)
  | stopping driver initialized answers looping last told =>
      rw [waiting, List.pairwise_cons] at last
      refine .stopping driver initialized (answered answers) (stage.trans looping) last.2 ?_
      intro flagged other inside
      by_cases clear : link.board.NoDeinit
      · by_cases requests : packet.RequestsDeinit
        · exact last.1 other inside requests
        · exact absurd (poll_no_deinit link.board packet clear requests) flagged
      · exact told clear other (later other inside)
  | stopped driver initialized before => exact .stopped driver initialized (quiet before)

theorem checked_orderly (link : BodyLink) (orderly : Orderly link) : Orderly link.checked := by
  have calm (before : link.Calm) : link.checked.Calm := ⟨(check_onwards link.board before.1).noDeinit, before.2⟩
  have answered (before : link.Calm) (answers : link.Answered) : link.checked.Answered := by
    have onwards := check_onwards link.board before.1
    intro packet inside
    rcases List.mem_append.mp inside with old | new
    · exact onwards_answers link.board onwards packet (answers packet old)
    · rw [Option.mem_toList, Option.map_eq_some_iff] at new
      obtain ⟨code, sent, rfl⟩ := new
      exact onwards.answered code sent
  have quiet (before : link.Quiet) : link.checked.Quiet := ⟨(check_off link.board before.1).1, before.2⟩
  cases orderly with
  | closed driver uninitialized before off => exact .closed driver uninitialized (calm before) fun none => quiet (off none)
  | starting driver uninitialized before answers =>
      exact .starting driver uninitialized (calm before) (answered before answers)
  | beginning driver uninitialized before answers =>
      exact .beginning driver uninitialized (calm before) (answered before answers)
  | running driver initialized before answers looping =>
      exact .running driver initialized (calm before) (answered before answers)
        ((check_onwards link.board before.1).looping looping)
  | stopping driver initialized answers looping last told =>
      by_cases clear : link.board.NoDeinit
      · have same := check_goes_on link.board looping clear
        have unchanged : link.checked = link := by simp [checked, same]
        rw [unchanged]
        exact .stopping driver initialized answers looping last told
      · exact .stopped driver initialized ⟨check_stops link.board looping clear, told clear⟩
  | stopped driver initialized before => exact .stopped driver initialized (quiet before)

theorem control_calm (link : BodyLink) (flag : UInt8) (clear : flag &&& DEINIT_HARDWARE = 0) (calm : link.Calm) :
    Calm { link with up := link.up ++ [control flag] } := by
  refine ⟨calm.1, ?_⟩
  intro packet inside requests
  rcases List.mem_append.mp inside with old | new
  · exact calm.2 packet old requests
  · rw [List.mem_singleton.mp new] at requests
    exact requests.2 clear

theorem ends_returned (link : BodyLink) (result one : Returned) (listed : one ∉ (link.ends result).returned) :
    one ∉ link.returned := fun inside => listed (List.mem_append_left _ inside)

theorem received_returned (link : BodyLink) (packet : PspPacket) (one : Returned)
    (listed : one ∉ (link.received packet).returned) : one ∉ link.returned := by
  rw [received] at listed
  split at listed
  · exact listed
  · split at listed
    · exact listed
    · exact ends_returned link _ one listed
  · split at listed
    · exact ends_returned { link with initialized := true } _ one listed
    · exact ends_returned link _ one listed
  · split at listed
    · exact ends_returned { link with initialized := false } _ one listed
    · exact ends_returned link _ one listed

theorem timed_out_returned (link : BodyLink) (one : Returned) (listed : one ∉ link.timedOut.returned) :
    one ∉ link.returned := by
  rw [timedOut] at listed
  split at listed
  · exact listed
  · exact ends_returned link _ one listed
  · exact ends_returned link _ one listed
  · exact ends_returned link _ one listed

theorem closed_orderly (link : BodyLink) (orderly : Orderly link) (idle : link.driver = .idle)
    (uninitialized : link.initialized = false) : link.Calm ∧ (.beginFailed ∉ link.returned → link.Quiet) := by
  cases orderly with
  | starting driver | beginning driver | stopping driver | stopped driver => cases idle.symm.trans driver
  | running driver initialized => cases uninitialized.symm.trans initialized
  | closed driver _ calm quiet => exact ⟨calm, quiet⟩

-- An opening that resets the board makes up for whatever was left on it.
theorem opened_orderly (link : BodyLink) (resets : Bool) (idle : link.driver = .idle)
    (uninitialized : link.initialized = false) (empty : link.up = [])
    (orderly : .deinitFailed ∉ (link.opened resets).returned → resets = false → Orderly link)
    (sound : .deinitFailed ∉ (link.opened resets).returned) :
    (link.opened resets).Calm ∧ (.beginFailed ∉ (link.opened resets).returned → (link.opened resets).Quiet) := by
  cases resets with
  | false => exact closed_orderly link (orderly sound rfl) idle uninitialized
  | true =>
      have nothing (packet : PspPacket) : packet ∉ link.up := by simp [empty]
      exact ⟨⟨setup_off.2.1, fun packet inside => absurd inside (nothing packet)⟩,
        fun _ => ⟨setup_off, fun packet inside => absurd inside (nothing packet)⟩⟩

theorem begin_orderly (link : BodyLink) (opening : Opening) (resets : Bool)
    (orderly : .deinitFailed ∉ link.returned → Orderly link) (idle : link.driver = .idle)
    (admitted : portOpensEmpty link (.begin_ opening resets)) (sound : .deinitFailed ∉ (link.begin_ opening resets).returned) :
    Orderly (link.begin_ opening resets) := by
  cases initialized : link.initialized with
  | true =>
      simp only [begin_, if_pos initialized] at sound ⊢
      cases orderly (ends_returned link _ _ sound) with
      | starting driver | beginning driver | stopping driver | stopped driver => cases idle.symm.trans driver
      | closed _ uninitialized => cases initialized.symm.trans uninitialized
      | running driver initialized calm answered looping => exact .running rfl initialized calm answered looping
  | false =>
      have same : (link.opened resets).initialized = false := by cases resets <;> exact initialized
      have before (empty : link.up = []) (clean : .deinitFailed ∉ (link.opened resets).returned) :=
        opened_orderly link resets idle initialized empty
          (fun clean unchanged => orderly (by rw [unchanged] at clean; exact clean)) clean
      simp only [begin_, initialized, Bool.false_eq_true, if_false] at sound ⊢
      cases opening with
      | closed =>
          obtain ⟨calm, quiet⟩ := closed_orderly link (orderly (ends_returned link _ _ sound)) idle initialized
          exact .closed rfl initialized calm fun none => quiet (ends_returned link .noDevice _ none)
      | wrongName =>
          obtain ⟨upEmpty, _⟩ := admitted initialized (by decide)
          obtain ⟨calm, quiet⟩ := before upEmpty (ends_returned _ _ _ sound)
          exact .closed rfl same calm fun none => quiet (ends_returned (link.opened resets) .noDevice _ none)
      | found =>
          obtain ⟨upEmpty, downEmpty⟩ := admitted initialized (by decide)
          have nothing : (link.opened resets).down = [] := by cases resets <;> exact downEmpty
          refine .starting rfl same (control_calm _ INIT_HARDWARE (by decide) (before upEmpty sound).1) ?_
          intro packet inside
          rw [nothing] at inside
          cases inside

theorem deinit_orderly (link : BodyLink) (sent : Bool) (orderly : Orderly link) (idle : link.driver = .idle) :
    Orderly (link.deinit sent) := by
  cases orderly with
  | starting driver | beginning driver | stopping driver | stopped driver => cases idle.symm.trans driver
  | closed driver uninitialized calm quiet =>
      rw [deinit, if_neg (by simp [uninitialized])]
      refine .closed rfl uninitialized calm fun none => quiet fun failed => none ?_
      exact List.mem_append_left _ failed
  | running driver initialized calm answered looping =>
      rw [deinit, if_pos initialized]
      cases sent with
      | false => exact .running rfl initialized calm answered looping
      | true =>
          refine .stopping rfl initialized answered looping ?_ fun told => absurd calm.1 told
          refine List.pairwise_append.mpr ⟨?_, List.pairwise_singleton _ _, ?_⟩
          · exact List.Pairwise.imp_of_mem (fun inside _ _ requests => absurd requests (calm.2 _ inside))
              (List.pairwise_of_forall fun _ _ => trivial)
          · exact fun packet inside _ _ requests => absurd requests (calm.2 packet inside)

theorem flush_orderly (link : BodyLink) (payload : List UInt8) (orderly : Orderly link) (idle : link.driver = .idle) :
    Orderly { link with up := link.up ++ [⟨PSP_PACKID_MOTION, payload⟩] } := by
  have calm (before : link.Calm) : Calm { link with up := link.up ++ [⟨PSP_PACKID_MOTION, payload⟩] } := by
    refine ⟨before.1, fun packet inside requests => ?_⟩
    rcases List.mem_append.mp inside with old | new
    · exact before.2 packet old requests
    · rw [List.mem_singleton.mp new] at requests
      exact absurd requests.1 (by simp [PSP_PACKID_MOTION, PSP_PACKID_CONTROL_FLAGS])
  cases orderly with
  | starting driver | beginning driver | stopping driver | stopped driver => cases idle.symm.trans driver
  | running driver initialized before answered looping => exact .running driver initialized (calm before) answered looping
  | closed driver uninitialized before quiet =>
      refine .closed driver uninitialized (calm before) fun none => ⟨(quiet none).1, fun packet inside => ?_⟩
      rcases List.mem_append.mp inside with old | new
      · exact (quiet none).2 packet old
      · rw [List.mem_singleton.mp new]
        exact (by simp [PSP_PACKID_MOTION, PSP_PACKID_CONTROL_FLAGS])

-- A packet that begin() or deinit() reads takes the driver on, or the call fails.
theorem received_orderly (link : BodyLink) (packet : PspPacket) (rest : List PspPacket) (orderly : Orderly link)
    (arrived : link.down = packet :: rest) (awaits : link.driver ≠ .idle)
    (sound : .deinitFailed ∉ ({ link with down := rest }.received packet).returned) :
    Orderly ({ link with down := rest }.received packet) := by
  have left : rest.Sublist link.down := arrived ▸ List.sublist_cons_self packet rest
  have first : packet ∈ link.down := arrived ▸ List.mem_cons_self
  have failed (calm : link.Calm) (uninitialized : link.initialized = false) :
      Orderly ({ link with down := rest }.ends .beginFailed) :=
    .closed rfl uninitialized calm fun none => absurd (List.mem_append_right _ List.mem_cons_self) none
  cases orderly with
  | closed driver | running driver => exact absurd driver awaits
  | starting driver uninitialized calm answered =>
      simp only [received, driver]
      split
      · exact .beginning rfl uninitialized (control_calm _ BEGIN_ALL (by decide) calm)
          fun other inside => answered other (left.subset inside)
      · exact failed calm uninitialized
  | beginning driver uninitialized calm answered =>
      simp only [received, driver]
      split
      · rename_i begun
        refine .running rfl rfl calm (fun other inside => answered other (left.subset inside)) ?_
        rcases answered packet first with ⟨other, _⟩ | ⟨_, looping⟩
        · exact absurd (begun.symm.trans other) (by decide)
        · exact looping
      · exact failed calm uninitialized
  | stopping driver initialized answered looping last told =>
      exfalso
      simp only [received, driver] at sound
      split at sound
      · rename_i done
        rcases answered packet first with ⟨other, _⟩ | ⟨other, _⟩
        · exact absurd (done.symm.trans other) (by decide)
        · exact absurd (done.symm.trans other) (by decide)
      · exact sound (List.mem_append_right _ List.mem_cons_self)
  | stopped driver initialized quiet =>
      simp only [received, driver] at sound ⊢
      split at sound
      · rename_i done
        rw [if_pos done]
        exact .closed rfl rfl (quiet_calm link quiet) fun _ => quiet
      · exact absurd (List.mem_append_right _ List.mem_cons_self) sound

theorem timed_out_orderly (link : BodyLink) (orderly : Orderly link) (awaits : link.driver ≠ .idle)
    (sound : .deinitFailed ∉ link.timedOut.returned) : Orderly link.timedOut := by
  have failed (calm : link.Calm) (uninitialized : link.initialized = false) : Orderly (link.ends .beginFailed) :=
    .closed rfl uninitialized calm fun none => absurd (List.mem_append_right _ List.mem_cons_self) none
  cases orderly with
  | closed driver | running driver => exact absurd driver awaits
  | starting driver uninitialized calm | beginning driver uninitialized calm =>
      rw [timedOut, driver]
      exact failed calm uninitialized
  | stopping driver | stopped driver =>
      rw [timedOut, driver] at sound
      exact absurd (List.mem_append_right _ List.mem_cons_self) sound

theorem step_orderly (link target : BodyLink) (action : LinkAction) (admitted : portOpensEmpty link action)
    (orderly : .deinitFailed ∉ link.returned → Orderly link) (moved : link.step action = some target)
    (sound : .deinitFailed ∉ target.returned) : Orderly target := by
  cases action with
  | begin_ opening resets =>
      simp only [step, Option.ite_none_right_eq_some, Option.some.injEq] at moved
      obtain ⟨idle, rfl⟩ := moved
      exact begin_orderly link opening resets orderly idle admitted sound
  | deinit sent =>
      simp only [step, Option.ite_none_right_eq_some, Option.some.injEq] at moved
      obtain ⟨idle, rfl⟩ := moved
      refine deinit_orderly link sent (orderly ?_) idle
      intro failed
      rw [deinit] at sound
      split at sound
      · split at sound
        · exact sound failed
        · exact ends_returned link _ _ sound failed
      · exact ends_returned link _ _ sound failed
  | flush payload =>
      simp only [step, Option.ite_none_right_eq_some, Option.some.injEq] at moved
      obtain ⟨idle, rfl⟩ := moved
      exact flush_orderly link payload (orderly sound) idle
  | received =>
      simp only [step] at moved
      split at moved
      · cases moved
      · cases moved
      · rename_i packet rest arrived awaits
        cases moved
        have clean := received_returned { link with down := rest } packet .deinitFailed sound
        exact received_orderly link packet rest (orderly clean) arrived awaits sound
  | timedOut =>
      simp only [step, Option.ite_none_left_eq_some, Option.some.injEq] at moved
      obtain ⟨awaits, rfl⟩ := moved
      exact timed_out_orderly link (orderly (timed_out_returned link _ sound)) awaits sound
  | loseUp index =>
      cases moved
      exact lost_orderly link _ _ (orderly sound) (List.eraseIdx_sublist _ _) (List.Sublist.refl _)
  | loseDown index =>
      cases moved
      exact lost_orderly link _ _ (orderly sound) (List.Sublist.refl _) (List.eraseIdx_sublist _ _)
  | poll =>
      simp only [step] at moved
      split at moved
      · cases moved
      · cases moved
      · rename_i packet rest waiting _
        cases moved
        exact poll_orderly link packet rest (orderly sound) waiting
  | check =>
      cases moved
      exact checked_orderly link (orderly sound)

theorem init_orderly : Orderly init :=
  .closed rfl rfl ⟨setup_off.2.1, fun _ inside => nomatch inside⟩ fun _ => ⟨setup_off, fun _ inside => nomatch inside⟩

theorem reached_orderly (link : BodyLink) (reached : Reached bodyLink portOpensEmpty link)
    (sound : .deinitFailed ∉ link.returned) : Orderly link := by
  have invariant : .deinitFailed ∉ link.returned → Orderly link := by
    apply reached_invariant bodyLink portOpensEmpty (fun link => .deinitFailed ∉ link.returned → Orderly link) _ _ link reached
    · intro link started _
      rw [started]
      exact init_orderly
    · intro source action target orderly admitted moved sound
      exact step_orderly source target action admitted orderly moved sound
  exact invariant sound

-- What a step does to the board.
inductive BoardMove (board : BodyBoard) : BodyBoard → Prop where
  | stays : BoardMove board board
  | resets : BoardMove board .setup
  | polls (packet : PspPacket) : BoardMove board (board.poll packet)
  | checks : BoardMove board board.check.1

theorem begin_board (link : BodyLink) (opening : Opening) (resets : Bool) :
    BoardMove link.board (link.begin_ opening resets).board := by
  cases initialized : link.initialized with
  | true =>
      simp only [begin_, if_pos initialized]
      exact .stays
  | false =>
      simp only [begin_, initialized, Bool.false_eq_true, if_false]
      cases opening with
      | closed => exact .stays
      | wrongName => cases resets with
          | false => exact .stays
          | true => exact .resets
      | found => cases resets with
          | false => exact .stays
          | true => exact .resets

theorem deinit_board (link : BodyLink) (sent : Bool) : (link.deinit sent).board = link.board := by
  rw [deinit]
  split
  · split <;> rfl
  · rfl

theorem received_board (link : BodyLink) (packet : PspPacket) : (link.received packet).board = link.board := by
  rw [received]
  split
  · rfl
  · split <;> rfl
  · split <;> rfl
  · split <;> rfl

theorem timed_out_board (link : BodyLink) : link.timedOut.board = link.board := by
  rw [timedOut]
  split <;> rfl

theorem step_board (link target : BodyLink) (action : LinkAction) (moved : link.step action = some target) :
    BoardMove link.board target.board := by
  cases action with
  | begin_ opening resets =>
      simp only [step, Option.ite_none_right_eq_some, Option.some.injEq] at moved
      obtain ⟨_, rfl⟩ := moved
      exact begin_board link opening resets
  | deinit sent =>
      simp only [step, Option.ite_none_right_eq_some, Option.some.injEq] at moved
      obtain ⟨_, rfl⟩ := moved
      rw [deinit_board]
      exact .stays
  | flush payload =>
      simp only [step, Option.ite_none_right_eq_some, Option.some.injEq] at moved
      obtain ⟨_, rfl⟩ := moved
      exact .stays
  | received =>
      simp only [step] at moved
      split at moved
      · cases moved
      · cases moved
      · cases moved
        rw [received_board]
        exact .stays
  | timedOut =>
      simp only [step, Option.ite_none_left_eq_some, Option.some.injEq] at moved
      obtain ⟨_, rfl⟩ := moved
      rw [timed_out_board]
      exact .stays
  | loseUp index =>
      cases moved
      exact .stays
  | loseDown index =>
      cases moved
      exact .stays
  | poll =>
      simp only [step] at moved
      split at moved
      · cases moved
      · cases moved
      · cases moved
        exact .polls _
  | check =>
      cases moved
      exact .checks

theorem step_powered (link target : BodyLink) (action : LinkAction) (powered : link.board.Powered)
    (moved : link.step action = some target) : target.board.Powered := by
  have move := step_board link target action moved
  generalize target.board = after at move ⊢
  cases move with
  | stays => exact powered
  | resets => simp [Powered, setup]
  | polls packet => exact poll_powered link.board packet powered
  | checks => exact check_powered link.board powered

theorem reached_powered (link : BodyLink) (reached : Reached bodyLink portOpensEmpty link) : link.board.Powered := by
  apply reached_invariant bodyLink portOpensEmpty (fun link => link.board.Powered) _ _ link reached
  · intro link started
    rw [started]
    simp [Powered, init, setup]
  · intro source action target powered _ moved
    exact step_powered source target action powered moved

-- When begin() has returned True the board is in its loop with the motors on and
-- nothing tells it to stop, unless a deinit() failed since an opening last reset it.
theorem begun_board_runs (link : BodyLink) (reached : Reached bodyLink portOpensEmpty link)
    (sound : .deinitFailed ∉ link.returned) (begun : link.initialized = true) (idle : link.driver = .idle) :
    link.board.stage = .looping ∧ link.board.enabled = true ∧ link.Calm := by
  cases reached_orderly link reached sound with
  | starting driver | beginning driver | stopping driver | stopped driver => cases idle.symm.trans driver
  | closed _ uninitialized => cases begun.symm.trans uninitialized
  | running _ _ calm _ looping => exact ⟨looping, (reached_powered link reached).mpr (.inr looping), calm⟩

-- When the driver is not initialized the motors are off and stay off whatever still
-- arrives, unless a begin() or a deinit() failed since an opening last reset the board.
theorem ended_board_off (link : BodyLink) (reached : Reached bodyLink portOpensEmpty link)
    (sound : .deinitFailed ∉ link.returned ∧ .beginFailed ∉ link.returned) (ended : link.initialized = false)
    (idle : link.driver = .idle) : link.board.enabled = false ∧ link.Quiet := by
  have quiet := (closed_orderly link (reached_orderly link reached sound.1) idle ended).2 sound.2
  exact ⟨quiet.1.1, quiet⟩

def begins (resets : Bool) : List LinkAction :=
  [.begin_ .found resets, .poll, .check, .received, .poll, .check, .received]

theorem begun_board_runs_first : ∃ link, Reached bodyLink portOpensEmpty link ∧
    link.board.stage = .looping ∧ link.board.enabled = true ∧ link.Calm := by
  obtain ⟨link, reached, sound, begun, idle⟩ := replay_exists bodyLink portOpensEmpty (begins true) init
    (fun link => .deinitFailed ∉ link.returned ∧ link.initialized = true ∧ link.driver = .idle) rfl (by decide)
  exact ⟨link, reached, begun_board_runs link reached sound begun idle⟩

theorem ended_board_off_first : ∃ link, Reached bodyLink portOpensEmpty link ∧
    link.returned = [.begun, .deinitDone] ∧ link.board.enabled = false ∧ link.Quiet := by
  obtain ⟨link, reached, returned, ended, idle⟩ := replay_exists bodyLink portOpensEmpty
    (begins true ++ [.deinit true, .poll, .check, .received]) init
    (fun link => link.returned = [.begun, .deinitDone] ∧ link.initialized = false ∧ link.driver = .idle) rfl (by decide)
  exact ⟨link, reached, returned, ended_board_off link reached (by rw [returned]; decide) ended idle⟩

-- A deinit() that is repeated after its answer came too late leaves its flag on the
-- board, which stops the next begin()'s motors under a driver that is initialized.
theorem repeated_deinit_stops_next_begin : ∃ link, Reached bodyLink portOpensEmpty link ∧
    link.initialized = true ∧ link.driver = .idle ∧ link.board.enabled = false :=
  replay_exists bodyLink portOpensEmpty
    (begins true ++ [.deinit true, .poll, .check, .timedOut, .check, .deinit true, .received, .poll] ++ begins false ++
      [.check]) init
    (fun link => link.initialized = true ∧ link.driver = .idle ∧ link.board.enabled = false) rfl (by decide)

end BodyLink

end Animacharacter.Firmware
