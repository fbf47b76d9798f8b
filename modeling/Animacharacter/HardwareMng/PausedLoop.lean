import Animacharacter.HardwareMng.LoopThread

set_option autoImplicit false

namespace Animacharacter.HardwareMng

open StepSystem

-- One loop of the supervisor, and beside it `held`: the threads that have
-- blocked at the wait with no resume since. `stray` lists those of them that
-- have called the job.
structure LoopRun where
  loop : Loop Unit
  held : List Nat
  stray : List Nat
deriving DecidableEq

-- What is done to a loop. start_all, pause_all, resume_all and stop_all do it to
-- one loop after another; the executor's thread alone starts loops.
inductive LoopOperation where
  | start (paused started : Bool)
  | pause
  | resume
  | requestStop
  | finishStop
  | thread (number : Nat) (handler : HandlerResult)
  | callJob (number : Nat)
  | leaveJob (number : Nat) (result : JobResult)

namespace LoopRun

def init : LoopRun := ⟨Loop.init, [], []⟩

def newlyHeld (loop : Loop Unit) (number : Nat) : List Nat :=
  if loop.threads[number]? = some .blocked then [number] else []

def callJob (run : LoopRun) (number : Nat) : Option LoopRun :=
  if run.loop.threads[number]? = some .released then
    some { run with
      loop := run.loop.moveTo number (.inJob ())
      stray := if number ∈ run.held then run.stray ++ [number] else run.stray }
  else none

def leaveJob (run : LoopRun) (number : Nat) (result : JobResult) : Option LoopRun :=
  if run.loop.threads[number]? = some (.inJob ()) then
    some { run with loop := run.loop.moveTo number (Place.afterJob result) }
  else none

def step (run : LoopRun) : LoopOperation → Option LoopRun
  | .start paused started => some { run with loop := run.loop.startLoop paused started }
  | .pause => some { run with loop := run.loop.setLoopPaused true }
  | .resume => some { run with loop := run.loop.setLoopPaused false, held := [] }
  | .requestStop => some { run with loop := run.loop.requestStop }
  | .finishStop => run.loop.finishStop.map fun loop => { run with loop }
  | .thread number handler =>
      (run.loop.threadStep number handler).map fun loop => { run with loop, held := run.held ++ newlyHeld loop number }
  | .callJob number => run.callJob number
  | .leaveJob number result => run.leaveJob number result

-- A stop that sets the wait event finds no thread blocked at it.
def stopsUnblocked (run : LoopRun) : LoopOperation → Prop
  | .finishStop => Place.blocked ∉ run.loop.threads
  | _ => True

instance (run : LoopRun) : (operation : LoopOperation) → Decidable (run.stopsUnblocked operation)
  | .finishStop => inferInstanceAs (Decidable (¬ _))
  | .start _ _ | .pause | .resume | .requestStop | .thread _ _ | .callJob _ | .leaveJob _ _ =>
      inferInstanceAs (Decidable True)

structure Held (run : LoopRun) : Prop where
  one : run.loop.OneLive
  held : ∀ number ∈ run.held, run.loop.threads[number]? = some .blocked
  stray : run.stray = []

theorem init_held : init.Held := by
  refine ⟨fun number alive => ?_, by simp [init], rfl⟩
  simp [init, Loop.init, Loop.liveAt] at alive

-- A held thread keeps every thread of its loop, itself included, where it is.
theorem held_alone (run : LoopRun) (good : run.Held) (number : Nat) (place : Place Unit)
    (present : run.loop.threads[number]? = some place) (alive : place.live = true) (moves : place ≠ .blocked) :
    run.held = [] := by
  refine List.eq_nil_iff_forall_not_mem.mpr fun other member => moves ?_
  exact Loop.blocked_alone run.loop good.one other number place (good.held other member) present alive

theorem move_held (run : LoopRun) (good : run.Held) (number : Nat) (old place : Place Unit)
    (present : run.loop.threads[number]? = some old) (alive : old.live = true) (moves : old ≠ .blocked) :
    ({ run with loop := run.loop.moveTo number place } : LoopRun).Held := by
  refine ⟨fun other live => ?_, ?_, good.stray⟩
  · exact good.one other (Loop.move_to_live run.loop number old place present alive other live)
  · simp [held_alone run good number old present alive moves]

theorem start_held (run : LoopRun) (good : run.Held) (paused started : Bool) :
    ({ run with loop := run.loop.startLoop paused started } : LoopRun).Held := by
  refine ⟨Loop.start_loop_one_live run.loop paused started good.one, fun number member => ?_, good.stray⟩
  have blocked := good.held number member
  have running := Loop.one_live_running run.loop good.one number ((Loop.live_at_iff _ number).mpr ⟨_, blocked, rfl⟩)
  rw [Loop.startLoop, if_pos running]
  exact blocked

theorem finish_stop_held (run : LoopRun) (good : run.Held) (loop : Loop Unit)
    (finished : run.loop.finishStop = some loop) (unblocked : Place.blocked ∉ run.loop.threads) :
    ({ run with loop } : LoopRun).Held := by
  refine ⟨Loop.within_one_live _ _ (Loop.finish_stop_within run.loop loop finished) good.one, fun number member => ?_,
    good.stray⟩
  exact absurd (List.mem_of_getElem? (good.held number member)) unblocked

theorem thread_held (run : LoopRun) (good : run.Held) (loop : Loop Unit) (number : Nat) (handler : HandlerResult)
    (moved : run.loop.threadStep number handler = some loop) :
    ({ run with loop, held := run.held ++ newlyHeld loop number } : LoopRun).Held := by
  obtain ⟨place, _, present, alive, moves, _⟩ := Loop.thread_step_cases run.loop loop number handler moved
  refine ⟨Loop.within_one_live _ _ (Loop.thread_step_within _ loop number handler moved) good.one, ?_, good.stray⟩
  intro other member
  simp only [held_alone run good number place present alive moves, List.nil_append, newlyHeld] at member
  split at member
  · rename_i blocked
    rw [List.mem_singleton.mp member]
    exact blocked
  · cases member

theorem step_held (run after : LoopRun) (operation : LoopOperation) (good : run.Held)
    (unblocked : run.stopsUnblocked operation) (moved : run.step operation = some after) : after.Held := by
  cases operation with
  | start paused started =>
      cases moved
      exact start_held run good paused started
  | pause =>
      cases moved
      exact ⟨good.one, good.held, good.stray⟩
  | resume =>
      cases moved
      exact ⟨Loop.within_one_live _ _ (Loop.set_loop_paused_within run.loop false) good.one, by simp, good.stray⟩
  | requestStop =>
      cases moved
      refine ⟨Loop.within_one_live _ _ (Loop.request_stop_within run.loop) good.one, ?_, good.stray⟩
      intro number member
      simp only [Loop.requestStop]
      split <;> exact good.held number member
  | finishStop =>
      simp only [step, Option.map_eq_some_iff] at moved
      obtain ⟨loop, finished, rfl⟩ := moved
      exact finish_stop_held run good loop finished unblocked
  | thread number handler =>
      simp only [step, Option.map_eq_some_iff] at moved
      obtain ⟨loop, stepped, rfl⟩ := moved
      exact thread_held run good loop number handler stepped
  | callJob number =>
      simp only [step, callJob] at moved
      split at moved
      · rename_i present
        cases moved
        have alone := held_alone run good number .released present rfl (by simp)
        have entered := move_held run good number .released (.inJob ()) present rfl (by simp)
        refine ⟨entered.one, entered.held, ?_⟩
        simp [alone, good.stray]
      · cases moved
  | leaveJob number result =>
      simp only [step, leaveJob] at moved
      split at moved
      · rename_i present
        cases moved
        exact move_held run good number (.inJob ()) (Place.afterJob result) present rfl (by simp)
      · cases moved

-- The stop that finds a thread blocked sends it into the job.
theorem stop_runs_job (run : LoopRun) (number : Nat) (member : number ∈ run.held)
    (blocked : run.loop.threads[number]? = some .blocked) (stopping : 0 < run.loop.stopping) :
    ∃ stopped called, run.step .finishStop = some stopped ∧ stopped.step (.callJob number) = some called ∧
      called.stray = run.stray ++ [number] := by
  obtain ⟨rest, count⟩ := Nat.exists_eq_add_of_lt stopping
  have finished : run.loop.finishStop = some ({ run.loop with stopping := rest } : Loop Unit).setWait := by
    simp [Loop.finishStop, count]
  have woken : ({ run.loop with stopping := rest } : Loop Unit).setWait.threads[number]? = some .released := by
    rw [Loop.set_wait_threads]
    simp [blocked, Place.release]
  refine ⟨_, _, by rw [step, finished]; rfl, by rw [step, callJob, if_pos woken], ?_⟩
  simp [member]

end LoopRun

def loopThread : System LoopRun LoopOperation where
  start run := run = LoopRun.init
  step := LoopRun.step

def loopSupervisor : System (List LoopRun) (Nat × LoopOperation) := pool loopThread

def stopsUnblocked : List LoopRun → Nat × LoopOperation → Prop := poolAllowed LoopRun.stopsUnblocked

instance (loops : List LoopRun) (action : Nat × LoopOperation) : Decidable (stopsUnblocked loops action) :=
  inferInstanceAs (Decidable (poolAllowed LoopRun.stopsUnblocked loops action))

-- Where no stop finds a thread blocked at the wait, a thread that has blocked
-- there calls the job only after a resume.
theorem paused_loop_idle (loops : List LoopRun) (reached : Reached loopSupervisor stopsUnblocked loops) :
    ∀ run ∈ loops, run.stray = [] := by
  have good := pool_invariant loopThread LoopRun.stopsUnblocked LoopRun.Held (fun run fresh => fresh ▸ LoopRun.init_held)
    (fun run operation after held unblocked moved => LoopRun.step_held run after operation held unblocked moved) loops reached
  exact fun run member => (good run member).stray

def stoppedInSleep : List (Nat × LoopOperation) :=
  [(0, .start true true), (0, .thread 0 .returned), (0, .thread 0 .returned), (0, .resume), (0, .callJob 0),
    (0, .leaveJob 0 (.returned none)), (0, .thread 0 .returned), (0, .requestStop), (0, .finishStop),
    (0, .thread 0 .returned), (0, .thread 0 .returned)]

theorem one_loop_starts : loopSupervisor.start [LoopRun.init] := fun _ member => List.mem_singleton.mp member

theorem paused_loop_idle_stopped :
    ∃ loops : List LoopRun, (∃ run ∈ loops, run.loop.threads = [.ended]) ∧ ∀ run ∈ loops, run.stray = [] := by
  obtain ⟨loops, reached, stopped⟩ := replay_exists loopSupervisor stopsUnblocked stoppedInSleep [LoopRun.init]
    (fun loops => ∃ run ∈ loops, run.loop.threads = [.ended]) one_loop_starts (by decide)
  exact ⟨loops, stopped, paused_loop_idle loops reached⟩

-- Started paused, its thread blocked at the wait, a loop is stopped.
def stoppedPaused : List (Nat × LoopOperation) :=
  [(0, .start true true), (0, .thread 0 .returned), (0, .thread 0 .returned), (0, .requestStop), (0, .finishStop),
    (0, .callJob 0), (0, .leaveJob 0 (.returned none)), (0, .thread 0 .returned)]

theorem paused_loop_runs_job :
    ∃ loops, Reached loopSupervisor anyAction loops ∧ ∃ run ∈ loops, run.stray = [0] ∧ run.loop.threads = [.ended] :=
  replay_exists loopSupervisor anyAction stoppedPaused [LoopRun.init]
    (fun loops => ∃ run ∈ loops, run.stray = [0] ∧ run.loop.threads = [.ended]) one_loop_starts (by decide)

end Animacharacter.HardwareMng
