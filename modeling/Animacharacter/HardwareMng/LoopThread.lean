import Animacharacter.Library.StepSystem
import Animacharacter.HardwareMng.Looper

set_option autoImplicit false

namespace Animacharacter.HardwareMng

-- Where a thread is in `_loop`. At `released` it is past the wait, with the job
-- still to be called; `emit` is the part from the signal handler on.
inductive Place (Job : Type) where
  | whileRun
  | waitEvent
  | blocked
  | released
  | inJob (job : Job)
  | clearWait (signal : Option Signal)
  | clearRun (signal : Option Signal)
  | setWait (signal : Option Signal)
  | emit (action : LoopAction) (signal : Option Signal)
  | exitTest
  | sleep
  | ended
deriving DecidableEq

-- How the job is left. With `exits` the thread is left too: by a SystemExit, or
-- by an exception callback that raises.
inductive JobResult where
  | returned (request : Option LoopRequest)
  | raised
  | exits

inductive HandlerResult where
  | returned
  | raised
  | exits

namespace Place

variable {Job : Type}

def live : Place Job → Bool
  | .ended => false
  | _ => true

-- Setting the event lets a waiting thread go, also when it is cleared at once.
def release : Place Job → Place Job
  | .blocked => .released
  | place => place

def afterJob : JobResult → Place Job
  | .returned none => .exitTest
  | .returned (some request) =>
      match request.action with
      | .PAUSE => .clearWait request.signal
      | .STOP => .clearRun request.signal
      | .CONTINUE => .emit .CONTINUE request.signal
  | .raised => .exitTest
  | .exits => .ended

def afterEmit (action : LoopAction) : HandlerResult → Place Job
  | .returned => if action = .STOP then .ended else .exitTest
  | .raised => .exitTest
  | .exits => .ended

end Place

inductive ThreadObject where
  | absent
  | created
  | started (number : Nat)
deriving DecidableEq

-- A loop with its two events: the place of every thread that was ever started
-- for it, and the thread object its descriptor holds. `stopping` counts the
-- stops that have cleared `_run` and have not yet set `_wait`.
structure Loop (Job : Type) where
  run : Bool
  wait : Bool
  thread : ThreadObject
  threads : List (Place Job)
  stopping : Nat
deriving DecidableEq

namespace Loop

variable {Job : Type}

def init : Loop Job := ⟨false, false, .absent, [], 0⟩

def liveAt (loop : Loop Job) (number : Nat) : Bool := (loop.threads[number]?).any Place.live

def isRunning (loop : Loop Job) : Bool :=
  match loop.thread with
  | .started number => loop.liveAt number
  | _ => false

def isPaused (loop : Loop Job) : Bool := !loop.wait

def moveTo (loop : Loop Job) (number : Nat) (place : Place Job) : Loop Job :=
  { loop with threads := loop.threads.set number place }

def setWait (loop : Loop Job) : Loop Job := { loop with wait := true, threads := loop.threads.map Place.release }

def setLoopPaused (loop : Loop Job) (paused : Bool) : Loop Job :=
  if paused then { loop with wait := false } else loop.setWait

def makeThread (loop : Loop Job) : Loop Job := { loop with thread := .created, run := true }

def startThread (loop : Loop Job) (started : Bool) : Loop Job :=
  if started then { loop with thread := .started loop.threads.length, threads := loop.threads ++ [.whileRun] } else loop

def startLoop (loop : Loop Job) (paused started : Bool) : Loop Job :=
  if loop.isRunning then loop else (loop.makeThread.setLoopPaused paused).startThread started

def clearRun (loop : Loop Job) : Loop Job := { loop with run := false }

-- A stop in its two parts. Threads go on between them.
def requestStop (loop : Loop Job) : Loop Job :=
  if loop.isRunning then { loop.clearRun with stopping := loop.stopping + 1 } else loop

def finishStop (loop : Loop Job) : Option (Loop Job) :=
  match loop.stopping with
  | 0 => none
  | rest + 1 => some { loop with stopping := rest }.setWait

-- A thread's step outside the job. A thread in the wait is moved by the event
-- alone; a loop without a handler is one whose handler returns.
def threadStep (loop : Loop Job) (number : Nat) (handler : HandlerResult) : Option (Loop Job) :=
  match loop.threads[number]? with
  | none | some .blocked | some .released | some (.inJob _) | some .ended => none
  | some .whileRun => some (loop.moveTo number (if loop.run then .waitEvent else .ended))
  | some .waitEvent => some (loop.moveTo number (if loop.wait then .released else .blocked))
  | some (.clearWait signal) => some ({ loop with wait := false }.moveTo number (.emit .PAUSE signal))
  | some (.clearRun signal) => some (loop.clearRun.moveTo number (.setWait signal))
  | some (.setWait signal) => some (loop.moveTo number (.emit .STOP signal)).setWait
  | some (.emit action none) => some (loop.moveTo number (Place.afterEmit action .returned))
  | some (.emit action (some _)) => some (loop.moveTo number (Place.afterEmit action handler))
  | some .exitTest => some (loop.moveTo number (if loop.run then .sleep else .ended))
  | some .sleep => some (loop.moveTo number .whileRun)

-- At most one thread of a loop is alive, and it is the one the descriptor holds.
def OneLive (loop : Loop Job) : Prop := ∀ number, loop.liveAt number = true → loop.thread = .started number

-- Nothing came to life and nothing entered the job.
structure Within (after before : Loop Job) : Prop where
  thread : after.thread = before.thread
  live : ∀ number, after.liveAt number = true → before.liveAt number = true
  jobs : ∀ (number : Nat) (job : Job), after.threads[number]? = some (.inJob job) → before.threads[number]? = some (.inJob job)

theorem within_trans (last middle first : Loop Job) (later : last.Within middle) (earlier : middle.Within first) :
    last.Within first :=
  ⟨later.thread.trans earlier.thread, fun number alive => earlier.live number (later.live number alive),
    fun number job inside => earlier.jobs number job (later.jobs number job inside)⟩

theorem same_threads_within (after before : Loop Job) (thread : after.thread = before.thread)
    (threads : after.threads = before.threads) : after.Within before := by
  refine ⟨thread, fun number alive => ?_, fun number job inside => threads ▸ inside⟩
  rw [liveAt, threads] at alive
  exact alive

theorem live_at_iff (loop : Loop Job) (number : Nat) :
    loop.liveAt number = true ↔ ∃ place, loop.threads[number]? = some place ∧ place.live = true := by
  simp [liveAt, Option.any_eq_true]

theorem release_live (place : Place Job) : place.release.live = place.live := by
  cases place <;> rfl

theorem release_in_job (place : Place Job) (job : Job) : place.release = .inJob job ↔ place = .inJob job := by
  cases place <;> simp [Place.release]

theorem set_wait_threads (loop : Loop Job) (number : Nat) :
    loop.setWait.threads[number]? = (loop.threads[number]?).map Place.release := by
  simp [setWait]

theorem set_wait_within (loop : Loop Job) : loop.setWait.Within loop := by
  refine ⟨rfl, fun number alive => ?_, fun number job inside => ?_⟩
  · rw [liveAt, set_wait_threads] at alive
    rw [liveAt]
    cases present : loop.threads[number]? with
    | none => simp [present] at alive
    | some place => simpa [present, release_live] using alive
  · rw [set_wait_threads] at inside
    obtain ⟨place, present, released⟩ := Option.map_eq_some_iff.mp inside
    rw [present, (release_in_job place job).mp released]

theorem move_to_self (loop : Loop Job) (number : Nat) (old place : Place Job)
    (present : loop.threads[number]? = some old) : (loop.moveTo number place).threads[number]? = some place :=
  List.getElem?_set_self (List.getElem?_eq_some_iff.mp present).1

theorem move_to_other (loop : Loop Job) (number other : Nat) (place : Place Job) (distinct : number ≠ other) :
    (loop.moveTo number place).threads[other]? = loop.threads[other]? :=
  List.getElem?_set_ne distinct

theorem move_to_live (loop : Loop Job) (number : Nat) (old place : Place Job)
    (present : loop.threads[number]? = some old) (alive : old.live = true) (other : Nat)
    (live : (loop.moveTo number place).liveAt other = true) : loop.liveAt other = true := by
  by_cases same : number = other
  · subst same
    exact (live_at_iff loop number).mpr ⟨old, present, alive⟩
  · rwa [liveAt, move_to_other loop number other place same] at live

theorem move_to_within (loop : Loop Job) (number : Nat) (old place : Place Job)
    (present : loop.threads[number]? = some old) (alive : old.live = true) (outside : ∀ job, place ≠ .inJob job) :
    (loop.moveTo number place).Within loop := by
  refine ⟨rfl, move_to_live loop number old place present alive, fun other job inside => ?_⟩
  by_cases same : number = other
  · subst same
    rw [move_to_self loop number old place present] at inside
    exact absurd (Option.some.inj inside) (outside job)
  · rwa [move_to_other loop number other place same] at inside

theorem after_job_outside (result : JobResult) (job : Job) : Place.afterJob result ≠ .inJob job := by
  cases result with
  | returned request =>
      cases request with
      | none => simp [Place.afterJob]
      | some request =>
          simp only [Place.afterJob]
          cases request.action <;> simp
  | raised => simp [Place.afterJob]
  | exits => simp [Place.afterJob]

theorem after_emit_outside (action : LoopAction) (handler : HandlerResult) (job : Job) :
    Place.afterEmit action handler ≠ .inJob job := by
  cases handler with
  | returned =>
      simp only [Place.afterEmit]
      split <;> simp
  | raised => simp [Place.afterEmit]
  | exits => simp [Place.afterEmit]

theorem branch_outside (test : Bool) (one other : Place Job) (first : ∀ job, one ≠ .inJob job)
    (second : ∀ job, other ≠ .inJob job) (job : Job) : (if test then one else other) ≠ .inJob job := by
  cases test with
  | true => exact first job
  | false => exact second job

theorem thread_step_cases (loop after : Loop Job) (number : Nat) (handler : HandlerResult)
    (moved : loop.threadStep number handler = some after) :
    ∃ place target, loop.threads[number]? = some place ∧ place.live = true ∧ place ≠ .blocked ∧
      (∀ job, target ≠ .inJob job) ∧ after.Within (loop.moveTo number target) := by
  have same (changed : Loop Job) : changed.Within changed := same_threads_within changed changed rfl rfl
  cases present : loop.threads[number]? with
  | none => simp [threadStep, present] at moved
  | some place =>
      cases place with
      | blocked | released | inJob job | ended => simp [threadStep, present] at moved
      | whileRun =>
          simp only [threadStep, present, Option.some.injEq] at moved
          subst moved
          exact ⟨.whileRun, _, rfl, rfl, by simp, branch_outside loop.run .waitEvent .ended (by simp) (by simp), same _⟩
      | waitEvent =>
          simp only [threadStep, present, Option.some.injEq] at moved
          subst moved
          exact ⟨.waitEvent, _, rfl, rfl, by simp, branch_outside loop.wait .released .blocked (by simp) (by simp), same _⟩
      | clearWait signal =>
          simp only [threadStep, present, Option.some.injEq] at moved
          subst moved
          exact ⟨.clearWait signal, .emit .PAUSE signal, rfl, rfl, by simp, by simp, same_threads_within _ _ rfl rfl⟩
      | clearRun signal =>
          simp only [threadStep, present, Option.some.injEq] at moved
          subst moved
          exact ⟨.clearRun signal, .setWait signal, rfl, rfl, by simp, by simp, same_threads_within _ _ rfl rfl⟩
      | setWait signal =>
          simp only [threadStep, present, Option.some.injEq] at moved
          subst moved
          exact ⟨.setWait signal, .emit .STOP signal, rfl, rfl, by simp, by simp, set_wait_within _⟩
      | emit action signal =>
          cases signal with
          | none =>
              simp only [threadStep, present, Option.some.injEq] at moved
              subst moved
              exact ⟨.emit action none, _, rfl, rfl, by simp, after_emit_outside action .returned, same _⟩
          | some signal =>
              simp only [threadStep, present, Option.some.injEq] at moved
              subst moved
              exact ⟨.emit action (some signal), _, rfl, rfl, by simp, after_emit_outside action handler, same _⟩
      | exitTest =>
          simp only [threadStep, present, Option.some.injEq] at moved
          subst moved
          exact ⟨.exitTest, _, rfl, rfl, by simp, branch_outside loop.run .sleep .ended (by simp) (by simp), same _⟩
      | sleep =>
          simp only [threadStep, present, Option.some.injEq] at moved
          subst moved
          exact ⟨.sleep, .whileRun, rfl, rfl, by simp, by simp, same _⟩

theorem thread_step_within (loop after : Loop Job) (number : Nat) (handler : HandlerResult)
    (moved : loop.threadStep number handler = some after) : after.Within loop := by
  obtain ⟨place, target, present, alive, _, outside, within⟩ := thread_step_cases loop after number handler moved
  exact within_trans after _ loop within (move_to_within loop number place target present alive outside)

theorem set_loop_paused_within (loop : Loop Job) (paused : Bool) : (loop.setLoopPaused paused).Within loop := by
  cases paused with
  | true => exact same_threads_within _ _ rfl rfl
  | false => exact set_wait_within loop

theorem request_stop_within (loop : Loop Job) : loop.requestStop.Within loop := by
  simp only [requestStop]
  split <;> exact same_threads_within _ _ rfl rfl

theorem finish_stop_within (loop after : Loop Job) (finished : loop.finishStop = some after) : after.Within loop := by
  simp only [finishStop] at finished
  split at finished
  · cases finished
  · cases finished
    exact within_trans _ _ _ (set_wait_within _) (same_threads_within _ _ rfl rfl)

theorem within_one_live (after before : Loop Job) (within : after.Within before) (one : before.OneLive) : after.OneLive :=
  fun number alive => within.thread.trans (one number (within.live number alive))

theorem one_live_running (loop : Loop Job) (one : loop.OneLive) (number : Nat) (alive : loop.liveAt number = true) :
    loop.isRunning = true := by
  rw [isRunning, one number alive]
  exact alive

theorem running_before (after before : Loop Job) (thread : after.thread = before.thread)
    (live : ∀ number, after.liveAt number = true → before.liveAt number = true) (running : after.isRunning = true) :
    before.isRunning = true := by
  simp only [isRunning, thread] at running ⊢
  cases object : before.thread with
  | started number =>
      rw [object] at running
      exact live number running
  | absent | created => simp [object] at running

theorem make_thread_one_live (loop : Loop Job) (one : loop.OneLive) (stopped : loop.isRunning = false) :
    loop.makeThread.OneLive := by
  intro number alive
  have running := one_live_running loop one number alive
  rw [stopped] at running
  cases running

theorem start_thread_one_live (loop : Loop Job) (started : Bool) (one : loop.OneLive) (fresh : loop.thread = .created) :
    (loop.startThread started).OneLive := by
  cases started with
  | false => exact one
  | true =>
      intro number alive
      obtain ⟨place, present, live⟩ := (live_at_iff _ number).mp alive
      simp only [startThread, if_true] at present ⊢
      by_cases old : number < loop.threads.length
      · rw [List.getElem?_append_left old] at present
        have held := one number ((live_at_iff loop number).mpr ⟨place, present, live⟩)
        rw [fresh] at held
        cases held
      · have inside := (List.getElem?_eq_some_iff.mp present).1
        simp only [List.length_append, List.length_singleton] at inside
        rw [show number = loop.threads.length by omega]

theorem start_thread_jobs (loop : Loop Job) (started : Bool) (number : Nat) (job : Job)
    (inside : (loop.startThread started).threads[number]? = some (.inJob job)) :
    loop.threads[number]? = some (.inJob job) := by
  cases started with
  | false => exact inside
  | true =>
      simp only [startThread, if_true] at inside
      by_cases old : number < loop.threads.length
      · rwa [List.getElem?_append_left old] at inside
      · rw [List.getElem?_append_right (Nat.le_of_not_lt old)] at inside
        have only := List.mem_singleton.mp (List.mem_of_getElem? inside)
        cases only

theorem start_loop_one_live (loop : Loop Job) (paused started : Bool) (one : loop.OneLive) :
    (loop.startLoop paused started).OneLive := by
  by_cases running : loop.isRunning = true
  · rw [startLoop, if_pos running]
    exact one
  · rw [startLoop, if_neg running]
    have made := make_thread_one_live loop one (Bool.eq_false_iff.mpr running)
    have paused := set_loop_paused_within loop.makeThread paused
    exact start_thread_one_live _ started (within_one_live _ _ paused made) paused.thread

theorem blocked_alone (loop : Loop Job) (one : loop.OneLive) (number other : Nat) (place : Place Job)
    (blocked : loop.threads[number]? = some .blocked) (present : loop.threads[other]? = some place)
    (alive : place.live = true) : place = .blocked := by
  have held := one number ((live_at_iff loop number).mpr ⟨.blocked, blocked, rfl⟩)
  have same := one other ((live_at_iff loop other).mpr ⟨place, present, alive⟩)
  rw [held] at same
  cases same
  rw [blocked] at present
  exact (Option.some.inj present).symm

end Loop

end Animacharacter.HardwareMng
