import Animacharacter.Library.StepSystem

set_option autoImplicit false

namespace Animacharacter.SessionMng

open StepSystem

structure SessionStartResult where
  success : Bool
  errorMsg : Option String := none
deriving DecidableEq

-- How user code and the interpreter answer: a good value, a refusal that is
-- returned, or an exception, the last two with their text.
inductive Outcome where
  | ok
  | refused (exc : String)
  | raises (exc : String)
deriving DecidableEq

-- Where a call of new_session is. From `start` to `record` it holds the lock;
-- `returned none` is a call left by an exception of the criteria.
inductive CallPc where
  | check
  | criteria
  | create
  | recheck
  | refuse
  | start
  | joining
  | abandon (exc : String)
  | record
  | returned (result : Option SessionStartResult)
deriving DecidableEq

-- Where a runner thread is in its wrapper: in `run`, in the cleanup callbacks in
-- front of the manager's, at the manager's destroy_session, before the manager
-- clears active_session, in the callbacks after that, or over.
inductive RunnerPc where
  | run
  | cleanup
  | destroy
  | clear
  | userCleanup
  | ended
deriving DecidableEq

-- How a part of the cleanup ends: well, with a failed destruction or an Exception,
-- which are logged, or with an exception that leaves the wrapper's loop and ends
-- the thread: a BaseException that is no Exception, or one whose logging raises.
inductive CleanupEnd where
  | ok
  | fails
  | exits
deriving DecidableEq

-- One call of new_session with the context it creates and the handle of its
-- runner. A call makes one session at most, so its place among the calls names
-- the session. `foundDead` records that the start-up check found no live thread,
-- `leftEarly` that the thread ended in front of the manager's cleanup.
structure Call where
  pc : CallPc
  context : Bool
  thread : Option RunnerPc
  stopRequest : Bool
  destroyed : Nat
  foundDead : Bool
  leftEarly : Bool
deriving DecidableEq

-- Where a call of terminate_session is. It holds the lock in `take` and `clear`;
-- `returned none` is the AttributeError of a handle that was None.
inductive TerminatePc where
  | check
  | take
  | clear (handle : Option Nat)
  | signal (handle : Option Nat)
  | joining (handle : Nat)
  | returned (result : Option Bool)
deriving DecidableEq

inductive Owner where
  | newSession (index : Nat)
  | terminateSession (index : Nat)
deriving DecidableEq

-- `foreignClear` records that a cleanup has cleared another session's entry.
structure SessionManager where
  calls : List Call
  terminations : List TerminatePc
  activeSession : Option Nat
  lock : Option Owner
  foreignClear : Bool
deriving DecidableEq

namespace Call

def fresh : Call := ⟨.check, false, none, false, 0, false, false⟩

def isAlive (call : Call) : Bool :=
  match call.thread with
  | none => false
  | some pc => pc ≠ .ended

def fails (call : Call) (errorMsg : String) : Call := { call with pc := .returned (some ⟨false, some errorMsg⟩) }

def destroySession (call : Call) : Call := { call with destroyed := call.destroyed + 1 }

def succeeded (call : Call) : Bool := call.pc = .returned (some ⟨true, none⟩)

end Call

namespace SessionManager

def init : SessionManager := ⟨[], [], none, none, false⟩

def setCall (manager : SessionManager) (index : Nat) (call : Call) : SessionManager :=
  { manager with calls := manager.calls.set index call }

def setTermination (manager : SessionManager) (index : Nat) (pc : TerminatePc) : SessionManager :=
  { manager with terminations := manager.terminations.set index pc }

-- One step of new_session; it waits where the lock is taken.
def newSessionStep (manager : SessionManager) (index : Nat) (call : Call) (outcome : Outcome) : Option SessionManager :=
  match call.pc with
  | .check =>
      if manager.lock ≠ none then none
      else if manager.activeSession ≠ none then
        some (manager.setCall index (call.fails "A session is already active."))
      else some (manager.setCall index { call with pc := .criteria })
  | .criteria =>
      match outcome with
      | .ok => some (manager.setCall index { call with pc := .create })
      | .refused _ => some (manager.setCall index (call.fails "Session creation criteria not met."))
      | .raises _ => some (manager.setCall index { call with pc := .returned none })
  | .create =>
      match outcome with
      | .ok => some (manager.setCall index { call with pc := .recheck, context := true })
      | .refused exc | .raises exc =>
          some (manager.setCall index (call.fails s!"Session resource creation failed: {exc}"))
  | .recheck =>
      if manager.lock ≠ none then none
      else if manager.activeSession ≠ none then
        some { manager.setCall index { call with pc := .refuse } with lock := some (.newSession index) }
      else some { manager.setCall index { call with pc := .start } with lock := some (.newSession index) }
  | .refuse =>
      some { manager.setCall index (call.destroySession.fails "A session is already active.") with lock := none }
  | .start =>
      match outcome with
      | .ok => some (manager.setCall index { call with pc := .joining, thread := some .run })
      | .refused exc | .raises exc => some (manager.setCall index { call with pc := .abandon exc })
  -- The join has returned, because the thread ended or by its timeout.
  | .joining =>
      if call.isAlive then some (manager.setCall index { call with pc := .record })
      else some (manager.setCall index
        { call with pc := .abandon "Session runner thread unable to start.", foundDead := true })
  | .abandon exc =>
      some { manager.setCall index (call.destroySession.fails s!"Session runner failed to start: {exc}") with lock := none }
  | .record =>
      some { manager.setCall index { call with pc := .returned (some ⟨true, none⟩) } with
        activeSession := some index, lock := none }
  | .returned _ => none

-- One step of the runner's wrapper, on its own thread and without the lock.
def runnerStep (manager : SessionManager) (index : Nat) (call : Call) (ending : CleanupEnd) : Option SessionManager :=
  match call.thread with
  | none => none
  | some .run => some (manager.setCall index { call with thread := some .cleanup })
  | some .cleanup =>
      match ending with
      | .ok | .fails => some (manager.setCall index { call with thread := some .destroy })
      | .exits => some (manager.setCall index { call with thread := some .ended, leftEarly := true })
  | some .destroy =>
      match ending with
      | .ok => some (manager.setCall index { call.destroySession with thread := some .clear })
      | .fails => some (manager.setCall index { call.destroySession with thread := some .userCleanup })
      | .exits => some (manager.setCall index { call.destroySession with thread := some .ended })
  | some .clear =>
      some { manager.setCall index { call with thread := some .userCleanup } with
        activeSession := none
        foreignClear := manager.foreignClear || (manager.activeSession.any fun active => active ≠ index) }
  | some .userCleanup => some (manager.setCall index { call with thread := some .ended })
  | some .ended => none

def terminateStep (manager : SessionManager) (index : Nat) : TerminatePc → Option SessionManager
  | .check =>
      if manager.lock ≠ none then none
      else if manager.activeSession = none then some (manager.setTermination index (.returned (some false)))
      else some { manager.setTermination index .take with lock := some (.terminateSession index) }
  | .take => some (manager.setTermination index (.clear manager.activeSession))
  | .clear handle => some { manager.setTermination index (.signal handle) with activeSession := none, lock := none }
  | .signal none => some (manager.setTermination index (.returned none))
  | .signal (some handle) =>
      match manager.calls[handle]? with
      | none => none
      | some call =>
          some ((manager.setCall handle { call with stopRequest := true }).setTermination index (.joining handle))
  -- The join has returned, because the thread ended or by its timeout.
  | .joining handle =>
      match manager.calls[handle]? with
      | none => none
      | some call => some (manager.setTermination index (.returned (some !call.isAlive)))
  | .returned _ => none

end SessionManager

inductive SessionAction where
  | newSession
  | newSessionStep (index : Nat) (outcome : Outcome)
  | terminateSession
  | terminateStep (index : Nat)
  | runnerStep (index : Nat) (ending : CleanupEnd)

def SessionManager.step (manager : SessionManager) : SessionAction → Option SessionManager
  | .newSession => some { manager with calls := manager.calls ++ [Call.fresh] }
  | .newSessionStep index outcome =>
      match manager.calls[index]? with
      | none => none
      | some call => manager.newSessionStep index call outcome
  | .terminateSession => some { manager with terminations := manager.terminations ++ [.check] }
  | .terminateStep index =>
      match manager.terminations[index]? with
      | none => none
      | some pc => manager.terminateStep index pc
  | .runnerStep index ending =>
      match manager.calls[index]? with
      | none => none
      | some call => manager.runnerStep index call ending

def sessionManager : System SessionManager SessionAction where
  start manager := manager = SessionManager.init
  step := SessionManager.step

def Each {Item : Type} (property : Nat → Item → Prop) (items : List Item) : Prop :=
  ∀ index item, items[index]? = some item → property index item

section

variable {Item : Type} (property : Nat → Item → Prop)

theorem each_replaced (items : List Item) (index : Nat) (next : Item)
    (others : Each (fun other item => other ≠ index → property other item) items) (holds : property index next) :
    Each property (items.set index next) := by
  intro other item present
  rw [List.getElem?_set] at present
  split at present
  · rename_i same
    split at present
    · cases present
      rw [← same]
      exact holds
    · cases present
  · rename_i distinct
    exact others other item present (Ne.symm distinct)

theorem each_set (items : List Item) (index : Nat) (next : Item) (each : Each property items)
    (holds : property index next) : Each property (items.set index next) :=
  each_replaced property items index next (fun other item present _ => each other item present) holds

theorem each_append (items : List Item) (next : Item) (each : Each property items)
    (holds : property items.length next) : Each property (items ++ [next]) := by
  intro index item present
  rcases Nat.lt_trichotomy index items.length with inside | last | beyond
  · rw [List.getElem?_append_left inside] at present
    exact each index item present
  · subst last
    rw [List.getElem?_append_right (Nat.le_refl _), Nat.sub_self] at present
    cases present
    exact holds
  · rw [List.getElem?_append_right (Nat.le_of_lt beyond)] at present
    have outside : ([next] : List Item)[index - items.length]? = none := by
      rw [List.getElem?_eq_none_iff, List.length_singleton]
      omega
    rw [outside] at present
    cases present

end

-- A termination starts or drops nothing but the entry of active_session and
-- asks at most one session to stop.
structure Terminates (manager next : SessionManager) : Prop where
  calls : next.calls = manager.calls ∨ ∃ handle call, manager.calls[handle]? = some call ∧
    next.calls = manager.calls.set handle { call with stopRequest := true }
  activeSession : next.activeSession = manager.activeSession ∨ next.activeSession = none
  foreignClear : next.foreignClear = manager.foreignClear

theorem terminate_step_terminates (manager next : SessionManager) (index : Nat) (pc : TerminatePc)
    (moved : manager.terminateStep index pc = some next) : Terminates manager next := by
  cases pc with
  | check =>
      simp only [SessionManager.terminateStep] at moved
      split at moved
      · cases moved
      · split at moved <;> cases moved <;> exact ⟨.inl rfl, .inl rfl, rfl⟩
  | take => cases moved; exact ⟨.inl rfl, .inl rfl, rfl⟩
  | clear handle => cases moved; exact ⟨.inl rfl, .inr rfl, rfl⟩
  | signal handle =>
      cases handle with
      | none => cases moved; exact ⟨.inl rfl, .inl rfl, rfl⟩
      | some handle =>
          simp only [SessionManager.terminateStep] at moved
          split at moved
          · cases moved
          · rename_i call present
            cases moved
            exact ⟨.inr ⟨handle, call, present, rfl⟩, .inl rfl, rfl⟩
  | joining handle =>
      simp only [SessionManager.terminateStep] at moved
      split at moved <;> cases moved
      exact ⟨.inl rfl, .inl rfl, rfl⟩
  | returned result => cases moved

theorem terminates_each (property : Nat → Call → Prop) (manager next : SessionManager)
    (terminates : Terminates manager next) (each : Each property manager.calls)
    (stops : ∀ index call, property index call → property index { call with stopRequest := true }) :
    Each property next.calls := by
  rcases terminates.calls with same | ⟨handle, call, present, replaced⟩
  · rw [same]
    exact each
  · rw [replaced]
    exact each_set property manager.calls handle _ each (stops handle call (each handle call present))

end Animacharacter.SessionMng
