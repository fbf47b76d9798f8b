import Mathlib.Data.List.Basic

set_option autoImplicit false

namespace Animacharacter.SessionMng

-- An exception, by whether `except Exception` catches it.
inductive CleanupRaised where
  | exception (text : String)
  | baseException (text : String)
deriving DecidableEq

def CleanupRaised.escapes : CleanupRaised → Bool
  | .exception _ => false
  | .baseException _ => true

-- A cleanup callback, by where its body runs: in the call, in the awaitable that
-- the call returns, or in part in each.
inductive SessionCleanupCallable where
  | synchronous
  | coroutine
  | mixed
deriving DecidableEq

namespace SessionCleanupCallable

def runsInCall : SessionCleanupCallable → Bool
  | .synchronous | .mixed => true
  | .coroutine => false

def isAwaitable : SessionCleanupCallable → Bool
  | .synchronous => false
  | .coroutine | .mixed => true

end SessionCleanupCallable

-- One end of a session: what run, the calls of the callback (by their number) and
-- the destruction of the context raise, and the executor that the provider gives,
-- by whether it comes to run a task.
structure SessionEnd where
  runRaises : Option CleanupRaised
  callRaises : Nat → Option CleanupRaised
  destroyRaises : Option CleanupRaised
  executorProvider : Option Bool

-- The callback's calls and the tasks scheduled for what it returned, with what
-- the runner has recorded.
structure Cleanup where
  calls : Nat
  tasks : Nat
  crashException : Option CleanupRaised
  errors : List CleanupRaised
deriving DecidableEq

inductive CleanupEntry where
  | cleanup
  | cleanupCb
  | cleanupActiveSession
  | userCleanup
deriving DecidableEq

namespace SessionRunner

def init (given : Option CleanupEntry) : List CleanupEntry := .cleanup :: given.toList

def addSessionCleanupCb (cleanupCbs : List CleanupEntry) (added : CleanupEntry) : List CleanupEntry :=
  cleanupCbs ++ [added]

end SessionRunner

open SessionRunner

def ACSessionRunner.init (given : CleanupEntry) : List CleanupEntry :=
  addSessionCleanupCb (SessionRunner.init none) given

def sessionManagerInit (sessRunner : List CleanupEntry) (sessionCleanupCb : Option CleanupEntry) : List CleanupEntry :=
  let own := addSessionCleanupCb sessRunner .cleanupActiveSession
  match sessionCleanupCb with
  | none => own
  | some given => addSessionCleanupCb own given

-- The runner's list of the manager that create_session_manager returns.
def createSessionManager : List CleanupEntry :=
  sessionManagerInit (ACSessionRunner.init .cleanupCb) (some .userCleanup)

section Ending

variable (cb : SessionCleanupCallable) (session : SessionEnd)

-- A call of the callback, and whether what it returns is awaitable.
def callCleanupCb (state : Cleanup) : Cleanup × Except CleanupRaised Bool :=
  ({ state with calls := state.calls + 1 },
    match session.callRaises state.calls with
    | some raised => .error raised
    | none => .ok cb.isAwaitable)

def userCleanup (state : Cleanup) : Cleanup × Option CleanupRaised :=
  match callCleanupCb cb session state with
  | (after, .error raised) => (after, some raised)
  | (after, .ok false) => (after, none)
  | (after, .ok true) =>
      match session.executorProvider with
      | none => (after, some (.exception "Executor is missing, cannot schedule cleanup cb"))
      | some _ => ({ after with tasks := after.tasks + 1 }, none)

-- destroy_session turns an Exception into a failed result.
def cleanupActiveSession (state : Cleanup) : Cleanup × Option CleanupRaised :=
  (state, session.destroyRaises.filter CleanupRaised.escapes)

def CleanupEntry.run (state : Cleanup) : CleanupEntry → Cleanup × Option CleanupRaised
  | .cleanup => (state, none)
  | .cleanupCb =>
      match callCleanupCb cb session state with
      | (after, .error raised) => (after, some raised)
      | (after, .ok _) => (after, none)
  | .cleanupActiveSession => SessionMng.cleanupActiveSession session state
  | .userCleanup => SessionMng.userCleanup cb session state

-- The loop over the list, and what left it.
def runCleanupCbs : List CleanupEntry → Cleanup → Cleanup × Option CleanupRaised
  | [], state => (state, none)
  | cln :: rest, state =>
      match cln.run cb session state with
      | (after, none) => runCleanupCbs rest after
      | (after, some raised) =>
          if raised.escapes then (after, some raised)
          else runCleanupCbs rest { after with errors := after.errors ++ [raised] }

def runSessionWrapper : Cleanup × Option CleanupRaised :=
  runCleanupCbs cb session createSessionManager ⟨0, 0, session.runRaises, []⟩

end Ending

-- A BaseException goes through the loop's `except Exception`.
def leaves (raised : Option CleanupRaised) : Bool := raised.any CleanupRaised.escapes

def Cleanup.record (state : Cleanup) (raised : Option CleanupRaised) : Cleanup :=
  { state with errors := state.errors ++ raised.toList }

theorem leaves_filter (raised : Option CleanupRaised) :
    leaves (raised.filter CleanupRaised.escapes) = leaves raised := by
  cases raised with
  | none => rfl
  | some raised => cases raised <;> rfl

section Ended

variable (cb : SessionCleanupCallable) (session : SessionEnd)

theorem run_cleanup_cons (cln : CleanupEntry) (rest : List CleanupEntry) (state : Cleanup) :
    runCleanupCbs cb session (cln :: rest) state =
      if leaves (cln.run cb session state).2 then cln.run cb session state
      else runCleanupCbs cb session rest ((cln.run cb session state).1.record (cln.run cb session state).2) := by
  rw [runCleanupCbs]
  rcases cln.run cb session state with ⟨after, _ | raised⟩
  · simp [leaves, Cleanup.record]
  · cases stops : raised.escapes <;> simp [leaves, Cleanup.record, stops]

theorem cleanup_cb_run (state : Cleanup) :
    CleanupEntry.cleanupCb.run cb session state =
      ({ state with calls := state.calls + 1 }, session.callRaises state.calls) := by
  rw [CleanupEntry.run, callCleanupCb]
  cases session.callRaises state.calls <;> rfl

def schedules (call : Nat) : Bool :=
  (session.callRaises call).isNone && cb.isAwaitable && session.executorProvider.isSome

theorem user_cleanup_run (state : Cleanup) :
    (CleanupEntry.userCleanup.run cb session state).1 =
      { state with
        calls := state.calls + 1
        tasks := state.tasks + if schedules cb session state.calls then 1 else 0 } := by
  cases outcome : session.callRaises state.calls with
  | some raised => simp [CleanupEntry.run, userCleanup, callCleanupCb, schedules, outcome]
  | none =>
      cases awaitable : cb.isAwaitable with
      | false => simp [CleanupEntry.run, userCleanup, callCleanupCb, schedules, outcome, awaitable]
      | true =>
          cases executor : session.executorProvider <;>
            simp [CleanupEntry.run, userCleanup, callCleanupCb, schedules, outcome, awaitable, executor]

-- The session's loop does not come to the last entry.
def EndsEarly : Prop := leaves (session.callRaises 0) ∨ leaves session.destroyRaises

instance decidableEndsEarly : Decidable (EndsEarly session) := by
  unfold EndsEarly
  infer_instance

theorem run_cleanup_last (cln : CleanupEntry) (state : Cleanup) :
    (runCleanupCbs cb session [cln] state).1.calls = (cln.run cb session state).1.calls ∧
      (runCleanupCbs cb session [cln] state).1.tasks = (cln.run cb session state).1.tasks := by
  rw [run_cleanup_cons]
  split
  · exact ⟨rfl, rfl⟩
  · exact ⟨rfl, rfl⟩

theorem wrapper_counts :
    (runSessionWrapper cb session).1.calls = (if EndsEarly session then 1 else 2) ∧
      (runSessionWrapper cb session).1.tasks =
        if EndsEarly session then 0 else if schedules cb session 1 then 1 else 0 := by
  have list : createSessionManager = [.cleanup, .cleanupCb, .cleanupActiveSession, .userCleanup] := rfl
  rw [runSessionWrapper, list, run_cleanup_cons, if_neg (by simp [CleanupEntry.run, leaves]),
    run_cleanup_cons, cleanup_cb_run]
  by_cases first : leaves (session.callRaises 0) = true
  · simp [EndsEarly, first, CleanupEntry.run, Cleanup.record]
  rw [if_neg (by simpa [CleanupEntry.run, Cleanup.record] using first), run_cleanup_cons]
  simp only [CleanupEntry.run, cleanupActiveSession, leaves_filter]
  by_cases destroy : leaves session.destroyRaises = true
  · simp [EndsEarly, destroy, Cleanup.record]
  rw [if_neg destroy, (run_cleanup_last cb session _ _).1, (run_cleanup_last cb session _ _).2, user_cleanup_run]
  simp [EndsEarly, first, destroy, Cleanup.record]

def TakesEffectOnce : Prop :=
  (cb.runsInCall = true → (runSessionWrapper cb session).1.calls = 1) ∧
    (cb.isAwaitable = true →
      session.executorProvider = some true ∧ (runSessionWrapper cb session).1.tasks = 1)

-- When it does, by the kind of the callback.
def OnceWhen : Prop :=
  match cb with
  | .synchronous => EndsEarly session
  | .coroutine => ¬ EndsEarly session ∧ session.callRaises 1 = none ∧ session.executorProvider = some true
  | .mixed => False

theorem cleanup_takes_effect_once : TakesEffectOnce cb session ↔ OnceWhen cb session := by
  obtain ⟨calls, tasks⟩ := wrapper_counts cb session
  rw [TakesEffectOnce, calls, tasks]
  by_cases early : EndsEarly session
  · cases cb <;> simp [OnceWhen, early, SessionCleanupCallable.runsInCall, SessionCleanupCallable.isAwaitable]
  · cases cb with
    | synchronous => simp [OnceWhen, early, SessionCleanupCallable.runsInCall]
    | mixed => simp [OnceWhen, early, SessionCleanupCallable.runsInCall]
    | coroutine =>
        cases raises : session.callRaises 1 <;> cases executor : session.executorProvider <;>
          simp [OnceWhen, early, schedules, raises, executor, SessionCleanupCallable.runsInCall,
            SessionCleanupCallable.isAwaitable]

end Ended

def normalEnd : SessionEnd := ⟨none, fun _ => none, none, some true⟩

-- A synchronous callback at an ordinary end of a session: called by both entries.
theorem synchronous_called_twice : (runSessionWrapper .synchronous normalEnd).1.calls = 2 ∧
    ¬ TakesEffectOnce .synchronous normalEnd := by
  have twice : (runSessionWrapper .synchronous normalEnd).1.calls = 2 := rfl
  refine ⟨twice, ?_⟩
  intro once
  have single := once.1 rfl
  rw [twice] at single
  cases single

-- The node's own cleanup is a coroutine function.
example : TakesEffectOnce .coroutine normalEnd := by
  apply And.intro
  · intro inCall
    cases inCall
  · intro _
    exact ⟨rfl, rfl⟩

end Animacharacter.SessionMng
