import Animacharacter.Library.StepSystem
import Animacharacter.Alerts.Server

set_option autoImplicit false

namespace Animacharacter.Alerts

open StepSystem

-- rclpy.task.Future, which is not part of the repository. `called` says whether
-- its done callbacks were called, which happens once; `result` is none for None.
structure Futures (Result : Type) where
  Future : Type
  fresh : Future
  setResult : Future → Result → Future
  cancel : Future → Future
  done : Future → Bool
  result : Future → Option Result
  called : Future → Bool

-- A future without an executor calls its callbacks itself, when it gets its
-- result or is cancelled.
structure Futures.Documented {Result : Type} (futures : Futures Result) : Prop where
  freshDone : futures.done futures.fresh = false
  freshCalled : futures.called futures.fresh = false
  setDone : ∀ future result, futures.done (futures.setResult future result) = true
  setCalled : ∀ future result, futures.called (futures.setResult future result) = true
  setResult : ∀ future result, futures.called future = false →
    futures.result (futures.setResult future result) = some result
  cancelCalled : ∀ future, futures.called (futures.cancel future) = true
  cancelResult : ∀ future, futures.called future = false → futures.result (futures.cancel future) = none
  doneCalled : ∀ future, futures.done future = true → futures.called future = true

-- Where the coroutine of a wait_alert_change stands.
inductive WaiterStage where
  | waiting
  | returned (result : Option Change)
  | raised
deriving DecidableEq

inductive WaitEvent where
  | published (change : Change)
  | timedOut (index : Nat)
  | cancelled (index : Nat)
deriving DecidableEq

section Model

variable (futures : (Result : Type) → Futures Result)

-- A call of wait_alert_change with the futures of it and of wait_future;
-- `created` says whether create_timer returns, `registered` is the length of
-- the log at the call.
structure Waiter where
  timeout : ℚ
  created : Bool
  future : (futures Change).Future
  resultFuture : (futures (Option Change)).Future
  stage : WaiterStage
  registered : Nat

structure Waiting where
  server : SysAlertsServer
  waiters : List (Waiter futures)
  changeWaiters : List Nat
  log : List WaitEvent

-- `raising` has the changes for which the change callback raises.
inductive WaitAction where
  | waitAlertChange (timeout : ℚ) (created : Bool)
  | raiseAlert (now : ℚ) (alert : Alert) (raising : List Change)
  | clearAlert (now : ℚ) (code : Int) (raising : List Change)
  | handleRequest (now : ℚ) (message : AlertAction) (raising : List Change)
  | expireAlerts (now : ℚ) (raising : List Change)
  | timeout (index : Nat)
  | cancel (index : Nat)
  | resume (index : Nat)

variable {futures}

namespace Waiter

-- `_complete`, if the change of the future calls it. No one sets an exception.
def complete (waiter : Waiter futures) (source : (futures Change).Future) : Waiter futures :=
  if (futures Change).called waiter.future = false ∧ (futures Change).called source = true ∧
      (futures (Option Change)).done waiter.resultFuture = false then
    { waiter with
      future := source
      resultFuture := (futures (Option Change)).setResult waiter.resultFuture ((futures Change).result source) }
  else { waiter with future := source }

def notify (change : Change) (waiter : Waiter futures) : Waiter futures :=
  if (futures Change).done waiter.future = true then waiter
  else waiter.complete ((futures Change).setResult waiter.future change)

-- `_timeout`
def expire (waiter : Waiter futures) : Waiter futures :=
  if (futures (Option Change)).done waiter.resultFuture = true then waiter
  else { waiter with resultFuture := (futures (Option Change)).setResult waiter.resultFuture none }

def cancel (waiter : Waiter futures) : Waiter futures := waiter.complete ((futures Change).cancel waiter.future)

-- What `await result_future` gives.
def outcome (waiter : Waiter futures) : Option Change := ((futures (Option Change)).result waiter.resultFuture).join

end Waiter

namespace Waiting

-- A timeout that is not positive raises in wait_future, before the callback and
-- the timer; either way `finally` takes the future off the list again.
def waitAlertChange (state : Waiting futures) (timeout : ℚ) (created : Bool) : Waiting futures :=
  { state with
    waiters := state.waiters ++ [{
      timeout := timeout
      created := created
      future := (futures Change).fresh
      resultFuture := (futures (Option Change)).fresh
      stage := if 0 < timeout ∧ created = true then .waiting else .raised
      registered := state.log.length }]
    changeWaiters :=
      if 0 < timeout ∧ created = true then state.changeWaiters ++ [state.waiters.length] else state.changeWaiters }

def notifyOne (change : Change) (state : Waiting futures) (index : Nat) : Waiting futures :=
  { state with waiters := state.waiters.modify index (Waiter.notify change) }

-- The end of _apply_change: false is for a change callback that raises.
def changed (state : Waiting futures) (raising : List Change) (applied : SysAlertsServer × Option Change) :
    Waiting futures × Bool :=
  match applied.2 with
  | none => ({ state with server := applied.1 }, true)
  | some change =>
      let published := { state with server := applied.1, log := state.log ++ [.published change] }
      if change ∈ raising then (published, false)
      else (published.changeWaiters.foldl (notifyOne change) published, true)

-- An exception ends the loop of _expire_alerts.
def expireLoop (now : ℚ) (raising : List Change) : List Alert → Waiting futures → Waiting futures
  | [], state => state
  | alert :: rest, state =>
      match state.changed raising (state.server.clearAlertFromCode now alert.code) with
      | (state, true) => expireLoop now raising rest state
      | (state, false) => state

def step (state : Waiting futures) : WaitAction → Option (Waiting futures)
  | .waitAlertChange timeout created => some (state.waitAlertChange timeout created)
  | .raiseAlert now alert raising => some (state.changed raising (state.server.raiseAlert now alert)).1
  | .clearAlert now code raising => some (state.changed raising (state.server.clearAlert now code)).1
  | .handleRequest now message raising => some (state.changed raising (state.server.handleRequest now message)).1
  | .expireAlerts now raising => some (expireLoop now raising (state.server.expiredAlerts now) state)
  | .timeout index =>
      match state.waiters[index]? with
      | some waiter =>
          -- The timer is destroyed as the waiter returns.
          if waiter.stage = .waiting then
            some { state with
              waiters := state.waiters.set index waiter.expire
              log := state.log ++ [.timedOut index] }
          else none
      | none => none
  | .cancel index =>
      match state.waiters[index]? with
      | some waiter => some { state with
          waiters := state.waiters.set index waiter.cancel
          log := state.log ++ [.cancelled index] }
      | none => none
  | .resume index =>
      match state.waiters[index]? with
      | some waiter =>
          if waiter.stage = .waiting ∧ (futures (Option Change)).done waiter.resultFuture = true then
            some { state with
              waiters := state.waiters.set index { waiter with stage := .returned waiter.outcome }
              changeWaiters := state.changeWaiters.erase index }
          else none
      | none => none

end Waiting

variable (futures) in
def alertWaiters : System (Waiting futures) WaitAction where
  start state := state = ⟨.init, [], [], []⟩
  step := Waiting.step

-- The change callback returns.
def Returning (_ : Waiting futures) : WaitAction → Prop
  | .raiseAlert _ _ raising | .clearAlert _ _ raising | .handleRequest _ _ raising | .expireAlerts _ raising =>
      raising = []
  | .waitAlertChange _ _ | .timeout _ | .cancel _ | .resume _ => True

instance (state : Waiting futures) : (action : WaitAction) → Decidable (Returning state action)
  | .raiseAlert _ _ raising | .clearAlert _ _ raising | .handleRequest _ _ raising | .expireAlerts _ raising =>
      inferInstanceAs (Decidable (raising = []))
  | .waitAlertChange _ _ | .timeout _ | .cancel _ | .resume _ => inferInstanceAs (Decidable True)

-- What an event decides for a waiter: a change, or (None, None).
def WaitEvent.decides (index : Nat) : WaitEvent → Option (Option Change)
  | .published change => some (some change)
  | .timedOut other | .cancelled other => if other = index then some none else none

def Waiter.decision (log : List WaitEvent) (index : Nat) (waiter : Waiter futures) : Option (Option Change) :=
  (log.drop waiter.registered).findSome? (WaitEvent.decides index)

structure Waiter.Tracked (log : List WaitEvent) (listed : List Nat) (index : Nat) (waiter : Waiter futures) : Prop where
  registered : waiter.registered ≤ log.length
  listed : index ∈ listed ↔ waiter.stage = .waiting
  raises : waiter.stage = .raised ↔ ¬ (0 < waiter.timeout ∧ waiter.created = true)
  undecided : waiter.decision log index = none → waiter.stage = .raised ∨ waiter.stage = .waiting ∧
    (futures Change).called waiter.future = false ∧ (futures (Option Change)).called waiter.resultFuture = false
  decided : ∀ result, waiter.decision log index = some result → waiter.stage = .raised ∨
    ((futures (Option Change)).done waiter.resultFuture = true ∧ waiter.outcome = result) ∧
      (waiter.stage = .waiting ∨ waiter.stage = .returned result)

namespace Waiter

theorem decision_append (log more : List WaitEvent) (index : Nat) (waiter : Waiter futures)
    (registered : waiter.registered ≤ log.length) :
    waiter.decision (log ++ more) index = (waiter.decision log index).or (more.findSome? (WaitEvent.decides index)) := by
  rw [decision, List.drop_append_of_le_length registered, List.findSome?_append]
  rfl

-- An event that decides nothing for the waiter.
theorem tracked_silent (log : List WaitEvent) (event : WaitEvent) (listed : List Nat) (index : Nat)
    (waiter : Waiter futures) (silent : event.decides index = none) (tracked : waiter.Tracked log listed index) :
    waiter.Tracked (log ++ [event]) listed index := by
  have same : waiter.decision (log ++ [event]) index = waiter.decision log index := by
    rw [decision_append log [event] index waiter tracked.registered]
    simp [silent]
  apply Tracked.mk
  · rw [List.length_append]
    exact Nat.le_add_right_of_le tracked.registered
  · exact tracked.listed
  · exact tracked.raises
  · rw [same]
    exact tracked.undecided
  · rw [same]
    exact tracked.decided

-- The first event that decides settles the result future; later ones leave it.
theorem tracked_settles (log : List WaitEvent) (event : WaitEvent) (listed : List Nat) (index : Nat)
    (waiter next : Waiter futures) (value : Option Change) (decides : event.decides index = some value)
    (tracked : waiter.Tracked log listed index)
    (same : next.stage = waiter.stage ∧ next.registered = waiter.registered ∧ next.timeout = waiter.timeout ∧
      next.created = waiter.created)
    (settles : waiter.stage = .waiting → (futures Change).called waiter.future = false →
      (futures (Option Change)).called waiter.resultFuture = false →
      (futures (Option Change)).done next.resultFuture = true ∧ next.outcome = value)
    (kept : (futures (Option Change)).done waiter.resultFuture = true → next.resultFuture = waiter.resultFuture) :
    next.Tracked (log ++ [event]) listed index := by
  obtain ⟨stage, start, timeout, created⟩ := same
  have after : next.decision (log ++ [event]) index = (waiter.decision log index).or (some value) := by
    rw [decision_append log [event] index next (by rw [start]; exact tracked.registered), decision, start]
    simp [decides, decision]
  apply Tracked.mk
  · rw [List.length_append, start]
    exact Nat.le_add_right_of_le tracked.registered
  · rw [stage]
    exact tracked.listed
  · rw [stage, timeout, created]
    exact tracked.raises
  · intro none
    rw [after] at none
    cases before : waiter.decision log index with
    | none => simp [before] at none
    | some result => simp [before] at none
  · intro result found
    rw [after] at found
    rw [stage]
    cases before : waiter.decision log index with
    | none =>
        rw [before, Option.none_or, Option.some.injEq] at found
        subst found
        rcases tracked.undecided before with raised | ⟨waits, inner, outer⟩
        · exact .inl raised
        · exact .inr ⟨settles waits inner outer, .inl waits⟩
    | some earlier =>
        rw [before, Option.some_or, Option.some.injEq] at found
        subst found
        rcases tracked.decided earlier before with raised | ⟨⟨done, outcome⟩, place⟩
        · exact .inl raised
        · have unchanged := kept done
          refine .inr ⟨⟨by rw [unchanged]; exact done, ?_⟩, place⟩
          rw [Waiter.outcome, unchanged]
          exact outcome

theorem complete_same (waiter : Waiter futures) (source : (futures Change).Future) :
    (waiter.complete source).stage = waiter.stage ∧ (waiter.complete source).registered = waiter.registered ∧
      (waiter.complete source).timeout = waiter.timeout ∧ (waiter.complete source).created = waiter.created := by
  rw [complete]
  split
  · exact ⟨rfl, rfl, rfl, rfl⟩
  · exact ⟨rfl, rfl, rfl, rfl⟩

theorem complete_kept (waiter : Waiter futures) (source : (futures Change).Future)
    (done : (futures (Option Change)).done waiter.resultFuture = true) :
    (waiter.complete source).resultFuture = waiter.resultFuture := by
  rw [complete, if_neg (by simp [done])]

section Calls

variable (documented : ∀ Result : Type, (futures Result).Documented)

include documented

theorem not_done (Result : Type) (future : (futures Result).Future) (waits : (futures Result).called future = false) :
    (futures Result).done future = false := by
  rw [← Bool.not_eq_true]
  intro done
  rw [(documented Result).doneCalled future done] at waits
  cases waits

theorem set_outcome (waiter : Waiter futures) (result : Option Change)
    (waits : (futures (Option Change)).called waiter.resultFuture = false) :
    (futures (Option Change)).done ((futures (Option Change)).setResult waiter.resultFuture result) = true ∧
      ((futures (Option Change)).result ((futures (Option Change)).setResult waiter.resultFuture result)).join =
        result := by
  refine ⟨(documented _).setDone _ _, ?_⟩
  rw [(documented _).setResult _ _ waits, Option.join_some]

theorem complete_settles (waiter : Waiter futures) (source : (futures Change).Future)
    (inner : (futures Change).called waiter.future = false) (completed : (futures Change).called source = true)
    (outer : (futures (Option Change)).called waiter.resultFuture = false) :
    (futures (Option Change)).done (waiter.complete source).resultFuture = true ∧
      (waiter.complete source).outcome = (futures Change).result source := by
  rw [complete, if_pos ⟨inner, completed, not_done documented _ _ outer⟩]
  exact set_outcome documented waiter _ outer

theorem notify_settles (waiter : Waiter futures) (change : Change)
    (inner : (futures Change).called waiter.future = false)
    (outer : (futures (Option Change)).called waiter.resultFuture = false) :
    (futures (Option Change)).done (waiter.notify change).resultFuture = true ∧
      (waiter.notify change).outcome = some change := by
  rw [notify, if_neg (by simp [not_done documented _ _ inner])]
  have settled := complete_settles documented waiter ((futures Change).setResult waiter.future change) inner
    ((documented Change).setCalled waiter.future change) outer
  rw [(documented Change).setResult _ _ inner] at settled
  exact settled

theorem cancel_settles (waiter : Waiter futures) (inner : (futures Change).called waiter.future = false)
    (outer : (futures (Option Change)).called waiter.resultFuture = false) :
    (futures (Option Change)).done waiter.cancel.resultFuture = true ∧ waiter.cancel.outcome = none := by
  have settled := complete_settles documented waiter ((futures Change).cancel waiter.future) inner
    ((documented Change).cancelCalled waiter.future) outer
  rw [(documented Change).cancelResult _ inner] at settled
  exact settled

theorem expire_settles (waiter : Waiter futures)
    (outer : (futures (Option Change)).called waiter.resultFuture = false) :
    (futures (Option Change)).done waiter.expire.resultFuture = true ∧ waiter.expire.outcome = none := by
  rw [expire, if_neg (by simp [not_done documented _ _ outer])]
  exact set_outcome documented waiter none outer

theorem tracked_notify (log : List WaitEvent) (change : Change) (listed : List Nat) (index : Nat)
    (waiter : Waiter futures) (tracked : waiter.Tracked log listed index) :
    (if index ∈ listed then waiter.notify change else waiter).Tracked (log ++ [.published change]) listed index := by
  by_cases waits : index ∈ listed
  · rw [if_pos waits]
    apply tracked_settles log (.published change) listed index waiter _ (some change) rfl tracked
    · rw [notify]
      split
      · exact ⟨rfl, rfl, rfl, rfl⟩
      · exact complete_same waiter _
    · exact fun _ inner outer => notify_settles documented waiter change inner outer
    · intro done
      rw [notify]
      split
      · rfl
      · exact complete_kept waiter _ done
  · rw [if_neg waits]
    apply tracked_settles log (.published change) listed index waiter waiter (some change) rfl tracked ⟨rfl, rfl, rfl, rfl⟩
    · exact fun waiting => absurd (tracked.listed.mpr waiting) waits
    · exact fun _ => rfl

theorem tracked_cancel (log : List WaitEvent) (listed : List Nat) (index : Nat) (waiter : Waiter futures)
    (tracked : waiter.Tracked log listed index) : waiter.cancel.Tracked (log ++ [.cancelled index]) listed index := by
  apply tracked_settles log (.cancelled index) listed index waiter _ none (if_pos rfl) tracked
  · exact complete_same waiter _
  · exact fun _ inner outer => cancel_settles documented waiter inner outer
  · exact complete_kept waiter _

theorem tracked_expire (log : List WaitEvent) (listed : List Nat) (index : Nat) (waiter : Waiter futures)
    (tracked : waiter.Tracked log listed index) : waiter.expire.Tracked (log ++ [.timedOut index]) listed index := by
  apply tracked_settles log (.timedOut index) listed index waiter _ none (if_pos rfl) tracked
  · rw [expire]
    split
    · exact ⟨rfl, rfl, rfl, rfl⟩
    · exact ⟨rfl, rfl, rfl, rfl⟩
  · exact fun _ _ outer => expire_settles documented waiter outer
  · intro done
    rw [expire, if_pos done]

end Calls

end Waiter

namespace Waiting

structure Consistent (state : Waiting futures) : Prop where
  distinct : state.changeWaiters.Nodup
  known : ∀ index ∈ state.changeWaiters, index < state.waiters.length
  tracked : ∀ (index : Nat) (waiter : Waiter futures), state.waiters[index]? = some waiter →
    waiter.Tracked state.log state.changeWaiters index

-- A waiter that was pending when a change was published has that change decided.
theorem pending_decision (state : Waiting futures) (index : Nat) (waiter : Waiter futures)
    (before after : List WaitEvent) (change : Change) (split : state.log = before ++ .published change :: after)
    (registered : waiter.registered ≤ before.length) (pending : waiter.decision before index = none) :
    waiter.decision state.log index = some (some change) := by
  rw [split, Waiter.decision_append before _ index waiter registered, pending]
  rfl

theorem notify_all (change : Change) (listed : List Nat) (state : Waiting futures) (distinct : listed.Nodup) :
    ∃ waiters, listed.foldl (notifyOne change) state = { state with waiters := waiters } ∧
      waiters.length = state.waiters.length ∧ ∀ index : Nat, waiters[index]? =
        (state.waiters[index]?).map fun waiter => if index ∈ listed then waiter.notify change else waiter := by
  induction listed generalizing state with
  | nil => exact ⟨state.waiters, rfl, rfl, fun index => by simp⟩
  | cons first rest ih =>
      obtain ⟨fresh, distinct⟩ := List.nodup_cons.mp distinct
      obtain ⟨waiters, after, length, each⟩ := ih (state.notifyOne change first) distinct
      refine ⟨waiters, after, length.trans (List.length_modify _ _ _), ?_⟩
      intro index
      rw [each index, notifyOne, List.getElem?_modify]
      cases state.waiters[index]? with
      | none => rfl
      | some waiter =>
          by_cases same : first = index
          · subst same
            simp [fresh]
          · simp [same, Ne.symm same]

theorem event_consistent (state : Waiting futures) (index : Nat) (before after : Waiter futures) (event : WaitEvent)
    (consistent : state.Consistent) (found : state.waiters[index]? = some before)
    (others : ∀ other ≠ index, event.decides other = none)
    (tracked : after.Tracked (state.log ++ [event]) state.changeWaiters index) :
    Consistent { state with waiters := state.waiters.set index after, log := state.log ++ [event] } := by
  apply Consistent.mk
  · exact consistent.distinct
  · intro other inside
    rw [List.length_set]
    exact consistent.known other inside
  · intro other waiter seen
    by_cases same : index = other
    · subst same
      rw [List.getElem?_set_self (List.getElem?_eq_some_iff.mp found).1] at seen
      cases seen
      exact tracked
    · rw [List.getElem?_set_ne same] at seen
      exact Waiter.tracked_silent state.log event state.changeWaiters other waiter (others other (Ne.symm same))
        (consistent.tracked other waiter seen)

theorem fresh_not_listed (state : Waiting futures) (consistent : state.Consistent) :
    state.waiters.length ∉ state.changeWaiters :=
  fun inside => lt_irrefl _ (consistent.known _ inside)

-- Who else is listed is left alone by a new waiter.
theorem wait_lists_others (state : Waiting futures) (timeout : ℚ) (created : Bool) (index : Nat)
    (apart : index ≠ state.waiters.length) :
    index ∈ (state.waitAlertChange timeout created).changeWaiters ↔ index ∈ state.changeWaiters := by
  simp only [waitAlertChange]
  split
  · rw [List.mem_append, List.mem_singleton, or_iff_left apart]
  · rfl

section Runs

variable (documented : ∀ Result : Type, (futures Result).Documented)

include documented

theorem changed_consistent (state : Waiting futures) (applied : SysAlertsServer × Option Change)
    (consistent : state.Consistent) :
    (state.changed [] applied).1.Consistent ∧ (state.changed [] applied).2 = true := by
  rw [changed]
  cases applied.2 with
  | none => exact ⟨⟨consistent.distinct, consistent.known, consistent.tracked⟩, rfl⟩
  | some change =>
      simp only [if_neg List.not_mem_nil]
      obtain ⟨waiters, after, length, each⟩ := notify_all change state.changeWaiters
        { state with server := applied.1, log := state.log ++ [.published change] } consistent.distinct
      rw [after]
      refine ⟨⟨consistent.distinct, ?_, ?_⟩, trivial⟩
      · intro index inside
        exact lt_of_lt_of_eq (consistent.known index inside) length.symm
      · intro index waiter found
        rw [each index, Option.map_eq_some_iff] at found
        obtain ⟨before, known, rfl⟩ := found
        exact Waiter.tracked_notify documented state.log change state.changeWaiters index before
          (consistent.tracked index before known)

theorem expire_loop_consistent (now : ℚ) (alerts : List Alert) (state : Waiting futures)
    (consistent : state.Consistent) : (expireLoop now [] alerts state).Consistent := by
  induction alerts generalizing state with
  | nil => exact consistent
  | cons alert rest ih =>
      obtain ⟨kept, returned⟩ := changed_consistent documented state
        (state.server.clearAlertFromCode now alert.code) consistent
      rw [expireLoop]
      cases moved : state.changed [] (state.server.clearAlertFromCode now alert.code) with
      | mk next flag =>
          rw [moved] at kept returned
          cases returned
          exact ih next kept

-- Nothing has been logged since the new waiter registered, so nothing has decided it.
theorem new_waiter_tracked (state : Waiting futures) (timeout : ℚ) (created : Bool) (waiter : Waiter futures)
    (consistent : state.Consistent)
    (found : (state.waitAlertChange timeout created).waiters[state.waiters.length]? = some waiter) :
    waiter.Tracked state.log (state.waitAlertChange timeout created).changeWaiters state.waiters.length := by
  simp only [waitAlertChange, List.getElem?_append_right (Nat.le_refl _), Nat.sub_self, List.getElem?_cons_zero,
    Option.some.injEq] at found
  subst found
  have silent : (state.log.drop state.log.length).findSome? (WaitEvent.decides state.waiters.length) = none := by
    rw [List.drop_length]
    rfl
  apply Waiter.Tracked.mk
  · exact Nat.le_refl _
  · simp only [waitAlertChange]
    split
    · rename_i waits
      exact iff_of_true (List.mem_append_right _ (List.mem_singleton.mpr rfl)) rfl
    · rename_i raises
      exact iff_of_false (fresh_not_listed state consistent) (by simp)
  · dsimp only
    split
    · rename_i positive
      exact iff_of_false (by simp) (by simpa using positive)
    · rename_i raises
      exact iff_of_true rfl raises
  · intro _
    dsimp only
    split
    · exact .inr ⟨rfl, (documented Change).freshCalled, (documented (Option Change)).freshCalled⟩
    · exact .inl rfl
  · intro result decided
    rw [Waiter.decision] at decided
    dsimp only [waitAlertChange] at decided
    rw [silent] at decided
    cases decided

theorem wait_consistent (state : Waiting futures) (timeout : ℚ) (created : Bool) (consistent : state.Consistent) :
    (state.waitAlertChange timeout created).Consistent := by
  have fresh := fresh_not_listed state consistent
  have stays := wait_lists_others state timeout created
  apply Consistent.mk
  · simp only [waitAlertChange]
    split
    · rw [List.nodup_append]
      refine ⟨consistent.distinct, List.nodup_singleton _, ?_⟩
      intro index inside other only same
      rw [same, List.mem_singleton.mp only] at inside
      exact fresh inside
    · exact consistent.distinct
  · intro index inside
    simp only [waitAlertChange, List.length_append, List.length_singleton]
    by_cases last : index = state.waiters.length
    · rw [last]
      exact Nat.lt_succ_self _
    · exact Nat.lt_succ_of_lt (consistent.known index ((stays index last).mp inside))
  · intro index waiter found
    by_cases last : index = state.waiters.length
    · subst last
      exact new_waiter_tracked documented state timeout created waiter consistent found
    · have old : state.waiters[index]? = some waiter := by
        have inside : index < state.waiters.length := by
          have bound := (List.getElem?_eq_some_iff.mp found).1
          simp only [waitAlertChange, List.length_append, List.length_singleton] at bound
          omega
        simpa only [waitAlertChange, List.getElem?_append_left inside] using found
      have tracked := consistent.tracked index waiter old
      exact ⟨tracked.registered, (stays index last).trans tracked.listed, tracked.raises, tracked.undecided,
        tracked.decided⟩

theorem resume_consistent (state : Waiting futures) (index : Nat) (waiter : Waiter futures)
    (consistent : state.Consistent) (found : state.waiters[index]? = some waiter) (waits : waiter.stage = .waiting)
    (done : (futures (Option Change)).done waiter.resultFuture = true) :
    Consistent { state with
      waiters := state.waiters.set index { waiter with stage := .returned waiter.outcome }
      changeWaiters := state.changeWaiters.erase index } := by
  have tracked := consistent.tracked index waiter found
  apply Consistent.mk
  · exact consistent.distinct.erase index
  · intro other inside
    rw [List.length_set]
    exact consistent.known other (List.mem_of_mem_erase inside)
  · intro other changed seen
    by_cases same : index = other
    · subst same
      rw [List.getElem?_set_self (List.getElem?_eq_some_iff.mp found).1] at seen
      cases seen
      apply Waiter.Tracked.mk
      · exact tracked.registered
      · rw [consistent.distinct.mem_erase_iff]
        simp
      · rw [← tracked.raises, waits]
        simp
      · intro undecided
        rcases tracked.undecided undecided with raised | ⟨_, _, outer⟩
        · rw [waits] at raised
          cases raised
        · rw [(documented _).doneCalled _ done] at outer
          cases outer
      · intro result decided
        rcases tracked.decided result decided with raised | ⟨settled, _⟩
        · rw [waits] at raised
          cases raised
        · exact .inr ⟨settled, .inr (congrArg WaiterStage.returned settled.2)⟩
    · rw [List.getElem?_set_ne same] at seen
      have kept := consistent.tracked other changed seen
      refine ⟨kept.registered, ?_, kept.raises, kept.undecided, kept.decided⟩
      rw [consistent.distinct.mem_erase_iff, ← kept.listed, and_iff_right (Ne.symm same)]

theorem step_consistent (state next : Waiting futures) (action : WaitAction) (consistent : state.Consistent)
    (returning : Returning state action) (moved : state.step action = some next) : next.Consistent := by
  cases action with
  | waitAlertChange timeout created =>
      cases moved
      exact wait_consistent documented state timeout created consistent
  | raiseAlert now alert raising =>
      cases returning
      cases moved
      exact (changed_consistent documented state _ consistent).1
  | clearAlert now code raising =>
      cases returning
      cases moved
      exact (changed_consistent documented state _ consistent).1
  | handleRequest now message raising =>
      cases returning
      cases moved
      exact (changed_consistent documented state _ consistent).1
  | expireAlerts now raising =>
      cases returning
      cases moved
      exact expire_loop_consistent documented now _ state consistent
  | timeout index =>
      simp only [step] at moved
      cases found : state.waiters[index]? with
      | none => simp [found] at moved
      | some waiter =>
          simp only [found] at moved
          split at moved
          · cases moved
            apply event_consistent state index waiter _ _ consistent found
            · exact fun other apart => if_neg (Ne.symm apart)
            · exact Waiter.tracked_expire documented _ _ index waiter (consistent.tracked index waiter found)
          · cases moved
  | cancel index =>
      simp only [step] at moved
      cases found : state.waiters[index]? with
      | none => simp [found] at moved
      | some waiter =>
          simp only [found] at moved
          cases moved
          apply event_consistent state index waiter _ _ consistent found
          · exact fun other apart => if_neg (Ne.symm apart)
          · exact Waiter.tracked_cancel documented _ _ index waiter (consistent.tracked index waiter found)
  | resume index =>
      simp only [step] at moved
      cases found : state.waiters[index]? with
      | none => simp [found] at moved
      | some waiter =>
          simp only [found] at moved
          split at moved
          · rename_i ready
            cases moved
            exact resume_consistent documented state index waiter consistent found ready.1 ready.2
          · cases moved

theorem reached_consistent (state : Waiting futures) (reached : Reached (alertWaiters futures) Returning state) :
    state.Consistent := by
  apply reached_invariant (alertWaiters futures) Returning Consistent _ _ state reached
  · rintro initial rfl
    apply Consistent.mk
    · exact List.nodup_nil
    · intro index inside
      cases inside
    · intro index waiter found
      cases found
  · intro source action target consistent returning moved
    exact step_consistent documented source target action consistent returning moved

theorem waiters_see_next_change (state : Waiting futures) (reached : Reached (alertWaiters futures) Returning state)
    (index : Nat) (waiter : Waiter futures) (found : state.waiters[index]? = some waiter) :
    (index ∈ state.changeWaiters ↔ waiter.stage = .waiting) ∧
      (waiter.stage = .raised ↔ ¬ (0 < waiter.timeout ∧ waiter.created = true)) ∧
      (∀ result, waiter.stage = .returned result → waiter.decision state.log index = some result) ∧
      (∀ result, waiter.stage = .waiting → waiter.decision state.log index = some result →
        ∃ next, state.step (.resume index) = some next ∧
          next.waiters[index]? = some { waiter with stage := .returned result }) ∧
      ∀ (before after : List WaitEvent) (change : Change), state.log = before ++ .published change :: after →
        waiter.registered ≤ before.length → waiter.decision before index = none →
          waiter.decision state.log index = some (some change) := by
  have tracked := (reached_consistent documented state reached).tracked index waiter found
  refine ⟨tracked.listed, tracked.raises, ?_, ?_, ?_⟩
  · intro result returned
    cases decision : waiter.decision state.log index with
    | none =>
        rcases tracked.undecided decision with raised | ⟨waits, _⟩
        · rw [returned] at raised
          cases raised
        · rw [returned] at waits
          cases waits
    | some value =>
        rcases tracked.decided value decision with raised | ⟨_, waits | same⟩
        · rw [returned] at raised
          cases raised
        · rw [returned] at waits
          cases waits
        · rw [returned] at same
          cases same
          rfl
  · intro result waits decision
    rcases tracked.decided result decision with raised | ⟨⟨done, outcome⟩, _⟩
    · rw [waits] at raised
      cases raised
    · refine ⟨{ state with
        waiters := state.waiters.set index { waiter with stage := .returned waiter.outcome }
        changeWaiters := state.changeWaiters.erase index },
        by simp only [step, found, waits, done, and_self, if_true], ?_⟩
      rw [List.getElem?_set_self (List.getElem?_eq_some_iff.mp found).1, outcome]
  · exact pending_decision state index waiter

end Runs

end Waiting

end Model

-- A future as rclpy has it.
structure RclpyFuture (Result : Type) where
  result : Option Result
  done : Bool
  cancelled : Bool
  called : Bool
  calls : done = true → called = true

def rclpyFutures (Result : Type) : Futures Result where
  Future := RclpyFuture Result
  fresh := ⟨none, false, false, false, id⟩
  setResult _ result := ⟨some result, true, false, true, fun _ => rfl⟩
  cancel future := { future with cancelled := !future.done, called := true, calls := fun _ => rfl }
  done := RclpyFuture.done
  result future := if future.done then future.result else none
  called := RclpyFuture.called

theorem rclpy_documented (Result : Type) : (rclpyFutures Result).Documented := by
  apply Futures.Documented.mk
  · rfl
  · rfl
  · exact fun _ _ => rfl
  · exact fun _ _ => rfl
  · exact fun _ _ _ => rfl
  · exact fun _ => rfl
  · intro future waits
    apply if_neg
    intro done
    rw [← Bool.not_eq_true] at waits
    exact waits (future.calls done)
  · exact fun future => future.calls

def motorStalled : Alert := { level := Level.ERR, src := "motor", code := 7 }

def motorHot : Alert := { level := Level.WARN, src := "motor", code := 8 }

-- Two waiters see the next change, of which there is only one; a third times out.
def threeWaiters : List WaitAction :=
  [.waitAlertChange 5 true, .waitAlertChange 5 true, .raiseAlert 1 motorStalled [], .waitAlertChange 1 true,
    .raiseAlert 2 motorStalled [], .timeout 2, .raiseAlert 3 motorHot [], .resume 0, .resume 1, .resume 2]

theorem waiters_see_next_change_three : ∃ state : Waiting rclpyFutures,
    (state.waiters[1]?).map (fun waiter => waiter.decision state.log 1) = some (some (some (.raise, motorStalled))) ∧
      (state.waiters[2]?).map (fun waiter => waiter.decision state.log 2) = some (some none) := by
  obtain ⟨state, reached, second, third⟩ := replay_exists (alertWaiters rclpyFutures) Returning threeWaiters
    ⟨.init, [], [], []⟩
    (fun state : Waiting rclpyFutures =>
      (state.waiters[1]?).map Waiter.stage = some (.returned (some (.raise, motorStalled))) ∧
        (state.waiters[2]?).map Waiter.stage = some (.returned none)) rfl (by decide +kernel)
  obtain ⟨one, found, stage⟩ := Option.map_eq_some_iff.mp second
  obtain ⟨two, known, place⟩ := Option.map_eq_some_iff.mp third
  obtain ⟨_, _, first, _⟩ := Waiting.waiters_see_next_change rclpy_documented state reached 1 one found
  obtain ⟨_, _, last, _⟩ := Waiting.waiters_see_next_change rclpy_documented state reached 2 two known
  exact ⟨state, by rw [found, Option.map_some, first _ stage], by rw [known, Option.map_some, last _ place]⟩

-- What the waiter is to return where only its timeout can come before a change.
def WaitEvent.decidesUncancelled (index : Nat) : WaitEvent → Option (Option Change)
  | .cancelled _ => none
  | event => event.decides index

def Waiter.uncancelledDecision {futures : (Result : Type) → Futures Result} (log : List WaitEvent) (index : Nat)
    (waiter : Waiter futures) : Option (Option Change) :=
  (log.drop waiter.registered).findSome? (WaitEvent.decidesUncancelled index)

-- A cancelled waiter returns before the change, and a change whose callback
-- raises does not reach the waiter, which returns the one after it.
theorem next_change_missed :
    (∃ state, Reached (alertWaiters rclpyFutures) Returning state ∧
      (state.waiters[0]?).map Waiter.stage = some (.returned none) ∧
      (state.waiters[0]?).map (fun waiter => waiter.uncancelledDecision state.log 0) =
        some (some (some (.raise, motorStalled)))) ∧
    ∃ state, Reached (alertWaiters rclpyFutures) anyAction state ∧
      (state.waiters[0]?).map Waiter.stage = some (.returned (some (.raise, motorHot))) ∧
      (state.waiters[0]?).map (fun waiter => waiter.uncancelledDecision state.log 0) =
        some (some (some (.raise, motorStalled))) := by
  apply And.intro
  · exact replay_exists (alertWaiters rclpyFutures) Returning
      [.waitAlertChange 5 true, .cancel 0, .raiseAlert 1 motorStalled [], .resume 0] ⟨.init, [], [], []⟩
      (fun state => (state.waiters[0]?).map Waiter.stage = some (.returned none) ∧
        (state.waiters[0]?).map (fun waiter => waiter.uncancelledDecision state.log 0) =
          some (some (some (.raise, motorStalled)))) rfl (by decide +kernel)
  · exact replay_exists (alertWaiters rclpyFutures) anyAction
      [.waitAlertChange 5 true, .raiseAlert 1 motorStalled [(.raise, motorStalled)], .raiseAlert 2 motorHot [], .resume 0]
      ⟨.init, [], [], []⟩
      (fun state => (state.waiters[0]?).map Waiter.stage = some (.returned (some (.raise, motorHot))) ∧
        (state.waiters[0]?).map (fun waiter => waiter.uncancelledDecision state.log 0) =
          some (some (some (.raise, motorStalled)))) rfl (by decide +kernel)

end Animacharacter.Alerts
