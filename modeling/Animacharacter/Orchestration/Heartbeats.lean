import Mathlib.Data.List.Induction
import Animacharacter.Library.Dict
import Animacharacter.Library.Since
import Animacharacter.Alerts.Alert

set_option autoImplicit false

namespace Animacharacter.Orchestration

open Alerts Histories

structure Heartbeat where
  name : String
  nextWithin : PyFloat
deriving DecidableEq

structure HbEntry where
  deadline : PyFloat
  reported : Bool
deriving DecidableEq

-- now + next_within
def deadlineOf (now : ℚ) : PyFloat → PyFloat
  | .seconds window => .seconds (now + window)
  | other => other

-- now > deadline; no time is past a NaN.
def PastDeadline (now : ℚ) : PyFloat → Prop
  | .seconds deadline => deadline < now
  | .negInf => True
  | .inf | .nan => False

instance (now : ℚ) : (deadline : PyFloat) → Decidable (PastDeadline now deadline)
  | .seconds deadline => inferInstanceAs (Decidable (deadline < now))
  | .negInf => inferInstanceAs (Decidable True)
  | .inf | .nan => inferInstanceAs (Decidable False)

structure HeartbeatListener where
  heartbeats : Dict String HbEntry
deriving DecidableEq

-- A heartbeat that arrives, or a check with the on_timeout calls it made.
inductive HbEvent where
  | heartbeat (now : ℚ) (hb : Heartbeat)
  | check (now : ℚ) (called : List String)
deriving DecidableEq

namespace HeartbeatListener

def init : HeartbeatListener := ⟨Dict.empty⟩

def heartbeatReceived (listener : HeartbeatListener) (now : ℚ) (hb : Heartbeat) : HeartbeatListener :=
  ⟨listener.heartbeats.set hb.name ⟨deadlineOf now hb.nextWithin, false⟩⟩

def Due (listener : HeartbeatListener) (now : ℚ) (name : String) : Prop :=
  ∃ entry ∈ listener.heartbeats.get name, entry.reported = false ∧ PastDeadline now entry.deadline

instance (listener : HeartbeatListener) (now : ℚ) (name : String) : Decidable (listener.Due now name) :=
  match found : listener.heartbeats.get name with
  | none => isFalse (by simp [Due, found])
  | some entry =>
      decidable_of_iff (entry.reported = false ∧ PastDeadline now entry.deadline) (by simp [Due, found])

def report (listener : HeartbeatListener) (name : String) : HeartbeatListener :=
  match listener.heartbeats.get name with
  | none => listener
  | some entry => ⟨listener.heartbeats.set name { entry with reported := true }⟩

-- The loop of _check_heartbeats with the names on_timeout is called with; an
-- on_timeout that raises ends it.
def checkLoop (now : ℚ) (raising : List String) : List String → HeartbeatListener → HeartbeatListener × List String
  | [], listener => (listener, [])
  | name :: rest, listener =>
      if listener.Due now name then
        if name ∈ raising then (listener.report name, [name])
        else
          let after := checkLoop now raising rest (listener.report name)
          (after.1, name :: after.2)
      else checkLoop now raising rest listener

def checkHeartbeats (listener : HeartbeatListener) (now : ℚ) (raising : List String) : HeartbeatListener × List String :=
  checkLoop now raising listener.heartbeats.keys listener

end HeartbeatListener

-- A heartbeat or a check, with the names on_timeout raises for.
inductive HbAction where
  | heartbeat (now : ℚ) (hb : Heartbeat)
  | check (now : ℚ) (raising : List String)

structure HbRun where
  listener : HeartbeatListener
  events : List HbEvent
deriving DecidableEq

namespace HbRun

def act (run : HbRun) : HbAction → HbRun
  | .heartbeat now hb => ⟨run.listener.heartbeatReceived now hb, run.events ++ [.heartbeat now hb]⟩
  | .check now raising =>
      let done := run.listener.checkHeartbeats now raising
      ⟨done.1, run.events ++ [.check now done.2]⟩

def calls (run : HbRun) (now : ℚ) (raising : List String) : List String := (run.listener.checkHeartbeats now raising).2

def after (history : List HbAction) : HbRun := history.foldl act ⟨.init, []⟩

end HbRun

namespace HbEvent

-- Another heartbeat of the name, or its report.
def Concerns (name : String) : HbEvent → Prop
  | .heartbeat _ hb => hb.name = name
  | .check _ called => name ∈ called

def heartbeatName : HbEvent → Option String
  | .heartbeat _ hb => some hb.name
  | .check _ _ => none

def firstHeartbeats (history : List HbEvent) : List String := (history.filterMap heartbeatName).eraseDups

-- The deadline of the latest heartbeat is passed and it was not reported since.
def Missed (history : List HbEvent) (now : ℚ) (name : String) : Prop :=
  Since (fun event => ∃ sent hb, event = .heartbeat sent hb ∧ hb.name = name ∧ PastDeadline now (deadlineOf sent hb.nextWithin))
    (fun later => ¬ later.Concerns name) history

end HbEvent

namespace HeartbeatListener

theorem report_get (listener : HeartbeatListener) (name other : String) :
    (listener.report name).heartbeats.get other =
      if name = other then (listener.heartbeats.get other).map fun entry => { entry with reported := true }
      else listener.heartbeats.get other := by
  unfold report
  split
  · rename_i missing
    split
    · rename_i same
      rw [← same, missing]
      rfl
    · rfl
  · rename_i entry found
    rw [Dict.get_set]
    split
    · rename_i same
      rw [← same, found]
      rfl
    · rfl

theorem report_due (listener : HeartbeatListener) (now : ℚ) (name other : String) :
    (listener.report name).Due now other ↔ listener.Due now other ∧ name ≠ other := by
  rw [Due, report_get]
  by_cases same : name = other
  · simp [same]
  · simp [same, Due]

theorem report_keys (listener : HeartbeatListener) (name : String) :
    (listener.report name).heartbeats.keys = listener.heartbeats.keys := by
  unfold report
  split
  · rfl
  · rename_i entry found
    rw [Dict.keys_set, if_pos ((Dict.mem_keys_iff _ _).mpr ⟨entry, found⟩)]

-- The names up to and with the first one that on_timeout raises for.
def untilRaised (raising : List String) : List String → List String
  | [] => []
  | name :: rest => if name ∈ raising then [name] else name :: untilRaised raising rest

theorem until_raised_front (raising names : List String) : untilRaised raising names <+: names := by
  induction names with
  | nil => exact List.prefix_refl []
  | cons name rest ih =>
      rw [untilRaised]
      by_cases raises : name ∈ raising
      · rw [if_pos raises]
        exact ⟨rest, rfl⟩
      · rw [if_neg raises]
        exact (List.prefix_cons_inj name).mpr ih

theorem until_raised_all (raising names : List String) (name : String) (listed : name ∈ names) :
    name ∈ untilRaised raising names ∨ ∃ other ∈ untilRaised raising names, other ∈ raising := by
  induction names with
  | nil => cases listed
  | cons first rest ih =>
      rw [untilRaised]
      by_cases raises : first ∈ raising
      · rw [if_pos raises]
        exact .inr ⟨first, List.mem_singleton.mpr rfl, raises⟩
      · rw [if_neg raises]
        rcases List.mem_cons.mp listed with rfl | later
        · exact .inl List.mem_cons_self
        · rcases ih later with found | ⟨other, found, raised⟩
          · exact .inl (List.mem_cons_of_mem first found)
          · exact .inr ⟨other, List.mem_cons_of_mem first found, raised⟩

-- The loop calls the names that are due, in its order, until one raises, and
-- these are then no longer due.
theorem check_loop_called (now : ℚ) (raising names : List String) (listener : HeartbeatListener) (distinct : names.Nodup) :
    (checkLoop now raising names listener).2 =
        untilRaised raising (names.filter fun name => decide (listener.Due now name)) ∧
      (checkLoop now raising names listener).1.heartbeats.keys = listener.heartbeats.keys ∧
      ∀ (later : ℚ) (name : String), (checkLoop now raising names listener).1.Due later name ↔
        listener.Due later name ∧ name ∉ (checkLoop now raising names listener).2 := by
  induction names generalizing listener with
  | nil =>
      refine ⟨rfl, rfl, fun later name => ?_⟩
      simp [checkLoop]
  | cons name rest ih =>
      obtain ⟨fresh, distinct⟩ := List.nodup_cons.mp distinct
      rw [checkLoop]
      by_cases due : listener.Due now name
      · have kept : (name :: rest).filter (fun other => decide (listener.Due now other)) =
            name :: rest.filter fun other => decide (listener.Due now other) :=
          List.filter_cons_of_pos (decide_eq_true due)
        rw [if_pos due, kept, untilRaised]
        by_cases raises : name ∈ raising
        · simp only [if_pos raises]
          refine ⟨trivial, report_keys listener name, fun later other => ?_⟩
          rw [report_due, List.mem_singleton]
          exact and_congr_right fun _ => ne_comm
        · simp only [if_neg raises]
          obtain ⟨called, keys, after⟩ := ih (listener.report name) distinct
          -- The report of the name changes nothing for the rest of the loop.
          have same : (rest.filter fun other => decide ((listener.report name).Due now other)) =
              rest.filter fun other => decide (listener.Due now other) := by
            apply List.filter_congr
            intro other listed
            have apart : name ≠ other := fun equal => fresh (equal ▸ listed)
            rw [decide_eq_decide, report_due]
            exact and_iff_left apart
          refine ⟨?_, keys.trans (report_keys listener name), fun later other => ?_⟩
          · rw [← same, ← called]
          · rw [after, report_due, List.mem_cons, not_or, and_assoc, ne_comm]
      · have skipped : (name :: rest).filter (fun other => decide (listener.Due now other)) =
            rest.filter fun other => decide (listener.Due now other) :=
          List.filter_cons_of_neg (by simpa using due)
        rw [if_neg due, skipped]
        exact ih listener distinct

theorem received_due (listener : HeartbeatListener) (sent now : ℚ) (hb : Heartbeat) (name : String) :
    (listener.heartbeatReceived sent hb).Due now name ↔
      hb.name = name ∧ PastDeadline now (deadlineOf sent hb.nextWithin) ∨ listener.Due now name ∧ hb.name ≠ name := by
  rw [Due, heartbeatReceived, Dict.get_set]
  by_cases same : hb.name = name
  · simp [same]
  · simp [same, Due]

theorem check_called (listener : HeartbeatListener) (now : ℚ) (raising : List String) :
    (listener.checkHeartbeats now raising).2 =
        untilRaised raising (listener.heartbeats.keys.filter fun name => decide (listener.Due now name)) ∧
      (listener.checkHeartbeats now raising).1.heartbeats.keys = listener.heartbeats.keys ∧
      ∀ (later : ℚ) (name : String), (listener.checkHeartbeats now raising).1.Due later name ↔
        listener.Due later name ∧ name ∉ (listener.checkHeartbeats now raising).2 :=
  check_loop_called now raising listener.heartbeats.keys listener listener.heartbeats.unique

theorem due_listed (listener : HeartbeatListener) (now : ℚ) (name : String) (due : listener.Due now name) :
    name ∈ listener.heartbeats.keys := by
  obtain ⟨entry, found, _⟩ := due
  exact (Dict.mem_keys_iff _ _).mpr ⟨entry, found⟩

theorem called_due (listener : HeartbeatListener) (now : ℚ) (raising : List String) (name : String)
    (called : name ∈ (listener.checkHeartbeats now raising).2) : listener.Due now name := by
  rw [(check_called listener now raising).1] at called
  exact of_decide_eq_true (List.mem_filter.mp ((until_raised_front raising _).subset called)).2

theorem due_called (listener : HeartbeatListener) (now : ℚ) (raising : List String) (name : String)
    (due : listener.Due now name) : name ∈ (listener.checkHeartbeats now raising).2 ∨
      ∃ other ∈ (listener.checkHeartbeats now raising).2, other ∈ raising := by
  rw [(check_called listener now raising).1]
  exact until_raised_all raising _ name (List.mem_filter.mpr ⟨due_listed listener now name due, decide_eq_true due⟩)

end HeartbeatListener

namespace HbRun

open HeartbeatListener HbEvent

-- What is due is what the events say was missed.
theorem due_missed (history : List HbAction) (now : ℚ) (name : String) :
    (after history).listener.Due now name ↔ Missed (after history).events now name := by
  induction history using List.reverseRecOn with
  | nil =>
      apply iff_of_false
      · rintro ⟨entry, found, _⟩
        cases found
      · exact since_nil _ _
  | append_singleton history action ih =>
      rw [after, List.foldl_append, ← after, List.foldl_cons, List.foldl_nil]
      cases action with
      | heartbeat sent hb =>
          refine (received_due (after history).listener sent now hb name).trans ?_
          rw [ih]
          refine Iff.trans ?_ (since_append _ _ (after history).events (.heartbeat sent hb)).symm
          apply or_congr
          · apply Iff.intro
            · rintro ⟨same, past⟩
              exact ⟨sent, hb, rfl, same, past⟩
            · rintro ⟨_, _, equal, same, past⟩
              cases equal
              exact ⟨same, past⟩
          · rfl
      | check time raising =>
          refine ((check_called (after history).listener time raising).2.2 now name).trans ?_
          rw [ih]
          refine Iff.trans ?_ (since_append _ _ (after history).events
            (.check time ((after history).listener.checkHeartbeats time raising).2)).symm
          rw [or_iff_right]
          · rfl
          · rintro ⟨_, _, equal, _⟩
            cases equal

theorem erase_dups_concat (names : List String) (name : String) :
    (names ++ [name]).eraseDups = if name ∈ names then names.eraseDups else names.eraseDups ++ [name] := by
  rw [List.eraseDups_append, List.removeAll]
  by_cases listed : name ∈ names
  · rw [if_pos listed, List.filter_cons_of_neg (by simpa using listed)]
    exact List.append_nil _
  · rw [if_neg listed, List.filter_cons_of_pos (by simpa using listed)]
    rfl

theorem keys_first (history : List HbAction) :
    (after history).listener.heartbeats.keys = firstHeartbeats (after history).events := by
  induction history using List.reverseRecOn with
  | nil => rfl
  | append_singleton history action ih =>
      rw [after, List.foldl_append, ← after, List.foldl_cons, List.foldl_nil]
      cases action with
      | heartbeat now hb =>
          simp only [act, heartbeatReceived, Dict.keys_set, firstHeartbeats, List.filterMap_append, List.filterMap_cons,
            List.filterMap_nil, heartbeatName, erase_dups_concat]
          rw [ih, firstHeartbeats]
          simp only [List.mem_eraseDups]
      | check now raising =>
          simp only [act, (check_called (after history).listener now raising).2.1, firstHeartbeats, List.filterMap_append,
            List.filterMap_cons, List.filterMap_nil, heartbeatName, List.append_nil]
          exact ih

-- A check goes through the missed names in the order of their first heartbeats and
-- calls on_timeout for each, once, until a call raises. The names behind that one
-- stay missed as they were; those called are missed no more.
theorem heartbeats_monitored (history : List HbAction) (now : ℚ) (raising : List String) :
    (∃ missed : List String, missed.Nodup ∧ missed.Sublist (firstHeartbeats (after history).events) ∧
        (∀ name : String, name ∈ missed ↔ Missed (after history).events now name) ∧
        (after history).calls now raising = untilRaised raising missed) ∧
      ∀ (later : ℚ) (name : String), Missed ((after history).act (.check now raising)).events later name ↔
        Missed (after history).events later name ∧ name ∉ (after history).calls now raising := by
  have called := (check_called (after history).listener now raising).1
  refine ⟨⟨_, ?_, ?_, ?_, called⟩, fun later name => ?_⟩
  · exact (after history).listener.heartbeats.unique.sublist List.filter_sublist
  · rw [← keys_first history]
    exact List.filter_sublist
  · intro name
    rw [List.mem_filter, decide_eq_true_eq, ← due_missed history now name]
    exact and_iff_right_of_imp (due_listed _ now name)
  · have next := due_missed (history ++ [.check now raising]) later name
    rw [after, List.foldl_append, ← after, List.foldl_cons, List.foldl_nil] at next
    rw [← next, ← due_missed history later name]
    exact (check_called (after history).listener now raising).2.2 later name

def twoSilent : List HbAction :=
  [.heartbeat 0 ⟨"hardware_manager", .seconds 2⟩, .heartbeat 1 ⟨"webui", .seconds 2⟩]

-- The second name is past its deadline and unreported, but the call for the
-- first one raises.
theorem missed_not_called : Missed (after twoSilent).events 4 "webui" ∧
    "webui" ∉ (after twoSilent).calls 4 ["hardware_manager"] := by
  apply And.intro
  · exact (due_missed twoSilent 4 "webui").mp (by decide +kernel)
  · decide +kernel

-- It is called at the next check, and once; a heartbeat before that re-arms it.
example : (after (twoSilent ++ [.check 4 ["hardware_manager"]])).calls 5 [] = ["webui"] ∧
    (after (twoSilent ++ [.check 4 ["hardware_manager"], .check 5 []])).calls 6 [] = [] ∧
    (after (twoSilent ++ [.check 4 ["hardware_manager"], .heartbeat 5 ⟨"webui", .seconds 2⟩])).calls 6 [] = [] := by
  decide +kernel

end HbRun

end Animacharacter.Orchestration
