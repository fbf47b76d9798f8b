import Mathlib.Data.List.Induction
import Animacharacter.Library.Since
import Animacharacter.Alerts.Server

set_option autoImplicit false

namespace Animacharacter.Alerts

open Histories

-- A raise or a clear comes from the server's own methods or as a request.
inductive LifetimeEvent where
  | raiseAlert (now : ℚ) (alert : Alert)
  | clearAlert (now : ℚ) (code : Int)
  | handleRequest (now : ℚ) (message : AlertAction)
  | expireAlerts (now : ℚ)

namespace LifetimeEvent

def apply (server : SysAlertsServer) : LifetimeEvent → SysAlertsServer × List Change
  | .raiseAlert now alert => ((server.raiseAlert now alert).1, (server.raiseAlert now alert).2.toList)
  | .clearAlert now code => ((server.clearAlert now code).1, (server.clearAlert now code).2.toList)
  | .handleRequest now message => ((server.handleRequest now message).1, (server.handleRequest now message).2.toList)
  | .expireAlerts now => server.expireAlerts now

def run (history : List LifetimeEvent) : SysAlertsServer :=
  history.foldl (fun server event => (event.apply server).1) .init

-- The alert it raises and when.
def raises : LifetimeEvent → Option (ℚ × Alert)
  | .raiseAlert now alert => some (now, alert)
  | .handleRequest now message =>
      match decodeActionMessage message with
      | some (.raise, alert) => some (now, alert)
      | _ => none
  | .clearAlert _ _ | .expireAlerts _ => none

-- The code it clears.
def clears : LifetimeEvent → Option Int
  | .clearAlert _ code => some code
  | .handleRequest _ message =>
      match decodeActionMessage message with
      | some (.clear, alert) => some alert.code
      | _ => none
  | .raiseAlert _ _ | .expireAlerts _ => none

def Touches (event : LifetimeEvent) (code : Int) : Prop :=
  (∃ now alert, event.raises = some (now, alert) ∧ alert.code = code) ∨ event.clears = some code

-- An expiry at a time when the alert's ttl has passed since its raise.
def Expires (event : LifetimeEvent) (started : ℚ) (alert : Alert) : Prop :=
  ∃ now, event = .expireAlerts now ∧ alert.ttl.reachedAfter (now - started) = true

-- The last raise or clear of the code is this raise, and no later expiry ends it.
def LastsFrom (history : List LifetimeEvent) (code : Int) (started : ℚ) (alert : Alert) : Prop :=
  Since (fun event => event.raises = some (started, alert) ∧ alert.code = code)
    (fun later => ¬ later.Touches code ∧ ¬ later.Expires started alert) history

def Lasts (history : List LifetimeEvent) (code : Int) : Prop := ∃ started alert, LastsFrom history code started alert

-- Published CLEAR changes for a code.
def clearsPublished (changes : List Change) (code : Int) : Nat :=
  changes.countP fun change => change.1 = .clear && change.2.code = code

end LifetimeEvent

namespace SysAlertsServer

-- The table's alert of a code with the start of its lifetime.
def Active (server : SysAlertsServer) (code : Int) (started : ℚ) (alert : Alert) : Prop :=
  server.activeAlerts.get code = some alert ∧ server.alertStartedAt.get code = some started

theorem raise_active (server : SysAlertsServer) (now : ℚ) (raised : Alert) (code : Int) (started : ℚ) (alert : Alert) :
    (server.applyChange now .raise raised).1.Active code started alert ↔
      (now = started ∧ raised = alert) ∧ alert.code = code ∨ server.Active code started alert ∧ raised.code ≠ code := by
  rw [raise_tables]
  simp only [Active, Dict.get_set]
  by_cases same : raised.code = code
  · simp only [same, if_true, Option.some.injEq, ne_eq, not_true_eq_false, and_false, or_false]
    apply Iff.intro
    · rintro ⟨rfl, rfl⟩
      exact ⟨⟨rfl, rfl⟩, same⟩
    · rintro ⟨⟨rfl, rfl⟩, _⟩
      exact ⟨rfl, rfl⟩
  · simp only [same, if_false, ne_eq, not_false_eq_true, and_true]
    rw [or_iff_right]
    rintro ⟨⟨_, rfl⟩, found⟩
    exact same found

theorem clear_active (server : SysAlertsServer) (now : ℚ) (cleared : Alert) (code : Int) (started : ℚ) (alert : Alert) :
    (server.applyChange now .clear cleared).1.Active code started alert ↔
      server.Active code started alert ∧ cleared.code ≠ code := by
  by_cases known : server.activeAlerts.get cleared.code = none
  · rw [clear_unknown server now cleared known]
    apply Iff.intro
    · rintro ⟨found, start⟩
      refine ⟨⟨found, start⟩, ?_⟩
      rintro rfl
      rw [known] at found
      cases found
    · exact And.left
  · rw [clear_tables server now cleared known]
    simp only [Active, Dict.get_pop]
    by_cases same : cleared.code = code
    · simp [same]
    · simp [same]

theorem clear_code_active (server : SysAlertsServer) (now : ℚ) (cleared code : Int) (started : ℚ) (alert : Alert)
    (valid : server.WellFormed) : (server.clearAlertFromCode now cleared).1.Active code started alert ↔
      server.Active code started alert ∧ cleared ≠ code := by
  simp only [clearAlertFromCode]
  split
  · rename_i unknown
    apply Iff.intro
    · rintro ⟨found, start⟩
      refine ⟨⟨found, start⟩, ?_⟩
      rintro rfl
      rw [unknown] at found
      cases found
    · exact And.left
  · rename_i other found
    rw [clear_active, valid.keyed cleared other found]

theorem expire_active (server : SysAlertsServer) (now : ℚ) (code : Int) (started : ℚ) (alert : Alert)
    (valid : server.WellFormed) : (server.expireAlerts now).1.Active code started alert ↔
      server.Active code started alert ∧ alert.ttl.reachedAfter (now - started) = false := by
  have elapsed : server.Active code started alert →
      server.expired now code alert = alert.ttl.reachedAfter (now - started) := by
    rintro ⟨_, start⟩
    rw [expired, start, Option.any_some]
    cases alert.ttl with
    | inf => rfl
    | seconds value => simp
    | negInf => rfl
    | nan => rfl
  apply Iff.intro
  · rintro ⟨found, start⟩
    rw [get_expire_alerts server now code valid, Option.filter_eq_some_iff, Bool.not_eq_true'] at found
    obtain ⟨before, running⟩ := found
    have kept := expire_alerts_keeps server now code alert valid before running
    rw [kept.2] at start
    exact ⟨⟨before, start⟩, by rw [← elapsed ⟨before, start⟩, running]⟩
  · rintro ⟨active, running⟩
    rw [← elapsed active] at running
    have kept := expire_alerts_keeps server now code alert valid active.1 running
    exact ⟨kept.1, kept.2.trans active.2⟩

end SysAlertsServer

namespace LifetimeEvent

open SysAlertsServer

theorem apply_well_formed (server : SysAlertsServer) (event : LifetimeEvent) (valid : server.WellFormed) :
    (event.apply server).1.WellFormed := by
  cases event with
  | raiseAlert now alert => exact apply_change_well_formed server now .raise alert valid
  | clearAlert now code => exact clear_alert_from_code_well_formed server now code valid
  | handleRequest now message => exact handle_request_well_formed server now message valid
  | expireAlerts now => exact expire_alerts_well_formed server now valid

theorem apply_active (server : SysAlertsServer) (event : LifetimeEvent) (code : Int) (started : ℚ) (alert : Alert)
    (valid : server.WellFormed) : (event.apply server).1.Active code started alert ↔
      event.raises = some (started, alert) ∧ alert.code = code ∨
        server.Active code started alert ∧ ¬ event.Touches code ∧ ¬ event.Expires started alert := by
  cases event with
  | raiseAlert now raised =>
      refine (raise_active server now raised code started alert).trans ?_
      simp [raises, clears, Touches, Expires]
  | clearAlert now cleared =>
      refine (clear_code_active server now cleared code started alert valid).trans ?_
      simp [raises, clears, Touches, Expires]
  | expireAlerts now =>
      refine (expire_active server now code started alert valid).trans ?_
      simp [raises, clears, Touches, Expires]
  | handleRequest now message =>
      simp only [apply, SysAlertsServer.handleRequest]
      cases decoded : decodeActionMessage message with
      | none => simp [raises, clears, Touches, Expires, decoded]
      | some change =>
          obtain ⟨action, other⟩ := change
          cases action with
          | raise =>
              refine (raise_active server now other code started alert).trans ?_
              simp [raises, clears, Touches, Expires, decoded]
          | clear =>
              refine (clear_active server now other code started alert).trans ?_
              simp [raises, clears, Touches, Expires, decoded]

theorem run_append (history : List LifetimeEvent) (event : LifetimeEvent) :
    run (history ++ [event]) = (event.apply (run history)).1 := by
  rw [run, List.foldl_append]
  rfl

theorem run_well_formed (history : List LifetimeEvent) : (run history).WellFormed := by
  induction history using List.reverseRecOn with
  | nil => exact init_well_formed
  | append_singleton history event ih =>
      rw [run_append]
      exact apply_well_formed (run history) event ih

theorem run_active (history : List LifetimeEvent) (code : Int) (started : ℚ) (alert : Alert) :
    (run history).Active code started alert ↔ LastsFrom history code started alert := by
  induction history using List.reverseRecOn with
  | nil =>
      apply iff_of_false
      · rintro ⟨found, _⟩
        cases found
      · exact since_nil _ _
  | append_singleton history event ih =>
      rw [run_append, apply_active (run history) event code started alert (run_well_formed history), ih]
      simp only [LastsFrom, since_append]

theorem known_active (server : SysAlertsServer) (code : Int) (valid : server.WellFormed) :
    server.activeAlerts.get code ≠ none ↔ ∃ started alert, server.Active code started alert := by
  apply Iff.intro
  · intro known
    obtain ⟨alert, found⟩ := Option.ne_none_iff_exists'.mp known
    have listed : code ∈ server.alertStartedAt.keys := by
      rw [valid.sameKeys, Dict.mem_keys_iff]
      exact ⟨alert, found⟩
    obtain ⟨started, start⟩ := (Dict.mem_keys_iff _ _).mp listed
    exact ⟨started, alert, found, start⟩
  · rintro ⟨started, alert, found, _⟩
    rw [found]
    exact Option.some_ne_none alert

end LifetimeEvent

namespace SysAlertsServer

open LifetimeEvent

theorem raise_published (server : SysAlertsServer) (now : ℚ) (alert : Alert) (code : Int) :
    clearsPublished (server.applyChange now .raise alert).2.toList code = 0 := by
  simp only [applyChange]
  split <;> rfl

theorem clear_published (server : SysAlertsServer) (now : ℚ) (alert : Alert) (code : Int) :
    clearsPublished (server.applyChange now .clear alert).2.toList code =
      if server.activeAlerts.get code ≠ none ∧ alert.code = code then 1 else 0 := by
  by_cases known : server.activeAlerts.get alert.code = none
  · rw [clear_unknown server now alert known, if_neg]
    · rfl
    · rintro ⟨active, rfl⟩
      exact active known
  · rw [clear_tables server now alert known]
    by_cases same : alert.code = code
    · subst same
      rw [if_pos ⟨known, rfl⟩]
      simp [clearsPublished]
    · rw [if_neg (fun both => same both.2)]
      simp [clearsPublished, same]

theorem clear_code_published (server : SysAlertsServer) (now : ℚ) (cleared code : Int) (valid : server.WellFormed) :
    clearsPublished (server.clearAlertFromCode now cleared).2.toList code =
      if server.activeAlerts.get code ≠ none ∧ cleared = code then 1 else 0 := by
  simp only [clearAlertFromCode]
  split
  · rename_i unknown
    rw [if_neg]
    · rfl
    · rintro ⟨active, rfl⟩
      exact active unknown
  · rename_i alert found
    rw [clear_published, valid.keyed cleared alert found]

-- A code is published the first time it is met; after that it is out of the table.
theorem clear_all_published (now : ℚ) (alerts : List Alert) (server : SysAlertsServer) (code : Int)
    (valid : server.WellFormed) :
    clearsPublished (clearAll now server alerts).2 code =
      if server.activeAlerts.get code ≠ none ∧ code ∈ alerts.map Alert.code then 1 else 0 := by
  induction alerts generalizing server with
  | nil => simp [clearAll, clearsPublished]
  | cons alert rest ih =>
      have one := clear_code_published server now alert.code code valid
      have others := ih _ (clear_alert_from_code_well_formed server now alert.code valid)
      rw [get_clear_alert_from_code server now alert.code code valid] at others
      simp only [clearAll, clearsPublished, List.countP_append] at one others ⊢
      rw [one, others]
      by_cases same : alert.code = code
      · by_cases active : server.activeAlerts.get code = none
        · simp [same, active]
        · simp [same, active]
      · simp [same, Ne.symm same]

end SysAlertsServer

namespace LifetimeEvent

open SysAlertsServer

-- The codes that an event takes out of the table.
def Removes (server : SysAlertsServer) (event : LifetimeEvent) (code : Int) : Prop :=
  server.activeAlerts.get code ≠ none ∧ (event.apply server).1.activeAlerts.get code = none

instance (server : SysAlertsServer) (event : LifetimeEvent) (code : Int) : Decidable (Removes server event code) :=
  inferInstanceAs (Decidable (_ ≠ _ ∧ _ = _))

theorem raise_removes (server : SysAlertsServer) (now : ℚ) (alert : Alert) (code : Int) :
    ¬ (server.activeAlerts.get code ≠ none ∧ (server.applyChange now .raise alert).1.activeAlerts.get code = none) := by
  rw [raise_tables, Dict.get_set]
  rintro ⟨known, gone⟩
  split at gone
  · cases gone
  · exact known gone

theorem clear_removes (server : SysAlertsServer) (now : ℚ) (alert : Alert) (code : Int) :
    server.activeAlerts.get code ≠ none ∧ (server.applyChange now .clear alert).1.activeAlerts.get code = none ↔
      server.activeAlerts.get code ≠ none ∧ alert.code = code := by
  apply and_congr_right
  intro known
  by_cases unknown : server.activeAlerts.get alert.code = none
  · rw [clear_unknown server now alert unknown]
    apply iff_of_false known
    rintro rfl
    exact known unknown
  · rw [clear_tables server now alert unknown, Dict.get_pop]
    by_cases same : alert.code = code
    · simp [same]
    · simp [same, known]

-- One CLEAR for a code that is taken out of the table, none for the others.
theorem removal_published (server : SysAlertsServer) (event : LifetimeEvent) (code : Int) (valid : server.WellFormed) :
    clearsPublished (event.apply server).2 code = if Removes server event code then 1 else 0 := by
  cases event with
  | raiseAlert now alert =>
      exact (raise_published server now alert code).trans (if_neg (raise_removes server now alert code)).symm
  | clearAlert now cleared =>
      refine (clear_code_published server now cleared code valid).trans (if_congr ?_ rfl rfl)
      apply and_congr_right
      intro known
      have left := get_clear_alert_from_code server now cleared code valid
      simp only [apply, SysAlertsServer.clearAlert, left]
      by_cases same : cleared = code
      · simp [same]
      · simp [same, known]
  | expireAlerts now =>
      refine (clear_all_published now _ server code valid).trans (if_congr ?_ rfl rfl)
      apply and_congr_right
      intro known
      have left := get_clear_all now (server.expiredAlerts now) server code valid
      simp only [apply, SysAlertsServer.expireAlerts, left]
      by_cases passed : code ∈ (server.expiredAlerts now).map Alert.code
      · simp [passed]
      · simp [passed, known]
  | handleRequest now message =>
      have published : (LifetimeEvent.handleRequest now message).apply server =
          ((server.handleRequest now message).1, (server.handleRequest now message).2.toList) := rfl
      cases decoded : decodeActionMessage message with
      | none =>
          have outcome : server.handleRequest now message = (server, none) := by
            simp [SysAlertsServer.handleRequest, decoded]
          rw [outcome] at published
          rw [published]
          apply Eq.symm (if_neg _)
          rintro ⟨known, gone⟩
          rw [published] at gone
          exact known gone
      | some change =>
          obtain ⟨action, alert⟩ := change
          have outcome : server.handleRequest now message = server.applyChange now action alert := by
            simp [SysAlertsServer.handleRequest, decoded]
          rw [outcome] at published
          rw [published]
          cases action with
          | raise =>
              refine (raise_published server now alert code).trans (if_neg ?_).symm
              rw [Removes, published]
              exact raise_removes server now alert code
          | clear =>
              refine (clear_published server now alert code).trans (if_congr ?_ rfl rfl)
              rw [Removes, published]
              exact (clear_removes server now alert code).symm

theorem alert_lifetime (history : List LifetimeEvent) (code : Int) :
    ((run history).activeAlerts.get code ≠ none ↔ Lasts history code) ∧
      ∀ event : LifetimeEvent, clearsPublished (event.apply (run history)).2 code =
        if Removes (run history) event code then 1 else 0 := by
  apply And.intro
  · rw [known_active (run history) code (run_well_formed history)]
    exact exists_congr fun started => exists_congr fun alert => run_active history code started alert
  · intro event
    exact removal_published (run history) event code (run_well_formed history)

-- The second raise keeps an alert that the first expiry would have ended.
example : (run [.raiseAlert 0 { level := 1, src := "motor", code := 7, ttl := .seconds 5 },
    .raiseAlert 3 { level := 1, src := "motor", code := 7, ttl := .seconds 5 }, .expireAlerts 6]).activeAlerts.get 7 ≠
      none := by decide +kernel

end LifetimeEvent

end Animacharacter.Alerts
