import Animacharacter.Library.Dict
import Animacharacter.Alerts.Alert

set_option autoImplicit false

namespace Animacharacter.Alerts

structure SysAlertsServer where
  activeAlerts : Dict Int Alert
  alertStartedAt : Dict Int ℚ
deriving DecidableEq

abbrev Change := AlertActionType × Alert

namespace SysAlertsServer

def init : SysAlertsServer := ⟨Dict.empty, Dict.empty⟩

-- The change published, if any, is the second component.
def applyChange (server : SysAlertsServer) (now : ℚ) (action : AlertActionType) (alert : Alert) :
    SysAlertsServer × Option Change :=
  match action with
  | .raise =>
      let current := server.activeAlerts.get alert.code
      -- The lifetime is refreshed even when nothing is published.
      let updated : SysAlertsServer :=
        ⟨server.activeAlerts.set alert.code alert, server.alertStartedAt.set alert.code now⟩
      if current.any (fun known => known.eq alert) then (updated, none)
      else (updated, some (.raise, alert))
  | .clear =>
      if server.activeAlerts.get alert.code = none then (server, none)
      else (⟨server.activeAlerts.pop alert.code, server.alertStartedAt.pop alert.code⟩, some (.clear, alert))

def clearAlertFromCode (server : SysAlertsServer) (now : ℚ) (code : Int) : SysAlertsServer × Option Change :=
  match server.activeAlerts.get code with
  | none => (server, none)
  | some alert => server.applyChange now .clear alert

def raiseAlert (server : SysAlertsServer) (now : ℚ) (alert : Alert) : SysAlertsServer × Option Change :=
  server.applyChange now .raise alert

def clearAlert (server : SysAlertsServer) (now : ℚ) (code : Int) : SysAlertsServer × Option Change :=
  server.clearAlertFromCode now code

-- A message that does not decode raises before anything changes.
def handleRequest (server : SysAlertsServer) (now : ℚ) (message : AlertAction) : SysAlertsServer × Option Change :=
  match decodeActionMessage message with
  | none => (server, none)
  | some (action, alert) => server.applyChange now action alert

def expired (server : SysAlertsServer) (now : ℚ) (code : Int) (alert : Alert) : Bool :=
  alert.ttl ≠ .inf &&
    (server.alertStartedAt.get code).any fun started => alert.ttl.reachedAfter (now - started)

def expiredAlerts (server : SysAlertsServer) (now : ℚ) : List Alert :=
  (server.activeAlerts.entries.filter fun entry => server.expired now entry.1 entry.2).map Prod.snd

def clearAll (now : ℚ) : SysAlertsServer → List Alert → SysAlertsServer × List Change
  | server, [] => (server, [])
  | server, alert :: rest =>
      let cleared := server.clearAlertFromCode now alert.code
      let after := clearAll now cleared.1 rest
      (after.1, cleared.2.toList ++ after.2)

def expireAlerts (server : SysAlertsServer) (now : ℚ) : SysAlertsServer × List Change :=
  clearAll now server (server.expiredAlerts now)

def getActiveAlerts (server : SysAlertsServer) : List Alert := server.activeAlerts.entries.map Prod.snd

def getAlertsFromLevel (server : SysAlertsServer) (startingLevel : Int) : List Alert :=
  server.getActiveAlerts.filter fun alert => startingLevel ≤ alert.level

structure WellFormed (server : SysAlertsServer) : Prop where
  sameKeys : server.alertStartedAt.keys = server.activeAlerts.keys
  keyed : ∀ code alert, server.activeAlerts.get code = some alert → alert.code = code

theorem init_well_formed : init.WellFormed := ⟨rfl, fun _ _ found => by cases found⟩

theorem raise_tables (server : SysAlertsServer) (now : ℚ) (alert : Alert) :
    (server.applyChange now .raise alert).1 =
      ⟨server.activeAlerts.set alert.code alert, server.alertStartedAt.set alert.code now⟩ := by
  simp only [applyChange]
  split <;> rfl

theorem clear_tables (server : SysAlertsServer) (now : ℚ) (alert : Alert)
    (known : server.activeAlerts.get alert.code ≠ none) :
    server.applyChange now .clear alert =
      (⟨server.activeAlerts.pop alert.code, server.alertStartedAt.pop alert.code⟩, some (.clear, alert)) := by
  simp [applyChange, known]

theorem clear_unknown (server : SysAlertsServer) (now : ℚ) (alert : Alert)
    (unknown : server.activeAlerts.get alert.code = none) :
    server.applyChange now .clear alert = (server, none) := by
  simp [applyChange, unknown]

theorem unpublished_change (server : SysAlertsServer) (now : ℚ) (action : AlertActionType) (alert : Alert)
    (silent : (server.applyChange now action alert).2 = none) :
    (server.applyChange now action alert).1.activeAlerts = server.activeAlerts := by
  cases action with
  | raise =>
      rw [raise_tables]
      simp only [applyChange] at silent
      split at silent
      · rename_i known
        obtain ⟨current, found, equal⟩ := (Option.any_eq_true _ _).mp known
        exact Dict.set_same _ _ _ (by rw [found, Alert.eq_sound _ _ equal])
      · cases silent
  | clear =>
      by_cases known : server.activeAlerts.get alert.code = none
      · rw [clear_unknown server now alert known]
      · rw [clear_tables server now alert known] at silent
        cases silent

theorem apply_change_well_formed (server : SysAlertsServer) (now : ℚ) (action : AlertActionType) (alert : Alert)
    (valid : server.WellFormed) : (server.applyChange now action alert).1.WellFormed := by
  cases action with
  | raise =>
      rw [raise_tables]
      constructor
      · simp only [Dict.keys_set, valid.sameKeys]
      · intro code other found
        simp only [Dict.get_set] at found
        split at found
        · rename_i same
          cases found
          exact same
        · exact valid.keyed code other found
  | clear =>
      by_cases known : server.activeAlerts.get alert.code = none
      · rw [clear_unknown server now alert known]
        exact valid
      · rw [clear_tables server now alert known]
        constructor
        · simp only [Dict.keys_pop, valid.sameKeys]
        · intro code other found
          simp only [Dict.get_pop] at found
          split at found
          · cases found
          · exact valid.keyed code other found

theorem clear_alert_from_code_well_formed (server : SysAlertsServer) (now : ℚ) (code : Int)
    (valid : server.WellFormed) : (server.clearAlertFromCode now code).1.WellFormed := by
  simp only [clearAlertFromCode]
  split
  · exact valid
  · exact apply_change_well_formed server now .clear _ valid

theorem clear_all_well_formed (now : ℚ) (alerts : List Alert) (server : SysAlertsServer)
    (valid : server.WellFormed) : (clearAll now server alerts).1.WellFormed := by
  induction alerts generalizing server with
  | nil => exact valid
  | cons alert rest ih => exact ih _ (clear_alert_from_code_well_formed server now alert.code valid)

theorem expire_alerts_well_formed (server : SysAlertsServer) (now : ℚ) (valid : server.WellFormed) :
    (server.expireAlerts now).1.WellFormed :=
  clear_all_well_formed now _ server valid

theorem handle_request_well_formed (server : SysAlertsServer) (now : ℚ) (message : AlertAction)
    (valid : server.WellFormed) : (server.handleRequest now message).1.WellFormed := by
  simp only [handleRequest]
  split
  · exact valid
  · exact apply_change_well_formed server now _ _ valid

theorem get_clear_alert_from_code (server : SysAlertsServer) (now : ℚ) (code other : Int) (valid : server.WellFormed) :
    (server.clearAlertFromCode now code).1.activeAlerts.get other =
      if code = other then none else server.activeAlerts.get other := by
  simp only [clearAlertFromCode]
  split
  · rename_i unknown
    split
    · rename_i same
      rw [← same, unknown]
    · rfl
  · rename_i alert found
    have same := valid.keyed code alert found
    rw [clear_tables server now alert (by simp [same, found]), same, Dict.get_pop]

theorem get_clear_all (now : ℚ) (alerts : List Alert) (server : SysAlertsServer) (code : Int)
    (valid : server.WellFormed) :
    (clearAll now server alerts).1.activeAlerts.get code =
      if code ∈ alerts.map Alert.code then none else server.activeAlerts.get code := by
  induction alerts generalizing server with
  | nil => simp [clearAll]
  | cons alert rest ih =>
      simp only [clearAll, ih _ (clear_alert_from_code_well_formed server now alert.code valid),
        get_clear_alert_from_code server now alert.code code valid, List.map_cons, List.mem_cons]
      by_cases later : code ∈ rest.map Alert.code
      · simp [later]
      · by_cases same : alert.code = code
        · simp [same]
        · simp [later, same, Ne.symm same]

theorem started_clear_alert_from_code (server : SysAlertsServer) (now : ℚ) (code other : Int)
    (valid : server.WellFormed) (distinct : code ≠ other) :
    (server.clearAlertFromCode now code).1.alertStartedAt.get other = server.alertStartedAt.get other := by
  simp only [clearAlertFromCode]
  split
  · rfl
  · rename_i alert found
    have same := valid.keyed code alert found
    rw [clear_tables server now alert (by simp [same, found]), same, Dict.get_pop, if_neg distinct]

theorem started_clear_all (now : ℚ) (alerts : List Alert) (server : SysAlertsServer) (code : Int)
    (valid : server.WellFormed) (kept : code ∉ alerts.map Alert.code) :
    (clearAll now server alerts).1.alertStartedAt.get code = server.alertStartedAt.get code := by
  induction alerts generalizing server with
  | nil => rfl
  | cons alert rest ih =>
      simp only [List.map_cons, List.mem_cons, not_or] at kept
      exact (ih _ (clear_alert_from_code_well_formed server now alert.code valid) kept.2).trans
        (started_clear_alert_from_code server now alert.code code valid (Ne.symm kept.1))

theorem mem_expired_codes (server : SysAlertsServer) (now : ℚ) (code : Int) (valid : server.WellFormed) :
    code ∈ (server.expiredAlerts now).map Alert.code ↔
      ∃ alert, server.activeAlerts.get code = some alert ∧ server.expired now code alert = true := by
  simp only [expiredAlerts, List.map_map, List.mem_map, List.mem_filter, Function.comp, Prod.exists]
  constructor
  · rintro ⟨key, alert, ⟨member, elapsed⟩, rfl⟩
    have found := (Dict.mem_entries_iff _ _ _).mp member
    have same := valid.keyed key alert found
    exact ⟨alert, by rw [same, found], by rw [same]; exact elapsed⟩
  · rintro ⟨alert, found, elapsed⟩
    exact ⟨code, alert, ⟨(Dict.mem_entries_iff _ _ _).mpr found, elapsed⟩, valid.keyed code alert found⟩

theorem get_expire_alerts (server : SysAlertsServer) (now : ℚ) (code : Int) (valid : server.WellFormed) :
    (server.expireAlerts now).1.activeAlerts.get code =
      (server.activeAlerts.get code).filter fun alert => !server.expired now code alert := by
  have cleared := get_clear_all now (server.expiredAlerts now) server code valid
  rw [expireAlerts, cleared]
  by_cases elapsed : code ∈ (server.expiredAlerts now).map Alert.code
  · obtain ⟨alert, found, passed⟩ := (mem_expired_codes server now code valid).mp elapsed
    simp [elapsed, found, passed, Option.filter]
  · cases found : server.activeAlerts.get code with
    | none => simp
    | some alert =>
        have stays : server.expired now code alert = false := by
          by_contra passed
          exact elapsed ((mem_expired_codes server now code valid).mpr ⟨alert, found, by simpa using passed⟩)
        simp [elapsed, stays, Option.filter]

-- An alert whose time has not run out is left alone, start time included.
theorem expire_alerts_keeps (server : SysAlertsServer) (now : ℚ) (code : Int) (alert : Alert)
    (valid : server.WellFormed) (found : server.activeAlerts.get code = some alert)
    (running : server.expired now code alert = false) :
    (server.expireAlerts now).1.activeAlerts.get code = some alert ∧
      (server.expireAlerts now).1.alertStartedAt.get code = server.alertStartedAt.get code := by
  constructor
  · rw [get_expire_alerts server now code valid, found]
    simp [Option.filter, running]
  · refine started_clear_all now _ server code valid fun elapsed => ?_
    obtain ⟨other, known, passed⟩ := (mem_expired_codes server now code valid).mp elapsed
    rw [found] at known
    cases known
    rw [running] at passed
    cases passed

end SysAlertsServer

end Animacharacter.Alerts
