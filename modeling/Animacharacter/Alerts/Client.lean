import Animacharacter.Alerts.Server

set_option autoImplicit false

namespace Animacharacter.Alerts

def defaultTtl (ttl : Option PyFloat) (level : Int) : Except String PyFloat :=
  match ttl with
  | some given => .ok given
  | none =>
      if level = Level.INFO then .ok (.seconds 0)
      else if level = Level.FATAL then .ok .inf
      else .error "No TTL provided for alert raise action."

structure SysAlertsClient where
  activeAlerts : Dict Int Alert
deriving DecidableEq

-- The arguments of the client's raise_alert with their defaults.
structure RaiseArguments where
  level : Int
  src : String
  code : Int
  ttl : Option PyFloat := none
  subcode : Int := -1
  brief : String := ""
  description : String := ""

def RaiseArguments.alert (arguments : RaiseArguments) (ttl : PyFloat) : Alert where
  level := arguments.level
  src := arguments.src
  code := arguments.code
  ttl := ttl
  subcode := arguments.subcode
  brief := arguments.brief
  description := arguments.description

namespace SysAlertsClient

def init : SysAlertsClient := ⟨Dict.empty⟩

-- The request published; a ValueError leaves without one.
def raiseAlert (arguments : RaiseArguments) : Except String AlertAction := do
  let ttl ← defaultTtl arguments.ttl arguments.level
  return buildMessage .raise (arguments.alert ttl)

def clearAlert (code : Int) : AlertAction := buildMessage .clear { level := Level.INFO, src := "", code }

def handleChange (client : SysAlertsClient) (message : AlertAction) : SysAlertsClient :=
  match decodeActionMessage message with
  | none => client
  | some (.raise, alert) => ⟨client.activeAlerts.set alert.code alert⟩
  | some (.clear, alert) => ⟨client.activeAlerts.pop alert.code⟩

end SysAlertsClient

def replay (table : Dict Int Alert) : Change → Dict Int Alert
  | (.raise, alert) => table.set alert.code alert
  | (.clear, alert) => table.pop alert.code

theorem handle_change_replays (client : SysAlertsClient) (change : Change) (representable : Representable change.2) :
    client.handleChange (buildMessage change.1 change.2) = ⟨replay client.activeAlerts change⟩ := by
  obtain ⟨action, alert⟩ := change
  simp only [SysAlertsClient.handleChange, decode_build_message action alert representable]
  cases action <;> rfl

theorem handle_changes_replay (changes : List Change) (client : SysAlertsClient)
    (representable : ∀ change ∈ changes, Representable change.2) :
    (changes.map fun change => buildMessage change.1 change.2).foldl SysAlertsClient.handleChange client =
      ⟨changes.foldl replay client.activeAlerts⟩ := by
  induction changes generalizing client with
  | nil => rfl
  | cons change rest ih =>
      simp only [List.map_cons, List.foldl_cons,
        handle_change_replays client change (representable change (by simp))]
      exact ih _ fun later member => representable later (by simp [member])

namespace SysAlertsServer

def AllRepresentable (server : SysAlertsServer) : Prop :=
  ∀ code alert, server.activeAlerts.get code = some alert → Representable alert

-- Replaying what was published on the old table gives the new one.
structure Faithful (server : SysAlertsServer) (result : SysAlertsServer × List Change) : Prop where
  replayed : result.2.foldl replay server.activeAlerts = result.1.activeAlerts
  carried : ∀ change ∈ result.2, Representable change.2
  valid : result.1.WellFormed
  representable : result.1.AllRepresentable

theorem faithful_nothing (server : SysAlertsServer) (valid : server.WellFormed)
    (representable : server.AllRepresentable) : Faithful server (server, []) :=
  ⟨rfl, fun _ member => (by cases member), valid, representable⟩

theorem faithful_append (server : SysAlertsServer) (middle last : SysAlertsServer × List Change)
    (first : Faithful server middle) (second : Faithful middle.1 last) :
    Faithful server (last.1, middle.2 ++ last.2) := by
  constructor
  · rw [List.foldl_append, first.replayed, second.replayed]
  · intro change member
    rcases List.mem_append.mp member with early | late
    · exact first.carried change early
    · exact second.carried change late
  · exact second.valid
  · exact second.representable

theorem raise_faithful (server : SysAlertsServer) (now : ℚ) (alert : Alert) (valid : server.WellFormed)
    (representable : server.AllRepresentable) (fits : Representable alert) :
    Faithful server ((server.applyChange now .raise alert).1, (server.applyChange now .raise alert).2.toList) := by
  have tables := raise_tables server now alert
  constructor
  · rw [tables]
    simp only [applyChange]
    split
    · rename_i equal
      obtain ⟨known, found, same⟩ := (Option.any_eq_true _ _).mp equal
      rw [Alert.eq_sound known alert same] at found
      simp [Dict.set_same _ _ _ found]
    · rfl
  · intro change member
    simp only [applyChange] at member
    split at member
    · cases member
    · simp only [Option.toList_some, List.mem_singleton] at member
      rw [member]
      exact fits
  · exact apply_change_well_formed server now .raise alert valid
  · rw [tables]
    intro code other found
    simp only [Dict.get_set] at found
    split at found
    · cases found
      exact fits
    · exact representable code other found

theorem clear_faithful (server : SysAlertsServer) (now : ℚ) (alert : Alert) (valid : server.WellFormed)
    (representable : server.AllRepresentable) (fits : Representable alert) :
    Faithful server ((server.applyChange now .clear alert).1, (server.applyChange now .clear alert).2.toList) := by
  have kept := apply_change_well_formed server now .clear alert valid
  by_cases known : server.activeAlerts.get alert.code = none
  · rw [clear_unknown server now alert known]
    exact faithful_nothing server valid representable
  · rw [clear_tables server now alert known] at kept ⊢
    refine ⟨rfl, ?_, kept, ?_⟩
    · intro change member
      simp only [Option.toList_some, List.mem_singleton] at member
      rw [member]
      exact fits
    · intro code other found
      simp only [Dict.get_pop] at found
      split at found
      · cases found
      · exact representable code other found

theorem apply_change_faithful (server : SysAlertsServer) (now : ℚ) (action : AlertActionType) (alert : Alert)
    (valid : server.WellFormed) (representable : server.AllRepresentable) (fits : Representable alert) :
    Faithful server ((server.applyChange now action alert).1, (server.applyChange now action alert).2.toList) := by
  cases action with
  | raise => exact raise_faithful server now alert valid representable fits
  | clear => exact clear_faithful server now alert valid representable fits

theorem clear_alert_from_code_faithful (server : SysAlertsServer) (now : ℚ) (code : Int) (valid : server.WellFormed)
    (representable : server.AllRepresentable) :
    Faithful server ((server.clearAlertFromCode now code).1, (server.clearAlertFromCode now code).2.toList) := by
  simp only [clearAlertFromCode]
  split
  · exact faithful_nothing server valid representable
  · rename_i alert found
    exact clear_faithful server now alert valid representable (representable code alert found)

theorem clear_all_faithful (now : ℚ) (alerts : List Alert) (server : SysAlertsServer) (valid : server.WellFormed)
    (representable : server.AllRepresentable) : Faithful server (clearAll now server alerts) := by
  induction alerts generalizing server with
  | nil => exact faithful_nothing server valid representable
  | cons alert rest ih =>
      have first := clear_alert_from_code_faithful server now alert.code valid representable
      exact faithful_append server _ _ first (ih _ first.valid first.representable)

theorem expire_alerts_faithful (server : SysAlertsServer) (now : ℚ) (valid : server.WellFormed)
    (representable : server.AllRepresentable) : Faithful server (server.expireAlerts now) :=
  clear_all_faithful now _ server valid representable

theorem handle_request_faithful (server : SysAlertsServer) (now : ℚ) (message : AlertAction)
    (valid : server.WellFormed) (representable : server.AllRepresentable) :
    Faithful server ((server.handleRequest now message).1, (server.handleRequest now message).2.toList) := by
  simp only [handleRequest]
  split
  · exact faithful_nothing server valid representable
  · rename_i action alert decoded
    exact apply_change_faithful server now action alert valid representable
      (decoded_representable message action alert decoded)

end SysAlertsServer

end Animacharacter.Alerts
