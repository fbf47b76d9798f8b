import Animacharacter.Library.StepSystem
import Animacharacter.Alerts.Client

set_option autoImplicit false

namespace Animacharacter.Alerts

open StepSystem

-- A client with its side of the two topics: requests it has published and the
-- server has not handled, changes the server has published and it has not.
structure Mirror where
  client : SysAlertsClient
  requests : List AlertAction
  changes : List AlertAction
deriving DecidableEq

def Mirror.init : Mirror := ⟨SysAlertsClient.init, [], []⟩

structure MirrorState where
  server : SysAlertsServer
  now : ℚ
  mirrors : List Mirror
deriving DecidableEq

inductive MirrorAction where
  | advance (elapsed : ℚ)
  | raiseAlert (alert : Alert)
  | clearAlert (code : Int)
  | expireAlerts
  | clientRaise (index : Nat) (arguments : RaiseArguments)
  | clientClear (index : Nat) (code : Int)
  | handleRequest (index : Nat)
  | handleChange (index : Nat)

namespace MirrorState

def publish (mirrors : List Mirror) (changes : List Change) : List Mirror :=
  mirrors.map fun mirror =>
    { mirror with changes := mirror.changes ++ changes.map fun change => buildMessage change.1 change.2 }

def serve (state : MirrorState) (mirrors : List Mirror) (result : SysAlertsServer × List Change) : MirrorState :=
  { state with server := result.1, mirrors := publish mirrors result.2 }

def step (state : MirrorState) : MirrorAction → Option MirrorState
  | .advance elapsed => if 0 ≤ elapsed then some { state with now := state.now + elapsed } else none
  | .raiseAlert alert =>
      let result := state.server.raiseAlert state.now alert
      some (state.serve state.mirrors (result.1, result.2.toList))
  | .clearAlert code =>
      let result := state.server.clearAlert state.now code
      some (state.serve state.mirrors (result.1, result.2.toList))
  | .expireAlerts => some (state.serve state.mirrors (state.server.expireAlerts state.now))
  | .clientRaise index arguments =>
      state.mirrors[index]?.map fun mirror =>
        match SysAlertsClient.raiseAlert arguments with
        | .error _ => state
        | .ok message =>
            { state with mirrors := state.mirrors.set index { mirror with requests := mirror.requests ++ [message] } }
  | .clientClear index code =>
      state.mirrors[index]?.map fun mirror =>
        { state with mirrors := state.mirrors.set index
                      { mirror with requests := mirror.requests ++ [SysAlertsClient.clearAlert code] } }
  | .handleRequest index =>
      match state.mirrors[index]? with
      | some { client, requests := message :: rest, changes } =>
          let result := state.server.handleRequest state.now message
          some (state.serve (state.mirrors.set index { client, requests := rest, changes }) (result.1, result.2.toList))
      | _ => none
  | .handleChange index =>
      match state.mirrors[index]? with
      | some { client, requests, changes := message :: rest } =>
          some { state with mirrors := state.mirrors.set index
                              { client := client.handleChange message, requests, changes := rest } }
      | _ => none

end MirrorState

def mirrorSystem : System MirrorState MirrorAction where
  start state := state.server = SysAlertsServer.init ∧ ∀ mirror ∈ state.mirrors, mirror = Mirror.init
  step := MirrorState.step

-- Alerts raised by the host have to fit the message they are published in.
def representable (_ : MirrorState) : MirrorAction → Prop
  | .raiseAlert alert => Representable alert
  | _ => True

instance (state : MirrorState) : (action : MirrorAction) → Decidable (representable state action)
  | .raiseAlert alert => inferInstanceAs (Decidable (Representable alert))
  | .advance _ | .clearAlert _ | .expireAlerts | .clientRaise _ _ | .clientClear _ _ | .handleRequest _
  | .handleChange _ => inferInstanceAs (Decidable True)

def Mirror.settled (mirror : Mirror) : Dict Int Alert :=
  (mirror.changes.foldl SysAlertsClient.handleChange mirror.client).activeAlerts

structure MirrorInvariant (state : MirrorState) : Prop where
  valid : state.server.WellFormed
  representable : state.server.AllRepresentable
  settled : ∀ mirror ∈ state.mirrors, mirror.settled = state.server.activeAlerts

theorem settled_publish (mirror : Mirror) (changes : List Change)
    (carried : ∀ change ∈ changes, Representable change.2) :
    Mirror.settled { mirror with changes := mirror.changes ++ changes.map fun change => buildMessage change.1 change.2 } =
      changes.foldl replay mirror.settled := by
  simp only [Mirror.settled, List.foldl_append, handle_changes_replay changes _ carried]

theorem serve_invariant (state : MirrorState) (mirrors : List Mirror) (result : SysAlertsServer × List Change)
    (settled : ∀ mirror ∈ mirrors, mirror.settled = state.server.activeAlerts)
    (faithful : state.server.Faithful result) : MirrorInvariant (state.serve mirrors result) := by
  refine ⟨faithful.valid, faithful.representable, ?_⟩
  intro mirror member
  simp only [MirrorState.serve, MirrorState.publish, List.mem_map] at member
  obtain ⟨source, inside, rfl⟩ := member
  rw [settled_publish source result.2 faithful.carried, settled source inside]
  exact faithful.replayed

theorem set_settled (mirrors : List Mirror) (index : Nat) (mirror next : Mirror) (table : Dict Int Alert)
    (settled : ∀ other ∈ mirrors, other.settled = table) (present : mirrors[index]? = some mirror)
    (same : next.settled = mirror.settled) : ∀ other ∈ mirrors.set index next, other.settled = table := by
  intro other member
  rcases List.mem_or_eq_of_mem_set member with old | replaced
  · exact settled other old
  · rw [replaced, same]
    exact settled mirror (List.mem_of_getElem? present)

theorem mirror_step_invariant (state next : MirrorState) (action : MirrorAction) (inv : MirrorInvariant state)
    (fits : representable state action) (moved : state.step action = some next) : MirrorInvariant next := by
  cases action with
  | advance elapsed =>
      simp only [MirrorState.step] at moved
      split at moved
      · cases moved
        exact ⟨inv.valid, inv.representable, inv.settled⟩
      · cases moved
  | raiseAlert alert =>
      cases moved
      exact serve_invariant state _ _ inv.settled
        (SysAlertsServer.apply_change_faithful state.server state.now .raise alert inv.valid inv.representable fits)
  | clearAlert code =>
      cases moved
      exact serve_invariant state _ _ inv.settled
        (SysAlertsServer.clear_alert_from_code_faithful state.server state.now code inv.valid inv.representable)
  | expireAlerts =>
      cases moved
      exact serve_invariant state _ _ inv.settled
        (SysAlertsServer.expire_alerts_faithful state.server state.now inv.valid inv.representable)
  | clientRaise index arguments =>
      simp only [MirrorState.step, Option.map_eq_some_iff] at moved
      obtain ⟨mirror, present, rfl⟩ := moved
      cases SysAlertsClient.raiseAlert arguments with
      | error _ => exact inv
      | ok message => exact ⟨inv.valid, inv.representable, set_settled _ index mirror _ _ inv.settled present rfl⟩
  | clientClear index code =>
      simp only [MirrorState.step, Option.map_eq_some_iff] at moved
      obtain ⟨mirror, present, rfl⟩ := moved
      exact ⟨inv.valid, inv.representable, set_settled _ index mirror _ _ inv.settled present rfl⟩
  | handleRequest index =>
      simp only [MirrorState.step] at moved
      split at moved
      · rename_i client message rest changes present
        cases moved
        exact serve_invariant state _ _ (set_settled _ index _ _ _ inv.settled present rfl)
          (SysAlertsServer.handle_request_faithful state.server state.now message inv.valid inv.representable)
      · cases moved
  | handleChange index =>
      simp only [MirrorState.step] at moved
      split at moved
      · rename_i client requests message rest present
        cases moved
        exact ⟨inv.valid, inv.representable, set_settled _ index _ _ _ inv.settled present rfl⟩
      · cases moved

theorem mirror_reached_invariant (state : MirrorState) (reached : Reached mirrorSystem representable state) :
    MirrorInvariant state := by
  apply reached_invariant mirrorSystem representable MirrorInvariant _ _ state reached
  · rintro initial ⟨fresh, clients⟩
    refine ⟨?_, ?_, ?_⟩
    · rw [fresh]
      exact SysAlertsServer.init_well_formed
    · rw [fresh]
      intro code alert found
      cases found
    · intro mirror member
      rw [clients mirror member, fresh]
      rfl
  · intro source action target inv fits moved
    exact mirror_step_invariant source target action inv fits moved

-- Whatever the server has been through, a client that has handled every change
-- holds the server's table, and the server's two tables agree on their keys.
theorem alert_mirror_consistency (state : MirrorState) (reached : Reached mirrorSystem representable state) :
    (∀ mirror ∈ state.mirrors, mirror.changes = [] → mirror.client.activeAlerts = state.server.activeAlerts) ∧
      state.server.alertStartedAt.keys = state.server.activeAlerts.keys ∧
      ∀ code alert, state.server.activeAlerts.get code = some alert → alert.code = code := by
  have inv := mirror_reached_invariant state reached
  refine ⟨?_, inv.valid.sameKeys, inv.valid.keyed⟩
  intro mirror member handled
  have settled := inv.settled mirror member
  rw [Mirror.settled, handled] at settled
  exact settled

def heartbeatLost : Alert := { level := Level.FATAL, src := "core:hardware_manager", code := 220 }

-- The second raise of the fatal alert is not published.
def expiryRun : List MirrorAction :=
  [.clientRaise 0 { level := Level.INFO, src := "session_manager", code := 100 }, .handleRequest 0, .handleChange 0,
    .raiseAlert heartbeatLost, .advance 3, .expireAlerts, .raiseAlert heartbeatLost, .handleChange 0, .handleChange 0]

def expiryRunMirror : Mirror := ⟨⟨Dict.empty.set 220 heartbeatLost⟩, [], []⟩

def expiryRunEnd : MirrorState :=
  ⟨⟨Dict.empty.set 220 heartbeatLost, Dict.empty.set 220 3⟩, 3, [expiryRunMirror]⟩

theorem alert_mirror_consistency_expiry :
    expiryRunMirror.client.activeAlerts = expiryRunEnd.server.activeAlerts ∧
      expiryRunEnd.server.alertStartedAt.keys = expiryRunEnd.server.activeAlerts.keys := by
  have reached : Reached mirrorSystem representable expiryRunEnd :=
    replay_reached mirrorSystem representable expiryRun ⟨SysAlertsServer.init, 0, [Mirror.init]⟩ expiryRunEnd
      ⟨rfl, by decide⟩ (by decide +kernel)
  obtain ⟨mirrored, sameKeys, _⟩ := alert_mirror_consistency expiryRunEnd reached
  exact ⟨mirrored expiryRunMirror (List.mem_singleton.mpr rfl) rfl, sameKeys⟩

end Animacharacter.Alerts
