import Animacharacter.Alerts.Server
import Animacharacter.Orchestration.Supervisor

set_option autoImplicit false

namespace Animacharacter.Orchestration

open Alerts

-- The supervisor's registry as its documentation describes it: one entry for
-- each source and code, with the alert last raised and the time of that raise.
abbrev Registry := String → Int → Option (Alert × ℚ)

def Registry.raise (registry : Registry) (now : ℚ) (alert : Alert) : Registry := fun source code =>
  if source = alert.src ∧ code = alert.code then some (alert, now) else registry source code

def Registry.clear (registry : Registry) (cleared : Int) : Registry := fun source code =>
  if code = cleared then none else registry source code

inductive Operation where
  | raiseAlert (alert : Alert)
  | clearAlert (code : Int)
  | handleRequest (message : AlertAction)
  | processEvent (event : ProcessEvent)
  | heartbeatTimeout (hbName : String)
  | expireAlerts
  | advance (elapsed : ℚ) (forward : 0 ≤ elapsed)

namespace Operation

def raised : Operation → Option Alert
  | .raiseAlert alert => some alert
  | .handleRequest message =>
      match decodeActionMessage message with
      | some (.raise, alert) => some alert
      | _ => none
  | .processEvent event => onProcessEventCb event
  | .heartbeatTimeout hbName => some (onHeartbeatTimeoutCb hbName)
  | _ => none

def cleared : Operation → Option Int
  | .clearAlert code => some code
  | .handleRequest message =>
      match decodeActionMessage message with
      | some (.clear, alert) => some alert.code
      | _ => none
  | _ => none

end Operation

-- The server, the clock and, beside them, the registry the documentation asks for.
structure Supervised where
  server : SysAlertsServer
  now : ℚ
  registry : Registry

namespace Supervised

def init : Supervised := ⟨SysAlertsServer.init, 0, fun _ _ => none⟩

def serverAfter (state : Supervised) : Operation → SysAlertsServer
  | .raiseAlert alert => (state.server.raiseAlert state.now alert).1
  | .clearAlert code => (state.server.clearAlert state.now code).1
  | .handleRequest message => (state.server.handleRequest state.now message).1
  | .processEvent event =>
      match onProcessEventCb event with
      | none => state.server
      | some alert => (state.server.raiseAlert state.now alert).1
  | .heartbeatTimeout hbName => (state.server.raiseAlert state.now (onHeartbeatTimeoutCb hbName)).1
  | .expireAlerts => (state.server.expireAlerts state.now).1
  | .advance _ _ => state.server

def registryAfter (state : Supervised) (operation : Operation) : Registry :=
  match operation.raised, operation.cleared with
  | some alert, _ => state.registry.raise state.now alert
  | none, some code => state.registry.clear code
  | none, none => state.registry

def nowAfter (state : Supervised) : Operation → ℚ
  | .advance elapsed _ => state.now + elapsed
  | _ => state.now

def step (state : Supervised) (operation : Operation) : Supervised :=
  ⟨state.serverAfter operation, state.nowAfter operation, state.registryAfter operation⟩

def Live (state : Supervised) (source : String) (code : Int) (alert : Alert) (started : ℚ) : Prop :=
  state.registry source code = some (alert, started) ∧ alert.ttl.reachedAfter (state.now - started) = false

def Kept (state : Supervised) : Prop :=
  ∀ source code alert started, state.Live source code alert started →
    ∃ active, state.server.activeAlerts.get code = some active ∧ active.src = source ∧
      active.level = alert.level ∧ active.ttl = alert.ttl

def KeptThroughout : Supervised → List Operation → Prop
  | state, [] => state.Kept
  | state, operation :: rest => state.Kept ∧ KeptThroughout (state.step operation) rest

def FreeFor (state : Supervised) (alert : Alert) : Prop :=
  ∀ source known started, state.Live source alert.code known started → source = alert.src

def RaisedFree : Supervised → List Operation → Prop
  | _, [] => True
  | state, operation :: rest =>
      (∀ alert, operation.raised = some alert → state.FreeFor alert) ∧ RaisedFree (state.step operation) rest

structure Tracks (state : Supervised) : Prop where
  valid : state.server.WellFormed
  active : ∀ source code alert started, state.Live source code alert started →
    state.server.activeAlerts.get code = some alert ∧ state.server.alertStartedAt.get code = some started
  keyed : ∀ source code alert started, state.registry source code = some (alert, started) →
    alert.src = source ∧ alert.code = code

theorem tracks_kept (state : Supervised) (tracks : state.Tracks) : state.Kept := by
  intro source code alert started live
  exact ⟨alert, (tracks.active source code alert started live).1, (tracks.keyed _ _ _ _ live.1).1, rfl, rfl⟩

inductive StepCase (state : Supervised) (operation : Operation) : Prop where
  | raised (alert : Alert) (raises : operation.raised = some alert)
      (after : state.step operation =
        ⟨⟨state.server.activeAlerts.set alert.code alert, state.server.alertStartedAt.set alert.code state.now⟩,
          state.now, state.registry.raise state.now alert⟩)
  | cleared (code : Int) (server : SysAlertsServer) (quiet : operation.raised = none) (valid : server.WellFormed)
      (others : ∀ other, code ≠ other → server.activeAlerts.get other = state.server.activeAlerts.get other ∧
        server.alertStartedAt.get other = state.server.alertStartedAt.get other)
      (after : state.step operation = ⟨server, state.now, state.registry.clear code⟩)
  | expired (quiet : operation.raised = none)
      (after : state.step operation = ⟨(state.server.expireAlerts state.now).1, state.now, state.registry⟩)
  | waited (later : ℚ) (quiet : operation.raised = none) (forward : state.now ≤ later)
      (after : state.step operation = ⟨state.server, later, state.registry⟩)

theorem raise_case (state : Supervised) (operation : Operation) (alert : Alert)
    (raises : operation.raised = some alert) (sameNow : state.nowAfter operation = state.now)
    (after : state.serverAfter operation = (state.server.raiseAlert state.now alert).1) :
    state.StepCase operation := by
  refine .raised alert raises ?_
  simp only [step, after, sameNow, registryAfter, raises, SysAlertsServer.raiseAlert, SysAlertsServer.raise_tables]

theorem clear_case (state : Supervised) (operation : Operation) (code : Int) (quiet : operation.raised = none)
    (clears : operation.cleared = some code) (sameNow : state.nowAfter operation = state.now)
    (valid : (state.serverAfter operation).WellFormed)
    (others : ∀ other, code ≠ other →
      (state.serverAfter operation).activeAlerts.get other = state.server.activeAlerts.get other ∧
      (state.serverAfter operation).alertStartedAt.get other = state.server.alertStartedAt.get other) :
    state.StepCase operation := by
  refine .cleared code (state.serverAfter operation) quiet valid others ?_
  simp only [step, sameNow, registryAfter, quiet, clears]

theorem wait_case (state : Supervised) (operation : Operation) (quiet : operation.raised = none)
    (clearsNothing : operation.cleared = none) (forward : state.now ≤ state.nowAfter operation)
    (after : state.serverAfter operation = state.server) : state.StepCase operation := by
  refine .waited (state.nowAfter operation) quiet forward ?_
  simp only [step, after, registryAfter, quiet, clearsNothing]

theorem step_case (state : Supervised) (operation : Operation) (valid : state.server.WellFormed) :
    state.StepCase operation := by
  cases operation with
  | raiseAlert alert => exact raise_case state _ alert rfl rfl rfl
  | heartbeatTimeout hbName => exact raise_case state _ (onHeartbeatTimeoutCb hbName) rfl rfl rfl
  | clearAlert code =>
      refine clear_case state _ code rfl rfl rfl
        (SysAlertsServer.clear_alert_from_code_well_formed state.server state.now code valid) ?_
      intro other distinct
      refine ⟨?_, SysAlertsServer.started_clear_alert_from_code state.server state.now code other valid distinct⟩
      have found := SysAlertsServer.get_clear_alert_from_code state.server state.now code other valid
      rwa [if_neg distinct] at found
  | handleRequest message =>
      cases decoded : decodeActionMessage message with
      | none =>
          exact wait_case state _ (by simp [Operation.raised, decoded]) (by simp [Operation.cleared, decoded])
            (le_refl _) (by simp [serverAfter, SysAlertsServer.handleRequest, decoded])
      | some change =>
          obtain ⟨action, alert⟩ := change
          have after : state.serverAfter (.handleRequest message) =
              (state.server.applyChange state.now action alert).1 := by
            simp [serverAfter, SysAlertsServer.handleRequest, decoded]
          cases action with
          | raise => exact raise_case state _ alert (by simp [Operation.raised, decoded]) rfl after
          | clear =>
              refine clear_case state _ alert.code (by simp [Operation.raised, decoded])
                (by simp [Operation.cleared, decoded]) rfl ?_ ?_
              · rw [after]
                exact SysAlertsServer.apply_change_well_formed state.server state.now .clear alert valid
              · intro other distinct
                rw [after]
                by_cases known : state.server.activeAlerts.get alert.code = none
                · rw [SysAlertsServer.clear_unknown _ _ _ known]
                  exact ⟨rfl, rfl⟩
                · rw [SysAlertsServer.clear_tables _ _ _ known]
                  simp [distinct]
  | processEvent event =>
      cases raises : onProcessEventCb event with
      | none => exact wait_case state _ raises rfl (le_refl _) (by simp [serverAfter, raises])
      | some alert => exact raise_case state _ alert raises rfl (by simp [serverAfter, raises])
  | expireAlerts => exact .expired rfl rfl
  | advance elapsed forward => exact wait_case state _ rfl rfl (le_add_of_nonneg_right forward) rfl

theorem reached_after_later (ttl : PyFloat) (early late : ℚ) (order : early ≤ late)
    (running : ttl.reachedAfter late = false) : ttl.reachedAfter early = false := by
  cases ttl with
  | seconds value =>
      simp only [PyFloat.reachedAfter, decide_eq_false_iff_not, not_le] at running ⊢
      exact lt_of_le_of_lt order running
  | inf => rfl
  | nan => rfl
  | negInf => exact running

theorem raise_tracks (state : Supervised) (alert : Alert) (tracks : state.Tracks) (free : state.FreeFor alert)
    (valid : (⟨state.server.activeAlerts.set alert.code alert,
      state.server.alertStartedAt.set alert.code state.now⟩ : SysAlertsServer).WellFormed) :
    Tracks ⟨⟨state.server.activeAlerts.set alert.code alert, state.server.alertStartedAt.set alert.code state.now⟩,
      state.now, state.registry.raise state.now alert⟩ := by
  refine ⟨valid, ?_, ?_⟩
  · rintro source code known started ⟨entered, running⟩
    simp only [Registry.raise] at entered running
    split at entered
    · rename_i same
      cases entered
      simp [same.2]
    · rename_i other
      have live : state.Live source code known started := ⟨entered, running⟩
      have distinct : alert.code ≠ code := by
        rintro rfl
        exact other ⟨free source known started live, rfl⟩
      simp only [Dict.get_set, if_neg distinct]
      exact tracks.active source code known started live
  · intro source code known started entered
    simp only [Registry.raise] at entered
    split at entered
    · rename_i same
      cases entered
      exact ⟨same.1.symm, same.2.symm⟩
    · exact tracks.keyed source code known started entered

theorem tracks_step (state : Supervised) (operation : Operation) (tracks : state.Tracks)
    (free : ∀ alert, operation.raised = some alert → state.FreeFor alert) : (state.step operation).Tracks := by
  cases step_case state operation tracks.valid with
  | raised alert raises after =>
      have valid := SysAlertsServer.apply_change_well_formed state.server state.now .raise alert tracks.valid
      rw [SysAlertsServer.raise_tables] at valid
      rw [after]
      exact raise_tracks state alert tracks (free alert raises) valid
  | cleared code server _ valid others after =>
      rw [after]
      refine ⟨valid, ?_, ?_⟩
      · rintro source other known started ⟨entered, running⟩
        simp only [Registry.clear] at entered running
        split at entered
        · cases entered
        · rename_i distinct
          have same := others other (Ne.symm distinct)
          rw [same.1, same.2]
          exact tracks.active source other known started ⟨entered, running⟩
      · intro source other known started entered
        simp only [Registry.clear] at entered
        split at entered
        · cases entered
        · exact tracks.keyed source other known started entered
  | expired _ after =>
      rw [after]
      refine ⟨SysAlertsServer.expire_alerts_well_formed state.server state.now tracks.valid, ?_, tracks.keyed⟩
      intro source code alert started live
      obtain ⟨found, since⟩ := tracks.active source code alert started live
      have running : state.server.expired state.now code alert = false := by
        simp [SysAlertsServer.expired, since, live.2]
      have keeps := SysAlertsServer.expire_alerts_keeps state.server state.now code alert tracks.valid found running
      exact ⟨keeps.1, keeps.2.trans since⟩
  | waited later _ forward after =>
      rw [after]
      refine ⟨tracks.valid, ?_, tracks.keyed⟩
      rintro source code alert started ⟨entered, running⟩
      exact tracks.active source code alert started
        ⟨entered, reached_after_later alert.ttl _ _ (sub_le_sub_right forward started) running⟩

theorem tracks_run (operations : List Operation) (state : Supervised) (tracks : state.Tracks)
    (free : state.RaisedFree operations) : state.KeptThroughout operations := by
  induction operations generalizing state with
  | nil => exact tracks_kept state tracks
  | cons operation rest ih =>
      exact ⟨tracks_kept state tracks, ih _ (tracks_step state operation tracks free.1) free.2⟩

theorem raise_replaces (state : Supervised) (operation : Operation) (alert : Alert) (valid : state.server.WellFormed)
    (raises : operation.raised = some alert) (kept : (state.step operation).Kept) : state.FreeFor alert := by
  rintro source known started ⟨entered, running⟩
  by_contra other
  cases step_case state operation valid with
  | raised same raised after =>
      rw [raises] at raised
      cases raised
      rw [after] at kept
      have live : Live ⟨⟨state.server.activeAlerts.set alert.code alert,
          state.server.alertStartedAt.set alert.code state.now⟩, state.now, state.registry.raise state.now alert⟩
          source alert.code known started := by
        refine ⟨?_, running⟩
        simp [Registry.raise, other, entered]
      obtain ⟨active, found, from_source, _⟩ := kept source alert.code known started live
      simp only [Dict.get_set, if_true, Option.some.injEq] at found
      exact other (by rw [← from_source, ← found])
  | cleared code server quiet valid others after => simp [raises] at quiet
  | expired quiet after => simp [raises] at quiet
  | waited later quiet forward after => simp [raises] at quiet

theorem step_well_formed (state : Supervised) (operation : Operation) (valid : state.server.WellFormed) :
    (state.step operation).server.WellFormed := by
  cases step_case state operation valid with
  | raised alert raises after =>
      have kept := SysAlertsServer.apply_change_well_formed state.server state.now .raise alert valid
      rw [SysAlertsServer.raise_tables] at kept
      rw [after]
      exact kept
  | cleared code server quiet kept others after =>
      rw [after]
      exact kept
  | expired quiet after =>
      rw [after]
      exact SysAlertsServer.expire_alerts_well_formed state.server state.now valid
  | waited later quiet forward after =>
      rw [after]
      exact valid

theorem kept_throughout_head (state : Supervised) (operations : List Operation)
    (kept : state.KeptThroughout operations) : state.Kept := by
  cases operations with
  | nil => exact kept
  | cons operation rest => exact kept.1

theorem kept_run_free (operations : List Operation) (state : Supervised) (valid : state.server.WellFormed)
    (kept : state.KeptThroughout operations) : state.RaisedFree operations := by
  induction operations generalizing state with
  | nil => trivial
  | cons operation rest ih =>
      refine ⟨?_, ih _ (step_well_formed state operation valid) kept.2⟩
      intro alert raises
      exact raise_replaces state operation alert valid raises (kept_throughout_head _ rest kept.2)

theorem init_tracks : init.Tracks :=
  ⟨SysAlertsServer.init_well_formed, fun _ _ _ _ live => (by cases live.1), fun _ _ _ _ entered => (by cases entered)⟩

end Supervised

-- The server keeps every live alert through a history exactly when no alert of
-- the history is raised with a code that another source's live alert holds.
theorem live_alerts_kept_iff (operations : List Operation) :
    Supervised.init.KeptThroughout operations ↔ Supervised.init.RaisedFree operations :=
  ⟨Supervised.kept_run_free operations Supervised.init SysAlertsServer.init_well_formed,
    Supervised.tracks_run operations Supervised.init Supervised.init_tracks⟩

-- A monitor's missing heartbeat replaces the fatal alert of a core process.
def twoHeartbeats : List Operation := [.heartbeatTimeout "core:hardware_manager", .heartbeatTimeout "monitor:webui"]

theorem fatal_alert_downgraded :
    ¬ Supervised.init.KeptThroughout twoHeartbeats ∧
      (onHeartbeatTimeoutCb "core:hardware_manager").level = Level.FATAL ∧
      (onHeartbeatTimeoutCb "core:hardware_manager").ttl = .inf ∧
      ((twoHeartbeats.foldl Supervised.step Supervised.init).server.activeAlerts.get AlertCodes.HEARTBEAT_TIMEOUT).map
        (fun alert => (alert.src, alert.level)) = some ("monitor:webui", Level.WARN) := by
  refine ⟨?_, by decide, by decide, by decide⟩
  rintro ⟨_, _, kept⟩
  have live : ((twoHeartbeats.foldl Supervised.step Supervised.init)).Live "core:hardware_manager" 220
      (onHeartbeatTimeoutCb "core:hardware_manager") 0 := ⟨by decide, by decide⟩
  obtain ⟨active, found, source, _⟩ := kept _ _ _ _ live
  have table : (twoHeartbeats.foldl Supervised.step Supervised.init).server.activeAlerts.get 220 =
      some (onHeartbeatTimeoutCb "monitor:webui") := by decide
  have replaced : active = onHeartbeatTimeoutCb "monitor:webui" := Option.some.inj (found.symm.trans table)
  rw [replaced] at source
  exact absurd source (by decide)

end Animacharacter.Orchestration
