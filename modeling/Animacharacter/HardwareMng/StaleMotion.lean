import Animacharacter.HardwareMng.HookExclusion

set_option autoImplicit false

namespace Animacharacter.HardwareMng

open StepSystem

def Place.taken : Place FlushPlace → List Received
  | .inJob (.takeCommands _ commands) | .inJob (.configUpdates commands) | .inJob (.read commands) => commands
  | _ => []

namespace ThreadedController

def waiting (mc : ThreadedController) : List Received := mc.incoming ++ mc.loop.threads.flatMap Place.taken

theorem mem_waiting (mc : ThreadedController) (received : Received) :
    received ∈ mc.waiting ↔
      received ∈ mc.incoming ∨ ∃ place ∈ mc.loop.threads, received ∈ Place.taken place := by
  simp [waiting]

theorem taken_in_job (place : Place FlushPlace) (received : Received) (member : received ∈ Place.taken place) :
    ∃ flushing, place = .inJob flushing := by
  cases place with
  | inJob flushing => exact ⟨flushing, rfl⟩
  | _ => simp [Place.taken] at member

structure Consumes (after mc : ThreadedController) (activation : Nat) : Prop where
  waiting : ∀ received ∈ after.waiting, received ∈ mc.waiting
  controlled : ∀ call ∈ after.controlled, call ∈ mc.controlled ∨
    call.activation = activation ∧ ∀ received ∈ call.commands, received ∈ mc.waiting

theorem jobs_consume (after mc : ThreadedController) (activation : Nat) (incoming : after.incoming = mc.incoming)
    (controlled : after.controlled = mc.controlled)
    (jobs : ∀ (number : Nat) (place : FlushPlace), after.loop.threads[number]? = some (.inJob place) →
      mc.loop.threads[number]? = some (.inJob place)) : after.Consumes mc activation := by
  refine ⟨fun received member => (mem_waiting mc received).mpr ?_, fun call member => .inl (controlled ▸ member)⟩
  rcases (mem_waiting after received).mp member with queued | ⟨place, inside, taken⟩
  · exact .inl (incoming ▸ queued)
  · obtain ⟨flushing, rfl⟩ := taken_in_job place received taken
    obtain ⟨number, present⟩ := List.mem_iff_getElem?.mp inside
    exact .inr ⟨_, List.mem_of_getElem? (jobs number flushing present), taken⟩

theorem within_consume (mc : ThreadedController) (loop : Loop FlushPlace) (activation : Nat)
    (within : loop.Within mc.loop) : ({ mc with loop } : ThreadedController).Consumes mc activation :=
  jobs_consume _ mc activation rfl rfl within.jobs

theorem reconcile_consume (mc : ThreadedController) (outcome : Outcome) (stage : Stage) (activation : Nat) :
    (mc.reconcileStep outcome stage).1.Consumes mc activation := by
  have kept (after : ThreadedController) (incoming : after.incoming = mc.incoming)
      (controlled : after.controlled = mc.controlled) (threads : after.loop.threads = mc.loop.threads) :
      after.Consumes mc activation :=
    jobs_consume after mc activation incoming controlled fun number place present => threads ▸ present
  have paused (value : Bool) := within_consume mc _ activation (Loop.set_loop_paused_within mc.loop value)
  cases stage with
  | startThread toRunning =>
      exact jobs_consume _ mc activation rfl rfl fun number place present =>
        Loop.start_thread_jobs mc.loop _ number place present
  | clearWait toRunning => exact paused true
  | pauseRunning toRunning => exact paused true
  | pause => exact paused true
  | resume => exact paused false
  | setWait => exact paused false
  | startLoop toRunning =>
      simp only [reconcileStep]
      split <;> exact kept _ rfl rfl rfl
  | requestStop =>
      simp only [reconcileStep]
      split <;> exact kept _ rfl rfl rfl
  | initializeHw toRunning =>
      cases outcome with
      | returned result => cases result <;> exact kept _ rfl rfl rfl
      | raised raised => exact kept _ rfl rfl rfl
  | deinitializeHw =>
      cases outcome with
      | returned result => cases result <;> exact kept _ rfl rfl rfl
      | raised raised => exact kept _ rfl rfl rfl
  | _ => exact kept _ rfl rfl rfl

theorem moved_waiting (after mc : ThreadedController) (number : Nat) (target : Place FlushPlace)
    (loop : after.loop = mc.loop.moveTo number target) (incoming : ∀ received ∈ after.incoming, received ∈ mc.incoming)
    (taken : ∀ received ∈ Place.taken target, received ∈ mc.waiting) :
    ∀ received ∈ after.waiting, received ∈ mc.waiting := by
  intro received member
  rcases (mem_waiting after received).mp member with queued | ⟨place, inside, held⟩
  · exact (mem_waiting mc received).mpr (.inl (incoming received queued))
  · rw [loop] at inside
    rcases List.mem_or_eq_of_mem_set inside with old | replaced
    · exact (mem_waiting mc received).mpr (.inr ⟨place, old, held⟩)
    · exact taken received (replaced ▸ held)

theorem after_job_taken (result : JobResult) : Place.taken (Place.afterJob result) = [] := by
  cases target : (Place.afterJob result : Place FlushPlace) with
  | inJob place => exact absurd target (Loop.after_job_outside result place)
  | _ => rfl

theorem after_call_taken (place : Place FlushPlace) (call : CallResult) (received : Received)
    (member : received ∈ Place.taken (afterCall place call)) : received ∈ Place.taken place := by
  cases call with
  | returned => exact member
  | raised raised => simp [afterCall, Place.taken] at member
  | exits => simp [afterCall, after_job_taken] at member

theorem flush_consume (mc : ThreadedController) (number activation : Nat) (call : CallResult) (place : FlushPlace)
    (present : mc.loop.threads[number]? = some (.inJob place)) :
    (mc.flushStep number activation call place).Consumes mc activation := by
  have held (received : Received) (taken : received ∈ Place.taken (.inJob place)) : received ∈ mc.waiting :=
    (mem_waiting mc received).mpr (.inr ⟨_, List.mem_of_getElem? present, taken⟩)
  have moves (target : Place FlushPlace) (taken : ∀ received ∈ Place.taken target, received ∈ mc.waiting) :
      (mc.moveTo number target).Consumes mc activation :=
    ⟨moved_waiting _ mc number target rfl (fun _ queued => queued) taken, fun _ member => .inl member⟩
  cases place with
  | checkInitialized =>
      refine moves _ fun received member => ?_
      split at member
      · simp [Place.taken] at member
      · simp [after_job_taken] at member
  | readSize => exact moves _ (by simp [Place.taken])
  | takeCommands left commands =>
      cases left with
      | zero => exact moves _ held
      | succ left =>
          simp only [flushStep]
          cases queue : mc.incoming with
          | nil => exact moves _ held
          | cons command rest =>
              have queued (received : Received) (member : received ∈ command :: rest) : received ∈ mc.incoming :=
                queue.symm ▸ member
              refine ⟨moved_waiting _ mc number _ rfl (fun received later => queued received (.tail _ later)) ?_,
                fun _ member => .inl member⟩
              intro received member
              rcases List.mem_append.mp member with earlier | last
              · exact held received earlier
              · rw [List.mem_singleton.mp last]
                exact (mem_waiting mc command).mpr (.inl (queued command (.head _)))
  | configUpdates commands =>
      exact moves _ fun received member => held received (after_call_taken (.inJob (.read commands)) call received member)
  | read commands =>
      cases call with
      | returned =>
          refine ⟨moved_waiting _ mc number _ rfl (fun _ queued => queued) (by simp [Place.taken]), fun called member => ?_⟩
          rcases List.mem_append.mp member with earlier | last
          · exact .inl earlier
          · rw [List.mem_singleton.mp last]
            exact .inr ⟨rfl, held⟩
      | raised raised => exact moves _ (by simp [afterCall, Place.taken])
      | exits => exact moves _ (by simp [afterCall, after_job_taken])
  | control =>
      refine moves _ fun received member => ?_
      have left := after_call_taken _ call received member
      simp [after_job_taken] at left
  | raised raised =>
      exact ⟨moved_waiting _ mc number _ rfl (fun _ queued => queued) (by simp [after_job_taken]), fun _ member => .inl member⟩

theorem thread_consume (mc after : ThreadedController) (number activation : Nat) (call : CallResult)
    (handler : HandlerResult) (moved : mc.threadStep number activation call handler = some after) :
    after.Consumes mc activation := by
  simp only [threadStep] at moved
  split at moved
  · cases moved
    exact ⟨moved_waiting _ mc number _ rfl (fun _ queued => queued) (by simp [Place.taken]), fun _ member => .inl member⟩
  · rename_i place present
    cases moved
    exact flush_consume mc number activation call place present
  · obtain ⟨loop, stepped, rfl⟩ := Option.map_eq_some_iff.mp moved
    exact within_consume mc loop activation (Loop.thread_step_within mc.loop loop number handler stepped)

theorem moved_consume (mc after : ThreadedController) (activation : Nat) (moved : mc.Moved activation after) :
    after.Consumes mc activation := by
  cases moved with
  | thread number call handler moved => exact thread_consume mc after number activation call handler moved
  | loop loop within result =>
      rw [result]
      exact within_consume mc loop activation within

-- Every command that waits was received since the last on_activate, and so was
-- every command of a control call at the time of the call.
structure Current (mc : ThreadedController) (activation : Nat) : Prop where
  waiting : ∀ received ∈ mc.waiting, received.activation = activation
  controlled : ∀ call ∈ mc.controlled, ∀ received ∈ call.commands, call.activation ≤ received.activation

theorem consume_current (after mc : ThreadedController) (activation : Nat) (consumes : after.Consumes mc activation)
    (current : mc.Current activation) : after.Current activation := by
  refine ⟨fun received member => current.waiting received (consumes.waiting received member), ?_⟩
  intro call member received given
  rcases consumes.controlled call member with earlier | ⟨now, held⟩
  · exact current.controlled call earlier received given
  · rw [now, current.waiting received (held received given)]

theorem handled_current (mc after : ThreadedController) (activation : Nat) (handled : mc.Handled activation after)
    (current : mc.Current activation) : after.Current activation := by
  cases handled with
  | goal goal result =>
      rw [result]
      exact ⟨current.waiting, current.controlled⟩
  | loop loop within result =>
      rw [result]
      exact consume_current _ mc activation (within_consume mc loop activation within) current
  | received command result =>
      rw [result]
      refine ⟨fun received member => ?_, current.controlled⟩
      rcases (mem_waiting _ received).mp member with queued | taken
      · rcases List.mem_append.mp queued with earlier | last
        · exact current.waiting received ((mem_waiting mc received).mpr (.inl earlier))
        · rw [List.mem_singleton.mp last]
      · exact current.waiting received ((mem_waiting mc received).mpr (.inr taken))

end ThreadedController

namespace ThreadedNode

def activatesEmpty (node : ThreadedNode) : ThreadedAction → Prop
  | .activate => ∀ mc ∈ node.controllers, mc.waiting = []
  | _ => True

instance (node : ThreadedNode) : (action : ThreadedAction) → Decidable (node.activatesEmpty action)
  | .activate => inferInstanceAs (Decidable (∀ mc ∈ node.controllers, mc.waiting = []))
  | .reconcileTimer | .configure | .deactivate | .cleanup | .shutdown | .motionframe _ _ | .main _ | .thread _ _ _ _
  | .requestStop _ | .finishStop _ => inferInstanceAs (Decidable True)

-- Each control call was given only commands received since the last on_activate before it.
def NoStaleMotion (node : ThreadedNode) : Prop :=
  ∀ mc ∈ node.controllers, ∀ call ∈ mc.controlled, ∀ received ∈ call.commands, call.activation ≤ received.activation

def MotionCurrent (node : ThreadedNode) : Prop := ∀ mc ∈ node.controllers, mc.Current node.activations

theorem set_current (node : ThreadedNode) (index : Nat) (mc changed : ThreadedController) (current : node.MotionCurrent)
    (present : node.controllers[index]? = some mc) (consumes : changed.Consumes mc node.activations) :
    ∀ other ∈ node.controllers.set index changed, other.Current node.activations :=
  set_all (fun mc : ThreadedController => mc.Current node.activations) node.controllers index changed current
    (ThreadedController.consume_current changed mc node.activations consumes (current mc (List.mem_of_getElem? present)))

theorem step_current (node after : ThreadedNode) (action : ThreadedAction) (current : node.MotionCurrent)
    (empty : node.activatesEmpty action) (moved : node.step action = some after) : after.MotionCurrent := by
  cases step_cases node after action moved with
  | turn pass index rest mc outcome task order present result =>
      have consumes := ThreadedController.reconcile_consume mc outcome pass.stage node.activations
      rw [result, MotionCurrent, go_on_controllers, go_on_activations]
      exact set_current node index mc _ current present consumes
  | beside index mc changed present moved task activations controllers =>
      have consumes := ThreadedController.moved_consume mc changed node.activations moved
      rw [MotionCurrent, controllers, activations]
      exact set_current node index mc changed current present consumes
  | executor rest activations controllers =>
      intro changed member
      obtain ⟨mc, inside, handled⟩ := controllers changed member
      rw [activations]
      exact ThreadedController.handled_current mc changed node.activations handled (current mc inside)
  | activated taken result =>
      subst taken result
      intro changed member
      obtain ⟨mc, inside, rfl⟩ := List.mem_map.mp member
      refine ⟨fun received waits => ?_, (current mc inside).controlled⟩
      have none : received ∈ mc.waiting := waits
      rw [empty mc inside] at none
      cases none

theorem init_current (node : ThreadedNode) (started : threadedManager.start node) : node.MotionCurrent := by
  obtain ⟨fresh, _⟩ := started
  intro mc member
  obtain ⟨commandGroup, rfl⟩ := fresh mc member
  refine ⟨fun received waits => ?_, fun call given => ?_⟩
  · simp [ThreadedController.waiting, ThreadedController.init, Loop.init] at waits
  · simp [ThreadedController.init] at given

theorem old_command_controlled (node : ThreadedNode) (index number : Nat) (mc : ThreadedController)
    (commands : List Received) (received : Received) (handler : HandlerResult)
    (present : node.controllers[index]? = some mc) (reading : mc.loop.threads[number]? = some (.inJob (.read commands)))
    (member : received ∈ commands) (old : received.activation < node.activations) :
    ∃ after, node.step (.thread index number .returned handler) = some after ∧ ¬ after.NoStaleMotion := by
  have emits : mc.emits number = none := by simp [ThreadedController.emits, reading]
  have moved : node.step (.thread index number .returned handler) =
      some (node.setController index (mc.entersControl number node.activations commands)) := by
    simp [step, threadStep, present, ThreadedController.threadStep, reading, ThreadedController.flushStep, emits]
  refine ⟨_, moved, fun fresh => ?_⟩
  have inside := (List.getElem?_eq_some_iff.mp present).1
  have bound := fresh _ (List.mem_set inside _) ⟨node.activations, commands⟩ (by simp [ThreadedController.entersControl])
    received member
  exact absurd old (Nat.not_lt.mpr bound)

end ThreadedNode

-- Where every on_activate finds the queues and the threads empty of commands, no
-- command of an earlier activation is executed.
theorem no_stale_motion (node : ThreadedNode) (reached : Reached threadedManager ThreadedNode.activatesEmpty node) :
    node.NoStaleMotion := by
  have current := reached_invariant threadedManager ThreadedNode.activatesEmpty ThreadedNode.MotionCurrent
    ThreadedNode.init_current
    (fun source action target current empty moved => ThreadedNode.step_current source target action current empty moved)
    node reached
  exact fun mc member => (current mc member).controlled

def executed : List ThreadedAction :=
  broughtUp ++ [.motionframe [1] [90]] ++ List.replicate 2 mainReturns ++ List.replicate 7 threadReturns

theorem no_stale_motion_executed :
    ∃ node : ThreadedNode, (∃ mc ∈ node.controllers, mc.controlled = [⟨1, [⟨⟨1, 90⟩, 1⟩]⟩]) ∧ node.NoStaleMotion := by
  obtain ⟨node, reached, controlled⟩ := replay_exists threadedManager ThreadedNode.activatesEmpty executed oneController
    (fun node => ∃ mc ∈ node.controllers, mc.controlled = [⟨1, [⟨⟨1, 90⟩, 1⟩]⟩]) one_controller_starts (by decide +kernel)
  exact ⟨node, controlled, no_stale_motion node reached⟩

-- The command arrives while the loop sleeps; the node is deactivated before the
-- next iteration, and activated again.
def leftOver : List ThreadedAction :=
  broughtUp ++ List.replicate 8 threadReturns ++ [.motionframe [1] [90]] ++ List.replicate 2 mainReturns ++
    [.deactivate] ++ List.replicate 5 mainReturns ++ List.replicate 3 threadReturns ++
    [.activate] ++ List.replicate 5 mainReturns ++ List.replicate 7 threadReturns

theorem left_over_executed :
    ∃ node : ThreadedNode, Reached threadedManager anyAction node ∧
      (∃ mc ∈ node.controllers, (⟨2, [⟨⟨1, 90⟩, 1⟩]⟩ : ControlCall) ∈ mc.controlled) ∧ ¬ node.NoStaleMotion := by
  obtain ⟨node, reached, mc, member, given⟩ := replay_exists threadedManager anyAction leftOver oneController
    (fun node => ∃ mc ∈ node.controllers, (⟨2, [⟨⟨1, 90⟩, 1⟩]⟩ : ControlCall) ∈ mc.controlled) one_controller_starts
    (by decide +kernel)
  refine ⟨node, reached, ⟨mc, member, given⟩, fun fresh => ?_⟩
  have bound := fresh mc member ⟨2, [⟨⟨1, 90⟩, 1⟩]⟩ given ⟨⟨1, 90⟩, 1⟩ (by simp)
  simp at bound

end Animacharacter.HardwareMng
