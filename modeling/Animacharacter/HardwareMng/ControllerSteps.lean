import Animacharacter.HardwareMng.ThreadedNode

set_option autoImplicit false

namespace Animacharacter.HardwareMng

namespace ThreadedNode

-- The pair of a message that a step of the executor's thread dispatches.
def dispatching (node : ThreadedNode) : ThreadedAction → Option (Int × ℚ)
  | .main _ =>
      match node.task with
      | .dispatching (frame :: _) => some frame
      | _ => none
  | _ => none

-- What a step of the node does to the controller of an index.
inductive Turned (node : ThreadedNode) (action : ThreadedAction) (index : Nat) (mc changed : ThreadedController) : Prop where
  | turn (pass : StagedPass) (outcome : Outcome) (main : action = .main outcome) (task : node.task = .reconciling pass)
      (order : pass.rest.head? = some index) (result : changed = (mc.reconcileStep outcome pass.stage).1)
  | thread (number : Nat) (call : CallResult) (handler : HandlerResult) (taken : action = .thread index number call handler)
      (moved : mc.threadStep number node.activations call handler = some changed)
  | goal (silent : node.dispatching action = none) (goal : ControllerState) (result : changed = { mc with goal })
  | loop (silent : node.dispatching action = none) (loop : Loop FlushPlace) (within : loop.Within mc.loop)
      (result : changed = { mc with loop })
  | dispatched (frame : Int × ℚ) (named : node.dispatching action = some frame)
      (result : changed = if frame.1 ∈ mc.commandGroup then
        { mc with incoming := mc.incoming ++ [⟨⟨frame.1, frame.2⟩, node.activations⟩] } else mc)

structure TurnedAll (node : ThreadedNode) (action : ThreadedAction) (after : ThreadedNode) : Prop where
  length : after.controllers.length = node.controllers.length
  each : ∀ (index : Nat) (mc changed : ThreadedController), node.controllers[index]? = some mc →
    after.controllers[index]? = some changed → node.Turned action index mc changed

section Executing

variable (node after : ThreadedNode) (action : ThreadedAction) (silent : node.dispatching action = none)

include silent

theorem same_turned (same : after.controllers = node.controllers) : node.TurnedAll action after := by
  refine ⟨by rw [same], fun index mc changed present found => ?_⟩
  rw [same, present] at found
  cases found
  exact .goal silent mc.goal rfl

theorem goals_turned (goal : ControllerState) (same : after.controllers = (node.setGoalAll goal).controllers) :
    node.TurnedAll action after := by
  refine ⟨by rw [same, setGoalAll, List.length_map], fun index mc changed present found => ?_⟩
  rw [same, setGoalAll, List.getElem?_map, present] at found
  cases found
  exact .goal silent goal rfl

theorem set_turned (index : Nat) (mc changed : ThreadedController) (present : node.controllers[index]? = some mc)
    (turned : node.Turned action index mc changed) (same : after.controllers = node.controllers.set index changed) :
    node.TurnedAll action after := by
  refine ⟨by rw [same, List.length_set], fun other found result old new => ?_⟩
  rw [same] at new
  by_cases here : index = other
  · subst here
    rw [present] at old
    cases old
    rw [List.getElem?_set_self (List.getElem?_eq_some_iff.mp present).1] at new
    cases new
    exact turned
  · rw [List.getElem?_set_ne here, old] at new
    cases new
    exact .goal silent found.goal rfl

theorem pass_turned (pass : StagedPass) (outcome : Outcome) (main : action = .main outcome)
    (task : node.task = .reconciling pass) (result : after = node.passStep pass outcome) :
    node.TurnedAll action after := by
  rw [result]
  cases order : pass.rest with
  | nil =>
      apply same_turned node _ action silent
      simp only [passStep, order, endPass]
      split
      · rfl
      · split <;> rfl
  | cons index rest =>
      cases present : node.controllers[index]? with
      | none =>
          apply same_turned node _ action silent
          simp only [passStep, order, present, nextController]
      | some mc =>
          have turned : node.Turned action index mc (mc.reconcileStep outcome pass.stage).1 :=
            .turn pass outcome main task (by rw [order, List.head?_cons]) rfl
          apply set_turned node _ action silent index mc _ present turned
          simp only [passStep, order, present, go_on_controllers, setController]

theorem request_stops_turned (origin : Origin) (rest : List Nat) (result : after = node.requestStopsStep origin rest) :
    node.TurnedAll action after := by
  rw [result]
  cases rest with
  | nil => exact same_turned node _ action silent rfl
  | cons index rest =>
      cases present : node.controllers[index]? with
      | none =>
          apply same_turned node _ action silent
          simp only [requestStopsStep, present]
      | some mc =>
          simp only [requestStopsStep, present]
          split
          · have within : mc.loop.clearRun.Within mc.loop := Loop.same_threads_within _ _ rfl rfl
            exact set_turned node _ action silent index mc _ present (.loop silent _ within rfl) rfl
          · exact same_turned node _ action silent rfl

theorem set_waits_turned (origin : Origin) (rest : List Nat) (result : after = node.setWaitsStep origin rest) :
    node.TurnedAll action after := by
  rw [result]
  cases rest with
  | nil => exact same_turned node _ action silent rfl
  | cons index rest =>
      cases present : node.controllers[index]? with
      | none =>
          apply same_turned node _ action silent
          simp only [setWaitsStep, present]
      | some mc =>
          simp only [setWaitsStep, present]
          exact set_turned node _ action silent index mc _ present (.loop silent _ (Loop.set_wait_within mc.loop) rfl) rfl

theorem joins_turned (origin : Origin) (rest : List Nat) (result : after = node.joinsStep origin rest) :
    node.TurnedAll action after := by
  rw [result]
  cases rest with
  | nil => exact goals_turned node _ action silent .UNINITIALIZED rfl
  | cons index rest =>
      simp only [joinsStep]
      split
      · cases origin <;> exact same_turned node _ action silent rfl
      · exact same_turned node _ action silent rfl

theorem on_loop_turned (index : Nat) (operation : Loop FlushPlace → Option (Loop FlushPlace))
    (within : ∀ loop changed, operation loop = some changed → changed.Within loop)
    (moved : node.onLoop index operation = some after) : node.TurnedAll action after := by
  simp only [onLoop, Option.bind_eq_some_iff, Option.map_eq_some_iff] at moved
  obtain ⟨mc, present, loop, moved, rfl⟩ := moved
  exact set_turned node _ action silent index mc _ present (.loop silent loop (within mc.loop loop moved) rfl) rfl

end Executing

theorem dispatch_turned (node : ThreadedNode) (outcome : Outcome) (frame : Int × ℚ) (rest : List (Int × ℚ))
    (task : node.task = .dispatching (frame :: rest)) :
    node.TurnedAll (.main outcome) (node.dispatchStep (frame :: rest)) := by
  refine ⟨by rw [dispatchStep, dispatch, List.length_map], fun index mc changed present found => ?_⟩
  rw [dispatchStep, dispatch, List.getElem?_map, present] at found
  cases found
  exact .dispatched frame (by simp [dispatching, task]) rfl

theorem main_turned (node after : ThreadedNode) (outcome : Outcome) (moved : node.mainStep outcome = some after) :
    node.TurnedAll (.main outcome) after := by
  cases task : node.task with
  | idle => simp [mainStep, task] at moved
  | exited code => simp [mainStep, task] at moved
  | dispatching frames =>
      simp only [mainStep, task, Option.some.injEq] at moved
      subst moved
      cases frames with
      | nil => exact same_turned node _ _ (by simp [dispatching, task]) rfl
      | cons frame rest => exact dispatch_turned node outcome frame rest task
  | reconciling pass =>
      simp only [mainStep, task, Option.some.injEq] at moved
      exact pass_turned node after _ (by simp [dispatching, task]) pass outcome rfl task moved.symm
  | requestStops origin rest =>
      simp only [mainStep, task, Option.some.injEq] at moved
      exact request_stops_turned node after _ (by simp [dispatching, task]) origin rest moved.symm
  | setWaits origin rest =>
      simp only [mainStep, task, Option.some.injEq] at moved
      exact set_waits_turned node after _ (by simp [dispatching, task]) origin rest moved.symm
  | joins origin rest =>
      simp only [mainStep, task, Option.some.injEq] at moved
      exact joins_turned node after _ (by simp [dispatching, task]) origin rest moved.symm

theorem thread_turned (node after : ThreadedNode) (index number : Nat) (call : CallResult) (handler : HandlerResult)
    (moved : node.threadStep index number call handler = some after) :
    node.TurnedAll (.thread index number call handler) after := by
  simp only [threadStep, Option.bind_eq_some_iff, Option.map_eq_some_iff] at moved
  obtain ⟨mc, present, changed, moved, rfl⟩ := moved
  have turned (last : ThreadedNode) (same : last.controllers = node.controllers.set index changed) :
      node.TurnedAll (.thread index number call handler) last :=
    set_turned node last _ rfl index mc changed present (.thread number call handler rfl moved) same
  cases mc.emits number with
  | none => exact turned _ rfl
  | some signal =>
      simp only [Option.elim_some, handleLoopSignalInLoop]
      split
      · split <;> exact turned _ rfl
      · exact turned _ rfl

theorem step_turned (node after : ThreadedNode) (action : ThreadedAction) (moved : node.step action = some after) :
    node.TurnedAll action after := by
  have taken (last : ThreadedNode) (moved : node.callback last = some after) : last = after := by
    simp only [callback] at moved
    split at moved
    · exact Option.some.inj moved
    · cases moved
  cases action with
  | reconcileTimer => exact taken _ moved ▸ same_turned node _ _ rfl rfl
  | configure => exact taken _ moved ▸ goals_turned node _ _ rfl .INITIALIZED rfl
  | activate => exact taken _ moved ▸ goals_turned node _ _ rfl .RUNNING rfl
  | deactivate => exact taken _ moved ▸ goals_turned node _ _ rfl .INITIALIZED rfl
  | cleanup => exact taken _ moved ▸ goals_turned node _ _ rfl .UNINITIALIZED rfl
  | shutdown => exact taken _ moved ▸ goals_turned node _ _ rfl .UNINITIALIZED rfl
  | motionframe ids values =>
      obtain rfl := taken _ moved
      simp only [motionframeCallback]
      split <;> exact same_turned node _ _ rfl rfl
  | main outcome => exact main_turned node after outcome moved
  | thread index number call handler => exact thread_turned node after index number call handler moved
  | requestStop index =>
      refine on_loop_turned node after _ rfl index (fun loop => some loop.requestStop) (fun loop changed same => ?_) moved
      cases same
      exact Loop.request_stop_within loop
  | finishStop index => exact on_loop_turned node after _ rfl index _ Loop.finish_stop_within moved

-- The controller that an index has after a step, and the one it was made from.
theorem turned_from (node after : ThreadedNode) (action : ThreadedAction) (turned : node.TurnedAll action after)
    (index : Nat) (changed : ThreadedController) (found : after.controllers[index]? = some changed) :
    ∃ mc, node.controllers[index]? = some mc ∧ node.Turned action index mc changed := by
  have inside : index < node.controllers.length := by
    rw [← turned.length]
    exact (List.getElem?_eq_some_iff.mp found).1
  exact ⟨node.controllers[index], List.getElem?_eq_getElem inside,
    turned.each index _ changed (List.getElem?_eq_getElem inside) found⟩

theorem turned_to (node after : ThreadedNode) (action : ThreadedAction) (turned : node.TurnedAll action after)
    (index : Nat) (mc : ThreadedController) (present : node.controllers[index]? = some mc) :
    ∃ changed, after.controllers[index]? = some changed ∧ node.Turned action index mc changed := by
  have inside : index < after.controllers.length := by
    rw [turned.length]
    exact (List.getElem?_eq_some_iff.mp present).1
  exact ⟨after.controllers[index], List.getElem?_eq_getElem inside,
    turned.each index mc _ present (List.getElem?_eq_getElem inside)⟩

end ThreadedNode

end Animacharacter.HardwareMng
