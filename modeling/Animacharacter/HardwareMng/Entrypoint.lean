import Animacharacter.HardwareMng.BatchDispatcher
import Animacharacter.HardwareMng.ThreadedNode

set_option autoImplicit false

namespace Animacharacter.HardwareMng

-- A set of ids, in the order in which it is iterated.
structure CommandGroup where
  ids : List Int
  distinct : ids.Nodup

namespace Dispatcher

variable {Key Payload Callable State : Type} [DecidableEq Key]

-- `call` is what a handler does with its payload.
def dispatch (dispatcher : Dispatcher Key Callable) (call : State → Callable → Payload → State) (state : State)
    (command : Key × Payload) : State :=
  (dispatcher.bucket command.1).foldl (fun state handler => call state handler command.2) state

theorem add_handler_bucket (dispatcher : Dispatcher Key Callable) (key other : Key) (handler : Callable) :
    (dispatcher.addHandler key handler).bucket other =
      if other = key then dispatcher.bucket other ++ [handler] else dispatcher.bucket other := by
  by_cases same : other = key
  · simp [addHandler, bucket, same]
  · simp [addHandler, bucket, same, Ne.symm same]

end Dispatcher

-- The handler of a controller is known by the index of its loop's input queue.
def addController (dispatcher : Dispatcher Int Nat) (index : Nat) (group : CommandGroup) : Dispatcher Int Nat :=
  group.ids.foldl (fun dispatcher id => dispatcher.addHandler id index) dispatcher

def addControllers (dispatcher : Dispatcher Int Nat) : Nat → List CommandGroup → Dispatcher Int Nat
  | _, [] => dispatcher
  | index, group :: rest => addControllers (addController dispatcher index group) (index + 1) rest

def configuredDispatcher (groups : List CommandGroup) : Dispatcher Int Nat := addControllers .init 0 groups

-- The controllers from an index on whose group holds the id.
def holders (id : Int) : Nat → List CommandGroup → List Nat
  | _, [] => []
  | index, group :: rest => (if id ∈ group.ids then [index] else []) ++ holders id (index + 1) rest

theorem add_ids_bucket (ids : List Int) (distinct : ids.Nodup) (dispatcher : Dispatcher Int Nat) (index : Nat)
    (id : Int) : (ids.foldl (fun dispatcher id => dispatcher.addHandler id index) dispatcher).bucket id =
      dispatcher.bucket id ++ if id ∈ ids then [index] else [] := by
  induction ids generalizing dispatcher with
  | nil => simp
  | cons first rest ih =>
      obtain ⟨fresh, distinct⟩ := List.nodup_cons.mp distinct
      rw [List.foldl_cons, ih distinct, Dispatcher.add_handler_bucket]
      by_cases same : id = first
      · subst same
        simp [fresh]
      · simp [same]

theorem add_controllers_bucket (groups : List CommandGroup) (dispatcher : Dispatcher Int Nat) (index : Nat) (id : Int) :
    (addControllers dispatcher index groups).bucket id = dispatcher.bucket id ++ holders id index groups := by
  induction groups generalizing dispatcher index with
  | nil => simp [addControllers, holders]
  | cons group rest ih =>
      rw [addControllers, ih, addController, add_ids_bucket group.ids group.distinct, holders, List.append_assoc]

theorem configured_bucket (groups : List CommandGroup) (id : Int) :
    (configuredDispatcher groups).bucket id = holders id 0 groups :=
  add_controllers_bucket groups .init 0 id

section Routing

variable {Controller Payload : Type} (put : Controller → Payload → Controller)

def putAt (controllers : List Controller) (index : Nat) (payload : Payload) : List Controller :=
  controllers.modify index fun controller => put controller payload

def routed (groups : List CommandGroup) (controllers : List Controller) (id : Int) (payload : Payload) :
    List Controller :=
  List.zipWith (fun group controller => if id ∈ group.ids then put controller payload else controller) groups controllers

theorem put_at_holders (groups : List CommandGroup) (before controllers : List Controller) (id : Int)
    (payload : Payload) (paired : controllers.length = groups.length) :
    (holders id before.length groups).foldl (fun controllers index => putAt put controllers index payload)
      (before ++ controllers) = before ++ routed put groups controllers id payload := by
  induction groups generalizing before controllers with
  | nil =>
      rw [List.length_eq_zero_iff.mp paired]
      rfl
  | cons group rest ih =>
      cases controllers with
      | nil => cases paired
      | cons controller others =>
          have later (changed : Controller) := ih (before ++ [changed]) others (Nat.succ.inj paired)
          simp only [List.length_append, List.length_singleton, List.append_assoc, List.singleton_append] at later
          simp only [holders, routed, List.zipWith_cons_cons]
          split
          · have here : putAt put (before ++ controller :: others) before.length payload =
                before ++ put controller payload :: others := by
              simp [putAt, List.modify_eq_take_cons_drop]
            rw [List.singleton_append, List.foldl_cons, here]
            exact later _
          · exact later _

-- A dispatch puts the command once into the queue of every controller whose
-- command group has its id, and into no other.
theorem dispatch_routed (groups : List CommandGroup) (controllers : List Controller) (id : Int) (payload : Payload)
    (paired : controllers.length = groups.length) :
    (configuredDispatcher groups).dispatch (putAt put) controllers (id, payload) =
      routed put groups controllers id payload := by
  rw [Dispatcher.dispatch, configured_bucket]
  exact put_at_holders put groups [] controllers id payload paired

theorem routed_length (groups : List CommandGroup) (controllers : List Controller) (id : Int) (payload : Payload)
    (paired : controllers.length = groups.length) :
    (routed put groups controllers id payload).length = groups.length := by
  rw [routed, List.length_zipWith, paired, Nat.min_self]

end Routing

section Callback

variable {Controller Value : Type} (put : Controller → Int × Value → Controller)

-- motionframe_callback over the input queues.
def motionframeCallback (dispatcher : Dispatcher Int Nat) (isActive : Bool) (controllers : List Controller)
    (ids : List Int) (values : List Value) : List Controller :=
  if isActive then
    (ids.zip values).foldl (fun controllers command => dispatcher.dispatch (putAt put) controllers (command.1, command))
      controllers
  else controllers

def CommandGroup.holds (group : CommandGroup) (command : Int × Value) : Bool := command.1 ∈ group.ids

theorem routed_get (groups : List CommandGroup) (controllers : List Controller) (command : Int × Value) (index : Nat)
    (group : CommandGroup) (controller : Controller) (grouped : groups[index]? = some group)
    (present : controllers[index]? = some controller) :
    (routed put groups controllers command.1 command)[index]? =
      some (if group.holds command then put controller command else controller) := by
  rw [routed, List.getElem?_zipWith, grouped, present]
  simp [CommandGroup.holds]

-- Every controller is put the commands of the message that are for it, in the
-- order of the message.
theorem dispatch_all_routed (groups : List CommandGroup) (commands : List (Int × Value)) (controllers : List Controller)
    (index : Nat) (group : CommandGroup) (controller : Controller) (paired : controllers.length = groups.length)
    (grouped : groups[index]? = some group) (present : controllers[index]? = some controller) :
    (commands.foldl (fun controllers command =>
        (configuredDispatcher groups).dispatch (putAt put) controllers (command.1, command)) controllers)[index]? =
      some ((commands.filter group.holds).foldl put controller) := by
  induction commands generalizing controllers controller with
  | nil => exact present
  | cons command rest ih =>
      have reached := routed_get put groups controllers command index group controller grouped present
      rw [List.foldl_cons, dispatch_routed put groups controllers command.1 command paired,
        ih _ _ (routed_length put groups controllers command.1 command paired) reached, List.filter_cons]
      split
      · rfl
      · rfl

theorem dispatch_all_length (groups : List CommandGroup) (commands : List (Int × Value))
    (controllers : List Controller) (paired : controllers.length = groups.length) :
    (commands.foldl (fun controllers command =>
        (configuredDispatcher groups).dispatch (putAt put) controllers (command.1, command)) controllers).length =
      groups.length := by
  induction commands generalizing controllers with
  | nil => exact paired
  | cons command rest ih =>
      rw [List.foldl_cons, dispatch_routed put groups controllers command.1 command paired]
      exact ih _ (routed_length put groups controllers command.1 command paired)

end Callback

-- The node with its threads dispatches as the configured dispatcher does.
theorem threaded_dispatch_routed (node : ThreadedNode) (groups : List CommandGroup) (frame : Int × ℚ)
    (loaded : node.controllers.map ThreadedController.commandGroup = groups.map CommandGroup.ids) :
    (node.dispatch frame).controllers =
      (configuredDispatcher groups).dispatch
        (putAt fun mc (command : Int × ℚ) =>
          { mc with incoming := mc.incoming ++ [⟨⟨command.1, command.2⟩, node.activations⟩] })
        node.controllers (frame.1, frame) := by
  have paired : node.controllers.length = groups.length := by simpa using congrArg List.length loaded
  rw [dispatch_routed _ groups node.controllers frame.1 frame paired]
  apply List.ext_getElem?
  intro index
  have own := congrArg (fun lists => lists[index]?) loaded
  simp only [List.getElem?_map] at own
  simp only [ThreadedNode.dispatch, routed, List.getElem?_map, List.getElem?_zipWith]
  cases present : node.controllers[index]? with
  | none =>
      cases groups[index]? with
      | none => rfl
      | some group => rfl
  | some mc =>
      rw [present] at own
      cases grouped : groups[index]? with
      | none =>
          rw [grouped] at own
          cases own
      | some group =>
          rw [grouped] at own
          simp only [Option.map_some, Option.some.injEq] at own ⊢
          rw [own]

end Animacharacter.HardwareMng
