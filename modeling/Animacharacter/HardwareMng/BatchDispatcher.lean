import Mathlib.Data.Finset.Basic
import Animacharacter.Library.Dict
import Animacharacter.Library.Grouping

set_option autoImplicit false

namespace Animacharacter.HardwareMng

section Source

variable {Key Payload Callable : Type} [DecidableEq Key]

structure Dispatcher (Key Callable : Type) [DecidableEq Key] where
  map : Dict Key (List Callable)

inductive DispatchEvent (Payload Callable : Type) where
  | entered (context : Nat)
  | called (handler : Callable) (payload : Payload)
  | exited (context : Nat)
deriving DecidableEq

-- What user code may do to the dispatcher that is calling it.
inductive DispatcherUse (Key Callable : Type) where
  | addHandler (key : Key) (handler : Callable)
  | clearHandlers

-- What the handler that is called does, or the enter or exit of a context; a
-- context does not raise.
structure UserAct (Key Callable : Type) where
  uses : List (DispatcherUse Key Callable)
  raises : Bool

-- `goesOn` is a dispatch that its fuel does not see the end of.
inductive DispatchEnd where
  | returned
  | raised
  | goesOn
deriving DecidableEq

structure BatcherRun (Key Payload Callable : Type) [DecidableEq Key] where
  dispatcher : Dispatcher Key Callable
  events : List (DispatchEvent Payload Callable)
  ending : DispatchEnd

-- A loop over the list of handlers of a key, which is the live one as long as the
-- map has not been cleared.
structure BucketLoop (Key Callable : Type) [DecidableEq Key] where
  dispatcher : Dispatcher Key Callable
  bucket : List Callable
  attached : Bool

namespace Dispatcher

def init : Dispatcher Key Callable := ⟨.empty⟩

def bucket (dispatcher : Dispatcher Key Callable) (key : Key) : List Callable := (dispatcher.map.get key).getD []

def addHandler (dispatcher : Dispatcher Key Callable) (key : Key) (handler : Callable) : Dispatcher Key Callable :=
  ⟨dispatcher.map.set key (dispatcher.bucket key ++ [handler])⟩

def used (dispatcher : Dispatcher Key Callable) : DispatcherUse Key Callable → Dispatcher Key Callable
  | .addHandler key handler => dispatcher.addHandler key handler
  | .clearHandlers => .init

end Dispatcher

def BucketLoop.used (loop : BucketLoop Key Callable) (key : Key) (use : DispatcherUse Key Callable) :
    BucketLoop Key Callable :=
  match use with
  | .addHandler other handler =>
      ⟨loop.dispatcher.used use, if loop.attached = true ∧ other = key then loop.bucket ++ [handler] else loop.bucket,
        loop.attached⟩
  | .clearHandlers => ⟨loop.dispatcher.used use, loop.bucket, false⟩

section Runs

-- What user code does, by all that was done before and the event it is behind.
variable (user : List (DispatchEvent Payload Callable) → DispatchEvent Payload Callable → UserAct Key Callable)

namespace Dispatcher

-- A list is iterated by index, so what is appended to it is called as well; the
-- fuel bounds the calls.
def callHandlers (key : Key) (payload : Payload) :
    Nat → Nat → BucketLoop Key Callable → List (DispatchEvent Payload Callable) → BatcherRun Key Payload Callable
  | fuel, index, loop, events =>
      match loop.bucket[index]?, fuel with
      | none, _ => ⟨loop.dispatcher, events, .returned⟩
      | some _, 0 => ⟨loop.dispatcher, events, .goesOn⟩
      | some handler, fuel + 1 =>
          let act := user events (.called handler payload)
          let after := act.uses.foldl (fun loop use => loop.used key use) loop
          let called := events ++ [.called handler payload]
          if act.raises then ⟨after.dispatcher, called, .raised⟩
          else callHandlers key payload fuel (index + 1) after called

def dispatchMultiple (fuel : Nat) :
    Dispatcher Key Callable → List (Key × Payload) → List (DispatchEvent Payload Callable) →
      BatcherRun Key Payload Callable
  | dispatcher, [], events => ⟨dispatcher, events, .returned⟩
  | dispatcher, (key, payload) :: rest, events =>
      let run := callHandlers user key payload fuel 0 ⟨dispatcher, dispatcher.bucket key, true⟩ events
      match run.ending with
      | .returned => dispatchMultiple fuel run.dispatcher rest run.events
      | .raised | .goesOn => run

end Dispatcher

end Runs

-- A context manager that does not raise; its exit may suppress an exception.
structure ContextManager where
  name : Nat
  suppresses : Bool

structure BatchDispatcher (Key Callable : Type) [DecidableEq Key] where
  dispatcher : Dispatcher Key Callable
  batches : List (Finset Key × Option ContextManager)

namespace BatchDispatcher

def init (dispatcher : Dispatcher Key Callable) : BatchDispatcher Key Callable := ⟨dispatcher, []⟩

def addBatch (batcher : BatchDispatcher Key Callable) (keySet : Finset Key) (context : Option ContextManager) :
    BatchDispatcher Key Callable :=
  { batcher with batches := batcher.batches ++ [(keySet, context)] }

-- The scan of one command over the batches: it goes to each that has its key,
-- and to the unbatched commands if none does.
def scanCommand (batcher : BatchDispatcher Key Callable) (collected : List (List (Key × Payload)) × List (Key × Payload))
    (command : Key × Payload) : List (List (Key × Payload)) × List (Key × Payload) :=
  (List.zipWith (fun batch cmds => if command.1 ∈ batch.1 then cmds ++ [command] else cmds) batcher.batches collected.1,
    if batcher.batches.any fun batch => command.1 ∈ batch.1 then collected.2 else collected.2 ++ [command])

def scan (batcher : BatchDispatcher Key Callable) (commands : List (Key × Payload)) :
    List (List (Key × Payload)) × List (Key × Payload) :=
  commands.foldl batcher.scanCommand (batcher.batches.map fun _ => [], [])

section Runs

variable (user : List (DispatchEvent Payload Callable) → DispatchEvent Payload Callable → UserAct Key Callable)

def hook (dispatcher : Dispatcher Key Callable) (events : List (DispatchEvent Payload Callable))
    (event : DispatchEvent Payload Callable) : BatcherRun Key Payload Callable :=
  ⟨(user events event).uses.foldl Dispatcher.used dispatcher, events ++ [event], .returned⟩

def dispatchBatch (fuel : Nat) (dispatcher : Dispatcher Key Callable) (context : Option ContextManager)
    (cmds : List (Key × Payload)) (events : List (DispatchEvent Payload Callable)) : BatcherRun Key Payload Callable :=
  match context with
  | none => dispatcher.dispatchMultiple user fuel cmds events
  | some context =>
      let entered := hook user dispatcher events (.entered context.name)
      let run := entered.dispatcher.dispatchMultiple user fuel cmds entered.events
      match run.ending with
      | .goesOn => run
      | .returned => hook user run.dispatcher run.events (.exited context.name)
      | .raised =>
          { hook user run.dispatcher run.events (.exited context.name) with
            ending := if context.suppresses then .returned else .raised }

def dispatchBatches (fuel : Nat) :
    Dispatcher Key Callable → List ((Finset Key × Option ContextManager) × List (Key × Payload)) →
      List (DispatchEvent Payload Callable) → BatcherRun Key Payload Callable
  | dispatcher, [], events => ⟨dispatcher, events, .returned⟩
  | dispatcher, ((_, context), cmds) :: rest, events =>
      if cmds.isEmpty then dispatchBatches fuel dispatcher rest events
      else
        let run := dispatchBatch user fuel dispatcher context cmds events
        match run.ending with
        | .returned => dispatchBatches fuel run.dispatcher rest run.events
        | .raised | .goesOn => run

def dispatch (fuel : Nat) (batcher : BatchDispatcher Key Callable) (commands : List (Key × Payload)) :
    BatcherRun Key Payload Callable :=
  let collected := batcher.scan commands
  let run := dispatchBatches user fuel batcher.dispatcher (batcher.batches.zip collected.1) []
  match run.ending with
  | .returned =>
      if 0 < collected.2.length then run.dispatcher.dispatchMultiple user fuel collected.2 run.events else run
  | .raised | .goesOn => run

end Runs

end BatchDispatcher

def calls (events : List (DispatchEvent Payload Callable)) : List (Callable × Payload) :=
  events.filterMap fun event =>
    match event with
    | .called handler payload => some (handler, payload)
    | .entered _ | .exited _ => none

-- Every command for every handler of its key, once.
def Dispatcher.deliveries (dispatcher : Dispatcher Key Callable) (commands : List (Key × Payload)) :
    List (Callable × Payload) :=
  commands.flatMap fun command => (dispatcher.bucket command.1).map fun handler => (handler, command.2)

namespace BatchDispatcher

def Disjoint (batcher : BatchDispatcher Key Callable) : Prop :=
  batcher.batches.Pairwise fun one other => ∀ key ∈ one.1, key ∉ other.1

def test (batch : Finset Key × Option ContextManager) (command : Key × Payload) : Bool := command.1 ∈ batch.1

def unbatched (batcher : BatchDispatcher Key Callable) (command : Key × Payload) : Bool :=
  !batcher.batches.any fun batch => test batch command

-- The handlers of the commands do not raise, and neither they nor the contexts of
-- the batches use the dispatcher.
structure Quiet (batcher : BatchDispatcher Key Callable)
    (user : List (DispatchEvent Payload Callable) → DispatchEvent Payload Callable → UserAct Key Callable)
    (commands : List (Key × Payload)) : Prop where
  handlers : ∀ call ∈ batcher.dispatcher.deliveries commands, ∀ events, user events (.called call.1 call.2) = ⟨[], false⟩
  contexts : ∀ batch ∈ batcher.batches, ∀ context ∈ batch.2, ∀ events,
    (user events (.entered context.name)).uses = [] ∧ (user events (.exited context.name)).uses = []

-- Both return with the same calls, each in the order in which it dispatches the
-- commands; that of the batches keeps the order within each of them.
structure DeliversAlike (batcher : BatchDispatcher Key Callable)
    (user : List (DispatchEvent Payload Callable) → DispatchEvent Payload Callable → UserAct Key Callable)
    (commands order : List (Key × Payload)) (fuel : Nat) : Prop where
  reordered : order.Perm commands
  inBatch : ∀ batch ∈ batcher.batches, order.filter (test batch) = commands.filter (test batch)
  inNoBatch : order.filter batcher.unbatched = commands.filter batcher.unbatched
  returns : (batcher.dispatch user fuel commands).ending = .returned ∧
    (batcher.dispatcher.dispatchMultiple user fuel commands []).ending = .returned
  batched : calls (batcher.dispatch user fuel commands).events = batcher.dispatcher.deliveries order
  plain : calls (batcher.dispatcher.dispatchMultiple user fuel commands []).events = batcher.dispatcher.deliveries commands
  alike : (calls (batcher.dispatch user fuel commands).events).Perm
    (calls (batcher.dispatcher.dispatchMultiple user fuel commands []).events)

end BatchDispatcher

end Source

section Delivery

variable {Key Payload Callable : Type} [DecidableEq Key]
  (user : List (DispatchEvent Payload Callable) → DispatchEvent Payload Callable → UserAct Key Callable) (fuel : Nat)

theorem calls_append (events more : List (DispatchEvent Payload Callable)) :
    calls (events ++ more) = calls events ++ calls more := List.filterMap_append

structure BatcherRun.Adds (run : BatcherRun Key Payload Callable) (dispatcher : Dispatcher Key Callable)
    (events : List (DispatchEvent Payload Callable)) (made : List (Callable × Payload)) : Prop where
  kept : run.dispatcher = dispatcher
  returns : run.ending = .returned
  calls : calls run.events = calls events ++ made

namespace Dispatcher

variable (dispatcher : Dispatcher Key Callable)

theorem deliveries_append (commands more : List (Key × Payload)) :
    dispatcher.deliveries (commands ++ more) = dispatcher.deliveries commands ++ dispatcher.deliveries more :=
  List.flatMap_append

theorem call_handlers_quiet (key : Key) (payload : Payload) (handlers : List Callable) (index : Nat)
    (events : List (DispatchEvent Payload Callable)) (enough : handlers.length ≤ index + fuel)
    (quiet : ∀ handler ∈ handlers, ∀ events, user events (.called handler payload) = ⟨[], false⟩) :
    (callHandlers user key payload fuel index ⟨dispatcher, handlers, true⟩ events).Adds dispatcher events
      ((handlers.drop index).map fun handler => (handler, payload)) := by
  induction fuel generalizing index events with
  | zero =>
      have past : handlers.length ≤ index := enough
      unfold callHandlers
      simp only [List.getElem?_eq_none_iff.mpr past, List.drop_eq_nil_of_le past, List.map_nil]
      exact ⟨rfl, rfl, (List.append_nil _).symm⟩
  | succ fuel ih =>
      by_cases inside : index < handlers.length
      · have here : handlers[index]? = some handlers[index] := List.getElem?_eq_getElem inside
        have silent := quiet handlers[index] (List.getElem_mem inside) events
        obtain ⟨kept, returns, made⟩ := ih (index + 1) (events ++ [.called handlers[index] payload]) (by omega)
        unfold callHandlers
        simp only [here, silent, List.foldl_nil, Bool.false_eq_true, if_false]
        refine ⟨kept, returns, ?_⟩
        rw [made, calls_append, List.append_assoc, List.drop_eq_getElem_cons inside, List.map_cons]
        rfl
      · have past : handlers.length ≤ index := Nat.le_of_not_lt inside
        unfold callHandlers
        simp only [List.getElem?_eq_none_iff.mpr past, List.drop_eq_nil_of_le past, List.map_nil]
        exact ⟨rfl, rfl, (List.append_nil _).symm⟩

theorem bucket_length (command : Key × Payload) (commands : List (Key × Payload)) (listed : command ∈ commands) :
    (dispatcher.bucket command.1).length ≤ (dispatcher.deliveries commands).length := by
  have own : ((dispatcher.bucket command.1).map fun handler => (handler, command.2)).Sublist
      (dispatcher.deliveries commands) :=
    List.sublist_flatten_of_mem (List.mem_map_of_mem listed)
  have shorter := own.length_le
  rwa [List.length_map] at shorter

theorem dispatch_multiple_quiet (commands : List (Key × Payload)) (events : List (DispatchEvent Payload Callable))
    (enough : ∀ command ∈ commands, (dispatcher.bucket command.1).length ≤ fuel)
    (quiet : ∀ call ∈ dispatcher.deliveries commands, ∀ events, user events (.called call.1 call.2) = ⟨[], false⟩) :
    (dispatcher.dispatchMultiple user fuel commands events).Adds dispatcher events (dispatcher.deliveries commands) := by
  induction commands generalizing events with
  | nil => exact ⟨rfl, rfl, (List.append_nil _).symm⟩
  | cons command rest ih =>
      obtain ⟨key, payload⟩ := command
      have own (handler : Callable) (member : handler ∈ dispatcher.bucket key) (before : List _) :
          user before (.called handler payload) = ⟨[], false⟩ := by
        apply quiet (handler, payload) _ before
        exact List.mem_append_left _ (List.mem_map_of_mem member)
      have long : (dispatcher.bucket key).length ≤ fuel := enough (key, payload) List.mem_cons_self
      obtain ⟨kept, returned, made⟩ := call_handlers_quiet user fuel dispatcher key payload (dispatcher.bucket key) 0 events
        (by omega) own
      rw [dispatchMultiple]
      simp only [returned, kept]
      obtain ⟨same, returns, all⟩ := ih _ (fun other member => enough other (List.mem_cons_of_mem _ member))
        (fun call member => quiet call (List.mem_append_right _ member))
      refine ⟨same, returns, ?_⟩
      rw [all, made, List.append_assoc]
      rfl

end Dispatcher

namespace BatchDispatcher

variable (batcher : BatchDispatcher Key Callable)

-- The accumulators of the scan hold what belongs to them of the commands so far.
theorem scan_groups (commands : List (Key × Payload)) :
    batcher.scan commands =
      (batcher.batches.map fun batch => commands.filter (test batch), commands.filter batcher.unbatched) := by
  induction commands using List.reverseRecOn with
  | nil => rfl
  | append_singleton commands command ih =>
      rw [scan, List.foldl_append, List.foldl_cons, List.foldl_nil, ← scan, ih, scanCommand]
      apply Prod.ext
      · simp only [List.zipWith_map_right, List.zipWith_self]
        apply List.map_congr_left
        intro batch _
        by_cases inside : command.1 ∈ batch.1
        · simp [test, inside]
        · simp [test, inside]
      · by_cases found : batcher.batches.any fun batch => command.1 ∈ batch.1
        · have batched : batcher.unbatched command = false := by simpa [unbatched, test] using found
          simp [found, batched]
        · have left : batcher.unbatched command = true := by simpa [unbatched, test] using found
          simp [found, left]

theorem dispatch_batch_quiet (dispatcher : Dispatcher Key Callable) (context : Option ContextManager)
    (cmds : List (Key × Payload)) (events : List (DispatchEvent Payload Callable))
    (enough : ∀ command ∈ cmds, (dispatcher.bucket command.1).length ≤ fuel)
    (quiet : ∀ call ∈ dispatcher.deliveries cmds, ∀ events, user events (.called call.1 call.2) = ⟨[], false⟩)
    (hooks : ∀ manager ∈ context, ∀ events,
      (user events (.entered manager.name)).uses = [] ∧ (user events (.exited manager.name)).uses = []) :
    (dispatchBatch user fuel dispatcher context cmds events).Adds dispatcher events (dispatcher.deliveries cmds) := by
  cases context with
  | none => exact dispatcher.dispatch_multiple_quiet user fuel cmds events enough quiet
  | some context =>
      have still := hooks context rfl
      obtain ⟨kept, returned, made⟩ :=
        dispatcher.dispatch_multiple_quiet user fuel cmds (events ++ [.entered context.name]) enough quiet
      simp only [dispatchBatch, hook, (still events).1, List.foldl_nil, returned, kept, (still _).2]
      refine ⟨rfl, rfl, ?_⟩
      rw [calls_append, made, calls_append]
      simp [calls]

theorem dispatch_batches_quiet (dispatcher : Dispatcher Key Callable)
    (groups : List ((Finset Key × Option ContextManager) × List (Key × Payload)))
    (events : List (DispatchEvent Payload Callable))
    (enough : ∀ group ∈ groups, ∀ command ∈ group.2, (dispatcher.bucket command.1).length ≤ fuel)
    (quiet : ∀ group ∈ groups, ∀ call ∈ dispatcher.deliveries group.2, ∀ events,
      user events (.called call.1 call.2) = ⟨[], false⟩)
    (hooks : ∀ group ∈ groups, ∀ manager ∈ group.1.2, ∀ events,
      (user events (.entered manager.name)).uses = [] ∧ (user events (.exited manager.name)).uses = []) :
    (dispatchBatches user fuel dispatcher groups events).Adds dispatcher events
      (dispatcher.deliveries (groups.flatMap Prod.snd)) := by
  induction groups generalizing events with
  | nil => exact ⟨rfl, rfl, (List.append_nil _).symm⟩
  | cons group rest ih =>
      obtain ⟨⟨keySet, context⟩, cmds⟩ := group
      have later (before : List (DispatchEvent Payload Callable)) :=
        ih before (fun other member => enough other (List.mem_cons_of_mem _ member))
          (fun other member => quiet other (List.mem_cons_of_mem _ member))
          (fun other member => hooks other (List.mem_cons_of_mem _ member))
      rw [dispatchBatches, List.flatMap_cons, dispatcher.deliveries_append]
      by_cases empty : cmds.isEmpty = true
      · rw [if_pos empty, List.isEmpty_iff.mp empty]
        exact later events
      · rw [if_neg empty]
        obtain ⟨kept, returned, first⟩ := dispatch_batch_quiet user fuel dispatcher context cmds events
          (enough ((keySet, context), cmds) List.mem_cons_self) (quiet ((keySet, context), cmds) List.mem_cons_self)
          (hooks ((keySet, context), cmds) List.mem_cons_self)
        simp only [returned, kept]
        obtain ⟨same, returns, made⟩ := later (dispatchBatch user fuel dispatcher context cmds events).events
        exact ⟨same, returns, by rw [made, first, List.append_assoc]⟩

def order (commands : List (Key × Payload)) : List (Key × Payload) :=
  Grouping.grouped (batcher.batches.map test) commands

theorem tests_disjoint (disjoint : batcher.Disjoint) :
    Grouping.Disjoint (batcher.batches.map (test : _ → Key × Payload → Bool)) := by
  apply List.pairwise_map.mpr
  apply disjoint.imp
  intro one other apart command inside
  exact decide_eq_false (apart command.1 (of_decide_eq_true inside))

theorem no_test (command : Key × Payload) :
    (!(batcher.batches.map test).any fun test => test command) = batcher.unbatched command := by
  rw [List.any_map]
  rfl

theorem order_groups (commands : List (Key × Payload)) : batcher.order commands =
    (batcher.batches.map fun batch => (batch, commands.filter (test batch))).flatMap Prod.snd ++
      commands.filter batcher.unbatched := by
  rw [order, Grouping.grouped, List.flatMap_map, List.flatMap_map]
  simp only [no_test]

theorem deliveries_filter (dispatcher : Dispatcher Key Callable) (commands : List (Key × Payload))
    (kept : Key × Payload → Bool) (call : Callable × Payload)
    (member : call ∈ dispatcher.deliveries (commands.filter kept)) : call ∈ dispatcher.deliveries commands := by
  obtain ⟨command, inside, made⟩ := List.mem_flatMap.mp member
  exact List.mem_flatMap.mpr ⟨command, List.mem_of_mem_filter inside, made⟩

theorem dispatch_quiet (commands : List (Key × Payload))
    (enough : ∀ command ∈ commands, (batcher.dispatcher.bucket command.1).length ≤ fuel)
    (quiet : batcher.Quiet user commands) :
    (batcher.dispatch user fuel commands).Adds batcher.dispatcher []
      (batcher.dispatcher.deliveries (batcher.order commands)) := by
  have groups : batcher.batches.zip (batcher.batches.map fun batch => commands.filter (test batch)) =
      batcher.batches.map fun batch => (batch, commands.filter (test batch)) :=
    List.map_prod_left_eq_zip.symm
  have part (kept : Key × Payload → Bool) :=
    fun call member => quiet.handlers call (deliveries_filter batcher.dispatcher commands kept call member)
  have long (kept : Key × Payload → Bool) (command : Key × Payload) (member : command ∈ commands.filter kept) :=
    enough command (List.mem_of_mem_filter member)
  obtain ⟨kept, returned, first⟩ := dispatch_batches_quiet user fuel batcher.dispatcher
    (batcher.batches.map fun batch => (batch, commands.filter (test batch))) []
    (by
      intro group member
      obtain ⟨batch, _, rfl⟩ := List.mem_map.mp member
      exact long (test batch))
    (by
      intro group member
      obtain ⟨batch, _, rfl⟩ := List.mem_map.mp member
      exact part (test batch))
    (by
      intro group member
      obtain ⟨batch, listed, rfl⟩ := List.mem_map.mp member
      exact quiet.contexts batch listed)
  rw [dispatch, scan_groups, groups, order_groups, Dispatcher.deliveries_append]
  simp only [returned, kept]
  by_cases left : 0 < (commands.filter batcher.unbatched).length
  · rw [if_pos left]
    obtain ⟨same, returns, made⟩ := batcher.dispatcher.dispatch_multiple_quiet user fuel
      (commands.filter batcher.unbatched) _ (long batcher.unbatched) (part batcher.unbatched)
    exact ⟨same, returns, by rw [made, first]; rfl⟩
  · have none : commands.filter batcher.unbatched = [] := List.eq_nil_of_length_eq_zero (by omega)
    rw [if_neg left, none]
    exact ⟨kept, returned, first.trans (List.append_nil _).symm⟩

theorem batching_delivers_alike (disjoint : batcher.Disjoint) (commands : List (Key × Payload))
    (quiet : batcher.Quiet user commands) :
    ∃ enough, ∀ fuel, enough ≤ fuel → batcher.DeliversAlike user commands (batcher.order commands) fuel := by
  refine ⟨(batcher.dispatcher.deliveries commands).length, fun fuel enough => ?_⟩
  have long (command : Key × Payload) (member : command ∈ commands) :=
    (batcher.dispatcher.bucket_length command commands member).trans enough
  have tests : Grouping.Disjoint (batcher.batches.map (test : _ → Key × Payload → Bool)) :=
    batcher.tests_disjoint disjoint
  have reordered := Grouping.grouped_perm _ commands tests
  obtain ⟨_, batchedReturns, batched⟩ := batcher.dispatch_quiet user fuel commands long quiet
  obtain ⟨_, plainReturns, plain⟩ :=
    batcher.dispatcher.dispatch_multiple_quiet user fuel commands [] long quiet.handlers
  apply DeliversAlike.mk
  · exact reordered
  · intro batch member
    exact Grouping.grouped_filter _ commands tests (test batch) (List.mem_map_of_mem member)
  · have rest := Grouping.grouped_rest (batcher.batches.map test) commands
    simp only [no_test] at rest
    exact rest
  · exact ⟨batchedReturns, plainReturns⟩
  · exact batched
  · exact plain
  · rw [batched, plain]
    exact reordered.flatMap_right _

end BatchDispatcher

end Delivery

namespace BatchDispatcher

-- Keys 0 and 1 have one handler each, and key 1 is in a batch of its own.
def oneBatch : BatchDispatcher Nat String :=
  (init ((Dispatcher.init.addHandler 0 "left").addHandler 1 "right")).addBatch {1} (some ⟨0, false⟩)

theorem batching_delivers_alike_reordered :
    ∃ enough, ∀ fuel, enough ≤ fuel →
      oneBatch.DeliversAlike (fun _ _ => ⟨[], false⟩) [(0, 5), (1, 6), (0, 7)] [(1, 6), (0, 5), (0, 7)] fuel :=
  batching_delivers_alike (fun _ _ => ⟨[], false⟩) oneBatch (List.pairwise_singleton _ _) [(0, 5), (1, 6), (0, 7)]
    ⟨fun _ _ _ => rfl, fun _ _ _ _ _ => ⟨rfl, rfl⟩⟩

def isRight : DispatchEvent Nat String → Bool
  | .called handler _ => handler = "right"
  | .entered _ | .exited _ => false

-- A handler that raises keeps the commands behind it from theirs, in the order of
-- each dispatch; one that adds a handler gets it called for what comes after.
theorem unquiet_handler_delivers_otherwise :
    (calls (oneBatch.dispatch (fun _ event => ⟨[], isRight event⟩) 4 [(0, 5), (1, 6)]).events = [("right", 6)] ∧
      calls (oneBatch.dispatcher.dispatchMultiple (fun _ event => ⟨[], isRight event⟩) 4 [(0, 5), (1, 6)] []).events =
        [("left", 5), ("right", 6)]) ∧
    calls (oneBatch.dispatch (fun _ event => ⟨if isRight event then [.addHandler 0 "late"] else [], false⟩) 4
        [(0, 5), (1, 6)]).events = [("right", 6), ("left", 5), ("late", 5)] ∧
      calls (oneBatch.dispatcher.dispatchMultiple
        (fun _ event => ⟨if isRight event then [.addHandler 0 "late"] else [], false⟩) 4 [(0, 5), (1, 6)] []).events =
        [("left", 5), ("right", 6)] := by
  decide +kernel

end BatchDispatcher

end Animacharacter.HardwareMng
