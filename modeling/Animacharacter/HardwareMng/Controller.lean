set_option autoImplicit false

namespace Animacharacter.HardwareMng

-- An exception; `exception` is any that is not a ControllerException.
inductive Raised where
  | controllerWarning (code : Int) (description : String)
  | controllerError (code : Int) (description : String)
  | controllerFatal (code : Int) (description : String)
  | exception (text : String)
deriving DecidableEq

def SIG_CONTROLLER_FATAL : String := "global_shutdown"
def SIG_CONTOLLER_WARNING : String := "controller_warning"
def SIG_CONTROLLER_ERROR : String := "controller_error"
def SIG_CONTROLLER_GENERIC_EXCEPTION : String := "controller_exception"

structure Signal where
  name : String
  code : Int
  note : String
deriving DecidableEq

inductive LoopAction where
  | PAUSE
  | STOP
  | CONTINUE
deriving DecidableEq

structure LoopRequest where
  action : LoopAction := .CONTINUE
  signal : Option Signal := none
deriving DecidableEq

-- A parsed configuration: a tree of dictionaries over other json values.
inductive Config where
  | value (text : String)
  | dict (entries : List (String × Config))

def fetchDictDeep : Config → List String → Option Config
  | current, [] => some current
  | .value _, _ :: _ => none
  | .dict entries, key :: rest =>
      match entries.lookup key with
      | none => none
      | some current => fetchDictDeep current rest

-- A registered handler. A callable without `__name__` (a partial, an instance
-- with `__call__`) is named by its type.
structure Handler where
  path : List String
  name : Option String
  typeName : String
deriving DecidableEq

-- What user code does during one flush: whether the handler of an index raises
-- on the configuration of an index, and how read and control end.
structure Iteration where
  handlerRaises : Nat → Nat → Bool
  read : Option Raised
  control : Option Raised

def missingName (handler : Handler) : Raised :=
  .exception s!"'{handler.typeName}' object has no attribute '__name__'"

-- A handler's exception is logged under the handler's `__name__`; the lookup
-- of that name is not itself guarded.
def dispatchConfig (raises : Nat → Bool) (config : Config) : Nat → List Handler → Option Raised
  | _, [] => none
  | index, handler :: rest =>
      if (fetchDictDeep config handler.path).isSome && raises index && handler.name.isNone then some (missingName handler)
      else dispatchConfig raises config (index + 1) rest

def executeQueuedConfigUpdates (handlers : List Handler) (raises : Nat → Nat → Bool) :
    Nat → List Config → List Config × Option Raised
  | _, [] => ([], none)
  | index, config :: rest =>
      match dispatchConfig (raises index) config 0 handlers with
      | some raised => (rest, some raised)
      | none => executeQueuedConfigUpdates handlers raises (index + 1) rest

structure BaseHardwareController where
  configHandlers : List Handler
  cfgUpdatesQueue : List Config
  initialized : Bool

-- The except branches of the flush: the flag kept and the request returned.
def exceptBranch : Raised → Bool × LoopRequest
  | .controllerWarning code description =>
      (true, { signal := some ⟨SIG_CONTOLLER_WARNING, code, description⟩ })
  | .controllerError code description =>
      (false, { action := .STOP, signal := some ⟨SIG_CONTROLLER_ERROR, code, description⟩ })
  | .controllerFatal code description =>
      (false, { action := .STOP, signal := some ⟨SIG_CONTROLLER_FATAL, code, description⟩ })
  | .exception text => (false, { action := .STOP, signal := some ⟨SIG_CONTROLLER_GENERIC_EXCEPTION, 0, text⟩ })

structure FlushResult (Command : Type) where
  controller : BaseHardwareController
  incomingCommands : List Command
  controlled : List (List Command)
  request : Option LoopRequest

variable {Command : Type}

def leaveFlush (controller : BaseHardwareController) (controlled : List (List Command)) :
    Option Raised → FlushResult Command
  | none => ⟨controller, [], controlled, none⟩
  | some raised =>
      let left := exceptBranch raised
      ⟨{ controller with initialized := left.1 }, [], controlled, some left.2⟩

-- The commands are taken from the queue first. What arrives after its size was
-- read stays there, as if it arrived after the flush.
def flush (controller : BaseHardwareController) (incomingCommands : List Command) (iteration : Iteration) :
    FlushResult Command :=
  if controller.initialized = false then ⟨controller, incomingCommands, [], none⟩
  else
    let commands := incomingCommands
    let updates := executeQueuedConfigUpdates controller.configHandlers iteration.handlerRaises 0 controller.cfgUpdatesQueue
    let controller := { controller with cfgUpdatesQueue := updates.1 }
    match updates.2 with
    | some raised => leaveFlush controller [] (some raised)
    | none =>
        match iteration.read with
        | some raised => leaveFlush controller [] (some raised)
        | none => leaveFlush controller [commands] iteration.control

def QuietOn (raises : Bool) (config : Config) (handler : Handler) : Prop :=
  (fetchDictDeep config handler.path).isSome → raises = true → handler.name.isSome

-- No queued configuration reaches a handler that raises and has no name.
def NamedHandlers (controller : BaseHardwareController) (iteration : Iteration) : Prop :=
  ∀ place config index handler, controller.cfgUpdatesQueue[place]? = some config →
    controller.configHandlers[index]? = some handler → QuietOn (iteration.handlerRaises place index) config handler

theorem dispatch_config_none (raises : Nat → Bool) (config : Config) (handlers : List Handler) (base : Nat) :
    dispatchConfig raises config base handlers = none ↔
      ∀ index handler, handlers[index]? = some handler → QuietOn (raises (base + index)) config handler := by
  induction handlers generalizing base with
  | nil => simp [dispatchConfig]
  | cons first rest ih =>
      have head : ((fetchDictDeep config first.path).isSome && raises base && first.name.isNone) = false ↔
          QuietOn (raises base) config first := by
        cases found : fetchDictDeep config first.path <;> cases raising : raises base <;> cases named : first.name <;>
          simp [QuietOn, found, named]
      simp only [dispatchConfig]
      constructor
      · intro quiet index handler present
        split at quiet
        · cases quiet
        · rename_i silent
          cases index with
          | zero =>
              cases present
              exact head.mp (Bool.eq_false_iff.mpr silent)
          | succ index =>
              have later := (ih (base + 1)).mp quiet index handler present
              rwa [Nat.add_right_comm] at later
      · intro quiet
        rw [head.mpr (quiet 0 first rfl)]
        refine (ih (base + 1)).mpr fun index handler present => ?_
        have later := quiet (index + 1) handler present
        rwa [Nat.add_right_comm]

theorem execute_updates_none (handlers : List Handler) (raises : Nat → Nat → Bool) (configs : List Config) (base : Nat) :
    (executeQueuedConfigUpdates handlers raises base configs).2 = none ↔
      ∀ place config, configs[place]? = some config → ∀ index handler, handlers[index]? = some handler →
        QuietOn (raises (base + place) index) config handler := by
  induction configs generalizing base with
  | nil => simp [executeQueuedConfigUpdates]
  | cons first rest ih =>
      have head := dispatch_config_none (raises base) first handlers 0
      simp only [Nat.zero_add] at head
      simp only [executeQueuedConfigUpdates]
      constructor
      · intro quiet place config present
        split at quiet
        · cases quiet
        · rename_i silent
          cases place with
          | zero =>
              cases present
              exact head.mp silent
          | succ place =>
              have later := (ih (base + 1)).mp quiet place config present
              rwa [Nat.add_right_comm] at later
      · intro quiet
        rw [head.mpr (quiet 0 first rfl)]
        refine (ih (base + 1)).mpr fun place config present => ?_
        have later := quiet (place + 1) config present
        rwa [Nat.add_right_comm]

theorem named_handlers_iff (controller : BaseHardwareController) (iteration : Iteration) :
    NamedHandlers controller iteration ↔
      (executeQueuedConfigUpdates controller.configHandlers iteration.handlerRaises 0 controller.cfgUpdatesQueue).2 =
        none := by
  rw [execute_updates_none]
  simp only [NamedHandlers, Nat.zero_add]
  exact ⟨fun named place config queued index handler bound => named place config index handler queued bound,
    fun quiet place config index handler queued bound => quiet place config queued index handler bound⟩

@[simp] theorem leave_flush_controlled (controller : BaseHardwareController) (controlled : List (List Command))
    (left : Option Raised) : (leaveFlush controller controlled left).controlled = controlled := by
  cases left <;> rfl

@[simp] theorem leave_flush_incoming (controller : BaseHardwareController) (controlled : List (List Command))
    (left : Option Raised) : (leaveFlush controller controlled left).incomingCommands = [] := by
  cases left <;> rfl

theorem flush_reaches_control (controller : BaseHardwareController) (incomingCommands : List Command)
    (iteration : Iteration) (initialized : controller.initialized = true) (named : NamedHandlers controller iteration)
    (quiet : iteration.read = none) :
    (flush controller incomingCommands iteration).controlled = [incomingCommands] := by
  simp [flush, initialized, (named_handlers_iff controller iteration).mp named, quiet]

theorem flush_misses_control (controller : BaseHardwareController) (incomingCommands : List Command)
    (iteration : Iteration) (missed : ¬ (NamedHandlers controller iteration ∧ iteration.read = none)) :
    (flush controller incomingCommands iteration).controlled = [] := by
  simp only [flush]
  split
  · rfl
  · split
    · simp
    · rename_i named
      split
      · simp
      · rename_i quiet
        exact absurd ⟨(named_handlers_iff controller iteration).mpr named, quiet⟩ missed

theorem flush_empties (controller : BaseHardwareController) (incomingCommands : List Command) (iteration : Iteration)
    (initialized : controller.initialized = true) :
    (flush controller incomingCommands iteration).incomingCommands = [] := by
  simp only [flush, initialized, Bool.true_eq_false, if_false]
  split
  · simp
  · split <;> simp

end Animacharacter.HardwareMng
