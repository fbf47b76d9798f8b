import Animacharacter.Library.Dict
import Animacharacter.Alerts.Client
import Animacharacter.Orchestration.SystemCommons
import Animacharacter.HardwareMng.Controller

set_option autoImplicit false

namespace Animacharacter.HardwareMng

open Alerts Orchestration

-- The variables of the constructor that its lambdas refer to. They outlive it.
structure Frame (Loop Controller : Type) where
  loop : Option Loop
  ctrl : Option Controller

structure HandlerCall (Loop Controller : Type) where
  ctrl : Controller
  loop : Loop
  signal : Signal
deriving DecidableEq

-- A lambda made in the constructor reads the variables when it is called; what
-- a default argument holds is fixed when it is made.
abbrev Lambda (Loop Controller Argument Result : Type) := Frame Loop Controller → Argument → Option Result

structure NodeWiring (Loop Controller : Type) [DecidableEq Loop] where
  frame : Frame Loop Controller
  managed : List (Loop × Controller)
  signalHandlers : Dict Loop (Lambda Loop Controller Signal (HandlerCall Loop Controller))
  reconcilerChecks : List (Lambda Loop Controller Unit (Loop × Controller))
  loopChecks : List (Lambda Loop Controller Unit Loop)

namespace NodeWiring

variable {Loop Controller : Type} [DecidableEq Loop]

def empty : NodeWiring Loop Controller := ⟨⟨none, none⟩, [], Dict.empty, [], []⟩

-- lambda s: self.handle_loop_signal(ctrl, loop, s)
def signalHandler : Lambda Loop Controller Signal (HandlerCall Loop Controller) := fun frame signal => do
  let ctrl ← frame.ctrl
  let loop ← frame.loop
  return ⟨ctrl, loop, signal⟩

def wirePair (wiring : NodeWiring Loop Controller) (pair : Loop × Controller) : NodeWiring Loop Controller :=
  { wiring with
    frame := ⟨some pair.1, some pair.2⟩
    managed := wiring.managed ++ [pair]
    signalHandlers := wiring.signalHandlers.set pair.1 signalHandler }

-- lambda stat, managed_controller=mc: self.check_reconciler_status(stat, managed_controller)
def addReconcilerCheck (wiring : NodeWiring Loop Controller) (mc : Loop × Controller) : NodeWiring Loop Controller :=
  { wiring with reconcilerChecks := wiring.reconcilerChecks ++ [fun _ _ => some mc] }

-- lambda stat, l=loop: self.check_loop_status(stat, l); the statement loops with
-- the variable that the signal handlers read.
def addLoopCheck (wiring : NodeWiring Loop Controller) (loop : Loop) : NodeWiring Loop Controller :=
  { wiring with
    frame := { wiring.frame with loop := some loop }
    loopChecks := wiring.loopChecks ++ [fun _ _ => some loop] }

-- HardwareManagerNode.__init__ on the given pairs, with the loops of the looper
-- in the order of get_loops().
def init (pairs : List (Loop × Controller)) (loops : List Loop) : NodeWiring Loop Controller :=
  let wired := pairs.foldl wirePair empty
  let checked := wired.managed.foldl addReconcilerCheck wired
  loops.foldl addLoopCheck checked

def emit (wiring : NodeWiring Loop Controller) (loop : Loop) (signal : Signal) : Option (HandlerCall Loop Controller) :=
  (wiring.signalHandlers.get loop).bind fun handler => handler wiring.frame signal

end NodeWiring

def fatalAlert {Loop Controller : Type} (nodeName : String) (name : Controller → String) (call : HandlerCall Loop Controller) :
    Option RaiseArguments :=
  if call.signal.name = SIG_CONTROLLER_FATAL then
    some {
      level := Level.FATAL
      src := nodeName
      code := AlertCodes.FTL_HW_CONTROLLER_FATAL
      subcode := call.signal.code
      brief := s!"Fatal error in controller '{name call.ctrl}'"
      description := call.signal.note }
  else none

namespace NodeWiring

variable {Loop Controller : Type} [DecidableEq Loop]

def lastCtrl (pairs : List (Loop × Controller)) : Option Controller := pairs.getLast?.map Prod.snd

def lastLoop (pairs : List (Loop × Controller)) (loops : List Loop) : Option Loop :=
  loops.getLast?.or (pairs.getLast?.map Prod.fst)

theorem wire_pairs_frame (pairs : List (Loop × Controller)) (wiring : NodeWiring Loop Controller) :
    (pairs.foldl wirePair wiring).frame =
      ⟨(pairs.getLast?.map Prod.fst).or wiring.frame.loop, (lastCtrl pairs).or wiring.frame.ctrl⟩ := by
  induction pairs generalizing wiring with
  | nil => rfl
  | cons pair rest ih =>
      rw [List.foldl_cons, ih]
      cases rest with
      | nil => rfl
      | cons next others => simp [wirePair, lastCtrl, List.getLast?_cons]

theorem add_loop_checks_frame (loops : List Loop) (wiring : NodeWiring Loop Controller) :
    (loops.foldl addLoopCheck wiring).frame = ⟨loops.getLast?.or wiring.frame.loop, wiring.frame.ctrl⟩ := by
  induction loops generalizing wiring with
  | nil => rfl
  | cons loop rest ih =>
      rw [List.foldl_cons, ih]
      cases rest with
      | nil => rfl
      | cons next others => simp [addLoopCheck, List.getLast?_cons]

theorem add_reconciler_checks_kept (mcs : List (Loop × Controller)) (wiring : NodeWiring Loop Controller) :
    (mcs.foldl addReconcilerCheck wiring).frame = wiring.frame ∧
      (mcs.foldl addReconcilerCheck wiring).signalHandlers = wiring.signalHandlers := by
  induction mcs generalizing wiring with
  | nil => exact ⟨rfl, rfl⟩
  | cons mc rest ih => exact ih (wiring.addReconcilerCheck mc)

theorem add_loop_checks_handlers (loops : List Loop) (wiring : NodeWiring Loop Controller) :
    (loops.foldl addLoopCheck wiring).signalHandlers = wiring.signalHandlers := by
  induction loops generalizing wiring with
  | nil => rfl
  | cons loop rest ih => exact ih (wiring.addLoopCheck loop)

theorem wire_pairs_handler (pairs : List (Loop × Controller)) (wiring : NodeWiring Loop Controller) (loop : Loop)
    (given : loop ∈ pairs.map Prod.fst ∨ wiring.signalHandlers.get loop = some signalHandler) :
    (pairs.foldl wirePair wiring).signalHandlers.get loop = some signalHandler := by
  induction pairs generalizing wiring with
  | nil =>
      rcases given with member | bound
      · cases member
      · exact bound
  | cons pair rest ih =>
      refine ih (wiring.wirePair pair) ?_
      by_cases same : pair.1 = loop
      · exact .inr (by simp [wirePair, same])
      · rcases given with member | bound
        · rcases List.mem_cons.mp member with here | later
          · exact absurd here.symm same
          · exact .inl later
        · exact .inr (by simp [wirePair, same, bound])

theorem init_frame (pairs : List (Loop × Controller)) (loops : List Loop) :
    (init pairs loops).frame = ⟨lastLoop pairs loops, lastCtrl pairs⟩ := by
  simp only [init, add_loop_checks_frame, (add_reconciler_checks_kept _ _).1, wire_pairs_frame, empty, Option.or_none,
    lastLoop]

theorem init_handler (pairs : List (Loop × Controller)) (loops : List Loop) (loop : Loop)
    (member : loop ∈ pairs.map Prod.fst) : (init pairs loops).signalHandlers.get loop = some signalHandler := by
  simp only [init, add_loop_checks_handlers, (add_reconciler_checks_kept _ _).2]
  exact wire_pairs_handler pairs empty loop (.inl member)

theorem emit_init (pairs : List (Loop × Controller)) (loops : List Loop) (loop : Loop) (signal : Signal)
    (member : loop ∈ pairs.map Prod.fst) :
    (init pairs loops).emit loop signal =
      (lastCtrl pairs).bind fun ctrl => (lastLoop pairs loops).map fun last => ⟨ctrl, last, signal⟩ := by
  rw [emit, init_handler pairs loops loop member, Option.bind_some, signalHandler, init_frame]
  cases lastCtrl pairs with
  | none => rfl
  | some ctrl => cases lastLoop pairs loops <;> rfl

theorem emit_own_iff (pairs : List (Loop × Controller)) (loops : List Loop) (pair : Loop × Controller)
    (member : pair ∈ pairs) (signal : Signal) :
    (init pairs loops).emit pair.1 signal = some ⟨pair.2, pair.1, signal⟩ ↔
      lastCtrl pairs = some pair.2 ∧ lastLoop pairs loops = some pair.1 := by
  rw [emit_init pairs loops pair.1 signal (List.mem_map_of_mem member)]
  cases lastCtrl pairs with
  | none => simp
  | some ctrl => cases lastLoop pairs loops <;> simp

theorem signals_attributed_iff (pairs : List (Loop × Controller)) (loops : List Loop) :
    (∀ pair ∈ pairs, ∀ signal, (init pairs loops).emit pair.1 signal = some ⟨pair.2, pair.1, signal⟩) ↔
      ∀ pair ∈ pairs, lastCtrl pairs = some pair.2 ∧ lastLoop pairs loops = some pair.1 := by
  constructor
  · intro attributed pair member
    exact (emit_own_iff pairs loops pair member ⟨SIG_CONTROLLER_FATAL, 0, ""⟩).mp (attributed pair member _)
  · intro last pair member signal
    exact (emit_own_iff pairs loops pair member signal).mpr (last pair member)

-- As the entrypoint builds them: the looper's loops are those of the pairs, each
-- made for one controller.
theorem entrypoint_attributed_iff (pairs : List (Loop × Controller)) (distinct : (pairs.map Prod.fst).Nodup) :
    (∀ pair ∈ pairs, ∀ signal, (init pairs (pairs.map Prod.fst)).emit pair.1 signal = some ⟨pair.2, pair.1, signal⟩) ↔
      pairs.length ≤ 1 := by
  match pairs, distinct with
  | [], _ => simp
  | [pair], _ =>
      refine iff_of_true (fun one member signal => ?_) (Nat.le_refl 1)
      rw [List.mem_singleton.mp member]
      exact (emit_own_iff [pair] [pair.1] pair (List.mem_singleton_self pair) signal).mpr ⟨rfl, rfl⟩
  | first :: second :: rest, distinct =>
      simp only [List.length_cons, Nat.reduceLeDiff, iff_false]
      intro attributed
      have last (pair : Loop × Controller) (member : pair ∈ first :: second :: rest) :=
        (emit_own_iff _ _ pair member ⟨SIG_CONTROLLER_FATAL, 0, ""⟩).mp (attributed pair member _)
      have one := (last first (by simp)).2
      have two := (last second (by simp)).2
      rw [one, Option.some.injEq] at two
      simp [two] at distinct

theorem add_loop_checks_own (loops : List Loop) (frame : Frame Loop Controller) (wiring : NodeWiring Loop Controller) :
    (loops.foldl addLoopCheck wiring).loopChecks.map (fun check => check frame ()) =
      wiring.loopChecks.map (fun check => check frame ()) ++ loops.map some := by
  induction loops generalizing wiring with
  | nil => simp
  | cons loop rest ih =>
      rw [List.foldl_cons, ih]
      simp [addLoopCheck]

theorem add_reconciler_checks_loops (mcs : List (Loop × Controller)) (wiring : NodeWiring Loop Controller) :
    (mcs.foldl addReconcilerCheck wiring).loopChecks = wiring.loopChecks := by
  induction mcs generalizing wiring with
  | nil => rfl
  | cons mc rest ih => exact ih (wiring.addReconcilerCheck mc)

theorem wire_pairs_loops (pairs : List (Loop × Controller)) (wiring : NodeWiring Loop Controller) :
    (pairs.foldl wirePair wiring).loopChecks = wiring.loopChecks := by
  induction pairs generalizing wiring with
  | nil => rfl
  | cons pair rest ih => exact ih (wiring.wirePair pair)

-- The diagnostic tasks bind their variable by a default argument and see their own loop.
theorem loop_checks_own (pairs : List (Loop × Controller)) (loops : List Loop) :
    (init pairs loops).loopChecks.map (fun check => check (init pairs loops).frame ()) = loops.map some := by
  have own := add_loop_checks_own loops (init pairs loops).frame
    ((pairs.foldl wirePair empty).managed.foldl addReconcilerCheck (pairs.foldl wirePair empty))
  rw [add_reconciler_checks_loops, wire_pairs_loops] at own
  exact own

-- Two controllers: the first one's signal is put down to the second, and the
-- alert names it.
theorem signal_misattributed :
    ∃ (pairs : List (Nat × String)) (call : HandlerCall Nat String), pairs = [(1, "arm"), (2, "head")] ∧
      (init pairs [1, 2]).emit 1 ⟨SIG_CONTROLLER_FATAL, 7, "no response"⟩ = some call ∧
      call = ⟨"head", 2, ⟨SIG_CONTROLLER_FATAL, 7, "no response"⟩⟩ ∧
      (fatalAlert "hardware_manager" id call).map RaiseArguments.brief = some "Fatal error in controller 'head'" :=
  ⟨[(1, "arm"), (2, "head")], ⟨"head", 2, ⟨SIG_CONTROLLER_FATAL, 7, "no response"⟩⟩, rfl, rfl, rfl, by decide⟩

end NodeWiring

end Animacharacter.HardwareMng
