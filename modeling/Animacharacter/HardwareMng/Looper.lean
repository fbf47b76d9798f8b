import Animacharacter.HardwareMng.Controller

set_option autoImplicit false

namespace Animacharacter.HardwareMng

-- The thread object of a loop descriptor: absent, made but never started,
-- running, running with no job before it any more, or over.
inductive Thread where
  | absent
  | created
  | alive
  | leaving
  | ended
deriving DecidableEq

structure LoopDescriptor where
  thread : Thread
  run : Bool
  wait : Bool
deriving DecidableEq

namespace LoopDescriptor

def init : LoopDescriptor := ⟨.absent, false, false⟩

def isRunning (loop : LoopDescriptor) : Bool := loop.thread = .alive || loop.thread = .leaving

def isPaused (loop : LoopDescriptor) : Bool := !loop.wait

-- A thread that could not be started is left behind in the descriptor.
def startLoop (loop : LoopDescriptor) (paused started : Bool) : LoopDescriptor :=
  if loop.isRunning then loop
  else ⟨if started then .alive else .created, true, !paused⟩

def requestLoopStop (loop : LoopDescriptor) : LoopDescriptor :=
  if loop.isRunning then { loop with run := false, wait := true } else loop

def setLoopPaused (loop : LoopDescriptor) (paused : Bool) : LoopDescriptor := { loop with wait := !paused }

-- Joining a thread that was never started is a RuntimeError.
def joinRaises (loop : LoopDescriptor) : Bool := loop.thread = .created

end LoopDescriptor

inductive ControllerState where
  | UNINITIALIZED
  | INITIALIZED
  | RUNNING
deriving DecidableEq

structure ManagedController where
  goal : ControllerState
  initialized : Bool
  loop : LoopDescriptor
deriving DecidableEq

namespace ManagedController

def init : ManagedController := ⟨.UNINITIALIZED, false, LoopDescriptor.init⟩

def actualState (mc : ManagedController) : ControllerState :=
  if mc.initialized && mc.loop.isRunning && !mc.loop.isPaused then .RUNNING
  else if mc.initialized && mc.loop.isRunning && mc.loop.isPaused then .INITIALIZED
  else .UNINITIALIZED

-- One iteration of the loop's thread up to the signal handler.
def loopIteration (mc : ManagedController) (outcome : Option Raised) : ManagedController × Option Signal :=
  if mc.initialized = false then (mc, none)
  else
    match outcome with
    | none => (mc, none)
    | some raised =>
        let left := exceptBranch raised
        let loop := if left.2.action = .STOP then ⟨.leaving, false, true⟩ else mc.loop
        ({ mc with initialized := left.1, loop }, left.2.signal)

-- The iteration with the test of the run event behind the job.
def iterated (mc : ManagedController) (outcome : Option Raised) : ManagedController × Option Signal :=
  let after := mc.loopIteration outcome
  if mc.loop.run then after
  else ({ after.1 with loop := { after.1.loop with thread := .leaving } }, after.2)

theorem iterated_goal (mc : ManagedController) (outcome : Option Raised) :
    (mc.iterated outcome).1.goal = mc.goal := by
  have same : (mc.loopIteration outcome).1.goal = mc.goal := by
    simp only [loopIteration]
    split
    · rfl
    · cases outcome <;> rfl
  rw [iterated]
  split <;> exact same

theorem iterated_signal (mc : ManagedController) (outcome : Option Raised) :
    (mc.iterated outcome).2 = (mc.loopIteration outcome).2 := by
  rw [iterated]
  split <;> rfl

theorem iterated_thread (mc : ManagedController) (outcome : Option Raised) :
    (mc.iterated outcome).1.loop.thread = mc.loop.thread ∨ (mc.iterated outcome).1.loop.thread = .leaving := by
  rw [iterated]
  split
  · simp only [loopIteration]
    split
    · exact .inl rfl
    · cases outcome with
      | none => exact .inl rfl
      | some raised => cases raised <;> simp [exceptBranch]
  · exact .inr rfl

end ManagedController

end Animacharacter.HardwareMng
