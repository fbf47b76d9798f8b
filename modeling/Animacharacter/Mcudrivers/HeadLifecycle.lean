import Animacharacter.Mcudrivers.FlushCall

set_option autoImplicit false

namespace Animacharacter.Mcudrivers

open StepSystem

-- What begin() gets from the serial device up to its flush.
inductive Handshake where
  | noDevice
  | wrongName
  | noAck
  | acked
  | raised
deriving DecidableEq

-- The driver and its `initialized`, with the axes written since their packet was
-- last sent.
structure HeadLink (Value : Type) where
  driver : HeadMcuDriver Value
  initialized : Bool
  unsent : List Axis

-- A call from one thread; `closes` says whether deinit's send and close return.
inductive HeadCall (Value : Type) where
  | write (axis : Axis) (val : Value)
  | flush (serial : Serial)
  | begin_ (handshake : Handshake) (serial : Serial)
  | deinit (closes : Bool)

namespace HeadLink

section Calls

variable {Value : Type} [PyNumber Value]

def init : HeadLink Value := ⟨.init, false, []⟩

def write (link : HeadLink Value) (axis : Axis) (val : Value) : HeadLink Value :=
  { link with
    driver := link.driver.write axis val
    unsent := link.unsent ++ if (link.driver.axes.writeAxis axis val).isSome then [axis] else [] }

def flush (link : HeadLink Value) (serial : Serial) : HeadLink Value × CallEnd :=
  let flushed := link.driver.flushCall serial
  ({ link with
    driver := flushed.1
    unsent := link.unsent.filter fun axis => axis.packet.packId ∉ flushed.1.sentSince link.driver }, flushed.2)

def begin_ (link : HeadLink Value) (handshake : Handshake) (serial : Serial) : HeadLink Value × CallEnd :=
  if link.initialized then (link, .returned true)
  else
    match handshake with
    | .noDevice | .wrongName | .noAck => (link, .returned false)
    | .raised => (link, .raised)
    | .acked =>
        let flushed := link.flush serial
        if flushed.2 = .returned true then ({ flushed.1 with initialized := true }, .returned true) else flushed

def deinit (link : HeadLink Value) (closes : Bool) : HeadLink Value × CallEnd :=
  if link.initialized then
    if closes then ({ link with initialized := false }, .returned true) else (link, .raised)
  else (link, .returned true)

def step (link : HeadLink Value) : HeadCall Value → Option (HeadLink Value)
  | .write axis val => some (link.write axis val)
  | .flush serial => some (link.flush serial).1
  | .begin_ handshake serial => some (link.begin_ handshake serial).1
  | .deinit closes => some (link.deinit closes).1

end Calls

end HeadLink

def headLink {Value : Type} [PyNumber Value] : System (HeadLink Value) (HeadCall Value) where
  start link := link = .init
  step := HeadLink.step

namespace HeadLink

section Runs

variable {Value : Type} [PyNumber Value]

-- A flag is up just when an axis of its packet is unsent.
def Flagged (link : HeadLink Value) : Prop :=
  ∀ packet, link.driver.dirty packet = true ↔ ∃ axis ∈ link.unsent, axis.packet = packet

theorem write_flagged (link : HeadLink Value) (axis : Axis) (val : Value) (flagged : link.Flagged) :
    (link.write axis val).Flagged := by
  intro packet
  cases written : link.driver.axes.writeAxis axis val with
  | none => simpa [write, HeadMcuDriver.write, written] using flagged packet
  | some axes =>
      simp only [write, HeadMcuDriver.write, written, HeadMcuDriver.setDirty, Option.isSome_some, if_true]
      by_cases same : packet = axis.packet
      · simp [same]
      · have others : (∃ other ∈ link.unsent ++ [axis], other.packet = packet) ↔
            ∃ other ∈ link.unsent, other.packet = packet := by
          simp [or_and_right, exists_or, Ne.symm same]
        rw [others, if_neg same]
        exact flagged packet

theorem flush_flagged (link : HeadLink Value) (serial : Serial) (flagged : link.Flagged) :
    (link.flush serial).1.Flagged := by
  intro packet
  have lowered := (HeadMcuDriver.flush_call_lowered link.driver serial).dirty packet
  have filtered : (∃ axis ∈ (link.flush serial).1.unsent, axis.packet = packet) ↔
      (∃ axis ∈ link.unsent, axis.packet = packet) ∧
        packet.packId ∉ (link.driver.flushCall serial).1.sentSince link.driver := by
    simp only [flush, List.mem_filter, decide_eq_true_eq]
    apply Iff.intro
    · intro ⟨axis, ⟨member, kept⟩, same⟩
      exact ⟨⟨axis, member, same⟩, same ▸ kept⟩
    · intro ⟨⟨axis, member, same⟩, kept⟩
      exact ⟨axis, ⟨member, same ▸ kept⟩, same⟩
  rw [filtered, ← flagged packet]
  show (link.driver.flushCall serial).1.dirty packet = true ↔ _
  rw [lowered]
  simp

theorem begin_flagged (link : HeadLink Value) (handshake : Handshake) (serial : Serial) (flagged : link.Flagged) :
    (link.begin_ handshake serial).1.Flagged := by
  simp only [begin_]
  split
  · exact flagged
  · cases handshake with
    | acked =>
        simp only
        split
        · exact flush_flagged link serial flagged
        · exact flush_flagged link serial flagged
    | _ => exact flagged

omit [PyNumber Value] in
theorem deinit_flagged (link : HeadLink Value) (closes : Bool) (flagged : link.Flagged) :
    (link.deinit closes).1.Flagged := by
  simp only [deinit]
  split
  · split <;> exact flagged
  · exact flagged

theorem step_flagged (link after : HeadLink Value) (call : HeadCall Value) (flagged : link.Flagged)
    (moved : link.step call = some after) : after.Flagged := by
  cases call with
  | write axis val =>
      cases moved
      exact write_flagged link axis val flagged
  | flush serial =>
      cases moved
      exact flush_flagged link serial flagged
  | begin_ handshake serial =>
      cases moved
      exact begin_flagged link handshake serial flagged
  | deinit closes =>
      cases moved
      exact deinit_flagged link closes flagged

theorem reached_flagged (link : HeadLink Value) (reached : Reached headLink anyAction link) : link.Flagged := by
  refine reached_invariant headLink anyAction Flagged (fun initial started => ?_)
    (fun source call target flagged _ moved => step_flagged source target call flagged moved) link reached
  subst started
  simp [Flagged, init, HeadMcuDriver.init]

end Runs

theorem unsent_sends (link : HeadLink ℚ) (flagged : link.Flagged) (serial : Serial) :
    (link.flush serial).2 = .returned true ↔ link.unsent ≠ [] ∧ ∀ axis ∈ link.unsent,
      (encode axis.packet link.driver.axes).isSome = true ∧ serial.sends axis.packet = .success := by
  show (link.driver.flushCall serial).2 = .returned true ↔ _
  rw [HeadMcuDriver.flush_returns_iff]
  apply and_congr
  · apply Iff.intro
    · intro ⟨packet, dirty⟩ none
      obtain ⟨axis, member, _⟩ := (flagged packet).mp dirty
      rw [none] at member
      cases member
    · intro some
      obtain ⟨axis, member⟩ := List.exists_mem_of_ne_nil _ some
      exact ⟨axis.packet, (flagged axis.packet).mpr ⟨axis, member, rfl⟩⟩
  · apply Iff.intro
    · intro sends axis member
      exact sends axis.packet ((flagged axis.packet).mpr ⟨axis, member, rfl⟩)
    · intro sends packet dirty
      obtain ⟨axis, member, rfl⟩ := (flagged packet).mp dirty
      exact sends axis member

-- In every run of calls begin() succeeds on a device that answers just when an
-- axis is unsent and its packets are packed and sent: on a new driver it fails
-- until something is written.
theorem begin_succeeds_iff (link : HeadLink ℚ) (reached : Reached headLink anyAction link) (handshake : Handshake)
    (serial : Serial) :
    (link.begin_ handshake serial).2 = .returned true ↔
      link.initialized = true ∨ handshake = .acked ∧ link.unsent ≠ [] ∧ ∀ axis ∈ link.unsent,
        (encode axis.packet link.driver.axes).isSome = true ∧ serial.sends axis.packet = .success := by
  have sends := unsent_sends link (reached_flagged link reached) serial
  cases ready : link.initialized with
  | true => simp [begin_, ready]
  | false =>
      cases handshake with
      | acked =>
          simp only [begin_, ready, Bool.false_eq_true, if_false, false_or, true_and]
          rw [← sends]
          split
          · rename_i returned
            simp [returned]
          · rfl
      | _ => simp [begin_, ready]

def sendsAll : Serial := ⟨fun _ => .success, fun _ => []⟩

theorem begin_succeeds_iff_written : (((init : HeadLink ℚ).write .EYE_L 10).begin_ .acked sendsAll).2 = .returned true := by
  have reached : Reached headLink anyAction ((init : HeadLink ℚ).write .EYE_L 10) :=
    ⟨init, rfl, .single ⟨.write .EYE_L 10, trivial, rfl⟩⟩
  refine (begin_succeeds_iff _ reached .acked sendsAll).mpr (.inr ⟨rfl, ?_, ?_⟩)
  · decide +kernel
  · decide +kernel

end HeadLink

end Animacharacter.Mcudrivers
