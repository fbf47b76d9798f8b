import Mathlib.Data.List.Basic
import Animacharacter.Library.StepSystem

set_option autoImplicit false

-- Topics with readers: what is published on a topic reaches every reader that it
-- had at the time, in order. A reader is a cursor into the history of its topic.
namespace BroadcastLog

open StepSystem

variable {Topic Message : Type} [DecidableEq Topic]

structure Reader (Topic : Type) where
  topic : Topic
  first : Nat
  cursor : Nat

structure Log (Topic Message : Type) where
  history : List (Topic × Message)
  readers : List (Reader Topic)

inductive Action (Topic Message : Type) where
  | subscribe (topic : Topic)
  | publish (topic : Topic) (message : Message)
  | read (index : Nat)
  | skip (index : Nat)

def onTopic (topic : Topic) (history : List (Topic × Message)) : List Message :=
  (history.filter fun entry => entry.1 = topic).map Prod.snd

namespace Log

def consumed (log : Log Topic Message) (reader : Reader Topic) : List Message :=
  ((onTopic reader.topic log.history).take reader.cursor).drop reader.first

def left (log : Log Topic Message) (reader : Reader Topic) : List Message :=
  (onTopic reader.topic log.history).drop reader.cursor

def moveTo (log : Log Topic Message) (index : Nat) (reader : Reader Topic) (cursor : Nat) : Log Topic Message :=
  { log with readers := log.readers.set index { reader with cursor } }

def step (log : Log Topic Message) : Action Topic Message → Option (Log Topic Message)
  | .subscribe topic =>
      let present := (onTopic topic log.history).length
      some { log with readers := log.readers ++ [⟨topic, present, present⟩] }
  | .publish topic message => some { log with history := log.history ++ [(topic, message)] }
  | .read index =>
      (log.readers[index]?).bind fun reader =>
        if reader.cursor < (onTopic reader.topic log.history).length then
          some (log.moveTo index reader (reader.cursor + 1))
        else none
  | .skip index =>
      (log.readers[index]?).map fun reader => log.moveTo index reader (onTopic reader.topic log.history).length

end Log

def broadcastLog (Topic Message : Type) [DecidableEq Topic] : System (Log Topic Message) (Action Topic Message) where
  start log := log.history = [] ∧ log.readers = []
  step := Log.step

theorem on_topic_snoc (topic : Topic) (history : List (Topic × Message)) (entry : Topic × Message) :
    onTopic topic (history ++ [entry]) =
      onTopic topic history ++ if entry.1 = topic then [entry.2] else [] := by
  rw [onTopic, List.filter_append, List.map_append]
  congr 1
  by_cases same : entry.1 = topic
  · simp [same]
  · simp [same]

namespace Log

-- A reader stands between its first message and the end of its topic.
def Within (log : Log Topic Message) (reader : Reader Topic) : Prop :=
  reader.first ≤ reader.cursor ∧ reader.cursor ≤ (onTopic reader.topic log.history).length

def AllWithin (log : Log Topic Message) : Prop := ∀ reader ∈ log.readers, log.Within reader

-- What a reader has consumed and what is left to it is all that came since it
-- subscribed.
theorem consumed_left (log : Log Topic Message) (reader : Reader Topic) (within : log.Within reader) :
    log.consumed reader ++ log.left reader = (onTopic reader.topic log.history).drop reader.first := by
  have whole := List.take_append_drop reader.cursor (onTopic reader.topic log.history)
  calc log.consumed reader ++ log.left reader
      = ((onTopic reader.topic log.history).take reader.cursor ++ log.left reader).drop reader.first := by
        rw [consumed, List.drop_append_of_le_length]
        rw [List.length_take, Nat.min_eq_left within.2]
        exact within.1
    _ = (onTopic reader.topic log.history).drop reader.first := by rw [left, whole]

theorem read_consumes (log : Log Topic Message) (reader : Reader Topic) (message : Message) (rest : List Message)
    (within : log.Within reader) (head : log.left reader = message :: rest) :
    reader.cursor < (onTopic reader.topic log.history).length ∧
      log.consumed { reader with cursor := reader.cursor + 1 } = log.consumed reader ++ [message] ∧
      log.left { reader with cursor := reader.cursor + 1 } = rest := by
  rw [left] at head
  have inside : reader.cursor < (onTopic reader.topic log.history).length := by
    by_contra outside
    rw [List.drop_eq_nil_of_le (Nat.not_lt.mp outside)] at head
    cases head
  rw [List.drop_eq_getElem_cons inside] at head
  obtain ⟨first, others⟩ := List.cons.inj head
  refine ⟨inside, ?_, others⟩
  have taken : (onTopic reader.topic log.history).take (reader.cursor + 1) =
      (onTopic reader.topic log.history).take reader.cursor ++ [message] := by
    rw [List.take_succ_eq_append_getElem inside, first]
  rw [consumed, consumed, taken, List.drop_append_of_le_length]
  rw [List.length_take, Nat.min_eq_left within.2]
  exact within.1

theorem skip_consumes (log : Log Topic Message) (reader : Reader Topic) (within : log.Within reader) :
    log.consumed { reader with cursor := (onTopic reader.topic log.history).length } =
        log.consumed reader ++ log.left reader ∧
      log.left { reader with cursor := (onTopic reader.topic log.history).length } = [] := by
  rw [consumed_left log reader within]
  refine ⟨?_, List.drop_length⟩
  rw [consumed, List.take_length]

theorem publish_consumes (log : Log Topic Message) (topic : Topic) (message : Message) (reader : Reader Topic)
    (within : log.Within reader) :
    { log with history := log.history ++ [(topic, message)] }.consumed reader = log.consumed reader ∧
      { log with history := log.history ++ [(topic, message)] }.left reader =
        log.left reader ++ if topic = reader.topic then [message] else [] := by
  rw [consumed, left, on_topic_snoc, consumed, left]
  rw [List.take_append_of_le_length within.2, List.drop_append_of_le_length within.2]
  exact ⟨rfl, rfl⟩

theorem within_grows (log : Log Topic Message) (topic : Topic) (message : Message) (reader : Reader Topic)
    (within : log.Within reader) : { log with history := log.history ++ [(topic, message)] }.Within reader := by
  refine ⟨within.1, Nat.le_trans within.2 ?_⟩
  rw [on_topic_snoc, List.length_append]
  exact Nat.le_add_right _ _

theorem step_within (log next : Log Topic Message) (action : Action Topic Message) (within : log.AllWithin)
    (moved : log.step action = some next) : next.AllWithin := by
  cases action with
  | subscribe topic =>
      cases moved
      intro reader member
      rcases List.mem_append.mp member with old | new
      · exact within reader old
      · rw [List.mem_singleton.mp new]
        exact ⟨Nat.le_refl _, Nat.le_refl _⟩
  | publish topic message =>
      cases moved
      exact fun reader member => within_grows log topic message reader (within reader member)
  | read index =>
      obtain ⟨reader, present, moved⟩ := Option.bind_eq_some_iff.mp moved
      split at moved
      · rename_i inside
        cases moved
        have before := within reader (List.mem_of_getElem? present)
        exact set_all log.Within log.readers index _ within ⟨Nat.le_trans before.1 (Nat.le_succ _), inside⟩
      · cases moved
  | skip index =>
      obtain ⟨reader, present, rfl⟩ := Option.map_eq_some_iff.mp moved
      have before := within reader (List.mem_of_getElem? present)
      exact set_all log.Within log.readers index _ within ⟨Nat.le_trans before.1 before.2, Nat.le_refl _⟩

theorem reached_within (log : Log Topic Message) (reached : Reached (broadcastLog Topic Message) anyAction log) :
    log.AllWithin := by
  refine reached_invariant (broadcastLog Topic Message) anyAction AllWithin (fun initial started => ?_)
    (fun source action target within _ moved => step_within source target action within moved) log reached
  intro reader member
  rw [started.2] at member
  cases member

end Log

end BroadcastLog
