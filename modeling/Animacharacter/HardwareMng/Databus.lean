import Mathlib.Data.Finset.Basic
import Animacharacter.Library.Dict
import Animacharacter.Library.StepSystem

set_option autoImplicit false

namespace Animacharacter.HardwareMng

open StepSystem

inductive DatabusRaised where
  | DatabusError (text : String)
  | DatabusTopologyError (text : String)
deriving DecidableEq

-- The value and its sequence number are one tuple, replaced as a whole; a
-- `none` is the placeholder of a topic that nobody has written.
structure DatabusTopic (Value MsgType : Type) where
  name : String
  state : Option Value × Nat
  msgType : MsgType

structure DataWriter (MsgType : Type) where
  msgType : MsgType
  targetTopic : String

structure DataReader (MsgType : Type) where
  msgType : MsgType
  sourceTopic : String
  lastSeq : Nat

-- Topics are never dropped, so endpoints and the set of owned topics refer to
-- them by name.
structure Databus (Value MsgType : Type) where
  topics : Dict String (DatabusTopic Value MsgType)
  writerTopics : Finset String
  finalized : Bool

namespace DatabusTopic

variable {Value MsgType : Type}

def setVal (topic : DatabusTopic Value MsgType) (newVal : Value) : DatabusTopic Value MsgType :=
  { topic with state := (some newVal, topic.state.2 + 1) }

def seqnum (topic : DatabusTopic Value MsgType) : Nat := topic.state.2

end DatabusTopic

namespace Databus

variable {Value MsgType : Type}

def init : Databus Value MsgType := ⟨Dict.empty, ∅, false⟩

def write (bus : Databus Value MsgType) (writer : DataWriter MsgType) (value : Value) : Databus Value MsgType :=
  match bus.topics.get writer.targetTopic with
  | none => bus
  | some topic => { bus with topics := bus.topics.set writer.targetTopic (topic.setVal value) }

def hasUpdate (bus : Databus Value MsgType) (reader : DataReader MsgType) : Bool :=
  (bus.topics.get reader.sourceTopic).any fun topic => reader.lastSeq < topic.seqnum

def observe (bus : Databus Value MsgType) (reader : DataReader MsgType) : Option Value × Nat :=
  ((bus.topics.get reader.sourceTopic).map DatabusTopic.state).getD (none, 0)

def read (bus : Databus Value MsgType) (reader : DataReader MsgType) : DataReader MsgType × Option Value :=
  ({ reader with lastSeq := (bus.observe reader).2 }, (bus.observe reader).1)

def assertTopicsHaveWriters (bus : Databus Value MsgType) : Except DatabusRaised Unit :=
  match bus.topics.keys.find? fun name => name ∉ bus.writerTopics with
  | some name => .error (.DatabusTopologyError s!"Topic \"{name}\" has no writer")
  | none => .ok ()

def finalize (bus : Databus Value MsgType) : Except DatabusRaised (Databus Value MsgType) := do
  bus.assertTopicsHaveWriters
  return { bus with finalized := true }

def requireUnfinalized (bus : Databus Value MsgType) : Except DatabusRaised Unit :=
  if bus.finalized then .error (.DatabusError "Operation unsupported after bus finaliziation occured") else .ok ()

variable [DecidableEq MsgType] [ToString MsgType] (isInstance : Value → MsgType → Bool)

def requireTopic (bus : Databus Value MsgType) (name : String) (msgType : MsgType) :
    Databus Value MsgType × Except DatabusRaised (DatabusTopic Value MsgType) :=
  match bus.topics.get name with
  | none =>
      let topic : DatabusTopic Value MsgType := ⟨name, (none, 0), msgType⟩
      ({ bus with topics := bus.topics.set name topic }, .ok topic)
  | some topic =>
      if topic.msgType ≠ msgType then
        (bus, .error (.DatabusTopologyError
          s!"Topic '{topic.name}' message type mismatch: got \"{msgType}\", but topic is of type is \"{topic.msgType}\""))
      else (bus, .ok topic)

def registerWriter (bus : Databus Value MsgType) (writer : DataWriter MsgType) :
    Except DatabusRaised (Databus Value MsgType) :=
  if writer.targetTopic ∈ bus.writerTopics then
    .error (.DatabusTopologyError s!"Topic \"{writer.targetTopic}\" can only have one writer")
  else .ok { bus with writerTopics := insert writer.targetTopic bus.writerTopics }

-- The writer's constructor publishes its initial value before the writer is
-- registered; a registration that fails does not take the value back.
def createWriter (bus : Databus Value MsgType) (topicName : String) (topicMsgType : MsgType) (initial : Value) :
    Databus Value MsgType × Except DatabusRaised (DataWriter MsgType) :=
  if isInstance initial topicMsgType = false then
    (bus, .error (.DatabusError
      s!"Initial value provided to writer of '{topicName}' is not of the declared type: {topicMsgType}"))
  else
    match bus.requireUnfinalized with
    | .error raised => (bus, .error raised)
    | .ok () =>
        match bus.requireTopic topicName topicMsgType with
        | (required, .error raised) => (required, .error raised)
        | (required, .ok _) =>
            let writer : DataWriter MsgType := ⟨topicMsgType, topicName⟩
            let written := required.write writer initial
            match written.registerWriter writer with
            | .error raised => (written, .error raised)
            | .ok registered => (registered, .ok writer)

def createReader (bus : Databus Value MsgType) (topicName : String) (topicMsgType : MsgType) :
    Databus Value MsgType × Except DatabusRaised (DataReader MsgType) :=
  match bus.requireUnfinalized with
  | .error raised => (bus, .error raised)
  | .ok () =>
      match bus.requireTopic topicName topicMsgType with
      | (required, .error raised) => (required, .error raised)
      | (required, .ok _) => (required, .ok ⟨topicMsgType, topicName, 0⟩)

end Databus

inductive BusEvent (Value : Type) where
  | wrote (writer : Nat) (value : Value)
  | observed (reader : Nat) (value : Option Value) (seqnum : Nat)

-- A bus with the endpoints it has returned, and what they have done on it, the
-- newest event first.
structure BusRun (Value MsgType : Type) where
  bus : Databus Value MsgType
  writers : List (DataWriter MsgType)
  readers : List (DataReader MsgType)
  trace : List (BusEvent Value)

inductive BusAction (Value MsgType : Type) where
  | createWriter (topicName : String) (topicMsgType : MsgType) (initial : Value)
  | createReader (topicName : String) (topicMsgType : MsgType)
  | finalize
  | write (writer : Nat) (value : Value)
  | read (reader : Nat)

namespace BusRun

variable {Value MsgType : Type} [DecidableEq MsgType] [ToString MsgType] (isInstance : Value → MsgType → Bool)

def step (run : BusRun Value MsgType) : BusAction Value MsgType → Option (BusRun Value MsgType)
  | .createWriter topicName topicMsgType initial =>
      match run.bus.createWriter isInstance topicName topicMsgType initial with
      | (bus, .ok writer) => some { run with
          bus
          writers := run.writers ++ [writer]
          trace := .wrote run.writers.length initial :: run.trace }
      | (bus, .error _) => some { run with bus }
  | .createReader topicName topicMsgType =>
      match run.bus.createReader topicName topicMsgType with
      | (bus, .ok reader) => some { run with bus, readers := run.readers ++ [reader] }
      | (bus, .error _) => some { run with bus }
  | .finalize =>
      match run.bus.finalize with
      | .ok bus => some { run with bus }
      | .error _ => some run
  | .write index value =>
      run.writers[index]?.map fun writer =>
        { run with bus := run.bus.write writer value, trace := .wrote index value :: run.trace }
  | .read index =>
      run.readers[index]?.map fun reader => { run with
        readers := run.readers.set index (run.bus.read reader).1
        trace := .observed index (run.bus.read reader).2 (run.bus.observe reader).2 :: run.trace }

def succeeds (run : BusRun Value MsgType) : BusAction Value MsgType → Prop
  | .createWriter topicName topicMsgType initial =>
      (run.bus.createWriter isInstance topicName topicMsgType initial).2.isOk = true
  | .createReader topicName topicMsgType => (run.bus.createReader topicName topicMsgType).2.isOk = true
  | .finalize => run.bus.finalize.isOk = true
  | .write _ _ | .read _ => True

instance (run : BusRun Value MsgType) : (action : BusAction Value MsgType) → Decidable (run.succeeds isInstance action)
  | .createWriter _ _ _ | .createReader _ _ | .finalize => inferInstanceAs (Decidable (_ = _))
  | .write _ _ | .read _ => inferInstanceAs (Decidable True)

end BusRun

def databus {Value MsgType : Type} [DecidableEq MsgType] [ToString MsgType] (isInstance : Value → MsgType → Bool) :
    System (BusRun Value MsgType) (BusAction Value MsgType) where
  start run := run.bus = Databus.init ∧ run.writers = [] ∧ run.readers = [] ∧ run.trace = []
  step run action := run.step isInstance action

namespace Databus

variable {Value MsgType : Type}

theorem require_unfinalized_ok (bus : Databus Value MsgType) (unlocked : bus.requireUnfinalized = .ok ()) :
    bus.finalized = false := by
  simp only [requireUnfinalized] at unlocked
  split at unlocked
  · cases unlocked
  · rename_i still
    simpa using still

theorem get_write (bus : Databus Value MsgType) (writer : DataWriter MsgType) (value : Value) (other : String) :
    (bus.write writer value).topics.get other =
      if writer.targetTopic = other then (bus.topics.get other).map (·.setVal value) else bus.topics.get other := by
  simp only [write]
  split
  · rename_i unknown
    split
    · rename_i same
      rw [← same, unknown]
      rfl
    · rfl
  · rename_i topic found
    simp only [Dict.get_set]
    split
    · rename_i same
      rw [← same, found]
      rfl
    · rfl

@[simp] theorem write_owned (bus : Databus Value MsgType) (writer : DataWriter MsgType) (value : Value) :
    (bus.write writer value).writerTopics = bus.writerTopics ∧ (bus.write writer value).finalized = bus.finalized := by
  simp only [write]
  split <;> exact ⟨rfl, rfl⟩

section Topology

variable [DecidableEq MsgType] [ToString MsgType] (isInstance : Value → MsgType → Bool)

theorem require_topic_ok (bus required : Databus Value MsgType) (topicName : String) (msgType : MsgType)
    (topic : DatabusTopic Value MsgType) (result : bus.requireTopic topicName msgType = (required, .ok topic)) :
    (bus.topics.get topicName = some topic ∨ bus.topics.get topicName = none ∧ topic.state = (none, 0)) ∧
      (∀ other, required.topics.get other = if topicName = other then some topic else bus.topics.get other) ∧
      required.writerTopics = bus.writerTopics ∧ required.finalized = bus.finalized := by
  simp only [requireTopic] at result
  split at result
  · rename_i unknown
    cases result
    exact ⟨.inr ⟨unknown, rfl⟩, fun other => by simp, rfl, rfl⟩
  · rename_i found
    split at result
    · cases result
    · cases result
      refine ⟨.inl found, fun other => ?_, rfl, rfl⟩
      split
      · rename_i same
        rw [← same, found]
      · rfl

end Topology

theorem finalize_ok (bus finalized : Databus Value MsgType) (done : bus.finalize = .ok finalized) :
    (∀ topicName ∈ bus.topics.keys, topicName ∈ bus.writerTopics) ∧ finalized = { bus with finalized := true } := by
  simp only [finalize, assertTopicsHaveWriters] at done
  split at done
  · cases done
  · rename_i none
    cases done
    refine ⟨fun topicName member => ?_, rfl⟩
    simpa using List.find?_eq_none.mp none topicName member

end Databus

namespace BusRun

section Steps

variable {Value MsgType : Type}

-- What the calls that succeed and the endpoints' operations do. A topic that is
-- asked for the first time holds the placeholder.
inductive Grown (run : BusRun Value MsgType) (next : BusRun Value MsgType) : Prop where
  | writer (topicName : String) (msgType : MsgType) (initial : Value) (topic : DatabusTopic Value MsgType)
      (unlocked : run.bus.finalized = false) (free : topicName ∉ run.bus.writerTopics)
      (prior : run.bus.topics.get topicName = some topic ∨ topic.state = (none, 0))
      (topics : ∀ other, next.bus.topics.get other =
        if topicName = other then some (topic.setVal initial) else run.bus.topics.get other)
      (owned : next.bus.writerTopics = insert topicName run.bus.writerTopics)
      (unfinalized : next.bus.finalized = false) (writers : next.writers = run.writers ++ [⟨msgType, topicName⟩])
      (readers : next.readers = run.readers) (trace : next.trace = .wrote run.writers.length initial :: run.trace)
  | reader (topicName : String) (msgType : MsgType) (topic : DatabusTopic Value MsgType)
      (unlocked : run.bus.finalized = false)
      (prior : run.bus.topics.get topicName = some topic ∨
        run.bus.topics.get topicName = none ∧ topic.state = (none, 0))
      (topics : ∀ other, next.bus.topics.get other =
        if topicName = other then some topic else run.bus.topics.get other)
      (owned : next.bus.writerTopics = run.bus.writerTopics) (unfinalized : next.bus.finalized = false)
      (writers : next.writers = run.writers) (readers : next.readers = run.readers ++ [⟨msgType, topicName, 0⟩])
      (trace : next.trace = run.trace)
  | finalized (complete : ∀ topicName ∈ run.bus.topics.keys, topicName ∈ run.bus.writerTopics)
      (after : next = { run with bus := { run.bus with finalized := true } })
  | wrote (index : Nat) (writer : DataWriter MsgType) (value : Value) (found : run.writers[index]? = some writer)
      (after : next = { run with bus := run.bus.write writer value, trace := .wrote index value :: run.trace })
  | observed (index : Nat) (reader : DataReader MsgType) (found : run.readers[index]? = some reader)
      (after : next = { run with
        readers := run.readers.set index (run.bus.read reader).1
        trace := .observed index (run.bus.read reader).2 (run.bus.observe reader).2 :: run.trace })

variable [DecidableEq MsgType] [ToString MsgType] (isInstance : Value → MsgType → Bool)

theorem writer_grown (run next : BusRun Value MsgType) (topicName : String) (msgType : MsgType) (initial : Value)
    (succeeds : run.succeeds isInstance (.createWriter topicName msgType initial))
    (moved : run.step isInstance (.createWriter topicName msgType initial) = some next) : Grown run next := by
  simp only [BusRun.succeeds] at succeeds
  simp only [step] at moved
  split at moved
  · rename_i bus writer created
    cases moved
    simp only [Databus.createWriter] at created
    split at created
    · cases created
    · split at created
      · cases created
      · rename_i unfinalized
        have unlocked := Databus.require_unfinalized_ok run.bus unfinalized
        split at created
        · cases created
        · rename_i required topic requires
          obtain ⟨prior, topics, owned, same⟩ := Databus.require_topic_ok run.bus required topicName msgType topic requires
          split at created
          · cases created
          · rename_i registered registers
            cases created
            simp only [Databus.registerWriter] at registers
            split at registers
            · cases registers
            · rename_i free
              cases registers
              obtain ⟨kept, unchanged⟩ := Databus.write_owned required ⟨msgType, topicName⟩ initial
              rw [kept, owned] at free
              refine .writer topicName msgType initial topic unlocked free (prior.imp id And.right) ?_ ?_ ?_ rfl rfl rfl
              · intro other
                simp only [Databus.get_write, topics]
                split <;> rfl
              · simp only [kept, owned]
              · simp only [unchanged, same, unlocked]
  · rename_i raised created
    rw [created] at succeeds
    cases succeeds

theorem reader_grown (run next : BusRun Value MsgType) (topicName : String) (msgType : MsgType)
    (succeeds : run.succeeds isInstance (.createReader topicName msgType))
    (moved : run.step isInstance (.createReader topicName msgType) = some next) : Grown run next := by
  simp only [BusRun.succeeds] at succeeds
  simp only [step] at moved
  split at moved
  · rename_i bus reader created
    cases moved
    simp only [Databus.createReader] at created
    split at created
    · cases created
    · rename_i unfinalized
      have unlocked := Databus.require_unfinalized_ok run.bus unfinalized
      split at created
      · cases created
      · rename_i required topic requires
        obtain ⟨prior, topics, owned, same⟩ := Databus.require_topic_ok run.bus required topicName msgType topic requires
        cases created
        exact .reader topicName msgType topic unlocked prior topics owned (same.trans unlocked) rfl rfl rfl
  · rename_i raised created
    rw [created] at succeeds
    cases succeeds

theorem step_grown (run next : BusRun Value MsgType) (action : BusAction Value MsgType)
    (succeeds : run.succeeds isInstance action) (moved : run.step isInstance action = some next) : Grown run next := by
  cases action with
  | createWriter topicName msgType initial => exact writer_grown isInstance run next topicName msgType initial succeeds moved
  | createReader topicName msgType => exact reader_grown isInstance run next topicName msgType succeeds moved
  | finalize =>
      simp only [step] at moved
      split at moved
      · rename_i bus done
        cases moved
        obtain ⟨complete, after⟩ := Databus.finalize_ok run.bus bus done
        exact .finalized complete (by rw [after])
      · rename_i raised done
        simp only [BusRun.succeeds, done] at succeeds
        cases succeeds
  | write index value =>
      simp only [step, Option.map_eq_some_iff] at moved
      obtain ⟨writer, found, rfl⟩ := moved
      exact .wrote index writer value found rfl
  | read index =>
      simp only [step, Option.map_eq_some_iff] at moved
      obtain ⟨reader, found, rfl⟩ := moved
      exact .observed index reader found rfl

end Steps

end BusRun

end Animacharacter.HardwareMng
