import Animacharacter.HardwareMng.DatabusDelivery

set_option autoImplicit false

namespace Animacharacter.HardwareMng

open StepSystem

namespace Databus

variable {Value MsgType : Type}

structure Unchanged (before after : Databus Value MsgType) : Prop where
  topics : ∀ topicName, after.topics.get topicName = before.topics.get topicName
  owned : after.writerTopics = before.writerTopics

def OwnedKnown (bus : Databus Value MsgType) : Prop :=
  ∀ topicName ∈ bus.writerTopics, ∃ topic, bus.topics.get topicName = some topic

-- A call that passes every check of `createWriter` but the last one.
def SecondWriter (isInstance : Value → MsgType → Bool) (bus : Databus Value MsgType) (topicName : String)
    (msgType : MsgType) (initial : Value) : Prop :=
  isInstance initial msgType = true ∧ bus.finalized = false ∧ topicName ∈ bus.writerTopics ∧
    ∃ topic, bus.topics.get topicName = some topic ∧ topic.msgType = msgType

theorem write_changes (bus : Databus Value MsgType) (topic : DatabusTopic Value MsgType) (topicName : String)
    (msgType : MsgType) (value : Value) (found : bus.topics.get topicName = some topic) :
    ¬ Unchanged bus (bus.write ⟨msgType, topicName⟩ value) := by
  intro unchanged
  have same := unchanged.topics topicName
  rw [get_write, if_pos rfl, found] at same
  have counted : topic.seqnum + 1 = topic.seqnum := congrArg (fun state => (state.map DatabusTopic.seqnum).getD 0) same
  omega

theorem write_known (bus : Databus Value MsgType) (writer : DataWriter MsgType) (value : Value)
    (known : OwnedKnown bus) : OwnedKnown (bus.write writer value) := by
  intro topicName owned
  rw [(write_owned bus writer value).1] at owned
  obtain ⟨topic, found⟩ := known topicName owned
  rw [get_write, found]
  split
  · exact ⟨topic.setVal value, rfl⟩
  · exact ⟨topic, rfl⟩

variable [DecidableEq MsgType] [ToString MsgType] (isInstance : Value → MsgType → Bool)

theorem require_topic_raised (bus required : Databus Value MsgType) (topicName : String) (msgType : MsgType)
    (raised : DatabusRaised) (result : bus.requireTopic topicName msgType = (required, .error raised)) :
    required = bus ∧ ∀ topic, bus.topics.get topicName = some topic → topic.msgType ≠ msgType := by
  simp only [requireTopic] at result
  split at result
  · cases result
  · rename_i topic found
    split at result
    · rename_i mismatch
      cases result
      refine ⟨rfl, fun other entry => ?_⟩
      rw [found] at entry
      cases entry
      exact mismatch
    · cases result

theorem create_reader_raised (bus after : Databus Value MsgType) (topicName : String) (msgType : MsgType)
    (raised : DatabusRaised) (result : bus.createReader topicName msgType = (after, .error raised)) : after = bus := by
  simp only [createReader] at result
  split at result
  · cases result
    rfl
  · split at result
    · rename_i requires
      cases result
      exact (require_topic_raised bus _ topicName msgType _ requires).1
    · cases result

-- Only a call that gets as far as registering its writer has touched the bus.
theorem create_writer_raised (bus after : Databus Value MsgType) (topicName : String) (msgType : MsgType)
    (initial : Value) (raised : DatabusRaised) (known : OwnedKnown bus)
    (result : bus.createWriter isInstance topicName msgType initial = (after, .error raised)) :
    SecondWriter isInstance bus topicName msgType initial ∧ after = bus.write ⟨msgType, topicName⟩ initial ∨
      ¬ SecondWriter isInstance bus topicName msgType initial ∧ after = bus := by
  simp only [createWriter] at result
  split at result
  · rename_i mistyped
    cases result
    exact .inr ⟨fun second => absurd (second.1.symm.trans mistyped) (by decide), rfl⟩
  · rename_i typed
    split at result
    · rename_i refused locked
      cases result
      refine .inr ⟨fun second => ?_, rfl⟩
      rw [requireUnfinalized, second.2.1] at locked
      cases locked
    · rename_i unlocked
      split at result
      · rename_i requires
        cases result
        obtain ⟨same, mismatch⟩ := require_topic_raised bus _ topicName msgType _ requires
        refine .inr ⟨fun second => ?_, same⟩
        obtain ⟨topic, found, matching⟩ := second.2.2.2
        exact mismatch topic found matching
      · rename_i required topic requires
        obtain ⟨_, _, owned, _⟩ := require_topic_ok bus required topicName msgType topic requires
        split at result
        · rename_i refused registers
          cases result
          simp only [registerWriter] at registers
          split at registers
          · rename_i taken
            rw [(write_owned required ⟨msgType, topicName⟩ initial).1, owned] at taken
            obtain ⟨old, found⟩ := known topicName taken
            simp only [requireTopic, found] at requires
            split at requires
            · cases requires
            · rename_i matching
              cases requires
              exact .inl ⟨⟨by simpa using typed, require_unfinalized_ok bus unlocked, taken, topic, found,
                not_not.mp matching⟩, rfl⟩
          · cases registers
        · cases result

end Databus

namespace BusRun

variable {Value MsgType : Type}

theorem grown_known (run next : BusRun Value MsgType) (known : run.bus.OwnedKnown) (grown : Grown run next) :
    next.bus.OwnedKnown := by
  cases grown with
  | writer topicName msgType initial topic _ _ _ topics owned _ _ _ _ =>
      intro name member
      rw [topics]
      split
      · exact ⟨topic.setVal initial, rfl⟩
      · rename_i other
        rw [owned, Finset.mem_insert] at member
        exact known name (member.resolve_left (Ne.symm other))
  | reader topicName msgType topic _ _ topics owned _ _ _ _ =>
      intro name member
      rw [topics]
      split
      · exact ⟨topic, rfl⟩
      · exact known name (owned ▸ member)
  | finalized _ after =>
      rw [after]
      exact known
  | wrote index writer value _ after =>
      rw [after]
      exact Databus.write_known run.bus writer value known
  | observed index reader _ after =>
      rw [after]
      exact known

variable [DecidableEq MsgType] [ToString MsgType] (isInstance : Value → MsgType → Bool)

def secondWriter (run : BusRun Value MsgType) : BusAction Value MsgType → Prop
  | .createWriter topicName topicMsgType initial => run.bus.SecondWriter isInstance topicName topicMsgType initial
  | .createReader _ _ | .finalize | .write _ _ | .read _ => False

theorem raised_step (run next : BusRun Value MsgType) (action : BusAction Value MsgType)
    (known : run.bus.OwnedKnown) (moved : run.step isInstance action = some next)
    (raised : ¬ run.succeeds isInstance action) :
    (∃ topicName msgType initial, action = .createWriter topicName msgType initial ∧
      run.bus.SecondWriter isInstance topicName msgType initial ∧
      next.bus = run.bus.write ⟨msgType, topicName⟩ initial) ∨
    ¬ run.secondWriter isInstance action ∧ next.bus = run.bus := by
  cases action with
  | createWriter topicName msgType initial =>
      simp only [step] at moved
      split at moved
      · rename_i bus writer created
        simp only [succeeds, created] at raised
        exact absurd rfl raised
      · rename_i bus refused created
        cases moved
        rcases Databus.create_writer_raised isInstance run.bus bus topicName msgType initial refused known created with
          ⟨second, after⟩ | ⟨first, after⟩
        · exact .inl ⟨topicName, msgType, initial, rfl, second, after⟩
        · exact .inr ⟨first, after⟩
  | createReader topicName msgType =>
      simp only [step] at moved
      split at moved
      · rename_i bus reader created
        simp only [succeeds, created] at raised
        exact absurd rfl raised
      · rename_i bus refused created
        cases moved
        exact .inr ⟨id, Databus.create_reader_raised run.bus bus topicName msgType refused created⟩
  | finalize =>
      simp only [step] at moved
      split at moved
      · rename_i bus done
        simp only [succeeds, done] at raised
        exact absurd rfl raised
      · cases moved
        exact .inr ⟨id, rfl⟩
  | write index value => exact absurd trivial raised
  | read index => exact absurd trivial raised

theorem step_known (run next : BusRun Value MsgType) (action : BusAction Value MsgType)
    (known : run.bus.OwnedKnown) (moved : run.step isInstance action = some next) : next.bus.OwnedKnown := by
  by_cases succeeded : run.succeeds isInstance action
  · exact grown_known run next known (step_grown isInstance run next action succeeded moved)
  · rcases raised_step isInstance run next action known moved succeeded with ⟨_, _, _, _, _, after⟩ | ⟨_, after⟩
    · rw [after]
      exact Databus.write_known run.bus _ _ known
    · rw [after]
      exact known

theorem reached_known (run : BusRun Value MsgType) (reached : Reached (databus isInstance) anyAction run) :
    run.bus.OwnedKnown := by
  apply reached_invariant (databus isInstance) anyAction (fun run => run.bus.OwnedKnown) ?_ ?_ run reached
  · intro initial started topicName owned
    rw [started.1] at owned
    exact absurd owned (Finset.notMem_empty topicName)
  · intro source action target known _ moved
    exact step_known isInstance source target action known moved

theorem raised_call_unchanged (run next : BusRun Value MsgType) (action : BusAction Value MsgType)
    (reached : Reached (databus isInstance) anyAction run) (moved : run.step isInstance action = some next)
    (raised : ¬ run.succeeds isInstance action) :
    run.bus.Unchanged next.bus ↔ ¬ run.secondWriter isInstance action := by
  rcases raised_step isInstance run next action (reached_known isInstance run reached) moved raised with
    ⟨topicName, msgType, initial, rfl, second, after⟩ | ⟨first, after⟩
  · apply iff_of_false
    · obtain ⟨topic, found, _⟩ := second.2.2.2
      rw [after]
      exact Databus.write_changes run.bus topic topicName msgType initial found
    · exact not_not.mpr second
  · rw [after]
    exact iff_of_true ⟨fun _ => rfl, rfl⟩ first

def oneWriter : List (BusAction Nat String) := [.createWriter "topic" "int" 0]

theorem raised_call_unchanged_str_reader :
    ∃ run next : BusRun Nat String, run.step isInt (.createReader "topic" "str") = some next ∧
      ¬ run.succeeds isInt (.createReader "topic" "str") ∧ run.bus.Unchanged next.bus := by
  obtain ⟨run, reached, moves, raises⟩ := replay_exists (databus isInt) anyAction oneWriter
    ⟨Databus.init, [], [], []⟩
    (fun run : BusRun Nat String => (run.step isInt (.createReader "topic" "str")).isSome = true ∧
      ¬ run.succeeds isInt (.createReader "topic" "str"))
    ⟨rfl, rfl, rfl, rfl⟩ (by decide +kernel)
  obtain ⟨next, moved⟩ := Option.isSome_iff_exists.mp moves
  exact ⟨run, next, moved, raises, (raised_call_unchanged isInt run next _ reached moved raises).mpr id⟩

-- The second registration of the single writer test, with the value it leaves.
theorem second_writer_changes :
    ∃ run next : BusRun Nat String, Reached (databus isInt) anyAction run ∧
      run.step isInt (.createWriter "topic" "int" 1) = some next ∧
      ¬ run.succeeds isInt (.createWriter "topic" "int" 1) ∧
      (run.bus.topics.get "topic").map DatabusTopic.state = some (some 0, 1) ∧
      (next.bus.topics.get "topic").map DatabusTopic.state = some (some 1, 2) ∧ ¬ run.bus.Unchanged next.bus := by
  obtain ⟨run, reached, moves, raises, held, after⟩ := replay_exists (databus isInt) anyAction oneWriter
    ⟨Databus.init, [], [], []⟩
    (fun run : BusRun Nat String => (run.step isInt (.createWriter "topic" "int" 1)).isSome = true ∧
      ¬ run.succeeds isInt (.createWriter "topic" "int" 1) ∧
      (run.bus.topics.get "topic").map DatabusTopic.state = some (some 0, 1) ∧
      ∀ next ∈ run.step isInt (.createWriter "topic" "int" 1),
        (next.bus.topics.get "topic").map DatabusTopic.state = some (some 1, 2))
    ⟨rfl, rfl, rfl, rfl⟩ (by decide +kernel)
  obtain ⟨next, moved⟩ := Option.isSome_iff_exists.mp moves
  refine ⟨run, next, reached, moved, raises, held, after next moved, fun unchanged => ?_⟩
  have same := after next moved
  rw [unchanged.topics "topic", held] at same
  cases same

end BusRun

end Animacharacter.HardwareMng
