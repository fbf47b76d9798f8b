import Animacharacter.HardwareMng.Databus

set_option autoImplicit false

namespace Animacharacter.HardwareMng

open StepSystem

namespace BusRun

variable {Value MsgType : Type}

def lastWritten (writer : Nat) : List (BusEvent Value) → Option Value
  | [] => none
  | .wrote index value :: earlier => if index = writer then some value else lastWritten writer earlier
  | .observed _ _ _ :: earlier => lastWritten writer earlier

def writesOf (writer : Nat) : List (BusEvent Value) → Nat
  | [] => 0
  | .wrote index _ :: earlier => if index = writer then writesOf writer earlier + 1 else writesOf writer earlier
  | .observed _ _ _ :: earlier => writesOf writer earlier

def seen (reader : Nat) : List (BusEvent Value) → List Nat
  | [] => []
  | .wrote _ _ :: earlier => seen reader earlier
  | .observed index _ seqnum :: earlier => if index = reader then seqnum :: seen reader earlier else seen reader earlier

-- The reader has never read, or the writer has written since it last did.
def updatedSince (reader writer : Nat) : List (BusEvent Value) → Bool
  | [] => true
  | .wrote index _ :: earlier => index = writer || updatedSince reader writer earlier
  | .observed index _ _ :: earlier => index ≠ reader && updatedSince reader writer earlier

def Owns (run : BusRun Value MsgType) (writer : Nat) (topicName : String) : Prop :=
  (run.writers[writer]?).map DataWriter.targetTopic = some topicName

structure Delivers (run : BusRun Value MsgType) : Prop where
  single : ∀ topicName ∈ run.bus.topics.keys, ∃ writer, run.Owns writer topicName ∧
    ∀ other, run.Owns other topicName → other = writer
  latest : ∀ (index : Nat) (reader : DataReader MsgType), run.readers[index]? = some reader → ∃ writer, run.Owns writer reader.sourceTopic ∧
    (∃ value, lastWritten writer run.trace = some value ∧ (run.bus.read reader).2 = some value) ∧
    run.bus.hasUpdate reader = updatedSince index writer run.trace
  ordered : ∀ index, (seen index run.trace).Pairwise (· ≥ ·)

structure Sound (run : BusRun Value MsgType) : Prop where
  owned : ∀ topicName, topicName ∈ run.bus.writerTopics ↔ ∃ writer, run.Owns writer topicName
  alone : ∀ first second topicName, run.Owns first topicName → run.Owns second topicName → first = second
  fed : ∀ writer topicName, run.Owns writer topicName → ∃ topic, run.bus.topics.get topicName = some topic ∧
    topic.state = (lastWritten writer run.trace, writesOf writer run.trace) ∧ (lastWritten writer run.trace).isSome = true
  unfed : ∀ topicName topic, run.bus.topics.get topicName = some topic → topicName ∉ run.bus.writerTopics →
    topic.state = (none, 0)
  attached : ∀ (index : Nat) (reader : DataReader MsgType), run.readers[index]? = some reader → ∃ topic,
    run.bus.topics.get reader.sourceTopic = some topic ∧ reader.lastSeq ≤ topic.seqnum
  fresh : ∀ (index : Nat) (reader : DataReader MsgType), run.readers[index]? = some reader → ∀ writer, run.Owns writer reader.sourceTopic →
    (updatedSince index writer run.trace = true ↔ reader.lastSeq < writesOf writer run.trace)
  passed : ∀ (index : Nat) (reader : DataReader MsgType), run.readers[index]? = some reader →
    ∀ seqnum ∈ seen index run.trace, seqnum ≤ reader.lastSeq
  ordered : ∀ index, (seen index run.trace).Pairwise (· ≥ ·)
  unread : ∀ index, run.readers.length ≤ index → seen index run.trace = []
  unwritten : ∀ writer, run.writers.length ≤ writer → writesOf writer run.trace = 0
  complete : run.bus.finalized = true → ∀ topicName ∈ run.bus.topics.keys, topicName ∈ run.bus.writerTopics

@[simp] theorem last_written_wrote (writer index : Nat) (value : Value) (earlier : List (BusEvent Value)) :
    lastWritten writer (.wrote index value :: earlier) =
      if index = writer then some value else lastWritten writer earlier := rfl

@[simp] theorem last_written_observed (writer index seqnum : Nat) (value : Option Value)
    (earlier : List (BusEvent Value)) :
    lastWritten writer (.observed index value seqnum :: earlier) = lastWritten writer earlier := rfl

@[simp] theorem writes_of_wrote (writer index : Nat) (value : Value) (earlier : List (BusEvent Value)) :
    writesOf writer (.wrote index value :: earlier) =
      if index = writer then writesOf writer earlier + 1 else writesOf writer earlier := rfl

@[simp] theorem writes_of_observed (writer index seqnum : Nat) (value : Option Value) (earlier : List (BusEvent Value)) :
    writesOf writer (.observed index value seqnum :: earlier) = writesOf writer earlier := rfl

@[simp] theorem seen_wrote (reader index : Nat) (value : Value) (earlier : List (BusEvent Value)) :
    seen reader (.wrote index value :: earlier) = seen reader earlier := rfl

@[simp] theorem seen_observed (reader index seqnum : Nat) (value : Option Value) (earlier : List (BusEvent Value)) :
    seen reader (.observed index value seqnum :: earlier) =
      if index = reader then seqnum :: seen reader earlier else seen reader earlier := rfl

@[simp] theorem updated_since_wrote (reader writer index : Nat) (value : Value) (earlier : List (BusEvent Value)) :
    updatedSince reader writer (.wrote index value :: earlier) =
      (decide (index = writer) || updatedSince reader writer earlier) := rfl

@[simp] theorem updated_since_observed (reader writer index seqnum : Nat) (value : Option Value)
    (earlier : List (BusEvent Value)) :
    updatedSince reader writer (.observed index value seqnum :: earlier) =
      (decide (index ≠ reader) && updatedSince reader writer earlier) := rfl

theorem written_counts (writer : Nat) (trace : List (BusEvent Value)) (written : (lastWritten writer trace).isSome = true) :
    0 < writesOf writer trace := by
  induction trace with
  | nil => cases written
  | cons event earlier ih =>
      cases event with
      | wrote index value =>
          by_cases same : index = writer
          · simp [same]
          · simp only [last_written_wrote, writes_of_wrote, same, if_false] at written ⊢
            exact ih written
      | observed index value seqnum => exact ih written

theorem unread_updated (reader writer : Nat) (trace : List (BusEvent Value)) (unread : seen reader trace = []) :
    updatedSince reader writer trace = true := by
  induction trace with
  | nil => rfl
  | cons event earlier ih =>
      cases event with
      | wrote index value => simp only [updated_since_wrote, ih unread, Bool.or_true]
      | observed index value seqnum =>
          by_cases same : index = reader
          · simp [same] at unread
          · simp only [seen_observed, same, if_false] at unread
            simp only [updated_since_observed, same, ih unread, ne_eq, not_false_eq_true, decide_true, Bool.and_true]

theorem owns_known (run : BusRun Value MsgType) (writer : Nat) (topicName : String) (owns : run.Owns writer topicName) :
    writer < run.writers.length := by
  obtain ⟨found, entry, _⟩ := Option.map_eq_some_iff.mp owns
  exact (List.getElem?_eq_some_iff.mp entry).1

theorem owns_append (run next : BusRun Value MsgType) (msgType : MsgType) (topicName : String)
    (writers : next.writers = run.writers ++ [⟨msgType, topicName⟩]) (writer : Nat) (name : String) :
    next.Owns writer name ↔ run.Owns writer name ∨ writer = run.writers.length ∧ topicName = name := by
  simp only [Owns, writers, List.getElem?_append]
  by_cases old : writer < run.writers.length
  · have other : writer ≠ run.writers.length := Nat.ne_of_lt old
    simp only [if_pos old, other, false_and, or_false]
  · rw [if_neg old, List.getElem?_eq_none (Nat.le_of_not_lt old)]
    by_cases last : writer = run.writers.length
    · simp [last]
    · have beyond : writer - run.writers.length ≠ 0 := by omega
      simp [last, beyond]

theorem owns_one (run : BusRun Value MsgType) (writer : Nat) (first second : String) (owns : run.Owns writer first)
    (also : run.Owns writer second) : first = second :=
  Option.some.inj (owns.symm.trans also)

-- What a publication of `value` by `writer` on its topic preserves, be it the
-- writer's first one or a later one.
structure Published (run next : BusRun Value MsgType) (writer : Nat) (topicName : String) (value : Value) : Prop where
  owner : next.Owns writer topicName
  kept : ∀ other name, run.Owns other name → next.Owns other name
  known : ∀ other name, next.Owns other name → run.Owns other name ∨ other = writer ∧ topicName = name
  alone : ∀ other, next.Owns other topicName → other = writer
  topic : ∃ topic, next.bus.topics.get topicName = some topic ∧ topic.state = (some value, writesOf writer run.trace + 1)
  before : ∀ topic, run.bus.topics.get topicName = some topic → topic.seqnum = writesOf writer run.trace
  others : ∀ name, topicName ≠ name → next.bus.topics.get name = run.bus.topics.get name
  readers : next.readers = run.readers
  trace : next.trace = .wrote writer value :: run.trace

theorem published_other (run next : BusRun Value MsgType) (writer other : Nat) (topicName name : String) (value : Value)
    (published : Published run next writer topicName value) (distinct : topicName ≠ name) (owns : next.Owns other name) :
    writer ≠ other ∧ run.Owns other name := by
  have elsewhere : writer ≠ other := by
    rintro rfl
    exact distinct (owns_one next writer topicName name published.owner owns)
  rcases published.known other name owns with old | ⟨same, _⟩
  · exact ⟨elsewhere, old⟩
  · exact absurd same.symm elsewhere

theorem published_fed (run next : BusRun Value MsgType) (writer : Nat) (topicName : String) (value : Value)
    (inv : Sound run) (published : Published run next writer topicName value) (other : Nat) (name : String)
    (owns : next.Owns other name) : ∃ topic, next.bus.topics.get name = some topic ∧
      topic.state = (lastWritten other next.trace, writesOf other next.trace) ∧
      (lastWritten other next.trace).isSome = true := by
  rw [published.trace]
  by_cases same : topicName = name
  · subst same
    obtain ⟨topic, found, state⟩ := published.topic
    rw [published.alone other owns]
    exact ⟨topic, found, by simp [state], by simp⟩
  · obtain ⟨distinct, old⟩ := published_other run next writer other topicName name value published same owns
    obtain ⟨topic, found, state, written⟩ := inv.fed other name old
    refine ⟨topic, (published.others name same).trans found, ?_, ?_⟩
    · simp [distinct, state]
    · simpa [distinct] using written

theorem published_attached (run next : BusRun Value MsgType) (writer : Nat) (topicName : String) (value : Value)
    (inv : Sound run) (published : Published run next writer topicName value) (index : Nat) (reader : DataReader MsgType)
    (found : next.readers[index]? = some reader) : ∃ topic,
      next.bus.topics.get reader.sourceTopic = some topic ∧ reader.lastSeq ≤ topic.seqnum := by
  rw [published.readers] at found
  obtain ⟨old, entry, bound⟩ := inv.attached index reader found
  by_cases same : topicName = reader.sourceTopic
  · obtain ⟨topic, now, state⟩ := published.topic
    rw [← same] at entry ⊢
    have count := published.before old entry
    refine ⟨topic, now, ?_⟩
    simp only [DatabusTopic.seqnum, state] at count bound ⊢
    omega
  · exact ⟨old, (published.others _ same).trans entry, bound⟩

theorem published_fresh (run next : BusRun Value MsgType) (writer : Nat) (topicName : String) (value : Value)
    (inv : Sound run) (published : Published run next writer topicName value) (index : Nat) (reader : DataReader MsgType)
    (found : next.readers[index]? = some reader) (other : Nat) (owns : next.Owns other reader.sourceTopic) :
    updatedSince index other next.trace = true ↔ reader.lastSeq < writesOf other next.trace := by
  rw [published.readers] at found
  rw [published.trace]
  by_cases same : topicName = reader.sourceTopic
  · obtain ⟨old, entry, bound⟩ := inv.attached index reader found
    rw [← same] at entry owns
    have count := published.before old entry
    rw [published.alone other owns]
    simp only [updated_since_wrote, decide_true, Bool.true_or, writes_of_wrote, if_true, true_iff]
    omega
  · obtain ⟨distinct, old⟩ := published_other run next writer other topicName reader.sourceTopic value published same owns
    simp only [updated_since_wrote, distinct, decide_false, Bool.false_or, writes_of_wrote, if_false]
    exact inv.fresh index reader found other old

theorem sound_writer (run next : BusRun Value MsgType) (topicName : String) (msgType : MsgType) (initial : Value)
    (topic : DatabusTopic Value MsgType) (inv : Sound run) (free : topicName ∉ run.bus.writerTopics)
    (prior : run.bus.topics.get topicName = some topic ∨ topic.state = (none, 0))
    (topics : ∀ other, next.bus.topics.get other =
      if topicName = other then some (topic.setVal initial) else run.bus.topics.get other)
    (owned : next.bus.writerTopics = insert topicName run.bus.writerTopics)
    (unfinalized : next.bus.finalized = false) (writers : next.writers = run.writers ++ [⟨msgType, topicName⟩])
    (readers : next.readers = run.readers) (trace : next.trace = .wrote run.writers.length initial :: run.trace) :
    Sound next := by
  have unowned (writer : Nat) (owns : run.Owns writer topicName) : False := free ((inv.owned topicName).mpr ⟨writer, owns⟩)
  have appended := owns_append run next msgType topicName writers
  have unwritten := inv.unwritten run.writers.length (Nat.le_refl _)
  have placeholder : topic.state = (none, 0) := by
    rcases prior with known | fresh
    · exact inv.unfed topicName topic known free
    · exact fresh
  have published : Published run next run.writers.length topicName initial := by
    refine
      { owner := (appended _ _).mpr (.inr ⟨rfl, rfl⟩)
        kept := fun other name owns => (appended other name).mpr (.inl owns)
        known := fun other name owns => (appended other name).mp owns
        alone := ?_
        topic := ⟨topic.setVal initial, by rw [topics, if_pos rfl], by simp [DatabusTopic.setVal, placeholder, unwritten]⟩
        before := ?_
        others := fun name distinct => by rw [topics, if_neg distinct]
        readers
        trace }
    · intro other owns
      rcases (appended other topicName).mp owns with old | ⟨last, _⟩
      · exact (unowned other old).elim
      · exact last
    · intro known found
      rw [DatabusTopic.seqnum, inv.unfed topicName known found free, unwritten]
  refine
    { owned := ?_
      alone := ?_
      fed := published_fed run next _ topicName initial inv published
      unfed := ?_
      attached := published_attached run next _ topicName initial inv published
      fresh := published_fresh run next _ topicName initial inv published
      passed := ?_
      ordered := ?_
      unread := ?_
      unwritten := ?_
      complete := ?_ }
  · intro name
    rw [owned, Finset.mem_insert, inv.owned name]
    constructor
    · rintro (rfl | ⟨writer, owns⟩)
      · exact ⟨_, published.owner⟩
      · exact ⟨writer, published.kept writer name owns⟩
    · rintro ⟨writer, owns⟩
      rcases (appended writer name).mp owns with old | ⟨_, same⟩
      · exact .inr ⟨writer, old⟩
      · exact .inl same.symm
  · intro first second name ownsFirst ownsSecond
    by_cases same : topicName = name
    · subst same
      rw [published.alone first ownsFirst, published.alone second ownsSecond]
    · exact inv.alone first second name (published_other run next _ first topicName name initial published same ownsFirst).2
        (published_other run next _ second topicName name initial published same ownsSecond).2
  · intro name known found unknown
    rw [owned, Finset.mem_insert, not_or] at unknown
    rw [topics, if_neg (Ne.symm unknown.1)] at found
    exact inv.unfed name known found unknown.2
  · intro index reader found
    rw [readers] at found
    rw [trace]
    exact inv.passed index reader found
  · intro index
    rw [trace]
    exact inv.ordered index
  · intro index beyond
    rw [readers] at beyond
    rw [trace]
    exact inv.unread index beyond
  · intro writer beyond
    rw [writers, List.length_append, List.length_singleton] at beyond
    rw [trace, writes_of_wrote, if_neg (by omega)]
    exact inv.unwritten writer (by omega)
  · intro finalized
    rw [unfinalized] at finalized
    cases finalized

theorem sound_reader (run next : BusRun Value MsgType) (topicName : String) (msgType : MsgType)
    (topic : DatabusTopic Value MsgType) (inv : Sound run)
    (prior : run.bus.topics.get topicName = some topic ∨
      run.bus.topics.get topicName = none ∧ topic.state = (none, 0))
    (topics : ∀ other, next.bus.topics.get other =
      if topicName = other then some topic else run.bus.topics.get other)
    (owned : next.bus.writerTopics = run.bus.writerTopics) (unfinalized : next.bus.finalized = false)
    (writers : next.writers = run.writers) (readers : next.readers = run.readers ++ [⟨msgType, topicName, 0⟩])
    (trace : next.trace = run.trace) : Sound next := by
  have same_owner (writer : Nat) (name : String) : next.Owns writer name ↔ run.Owns writer name := by
    simp only [Owns, writers]
  have kept (name : String) (known : DatabusTopic Value MsgType) (found : run.bus.topics.get name = some known) :
      next.bus.topics.get name = some known := by
    rw [topics]
    split
    · rename_i same
      rcases prior with there | ⟨missing, _⟩
      · rw [← there, same, found]
      · rw [← same, missing] at found
        cases found
    · exact found
  have attached_old (index : Nat) (reader : DataReader MsgType) (found : next.readers[index]? = some reader)
      (old : index < run.readers.length) : run.readers[index]? = some reader := by
    rwa [readers, List.getElem?_append_left old] at found
  have attached_new (index : Nat) (reader : DataReader MsgType) (found : next.readers[index]? = some reader)
      (beyond : run.readers.length ≤ index) : reader = ⟨msgType, topicName, 0⟩ := by
    rw [readers, List.getElem?_append_right beyond] at found
    exact List.mem_singleton.mp (List.mem_of_getElem? found)
  refine
    { owned := fun name => by simp only [owned, inv.owned name, same_owner]
      alone := fun first second name ownsFirst ownsSecond =>
        inv.alone first second name ((same_owner _ _).mp ownsFirst) ((same_owner _ _).mp ownsSecond)
      fed := ?_
      unfed := ?_
      attached := ?_
      fresh := ?_
      passed := ?_
      ordered := fun index => by rw [trace]; exact inv.ordered index
      unread := ?_
      unwritten := fun writer beyond => by rw [writers] at beyond; rw [trace]; exact inv.unwritten writer beyond
      complete := fun finalized => by rw [unfinalized] at finalized; cases finalized }
  · intro writer name owns
    obtain ⟨known, found, state⟩ := inv.fed writer name ((same_owner _ _).mp owns)
    rw [trace]
    exact ⟨known, kept name known found, state⟩
  · intro name known found unknown
    rw [owned] at unknown
    rw [topics] at found
    split at found
    · rename_i same
      cases found
      rcases prior with there | ⟨_, placeholder⟩
      · exact inv.unfed name topic (same ▸ there) unknown
      · exact placeholder
    · exact inv.unfed name known found unknown
  · intro index reader found
    by_cases old : index < run.readers.length
    · obtain ⟨known, entry, bound⟩ := inv.attached index reader (attached_old index reader found old)
      exact ⟨known, kept reader.sourceTopic known entry, bound⟩
    · rw [attached_new index reader found (Nat.le_of_not_lt old)]
      exact ⟨topic, by rw [topics, if_pos rfl], Nat.zero_le _⟩
  · intro index reader found writer owns
    rw [trace]
    by_cases old : index < run.readers.length
    · exact inv.fresh index reader (attached_old index reader found old) writer ((same_owner _ _).mp owns)
    · rw [attached_new index reader found (Nat.le_of_not_lt old)]
      obtain ⟨_, _, _, written⟩ := inv.fed writer reader.sourceTopic ((same_owner _ _).mp owns)
      exact iff_of_true (unread_updated index writer run.trace (inv.unread index (Nat.le_of_not_lt old)))
        (written_counts writer run.trace written)
  · intro index reader found
    rw [trace]
    by_cases old : index < run.readers.length
    · exact inv.passed index reader (attached_old index reader found old)
    · rw [inv.unread index (Nat.le_of_not_lt old)]
      exact fun _ member => absurd member List.not_mem_nil
  · intro index beyond
    rw [readers, List.length_append, List.length_singleton] at beyond
    rw [trace]
    exact inv.unread index (by omega)

theorem sound_wrote (run : BusRun Value MsgType) (index : Nat) (writer : DataWriter MsgType) (value : Value)
    (inv : Sound run) (found : run.writers[index]? = some writer) :
    Sound { run with bus := run.bus.write writer value, trace := .wrote index value :: run.trace } := by
  obtain ⟨sameTopics, sameFlag⟩ := Databus.write_owned run.bus writer value
  have owner : run.Owns index writer.targetTopic := by simp only [Owns, found, Option.map_some]
  obtain ⟨topic, entry, state, _⟩ := inv.fed index writer.targetTopic owner
  have published : Published run { run with bus := run.bus.write writer value, trace := .wrote index value :: run.trace }
      index writer.targetTopic value :=
    { owner := owner
      kept := fun _ _ owns => owns
      known := fun _ _ owns => .inl owns
      alone := fun other owns => inv.alone other index writer.targetTopic owns owner
      topic := ⟨topic.setVal value, by simp only [Databus.get_write, entry, if_true, Option.map_some],
        by simp [DatabusTopic.setVal, state]⟩
      before := fun known there => by
        rw [entry] at there
        cases there
        simp only [DatabusTopic.seqnum, state]
      others := fun name distinct => by simp only [Databus.get_write, distinct, if_false]
      readers := rfl
      trace := rfl }
  have names (name : String) (member : name ∈ (run.bus.write writer value).topics.keys) : name ∈ run.bus.topics.keys := by
    obtain ⟨known, there⟩ := (Dict.mem_keys_iff _ _).mp member
    rw [Databus.get_write] at there
    split at there
    · obtain ⟨old, had, _⟩ := Option.map_eq_some_iff.mp there
      exact (Dict.mem_keys_iff _ _).mpr ⟨old, had⟩
    · exact (Dict.mem_keys_iff _ _).mpr ⟨known, there⟩
  refine
    { owned := fun name => by rw [sameTopics]; exact inv.owned name
      alone := inv.alone
      fed := published_fed run _ index writer.targetTopic value inv published
      unfed := ?_
      attached := published_attached run _ index writer.targetTopic value inv published
      fresh := published_fresh run _ index writer.targetTopic value inv published
      passed := inv.passed
      ordered := inv.ordered
      unread := inv.unread
      unwritten := ?_
      complete := ?_ }
  · intro name known there unknown
    rw [sameTopics] at unknown
    have distinct : writer.targetTopic ≠ name := by
      rintro rfl
      exact unknown ((inv.owned _).mpr ⟨index, owner⟩)
    rw [published.others name distinct] at there
    exact inv.unfed name known there unknown
  · intro other beyond
    have inside := owns_known run index writer.targetTopic owner
    have distinct : index ≠ other := by
      have outside : run.writers.length ≤ other := beyond
      omega
    rw [writes_of_wrote, if_neg distinct]
    exact inv.unwritten other beyond
  · intro finalized name member
    rw [sameFlag] at finalized
    rw [sameTopics]
    exact inv.complete finalized name (names name member)

theorem observe_attached (run : BusRun Value MsgType) (reader : DataReader MsgType) (topic : DatabusTopic Value MsgType)
    (entry : run.bus.topics.get reader.sourceTopic = some topic) : run.bus.observe reader = topic.state := by
  simp only [Databus.observe, entry, Option.map_some, Option.getD_some]

theorem sound_observed (run : BusRun Value MsgType) (index : Nat) (reader : DataReader MsgType) (inv : Sound run)
    (found : run.readers[index]? = some reader) :
    Sound { run with
      readers := run.readers.set index (run.bus.read reader).1
      trace := .observed index (run.bus.read reader).2 (run.bus.observe reader).2 :: run.trace } := by
  obtain ⟨topic, entry, bound⟩ := inv.attached index reader found
  have seqnum : (run.bus.observe reader).2 = topic.seqnum := by
    rw [observe_attached run reader topic entry]
    rfl
  have inside := (List.getElem?_eq_some_iff.mp found).1
  have looked (other : Nat) (one : DataReader MsgType)
      (there : (run.readers.set index (run.bus.read reader).1)[other]? = some one) :
      index = other ∧ one = { reader with lastSeq := topic.seqnum } ∨ index ≠ other ∧ run.readers[other]? = some one := by
    by_cases same : index = other
    · subst same
      rw [List.getElem?_set_self inside, Databus.read, seqnum, Option.some.injEq] at there
      exact .inl ⟨rfl, there.symm⟩
    · rw [List.getElem?_set_ne same] at there
      exact .inr ⟨same, there⟩
  refine
    { owned := inv.owned
      alone := inv.alone
      fed := inv.fed
      unfed := inv.unfed
      attached := ?_
      fresh := ?_
      passed := ?_
      ordered := ?_
      unread := ?_
      unwritten := inv.unwritten
      complete := inv.complete }
  · intro other one there
    rcases looked other one there with ⟨_, rfl⟩ | ⟨_, old⟩
    · exact ⟨topic, entry, Nat.le_refl _⟩
    · exact inv.attached other one old
  · intro other one there writer owns
    rcases looked other one there with ⟨same, rfl⟩ | ⟨distinct, old⟩
    · obtain ⟨known, had, state, _⟩ := inv.fed writer reader.sourceTopic owns
      rw [entry] at had
      cases had
      simp [same, DatabusTopic.seqnum, state]
    · simp only [updated_since_observed, distinct, ne_eq, not_false_eq_true, decide_true, Bool.true_and, writes_of_observed]
      exact inv.fresh other one old writer owns
  · intro other one there number member
    rcases looked other one there with ⟨same, rfl⟩ | ⟨distinct, old⟩
    · rw [seen_observed, if_pos same, seqnum, List.mem_cons] at member
      rcases member with rfl | earlier
      · exact Nat.le_refl _
      · exact Nat.le_trans (inv.passed index reader found number (same ▸ earlier)) bound
    · rw [seen_observed, if_neg distinct] at member
      exact inv.passed other one old number member
  · intro other
    by_cases same : index = other
    · subst same
      rw [seen_observed, if_pos rfl, seqnum, List.pairwise_cons]
      exact ⟨fun number member => Nat.le_trans (inv.passed index reader found number member) bound, inv.ordered index⟩
    · rw [seen_observed, if_neg same]
      exact inv.ordered other
  · intro other beyond
    have outside : run.readers.length ≤ other := by simpa using beyond
    rw [seen_observed, if_neg (by omega)]
    exact inv.unread other outside

theorem step_sound (run next : BusRun Value MsgType) (inv : Sound run) (grown : Grown run next) : Sound next := by
  cases grown with
  | writer topicName msgType initial topic _ free prior topics owned unfinalized writers readers trace =>
      exact sound_writer run next topicName msgType initial topic inv free prior topics owned unfinalized writers readers trace
  | reader topicName msgType topic _ prior topics owned unfinalized writers readers trace =>
      exact sound_reader run next topicName msgType topic inv prior topics owned unfinalized writers readers trace
  | finalized complete after =>
      rw [after]
      exact { inv with complete := fun _ => complete }
  | wrote index writer value found after =>
      rw [after]
      exact sound_wrote run index writer value inv found
  | observed index reader found after =>
      rw [after]
      exact sound_observed run index reader inv found

theorem start_sound (run : BusRun Value MsgType)
    (started : run.bus = Databus.init ∧ run.writers = [] ∧ run.readers = [] ∧ run.trace = []) : Sound run := by
  obtain ⟨bus, writers, readers, trace⟩ := started
  have unowned (writer : Nat) (name : String) : ¬ run.Owns writer name := by simp [Owns, writers]
  have empty (name : String) : run.bus.topics.get name = none := by
    rw [bus]
    rfl
  refine
    { owned := fun name => iff_of_false (by simp [bus, Databus.init]) (fun owned => unowned _ _ owned.choose_spec)
      alone := fun first _ name owns => absurd owns (unowned first name)
      fed := fun writer name owns => absurd owns (unowned writer name)
      unfed := fun name topic found => by rw [empty] at found; cases found
      attached := fun index reader found => by simp [readers] at found
      fresh := fun index reader found => by simp [readers] at found
      passed := fun index reader found => by simp [readers] at found
      ordered := fun index => by rw [trace]; exact .nil
      unread := fun index _ => by rw [trace]; rfl
      unwritten := fun writer _ => by rw [trace]; rfl
      complete := fun finalized => by rw [bus] at finalized; cases finalized }

theorem sound_delivers (run : BusRun Value MsgType) (inv : Sound run) (finalized : run.bus.finalized = true) :
    Delivers run := by
  have single (topicName : String) (member : topicName ∈ run.bus.topics.keys) :
      ∃ writer, run.Owns writer topicName ∧ ∀ other, run.Owns other topicName → other = writer := by
    obtain ⟨writer, owns⟩ := (inv.owned topicName).mp (inv.complete finalized topicName member)
    exact ⟨writer, owns, fun other also => inv.alone other writer topicName also owns⟩
  refine ⟨single, ?_, inv.ordered⟩
  intro index reader found
  obtain ⟨topic, entry, _⟩ := inv.attached index reader found
  obtain ⟨writer, owns, _⟩ := single reader.sourceTopic ((Dict.mem_keys_iff _ _).mpr ⟨topic, entry⟩)
  obtain ⟨known, had, state, written⟩ := inv.fed writer reader.sourceTopic owns
  rw [entry] at had
  cases had
  refine ⟨writer, owns, ?_, ?_⟩
  · obtain ⟨value, last⟩ := Option.isSome_iff_exists.mp written
    refine ⟨value, last, ?_⟩
    rw [Databus.read, observe_attached run reader topic entry, state, last]
  · have update : run.bus.hasUpdate reader = true ↔ updatedSince index writer run.trace = true := by
      rw [inv.fresh index reader found writer owns]
      simp [Databus.hasUpdate, entry, DatabusTopic.seqnum, state]
    exact Bool.eq_iff_iff.mpr update

theorem databus_delivers [DecidableEq MsgType] [ToString MsgType] (isInstance : Value → MsgType → Bool)
    (run : BusRun Value MsgType) (reached : Reached (databus isInstance) (succeeds isInstance) run)
    (finalized : run.bus.finalized = true) : Delivers run := by
  refine sound_delivers run ?_ finalized
  exact reached_invariant (databus isInstance) (succeeds isInstance) Sound start_sound
    (fun source action target inv succeeded moved =>
      step_sound source target inv (step_grown isInstance source target action succeeded moved)) run reached

def isInt (_value : Nat) (msgType : String) : Bool := msgType = "int"

-- The reader is made before the writer, and reads before and after a write.
def readerFirst : List (BusAction Nat String) :=
  [.createReader "tick" "int", .createWriter "tick" "int" 0, .createReader "tick" "int", .finalize, .read 0,
    .write 0 7, .read 0]

theorem databus_delivers_reader_first : ∃ run : BusRun Nat String,
    (run.bus.finalized = true ∧ seen 0 run.trace = [2, 1] ∧ lastWritten 0 run.trace = some 7) ∧ Delivers run := by
  obtain ⟨run, reached, ends⟩ := replay_exists (databus isInt) (succeeds isInt) readerFirst
    ⟨Databus.init, [], [], []⟩
    (fun run : BusRun Nat String =>
      run.bus.finalized = true ∧ seen 0 run.trace = [2, 1] ∧ lastWritten 0 run.trace = some 7)
    ⟨rfl, rfl, rfl, rfl⟩ (by decide +kernel)
  exact ⟨run, ends, databus_delivers isInt run reached ends.1⟩

-- A second writer is refused only after its initial value has been published.
theorem refused_writer_publishes [DecidableEq MsgType] [ToString MsgType] (isInstance : Value → MsgType → Bool)
    (bus : Databus Value MsgType) (topic : DatabusTopic Value MsgType) (topicName : String) (initial : Value)
    (unlocked : bus.finalized = false) (found : bus.topics.get topicName = some topic)
    (owned : topicName ∈ bus.writerTopics) (typed : isInstance initial topic.msgType = true) :
    (bus.createWriter isInstance topicName topic.msgType initial).2 =
        .error (.DatabusTopologyError s!"Topic \"{topicName}\" can only have one writer") ∧
      (bus.createWriter isInstance topicName topic.msgType initial).1.topics.get topicName = some (topic.setVal initial) := by
  have created : bus.createWriter isInstance topicName topic.msgType initial =
      (bus.write ⟨topic.msgType, topicName⟩ initial,
        .error (.DatabusTopologyError s!"Topic \"{topicName}\" can only have one writer")) := by
    simp [Databus.createWriter, Databus.requireUnfinalized, Databus.requireTopic, Databus.registerWriter, unlocked,
      found, owned, typed]
  rw [created]
  exact ⟨rfl, by simp [Databus.get_write, found]⟩

end BusRun

end Animacharacter.HardwareMng
