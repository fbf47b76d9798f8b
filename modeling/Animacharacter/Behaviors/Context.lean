import Animacharacter.Library.BroadcastLog
import Animacharacter.Library.Dict
import Animacharacter.Library.Simulation

set_option autoImplicit false

namespace Animacharacter.Behaviors

open StepSystem BroadcastLog

-- `taken` is what was pulled from the subscriber or cleared; `first` is the number
-- of messages that its topic had when it was created.
structure Subscriber (Message : Type) where
  messages : List Message
  topic : String
  first : Nat
  taken : List Message
deriving DecidableEq

-- An iterator that pull() has returned; it is over once it finds no message.
structure Pull where
  subscriber : Nat
  stopped : Bool
deriving DecidableEq

-- The publishers with the indices of their subscribers; `published` is all that
-- was published.
structure BehaviorContext (Message : Type) where
  publishers : Dict String (List Nat)
  subscribers : List (Subscriber Message)
  pulls : List Pull
  published : List (String × Message)

inductive ContextAction (Message : Type) where
  | createPublisher (topic : String)
  | createSubscriber (topic : String)
  | publish (topic : String) (message : Message)
  | pull (subscriber : Nat)
  | next (number : Nat)
  | clear (subscriber : Nat)

variable {Message : Type}

def Subscriber.receive (sub : Subscriber Message) (message : Message) : Subscriber Message :=
  { sub with messages := sub.messages ++ [message] }

def Subscriber.clear (sub : Subscriber Message) : Subscriber Message :=
  { sub with
    messages := []
    taken := sub.taken ++ sub.messages }

namespace BehaviorContext

def init : BehaviorContext Message := ⟨Dict.empty, [], [], []⟩

def createPublisher (context : BehaviorContext Message) (topic : String) : BehaviorContext Message :=
  match context.publishers.get topic with
  | some _ => context
  | none => { context with publishers := context.publishers.set topic [] }

def subscribersOf (context : BehaviorContext Message) (topic : String) : List Nat :=
  (context.publishers.get topic).getD []

def createSubscriber (context : BehaviorContext Message) (topic : String) : BehaviorContext Message :=
  let created := context.createPublisher topic
  { created with
    publishers := created.publishers.set topic (created.subscribersOf topic ++ [context.subscribers.length])
    subscribers := created.subscribers ++ [⟨[], topic, (onTopic topic context.published).length, []⟩] }

-- A publisher is the one of its topic as long as the context lives.
def publish (context : BehaviorContext Message) (topic : String) (message : Message) : Option (BehaviorContext Message) :=
  (context.publishers.get topic).map fun subs =>
    { context with
      subscribers := subs.foldl (fun all sub => all.modify sub fun sub => sub.receive message) context.subscribers
      published := context.published ++ [(topic, message)] }

def next (context : BehaviorContext Message) (number : Nat) : Option (BehaviorContext Message) :=
  (context.pulls[number]?).bind fun pull =>
    if pull.stopped then some context
    else
      (context.subscribers[pull.subscriber]?).map fun sub =>
        match sub.messages with
        | [] => { context with pulls := context.pulls.set number { pull with stopped := true } }
        | message :: rest =>
            { context with
              subscribers := context.subscribers.set pull.subscriber
                { sub with
                  messages := rest
                  taken := sub.taken ++ [message] } }

def step (context : BehaviorContext Message) : ContextAction Message → Option (BehaviorContext Message)
  | .createPublisher topic => some (context.createPublisher topic)
  | .createSubscriber topic => some (context.createSubscriber topic)
  | .publish topic message => context.publish topic message
  | .pull subscriber =>
      if subscriber < context.subscribers.length then
        some { context with pulls := context.pulls ++ [⟨subscriber, false⟩] }
      else none
  | .next number => context.next number
  | .clear subscriber =>
      (context.subscribers[subscriber]?).map fun sub =>
        { context with subscribers := context.subscribers.set subscriber sub.clear }

end BehaviorContext

def behaviorContext (Message : Type) : System (BehaviorContext Message) (ContextAction Message) where
  start context := context = .init
  step := BehaviorContext.step

-- What a subscriber holds is what its reader has left of the log.
structure Subscriber.Reads (sub : Subscriber Message) (log : Log String Message) (reader : Reader String) : Prop where
  topic : sub.topic = reader.topic
  first : sub.first = reader.first
  messages : sub.messages = log.left reader
  taken : sub.taken = log.consumed reader

theorem reads_alike (log other : Log String Message) (sub : Subscriber Message) (reader : Reader String)
    (same : other.history = log.history) (reads : sub.Reads log reader) : sub.Reads other reader := by
  obtain ⟨topic, first, messages, taken⟩ := reads
  refine ⟨topic, first, ?_, ?_⟩
  · rw [messages, Log.left, Log.left, same]
  · rw [taken, Log.consumed, Log.consumed, same]

-- The context is a log with one reader for each subscriber.
structure BehaviorContext.Represents (context : BehaviorContext Message) (log : Log String Message) : Prop where
  published : context.published = log.history
  within : log.AllWithin
  length : context.subscribers.length = log.readers.length
  reads : ∀ (index : Nat) (sub : Subscriber Message) (reader : Reader String), context.subscribers[index]? = some sub →
    log.readers[index]? = some reader → sub.Reads log reader
  distinct : ∀ topic, (context.subscribersOf topic).Nodup
  registered : ∀ (topic : String) (index : Nat), index ∈ context.subscribersOf topic ↔
    ∃ reader, log.readers[index]? = some reader ∧ reader.topic = topic

-- Every subscriber that is named receives the message once.
theorem received_get (subs : List Nat) (message : Message) (all : List (Subscriber Message)) (index : Nat)
    (distinct : subs.Nodup) :
    (subs.foldl (fun all sub => all.modify sub fun sub => sub.receive message) all)[index]? =
      if index ∈ subs then (all[index]?).map fun sub => sub.receive message else all[index]? := by
  induction subs generalizing all with
  | nil => simp
  | cons first rest ih =>
      obtain ⟨fresh, distinct⟩ := List.nodup_cons.mp distinct
      rw [List.foldl_cons, ih _ distinct, List.getElem?_modify]
      by_cases same : first = index
      · subst same
        simp [fresh]
      · simp [same, Ne.symm same]

theorem received_length (subs : List Nat) (message : Message) (all : List (Subscriber Message)) :
    (subs.foldl (fun all sub => all.modify sub fun sub => sub.receive message) all).length = all.length := by
  induction subs generalizing all with
  | nil => rfl
  | cons first rest ih => rw [List.foldl_cons, ih, List.length_modify]

namespace BehaviorContext

variable (context : BehaviorContext Message) (log : Log String Message)

theorem of_created (topic other : String) :
    (context.createPublisher topic).subscribersOf other = context.subscribersOf other := by
  rw [createPublisher]
  split
  · rfl
  · rename_i missing
    simp only [subscribersOf, Dict.get_set]
    split
    · rename_i same
      rw [← same, missing]
      rfl
    · rfl

theorem created_same (topic : String) : (context.createPublisher topic).subscribers = context.subscribers ∧
    (context.createPublisher topic).published = context.published ∧
    (context.createPublisher topic).pulls = context.pulls := by
  rw [createPublisher]
  split <;> exact ⟨rfl, rfl, rfl⟩

theorem create_publisher_represents (topic : String) (represents : context.Represents log) :
    (context.createPublisher topic).Represents log := by
  obtain ⟨subscribers, published, _⟩ := created_same context topic
  refine ⟨published.trans represents.published, represents.within, ?_, ?_, ?_, ?_⟩
  · rw [subscribers]
    exact represents.length
  · rw [subscribers]
    exact represents.reads
  · intro other
    rw [of_created]
    exact represents.distinct other
  · intro other index
    rw [of_created]
    exact represents.registered other index

-- The reader that subscribes has nothing left, and stands where its topic ends.
theorem new_reads (topic : String) :
    (⟨[], topic, (onTopic topic log.history).length, []⟩ : Subscriber Message).Reads log
      ⟨topic, (onTopic topic log.history).length, (onTopic topic log.history).length⟩ := by
  refine ⟨rfl, rfl, ?_, ?_⟩
  · rw [Log.left, List.drop_length]
  · rw [Log.consumed, List.take_length, List.drop_length]

theorem create_subscriber_represents (topic : String) (represents : context.Represents log) :
    ∃ next, log.step (.subscribe topic) = some next ∧ (context.createSubscriber topic).Represents next := by
  refine ⟨_, rfl, ?_⟩
  have created := create_publisher_represents context log topic represents
  obtain ⟨subscribers, published, _⟩ := created_same context topic
  have named (other : String) : (context.createSubscriber topic).subscribersOf other =
      context.subscribersOf other ++ if topic = other then [context.subscribers.length] else [] := by
    simp only [createSubscriber, subscribersOf, Dict.get_set]
    split
    · rename_i same
      subst same
      exact congrArg (· ++ [context.subscribers.length]) (of_created context topic topic)
    · rw [List.append_nil]
      exact of_created context topic other
  have bound (other : String) (index : Nat) (member : index ∈ context.subscribersOf other) :
      index < context.subscribers.length := by
    obtain ⟨reader, present, _⟩ := (represents.registered other index).mp member
    rw [represents.length]
    exact (List.getElem?_eq_some_iff.mp present).1
  have added : (context.createSubscriber topic).subscribers = context.subscribers ++
      [⟨[], topic, (onTopic topic log.history).length, []⟩] := by
    rw [← represents.published, createSubscriber, subscribers]
  refine ⟨created.published, ?_, ?_, ?_, ?_, ?_⟩
  · exact Log.step_within log _ (.subscribe topic) represents.within rfl
  · rw [added, List.length_append, List.length_append, represents.length]
    rfl
  · intro index sub reader present found
    rw [added] at present
    rcases Nat.lt_or_ge index context.subscribers.length with inside | outside
    · rw [List.getElem?_append_left inside] at present
      rw [represents.length] at inside
      rw [List.getElem?_append_left inside] at found
      exact reads_alike log _ sub reader rfl (represents.reads index sub reader present found)
    · rw [List.getElem?_append_right outside] at present
      rw [represents.length] at outside present
      rw [List.getElem?_append_right outside] at found
      obtain ⟨inside, rfl⟩ := List.getElem?_eq_some_iff.mp present
      rw [List.getElem?_eq_some_iff] at found
      obtain ⟨_, rfl⟩ := found
      simp only [List.getElem_singleton]
      exact reads_alike log _ _ _ rfl (new_reads log topic)
  · intro other
    rw [named]
    split
    · refine List.nodup_append.mpr ⟨represents.distinct other, List.nodup_singleton _, ?_⟩
      intro index member last only same
      rw [List.mem_singleton.mp only] at same
      exact Nat.lt_irrefl _ (same ▸ bound other index member)
    · rw [List.append_nil]
      exact represents.distinct other
  · intro other index
    rw [named, List.mem_append, represents.registered other index, represents.length]
    simp only [List.getElem?_append]
    by_cases inside : index < log.readers.length
    · rw [if_pos inside]
      apply or_iff_left
      split
      · exact fun only => Nat.ne_of_lt inside (List.mem_singleton.mp only)
      · exact List.not_mem_nil
    · have missing : log.readers[index]? = none := List.getElem?_eq_none (Nat.not_lt.mp inside)
      rw [if_neg inside, missing, List.getElem?_singleton]
      apply Iff.intro
      · intro either
        rcases either with ⟨_, impossible, _⟩ | only
        · cases impossible
        · split at only
          · rename_i same
            rw [List.mem_singleton.mp only, Nat.sub_self, if_pos rfl]
            exact ⟨_, rfl, same⟩
          · cases only
      · intro present
        obtain ⟨reader, found, same⟩ := present
        split at found
        · rename_i last
          cases found
          rw [if_pos same]
          exact .inr (List.mem_singleton.mpr (Nat.le_antisymm (Nat.sub_eq_zero_iff_le.mp last) (Nat.not_lt.mp inside)))
        · cases found

theorem publish_represents (next : BehaviorContext Message) (topic : String) (message : Message)
    (represents : context.Represents log) (moved : context.publish topic message = some next) :
    ∃ after, log.step (.publish topic message) = some after ∧ next.Represents after := by
  refine ⟨_, rfl, ?_⟩
  obtain ⟨subs, listed, rfl⟩ := Option.map_eq_some_iff.mp moved
  have same : context.subscribersOf topic = subs := by rw [subscribersOf, listed, Option.getD_some]
  have received := fun index => received_get subs message context.subscribers index (same ▸ represents.distinct topic)
  refine ⟨?_, ?_, ?_, ?_, represents.distinct, represents.registered⟩
  · rw [represents.published]
  · exact Log.step_within log _ (.publish topic message) represents.within rfl
  · rw [received_length]
    exact represents.length
  · intro index sub reader present found
    rw [received index] at present
    have within := represents.within reader (List.mem_of_getElem? found)
    obtain ⟨consumed, left⟩ := Log.publish_consumes log topic message reader within
    have heard : index ∈ subs ↔ topic = reader.topic := by
      rw [← same, represents.registered topic index]
      apply Iff.intro
      · intro listedReader
        obtain ⟨other, also, named⟩ := listedReader
        rw [found] at also
        cases also
        exact named.symm
      · exact fun named => ⟨reader, found, named.symm⟩
    split at present
    · rename_i member
      obtain ⟨before, old, rfl⟩ := Option.map_eq_some_iff.mp present
      obtain ⟨topics, first, messages, taken⟩ := represents.reads index before reader old found
      rw [if_pos (heard.mp member)] at left
      exact ⟨topics, first, by rw [left, ← messages]; rfl, by rw [consumed]; exact taken⟩
    · rename_i unlisted
      obtain ⟨topics, first, messages, taken⟩ := represents.reads index sub reader present found
      rw [if_neg fun named => unlisted (heard.mpr named), List.append_nil] at left
      exact ⟨topics, first, by rw [left, messages], by rw [consumed, taken]⟩

-- A subscriber and its reader move on together.
theorem set_represents (index : Nat) (sub changed : Subscriber Message) (reader moved : Reader String)
    (pulls : List Pull) (represents : context.Represents log) (present : context.subscribers[index]? = some sub)
    (found : log.readers[index]? = some reader) (topic : moved.topic = reader.topic) (within : log.Within moved)
    (reads : changed.Reads log moved) :
    { context with
      subscribers := context.subscribers.set index changed
      pulls }.Represents { log with readers := log.readers.set index moved } := by
  refine ⟨represents.published, ?_, ?_, ?_, represents.distinct, ?_⟩
  · exact set_all log.Within log.readers index moved represents.within within
  · rw [List.length_set, List.length_set]
    exact represents.length
  · intro other before behind old also
    by_cases here : index = other
    · subst here
      rw [List.getElem?_set_self (List.getElem?_eq_some_iff.mp present).1] at old
      rw [List.getElem?_set_self (List.getElem?_eq_some_iff.mp found).1] at also
      cases old
      cases also
      exact reads_alike log _ _ _ rfl reads
    · rw [List.getElem?_set_ne here] at old also
      exact reads_alike log _ _ _ rfl (represents.reads other before behind old also)
  · intro other place
    refine (represents.registered other place).trans ?_
    by_cases here : index = place
    · subst here
      rw [List.getElem?_set_self (List.getElem?_eq_some_iff.mp found).1, found]
      simp [topic]
    · rw [List.getElem?_set_ne here]

theorem reader_of (index : Nat) (sub : Subscriber Message) (represents : context.Represents log)
    (present : context.subscribers[index]? = some sub) : ∃ reader, log.readers[index]? = some reader := by
  have inside := (List.getElem?_eq_some_iff.mp present).1
  rw [represents.length] at inside
  exact ⟨_, List.getElem?_eq_getElem inside⟩

-- A pulled message is the next one of the log for the reader.
theorem next_represents (after : BehaviorContext Message) (number : Nat) (represents : context.Represents log)
    (moved : context.next number = some after) :
    ∃ next, Runs (broadcastLog String Message) anyAction log next ∧ after.Represents next := by
  obtain ⟨pull, _, moved⟩ := Option.bind_eq_some_iff.mp moved
  split at moved
  · cases moved
    exact ⟨log, .refl, represents⟩
  · obtain ⟨sub, present, rfl⟩ := Option.map_eq_some_iff.mp moved
    cases queue : sub.messages with
    | nil =>
        refine ⟨log, .refl, ?_⟩
        exact ⟨represents.published, represents.within, represents.length, represents.reads, represents.distinct,
          represents.registered⟩
    | cons message rest =>
        obtain ⟨reader, found⟩ := reader_of context log pull.subscriber sub represents present
        obtain ⟨topic, first, messages, taken⟩ := represents.reads pull.subscriber sub reader present found
        have within := represents.within reader (List.mem_of_getElem? found)
        obtain ⟨inside, consumed, left⟩ := Log.read_consumes log reader message rest within (messages ▸ queue)
        refine ⟨log.moveTo pull.subscriber reader (reader.cursor + 1), one_step log _ (.read pull.subscriber) trivial ?_, ?_⟩
        · simp only [broadcastLog, Log.step, found, Option.bind_some, if_pos inside]
        · apply set_represents context log pull.subscriber sub _ reader _ context.pulls represents present found
          · rfl
          · exact ⟨Nat.le_trans within.1 (Nat.le_succ _), inside⟩
          · exact ⟨topic, first, left.symm, by rw [consumed, taken]⟩

theorem clear_represents (after : BehaviorContext Message) (index : Nat) (represents : context.Represents log)
    (moved : context.step (.clear index) = some after) :
    ∃ next, log.step (.skip index) = some next ∧ after.Represents next := by
  obtain ⟨sub, present, rfl⟩ := Option.map_eq_some_iff.mp moved
  obtain ⟨reader, found⟩ := reader_of context log index sub represents present
  obtain ⟨topic, first, messages, taken⟩ := represents.reads index sub reader present found
  have within := represents.within reader (List.mem_of_getElem? found)
  obtain ⟨consumed, left⟩ := Log.skip_consumes log reader within
  refine ⟨log.moveTo index reader (onTopic reader.topic log.history).length, by simp only [Log.step, found, Option.map_some], ?_⟩
  apply set_represents context log index sub _ reader _ context.pulls represents present found
  · rfl
  · exact ⟨Nat.le_trans within.1 within.2, Nat.le_refl _⟩
  · exact ⟨topic, first, left.symm, by rw [consumed, ← taken, ← messages]; rfl⟩

end BehaviorContext

theorem context_simulates : Simulates (behaviorContext Message) anyAction (broadcastLog String Message) anyAction
    BehaviorContext.Represents := by
  constructor
  · intro context started
    subst started
    refine ⟨⟨[], []⟩, ⟨rfl, rfl⟩, ?_⟩
    constructor
    · rfl
    · exact nofun
    · rfl
    · exact nofun
    · exact fun _ => List.nodup_nil
    · exact fun topic index => ⟨nofun, nofun⟩
  · intro context log action after represents _ moved
    have one (action : BroadcastLog.Action String Message)
        (steps : ∃ next, log.step action = some next ∧ after.Represents next) :
        ∃ next, Runs (broadcastLog String Message) anyAction log next ∧ after.Represents next := by
      obtain ⟨next, stepped, represents⟩ := steps
      exact ⟨next, one_step log next action trivial stepped, represents⟩
    cases action with
    | createPublisher topic =>
        cases moved
        exact ⟨log, .refl, BehaviorContext.create_publisher_represents context log topic represents⟩
    | createSubscriber topic =>
        cases moved
        exact one _ (BehaviorContext.create_subscriber_represents context log topic represents)
    | publish topic message =>
        exact one _ (BehaviorContext.publish_represents context log after topic message represents moved)
    | pull subscriber =>
        simp only [behaviorContext, BehaviorContext.step] at moved
        split at moved
        · cases moved
          exact ⟨log, .refl, represents.published, represents.within, represents.length, represents.reads,
            represents.distinct, represents.registered⟩
        · cases moved
    | next number => exact BehaviorContext.next_represents context log after number represents moved
    | clear subscriber => exact one _ (BehaviorContext.clear_represents context log after subscriber represents moved)

-- Whatever iterators there are on a subscriber, what was pulled or cleared and what
-- it still holds are the messages of its topic since it was created, in order.
theorem subscribers_receive (context : BehaviorContext Message)
    (reached : Reached (behaviorContext Message) anyAction context) (sub : Subscriber Message)
    (member : sub ∈ context.subscribers) :
    sub.taken ++ sub.messages = (onTopic sub.topic context.published).drop sub.first := by
  obtain ⟨log, logged, represents⟩ := reached_simulated context_simulates context reached
  obtain ⟨index, present⟩ := List.mem_iff_getElem?.mp member
  obtain ⟨reader, found⟩ := BehaviorContext.reader_of context log index sub represents present
  obtain ⟨topic, first, messages, taken⟩ := represents.reads index sub reader present found
  have within := Log.reached_within log logged reader (List.mem_of_getElem? found)
  rw [topic, first, messages, taken, represents.published]
  exact Log.consumed_left log reader within

-- Two iterators share a subscriber, and one of them goes on after a clear.
def sharedPulls : List (ContextAction Nat) :=
  [.createPublisher "pose", .publish "pose" 0, .createSubscriber "pose", .pull 0, .pull 0, .publish "pose" 1,
    .publish "pose" 2, .next 0, .next 1, .publish "pose" 3, .clear 0, .publish "pose" 4, .next 1, .publish "pose" 5]

theorem subscribers_receive_shared : ∃ context : BehaviorContext Nat,
    context.subscribers = [⟨[5], "pose", 1, [1, 2, 3, 4]⟩] ∧ ∀ sub ∈ context.subscribers,
      sub.taken ++ sub.messages = (onTopic sub.topic context.published).drop sub.first := by
  obtain ⟨context, reached, holds⟩ := replay_exists (behaviorContext Nat) anyAction sharedPulls .init
    (fun context => context.subscribers = [⟨[5], "pose", 1, [1, 2, 3, 4]⟩]) rfl (by decide +kernel)
  exact ⟨context, holds, subscribers_receive context reached⟩

end Animacharacter.Behaviors
