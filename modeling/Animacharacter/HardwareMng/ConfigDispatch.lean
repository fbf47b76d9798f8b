import Animacharacter.Library.Dict
import Animacharacter.HardwareMng.Controller
import Mathlib.Data.List.Induction

set_option autoImplicit false

namespace Animacharacter.HardwareMng

-- str.isspace of one character.
def isSpace (char : Char) : Bool :=
  (9 ≤ char.toNat && char.toNat ≤ 13) || (28 ≤ char.toNat && char.toNat ≤ 32) ||
    (0x2000 ≤ char.toNat && char.toNat ≤ 0x200a) ||
    [0x85, 0xa0, 0x1680, 0x2028, 0x2029, 0x202f, 0x205f, 0x3000].contains char.toNat

def SPECIAL_PATH_CHARS : List Char := ['@']

-- `none` for ValueError. A part is kept as it is where strip leaves any of it.
def cleanupPath (path : String) : Option (List String) :=
  if path.toList.any SPECIAL_PATH_CHARS.contains then none
  else some (((path.toList.splitOn '/').filter fun part => !part.all isSpace).map String.ofList)

-- The callable that is stored; with enforce_type it is the wrapper.
structure ConfigHandler where
  id : Nat
  name : Option String
  typeName : String
deriving DecidableEq

structure Registration where
  path : String
  handler : ConfigHandler

-- The check for an override compares a str with tuples and never finds one.
def subscribeToConfigPath (handlers : Dict (List String) ConfigHandler) (registration : Registration) :
    Dict (List String) ConfigHandler :=
  match cleanupPath registration.path with
  | none => handlers
  | some parts => handlers.set parts registration.handler

def subscribed (registrations : List Registration) : Dict (List String) ConfigHandler :=
  registrations.foldl subscribeToConfigPath .empty

-- How a call of a handler ends. `raised` is with what str gives of the
-- exception, `left` with one that is not an Exception.
inductive HandlerEnd where
  | returned
  | raised (text : Except Raised String)
  | left (exception : String)

inductive Leaving where
  | raised (raised : Raised)
  | left (exception : String)
deriving DecidableEq

-- A look of the dispatch at the handler of a path. By then the value's dicts have
-- become what `meanwhile` makes of them: the handlers called before and whoever
-- else was given the value hold the same dicts. If the path is found the handler
-- is called: the paths that the call subscribes, and how it ends.
structure Look where
  meanwhile : Config → Config
  registers : List Registration
  ending : HandlerEnd

structure Invocation where
  place : Nat
  path : List String
  handler : ConfigHandler
  subconfig : Config

abbrev Handlers := Dict (List String) ConfigHandler

def Look.subscribes (look : Look) (handlers : Handlers) : Handlers := look.registers.foldl subscribeToConfigPath handlers

-- The except branch of a call: its message needs the name of the handler and
-- then the text of the exception.
def handled (handler : ConfigHandler) : HandlerEnd → Option Leaving
  | .returned => none
  | .left exception => some (.left exception)
  | .raised text =>
      match handler.name with
      | none => some (.raised (missingName ⟨[], handler.name, handler.typeName⟩))
      | some _ =>
          match text with
          | .error raised => some (.raised raised)
          | .ok _ => none

-- items() raises at its next step when the table has grown.
def sizeChanged : Leaving := .raised (.exception "dictionary changed size during iteration")

structure Dispatched where
  invocations : List Invocation
  handlers : Handlers
  leaving : Option Leaving

-- The items of the live table: the paths that it had, with the handlers it has.
def dispatchItems (looks : List String → Look) (place : Nat) : Handlers → Config → List (List String) → Dispatched
  | handlers, _, [] => ⟨[], handlers, none⟩
  | handlers, before, path :: rest =>
      let globalConfig := (looks path).meanwhile before
      match handlers.get path, fetchDictDeep globalConfig path with
      | some handler, some subconfig =>
          let invocation : Invocation := ⟨place, path, handler, subconfig⟩
          let subscribed := (looks path).subscribes handlers
          match handled handler (looks path).ending with
          | some leaving => ⟨[invocation], subscribed, some leaving⟩
          | none =>
              if subscribed.keys.length ≠ handlers.keys.length then ⟨[invocation], subscribed, some sizeChanged⟩
              else
                let later := dispatchItems looks place subscribed globalConfig rest
                { later with invocations := invocation :: later.invocations }
      | _, _ => dispatchItems looks place handlers globalConfig rest

structure Executed where
  invocations : List Invocation
  queue : List Config
  leaving : Option Leaving

-- The queue as it is found, with what is put into it meanwhile; `looks` has the
-- looks at the paths for the value of each place.
def executeQueued (looks : Nat → List String → Look) : Handlers → Nat → List Config → Executed
  | _, _, [] => ⟨[], [], none⟩
  | handlers, place, config :: rest =>
      let dispatched := dispatchItems (looks place) place handlers config handlers.keys
      match dispatched.leaving with
      | some leaving => ⟨dispatched.invocations, rest, some leaving⟩
      | none =>
          let later := executeQueued looks dispatched.handlers (place + 1) rest
          { later with invocations := dispatched.invocations ++ later.invocations }

def lastRegistered (registrations : List Registration) (path : List String) : Option ConfigHandler :=
  (registrations.reverse.find? fun registration => cleanupPath registration.path = some path).map Registration.handler

-- Each registered handler is called for every value that has its path, with the
-- subtree there, each once and in the order of the queue; nothing else is called,
-- the queue is drained, and flush goes on.
structure Delivered (registrations : List Registration) (configs : List Config) (executed : Executed) : Prop where
  each : ∀ (place : Nat) (config : Config) (path : List String) (handler : ConfigHandler),
    configs[place]? = some config → lastRegistered registrations path = some handler →
      ∀ subconfig, ⟨place, path, handler, subconfig⟩ ∈ executed.invocations ↔ fetchDictDeep config path = some subconfig
  once : (executed.invocations.map fun invocation => (invocation.place, invocation.path)).Nodup
  ordered : executed.invocations.Pairwise fun earlier later => earlier.place ≤ later.place
  only : ∀ invocation ∈ executed.invocations, invocation.place < configs.length ∧
    lastRegistered registrations invocation.path = some invocation.handler
  drained : executed.queue = []
  goesOn : executed.leaving = none

def Isolated (handler : ConfigHandler) : HandlerEnd → Prop
  | .returned => True
  | .raised text => (∃ name, handler.name = some name) ∧ ∃ message, text = .ok message
  | .left _ => False

-- What a value's looks must leave alone: each finds at its path what the value had
-- there when it was queued, and the call, if it is found, is of the registered
-- handler, raises nothing that leaves the dispatch and subscribes no new path.
def Undisturbed (registrations : List Registration) (looks : List String → Look) (config : Config) :
    Handlers → Config → List (List String) → Prop
  | _, _, [] => True
  | handlers, before, path :: rest =>
      let globalConfig := (looks path).meanwhile before
      fetchDictDeep globalConfig path = fetchDictDeep config path ∧
        if (fetchDictDeep config path).isSome = true then
          (handlers.get path = lastRegistered registrations path ∧
            (∀ handler ∈ handlers.get path, Isolated handler (looks path).ending) ∧
            ((looks path).subscribes handlers).keys.length = handlers.keys.length) ∧
          Undisturbed registrations looks config ((looks path).subscribes handlers) globalConfig rest
        else Undisturbed registrations looks config handlers globalConfig rest

def subscribedDuring (looks : List String → Look) (config : Config) (handlers : Handlers) : List (List String) → Handlers
  | [] => handlers
  | path :: rest =>
      subscribedDuring looks config
        (if (fetchDictDeep config path).isSome = true then (looks path).subscribes handlers else handlers) rest

def AllUndisturbed (registrations : List Registration) (looks : Nat → List String → Look) :
    Handlers → Nat → List Config → Prop
  | _, _, [] => True
  | handlers, place, config :: rest =>
      Undisturbed registrations (looks place) config handlers config handlers.keys ∧
        AllUndisturbed registrations looks (subscribedDuring (looks place) config handlers handlers.keys) (place + 1) rest

theorem mem_joined (char : Char) (parts : List (List Char)) (inside : char ∈ ['/'].intercalate parts) :
    char = '/' ∨ ∃ part ∈ parts, char ∈ part := by
  induction parts with
  | nil => cases inside
  | cons part rest ih =>
      cases rest with
      | nil =>
          rw [List.intercalate_singleton] at inside
          exact Or.inr ⟨part, List.mem_cons_self, inside⟩
      | cons next later =>
          rw [List.intercalate_cons_cons, List.mem_append, List.mem_append, List.mem_singleton] at inside
          cases inside with
          | inl first =>
              cases first with
              | inl here => exact Or.inr ⟨part, List.mem_cons_self, here⟩
              | inr slash => exact Or.inl slash
          | inr after =>
              cases ih after with
              | inl slash => exact Or.inl slash
              | inr there =>
                  obtain ⟨found, member, here⟩ := there
                  exact Or.inr ⟨found, List.mem_cons_of_mem part member, here⟩

-- Redundant slashes and blank parts do not count.
theorem cleanup_path_join (parts : List (List Char)) (plain : ∀ part ∈ parts, '/' ∉ part ∧ '@' ∉ part)
    (some_part : parts ≠ []) : cleanupPath (String.ofList (['/'].intercalate parts)) =
      some ((parts.filter fun part => !part.all isSpace).map String.ofList) := by
  have clean : ((['/'].intercalate parts).any SPECIAL_PATH_CHARS.contains) = false := by
    rw [List.any_eq_false]
    intro char inside special
    have at_sign : char = '@' := by simpa [SPECIAL_PATH_CHARS] using special
    subst at_sign
    rcases mem_joined '@' parts inside with joint | ⟨part, member, found⟩
    · cases joint
    · exact (plain part member).2 found
  have split := List.splitOn_intercalate '/' (fun part member => (plain part member).1) some_part
  rw [cleanupPath, String.toList_ofList, clean, split]
  rfl

theorem subscribed_get (registrations : List Registration) (path : List String) :
    (subscribed registrations).get path = lastRegistered registrations path := by
  induction registrations using List.reverseRecOn with
  | nil => rfl
  | append_singleton registrations registration ih =>
      rw [subscribed, List.foldl_append, List.foldl_cons, List.foldl_nil, ← subscribed, lastRegistered,
        List.reverse_append, List.reverse_singleton, List.singleton_append, List.find?_cons, subscribeToConfigPath]
      cases cleaned : cleanupPath registration.path with
      | none => simpa [lastRegistered] using ih
      | some parts =>
          rw [Dict.get_set]
          by_cases same : parts = path
          · simp [same]
          · simpa [same, lastRegistered] using ih

theorem handled_none_iff (handler : ConfigHandler) (ending : HandlerEnd) :
    handled handler ending = none ↔ Isolated handler ending := by
  cases ending with
  | returned => simp [handled, Isolated]
  | left exception => simp [handled, Isolated]
  | raised text => cases named : handler.name <;> cases text <;> simp [handled, Isolated, named]

theorem subscribe_keys (handlers : Handlers) (registration : Registration) :
    handlers.keys <+: (subscribeToConfigPath handlers registration).keys := by
  unfold subscribeToConfigPath
  split
  · exact List.prefix_refl _
  · rw [Dict.keys_set]
    split
    · exact List.prefix_refl _
    · exact List.prefix_append _ _

theorem subscribes_keys (look : Look) (handlers : Handlers) : handlers.keys <+: (look.subscribes handlers).keys := by
  rw [Look.subscribes]
  induction look.registers generalizing handlers with
  | nil => exact List.prefix_refl _
  | cons registration rest ih => exact (subscribe_keys handlers registration).trans (ih _)

theorem subscribes_same_keys (look : Look) (handlers : Handlers)
    (same : (look.subscribes handlers).keys.length = handlers.keys.length) :
    (look.subscribes handlers).keys = handlers.keys :=
  ((subscribes_keys look handlers).eq_of_length same.symm).symm

section Value

variable (registrations : List Registration) (looks : List String → Look) (place : Nat) (config : Config)

theorem dispatch_skips (handlers : Handlers) (before : Config) (path : List String) (rest : List (List String))
    (missing : fetchDictDeep ((looks path).meanwhile before) path = none) :
    dispatchItems looks place handlers before (path :: rest) =
      dispatchItems looks place handlers ((looks path).meanwhile before) rest := by
  rw [dispatchItems, missing]
  cases handlers.get path <;> rfl

-- A call goes on to the next path, or its exception or the grown table ends the dispatch.
theorem dispatch_calls (handlers : Handlers) (before subconfig : Config) (path : List String) (rest : List (List String))
    (handler : ConfigHandler) (listed : handlers.get path = some handler)
    (found : fetchDictDeep ((looks path).meanwhile before) path = some subconfig) :
    (Isolated handler (looks path).ending ∧ ((looks path).subscribes handlers).keys.length = handlers.keys.length ∧
        dispatchItems looks place handlers before (path :: rest) =
          { dispatchItems looks place ((looks path).subscribes handlers) ((looks path).meanwhile before) rest with
            invocations := ⟨place, path, handler, subconfig⟩ ::
              (dispatchItems looks place ((looks path).subscribes handlers) ((looks path).meanwhile before) rest).invocations }) ∨
      ¬ (Isolated handler (looks path).ending ∧
          ((looks path).subscribes handlers).keys.length = handlers.keys.length) ∧
        (dispatchItems looks place handlers before (path :: rest)).invocations = [⟨place, path, handler, subconfig⟩] ∧
        (dispatchItems looks place handlers before (path :: rest)).leaving ≠ none := by
  rw [dispatchItems]
  simp only [listed, found, ← handled_none_iff]
  cases outcome : handled handler (looks path).ending with
  | some leaving =>
      refine .inr ⟨?_, rfl, Option.some_ne_none leaving⟩
      rintro ⟨none, _⟩
      cases none
  | none =>
      by_cases grown : ((looks path).subscribes handlers).keys.length = handlers.keys.length
      · refine .inl ⟨rfl, grown, ?_⟩
        simp only [ne_eq, grown, not_true_eq_false, if_false]
      · simp only [ne_eq, grown, not_false_eq_true, if_true]
        refine .inr ⟨?_, trivial, Option.some_ne_none _⟩
        rintro ⟨_, same⟩
        exact same

theorem dispatch_invocations (handlers : Handlers) (before : Config) (paths : List (List String)) (distinct : paths.Nodup) :
    (∀ invocation ∈ (dispatchItems looks place handlers before paths).invocations,
        invocation.place = place ∧ invocation.path ∈ paths) ∧
      ((dispatchItems looks place handlers before paths).invocations.map Invocation.path).Nodup := by
  induction paths generalizing handlers before with
  | nil => exact ⟨fun _ inside => (by cases inside), List.nodup_nil⟩
  | cons path rest ih =>
      obtain ⟨fresh, distinct⟩ := List.nodup_cons.mp distinct
      have skipped (table : Handlers) (tree : Config) (invocation : Invocation)
          (inside : invocation ∈ (dispatchItems looks place table tree rest).invocations) :
          invocation.place = place ∧ invocation.path ∈ path :: rest :=
        ⟨((ih table tree distinct).1 invocation inside).1,
          List.mem_cons_of_mem path ((ih table tree distinct).1 invocation inside).2⟩
      cases found : fetchDictDeep ((looks path).meanwhile before) path with
      | none =>
          rw [dispatch_skips looks place handlers before path rest found]
          exact ⟨skipped _ _, (ih _ _ distinct).2⟩
      | some subconfig =>
          cases listed : handlers.get path with
          | none =>
              rw [dispatchItems, found, listed]
              exact ⟨skipped _ _, (ih _ _ distinct).2⟩
          | some handler =>
              rcases dispatch_calls looks place handlers before subconfig path rest handler listed found with
                ⟨_, _, goes⟩ | ⟨_, last, _⟩
              · rw [goes]
                refine ⟨fun invocation inside => ?_, List.nodup_cons.mpr ⟨fun again => ?_, (ih _ _ distinct).2⟩⟩
                · rcases List.mem_cons.mp inside with rfl | later
                  · exact ⟨rfl, List.mem_cons_self⟩
                  · exact skipped _ _ invocation later
                · obtain ⟨invocation, later, same⟩ := List.mem_map.mp again
                  have listed := ((ih _ _ distinct).1 invocation later).2
                  rw [same] at listed
                  exact fresh listed
              · rw [last]
                refine ⟨fun invocation inside => ?_, List.nodup_singleton path⟩
                rw [List.mem_singleton.mp inside]
                exact ⟨rfl, List.mem_cons_self⟩

structure ValueDelivered (paths : List (List String)) (dispatched : Dispatched) : Prop where
  each : ∀ path ∈ paths, ∀ handler, lastRegistered registrations path = some handler →
    ∀ subconfig, ⟨place, path, handler, subconfig⟩ ∈ dispatched.invocations ↔ fetchDictDeep config path = some subconfig
  only : ∀ invocation ∈ dispatched.invocations, lastRegistered registrations invocation.path = some invocation.handler
  goesOn : dispatched.leaving = none

-- The paths behind a call are owed the same with its invocation in front.
theorem delivered_behind (path : List String) (rest : List (List String)) (fresh : path ∉ rest) (handler : ConfigHandler)
    (subconfig : Config) (later : Dispatched) (registered : lastRegistered registrations path = some handler)
    (elsewhere : ∀ invocation ∈ later.invocations, invocation.path ∈ rest) :
    ValueDelivered registrations place config (path :: rest)
        { later with invocations := ⟨place, path, handler, subconfig⟩ :: later.invocations } ↔
      fetchDictDeep config path = some subconfig ∧ ValueDelivered registrations place config rest later := by
  have apart (invocation : Invocation) (inside : invocation ∈ later.invocations) : invocation.path ≠ path :=
    fun same => fresh (same ▸ elsewhere invocation inside)
  constructor
  · intro delivered
    refine ⟨(delivered.each path List.mem_cons_self handler registered subconfig).mp List.mem_cons_self, ?_, ?_, ?_⟩
    · intro other listed one known found
      rw [← delivered.each other (List.mem_cons_of_mem path listed) one known found, List.mem_cons, or_iff_right]
      intro same
      cases same
      exact fresh listed
    · exact fun invocation inside => delivered.only invocation (List.mem_cons_of_mem _ inside)
    · exact delivered.goesOn
  · rintro ⟨found, delivered⟩
    refine ⟨fun other listed one known sub => ?_, fun invocation inside => ?_, delivered.goesOn⟩
    · rw [List.mem_cons]
      rcases List.mem_cons.mp listed with rfl | behind
      · cases Option.some.inj (registered.symm.trans known)
        rw [found]
        constructor
        · rintro (same | inside)
          · cases same
            rfl
          · exact absurd rfl (apart _ inside)
        · intro same
          cases same
          exact .inl rfl
      · rw [← delivered.each other behind one known sub, or_iff_right]
        intro same
        cases same
        exact fresh behind
    · rcases List.mem_cons.mp inside with rfl | later
      · exact registered
      · exact delivered.only invocation later

theorem delivered_skipped (path : List String) (rest : List (List String)) (fresh : path ∉ rest) (handler : ConfigHandler)
    (later : Dispatched) (registered : lastRegistered registrations path = some handler)
    (elsewhere : ∀ invocation ∈ later.invocations, invocation.path ∈ rest) :
    ValueDelivered registrations place config (path :: rest) later ↔
      fetchDictDeep config path = none ∧ ValueDelivered registrations place config rest later := by
  have missing (one : ConfigHandler) (sub : Config) : ¬ ⟨place, path, one, sub⟩ ∈ later.invocations :=
    fun inside => fresh (elsewhere _ inside)
  constructor
  · intro delivered
    refine ⟨?_, fun other listed => delivered.each other (List.mem_cons_of_mem path listed), delivered.only,
      delivered.goesOn⟩
    cases found : fetchDictDeep config path with
    | none => rfl
    | some sub =>
        exact absurd ((delivered.each path List.mem_cons_self handler registered sub).mpr found) (missing handler sub)
  · rintro ⟨none, delivered⟩
    refine ⟨fun other listed one known sub => ?_, delivered.only, delivered.goesOn⟩
    rcases List.mem_cons.mp listed with rfl | behind
    · rw [none]
      exact iff_of_false (missing one sub) (by simp)
    · exact delivered.each other behind one known sub

theorem undisturbed_skips (handlers : Handlers) (before : Config) (path : List String) (rest : List (List String))
    (missing : fetchDictDeep ((looks path).meanwhile before) path = none) :
    Undisturbed registrations looks config handlers before (path :: rest) ↔ fetchDictDeep config path = none ∧
      Undisturbed registrations looks config handlers ((looks path).meanwhile before) rest := by
  rw [Undisturbed, missing]
  by_cases absent : fetchDictDeep config path = none
  · simp [absent]
  · exact iff_of_false (fun both => absent both.1.symm) (fun both => absent both.1)

theorem undisturbed_calls (handlers : Handlers) (before subconfig : Config) (path : List String)
    (rest : List (List String)) (handler : ConfigHandler) (listed : handlers.get path = some handler)
    (found : fetchDictDeep ((looks path).meanwhile before) path = some subconfig) :
    Undisturbed registrations looks config handlers before (path :: rest) ↔
      fetchDictDeep config path = some subconfig ∧ lastRegistered registrations path = some handler ∧
        (Isolated handler (looks path).ending ∧ ((looks path).subscribes handlers).keys.length = handlers.keys.length) ∧
        Undisturbed registrations looks config ((looks path).subscribes handlers) ((looks path).meanwhile before) rest := by
  rw [Undisturbed, found]
  by_cases there : fetchDictDeep config path = some subconfig
  · simp only [there, Option.isSome_some, if_true, true_and, listed, Option.mem_def, Option.some.injEq, forall_eq', and_assoc]
    rw [eq_comm]
  · exact iff_of_false (fun both => there both.1.symm) (fun both => there both.1)

theorem during_skips (handlers : Handlers) (path : List String) (rest : List (List String))
    (missing : fetchDictDeep config path = none) :
    subscribedDuring looks config handlers (path :: rest) = subscribedDuring looks config handlers rest := by
  rw [subscribedDuring, missing]
  rfl

theorem during_calls (handlers : Handlers) (subconfig : Config) (path : List String) (rest : List (List String))
    (found : fetchDictDeep config path = some subconfig) :
    subscribedDuring looks config handlers (path :: rest) =
      subscribedDuring looks config ((looks path).subscribes handlers) rest := by
  rw [subscribedDuring, found]
  rfl

-- One value is delivered exactly when its looks are undisturbed; the table is then
-- the one the looks left, with the paths it had.
theorem dispatch_delivered_iff (handlers : Handlers) (before : Config) (paths : List (List String)) (distinct : paths.Nodup)
    (known : ∀ path ∈ paths, path ∈ handlers.keys ∧ (lastRegistered registrations path).isSome = true) :
    (ValueDelivered registrations place config paths (dispatchItems looks place handlers before paths) ↔
        Undisturbed registrations looks config handlers before paths) ∧
      (Undisturbed registrations looks config handlers before paths →
        (dispatchItems looks place handlers before paths).handlers = subscribedDuring looks config handlers paths ∧
          (dispatchItems looks place handlers before paths).handlers.keys = handlers.keys) := by
  induction paths generalizing handlers before with
  | nil =>
      refine ⟨iff_of_true ⟨fun _ listed => (by cases listed), fun _ inside => (by cases inside), rfl⟩ trivial, ?_⟩
      exact fun _ => ⟨rfl, rfl⟩
  | cons path rest ih =>
      obtain ⟨fresh, distinct⟩ := List.nodup_cons.mp distinct
      obtain ⟨table, last⟩ := known path List.mem_cons_self
      obtain ⟨handler, listed⟩ := (Dict.mem_keys_iff handlers path).mp table
      obtain ⟨first, registered⟩ := Option.isSome_iff_exists.mp last
      have elsewhere (table : Handlers) (tree : Config) :=
        fun invocation inside => ((dispatch_invocations looks place table tree rest distinct).1 invocation inside).2
      cases found : fetchDictDeep ((looks path).meanwhile before) path with
      | none =>
          obtain ⟨later, after⟩ := ih handlers ((looks path).meanwhile before) distinct
            (fun other inside => known other (List.mem_cons_of_mem path inside))
          rw [dispatch_skips looks place handlers before path rest found,
            undisturbed_skips registrations looks config handlers before path rest found,
            delivered_skipped registrations place config path rest fresh first _ registered (elsewhere _ _), later]
          refine ⟨Iff.rfl, fun undisturbed => ?_⟩
          rw [during_skips looks config handlers path rest undisturbed.1]
          exact after undisturbed.2
      | some subconfig =>
          rw [undisturbed_calls registrations looks config handlers before subconfig path rest handler listed found]
          rcases dispatch_calls looks place handlers before subconfig path rest handler listed found with
            ⟨isolated, same, goes⟩ | ⟨disturbed, _, leaves⟩
          · have keys := subscribes_same_keys (looks path) handlers same
            obtain ⟨later, after⟩ := ih ((looks path).subscribes handlers) ((looks path).meanwhile before) distinct
              (fun other inside => keys ▸ known other (List.mem_cons_of_mem path inside))
            rw [goes]
            by_cases own : lastRegistered registrations path = some handler
            · rw [delivered_behind registrations place config path rest fresh handler subconfig _ own (elsewhere _ _), later]
              simp only [own, isolated, same, true_and]
              intro undisturbed
              rw [during_calls looks config handlers subconfig path rest undisturbed.1]
              exact ⟨(after undisturbed.2).1, (after undisturbed.2).2.trans keys⟩
            · refine ⟨iff_of_false (fun delivered => ?_) (fun both => own both.2.1), fun both => absurd both.2.1 own⟩
              exact own (delivered.only _ List.mem_cons_self)
          · refine ⟨iff_of_false (fun delivered => leaves delivered.goesOn) (fun both => disturbed both.2.2.1), ?_⟩
            exact fun both => absurd both.2.2.1 disturbed

end Value

section Queue

variable (looks : Nat → List String → Look)

theorem execute_stops (handlers : Handlers) (place : Nat) (config : Config) (rest : List Config) (leaving : Leaving)
    (left : (dispatchItems (looks place) place handlers config handlers.keys).leaving = some leaving) :
    executeQueued looks handlers place (config :: rest) =
      ⟨(dispatchItems (looks place) place handlers config handlers.keys).invocations, rest, some leaving⟩ := by
  rw [executeQueued]
  simp only [left]

theorem execute_goes (handlers : Handlers) (place : Nat) (config : Config) (rest : List Config)
    (goesOn : (dispatchItems (looks place) place handlers config handlers.keys).leaving = none) :
    executeQueued looks handlers place (config :: rest) =
      { executeQueued looks (dispatchItems (looks place) place handlers config handlers.keys).handlers (place + 1) rest with
        invocations := (dispatchItems (looks place) place handlers config handlers.keys).invocations ++
          (executeQueued looks (dispatchItems (looks place) place handlers config handlers.keys).handlers (place + 1)
            rest).invocations } := by
  rw [executeQueued]
  simp only [goesOn]

-- The calls are made place by place, and once for a place and a path.
theorem execute_places (handlers : Handlers) (base : Nat) (configs : List Config) :
    (∀ invocation ∈ (executeQueued looks handlers base configs).invocations,
        base ≤ invocation.place ∧ invocation.place < base + configs.length) ∧
      ((executeQueued looks handlers base configs).invocations.map fun invocation =>
        (invocation.place, invocation.path)).Nodup ∧
      (executeQueued looks handlers base configs).invocations.Pairwise fun earlier later => earlier.place ≤ later.place := by
  induction configs generalizing handlers base with
  | nil => exact ⟨fun _ inside => (by cases inside), List.nodup_nil, List.Pairwise.nil⟩
  | cons config rest ih =>
      obtain ⟨here, once⟩ := dispatch_invocations (looks base) base handlers config handlers.keys handlers.unique
      have first : ((dispatchItems (looks base) base handlers config handlers.keys).invocations.map fun invocation =>
          (invocation.place, invocation.path)).Nodup :=
        List.Nodup.of_map Prod.snd (by rw [List.map_map]; exact once)
      have together : (dispatchItems (looks base) base handlers config handlers.keys).invocations.Pairwise
          fun earlier later => earlier.place ≤ later.place :=
        List.pairwise_of_forall_mem_list fun earlier before later after =>
          Nat.le_of_eq ((here earlier before).1.trans (here later after).1.symm)
      rw [List.length_cons]
      cases left : (dispatchItems (looks base) base handlers config handlers.keys).leaving with
      | some leaving =>
          rw [execute_stops looks handlers base config rest leaving left]
          refine ⟨fun invocation inside => ?_, first, together⟩
          rw [(here invocation inside).1]
          omega
      | none =>
          rw [execute_goes looks handlers base config rest left]
          obtain ⟨later, distinct, sorted⟩ := ih (dispatchItems (looks base) base handlers config handlers.keys).handlers
            (base + 1)
          refine ⟨fun invocation inside => ?_, ?_, ?_⟩
          · rcases List.mem_append.mp inside with now | after
            · rw [(here invocation now).1]
              omega
            · obtain ⟨low, high⟩ := later invocation after
              omega
          · rw [List.map_append, List.nodup_append]
            refine ⟨first, distinct, fun pair now other after same => ?_⟩
            obtain ⟨earlier, before, rfl⟩ := List.mem_map.mp now
            obtain ⟨next, behind, rfl⟩ := List.mem_map.mp after
            have places : earlier.place = next.place := congrArg Prod.fst same
            rw [(here earlier before).1] at places
            have low := (later next behind).1
            omega
          · rw [List.pairwise_append]
            refine ⟨together, sorted, fun earlier before next behind => ?_⟩
            rw [(here earlier before).1]
            have low := (later next behind).1
            omega

structure QueueDelivered (registrations : List Registration) (base : Nat) (configs : List Config) (executed : Executed) :
    Prop where
  each : ∀ (index : Nat) (config : Config) (path : List String) (handler : ConfigHandler),
    configs[index]? = some config → lastRegistered registrations path = some handler →
      ∀ subconfig, ⟨base + index, path, handler, subconfig⟩ ∈ executed.invocations ↔
        fetchDictDeep config path = some subconfig
  only : ∀ invocation ∈ executed.invocations, lastRegistered registrations invocation.path = some invocation.handler
  goesOn : executed.leaving = none

theorem delivered_first (registrations : List Registration) (base : Nat) (config : Config) (rest : List Config)
    (paths : List (List String)) (dispatched : Dispatched) (later : Executed)
    (listed : ∀ path, path ∈ paths ↔ (lastRegistered registrations path).isSome = true)
    (here : ∀ invocation ∈ dispatched.invocations, invocation.place = base)
    (behind : ∀ invocation ∈ later.invocations, base < invocation.place) (goesOn : dispatched.leaving = none) :
    QueueDelivered registrations base (config :: rest)
        { later with invocations := dispatched.invocations ++ later.invocations } ↔
      ValueDelivered registrations base config paths dispatched ∧ QueueDelivered registrations (base + 1) rest later := by
  have now (path : List String) (handler : ConfigHandler) (subconfig : Config) :
      ⟨base, path, handler, subconfig⟩ ∈ dispatched.invocations ++ later.invocations ↔
        ⟨base, path, handler, subconfig⟩ ∈ dispatched.invocations := by
    rw [List.mem_append, or_iff_left]
    exact fun inside => absurd (behind _ inside) (Nat.lt_irrefl base)
  have next (index : Nat) (path : List String) (handler : ConfigHandler) (subconfig : Config) :
      ⟨base + 1 + index, path, handler, subconfig⟩ ∈ dispatched.invocations ++ later.invocations ↔
        ⟨base + 1 + index, path, handler, subconfig⟩ ∈ later.invocations := by
    rw [List.mem_append, or_iff_right]
    intro inside
    have place : base + 1 + index = base := here _ inside
    omega
  constructor
  · intro delivered
    refine ⟨⟨fun path _ handler known subconfig => ?_, fun invocation inside => ?_, goesOn⟩,
      ⟨fun index one path handler queued known subconfig => ?_, fun invocation inside => ?_, delivered.goesOn⟩⟩
    · rw [← now]
      exact delivered.each 0 config path handler rfl known subconfig
    · exact delivered.only invocation (List.mem_append_left _ inside)
    · rw [← next, Nat.add_right_comm]
      exact delivered.each (index + 1) one path handler queued known subconfig
    · exact delivered.only invocation (List.mem_append_right _ inside)
  · rintro ⟨value, queue⟩
    refine ⟨fun index one path handler queued known subconfig => ?_, fun invocation inside => ?_, queue.goesOn⟩
    · cases index with
      | zero =>
          cases queued
          have path_listed := (listed path).mpr (Option.isSome_iff_exists.mpr ⟨handler, known⟩)
          exact (now path handler subconfig).trans (value.each path path_listed handler known subconfig)
      | succ index =>
          rw [← Nat.add_assoc, Nat.add_right_comm, next]
          exact queue.each index one path handler queued known subconfig
    · rcases List.mem_append.mp inside with here | after
      · exact value.only invocation here
      · exact queue.only invocation after

theorem execute_delivered_iff (registrations : List Registration) (handlers : Handlers) (base : Nat) (configs : List Config)
    (listed : ∀ path, path ∈ handlers.keys ↔ (lastRegistered registrations path).isSome = true) :
    QueueDelivered registrations base configs (executeQueued looks handlers base configs) ↔
      AllUndisturbed registrations looks handlers base configs := by
  induction configs generalizing handlers base with
  | nil =>
      refine iff_of_true ⟨fun index config path handler queued => ?_, fun _ inside => ?_, rfl⟩ trivial
      · cases queued
      · cases inside
  | cons config rest ih =>
      obtain ⟨value, after⟩ := dispatch_delivered_iff registrations (looks base) base config handlers config handlers.keys
        handlers.unique (fun path inside => ⟨inside, (listed path).mp inside⟩)
      rw [AllUndisturbed]
      cases left : (dispatchItems (looks base) base handlers config handlers.keys).leaving with
      | some leaving =>
          rw [execute_stops looks handlers base config rest leaving left]
          refine iff_of_false (fun delivered => Option.some_ne_none leaving delivered.goesOn) (fun both => ?_)
          cases left.symm.trans (value.mpr both.1).goesOn
      | none =>
          rw [execute_goes looks handlers base config rest left, delivered_first registrations base config rest handlers.keys
            _ _ listed
            (fun invocation inside =>
              ((dispatch_invocations (looks base) base handlers config handlers.keys handlers.unique).1 invocation inside).1)
            (fun invocation inside => ((execute_places looks _ (base + 1) rest).1 invocation inside).1) left, value]
          constructor
          · rintro ⟨undisturbed, later⟩
            obtain ⟨table, keys⟩ := after undisturbed
            rw [table] at later keys
            exact ⟨undisturbed, (ih _ _ (fun path => by rw [keys]; exact listed path)).mp later⟩
          · rintro ⟨undisturbed, later⟩
            obtain ⟨table, keys⟩ := after undisturbed
            rw [table] at keys ⊢
            exact ⟨undisturbed, (ih _ _ (fun path => by rw [keys]; exact listed path)).mpr later⟩

theorem execute_drained (handlers : Handlers) (base : Nat) (configs : List Config)
    (goesOn : (executeQueued looks handlers base configs).leaving = none) :
    (executeQueued looks handlers base configs).queue = [] := by
  induction configs generalizing handlers base with
  | nil => rfl
  | cons config rest ih =>
      cases left : (dispatchItems (looks base) base handlers config handlers.keys).leaving with
      | some leaving =>
          rw [execute_stops looks handlers base config rest leaving left] at goesOn
          cases goesOn
      | none =>
          rw [execute_goes looks handlers base config rest left] at goesOn ⊢
          exact ih _ _ goesOn

end Queue

theorem config_dispatch_iff (registrations : List Registration) (configs : List Config) (looks : Nat → List String → Look) :
    Delivered registrations configs (executeQueued looks (subscribed registrations) 0 configs) ↔
      AllUndisturbed registrations looks (subscribed registrations) 0 configs := by
  have listed (path : List String) : path ∈ (subscribed registrations).keys ↔
      (lastRegistered registrations path).isSome = true := by
    rw [Dict.mem_keys_iff, subscribed_get, Option.isSome_iff_exists]
  rw [← execute_delivered_iff looks registrations (subscribed registrations) 0 configs listed]
  obtain ⟨places, once, ordered⟩ := execute_places looks (subscribed registrations) 0 configs
  constructor
  · intro delivered
    refine ⟨fun index config path handler queued known subconfig => ?_, fun invocation inside => ?_, delivered.goesOn⟩
    · rw [Nat.zero_add]
      exact delivered.each index config path handler queued known subconfig
    · exact (delivered.only invocation inside).2
  · intro delivered
    refine ⟨fun place config path handler queued known subconfig => ?_, once, ordered, fun invocation inside => ?_,
      execute_drained looks _ 0 configs delivered.goesOn, delivered.goesOn⟩
    · have each := delivered.each place config path handler queued known subconfig
      rwa [Nat.zero_add] at each
    · refine ⟨?_, delivered.only invocation inside⟩
      have bound := (places invocation inside).2
      rwa [Nat.zero_add] at bound

def partialFails : List Registration :=
  [⟨"/head//eyes/", ⟨0, none, "functools.partial"⟩⟩, ⟨"mouth", ⟨1, some "on_mouth", "function"⟩⟩]

def headAndEyes : List Registration :=
  [⟨"/head/", ⟨0, some "on_head", "function"⟩⟩, ⟨"head/eyes", ⟨1, some "on_eyes", "function"⟩⟩]

def headTree : Config := .dict [("head", .dict [("eyes", .value "1")]), ("mouth", .value "2")]

def failedRun : Executed :=
  executeQueued (fun _ path => ⟨id, [], if path = ["head", "eyes"] then .raised (.ok "bad value") else .returned⟩)
    (subscribed partialFails) 0 [headTree, headTree]

def poppedRun : Executed :=
  executeQueued
    (fun _ path => ⟨fun tree => if path = ["head", "eyes"] then .dict [("head", .dict [])] else tree, [], .returned⟩)
    (subscribed headAndEyes) 0 [headTree]

def grownRun : Executed :=
  executeQueued
    (fun _ path => ⟨id, if path = ["head"] then [⟨"mouth", ⟨2, some "on_mouth", "function"⟩⟩] else [], .returned⟩)
    (subscribed headAndEyes) 0 [headTree]

-- A partial has no `__name__`, so the message about its failure is what fails; a
-- key that is taken out hides its handler; and a table that grows ends the dispatch.
theorem handler_disturbs_dispatch :
    (failedRun.leaving = some (.raised (.exception "'functools.partial' object has no attribute '__name__'")) ∧
      failedRun.invocations.map Invocation.path = [["head", "eyes"]] ∧ failedRun.queue.length = 1 ∧
        ¬ Delivered partialFails [headTree, headTree] failedRun) ∧
    (poppedRun.leaving = none ∧ poppedRun.invocations.map Invocation.path = [["head"]] ∧
      ¬ Delivered headAndEyes [headTree] poppedRun) ∧
    grownRun.leaving = some sizeChanged ∧ grownRun.invocations.map Invocation.path = [["head"]] ∧
      ¬ Delivered headAndEyes [headTree] grownRun := by
  have failed : failedRun.leaving =
      some (.raised (.exception "'functools.partial' object has no attribute '__name__'")) := by decide +kernel
  have popped : poppedRun.invocations.map Invocation.path = [["head"]] := by decide +kernel
  have grown : grownRun.leaving = some sizeChanged := by decide +kernel
  refine ⟨⟨failed, by decide +kernel, by decide +kernel, fun delivered => ?_⟩,
    ⟨by decide +kernel, popped, fun delivered => ?_⟩, grown, by decide +kernel, fun delivered => ?_⟩
  · cases failed.symm.trans delivered.goesOn
  · have owed := (delivered.each 0 headTree ["head", "eyes"] ⟨1, some "on_eyes", "function"⟩ rfl (by decide +kernel)
      (.value "1")).mpr rfl
    have listed := List.mem_map_of_mem (f := Invocation.path) owed
    rw [popped] at listed
    exact absurd listed (by decide)
  · cases grown.symm.trans delivered.goesOn

def handlerOf (item : List String × ConfigHandler) : Handler := ⟨item.1, item.2.name, item.2.typeName⟩

-- A look that leaves the value and the table alone, and a call that ends as the
-- controller's flush has it.
def Seen (raises : Bool) (look : Look) : Prop :=
  look.meanwhile = id ∧ look.registers = [] ∧
    match look.ending with
    | .returned => raises = false
    | .raised text => raises = true ∧ ∃ message, text = .ok message
    | .left _ => False

theorem dispatch_items_leaving (looks : List String → Look) (raises : Nat → Bool) (place : Nat) (handlers : Handlers)
    (config : Config) (items : List (List String × ConfigHandler)) (base : Nat)
    (listed : ∀ item ∈ items, handlers.get item.1 = some item.2)
    (seen : ∀ (index : Nat) (item : List String × ConfigHandler), items[index]? = some item →
      Seen (raises (base + index)) (looks item.1)) :
    (dispatchItems looks place handlers config (items.map Prod.fst)).leaving =
        (dispatchConfig raises config base (items.map handlerOf)).map Leaving.raised ∧
      (dispatchItems looks place handlers config (items.map Prod.fst)).handlers = handlers := by
  induction items generalizing base with
  | nil => exact ⟨rfl, rfl⟩
  | cons item rest ih =>
      obtain ⟨path, handler⟩ := item
      have later := ih (base + 1) (fun item inside => listed item (List.mem_cons_of_mem _ inside)) (by
        intro index item present
        have inside := seen (index + 1) item present
        rwa [Nat.add_right_comm])
      have table : handlers.get path = some handler := listed (path, handler) List.mem_cons_self
      have here := seen 0 (path, handler) rfl
      rw [Nat.add_zero] at here
      obtain ⟨kept, silent, ends⟩ := here
      have same : (looks path).subscribes handlers = handlers := by rw [Look.subscribes, silent]; rfl
      have there : fetchDictDeep config (handlerOf (path, handler)).path = fetchDictDeep config path := rfl
      rw [List.map_cons, List.map_cons, dispatchItems, dispatchConfig, there, kept, same]
      simp only [id, table]
      cases found : fetchDictDeep config path with
      | none => simpa using later
      | some subconfig =>
          cases ending : (looks path).ending with
          | returned =>
              rw [ending] at ends
              simpa [handled, ends] using later
          | left exception =>
              rw [ending] at ends
              cases ends
          | raised text =>
              rw [ending] at ends
              obtain ⟨raising, message, rfl⟩ := ends
              cases named : handler.name with
              | none => simp [handled, handlerOf, missingName, raising, named]
              | some name => simpa [handled, handlerOf, raising, named] using later

-- With such looks the controller's flush finds the same queue and the same exception.
theorem execute_queued_flushed (handlers : Handlers) (looks : Nat → List String → Look) (raises : Nat → Nat → Bool)
    (configs : List Config) (base : Nat)
    (seen : ∀ (place index : Nat) (item : List String × ConfigHandler), handlers.entries[index]? = some item →
      Seen (raises place index) (looks place item.1)) :
    let updates := executeQueuedConfigUpdates (handlers.entries.map handlerOf) raises base configs
    let executed := executeQueued looks handlers base configs
    executed.queue = updates.1 ∧ executed.leaving = updates.2.map Leaving.raised := by
  induction configs generalizing base with
  | nil => exact ⟨rfl, rfl⟩
  | cons first rest ih =>
      obtain ⟨head, table⟩ := dispatch_items_leaving (looks base) (raises base) base handlers first handlers.entries 0
        (fun item inside => Entries.mem_find item.1 item.2 handlers.entries handlers.unique inside)
        (fun index item present => by rw [Nat.zero_add]; exact seen base index item present)
      dsimp only
      rw [executeQueuedConfigUpdates]
      cases flushed : dispatchConfig (raises base) first 0 (handlers.entries.map handlerOf) with
      | none =>
          rw [flushed] at head
          rw [execute_goes looks handlers base first rest head]
          have later := ih (base + 1)
          rw [Dict.keys, table]
          exact later
      | some raised =>
          rw [flushed] at head
          rw [execute_stops looks handlers base first rest _ head]
          exact ⟨rfl, rfl⟩

end Animacharacter.HardwareMng
