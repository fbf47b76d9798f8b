import Animacharacter.SessionMng.InitiateSession

set_option autoImplicit false

namespace Animacharacter.SessionMng

open StepSystem Authmsg

-- The calls of new_session that have got a context.
def CallPc.holdsContext : CallPc → Bool
  | .check | .criteria | .create | .returned none => false
  | .returned (some result) => result.success
  | .recheck | .refuse | .start | .joining | .abandon _ | .record => true

-- A move of the calls that leaves the returned ones and gives none a context.
structure CallsMove (calls next : List Call) : Prop where
  length : next.length = calls.length
  returned : ∀ (index : Nat) result, (calls[index]?).map Call.pc = some (.returned result) →
    (next[index]?).map Call.pc = some (.returned result)
  holds : ∀ (index : Nat) after, next[index]? = some after → after.pc.holdsContext = true →
    ∃ call, calls[index]? = some call ∧ call.pc.holdsContext = true

theorem calls_move_refl (calls : List Call) : CallsMove calls calls :=
  ⟨rfl, fun _ _ returned => returned, fun _ after present holds => ⟨after, present, holds⟩⟩

theorem calls_move_set (calls : List Call) (index : Nat) (call after : Call) (present : calls[index]? = some call)
    (returned : ∀ result, call.pc = .returned result → after.pc = call.pc)
    (holds : after.pc.holdsContext = true → call.pc.holdsContext = true) : CallsMove calls (calls.set index after) := by
  have inside := (List.getElem?_eq_some_iff.mp present).1
  refine ⟨List.length_set, ?_, ?_⟩
  · intro other result ended
    by_cases here : index = other
    · subst here
      rw [present, Option.map_some, Option.some_inj] at ended
      rw [List.getElem?_set_self inside, Option.map_some, returned result ended, ended]
    · rw [List.getElem?_set_ne here]
      exact ended
  · intro other next listed held
    by_cases here : index = other
    · subst here
      rw [List.getElem?_set_self inside] at listed
      cases listed
      exact ⟨call, present, holds held⟩
    · rw [List.getElem?_set_ne here] at listed
      exact ⟨next, listed, held⟩

-- A step of new_session: only the creation of the context gives it one.
theorem new_session_step_call (manager next : SessionManager) (index : Nat) (call : Call) (outcome : Outcome)
    (moved : manager.newSessionStep index call outcome = some next) :
    ∃ after, next.calls = manager.calls.set index after ∧ (∀ result, call.pc ≠ .returned result) ∧
      (after.pc.holdsContext = true → call.pc.holdsContext = true ∨ call.pc = .create ∧ outcome = .ok) := by
  cases at_pc : call.pc with
  | check =>
      simp only [SessionManager.newSessionStep, at_pc] at moved
      split at moved
      · cases moved
      · split at moved <;> cases moved <;> exact ⟨_, rfl, (fun _ same => by cases same), (fun held => by cases held)⟩
  | criteria =>
      simp only [SessionManager.newSessionStep, at_pc] at moved
      split at moved <;> cases moved <;> exact ⟨_, rfl, (fun _ same => by cases same), (fun held => by cases held)⟩
  | create =>
      simp only [SessionManager.newSessionStep, at_pc] at moved
      split at moved <;> cases moved
      · exact ⟨_, rfl, (fun _ same => by cases same), fun _ => .inr ⟨rfl, rfl⟩⟩
      · exact ⟨_, rfl, (fun _ same => by cases same), (fun held => by cases held)⟩
      · exact ⟨_, rfl, (fun _ same => by cases same), (fun held => by cases held)⟩
  | recheck =>
      simp only [SessionManager.newSessionStep, at_pc] at moved
      split at moved
      · cases moved
      · split at moved <;> cases moved <;> exact ⟨_, rfl, (fun _ same => by cases same), fun _ => .inl rfl⟩
  | refuse | abandon exc | record =>
      simp only [SessionManager.newSessionStep, at_pc] at moved
      cases moved
      exact ⟨_, rfl, (fun _ same => by cases same), fun _ => .inl rfl⟩
  | start | joining =>
      simp only [SessionManager.newSessionStep, at_pc] at moved
      split at moved <;> cases moved <;> exact ⟨_, rfl, (fun _ same => by cases same), fun _ => .inl rfl⟩
  | returned result =>
      simp only [SessionManager.newSessionStep, at_pc] at moved
      cases moved

theorem runner_step_call (manager next : SessionManager) (index : Nat) (call : Call) (ending : CleanupEnd)
    (moved : manager.runnerStep index call ending = some next) :
    ∃ after, next.calls = manager.calls.set index after ∧ after.pc = call.pc := by
  cases thread : call.thread with
  | none => simp only [SessionManager.runnerStep, thread] at moved; cases moved
  | some pc =>
      simp only [SessionManager.runnerStep, thread] at moved
      cases pc with
      | cleanup | destroy => cases ending <;> cases moved <;> exact ⟨_, rfl, rfl⟩
      | run | clear | userCleanup => cases moved; exact ⟨_, rfl, rfl⟩
      | ended => cases moved

theorem new_session_step_move (manager next : SessionManager) (index : Nat) (call : Call) (outcome : Outcome)
    (present : manager.calls[index]? = some call) (away : call.pc ≠ .create)
    (moved : manager.newSessionStep index call outcome = some next) : CallsMove manager.calls next.calls := by
  obtain ⟨after, calls, under, holds⟩ := new_session_step_call manager next index call outcome moved
  rw [calls]
  refine calls_move_set manager.calls index call after present ?_ ?_
  · intro result ended
    exact absurd ended (under result)
  · intro held
    rcases holds held with before | ⟨creating, _⟩
    · exact before
    · exact absurd creating away

namespace SessManagerNode

-- The steps of the node that neither begin a call nor create a context.
theorem step_calls_move (node next : SessManagerNode) (action : SessNodeAction)
    (begins : action ≠ .createSession)
    (away : ∀ outcome, action = .callStep outcome → ∀ call, node.manager.calls[node.current]? = some call → call.pc ≠ .create)
    (moved : node.step action = some next) : CallsMove node.manager.calls next.manager.calls := by
  cases action with
  | createSession => exact absurd rfl begins
  | criteria service =>
      simp only [step, criteriaStep] at moved
      split at moved
      · cases moved
      · rename_i call present
        split at moved
        · rename_i validating
          simp only [Option.map_eq_some_iff] at moved
          obtain ⟨manager, stepped, rfl⟩ := moved
          exact new_session_step_move node.manager manager node.current call _ present
            (by rw [validating]; intro same; cases same) stepped
        · cases moved
  | callStep outcome =>
      simp only [step, callStep] at moved
      split at moved
      · cases moved
      · rename_i call present
        split at moved
        · cases moved
        · simp only [Option.map_eq_some_iff] at moved
          obtain ⟨manager, stepped, rfl⟩ := moved
          exact new_session_step_move node.manager manager node.current call outcome present
            (away outcome rfl call present) stepped
  | runnerStep index ending executor =>
      simp only [step, runnerStep] at moved
      split at moved
      · cases moved
      · rename_i call present
        simp only [Option.map_eq_some_iff] at moved
        obtain ⟨manager, stepped, rfl⟩ := moved
        obtain ⟨after, calls, same⟩ := runner_step_call node.manager manager index call ending stepped
        change CallsMove node.manager.calls manager.calls
        rw [calls]
        exact calls_move_set node.manager.calls index call after present (fun _ _ => same) (fun held => same ▸ held)
  | cleanupSession position service =>
      simp only [step] at moved
      split at moved <;> cases moved
      exact calls_move_refl node.manager.calls
  | overdueDeactivate =>
      simp only [step] at moved
      split at moved <;> cases moved
      exact calls_move_refl node.manager.calls

end SessManagerNode

section Posts

variable {Obj : Type}

-- What a request has come to, by the calls of new_session and their contexts.
structure Posted (calls : List Call) (contexts : List (Option (Created Obj))) (post : Post) : Prop where
  inside : ∀ call, post.service.call? = some call → call < calls.length
  requested : post.service ≠ .idle → post.apikey = CLIENT_KEY ∧
    ∃ host, post.host = some host ∧ post.request = some ⟨host, post.udpPort⟩
  unheard : post.listener = .auth → post.service = .idle
  made : ∀ call created, post.service.call? = some call → contexts[call]? = some (some created) →
    post.request = some created.args
  answered : ∀ call response, post.service = .answered (some call) response →
    ∃ result, (calls[call]?).map Call.pc = some (.returned (some result)) ∧
      response = SessionSetup.response result (contexts[call]?).join
  inactive : ∀ response, post.service = .answered none response → response.success = false
  listened : ∀ answer, post.listener = .returned answer →
    (∃ call response, post.service = .answered call response ∧ answer = some (.ofResult response)) ∨
      (post.abandoned = true ∨ post.service = .idle) ∧ ∀ response ∈ answer, response.success = false
  refused : post.outcome = some (.ok false) → post.abandoned = true ∨
    ∃ answer, post.listener = .returned answer ∧ ∀ response ∈ answer, response.success = false
  attended : ∀ outcome, post.outcome = some outcome → outcome ≠ .ok false →
    ∃ response, post.listener = .returned (some response) ∧ response.success = true

-- A request that the listener has not looked at yet.
theorem idle_posted (calls : List Call) (contexts : List (Option (Created Obj))) (post : Post)
    (idle : post.service = .idle) (unheard : post.listener = .auth) (under : post.outcome = none) :
    Posted calls contexts post := by
  constructor
  case requested => exact fun called => absurd idle called
  case unheard => exact fun _ => idle
  all_goals simp [idle, unheard, under, ServicePc.call?]

-- The calls and contexts that what a request has come to stays true of.
structure Grows (calls : List Call) (contexts : List (Option (Created Obj))) (nextCalls : List Call)
    (next : List (Option (Created Obj))) : Prop where
  length : calls.length ≤ nextCalls.length
  returned : ∀ (index : Nat) result, (calls[index]?).map Call.pc = some (.returned result) →
    (nextCalls[index]?).map Call.pc = some (.returned result) ∧ next[index]? = contexts[index]?

theorem posted_grows (calls nextCalls : List Call) (contexts next : List (Option (Created Obj))) (post : Post)
    (posted : Posted calls contexts post) (grows : Grows calls contexts nextCalls next)
    (made : ∀ call created, post.service.call? = some call → next[call]? = some (some created) →
      post.request = some created.args) : Posted nextCalls next post where
  inside call led := Nat.lt_of_lt_of_le (posted.inside call led) grows.length
  requested := posted.requested
  unheard := posted.unheard
  made := made
  answered call response answered := by
    obtain ⟨result, returned, same⟩ := posted.answered call response answered
    obtain ⟨later, kept⟩ := grows.returned call _ returned
    exact ⟨result, later, kept ▸ same⟩
  inactive := posted.inactive
  listened := posted.listened
  refused := posted.refused
  attended := posted.attended

-- The steps that change nothing but one request.
inductive PostStep (calls : List Call) (contexts : List (Option (Created Obj))) (post : Post) : Post → Prop
  | auth (serviceIsReady : Bool) (unheard : post.listener = .auth) :
      PostStep calls contexts post (SessionSetup.auth post serviceIsReady)
  | inactive (msg : String) (queued : post.service = .queued) :
      PostStep calls contexts post { post with service := .answered none { success := false, msg } }
  | raised (call : Nat) (serving : post.service = .serving call) :
      PostStep calls contexts post { post with service := .raised call }
  | responded (call : Nat) (result : SessionStartResult) (serving : post.service = .serving call)
      (returned : (calls[call]?).map Call.pc = some (.returned (some result))) :
      PostStep calls contexts post { post with
        service := .answered (some call) (SessionSetup.response result (contexts[call]?).join) }
  | listened (wait : ServiceWait) (after : Post) (returns : SessionSetup.listenerReturns post wait = some after) :
      PostStep calls contexts post after

theorem listener_returns_cases (post after : Post) (wait : ServiceWait)
    (returns : SessionSetup.listenerReturns post wait = some after) :
    post.listener = .waiting ∧
      ((∃ call response, post.service = .answered call response ∧
        after = { post with listener := .returned (some (.ofResult response)) }) ∨
      (∃ answer, (∀ response ∈ answer, response.success = false) ∧
        after = { post with listener := .returned answer, abandoned := true })) := by
  rw [SessionSetup.listenerReturns.eq_def] at returns
  split at returns
  · rename_i waiting
    split at returns
    · rename_i call response answered
      cases returns
      exact ⟨waiting, .inl ⟨call, response, answered, rfl⟩⟩
    · cases returns
  · rename_i waiting
    cases returns
    exact ⟨waiting, .inr ⟨_, by simp, rfl⟩⟩
  · rename_i waiting
    cases returns
    exact ⟨waiting, .inr ⟨none, (fun _ heard => by cases heard), rfl⟩⟩
  · cases returns

theorem auth_cases (post : Post) (serviceIsReady : Bool) :
    (∃ answer, (∀ response ∈ answer, response.success = false) ∧
      SessionSetup.auth post serviceIsReady = { post with listener := .returned answer }) ∨
    (∃ host, post.host = some host ∧ post.apikey = CLIENT_KEY ∧ SessionSetup.auth post serviceIsReady =
      { post with request := some ⟨host, post.udpPort⟩, service := .queued, listener := .waiting }) := by
  rw [SessionSetup.auth.eq_def]
  split
  · exact .inl ⟨none, (fun _ heard => by cases heard), rfl⟩
  · rename_i known
    split
    · exact .inl ⟨none, (fun _ heard => by cases heard), rfl⟩
    · rename_i host seen
      split
      · exact .inr ⟨host, seen, not_not.mp known, rfl⟩
      · exact .inl ⟨_, by simp, rfl⟩

-- What such a step keeps: whose request it is, how its call has ended and which
-- call of new_session it has led to.
structure PostSame (post after : Post) : Prop where
  client : after.client = post.client
  udpPort : after.udpPort = post.udpPort
  outcome : after.outcome = post.outcome
  call : after.service.call? = post.service.call?

theorem post_step_same (calls : List Call) (contexts : List (Option (Created Obj))) (post after : Post)
    (posted : Posted calls contexts post) (moved : PostStep calls contexts post after) : PostSame post after := by
  cases moved with
  | auth serviceIsReady unheard =>
      rcases auth_cases post serviceIsReady with ⟨answer, _, same⟩ | ⟨host, _, _, same⟩ <;> rw [same]
      · exact ⟨rfl, rfl, rfl, rfl⟩
      · exact ⟨rfl, rfl, rfl, by rw [posted.unheard unheard]; rfl⟩
  | inactive msg queued => exact ⟨rfl, rfl, rfl, by rw [queued]; rfl⟩
  | raised call serving => exact ⟨rfl, rfl, rfl, by rw [serving]; rfl⟩
  | responded call result serving returned => exact ⟨rfl, rfl, rfl, by rw [serving]; rfl⟩
  | listened wait after returns =>
      obtain ⟨_, ⟨call, response, _, rfl⟩ | ⟨answer, _, rfl⟩⟩ := listener_returns_cases post after wait returns <;>
        exact ⟨rfl, rfl, rfl, rfl⟩

-- A listener that has returned before the service answered has given up.
theorem posted_gave_up (calls : List Call) (contexts : List (Option (Created Obj))) (post : Post)
    (posted : Posted calls contexts post) (called : post.service ≠ .idle)
    (unanswered : ∀ call response, post.service ≠ .answered call response) (answer : Option SessionCreationHttpResponse)
    (returned : post.listener = .returned answer) :
    post.abandoned = true ∧ ∀ response ∈ answer, response.success = false := by
  rcases posted.listened answer returned with ⟨call, response, answered, _⟩ | ⟨gaveUp | idle, failed⟩
  · exact absurd answered (unanswered call response)
  · exact ⟨gaveUp, failed⟩
  · exact absurd idle called

-- The service goes on with a request that it has.
theorem posted_served (calls : List Call) (contexts : List (Option (Created Obj))) (post : Post) (service : ServicePc)
    (posted : Posted calls contexts post) (called : post.service ≠ .idle)
    (unanswered : ∀ call response, post.service ≠ .answered call response)
    (inside : ∀ call, service.call? = some call → call < calls.length)
    (made : ∀ call created, service.call? = some call → contexts[call]? = some (some created) →
      post.request = some created.args)
    (answered : ∀ call response, service = .answered (some call) response →
      ∃ result, (calls[call]?).map Call.pc = some (.returned (some result)) ∧
        response = SessionSetup.response result (contexts[call]?).join)
    (inactive : ∀ response, service = .answered none response → response.success = false) :
    Posted calls contexts { post with service } where
  inside := inside
  requested _ := posted.requested called
  unheard unheard := absurd (posted.unheard unheard) called
  made := made
  answered := answered
  inactive := inactive
  listened answer returned := by
    obtain ⟨gaveUp, failed⟩ := posted_gave_up calls contexts post posted called unanswered answer returned
    exact .inr ⟨.inl gaveUp, failed⟩
  refused := posted.refused
  attended := posted.attended

-- The listener returns an answer to a request that it had none for.
theorem posted_listened (calls : List Call) (contexts : List (Option (Created Obj))) (post : Post)
    (answer : Option SessionCreationHttpResponse) (abandoned : Bool) (posted : Posted calls contexts post)
    (unreturned : ∀ earlier, post.listener ≠ .returned earlier) (keeps : post.abandoned = true → abandoned = true)
    (listened : (∃ call response, post.service = .answered call response ∧ answer = some (.ofResult response)) ∨
      (abandoned = true ∨ post.service = .idle) ∧ ∀ response ∈ answer, response.success = false) :
    Posted calls contexts { post with listener := .returned answer, abandoned } where
  inside := posted.inside
  requested := posted.requested
  unheard unheard := by cases unheard
  made := posted.made
  answered := posted.answered
  inactive := posted.inactive
  listened returned ended := by
    cases ended
    exact listened
  refused ended := by
    rcases posted.refused ended with gaveUp | ⟨earlier, returned, _⟩
    · exact .inl (keeps gaveUp)
    · exact absurd returned (unreturned earlier)
  attended outcome ended attends := by
    obtain ⟨response, returned, _⟩ := posted.attended outcome ended attends
    exact absurd returned (unreturned (some response))

theorem post_step_posted (calls : List Call) (contexts : List (Option (Created Obj))) (post after : Post)
    (posted : Posted calls contexts post) (moved : PostStep calls contexts post after) :
    Posted calls contexts after := by
  cases moved with
  | auth serviceIsReady unheard =>
      have idle := posted.unheard unheard
      have unreturned (answer : Option SessionCreationHttpResponse) : post.listener ≠ .returned answer := by
        rw [unheard]
        intro same
        cases same
      rcases auth_cases post serviceIsReady with ⟨answer, failed, changed⟩ | ⟨host, seen, known, changed⟩
      · rw [changed]
        exact posted_listened calls contexts post answer post.abandoned posted unreturned id (.inr ⟨.inr idle, failed⟩)
      · rw [changed]
        refine ⟨(fun _ led => by cases led), fun _ => ⟨known, host, seen, rfl⟩, (fun heard => by cases heard),
          (fun _ _ led => by cases led), (fun _ _ answered => by cases answered), (fun _ answered => by cases answered),
          (fun _ returned => by cases returned), ?_, ?_⟩
        · intro ended
          rcases posted.refused ended with gaveUp | ⟨answer, returned, _⟩
          · exact .inl gaveUp
          · exact absurd returned (unreturned answer)
        · intro outcome ended attends
          obtain ⟨response, returned, _⟩ := posted.attended outcome ended attends
          exact absurd returned (unreturned _)
  | inactive msg queued =>
      refine posted_served calls contexts post _ posted (by rw [queued]; intro same; cases same)
        (by rw [queued]; intro _ _ same; cases same) (fun _ led => by cases led) (fun _ _ led => by cases led)
        (fun _ _ answered => by cases answered) ?_
      intro response answered
      cases answered
      rfl
  | raised call serving =>
      exact posted_served calls contexts post _ posted (by rw [serving]; intro same; cases same)
        (by rw [serving]; intro _ _ same; cases same) (fun other led => posted.inside other (by rw [serving]; exact led))
        (fun other created led => posted.made other created (by rw [serving]; exact led))
        (fun _ _ answered => by cases answered) (fun _ answered => by cases answered)
  | responded call result serving returned =>
      refine posted_served calls contexts post _ posted (by rw [serving]; intro same; cases same)
        (by rw [serving]; intro _ _ same; cases same) (fun other led => posted.inside other (by rw [serving]; exact led))
        (fun other created led => posted.made other created (by rw [serving]; exact led)) ?_
        (fun _ answered => by cases answered)
      intro other response answered
      cases answered
      exact ⟨result, returned, rfl⟩
  | listened wait after returns =>
      obtain ⟨waiting, ends⟩ := listener_returns_cases post after wait returns
      have unreturned (answer : Option SessionCreationHttpResponse) : post.listener ≠ .returned answer := by
        rw [waiting]
        intro same
        cases same
      rcases ends with ⟨call, response, answered, rfl⟩ | ⟨answer, failed, rfl⟩
      · exact posted_listened calls contexts post _ post.abandoned posted unreturned id
          (.inl ⟨call, response, answered, rfl⟩)
      · exact posted_listened calls contexts post answer true posted unreturned (fun _ => rfl) (.inr ⟨.inl rfl, failed⟩)

end Posts

namespace SessionSetup

variable {Obj : Type}

inductive Stepped (setup : SessionSetup Obj) : SetupAction Obj → SessionSetup Obj → Prop
  | initiated {action : SetupAction Obj} (index : Nat) (host : Option String) (client : AnimacharacterSessionClient)
      (present : setup.clients[index]? = some client)
      (idle : ∀ post ∈ setup.posts, post.client = index → post.outcome ≠ none) :
      Stepped setup action { setup with posts := setup.posts ++
        [⟨index, client.authKey, host, client.localUdpPort, none, .idle, .auth, false, none⟩] }
  | posted {action : SetupAction Obj} (index : Nat) (post after : Post) (present : setup.posts[index]? = some post)
      (moved : PostStep setup.node.manager.calls setup.contexts post after) : Stepped setup action (setup.setPost index after)
  | served {action : SetupAction Obj} (index : Nat) (post : Post) (node : SessManagerNode)
      (present : setup.posts[index]? = some post) (queued : post.service = .queued)
      (begun : node.manager.calls = setup.node.manager.calls ++ [Call.fresh]) :
      Stepped setup action { setup.setPost index { post with service := .serving setup.node.manager.calls.length } with
        node, contexts := setup.contexts ++ [none] }
  | moved {action : SetupAction Obj} (node : SessManagerNode)
      (move : CallsMove setup.node.manager.calls node.manager.calls) : Stepped setup action { setup with node }
  | created (index : Nat) (platform : Platform Obj) (post : Post) (args : ACSessionCreationArguments)
      (ctx : ACSessionContext Obj) (sockets : Sockets) (call after : Call) (node : SessManagerNode)
      (present : setup.posts[index]? = some post) (serving : post.service = .serving setup.node.current)
      (request : post.request = some args) (made : SessionMng.create platform args .init = .ok ctx sockets)
      (current : setup.node.manager.calls[setup.node.current]? = some call) (creating : call.pc = .create)
      (calls : node.manager.calls = setup.node.manager.calls.set setup.node.current after) :
      Stepped setup (.create index platform)
        { setup with node, contexts := setup.contexts.set setup.node.current (some ⟨args, ctx, sockets⟩) }
  | activity {action : SetupAction Obj} (isActive : Bool) : Stepped setup action { setup with isActive }
  | returned (index : Nat) (arrives : Bool) (dials : Channel → Bool) (post : Post) (client : AnimacharacterSessionClient)
      (body : Option JsonBody) (present : setup.posts[index]? = some post) (under : post.outcome = none)
      (listed : setup.clients[post.client]? = some client) (received : received post arrives = some body) :
      Stepped setup (.clientReturns index arrives dials) ((setup.setPost index
        { post with
          abandoned := post.abandoned || !arrives, outcome := some (client.initiate body dials).2 }).setClient post.client
        (client.initiate body dials).1)
  | traffic {action : SetupAction Obj} (index : Nat) (client after : AnimacharacterSessionClient)
      (present : setup.clients[index]? = some client) (kept : client.Traffic after) :
      Stepped setup action (setup.setClient index after)

theorem call_step_current (node next : SessManagerNode) (call : Call) (outcome : Outcome)
    (current : node.manager.calls[node.current]? = some call) (creating : call.pc = .create)
    (moved : node.step (.callStep outcome) = some next) :
    ∃ after, next.manager.calls = node.manager.calls.set node.current after ∧
      (after.pc.holdsContext = true → outcome = .ok) := by
  simp only [SessManagerNode.step, SessManagerNode.callStep, current] at moved
  rw [if_neg (by rw [creating]; intro same; cases same)] at moved
  simp only [Option.map_eq_some_iff] at moved
  obtain ⟨manager, stepped, rfl⟩ := moved
  obtain ⟨after, calls, _, holds⟩ := new_session_step_call node.manager manager node.current call outcome stepped
  refine ⟨after, calls, ?_⟩
  intro held
  rcases holds held with before | ⟨_, ok⟩
  · rw [creating] at before
    cases before
  · exact ok

theorem at_create_call (setup : SessionSetup Obj) (creating : setup.atCreate = true) :
    ∃ call, setup.node.manager.calls[setup.node.current]? = some call ∧ call.pc = .create := by
  obtain ⟨call, current, holds⟩ := (Option.any_eq_true _ _).mp creating
  exact ⟨call, current, of_decide_eq_true holds⟩

theorem node_step_stepped (setup next : SessionSetup Obj) (action : SetupAction Obj) (inner : SessNodeAction)
    (begins : inner ≠ .createSession) (away : ∀ outcome, inner = .callStep outcome → setup.atCreate = false)
    (moved : setup.nodeStep inner = some next) : Stepped setup action next := by
  rw [nodeStep, Option.map_eq_some_iff] at moved
  obtain ⟨node, stepped, rfl⟩ := moved
  refine .moved node (SessManagerNode.step_calls_move setup.node node inner begins ?_ stepped)
  intro outcome same call current creating
  have off := away outcome same
  rw [atCreate, current, Option.any_some, creating] at off
  cases off

theorem client_returns_cases (setup next : SessionSetup Obj) (index : Nat) (arrives : Bool) (dials : Channel → Bool)
    (moved : setup.step (.clientReturns index arrives dials) = some next) :
    ∃ post client body, setup.posts[index]? = some post ∧ post.outcome = none ∧
      setup.clients[post.client]? = some client ∧ received post arrives = some body ∧
      next = (setup.setPost index { post with
        abandoned := post.abandoned || !arrives, outcome := some (client.initiate body dials).2 }).setClient post.client
          (client.initiate body dials).1 := by
  simp only [step, Option.bind_eq_some_iff] at moved
  obtain ⟨post, present, moved⟩ := moved
  rw [clientReturns] at moved
  split at moved
  · rename_i client body under listed received
    cases moved
    exact ⟨post, client, body, present, under, listed, received, rfl⟩
  · cases moved

theorem step_cases (setup next : SessionSetup Obj) (action : SetupAction Obj) (moved : setup.step action = some next) :
    Stepped setup action next := by
  cases action with
  | initiateSession index host =>
      simp only [step, initiateSession] at moved
      split at moved
      · cases moved
      · rename_i client present
        split at moved <;> cases moved
        rename_i idle
        refine .initiated index host client present ?_
        intro post inside own under
        have ended := List.all_eq_true.mp idle post inside
        simp [own, under] at ended
  | auth index serviceIsReady =>
      simp only [step, Option.bind_eq_some_iff] at moved
      obtain ⟨post, present, moved⟩ := moved
      split at moved <;> cases moved
      rename_i unheard
      exact .posted index post _ present (.auth serviceIsReady unheard)
  | createSession index =>
      simp only [step, Option.bind_eq_some_iff] at moved
      obtain ⟨post, present, moved⟩ := moved
      split at moved
      · rename_i queued
        simp only [createSession] at moved
        split at moved
        · simp only [Option.map_eq_some_iff, SessManagerNode.step] at moved
          obtain ⟨node, begun, rfl⟩ := moved
          split at begun <;> cases begun
          exact .served index post _ present queued rfl
        · split at moved <;> cases moved
          exact .posted index post _ present (.inactive _ queued)
      · cases moved
  | create index platform =>
      simp only [step, Option.bind_eq_some_iff] at moved
      obtain ⟨post, present, moved⟩ := moved
      split at moved
      · rename_i here
        obtain ⟨args, request, moved⟩ := Option.bind_eq_some_iff.mp moved
        obtain ⟨call, current, creating⟩ := at_create_call setup here.2
        rw [create] at moved
        split at moved
        · rename_i ctx sockets made
          obtain ⟨node, stepped, rfl⟩ := Option.map_eq_some_iff.mp moved
          obtain ⟨after, calls, _⟩ := call_step_current setup.node node call .ok current creating stepped
          exact .created index platform post args ctx sockets call after node present here.1 request made current
            creating calls
        · obtain ⟨node, stepped, rfl⟩ := Option.map_eq_some_iff.mp moved
          obtain ⟨after, calls, holds⟩ := call_step_current setup.node node call _ current creating stepped
          refine .moved node ?_
          rw [calls]
          refine calls_move_set setup.node.manager.calls _ call after current ?_ ?_
          · intro result ended
            rw [creating] at ended
            cases ended
          · intro held
            cases holds held
      · cases moved
  | respond index =>
      simp only [step, Option.bind_eq_some_iff] at moved
      obtain ⟨post, present, moved⟩ := moved
      split at moved
      · rename_i call serving
        rw [respond] at moved
        split at moved
        · cases moved
          exact .posted index post _ present (.raised call serving)
        · rename_i result returned
          cases moved
          exact .posted index post _ present (.responded call result serving returned)
        · cases moved
      · cases moved
  | node inner =>
      cases inner with
      | createSession => cases moved
      | callStep outcome =>
          simp only [step] at moved
          split at moved
          · cases moved
          · rename_i off
            exact node_step_stepped setup next _ (.callStep outcome) (fun same => by cases same)
              (fun _ _ => by simpa using off) moved
      | criteria service =>
          exact node_step_stepped setup next _ (.criteria service) (fun same => by cases same)
            (fun _ same => by cases same) moved
      | runnerStep index ending executor =>
          exact node_step_stepped setup next _ (.runnerStep index ending executor) (fun same => by cases same)
            (fun _ same => by cases same) moved
      | cleanupSession position service =>
          exact node_step_stepped setup next _ (.cleanupSession position service) (fun same => by cases same)
            (fun _ same => by cases same) moved
      | overdueDeactivate =>
          exact node_step_stepped setup next _ .overdueDeactivate (fun same => by cases same)
            (fun _ same => by cases same) moved
  | activity isActive =>
      cases moved
      exact .activity isActive
  | listenerReturns index wait =>
      simp only [step, Option.bind_eq_some_iff, Option.map_eq_some_iff] at moved
      obtain ⟨post, present, after, returns, rfl⟩ := moved
      exact .posted index post after present (.listened wait after returns)
  | clientReturns index arrives dials =>
      obtain ⟨post, client, body, present, under, listed, received, rfl⟩ :=
        client_returns_cases setup next index arrives dials moved
      exact .returned index arrives dials post client body present under listed received
  | clientSends index channel msg =>
      simp only [step, Option.bind_eq_some_iff, Option.map_eq_some_iff] at moved
      obtain ⟨client, present, after, sent, rfl⟩ := moved
      rw [AnimacharacterSessionClient.send] at sent
      split at sent <;> cases sent
      rename_i initialized
      exact .traffic index client _ present (set_proto_traffic client channel _ initialized rfl)
  | clientReceives index channel data =>
      simp only [step, Option.bind_eq_some_iff, Option.map_eq_some_iff] at moved
      obtain ⟨client, present, after, taken, rfl⟩ := moved
      rw [AnimacharacterSessionClient.receive] at taken
      split at taken <;> cases taken
      rename_i initialized
      exact .traffic index client _ present
        (set_proto_traffic client channel _ initialized (SecureWireProtocol.unpack_psk _ data))

end SessionSetup

end Animacharacter.SessionMng
