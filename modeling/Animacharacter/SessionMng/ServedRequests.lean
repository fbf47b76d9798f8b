import Animacharacter.SessionMng.SessionRequests

set_option autoImplicit false

namespace Animacharacter.SessionMng

open StepSystem Authmsg

namespace SessionSetup

variable {Obj : Type}

-- The call of new_session that a request has led to, by the request's place.
def calledBy (posts : List Post) (index : Nat) : Option Nat := (posts[index]?).bind fun post => post.service.call?

theorem called_by_set (posts : List Post) (index other : Nat) (post after : Post) (present : posts[index]? = some post) :
    calledBy (posts.set index after) other = if index = other then after.service.call? else calledBy posts other := by
  rw [calledBy, List.getElem?_set]
  split
  · rw [if_pos (List.getElem?_eq_some_iff.mp present).1]
    rfl
  · rfl

theorem called_by_same (posts : List Post) (index other : Nat) (post after : Post) (present : posts[index]? = some post)
    (same : after.service.call? = post.service.call?) : calledBy (posts.set index after) other = calledBy posts other := by
  rw [called_by_set posts index other post after present]
  split
  · rename_i here
    rw [same, calledBy, ← here, present]
    rfl
  · rfl

theorem called_by_append (posts : List Post) (post : Post) (index : Nat) (uncalled : post.service.call? = none) :
    calledBy (posts ++ [post]) index = calledBy posts index := by
  rw [calledBy, calledBy]
  rcases Nat.lt_or_ge index posts.length with inside | outside
  · rw [List.getElem?_append_left inside]
  · rw [List.getElem?_append_right outside, List.getElem?_eq_none outside]
    cases later : index - posts.length with
    | zero => exact uncalled
    | succ _ => rfl

-- The calls of new_session, their contexts and the requests that they are made for.
structure Served (setup : SessionSetup Obj) : Prop where
  contexts : setup.contexts.length = setup.node.manager.calls.length
  holds : ∀ (index : Nat) call, setup.node.manager.calls[index]? = some call → call.pc.holdsContext = true →
    ∃ created, setup.contexts[index]? = some (some created)
  made : ∀ (index : Nat) created, setup.contexts[index]? = some (some created) →
    ∃ platform, SessionMng.create platform created.args .init = .ok created.ctx created.sockets
  posted : Each (fun _ post => Posted setup.node.manager.calls setup.contexts post) setup.posts
  distinct : ∀ first second call, calledBy setup.posts first = some call → calledBy setup.posts second = some call →
    first = second
  owned : ∀ call, call < setup.node.manager.calls.length → ∃ index, calledBy setup.posts index = some call

theorem start_served (setup : SessionSetup Obj) (started : (sessionSetup Obj).start setup) : Served setup := by
  obtain ⟨_, posts, _, node, contexts⟩ := started
  have calls : setup.node.manager.calls = [] := by rw [node]; rfl
  refine ⟨by rw [contexts, calls]; rfl, ?_, ?_, ?_, ?_, ?_⟩
  · intro index call present
    rw [calls] at present
    cases present
  · intro index created present
    rw [contexts] at present
    cases present
  · intro index post present
    rw [posts] at present
    cases present
  · intro first second call led
    rw [calledBy, posts] at led
    cases led
  · intro call inside
    rw [calls] at inside
    cases inside

theorem grows_refl (calls : List Call) (contexts : List (Option (Created Obj))) : Grows calls contexts calls contexts :=
  ⟨Nat.le_refl _, fun _ _ returned => ⟨returned, rfl⟩⟩

theorem stepped_grows (setup next : SessionSetup Obj) (action : SetupAction Obj) (served : Served setup)
    (stepped : Stepped setup action next) :
    Grows setup.node.manager.calls setup.contexts next.node.manager.calls next.contexts := by
  cases stepped with
  | initiated | posted | activity | returned | traffic => exact grows_refl _ _
  | served index post node present queued begun =>
      refine ⟨by rw [begun]; exact List.length_append ▸ Nat.le_add_right _ _, ?_⟩
      intro other result returned
      obtain ⟨call, listed, _⟩ := Option.map_eq_some_iff.mp returned
      have inside := (List.getElem?_eq_some_iff.mp listed).1
      refine ⟨?_, List.getElem?_append_left (served.contexts ▸ inside)⟩
      rw [begun, List.getElem?_append_left inside]
      exact returned
  | moved node move =>
      refine ⟨Nat.le_of_eq move.length.symm, ?_⟩
      exact fun other result returned => ⟨move.returned other result returned, rfl⟩
  | created index platform post args ctx sockets call after node present serving request made current creating calls =>
      refine ⟨Nat.le_of_eq (by rw [calls, List.length_set]), ?_⟩
      intro other result returned
      have elsewhere : setup.node.current ≠ other := by
        intro here
        rw [← here, current, Option.map_some, Option.some_inj, creating] at returned
        cases returned
      rw [calls, List.getElem?_set_ne elsewhere, List.getElem?_set_ne elsewhere]
      exact ⟨returned, rfl⟩

theorem served_posts (setup : SessionSetup Obj) (posts : List Post) (served : Served setup)
    (posted : Each (fun _ post => Posted setup.node.manager.calls setup.contexts post) posts)
    (called : ∀ index, calledBy posts index = calledBy setup.posts index) : Served { setup with posts } where
  contexts := served.contexts
  holds := served.holds
  made := served.made
  posted := posted
  distinct first second call led also := served.distinct first second call (called first ▸ led) (called second ▸ also)
  owned call inside := by
    obtain ⟨index, led⟩ := served.owned call inside
    exact ⟨index, (called index).trans led⟩

theorem received_cases (post : Post) (arrives : Bool) (body : Option JsonBody)
    (received : SessionSetup.received post arrives = some body) :
    arrives = false ∧ body = none ∨
      ∃ answer, post.listener = .returned answer ∧ body = answer.map SessionCreationHttpResponse.json := by
  cases arrives with
  | false =>
      cases received
      exact .inl ⟨rfl, rfl⟩
  | true =>
      rw [SessionSetup.received] at received
      split at received
      · rename_i answer returned
        cases received
        exact .inr ⟨answer, returned, rfl⟩
      · cases received

-- A call that gets session data has its listener's answer.
theorem received_success (post : Post) (arrives : Bool) (body : Option JsonBody)
    (received : SessionSetup.received post arrives = some body) (success : (sendSessionRequest body).success = true) :
    ∃ response, post.listener = .returned (some response) ∧ response.success = true ∧ body = some response.json := by
  rcases received_cases post arrives body received with ⟨_, rfl⟩ | ⟨answer, returned, rfl⟩
  · cases success
  · cases answer with
    | none => cases success
    | some response =>
        rw [Option.map_some, session_data_sent] at success
        exact ⟨response, returned, success, rfl⟩

theorem returned_posted (calls : List Call) (contexts : List (Option (Created Obj))) (post : Post)
    (client : AnimacharacterSessionClient) (body : Option JsonBody) (arrives : Bool) (dials : Channel → Bool)
    (posted : Posted calls contexts post) (received : SessionSetup.received post arrives = some body) :
    Posted calls contexts { post with
      abandoned := post.abandoned || !arrives, outcome := some (client.initiate body dials).2 } := by
  have refused := client.attempted_refused _ _ (client.initiate_attempted body dials)
  refine ⟨posted.inside, posted.requested, posted.unheard, posted.made, posted.answered, posted.inactive, ?_, ?_, ?_⟩
  · intro answer returned
    rcases posted.listened answer returned with heard | ⟨gaveUp | idle, failed⟩
    · exact .inl heard
    · exact .inr ⟨.inl (by rw [gaveUp, Bool.true_or]), failed⟩
    · exact .inr ⟨.inr idle, failed⟩
  · intro ended
    have failed := refused.mp (Option.some_inj.mp ended)
    rcases received_cases post arrives body received with ⟨rfl, _⟩ | ⟨answer, returned, rfl⟩
    · exact .inl (by rw [Bool.not_false, Bool.or_true])
    · refine .inr ⟨answer, returned, ?_⟩
      intro response heard
      rw [Option.mem_def.mp heard, Option.map_some, session_data_sent] at failed
      exact failed
  · intro outcome ended attends
    cases Option.some_inj.mp ended
    have success := Bool.of_not_eq_false fun failed => attends (refused.mpr failed)
    obtain ⟨response, returned, good, _⟩ := received_success post arrives body received success
    exact ⟨response, returned, good⟩

theorem context_old (contexts : List (Option (Created Obj))) (call : Nat) (created : Created Obj)
    (listed : (contexts ++ [none])[call]? = some (some created)) : contexts[call]? = some (some created) := by
  rcases Nat.lt_or_ge call contexts.length with before | after
  · rw [List.getElem?_append_left before] at listed
    exact listed
  · rw [List.getElem?_append_right after] at listed
    cases List.mem_singleton.mp (List.mem_of_getElem? listed)

theorem begun_served (setup : SessionSetup Obj) (index : Nat) (post : Post) (node : SessManagerNode)
    (served : Served setup)
    (grows : Grows setup.node.manager.calls setup.contexts node.manager.calls (setup.contexts ++ [none]))
    (present : setup.posts[index]? = some post) (queued : post.service = .queued)
    (begun : node.manager.calls = setup.node.manager.calls ++ [Call.fresh]) :
    Served { setup.setPost index { post with service := .serving setup.node.manager.calls.length } with
      node, contexts := setup.contexts ++ [none] } := by
  have inside : ∀ call other, calledBy setup.posts other = some call → call < setup.node.manager.calls.length := by
    intro call other led
    obtain ⟨listed, here, own⟩ := Option.bind_eq_some_iff.mp led
    exact (served.posted other listed here).inside call own
  have called := fun other => called_by_set setup.posts index other post
    { post with service := .serving setup.node.manager.calls.length } present
  have length : node.manager.calls.length = setup.node.manager.calls.length + 1 := by
    rw [begun, List.length_append, List.length_singleton]
  have grown : ∀ post, Posted setup.node.manager.calls setup.contexts post →
      Posted node.manager.calls (setup.contexts ++ [none]) post := fun post posted =>
    posted_grows _ _ _ _ post posted grows fun call created led listed =>
      posted.made call created led (context_old setup.contexts call created listed)
  refine ⟨?_, ?_, ?_, ?_, ?_, ?_⟩
  · change (setup.contexts ++ [none]).length = node.manager.calls.length
    rw [List.length_append, List.length_singleton, length, served.contexts]
  · intro other call listed holds
    change node.manager.calls[other]? = some call at listed
    rw [begun] at listed
    rcases Nat.lt_or_ge other setup.node.manager.calls.length with before | after
    · rw [List.getElem?_append_left before] at listed
      obtain ⟨created, context⟩ := served.holds other call listed holds
      exact ⟨created, (List.getElem?_append_left (served.contexts ▸ before)).trans context⟩
    · rw [List.getElem?_append_right after] at listed
      rw [List.mem_singleton.mp (List.mem_of_getElem? listed)] at holds
      cases holds
  · intro other created listed
    exact served.made other created (context_old setup.contexts other created listed)
  · refine each_set _ setup.posts index _ (fun other post here => grown post (served.posted other post here)) ?_
    refine posted_served _ _ post _ (grown post (served.posted index post present))
      (by rw [queued]; intro same; cases same) (by rw [queued]; intro _ _ same; cases same) ?_ ?_
      (fun _ _ answered => by cases answered) (fun _ answered => by cases answered)
    · intro call led
      cases led
      exact length ▸ Nat.lt_succ_self _
    · intro call created led listed
      cases led
      have before := (List.getElem?_eq_some_iff.mp (context_old setup.contexts _ created listed)).1
      rw [served.contexts] at before
      exact absurd before (Nat.lt_irrefl _)
  · intro first second call led also
    change calledBy (setup.posts.set index _) first = some call at led
    change calledBy (setup.posts.set index _) second = some call at also
    rw [called] at led also
    split at led <;> split at also
    · rename_i here there
      exact here.symm.trans there
    · cases led
      exact absurd (inside _ second also) (Nat.lt_irrefl _)
    · cases also
      exact absurd (inside _ first led) (Nat.lt_irrefl _)
    · exact served.distinct first second call led also
  · intro call bound
    change call < node.manager.calls.length at bound
    rw [length] at bound
    rcases Nat.lt_succ_iff_lt_or_eq.mp bound with before | last
    · obtain ⟨other, led⟩ := served.owned call before
      refine ⟨other, ?_⟩
      change calledBy (setup.posts.set index _) other = some call
      rw [called]
      split
      · rename_i here
        rw [← here, calledBy, present, Option.bind_some, queued] at led
        cases led
      · exact led
    · refine ⟨index, ?_⟩
      change calledBy (setup.posts.set index _) index = some call
      rw [called, if_pos rfl, last]
      rfl

theorem created_served (setup : SessionSetup Obj) (index : Nat) (platform : Platform Obj) (post : Post)
    (args : ACSessionCreationArguments) (ctx : ACSessionContext Obj) (sockets : Sockets) (call after : Call)
    (node : SessManagerNode) (served : Served setup)
    (grows : Grows setup.node.manager.calls setup.contexts node.manager.calls
      (setup.contexts.set setup.node.current (some ⟨args, ctx, sockets⟩)))
    (present : setup.posts[index]? = some post) (serving : post.service = .serving setup.node.current)
    (request : post.request = some args) (made : SessionMng.create platform args .init = .ok ctx sockets)
    (current : setup.node.manager.calls[setup.node.current]? = some call)
    (calls : node.manager.calls = setup.node.manager.calls.set setup.node.current after) :
    Served { setup with node, contexts := setup.contexts.set setup.node.current (some ⟨args, ctx, sockets⟩) } := by
  have inside : setup.node.current < setup.contexts.length :=
    served.contexts ▸ (List.getElem?_eq_some_iff.mp current).1
  have newest : (setup.contexts.set setup.node.current (some ⟨args, ctx, sockets⟩))[setup.node.current]? =
      some (some ⟨args, ctx, sockets⟩) := List.getElem?_set_self inside
  refine ⟨?_, ?_, ?_, ?_, served.distinct, ?_⟩
  · change (setup.contexts.set _ _).length = node.manager.calls.length
    rw [calls, List.length_set, List.length_set, served.contexts]
  · intro other next listed holds
    by_cases here : setup.node.current = other
    · rw [← here]
      exact ⟨_, newest⟩
    · change node.manager.calls[other]? = some next at listed
      rw [calls, List.getElem?_set_ne here] at listed
      obtain ⟨created, context⟩ := served.holds other next listed holds
      exact ⟨created, (List.getElem?_set_ne here).trans context⟩
  · intro other created listed
    by_cases here : setup.node.current = other
    · rw [← here] at listed
      cases newest.symm.trans listed
      exact ⟨platform, made⟩
    · exact served.made other created ((List.getElem?_set_ne here).symm.trans listed)
  · intro other asked listed
    have posted := served.posted other asked listed
    refine posted_grows _ _ _ _ asked posted grows ?_
    intro led created own context
    by_cases here : setup.node.current = led
    · rw [← here] at context own
      cases newest.symm.trans context
      have same : other = index := served.distinct other index setup.node.current
        (by rw [calledBy, listed]; exact own) (by rw [calledBy, present, Option.bind_some, serving]; rfl)
      rw [same, present] at listed
      cases listed
      exact request
    · exact posted.made led created own ((List.getElem?_set_ne here).symm.trans context)
  · intro other bound
    change other < node.manager.calls.length at bound
    rw [calls, List.length_set] at bound
    exact served.owned other bound

theorem step_served (setup next : SessionSetup Obj) (action : SetupAction Obj) (served : Served setup)
    (stepped : Stepped setup action next) : Served next := by
  have grows := stepped_grows setup next action served stepped
  cases stepped with
  | initiated index host client present idle =>
      refine served_posts setup _ served (each_append _ setup.posts _ served.posted ?_)
        (fun other => called_by_append setup.posts _ other rfl)
      exact idle_posted _ _ _ rfl rfl rfl
  | posted index post after present moved =>
      have same := post_step_same _ _ post after (served.posted index post present) moved
      exact served_posts setup _ served
        (each_set _ setup.posts index after served.posted
          (post_step_posted _ _ post after (served.posted index post present) moved))
        (fun other => called_by_same setup.posts index other post after present same.call)
  | served index post node present queued begun => exact begun_served setup index post node served grows present queued begun
  | moved node move =>
      refine ⟨served.contexts.trans move.length.symm, ?_, served.made, ?_, served.distinct, ?_⟩
      · intro index after present holds
        obtain ⟨call, before, held⟩ := move.holds index after present holds
        exact served.holds index call before held
      · intro index post present
        have posted := served.posted index post present
        exact posted_grows _ _ _ _ post posted grows posted.made
      · intro call inside
        exact served.owned call (move.length ▸ inside)
  | created index platform post args ctx sockets call after node present serving request made current creating calls =>
      exact created_served setup index platform post args ctx sockets call after node served grows present serving
        request made current calls
  | activity isActive => exact ⟨served.contexts, served.holds, served.made, served.posted, served.distinct, served.owned⟩
  | returned index arrives dials post client body present under listed received =>
      have same : (post.service.call? : Option Nat) = post.service.call? := rfl
      have posts := served_posts setup _ served
        (each_set _ setup.posts index _ served.posted
          (returned_posted _ _ post client body arrives dials (served.posted index post present) received))
        (fun other => called_by_same setup.posts index other post _ present rfl)
      exact ⟨posts.contexts, posts.holds, posts.made, posts.posted, posts.distinct, posts.owned⟩
  | traffic index client after present kept =>
      exact ⟨served.contexts, served.holds, served.made, served.posted, served.distinct, served.owned⟩

theorem reached_served (allowed : SessionSetup Obj → SetupAction Obj → Prop) (setup : SessionSetup Obj)
    (reached : Reached (sessionSetup Obj) allowed setup) : Served setup := by
  refine reached_invariant (sessionSetup Obj) allowed Served start_served ?_ setup reached
  intro source action target served _ moved
  exact step_served source target action served (step_cases source target action moved)

-- A request that the session manager has begun a session for.
structure Began (setup : SessionSetup Obj) (post : Post) (call : Nat) (created : Created Obj) : Prop where
  led : post.service.call? = some call
  returned : ∃ result, (setup.node.manager.calls[call]?).map Call.pc = some (.returned (some result)) ∧ result.success = true
  context : setup.contexts[call]? = some (some created)
  apikey : post.apikey = CLIENT_KEY
  args : ∃ host, post.host = some host ∧ created.args = ⟨host, post.udpPort⟩

theorem answer_began (setup : SessionSetup Obj) (index : Nat) (post : Post) (response : SessionCreationHttpResponse)
    (served : Served setup) (present : setup.posts[index]? = some post)
    (returned : post.listener = .returned (some response)) (success : response.success = true) :
    ∃ call created, Began setup post call created ∧ response =
      ⟨true, "", created.ctx.tcpPort, created.ctx.streamPort, created.ctx.sessionSecret, created.ctx.sessionSecret⟩ := by
  have posted := served.posted index post present
  rcases posted.listened _ returned with ⟨call, result, answered, heard⟩ | ⟨_, failed⟩
  · cases heard
    cases call with
    | none =>
        have failed := posted.inactive result answered
        rw [SessionCreationHttpResponse.ofResult, failed] at success
        cases success
    | some call =>
        obtain ⟨ended, stopped, rfl⟩ := posted.answered call result answered
        rw [SessionCreationHttpResponse.ofResult, response.eq_def] at success ⊢
        split at success
        · rename_i created good context
          have present : setup.contexts[call]? = some (some created) := by
            cases listed : setup.contexts[call]? with
            | none => rw [listed] at context; cases context
            | some entry => rw [listed, Option.join_some] at context; rw [context]
          have led : post.service.call? = some call := by rw [answered]; rfl
          obtain ⟨known, host, seen, request⟩ := posted.requested (by rw [answered]; intro same; cases same)
          have args := posted.made call created led present
          rw [request, Option.some_inj] at args
          exact ⟨call, created, ⟨led, ⟨ended, stopped, good⟩, present, known, host, seen, args.symm⟩, rfl⟩
        · cases success
  · rw [failed response rfl] at success
    cases success

end SessionSetup

end Animacharacter.SessionMng
