import Animacharacter.SessionMng.ServedRequests

set_option autoImplicit false

namespace Animacharacter.SessionMng

open StepSystem Authmsg

namespace SessionSetup

variable {Obj : Type}

-- The counters of a peer that has not been dialled are the ones it was made with.
def Fresh (client : AnimacharacterSessionClient) : Prop :=
  ∀ channel, (client.peer channel).peer.isInitialized = false →
    (client.peer channel).peer.proto = .init (client.peer channel).peer.proto.psk

-- The clients and how their calls have ended.
structure Dialled (setup : SessionSetup Obj) : Prop where
  port : Each (fun _ post => ∃ client, setup.clients[post.client]? = some client ∧
    client.localUdpPort = post.udpPort) setup.posts
  fresh : Each (fun _ => Fresh) setup.clients
  connected : Each (fun _ post => post.outcome = some (.ok true) → ∀ client, setup.clients[post.client]? = some client →
    ∀ channel, (client.peer channel).peer.isInitialized = true) setup.posts
  once : ∀ (first second : Nat) post other, setup.posts[first]? = some post → setup.posts[second]? = some other →
    post.outcome = some (.ok true) → other.outcome = some (.ok true) → post.client = other.client → first = second

theorem start_dialled (setup : SessionSetup Obj) (started : (sessionSetup Obj).start setup) : Dialled setup := by
  obtain ⟨clients, posts, _⟩ := started
  refine ⟨?_, ?_, ?_, ?_⟩
  · intro index post present
    rw [posts] at present
    cases present
  · intro index client present channel _
    obtain ⟨authKey, ip, port, rfl⟩ := clients client (List.mem_of_getElem? present)
    cases channel <;> rfl
  · intro index post present
    rw [posts] at present
    cases present
  · intro first second post other present
    rw [posts] at present
    cases present

-- Requests come, and the ones that are there go on without the end of their calls.
theorem dialled_posts (setup next : SessionSetup Obj) (dialled : Dialled setup) (clients : next.clients = setup.clients)
    (posts : ∀ (index : Nat) after, next.posts[index]? = some after →
      (∃ post, setup.posts[index]? = some post ∧ after.client = post.client ∧ after.udpPort = post.udpPort ∧
        after.outcome = post.outcome) ∨
      after.outcome = none ∧ ∃ client, setup.clients[after.client]? = some client ∧
        client.localUdpPort = after.udpPort) : Dialled next := by
  refine ⟨?_, clients ▸ dialled.fresh, ?_, ?_⟩
  · intro index after present
    rw [clients]
    rcases posts index after present with ⟨post, before, client, port, _⟩ | ⟨_, fresh⟩
    · rw [client, port]
      exact dialled.port index post before
    · exact fresh
  · intro index after present ended client listed
    rw [clients] at listed
    rcases posts index after present with ⟨post, before, own, _, outcome⟩ | ⟨under, _⟩
    · exact dialled.connected index post before (outcome ▸ ended) client (own ▸ listed)
    · rw [under] at ended
      cases ended
  · intro first second after other present also ended endedToo together
    rcases posts first after present with ⟨post, before, own, _, outcome⟩ | ⟨under, _⟩
    · rcases posts second other also with ⟨earlier, old, others, _, outcomeToo⟩ | ⟨under, _⟩
      · exact dialled.once first second post earlier before old (outcome ▸ ended) (outcomeToo ▸ endedToo)
          (own ▸ others ▸ together)
      · rw [under] at endedToo
        cases endedToo
    · rw [under] at ended
      cases ended

theorem clients_set (clients : List AnimacharacterSessionClient) (index other : Nat)
    (client after found : AnimacharacterSessionClient) (present : clients[index]? = some client)
    (listed : (clients.set index after)[other]? = some found) :
    other = index ∧ found = after ∨ index ≠ other ∧ clients[other]? = some found := by
  by_cases here : index = other
  · rw [here, List.getElem?_set_self (here ▸ (List.getElem?_eq_some_iff.mp present).1)] at listed
    exact .inl ⟨here.symm, (Option.some_inj.mp listed).symm⟩
  · rw [List.getElem?_set_ne here] at listed
    exact .inr ⟨here, listed⟩

theorem dialled_client (setup : SessionSetup Obj) (index : Nat) (client after : AnimacharacterSessionClient)
    (dialled : Dialled setup) (present : setup.clients[index]? = some client) (same : client.Same after)
    (fresh : Fresh after) : Dialled (setup.setClient index after) := by
  refine ⟨?_, each_set _ setup.clients index after dialled.fresh fresh, ?_, dialled.once⟩
  · intro other post listed
    obtain ⟨own, found, port⟩ := dialled.port other post listed
    by_cases here : index = post.client
    · rw [← here, present] at found
      cases found
      refine ⟨after, ?_, same.localUdpPort.trans port⟩
      rw [← here]
      exact List.getElem?_set_self (List.getElem?_eq_some_iff.mp present).1
    · exact ⟨own, (List.getElem?_set_ne here).trans found, port⟩
  · intro other post listed ended found owns channel
    rcases clients_set setup.clients index post.client client after found present owns with ⟨here, rfl⟩ | ⟨_, old⟩
    · exact same.initialized channel (dialled.connected other post listed ended client (here ▸ present) channel)
    · exact dialled.connected other post listed ended found old channel

theorem attempted_kept (client : AnimacharacterSessionClient) (data : SessionData)
    (attempt : AnimacharacterSessionClient × Except InitiateRaised Bool) (attempted : client.Attempted data attempt)
    (fresh : Fresh client) : client.Same attempt.1 ∧ Fresh attempt.1 := by
  cases attempted with
  | refused failed =>
      refine ⟨⟨rfl, rfl, fun channel initialized => by cases channel <;> exact initialized⟩, ?_⟩
      intro channel unopened
      cases channel
      · exact fresh .TCP unopened
      · exact fresh .UDP unopened
  | raised after exception success same keyed =>
      refine ⟨same, ?_⟩
      intro channel unopened
      have before : (client.peer channel).peer.isInitialized = false := by
        cases initialized : (client.peer channel).peer.isInitialized with
        | false => rfl
        | true =>
            rw [same.initialized channel initialized] at unopened
            cases unopened
      rw [keyed, fresh channel before]
      rfl
  | connected after success same unopened peers =>
      refine ⟨same, ?_⟩
      intro channel later
      rw [peers] at later
      cases later

-- Only a client whose peers were both fresh connects, so it has not before.
theorem returned_dialled (setup : SessionSetup Obj) (index : Nat) (arrives : Bool) (dials : Channel → Bool) (post : Post)
    (client : AnimacharacterSessionClient) (body : Option JsonBody) (dialled : Dialled setup)
    (present : setup.posts[index]? = some post) (listed : setup.clients[post.client]? = some client) :
    Dialled ((setup.setPost index { post with
      abandoned := post.abandoned || !arrives, outcome := some (client.initiate body dials).2 }).setClient post.client
        (client.initiate body dials).1) := by
  have attempted := client.initiate_attempted body dials
  have kept := attempted_kept client _ _ attempted (dialled.fresh post.client client listed)
  have after := dialled_client setup post.client client _ dialled listed kept.1 kept.2
  have alone : (client.initiate body dials).2 = .ok true → ∀ (other : Nat) earlier, setup.posts[other]? = some earlier →
      earlier.outcome = some (.ok true) → earlier.client ≠ post.client := by
    intro connects other earlier old ended together
    have opened := dialled.connected other earlier old ended client (together ▸ listed) .TCP
    generalize client.initiate body dials = attempt at attempted connects
    cases attempted with
    | refused failed => cases connects
    | raised after exception success same keyed => cases connects
    | connected after success same fresh peers =>
        rw [fresh] at opened
        cases opened
  refine ⟨?_, after.fresh, ?_, ?_⟩
  · exact each_set _ setup.posts index _ after.port (after.port index post present)
  · refine each_set _ setup.posts index _ after.connected ?_
    intro ended found owns channel
    rcases clients_set setup.clients post.client post.client client _ found listed owns with ⟨_, rfl⟩ | ⟨elsewhere, _⟩
    · generalize client.initiate body dials = attempt at attempted ended ⊢
      cases attempted with
      | refused failed => cases ended
      | raised after exception success same keyed => cases ended
      | connected after success same fresh peers => rw [peers]
    · exact absurd rfl elsewhere
  · intro first second earlier later firstListed secondListed ended endedToo together
    change (setup.posts.set index _)[first]? = some earlier at firstListed
    change (setup.posts.set index _)[second]? = some later at secondListed
    by_cases here : index = first <;> by_cases there : index = second
    · exact here.symm.trans there
    · rw [List.getElem?_set_ne there] at secondListed
      rw [← here, List.getElem?_set_self (List.getElem?_eq_some_iff.mp present).1, Option.some_inj] at firstListed
      rw [← firstListed] at ended together
      exact absurd together.symm (alone (Option.some_inj.mp ended) second later secondListed endedToo)
    · rw [List.getElem?_set_ne here] at firstListed
      rw [← there, List.getElem?_set_self (List.getElem?_eq_some_iff.mp present).1, Option.some_inj] at secondListed
      rw [← secondListed] at endedToo together
      exact absurd together (alone (Option.some_inj.mp endedToo) first earlier firstListed ended)
    · rw [List.getElem?_set_ne here] at firstListed
      rw [List.getElem?_set_ne there] at secondListed
      exact dialled.once first second earlier later firstListed secondListed ended endedToo together

theorem step_dialled (setup next : SessionSetup Obj) (action : SetupAction Obj) (served : Served setup)
    (dialled : Dialled setup) (stepped : Stepped setup action next) : Dialled next := by
  have kept : ∀ (index : Nat) (post after : Post), setup.posts[index]? = some post →
      after.client = post.client ∧ after.udpPort = post.udpPort ∧ after.outcome = post.outcome →
      ∀ (other : Nat) later, (setup.posts.set index after)[other]? = some later →
        ∃ post, setup.posts[other]? = some post ∧ later.client = post.client ∧ later.udpPort = post.udpPort ∧
          later.outcome = post.outcome := by
    intro index post after present same other later listed
    by_cases here : index = other
    · rw [← here, List.getElem?_set_self (List.getElem?_eq_some_iff.mp present).1, Option.some_inj] at listed
      exact ⟨post, here ▸ present, listed ▸ same⟩
    · exact ⟨later, (List.getElem?_set_ne here).symm.trans listed, rfl, rfl, rfl⟩
  have unchanged : ∀ (other : Nat) later, setup.posts[other]? = some later →
      ∃ post, setup.posts[other]? = some post ∧ later.client = post.client ∧ later.udpPort = post.udpPort ∧
        later.outcome = post.outcome := fun other later listed => ⟨later, listed, rfl, rfl, rfl⟩
  cases stepped with
  | initiated index host client present idle =>
      refine dialled_posts setup _ dialled rfl ?_
      intro other later listed
      rcases Nat.lt_or_ge other setup.posts.length with before | after
      · exact .inl (unchanged other later ((List.getElem?_append_left before).symm.trans listed))
      · refine .inr ?_
        change (setup.posts ++ [_])[other]? = some later at listed
        rw [List.getElem?_append_right after] at listed
        rw [List.mem_singleton.mp (List.mem_of_getElem? listed)]
        exact ⟨rfl, client, present, rfl⟩
  | posted index post after present moved =>
      have same := post_step_same _ _ post after (served.posted index post present) moved
      exact dialled_posts setup _ dialled rfl fun other later listed => 
        .inl (kept index post after present ⟨same.client, same.udpPort, same.outcome⟩ other later listed)
  | served index post node present queued begun =>
      exact dialled_posts setup _ dialled rfl fun other later listed =>
        .inl (kept index post { post with service := .serving setup.node.manager.calls.length } present ⟨rfl, rfl, rfl⟩
          other later listed)
  | moved | created | activity =>
      exact dialled_posts setup _ dialled rfl fun other later listed => .inl (unchanged other later listed)
  | returned index arrives dials post client body present under listed received =>
      exact returned_dialled setup index arrives dials post client body dialled present listed
  | traffic index client after present traffic =>
      refine dialled_client setup index client after dialled present traffic.same ?_
      intro channel unopened
      have same := traffic.fresh channel unopened
      rw [same] at unopened ⊢
      exact dialled.fresh index client present channel unopened

theorem reached_dialled (allowed : SessionSetup Obj → SetupAction Obj → Prop) (setup : SessionSetup Obj)
    (reached : Reached (sessionSetup Obj) allowed setup) : Dialled setup := by
  refine (reached_invariant (sessionSetup Obj) allowed (fun setup => Served setup ∧ Dialled setup)
    (fun initial started => ⟨start_served initial started, start_dialled initial started⟩) ?_ setup reached).2
  intro source action target sound _ moved
  have stepped := step_cases source target action moved
  exact ⟨step_served source target action sound.1 stepped, step_dialled source target action sound.1 sound.2 stepped⟩

theorem create_ok (platform : Platform Obj) (args : ACSessionCreationArguments) (ctx : ACSessionContext Obj)
    (sockets : Sockets) (made : SessionMng.create platform args .init = .ok ctx sockets) :
    ctx.sessionSecret = platform.token ∧ sockets = Sockets.before (.init (normalizePsk platform.token)) .info := by
  cases point : failurePoint platform args with
  | none =>
      rw [create_returns platform args point] at made
      cases made
      exact ⟨rfl, rfl⟩
  | some operation =>
      rw [create_raises platform args operation point] at made
      cases made

-- The protocol objects of a client, at A, and of a session, at B.
def channels (client : AnimacharacterSessionClient) (sessSock streamSock : PeerBase) : Network where
  peers
    | .A, channel => (client.peer channel).peer.proto
    | .B, .TCP => sessSock.proto
    | .B, .UDP => streamSock.proto
  sent := []
  accepted := []

-- A client and a session whose channels can begin.
structure Connected (client : AnimacharacterSessionClient) (created : Created Obj) (sessSock streamSock : PeerBase) :
    Prop where
  sockets : created.sockets.sessSock = some sessSock ∧ created.sockets.streamSock = some streamSock
  tcp : client.peertcp.remote = some (client.ip, (created.ctx.tcpPort : Int))
  udp : client.peerudp.remote = some (client.ip, (created.ctx.streamPort : Int))
  args : created.args.clientUdpPort = client.localUdpPort
  initialized : sessSock.isInitialized = true ∧ streamSock.isInitialized = true ∧
    ∀ channel, (client.peer channel).peer.isInitialized = true
  start : Authmsg.session.start (channels client sessSock streamSock)

theorem began_connected (setup : SessionSetup Obj) (index : Nat) (post : Post) (client after : AnimacharacterSessionClient)
    (call : Nat) (created : Created Obj) (served : Served setup) (dialled : Dialled setup)
    (present : setup.posts[index]? = some post) (listed : setup.clients[post.client]? = some client)
    (began : Began setup post call created) (same : client.Same after)
    (fresh : ∀ channel, (client.peer channel).peer.isInitialized = false)
    (peers : ∀ channel, after.peer channel =
      ⟨⟨{ (client.peer channel).peer.proto with psk := normalizePsk created.ctx.sessionSecret }, true⟩,
        some (client.ip, match channel with
          | .TCP => (created.ctx.tcpPort : Int)
          | .UDP => (created.ctx.streamPort : Int))⟩) :
    ∃ sessSock streamSock, Connected after created sessSock streamSock := by
  obtain ⟨platform, made⟩ := served.made call created began.context
  obtain ⟨secret, sockets⟩ := create_ok platform created.args created.ctx created.sockets made
  obtain ⟨owner, own, port⟩ := dialled.port index post present
  rw [listed, Option.some_inj] at own
  obtain ⟨host, _, args⟩ := began.args
  have keyed (channel : Channel) : (after.peer channel).peer.proto = .init (normalizePsk platform.token) := by
    rw [peers, dialled.fresh post.client client listed channel (fresh channel), secret]
    rfl
  refine ⟨.init (normalizePsk platform.token) true, .init (normalizePsk platform.token) true, ?_⟩
  refine ⟨sockets ▸ ⟨rfl, rfl⟩, ?_, ?_, ?_, ⟨rfl, rfl, fun channel => by rw [peers]⟩, ?_⟩
  · exact (congrArg DialledPeer.remote (peers .TCP)).trans (by rw [same.ip])
  · exact (congrArg DialledPeer.remote (peers .UDP)).trans (by rw [same.ip])
  · rw [args, same.localUdpPort, own, port]
  · refine ⟨⟨normalizePsk platform.token, ?_⟩, rfl, rfl⟩
    intro endpoint channel
    cases endpoint with
    | A => exact keyed channel
    | B => cases channel <;> rfl

theorem established_agree (setup next : SessionSetup Obj) (reached : Reached (sessionSetup Obj) anyAction setup)
    (index : Nat) (arrives : Bool) (dials : Channel → Bool) (post : Post)
    (moved : setup.step (.clientReturns index arrives dials) = some next) (present : next.posts[index]? = some post)
    (established : post.outcome = some (.ok true)) :
    ∃ client call created sessSock streamSock, next.clients[post.client]? = some client ∧
      Began next post call created ∧ Connected client created sessSock streamSock := by
  have served := reached_served anyAction setup reached
  have dialled := reached_dialled anyAction setup reached
  obtain ⟨asked, client, body, here, under, listed, received, rfl⟩ :=
    client_returns_cases setup next index arrives dials moved
  change (setup.posts.set index _)[index]? = some post at present
  rw [List.getElem?_set_self (List.getElem?_eq_some_iff.mp here).1, Option.some_inj] at present
  have attempted := client.initiate_attempted body dials
  generalize client.initiate body dials = attempt at attempted present ⊢
  cases attempted with
  | refused failed =>
      rw [← present] at established
      cases established
  | raised after exception success same keyed =>
      rw [← present] at established
      cases established
  | connected after success same fresh peers =>
      obtain ⟨response, returned, good, rfl⟩ := received_success asked arrives body received success
      obtain ⟨call, created, began, rfl⟩ := answer_began setup index asked response served here returned good
      obtain ⟨sessSock, streamSock, connected⟩ := began_connected setup index asked client after call created served dialled
        here listed began same fresh (by
          intro channel
          rw [peers, session_data_sent]
          cases channel <;> rfl)
      refine ⟨after, call, created, sessSock, streamSock, ?_, ?_, connected⟩
      · rw [← present]
        exact List.getElem?_set_self (List.getElem?_eq_some_iff.mp listed).1
      · rw [← present]
        exact ⟨began.led, began.returned, began.context, began.apikey, began.args⟩

-- A client is told of its session: the request's way through the listener, the
-- service and new_session, up to the answer.
def requested (client : Nat) (platform : Platform Unit) : List (SetupAction Unit) :=
  [.initiateSession client (some "192.168.1.20"), .auth client true, .createSession client, .node (.callStep .ok),
    .node (.criteria .served), .create client platform, .node (.callStep .ok), .node (.callStep .ok),
    .node (.callStep .ok), .node (.callStep .ok), .respond client, .listenerReturns client .done]

def waiting (clients : List AnimacharacterSessionClient) : SessionSetup Unit :=
  ⟨clients, [], false, ⟨SessionManager.init, .inactive, [], 0, none⟩, []⟩

def oneClient : SessionSetup Unit := waiting [.init CLIENT_KEY "192.168.1.10" 5005]

theorem one_client_start : (sessionSetup Unit).start oneClient := by
  refine ⟨?_, rfl, rfl, rfl, rfl⟩
  intro client inside
  exact ⟨_, _, _, List.mem_singleton.mp inside⟩

theorem established_agree_first : ∃ (setup next : SessionSetup Unit) (post : Post) (client : AnimacharacterSessionClient)
    (call : Nat) (created : Created Unit) (sessSock streamSock : PeerBase), Reached (sessionSetup Unit) anyAction setup ∧
      setup.step (.clientReturns 0 true fun _ => true) = some next ∧ next.clients[post.client]? = some client ∧
      Began next post call created ∧ Connected client created sessSock streamSock := by
  obtain ⟨setup, reached, ends⟩ := replay_exists (sessionSetup Unit) anyAction
    (.activity true :: requested 0 (oneHost fun _ => false)) oneClient
    (fun setup => ((setup.step (.clientReturns 0 true fun _ => true)).bind fun next => next.posts[0]?).map Post.outcome =
      some (some (.ok true))) one_client_start (by decide +kernel)
  obtain ⟨post, listed, established⟩ := Option.map_eq_some_iff.mp ends
  obtain ⟨next, moved, present⟩ := Option.bind_eq_some_iff.mp listed
  obtain ⟨client, call, created, sessSock, streamSock, known, began, connected⟩ :=
    established_agree setup next reached 0 true (fun _ => true) post moved present established
  exact ⟨setup, next, post, client, call, created, sessSock, streamSock, reached, moved, known, began, connected⟩

-- No client has two sessions, and no session two clients.
theorem established_once (setup : SessionSetup Obj) (reached : Reached (sessionSetup Obj) anyAction setup)
    (first second : Nat) (distinct : first ≠ second) (post other : Post) (present : setup.posts[first]? = some post)
    (also : setup.posts[second]? = some other) (established : post.outcome = some (.ok true))
    (establishedToo : other.outcome = some (.ok true)) :
    post.client ≠ other.client ∧ post.service.call? ≠ other.service.call? := by
  have served := reached_served anyAction setup reached
  have dialled := reached_dialled anyAction setup reached
  constructor
  · intro client
    exact distinct (dialled.once first second post other present also established establishedToo client)
  · intro session
    obtain ⟨response, returned, success⟩ :=
      (served.posted first post present).attended _ established (fun same => by cases same)
    obtain ⟨call, created, began, _⟩ := answer_began setup first post response served present returned success
    apply distinct
    refine served.distinct first second call ?_ ?_
    · rw [calledBy, present, Option.bind_some, began.led]
    · rw [calledBy, also, Option.bind_some, ← session, began.led]

-- The first session runs to its end, and the second client's is begun.
def runsOut : List SessNodeAction :=
  [.runnerStep 0 .ok true, .runnerStep 0 .ok true, .runnerStep 0 .ok true, .runnerStep 0 .ok true,
    .runnerStep 0 .ok true, .cleanupSession 0 .served]

def inTurn : List (SetupAction Unit) :=
  .activity true :: requested 0 (oneHost fun _ => false) ++ [.clientReturns 0 true fun _ => true] ++ runsOut.map .node ++
    requested 1 { oneHost (fun _ => false) with token := "another" } ++ [.clientReturns 1 true fun _ => true]

def twoClients : SessionSetup Unit :=
  waiting [.init CLIENT_KEY "192.168.1.10" 5005, .init CLIENT_KEY "192.168.1.10" 5006]

theorem two_clients_start : (sessionSetup Unit).start twoClients := by
  refine ⟨?_, rfl, rfl, rfl, rfl⟩
  intro client inside
  rcases List.mem_pair.mp inside with first | second
  · exact ⟨_, _, _, first⟩
  · exact ⟨_, _, _, second⟩

theorem established_once_in_turn : ∃ (setup : SessionSetup Unit) (post other : Post),
    Reached (sessionSetup Unit) anyAction setup ∧ post.outcome = some (.ok true) ∧ other.outcome = some (.ok true) ∧
      post.client ≠ other.client ∧ post.service.call? ≠ other.service.call? := by
  obtain ⟨setup, reached, first, second⟩ := replay_exists (sessionSetup Unit) anyAction inTurn twoClients
    (fun setup => (setup.posts[0]?).map Post.outcome = some (some (.ok true)) ∧
      (setup.posts[1]?).map Post.outcome = some (some (.ok true))) two_clients_start (by decide +kernel)
  obtain ⟨post, present, established⟩ := Option.map_eq_some_iff.mp first
  obtain ⟨other, also, establishedToo⟩ := Option.map_eq_some_iff.mp second
  exact ⟨setup, post, other, reached, established, establishedToo,
    established_once setup reached 0 1 (by decide) post other present also established establishedToo⟩

-- Every session has the one request that it was begun for, and the request's
-- client is told of a failure only if someone has stopped waiting.
theorem begun_session_told (setup : SessionSetup Obj) (reached : Reached (sessionSetup Obj) anyAction setup)
    (call : Nat) (state : Call) (present : setup.node.manager.calls[call]? = some state)
    (began : state.succeeded = true) :
    ∃ index post, setup.posts[index]? = some post ∧ post.service.call? = some call ∧
      (∀ (other : Nat) later, setup.posts[other]? = some later → later.service.call? = some call → other = index) ∧
      (post.outcome = some (.ok false) → post.abandoned = true) := by
  have served := reached_served anyAction setup reached
  obtain ⟨index, led⟩ := served.owned call (List.getElem?_eq_some_iff.mp present).1
  obtain ⟨post, listed, own⟩ := Option.bind_eq_some_iff.mp led
  refine ⟨index, post, listed, own, ?_, ?_⟩
  · intro other later also ownToo
    refine served.distinct other index call ?_ led
    rw [calledBy, also, Option.bind_some, ownToo]
  · intro ended
    have posted := served.posted index post listed
    have stopped : state.pc = .returned (some ⟨true, none⟩) := of_decide_eq_true began
    rcases posted.refused ended with gaveUp | ⟨answer, returned, failed⟩
    · exact gaveUp
    · rcases posted.listened answer returned with ⟨caller, response, answered, rfl⟩ | ⟨gaveUp | idle, _⟩
      · rw [answered] at own
        cases caller with
        | none => cases own
        | some caller =>
            cases own
            obtain ⟨result, ended, rfl⟩ := posted.answered call response answered
            obtain ⟨created, context⟩ := served.holds call state present (by rw [stopped]; rfl)
            rw [present, Option.map_some, stopped] at ended
            cases ended
            have told := failed _ rfl
            rw [context] at told
            cases told
      · exact gaveUp
      · rw [idle] at own
        cases own

-- The listener gives up as the session begins.
def gaveUp : List (SetupAction Unit) :=
  .activity true :: (requested 0 (oneHost fun _ => false)).take 10 ++
    [.listenerReturns 0 .timedOut, .clientReturns 0 true fun _ => true]

theorem begun_session_told_late : ∃ (setup : SessionSetup Unit) (post : Post), Reached (sessionSetup Unit) anyAction setup ∧
    post ∈ setup.posts ∧ post.outcome = some (.ok false) ∧ post.service.call? = some 0 ∧ post.abandoned = true := by
  obtain ⟨setup, reached, begun, told⟩ := replay_exists (sessionSetup Unit) anyAction gaveUp oneClient
    (fun setup => (setup.node.manager.calls[0]?).map Call.succeeded = some true ∧
      ∀ post ∈ setup.posts, post.outcome = some (.ok false)) one_client_start (by decide +kernel)
  obtain ⟨state, present, began⟩ := Option.map_eq_some_iff.mp begun
  obtain ⟨index, post, listed, led, _, late⟩ := begun_session_told setup reached 0 state present began
  have inside := List.mem_of_getElem? listed
  exact ⟨setup, post, reached, inside, told post inside, led, late (told post inside)⟩

-- secrets.token_urlsafe does not give a session the secret of another.
def freshTokens (setup : SessionSetup Obj) : SetupAction Obj → Prop
  | .create _ platform => ∀ context ∈ setup.contexts, ∀ created ∈ context, created.ctx.sessionSecret ≠ platform.token
  | _ => True

instance (setup : SessionSetup Obj) : (action : SetupAction Obj) → Decidable (freshTokens setup action)
  | .create _ _ => inferInstanceAs (Decidable (∀ context ∈ setup.contexts, ∀ created ∈ context, _))
  | .initiateSession _ _ | .auth _ _ | .createSession _ | .respond _ | .node _ | .activity _ | .listenerReturns _ _
  | .clientReturns _ _ _ | .clientSends _ _ _ | .clientReceives _ _ _ => inferInstanceAs (Decidable True)

def Secrets (setup : SessionSetup Obj) : Prop :=
  ∀ (first second : Nat) created other, setup.contexts[first]? = some (some created) →
    setup.contexts[second]? = some (some other) → created.ctx.sessionSecret = other.ctx.sessionSecret → first = second

theorem start_secrets (setup : SessionSetup Obj) (started : (sessionSetup Obj).start setup) : Secrets setup := by
  intro first second created other present
  rw [started.2.2.2.2] at present
  cases present

theorem step_secrets (setup next : SessionSetup Obj) (action : SetupAction Obj) (secrets : Secrets setup)
    (fresh : freshTokens setup action) (stepped : Stepped setup action next) : Secrets next := by
  cases stepped with
  | initiated | posted | moved | activity | returned | traffic => exact secrets
  | served index post node present queued begun =>
      intro first second created other present also
      exact secrets first second created other (context_old setup.contexts first created present)
        (context_old setup.contexts second other also)
  | created index platform post args ctx sockets call after node present serving request made current creating calls =>
      have token := (create_ok platform args ctx sockets made).1
      -- The context of the step is the only one with its token.
      have newest : ∀ (index : Nat) created,
          (setup.contexts.set setup.node.current (some ⟨args, ctx, sockets⟩))[index]? = some (some created) →
            setup.node.current = index ∧ created.ctx.sessionSecret = platform.token ∨
              setup.contexts[index]? = some (some created) ∧ created.ctx.sessionSecret ≠ platform.token := by
        intro index created listed
        by_cases here : setup.node.current = index
        · rw [here] at listed
          rw [List.getElem?_set, if_pos rfl] at listed
          split at listed
          · cases listed
            exact .inl ⟨here, token⟩
          · cases listed
        · rw [List.getElem?_set_ne here] at listed
          exact .inr ⟨listed, fresh (some created) (List.mem_of_getElem? listed) created rfl⟩
      intro first second created other firstListed secondListed same
      rcases newest first created firstListed with ⟨here, secret⟩ | ⟨listed, distinct⟩
      · rcases newest second other secondListed with ⟨there, _⟩ | ⟨_, distinct⟩
        · exact here.symm.trans there
        · exact absurd (same.symm.trans secret) distinct
      · rcases newest second other secondListed with ⟨_, secret⟩ | ⟨also, _⟩
        · exact absurd (same.trans secret) distinct
        · exact secrets first second created other listed also same

-- A key is the secret of a session that was begun for a request of the client.
def Key (setup : SessionSetup Obj) (index : Nat) (psk : List UInt8) : Prop :=
  ∃ (place : Nat) (post : Post) (call : Nat) (result : Option SessionStartResult) (created : Created Obj),
    setup.posts[place]? = some post ∧ post.client = index ∧ post.service.call? = some call ∧
      (setup.node.manager.calls[call]?).map Call.pc = some (.returned result) ∧
      setup.contexts[call]? = some (some created) ∧ psk = normalizePsk created.ctx.sessionSecret

def Keyed (setup : SessionSetup Obj) : Prop :=
  Each (fun index client => ∀ channel, (client.peer channel).peer.proto.psk = [] ∨
    Key setup index (client.peer channel).peer.proto.psk) setup.clients

theorem start_keyed (setup : SessionSetup Obj) (started : (sessionSetup Obj).start setup) : Keyed setup := by
  intro index client present channel
  obtain ⟨authKey, ip, port, rfl⟩ := started.1 client (List.mem_of_getElem? present)
  cases channel <;> exact .inl rfl

-- A request stays where it is, with its client and its call of new_session.
theorem stepped_posts (setup next : SessionSetup Obj) (action : SetupAction Obj) (served : Served setup)
    (stepped : Stepped setup action next) (place : Nat) (post : Post) (present : setup.posts[place]? = some post) :
    ∃ after, next.posts[place]? = some after ∧ after.client = post.client ∧
      ∀ call, post.service.call? = some call → after.service.call? = some call := by
  have inside := (List.getElem?_eq_some_iff.mp present).1
  have replaced : ∀ (index : Nat) before after, setup.posts[index]? = some before → after.client = before.client →
      (∀ call, before.service.call? = some call → after.service.call? = some call) →
      ∃ later, (setup.posts.set index after)[place]? = some later ∧ later.client = post.client ∧
        ∀ call, post.service.call? = some call → later.service.call? = some call := by
    intro index before after listed client led
    by_cases here : index = place
    · rw [here, present, Option.some_inj] at listed
      rw [here, List.getElem?_set_self inside, listed]
      exact ⟨after, rfl, client, led⟩
    · rw [List.getElem?_set_ne here]
      exact ⟨post, present, rfl, fun _ own => own⟩
  cases stepped with
  | initiated index host client listed idle =>
      exact ⟨post, (List.getElem?_append_left inside).trans present, rfl, fun _ own => own⟩
  | posted index before after listed moved =>
      have same := post_step_same _ _ before after (served.posted index before listed) moved
      exact replaced index before after listed same.client fun call led => same.call.trans led
  | served index before node listed queued begun =>
      refine replaced index before { before with service := .serving setup.node.manager.calls.length } listed rfl ?_
      intro call led
      rw [queued] at led
      cases led
  | returned index arrives dials before client body listed under owner received =>
      exact replaced index before _ listed rfl fun _ led => led
  | moved | created | activity | traffic => exact ⟨post, present, rfl, fun _ own => own⟩

theorem key_grows (setup next : SessionSetup Obj) (action : SetupAction Obj) (served : Served setup)
    (stepped : Stepped setup action next) (index : Nat) (psk : List UInt8) (key : Key setup index psk) :
    Key next index psk := by
  obtain ⟨place, post, call, result, created, present, own, led, returned, context, same⟩ := key
  obtain ⟨after, later, client, keeps⟩ := stepped_posts setup next action served stepped place post present
  obtain ⟨still, kept⟩ := (stepped_grows setup next action served stepped).returned call result returned
  exact ⟨place, after, call, result, created, later, client.trans own, keeps call led, still, kept.trans context, same⟩

theorem session_data_key (setup : SessionSetup Obj) (index : Nat) (post : Post) (arrives : Bool) (body : Option JsonBody)
    (served : Served setup) (present : setup.posts[index]? = some post)
    (received : SessionSetup.received post arrives = some body) (success : (sendSessionRequest body).success = true) :
    Key setup post.client (normalizePsk (sendSessionRequest body).token) := by
  obtain ⟨response, returned, good, rfl⟩ := received_success post arrives body received success
  obtain ⟨call, created, began, rfl⟩ := answer_began setup index post response served present returned good
  obtain ⟨result, ended, _⟩ := began.returned
  exact ⟨index, post, call, some result, created, present, rfl, began.led, ended, began.context,
    by rw [session_data_sent]⟩

theorem step_keyed (setup next : SessionSetup Obj) (action : SetupAction Obj) (served : Served setup) (keyed : Keyed setup)
    (stepped : Stepped setup action next) : Keyed next := by
  have grows := key_grows setup next action served stepped
  have grown : Each (fun index client => ∀ channel, (client.peer channel).peer.proto.psk = [] ∨
      Key next index (client.peer channel).peer.proto.psk) setup.clients := by
    intro index client present channel
    exact (keyed index client present channel).imp id (grows index _)
  cases stepped with
  | initiated | posted | served | moved | created | activity => exact grown
  | traffic index client after present traffic =>
      refine each_set _ setup.clients index after grown ?_
      intro channel
      rw [traffic.psk]
      exact grown index client present channel
  | returned index arrives dials post client body present under listed received =>
      refine each_set _ setup.clients post.client _ grown ?_
      intro channel
      have key (success : (sendSessionRequest body).success = true) := grows post.client _
        (session_data_key setup index post arrives body served present received success)
      have own := grown post.client client listed channel
      have attempted := client.initiate_attempted body dials
      generalize client.initiate body dials = attempt at attempted own key ⊢
      cases attempted with
      | refused failed => cases channel <;> exact own
      | raised after exception success same keyed =>
          rw [keyed]
          exact .inr (key success)
      | connected after success same fresh peers =>
          rw [peers]
          exact .inr (key success)

theorem reached_keyed (setup : SessionSetup Obj) (reached : Reached (sessionSetup Obj) freshTokens setup) :
    Served setup ∧ Secrets setup ∧ Keyed setup := by
  refine reached_invariant (sessionSetup Obj) freshTokens (fun setup => Served setup ∧ Secrets setup ∧ Keyed setup)
    (fun initial started => ⟨start_served initial started, start_secrets initial started, start_keyed initial started⟩)
    ?_ setup reached
  intro source action target sound fresh moved
  obtain ⟨served, secrets, keyed⟩ := sound
  have stepped := step_cases source target action moved
  exact ⟨step_served source target action served stepped, step_secrets source target action secrets fresh stepped,
    step_keyed source target action served keyed stepped⟩

theorem normalize_psk_injective (first second : String) (same : normalizePsk first = normalizePsk second) :
    first = second :=
  String.toByteArray_inj.mp (ByteArray.ext (Array.toList_inj.mp same))

-- A key that a client holds, on either channel, is no other client's.
theorem keys_distinct (setup : SessionSetup Obj) (reached : Reached (sessionSetup Obj) freshTokens setup)
    (first second : Nat) (distinct : first ≠ second) (client other : AnimacharacterSessionClient)
    (channel otherChannel : Channel) (present : setup.clients[first]? = some client)
    (also : setup.clients[second]? = some other) (held : (client.peer channel).peer.proto.psk ≠ []) :
    (client.peer channel).peer.proto.psk ≠ (other.peer otherChannel).peer.proto.psk := by
  intro shared
  obtain ⟨served, secrets, keyed⟩ := reached_keyed setup reached
  rcases keyed first client present channel with unkeyed | key
  · exact absurd unkeyed held
  · rcases keyed second other also otherChannel with unkeyed | otherKey
    · exact absurd (shared.trans unkeyed) held
    · obtain ⟨place, post, call, _, created, listed, own, led, _, context, secret⟩ := key
      obtain ⟨otherPlace, asked, otherCall, _, made, otherListed, otherOwn, otherLed, _, otherContext, otherSecret⟩ :=
        otherKey
      have same := normalize_psk_injective _ _ (secret.symm.trans (shared.trans otherSecret))
      have calls := secrets call otherCall created made context otherContext same
      have places := served.distinct place otherPlace call (by rw [calledBy, listed, Option.bind_some, led])
        (by rw [calledBy, otherListed, Option.bind_some, otherLed, calls])
      rw [places, otherListed, Option.some_inj] at listed
      exact distinct (by rw [← own, ← otherOwn, listed])

theorem keys_distinct_in_turn : ∃ (setup : SessionSetup Unit) (client other : AnimacharacterSessionClient),
    Reached (sessionSetup Unit) freshTokens setup ∧ setup.clients[0]? = some client ∧ setup.clients[1]? = some other ∧
      client.peerudp.peer.proto.psk ≠ [] ∧ client.peerudp.peer.proto.psk ≠ other.peerudp.peer.proto.psk := by
  obtain ⟨setup, reached, held, also⟩ := replay_exists (sessionSetup Unit) freshTokens inTurn twoClients
    (fun setup => (setup.clients[0]?).any (fun client => client.peerudp.peer.proto.psk ≠ []) = true ∧
      (setup.clients[1]?).isSome = true) two_clients_start (by decide +kernel)
  obtain ⟨client, present, held⟩ := (Option.any_eq_true _ _).mp held
  obtain ⟨other, also⟩ := Option.isSome_iff_exists.mp also
  have keyed := of_decide_eq_true held
  exact ⟨setup, client, other, reached, present, also, keyed,
    keys_distinct setup reached 0 1 (by decide) client other .UDP .UDP present also keyed⟩

end SessionSetup

end Animacharacter.SessionMng
