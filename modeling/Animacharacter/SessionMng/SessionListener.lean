import Animacharacter.Authmsg.Channels
import Animacharacter.SessionMng.SessManagerNode
import Animacharacter.SessionMng.SessionCreation

set_option autoImplicit false

namespace Animacharacter.SessionMng

open StepSystem Authmsg

def CLIENT_KEY : String := "supersecret-client-key"

structure CreateSessionResponse where
  success : Bool := false
  msg : String := ""
  sessionSecret : String := ""
  tcpPort : Nat := 0
  udpPort : Nat := 0
deriving DecidableEq

structure SessionCreationHttpResponse where
  success : Bool
  msg : String := ""
  nngPort : Int := -1
  udpPort : Int := -1
  udpSecretKey : String := ""
  token : String := ""
deriving DecidableEq

structure SessionData where
  success : Bool := false
  msg : String := ""
  nngPort : Int := -1
  udpPort : Int := -1
  udpSecretKey : String := ""
  token : String := ""
deriving DecidableEq

inductive JsonValue where
  | bool (value : Bool)
  | int (value : Int)
  | str (value : String)
deriving DecidableEq

-- A JSON object of the listener; its values have the types of the model's fields.
abbrev JsonBody := List (String × JsonValue)

namespace JsonBody

def getBool (body : JsonBody) (key : String) (default : Bool) : Bool :=
  match body.lookup key with
  | some (.bool value) => value
  | _ => default

def getInt (body : JsonBody) (key : String) (default : Int) : Int :=
  match body.lookup key with
  | some (.int value) => value
  | _ => default

def getStr (body : JsonBody) (key : String) (default : String) : String :=
  match body.lookup key with
  | some (.str value) => value
  | _ => default

end JsonBody

namespace SessionCreationHttpResponse

def json (response : SessionCreationHttpResponse) : JsonBody :=
  [("success", .bool response.success), ("msg", .str response.msg), ("nng_port", .int response.nngPort),
    ("udp_port", .int response.udpPort), ("udp_secret_key", .str response.udpSecretKey),
    ("token", .str response.token)]

-- Both the key of the UDP channel and the token are the session's one secret.
def ofResult (result : CreateSessionResponse) : SessionCreationHttpResponse where
  success := result.success
  msg := result.msg
  nngPort := result.tcpPort
  udpPort := result.udpPort
  udpSecretKey := result.sessionSecret
  token := result.sessionSecret

end SessionCreationHttpResponse

-- send_request has given nothing for a status other than 200 and for a request
-- that failed or timed out.
def sendSessionRequest (response : Option JsonBody) : SessionData :=
  match response with
  | none | some [] => {}
  | some body =>
      { success := body.getBool "success" false
        msg := body.getStr "msg" ""
        nngPort := body.getInt "nng_port" (-1)
        udpPort := body.getInt "udp_port" (-1)
        udpSecretKey := body.getStr "udp_secret_key" ""
        token := body.getStr "token" "" }

theorem session_data_sent (response : SessionCreationHttpResponse) :
    sendSessionRequest (some response.json) =
      ⟨response.success, response.msg, response.nngPort, response.udpPort, response.udpSecretKey, response.token⟩ := by
  simp [sendSessionRequest, SessionCreationHttpResponse.json, JsonBody.getBool, JsonBody.getInt, JsonBody.getStr,
    List.lookup_cons]

-- A peer of the client and the address that it is dialled to.
structure DialledPeer where
  peer : PeerBase
  remote : Option (String × Int)
deriving DecidableEq

structure AnimacharacterSessionClient where
  ip : String
  authKey : String
  localUdpPort : Nat
  peertcp : DialledPeer
  peerudp : DialledPeer
  heartbeatThread : Bool
  sessionData : SessionData
deriving DecidableEq

inductive InitiateRaised where
  | IsAlreadyInitialized (text : String)
  | dial (channel : Channel)
  | RuntimeError (text : String)
deriving DecidableEq

abbrev Initiate := EStateM InitiateRaised AnimacharacterSessionClient

namespace AnimacharacterSessionClient

-- The peers are made without a key.
def init (authKey ip : String) (localUdpPort : Nat) : AnimacharacterSessionClient :=
  ⟨ip, authKey, localUdpPort, ⟨.init [] false, none⟩, ⟨.init [] false, none⟩, false, {}⟩

def peer (client : AnimacharacterSessionClient) : Channel → DialledPeer
  | .TCP => client.peertcp
  | .UDP => client.peerudp

def setPeer (client : AnimacharacterSessionClient) (channel : Channel) (peer : DialledPeer) :
    AnimacharacterSessionClient :=
  match channel with
  | .TCP => { client with peertcp := peer }
  | .UDP => { client with peerudp := peer }

def setProto (client : AnimacharacterSessionClient) (channel : Channel) (proto : SecureWireProtocol) :
    AnimacharacterSessionClient :=
  client.setPeer channel { client.peer channel with peer := { (client.peer channel).peer with proto } }

def setPsk (channel : Channel) (psk : String) : Initiate Unit :=
  modify fun client => client.setProto channel { (client.peer channel).peer.proto with psk := normalizePsk psk }

def alreadyInitialized : Channel → String
  | .TCP => "Cannot dial after peer as already been initialized"
  | .UDP => "Cannot dial after Peer is alrady initialized"

-- PeerTCP.dial and PeerUDP.dial; the UDP endpoint keeps the address of a connect that raises.
def dial (channel : Channel) (dials : Channel → Bool) (host : String) (port : Int) : Initiate Unit := do
  let dialled := (← get).peer channel
  if dialled.peer.isInitialized then throw (.IsAlreadyInitialized (alreadyInitialized channel))
  else if dials channel then modify (·.setPeer channel ⟨{ dialled.peer with isInitialized := true }, some (host, port)⟩)
  else
    if channel = .UDP then modify (·.setPeer channel ⟨dialled.peer, some (host, port)⟩)
    throw (.dial channel)

def startHeartbeat : Initiate Unit := do
  if (← get).heartbeatThread then throw (.RuntimeError "threads can only be started once")
  else modify ({ · with heartbeatThread := true })

def initiateSession (response : Option JsonBody) (dials : Channel → Bool) : Initiate Bool := do
  let data := sendSessionRequest response
  modify ({ · with sessionData := data })
  if !data.success then return false
  setPsk .TCP data.token
  setPsk .UDP data.token
  dial .TCP dials (← get).ip data.nngPort
  dial .UDP dials (← get).ip data.udpPort
  startHeartbeat
  return true

-- The client as a call leaves it, and how the call ends.
def initiate (client : AnimacharacterSessionClient) (response : Option JsonBody) (dials : Channel → Bool) :
    AnimacharacterSessionClient × Except InitiateRaised Bool :=
  match initiateSession response dials client with
  | .ok ok client => (client, .ok ok)
  | .error raised client => (client, .error raised)

-- PeerBase.send and recv, by which the peer's counters move once it is initialized.
def send (client : AnimacharacterSessionClient) (channel : Channel) (msg : List UInt8) :
    Option AnimacharacterSessionClient :=
  if (client.peer channel).peer.isInitialized then
    some (client.setProto channel ((client.peer channel).peer.proto.pack msg).1)
  else none

def receive (client : AnimacharacterSessionClient) (channel : Channel) (data : List UInt8) :
    Option AnimacharacterSessionClient :=
  if (client.peer channel).peer.isInitialized then
    some (client.setProto channel ((client.peer channel).peer.proto.unpack data).1)
  else none

end AnimacharacterSessionClient

-- Where a request is at the session manager node; a callback that raises gives
-- no response.
inductive ServicePc where
  | idle
  | queued
  | serving (call : Nat)
  | answered (call : Option Nat) (response : CreateSessionResponse)
  | raised (call : Nat)
deriving DecidableEq

-- The call of new_session that a request has led to.
def ServicePc.call? : ServicePc → Option Nat
  | .serving call | .answered (some call) _ | .raised call => some call
  | .idle | .queued | .answered none _ => none

-- Where the listener is with a POST; `returned none` is an HTTP error.
inductive ListenerPc where
  | auth
  | waiting
  | returned (response : Option SessionCreationHttpResponse)
deriving DecidableEq

-- How spin_until_future_complete ends.
inductive ServiceWait where
  | done
  | timedOut
  | raised
deriving DecidableEq

-- One call of initiate_session with its POST. `abandoned` says that the listener
-- or the client has stopped waiting for the answer.
structure Post where
  client : Nat
  apikey : String
  host : Option String
  udpPort : Nat
  request : Option ACSessionCreationArguments
  service : ServicePc
  listener : ListenerPc
  abandoned : Bool
  outcome : Option (Except InitiateRaised Bool)
deriving DecidableEq

-- A context of create, with the arguments and the sockets that it was made with.
structure Created (Obj : Type) where
  args : ACSessionCreationArguments
  ctx : ACSessionContext Obj
  sockets : Sockets

-- The clients, the POSTs at the listener and the session manager node, which
-- keeps the contexts beside the calls of new_session.
structure SessionSetup (Obj : Type) where
  clients : List AnimacharacterSessionClient
  posts : List Post
  isActive : Bool
  node : SessManagerNode
  contexts : List (Option (Created Obj))

inductive SetupAction (Obj : Type) where
  | initiateSession (client : Nat) (host : Option String)
  | auth (post : Nat) (serviceIsReady : Bool)
  | createSession (post : Nat)
  | create (post : Nat) (platform : Platform Obj)
  | respond (post : Nat)
  | node (action : SessNodeAction)
  | activity (isActive : Bool)
  | listenerReturns (post : Nat) (wait : ServiceWait)
  | clientReturns (post : Nat) (received : Bool) (dials : Channel → Bool)
  | clientSends (client : Nat) (channel : Channel) (msg : List UInt8)
  | clientReceives (client : Nat) (channel : Channel) (data : List UInt8)

namespace SessionSetup

variable {Obj : Type}

def setPost (setup : SessionSetup Obj) (index : Nat) (post : Post) : SessionSetup Obj :=
  { setup with posts := setup.posts.set index post }

def setClient (setup : SessionSetup Obj) (index : Nat) (client : AnimacharacterSessionClient) : SessionSetup Obj :=
  { setup with clients := setup.clients.set index client }

def initiateSession (setup : SessionSetup Obj) (index : Nat) (host : Option String) : Option (SessionSetup Obj) :=
  match setup.clients[index]? with
  | none => none
  | some client =>
      if setup.posts.all fun post => post.client ≠ index || post.outcome.isSome then
        some { setup with posts := setup.posts ++
          [⟨index, client.authKey, host, client.localUdpPort, none, .idle, .auth, false, none⟩] }
      else none

-- The route, with the beginning of make_session_creation_request.
def auth (post : Post) (serviceIsReady : Bool) : Post :=
  if post.apikey ≠ CLIENT_KEY then { post with listener := .returned none }
  else
    match post.host with
    | none => { post with listener := .returned none }
    | some host =>
        if serviceIsReady then
          { post with request := some ⟨host, post.udpPort⟩, service := .queued, listener := .waiting }
        else { post with listener := .returned (some { success := false }) }

-- create_session_srv_cb up to its call of new_session.
def createSession (setup : SessionSetup Obj) (index : Nat) (post : Post) : Option (SessionSetup Obj) :=
  if setup.isActive then
    (setup.node.step .createSession).map fun node =>
      { setup.setPost index { post with service := .serving setup.node.manager.calls.length } with
        node, contexts := setup.contexts ++ [none] }
  else if setup.node.manager.calls.all fun call => call.pc.isReturned then
    some (setup.setPost index
      { post with service := .answered none { success := false, msg := "Session manager is not active" } })
  else none

def atCreate (setup : SessionSetup Obj) : Bool :=
  (setup.node.manager.calls[setup.node.current]?).any fun call => call.pc = .create

-- create_session of the resource manager; SessionCreationError is raised without a text.
def create (setup : SessionSetup Obj) (args : ACSessionCreationArguments) (platform : Platform Obj) :
    Option (SessionSetup Obj) :=
  match SessionMng.create platform args .init with
  | .ok ctx sockets =>
      (setup.node.step (.callStep .ok)).map fun node =>
        { setup with node, contexts := setup.contexts.set setup.node.current (some ⟨args, ctx, sockets⟩) }
  | .error _ _ => (setup.node.step (.callStep (.refused ""))).map fun node => { setup with node }

-- The rest of create_session_srv_cb once new_session has returned.
def response (result : SessionStartResult) (created : Option (Created Obj)) : CreateSessionResponse :=
  match result.success, created with
  | true, some created =>
      { success := true
        sessionSecret := created.ctx.sessionSecret
        tcpPort := created.ctx.tcpPort
        udpPort := created.ctx.streamPort }
  | _, _ => { success := false, msg := result.errorMsg.getD "Unknown error" }

def respond (setup : SessionSetup Obj) (index : Nat) (post : Post) (call : Nat) : Option (SessionSetup Obj) :=
  match (setup.node.manager.calls[call]?).map Call.pc with
  | some (.returned none) => some (setup.setPost index { post with service := .raised call })
  | some (.returned (some result)) =>
      some (setup.setPost index
        { post with service := .answered (some call) (response result (setup.contexts[call]?).join) })
  | _ => none

def listenerReturns (post : Post) (wait : ServiceWait) : Option Post :=
  match post.listener, wait with
  | .waiting, .done =>
      match post.service with
      | .answered _ response => some { post with listener := .returned (some (.ofResult response)) }
      | _ => none
  | .waiting, .timedOut => some { post with listener := .returned (some { success := false }), abandoned := true }
  | .waiting, .raised => some { post with listener := .returned none, abandoned := true }
  | _, _ => none

-- What the client receives: the listener's answer, or nothing when it is not
-- there in time or the connection fails.
def received (post : Post) : Bool → Option (Option JsonBody)
  | false => some none
  | true =>
      match post.listener with
      | .returned response => some (response.map SessionCreationHttpResponse.json)
      | _ => none

def clientReturns (setup : SessionSetup Obj) (index : Nat) (post : Post) (arrives : Bool) (dials : Channel → Bool) :
    Option (SessionSetup Obj) :=
  match post.outcome, setup.clients[post.client]?, received post arrives with
  | none, some client, some body =>
      let attempt := client.initiate body dials
      some ((setup.setPost index
        { post with abandoned := post.abandoned || !arrives, outcome := some attempt.2 }).setClient post.client attempt.1)
  | _, _, _ => none

def nodeStep (setup : SessionSetup Obj) (action : SessNodeAction) : Option (SessionSetup Obj) :=
  (setup.node.step action).map fun node => { setup with node }

def step (setup : SessionSetup Obj) : SetupAction Obj → Option (SessionSetup Obj)
  | .initiateSession client host => setup.initiateSession client host
  | .auth index serviceIsReady =>
      (setup.posts[index]?).bind fun post =>
        if post.listener = .auth then some (setup.setPost index (auth post serviceIsReady)) else none
  | .createSession index =>
      (setup.posts[index]?).bind fun post =>
        if post.service = .queued then setup.createSession index post else none
  | .create index platform =>
      (setup.posts[index]?).bind fun post =>
        if post.service = .serving setup.node.current ∧ setup.atCreate = true then
          post.request.bind fun args => setup.create args platform
        else none
  | .respond index =>
      (setup.posts[index]?).bind fun post =>
        match post.service with
        | .serving call => setup.respond index post call
        | _ => none
  -- Calls come from the service, and create has an action of its own.
  | .node .createSession => none
  | .node (.callStep outcome) => if setup.atCreate then none else setup.nodeStep (.callStep outcome)
  | .node action => setup.nodeStep action
  | .activity isActive => some { setup with isActive }
  | .listenerReturns index wait =>
      (setup.posts[index]?).bind fun post => (listenerReturns post wait).map (setup.setPost index)
  | .clientReturns index arrives dials =>
      (setup.posts[index]?).bind fun post => setup.clientReturns index post arrives dials
  | .clientSends index channel msg =>
      (setup.clients[index]?).bind fun client => (client.send channel msg).map (setup.setClient index)
  | .clientReceives index channel data =>
      (setup.clients[index]?).bind fun client => (client.receive channel data).map (setup.setClient index)

end SessionSetup

def sessionSetup (Obj : Type) : System (SessionSetup Obj) (SetupAction Obj) where
  start setup := (∀ client ∈ setup.clients, ∃ authKey ip localUdpPort, client = .init authKey ip localUdpPort) ∧
    setup.posts = [] ∧ setup.isActive = false ∧ sessManagerNode.start setup.node ∧ setup.contexts = []
  step := SessionSetup.step

end Animacharacter.SessionMng
