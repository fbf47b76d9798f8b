import Animacharacter.Authmsg.WireProtocol
import Animacharacter.Packetcodec.SessionPackets

set_option autoImplicit false

namespace Animacharacter.SessionMng

open Authmsg Packetcodec Packetcodec.PacketDecoder

-- The calls of create that can raise, in the order in which it makes them.
inductive Operation where
  | tokenUrlsafe
  | tcpOpen
  | tcpListen
  | tcpAddress
  | udpOpen
  | udpBind
  | udpSetblocking
  | udpConnect
  | udpAddress
  | registerPackets
  | info
deriving DecidableEq

def Operation.all : List Operation :=
  [.tokenUrlsafe, .tcpOpen, .tcpListen, .tcpAddress, .udpOpen, .udpBind, .udpSetblocking, .udpConnect, .udpAddress,
    .registerPackets, .info]

inductive CreateRaised where
  | operation (operation : Operation)
  | IsNotInitialized (text : String)
  | IsAlreadyInitialized (text : String)
  | SessionCreationError (source : CreateRaised)
  | SessionDestructionError (source : CreateRaised)
deriving DecidableEq

structure ACSessionCreationArguments where
  clientIp : String
  clientUdpPort : Nat
deriving DecidableEq

-- What the libraries under create answer.
structure Platform (Obj : Type) where
  raises : Operation → Bool
  resolves : String → Bool
  token : String
  tcpPort : Nat
  udpPort : Nat
  serializers : Serializers Obj

inductive Transport where
  | opened
  | closed
deriving DecidableEq

structure PeerBase where
  proto : SecureWireProtocol
  isInitialized : Bool
deriving DecidableEq

-- The sockets behind the peers and the two locals of create.
structure Sockets where
  tcpSock : Option Transport
  udpSock : Option Transport
  sessSock : Option PeerBase
  streamSock : Option PeerBase
deriving DecidableEq

def Sockets.init : Sockets := ⟨none, none, none, none⟩

abbrev Attempt := EStateM CreateRaised Sockets

-- The peers of a context are the two of Sockets.
structure ACSessionContext (Obj : Type) where
  tcpPort : Nat
  streamPort : Nat
  codec : PacketDecoder (List (Attribute Obj)) (List (Attribute Obj))
  sessionSecret : String

def PeerBase.init (psk : List UInt8) (isInitialized : Bool) : PeerBase := ⟨.init psk, isInitialized⟩

def normalizePsk (psk : String) : List UInt8 := psk.toUTF8.data.toList

section Peers

variable {Obj : Type} (platform : Platform Obj) (args : ACSessionCreationArguments)

-- connect also raises for a host that does not resolve and for a port out of
-- range.
def Platform.fails : Operation → Bool
  | .udpConnect =>
      platform.raises .udpConnect || !platform.resolves args.clientIp || decide (65535 < args.clientUdpPort)
  | operation => platform.raises operation

def call (operation : Operation) (effect : Sockets → Sockets) : Attempt Unit := fun sockets =>
  if platform.fails args operation then .error (.operation operation) sockets else .ok () (effect sockets)

def requireNotInitialized (peer : Option PeerBase) (errmsg : String) : Attempt Unit :=
  if peer.any PeerBase.isInitialized then throw (.IsAlreadyInitialized errmsg) else pure ()

def requireInitialized (peer : PeerBase) : Attempt Unit :=
  if peer.isInitialized then pure () else throw (.IsNotInitialized "Peer must be initialized")

namespace PeerTCP

def init (psk : String) : Attempt PeerBase := do
  call platform args .tcpOpen fun sockets => { sockets with tcpSock := some .opened }
  return .init (normalizePsk psk) false

def listen : Attempt Unit := do
  requireNotInitialized (← get).sessSock "Cannot listen after peer as already been initialized"
  call platform args .tcpListen id
  modify fun sockets => { sockets with sessSock := sockets.sessSock.map ({ · with isInitialized := true }) }

def localPort : Attempt Nat := do
  call platform args .tcpAddress id
  return platform.tcpPort

def close (peer : PeerBase) : Attempt Unit := do
  requireInitialized peer
  modify fun sockets => { sockets with tcpSock := some .closed }

end PeerTCP

namespace PeerUDP

-- UDPEndpoint opens the socket, binds it and makes it non-blocking before there
-- is a peer.
def init (psk : String) : Attempt PeerBase := do
  call platform args .udpOpen fun sockets => { sockets with udpSock := some .opened }
  call platform args .udpBind id
  call platform args .udpSetblocking id
  return .init (normalizePsk psk) false

def dial : Attempt Unit := do
  requireNotInitialized (← get).streamSock "Cannot dial after Peer is alrady initialized"
  call platform args .udpConnect id
  modify fun sockets => { sockets with streamSock := sockets.streamSock.map ({ · with isInitialized := true }) }

def localPort : Attempt Nat := do
  call platform args .udpAddress id
  return platform.udpPort

def close (peer : PeerBase) : Attempt Unit := do
  requireInitialized peer
  modify fun sockets =>
    { sockets with
      udpSock := some .closed
      streamSock := sockets.streamSock.map ({ · with isInitialized := false }) }

end PeerUDP

-- `try: if peer: peer.close()` with `except Exception: pass`.
def closeQuietly (peer : Option PeerBase) (close : PeerBase → Attempt Unit) : Attempt Unit :=
  match peer with
  | none => pure ()
  | some peer => tryCatch (close peer) fun _ => pure ()

def allocate : Attempt (ACSessionContext Obj) := do
  call platform args .tokenUrlsafe id
  let sessSock ← PeerTCP.init platform args platform.token
  modify fun sockets => { sockets with sessSock := some sessSock }
  PeerTCP.listen platform args
  let sessPort ← PeerTCP.localPort platform args
  let streamSock ← PeerUDP.init platform args platform.token
  modify fun sockets => { sockets with streamSock := some streamSock }
  PeerUDP.dial platform args
  let streamPort ← PeerUDP.localPort platform args
  call platform args .registerPackets id
  let ctx := ⟨sessPort, streamPort, sessionCodec platform.serializers, platform.token⟩
  call platform args .info id
  return ctx

def release (exc : CreateRaised) : Attempt (ACSessionContext Obj) := do
  closeQuietly (← get).sessSock PeerTCP.close
  closeQuietly (← get).streamSock PeerUDP.close
  throw (.SessionCreationError exc)

def create : Attempt (ACSessionContext Obj) := tryCatch (allocate platform args) release

end Peers

-- The first close to raise leaves the second out.
def destroy : Attempt Unit :=
  tryCatch
    (do
      (← get).sessSock.forM PeerTCP.close
      (← get).streamSock.forM PeerUDP.close)
    fun exc => throw (.SessionDestructionError exc)

section Failing

variable {Obj : Type} (platform : Platform Obj) (args : ACSessionCreationArguments)

def failurePoint : Option Operation := Operation.all.find? (platform.fails args)

namespace Sockets

-- Every peer of create that was constructed has its transport closed.
def PeersClosed (sockets : Sockets) : Prop :=
  (sockets.sessSock ≠ none → sockets.tcpSock = some .closed) ∧
    (sockets.streamSock ≠ none → sockets.udpSock = some .closed)

-- Every transport socket that was constructed is closed, with or without a peer.
def TransportsClosed (sockets : Sockets) : Prop :=
  sockets.tcpSock ≠ some .opened ∧ sockets.udpSock ≠ some .opened

-- The sockets when the try block has come to an operation; `peer` says whether
-- a peer on the session's secret is initialized.
def before (peer : Bool → PeerBase) : Operation → Sockets
  | .tokenUrlsafe | .tcpOpen => .init
  | .tcpListen => ⟨some .opened, none, some (peer false), none⟩
  | .tcpAddress | .udpOpen => ⟨some .opened, none, some (peer true), none⟩
  | .udpBind | .udpSetblocking => ⟨some .opened, some .opened, some (peer true), none⟩
  | .udpConnect => ⟨some .opened, some .opened, some (peer true), some (peer false)⟩
  | .udpAddress | .registerPackets | .info => ⟨some .opened, some .opened, some (peer true), some (peer true)⟩

-- What the except block leaves: a peer that is not initialized is not closed.
def released (sockets : Sockets) : Sockets where
  tcpSock := if sockets.sessSock.any PeerBase.isInitialized then some .closed else sockets.tcpSock
  udpSock := if sockets.streamSock.any PeerBase.isInitialized then some .closed else sockets.udpSock
  sessSock := sockets.sessSock
  streamSock := sockets.streamSock.map ({ · with isInitialized := false })

end Sockets

theorem release_raises (exc : CreateRaised) (sockets : Sockets) :
    (release exc : Attempt (ACSessionContext Obj)) sockets = .error (.SessionCreationError exc) sockets.released := by
  obtain ⟨tcpSock, udpSock, sessSock, streamSock⟩ := sockets
  rcases sessSock with _ | ⟨proto, _ | _⟩ <;> rcases streamSock with _ | ⟨other, _ | _⟩ <;> rfl

theorem failure_point_first (point : Operation) (failing : failurePoint platform args = some point) :
    platform.fails args point = true ∧
      ∀ operation ∈ Operation.all.takeWhile (· ≠ point), platform.fails args operation = false := by
  obtain ⟨fails, before, behind, order, returned⟩ := List.find?_eq_some_iff_append.mp failing
  have prior : ∀ operation ∈ before, decide (operation ≠ point) = true := by
    intro operation inside
    apply decide_eq_true
    intro same
    have returns := returned operation inside
    rw [same, fails] at returns
    cases returns
  refine ⟨fails, ?_⟩
  intro operation inside
  rw [order, List.takeWhile_append_of_pos prior, List.takeWhile_cons_of_neg (by simp), List.append_nil] at inside
  simpa using returned operation inside

variable {Result : Type}

theorem call_then (operation : Operation) (effect : Sockets → Sockets) (next : Unit → Attempt Result)
    (sockets : Sockets) :
    (call platform args operation effect >>= next) sockets =
      if platform.fails args operation then .error (.operation operation) sockets
      else next () (effect sockets) := by
  simp only [bind, EStateM.bind, call]
  cases platform.fails args operation <;> rfl

theorem get_then (next : Sockets → Attempt Result) (sockets : Sockets) :
    (get >>= next) sockets = next sockets sockets := rfl

theorem modify_then (effect : Sockets → Sockets) (next : Unit → Attempt Result) (sockets : Sockets) :
    (modify effect >>= next) sockets = next () (effect sockets) := rfl

theorem require_then (peer : Option PeerBase) (errmsg : String) (next : Unit → Attempt Result)
    (fresh : peer.any PeerBase.isInitialized = false) :
    (requireNotInitialized peer errmsg >>= next) = next () := by
  simp [requireNotInitialized, fresh]

theorem return_ok (value : Result) (sockets : Sockets) :
    (pure value : Attempt Result) sockets = .ok value sockets := rfl

theorem allocate_raises (point : Operation) (failing : failurePoint platform args = some point) :
    allocate platform args .init = .error (.operation point) (.before (.init (normalizePsk platform.token)) point) := by
  obtain ⟨fails, returned⟩ := failure_point_first platform args point failing
  cases point <;> simp [Operation.all] at returned <;>
    simp [allocate, PeerTCP.init, PeerTCP.listen, PeerTCP.localPort, PeerUDP.init, PeerUDP.dial, PeerUDP.localPort,
      call_then, get_then, modify_then, require_then, returned, fails, Sockets.init, Sockets.before,
      PeerBase.init, -bind_pure_comp]

theorem allocate_returns (never : failurePoint platform args = none) :
    allocate platform args .init =
      .ok ⟨platform.tcpPort, platform.udpPort, sessionCodec platform.serializers, platform.token⟩
        (.before (.init (normalizePsk platform.token)) .info) := by
  have returned := List.find?_eq_none.mp never
  simp [Operation.all] at returned
  simp [allocate, PeerTCP.init, PeerTCP.listen, PeerTCP.localPort, PeerUDP.init, PeerUDP.dial, PeerUDP.localPort,
    call_then, get_then, modify_then, require_then, return_ok, returned, Sockets.init, Sockets.before,
    PeerBase.init, -bind_pure_comp]

theorem create_raises (point : Operation) (failing : failurePoint platform args = some point) :
    create platform args .init =
      .error (.SessionCreationError (.operation point))
        (Sockets.before (.init (normalizePsk platform.token)) point).released := by
  have raised := allocate_raises platform args point failing
  simp only [create, tryCatch, tryCatchThe, MonadExceptOf.tryCatch, EStateM.tryCatch, raised]
  exact release_raises _ _

theorem create_returns (never : failurePoint platform args = none) :
    create platform args .init =
      .ok ⟨platform.tcpPort, platform.udpPort, sessionCodec platform.serializers, platform.token⟩
        (.before (.init (normalizePsk platform.token)) .info) := by
  have returned := allocate_returns platform args never
  simp only [create, tryCatch, tryCatchThe, MonadExceptOf.tryCatch, EStateM.tryCatch, returned]

theorem destroy_closes (never : failurePoint platform args = none) :
    ∃ ctx created destroyed, create platform args .init = .ok ctx created ∧
      destroy created = .ok () destroyed ∧ destroyed.tcpSock = some .closed ∧ destroyed.udpSock = some .closed :=
  ⟨_, _, _, create_returns platform args never, rfl, rfl, rfl⟩

theorem before_released_peers (psk : List UInt8) (point : Operation) :
    (Sockets.before (.init psk) point).released.PeersClosed ↔ point ≠ .tcpListen ∧ point ≠ .udpConnect := by
  cases point <;> simp [Sockets.before, Sockets.init, PeerBase.init, Sockets.released, Sockets.PeersClosed]

theorem before_released_transports (psk : List UInt8) (point : Operation) :
    (Sockets.before (.init psk) point).released.TransportsClosed ↔
      point ∉ [.tcpListen, .udpBind, .udpSetblocking, .udpConnect] := by
  cases point <;> simp [Sockets.before, Sockets.init, PeerBase.init, Sockets.released, Sockets.TransportsClosed]

theorem failed_creation_closes (point : Operation) (failing : failurePoint platform args = some point) :
    ∃ sockets, create platform args .init = .error (.SessionCreationError (.operation point)) sockets ∧
      (sockets.PeersClosed ↔ point ≠ .tcpListen ∧ point ≠ .udpConnect) ∧
      (sockets.TransportsClosed ↔ point ∉ [.tcpListen, .udpBind, .udpSetblocking, .udpConnect]) :=
  ⟨_, create_raises platform args point failing, before_released_peers _ point, before_released_transports _ point⟩

end Failing

def oneHost (raises : Operation → Bool) : Platform Unit where
  raises := raises
  resolves := fun host => host = "192.168.1.20"
  token := "token"
  tcpPort := 40001
  udpPort := 40002
  serializers := noObjects

-- Registering the packets fails, and both sockets are closed.
theorem failed_creation_closes_register : ∃ sockets,
    create (oneHost (fun operation => operation = .registerPackets)) ⟨"192.168.1.20", 5005⟩ .init =
      .error (.SessionCreationError (.operation .registerPackets)) sockets ∧ sockets.TransportsClosed := by
  obtain ⟨sockets, raised, _, closed⟩ :=
    failed_creation_closes (oneHost (fun operation => operation = .registerPackets)) ⟨"192.168.1.20", 5005⟩
      .registerPackets (by decide +kernel)
  exact ⟨sockets, raised, closed.mpr (by simp)⟩

-- Nothing but the name of the client's host is wrong. The stream peer was
-- constructed, dial raised before it was initialized, and its socket stays open.
theorem unresolved_client_leaks : ∃ sockets peer,
    create (oneHost (fun _ => false)) ⟨"client.invalid", 5005⟩ .init =
      .error (.SessionCreationError (.operation .udpConnect)) sockets ∧
      sockets.streamSock = some peer ∧ sockets.udpSock = some .opened :=
  ⟨_, _, create_raises _ _ .udpConnect (by decide +kernel), rfl, rfl⟩

end Animacharacter.SessionMng
