import Animacharacter.SessionMng.SessionListener

set_option autoImplicit false

namespace Animacharacter.SessionMng

open StepSystem Authmsg

def SessionData.port (data : SessionData) : Channel → Int
  | .TCP => data.nngPort
  | .UDP => data.udpPort

namespace AnimacharacterSessionClient

-- What no call of the client changes.
structure Same (client after : AnimacharacterSessionClient) : Prop where
  ip : after.ip = client.ip
  localUdpPort : after.localUdpPort = client.localUdpPort
  initialized : ∀ channel, (client.peer channel).peer.isInitialized = true → (after.peer channel).peer.isInitialized = true

-- How a call of initiate_session ends, by the session data that it has got.
inductive Attempted (client : AnimacharacterSessionClient) (data : SessionData) :
    AnimacharacterSessionClient × Except InitiateRaised Bool → Prop
  | refused (failed : data.success = false) : Attempted client data ({ client with sessionData := data }, .ok false)
  | raised (after : AnimacharacterSessionClient) (exception : InitiateRaised) (success : data.success = true)
      (same : client.Same after)
      (keyed : ∀ channel, (after.peer channel).peer.proto =
        { (client.peer channel).peer.proto with psk := normalizePsk data.token }) :
      Attempted client data (after, .error exception)
  | connected (after : AnimacharacterSessionClient) (success : data.success = true) (same : client.Same after)
      (fresh : ∀ channel, (client.peer channel).peer.isInitialized = false)
      (peers : ∀ channel, after.peer channel =
        ⟨⟨{ (client.peer channel).peer.proto with psk := normalizePsk data.token }, true⟩,
          some (client.ip, data.port channel)⟩) :
      Attempted client data (after, .ok true)

variable {Result : Type} (client : AnimacharacterSessionClient)

@[simp] theorem set_peer_same (channel : Channel) (peer : DialledPeer) :
    (client.setPeer channel peer).peer channel = peer := by
  cases channel <;> rfl

theorem set_peer_other (channel other : Channel) (peer : DialledPeer) (distinct : other ≠ channel) :
    (client.setPeer channel peer).peer other = client.peer other := by
  cases channel <;> cases other <;> first | rfl | exact absurd rfl distinct

@[simp] theorem set_peer_ip (channel : Channel) (peer : DialledPeer) : (client.setPeer channel peer).ip = client.ip := by
  cases channel <;> rfl

@[simp] theorem set_peer_port (channel : Channel) (peer : DialledPeer) :
    (client.setPeer channel peer).localUdpPort = client.localUdpPort := by
  cases channel <;> rfl

theorem set_proto_peer (channel other : Channel) (proto : SecureWireProtocol) :
    (client.setProto channel proto).peer other =
      if other = channel then { client.peer channel with peer := { (client.peer channel).peer with proto } }
      else client.peer other := by
  cases channel <;> cases other <;> rfl

theorem set_proto_same (channel : Channel) (proto : SecureWireProtocol) : client.Same (client.setProto channel proto) := by
  refine ⟨set_peer_ip client channel _, set_peer_port client channel _, ?_⟩
  intro other initialized
  rw [set_proto_peer]
  split
  · rename_i here
    rw [here] at initialized
    exact initialized
  · exact initialized

-- The client once both peers have the key of the session.
def keyed (psk : String) : AnimacharacterSessionClient :=
  let first := client.setProto .TCP { client.peertcp.peer.proto with psk := normalizePsk psk }
  first.setProto .UDP { first.peerudp.peer.proto with psk := normalizePsk psk }

theorem keyed_peer (psk : String) (channel : Channel) : (client.keyed psk).peer channel =
    { client.peer channel with
      peer := { (client.peer channel).peer with
        proto := { (client.peer channel).peer.proto with psk := normalizePsk psk } } } := by
  cases channel <;> rfl

theorem get_run : (get : Initiate AnimacharacterSessionClient) client = .ok client client := rfl

theorem modify_run (effect : AnimacharacterSessionClient → AnimacharacterSessionClient) :
    (modify effect : Initiate PUnit) client = .ok ⟨⟩ (effect client) := rfl

theorem dial_then (channel : Channel) (dials : Channel → Bool) (host : String) (port : Int)
    (next : Unit → Initiate Result) :
    (dial channel dials host port >>= next) client =
      if (client.peer channel).peer.isInitialized then .error (.IsAlreadyInitialized (alreadyInitialized channel)) client
      else if dials channel then
        next () (client.setPeer channel ⟨{ (client.peer channel).peer with isInitialized := true }, some (host, port)⟩)
      else .error (.dial channel)
        (if channel = .UDP then client.setPeer channel ⟨(client.peer channel).peer, some (host, port)⟩ else client) := by
  cases channel <;> cases initialized : (client.peer _).peer.isInitialized <;> cases dialled : dials _ <;>
    simp only [dial, initialized, dialled, bind, EStateM.bind, get_run] <;> rfl

-- The dials of a call that has got a session.
def dialBoth (dials : Channel → Bool) (data : SessionData) : Initiate Bool :=
  get >>= fun tcp => dial .TCP dials tcp.ip data.nngPort >>= fun _ =>
    get >>= fun udp => dial .UDP dials udp.ip data.udpPort >>= fun _ => startHeartbeat >>= fun _ => pure true

theorem initiate_session_then (response : Option JsonBody) (dials : Channel → Bool) :
    initiateSession response dials client =
      if (sendSessionRequest response).success = true then
        dialBoth dials (sendSessionRequest response)
          ({ client with sessionData := sendSessionRequest response }.keyed (sendSessionRequest response).token)
      else .ok false { client with sessionData := sendSessionRequest response } := by
  cases success : (sendSessionRequest response).success <;>
    simp only [initiateSession, dialBoth, success, bind, EStateM.bind, modify_run] <;> rfl

theorem same_trans (client middle after : AnimacharacterSessionClient) (first : client.Same middle)
    (second : middle.Same after) : client.Same after :=
  ⟨second.ip.trans first.ip, second.localUdpPort.trans first.localUdpPort,
    fun channel initialized => second.initialized channel (first.initialized channel initialized)⟩

theorem set_dialled_same (channel : Channel) (dialled : DialledPeer)
    (kept : (client.peer channel).peer.isInitialized = true → dialled.peer.isInitialized = true) :
    client.Same (client.setPeer channel dialled) := by
  refine ⟨set_peer_ip client channel dialled, set_peer_port client channel dialled, ?_⟩
  intro other initialized
  by_cases here : other = channel
  · rw [here] at initialized ⊢
    rw [set_peer_same]
    exact kept initialized
  · rw [set_peer_other client channel other dialled here]
    exact initialized

theorem set_dialled_proto (channel other : Channel) (dialled : DialledPeer)
    (kept : dialled.peer.proto = (client.peer channel).peer.proto) :
    ((client.setPeer channel dialled).peer other).peer.proto = (client.peer other).peer.proto := by
  by_cases here : other = channel
  · rw [here, set_peer_same]
    exact kept
  · rw [set_peer_other client channel other dialled here]

-- A dial that raises leaves the protocol objects as they were.
def Raises (result : EStateM.Result InitiateRaised AnimacharacterSessionClient Result) : Prop :=
  ∃ after exception, result = .error exception after ∧ client.Same after ∧
    ∀ channel, (after.peer channel).peer.proto = (client.peer channel).peer.proto

theorem same_refl : client.Same client := ⟨rfl, rfl, fun _ initialized => initialized⟩

theorem dial_cases (channel : Channel) (dials : Channel → Bool) (host : String) (port : Int)
    (next : Unit → Initiate Result) :
    client.Raises ((dial channel dials host port >>= next) client) ∨
      (client.peer channel).peer.isInitialized = false ∧
        (dial channel dials host port >>= next) client =
          next () (client.setPeer channel ⟨⟨(client.peer channel).peer.proto, true⟩, some (host, port)⟩) := by
  rw [dial_then]
  cases initialized : (client.peer channel).peer.isInitialized with
  | true => exact .inl ⟨client, _, rfl, client.same_refl, fun _ => rfl⟩
  | false =>
      cases dialled : dials channel with
      | true => exact .inr ⟨rfl, rfl⟩
      | false =>
          refine .inl ⟨_, _, rfl, ?_, ?_⟩
          · split
            · exact set_dialled_same client channel _ id
            · exact client.same_refl
          · intro other
            split
            · exact set_dialled_proto client channel other _ rfl
            · rfl

-- What the dials come to: neither has given a peer another protocol object.
theorem dial_both_cases (dials : Channel → Bool) (data : SessionData) :
    client.Raises (dialBoth dials data client) ∨
    (∀ channel, (client.peer channel).peer.isInitialized = false) ∧
      ∃ after, dialBoth dials data client = .ok true after ∧ client.Same after ∧
        ∀ channel, after.peer channel =
          ⟨⟨(client.peer channel).peer.proto, true⟩, some (client.ip, data.port channel)⟩ := by
  rcases dial_cases client .TCP dials client.ip data.nngPort _ with raised | ⟨tcpFresh, tcpDialled⟩
  · exact .inl raised
  · generalize tcpSet : client.setPeer .TCP ⟨⟨(client.peer .TCP).peer.proto, true⟩, some (client.ip, data.nngPort)⟩ = tcp
      at tcpDialled
    have tcpSame : client.Same tcp := tcpSet ▸ set_dialled_same client .TCP _ fun _ => rfl
    have tcpPeer : tcp.peer .TCP = ⟨⟨(client.peer .TCP).peer.proto, true⟩, some (client.ip, data.nngPort)⟩ := by
      rw [← tcpSet, set_peer_same]
    have tcpOther : tcp.peer .UDP = client.peer .UDP := by
      rw [← tcpSet, set_peer_other client .TCP .UDP _ (by decide)]
    have tcpProto (channel : Channel) : (tcp.peer channel).peer.proto = (client.peer channel).peer.proto :=
      tcpSet ▸ set_dialled_proto client .TCP channel _ rfl
    rcases dial_cases tcp .UDP dials tcp.ip data.udpPort _ with raised | ⟨udpFresh, udpDialled⟩
    · obtain ⟨after, exception, ended, same, protos⟩ := raised
      exact .inl ⟨after, exception, tcpDialled.trans ended, same_trans client tcp after tcpSame same,
        fun channel => (protos channel).trans (tcpProto channel)⟩
    · generalize udpSet : tcp.setPeer .UDP ⟨⟨(tcp.peer .UDP).peer.proto, true⟩, some (tcp.ip, data.udpPort)⟩ = udp
        at udpDialled
      have udpSame : client.Same udp :=
        same_trans client tcp udp tcpSame (udpSet ▸ set_dialled_same tcp .UDP _ fun _ => rfl)
      have udpProto (channel : Channel) : (udp.peer channel).peer.proto = (client.peer channel).peer.proto :=
        (udpSet ▸ set_dialled_proto tcp .UDP channel _ rfl : _ = (tcp.peer channel).peer.proto).trans (tcpProto channel)
      have ended := tcpDialled.trans udpDialled
      cases started : udp.heartbeatThread with
      | true =>
          refine .inl ⟨udp, .RuntimeError "threads can only be started once", ended.trans ?_, udpSame, udpProto⟩
          simp only [startHeartbeat, started, bind, EStateM.bind, get_run]
          rfl
      | false =>
          refine .inr ⟨?_, { udp with heartbeatThread := true }, ended.trans ?_, ⟨udpSame.ip, udpSame.localUdpPort, ?_⟩, ?_⟩
          · intro channel
            cases channel with
            | TCP => exact tcpFresh
            | UDP => exact tcpOther ▸ udpFresh
          · simp only [startHeartbeat, started, bind, EStateM.bind, get_run]
            rfl
          · intro channel initialized
            have before := udpSame.initialized channel initialized
            cases channel <;> exact before
          · intro channel
            cases channel with
            | TCP =>
                change udp.peer .TCP = _
                rw [← udpSet, set_peer_other tcp .UDP .TCP _ (by decide), tcpPeer]
                rfl
            | UDP =>
                change udp.peer .UDP = _
                rw [← udpSet, set_peer_same, tcpOther, tcpSame.ip]
                rfl

theorem initiate_attempted (response : Option JsonBody) (dials : Channel → Bool) :
    Attempted client (sendSessionRequest response) (client.initiate response dials) := by
  rw [initiate, initiate_session_then]
  generalize sendSessionRequest response = data
  cases success : data.success with
  | false => exact .refused success
  | true =>
      generalize keyedAs : { client with sessionData := data }.keyed data.token = keyed
      have peers (channel : Channel) : keyed.peer channel =
          ⟨⟨{ (client.peer channel).peer.proto with psk := normalizePsk data.token },
            (client.peer channel).peer.isInitialized⟩, (client.peer channel).remote⟩ := by
        rw [← keyedAs, keyed_peer]
        cases channel <;> rfl
      have same : client.Same keyed := by
        refine ⟨by rw [← keyedAs]; rfl, by rw [← keyedAs]; rfl, ?_⟩
        intro channel initialized
        rw [peers]
        exact initialized
      rw [if_pos rfl]
      rcases dial_both_cases keyed dials data with raised | ⟨fresh, after, ended, dialled, connected⟩
      · obtain ⟨after, exception, ended, raisedSame, protos⟩ := raised
        rw [ended]
        refine .raised after exception success (same_trans client keyed after same raisedSame) ?_
        intro channel
        rw [protos, peers]
      · rw [ended]
        refine .connected after success (same_trans client keyed after same dialled) ?_ ?_
        · intro channel
          have notYet := fresh channel
          rw [peers] at notYet
          exact notYet
        · intro channel
          rw [connected, peers, same.ip]

theorem attempted_refused (data : SessionData)
    (attempt : AnimacharacterSessionClient × Except InitiateRaised Bool) (attempted : client.Attempted data attempt) :
    attempt.2 = .ok false ↔ data.success = false := by
  cases attempted with
  | refused failed => exact ⟨fun _ => failed, fun _ => rfl⟩
  | raised after exception success same keyed =>
      exact ⟨(fun refused => by cases refused), fun failed => by rw [success] at failed; cases failed⟩
  | connected after success same fresh peers =>
      exact ⟨(fun refused => by cases refused), fun failed => by rw [success] at failed; cases failed⟩

end AnimacharacterSessionClient

-- What the packets of a client that is connected leave as it is.
structure AnimacharacterSessionClient.Traffic (client after : AnimacharacterSessionClient) : Prop where
  same : client.Same after
  psk : ∀ channel, (after.peer channel).peer.proto.psk = (client.peer channel).peer.proto.psk
  fresh : ∀ channel, (after.peer channel).peer.isInitialized = false → after.peer channel = client.peer channel

theorem set_proto_traffic (client : AnimacharacterSessionClient) (channel : Channel) (proto : SecureWireProtocol)
    (initialized : (client.peer channel).peer.isInitialized = true)
    (psk : proto.psk = (client.peer channel).peer.proto.psk) : client.Traffic (client.setProto channel proto) := by
  refine ⟨client.set_proto_same channel proto, ?_, ?_⟩
  · intro other
    rw [client.set_proto_peer]
    split
    · rename_i here
      rw [here]
      exact psk
    · rfl
  · intro other fresh
    rw [client.set_proto_peer] at fresh ⊢
    split
    · rename_i here
      rw [if_pos here] at fresh
      rw [initialized] at fresh
      cases fresh
    · rfl

end Animacharacter.SessionMng
