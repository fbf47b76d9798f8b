import Animacharacter.SerialDevice.Device
import Animacharacter.SerialDevice.FastTable

set_option autoImplicit false

namespace Animacharacter.SerialDevice

def MAX_PACK_ID : Nat := 255

def PACKID_IDENT_RQST : Nat := 208
def PACKID_PING : Nat := 211
def PACKID_DEV_INFO_RQST : Nat := 212
def PACKID_DEBUG_TRIGGER_IDENT_RQST : Nat := 230
def PACKID_DEBUG_TRIGGER_LARGE_TX : Nat := 231
def PACKID_DEBUG_FREERAM : Nat := 232

variable {User : Type}

-- The handlers of the library and those of its user.
inductive PacketHandler (User : Type) where
  | handleAuthRqst
  | handlePing
  | handleInfoRqst
  | handleLargeTxBegin
  | handleLargeTxChunk
  | handleLargeTxEnd
  | debugTriggerIdent
  | debugTriggerLargeTx
  | debugOnFreeRamAmount
  | user (handler : User)
deriving DecidableEq, Repr

-- What poll reads of a device. A handler is a function pointer, which may be null.
structure HandlerTables (User : Type) where
  handlersTable : FastTable (Option (PacketHandler User))
  baseHandler : Option User

inductive Polled (User : Type) where
  | called (handler : PacketHandler User)
  | calledNull
  | fellBack (handler : User) (packetId : UInt8)
  | returned (amount : UInt8)
deriving DecidableEq, Repr

-- The calls of the user that change what poll does.
inductive Setup (User : Type) where
  | on (packetId : UInt8) (handler : Option User)
  | onAny (handler : Option User)

namespace HandlerTables

def on (device : HandlerTables User) (packetId : UInt8) (handler : Option (PacketHandler User)) : HandlerTables User :=
  if packetId.toNat ≤ MAX_PACK_ID then
    { device with handlersTable := device.handlersTable.put packetId handler }
  else device

def onAny (device : HandlerTables User) (handler : Option User) : HandlerTables User :=
  { device with baseHandler := handler }

def internalCallbacks : List (Nat × PacketHandler User) :=
  [(PACKID_IDENT_RQST, .handleAuthRqst),
    (PACKID_PING, .handlePing),
    (PACKID_DEV_INFO_RQST, .handleInfoRqst),
    (PACKID_LARGETX_BEGIN, .handleLargeTxBegin),
    (PACKID_LARGETX_CHUNK, .handleLargeTxChunk),
    (PACKID_LARGETX_END, .handleLargeTxEnd)]

-- Left out where IGNORE_SERIAL_DEVICE_DEBUG_CODE is defined.
def debugCallbacks : List (Nat × PacketHandler User) :=
  [(PACKID_DEBUG_TRIGGER_IDENT_RQST, .debugTriggerIdent),
    (PACKID_DEBUG_TRIGGER_LARGE_TX, .debugTriggerLargeTx),
    (PACKID_DEBUG_FREERAM, .debugOnFreeRamAmount)]

def constructorCallbacks (debugCode : Bool) : List (UInt8 × Option (PacketHandler User)) :=
  (internalCallbacks ++ if debugCode then debugCallbacks else []).map
    fun (packetId, handler) => (UInt8.ofNat packetId, some handler)

def init (debugCode : Bool) : HandlerTables User :=
  let callbacks : List (UInt8 × Option (PacketHandler User)) := constructorCallbacks debugCode
  callbacks.foldl (fun device callback => device.on callback.1 callback.2) ⟨FastTable.init, none⟩

def setUp (device : HandlerTables User) : Setup User → HandlerTables User
  | .on packetId handler => device.on packetId (handler.map .user)
  | .onAny handler => device.onAny handler

-- `amount` is what available() returns, and `latestPackId` the id of that packet.
def poll (device : HandlerTables User) (amount latestPackId : UInt8) : Polled User :=
  if amount ≠ 0 then
    match device.handlersTable.get latestPackId with
    | some (some handler) => .called handler
    | some none => .calledNull
    | none =>
        match device.baseHandler with
        | some handler => .fellBack handler latestPackId
        | none => .returned amount
  else .returned 0

-- The registrations of the constructor and of the user, in their order.
def registered (debugCode : Bool) (calls : List (Setup User)) : List (UInt8 × Option (PacketHandler User)) :=
  constructorCallbacks debugCode ++ calls.filterMap fun call =>
    match call with
    | .on packetId handler => some (packetId, handler.map .user)
    | .onAny _ => none

def fallback (calls : List (Setup User)) : Option User :=
  calls.foldl (fun base call =>
    match call with
    | .on _ _ => base
    | .onAny handler => handler) none

-- What poll is to do with a packet: its last handler, else the fallback, else nothing.
def expected (debugCode : Bool) (calls : List (Setup User)) (amount latestPackId : UInt8) : Polled User :=
  match FastTable.lastPut latestPackId (registered debugCode calls), fallback calls with
  | some (some handler), _ => .called handler
  | _, some handler => .fellBack handler latestPackId
  | _, none => .returned amount

structure Dispatches (debugCode : Bool) (calls : List (Setup User)) (amount latestPackId : UInt8) : Prop where
  polled : (calls.foldl setUp (init debugCode)).poll amount latestPackId = expected debugCode calls amount latestPackId
  kept : (calls.foldl setUp (init debugCode)).handlersTable.get latestPackId ≠ none ↔
    ∃ handler, (latestPackId, handler) ∈ registered debugCode calls

theorem on_any_id (device : HandlerTables User) (packetId : UInt8) (handler : Option (PacketHandler User)) :
    device.on packetId handler = { device with handlersTable := device.handlersTable.put packetId handler } := by
  have range := packetId.toNat_lt
  exact if_pos (Nat.le_of_lt_succ range)

theorem on_all (entries : List (UInt8 × Option (PacketHandler User))) (device : HandlerTables User) :
    entries.foldl (fun device callback => device.on callback.1 callback.2) device =
      { device with handlersTable := device.handlersTable.putAll entries } := by
  induction entries generalizing device with
  | nil => rfl
  | cons entry rest ih =>
      rw [List.foldl_cons, ih, on_any_id]
      rfl

theorem set_up_tables (debugCode : Bool) (calls : List (Setup User)) :
    calls.foldl setUp (init debugCode) = ⟨FastTable.init.putAll (registered debugCode calls), fallback calls⟩ := by
  induction calls using List.reverseRecOn with
  | nil => rw [List.foldl_nil, init, on_all, registered, List.filterMap_nil, List.append_nil]; rfl
  | append_singleton calls call ih =>
      rw [List.foldl_append, ih]
      cases call with
      | on packetId handler =>
          simp only [List.foldl_cons, List.foldl_nil, setUp, on_any_id, registered, fallback, List.filterMap_append,
            List.foldl_append, FastTable.putAll, List.filterMap_cons, List.filterMap_nil]
      | onAny handler =>
          simp only [List.foldl_cons, List.foldl_nil, setUp, onAny, registered, fallback, List.filterMap_append,
            List.foldl_append, List.filterMap_cons, List.filterMap_nil, List.append_nil]

section Poll

variable (debugCode : Bool) (calls : List (Setup User)) (amount latestPackId : UInt8)

theorem dispatches_registered (received : amount ≠ 0) (handler : PacketHandler User)
    (last : FastTable.lastPut latestPackId (registered debugCode calls) = some (some handler)) :
    Dispatches debugCode calls amount latestPackId := by
  have answers := FastTable.put_all_answers (registered debugCode calls) latestPackId
  have held := answers.held (some handler) last
  constructor
  · rw [set_up_tables, poll, if_pos received, held, expected, last]
  · rw [set_up_tables, held]
    apply iff_of_true nofun
    by_contra unknown
    rw [(FastTable.last_put_none latestPackId _).mpr (not_exists.mp unknown)] at last
    cases last

theorem dispatches_untouched (received : amount ≠ 0)
    (untouched : ¬ FastTable.Touched (registered debugCode calls) latestPackId) :
    Dispatches debugCode calls amount latestPackId := by
  have answers := FastTable.put_all_answers (registered debugCode calls) latestPackId
  have unknown (handler : Option (PacketHandler User)) : (latestPackId, handler) ∉ registered debugCode calls :=
    fun member => untouched ⟨_, member, rfl⟩
  have absent := (FastTable.last_put_none latestPackId _).mpr unknown
  constructor
  · rw [set_up_tables, poll, if_pos received, answers.empty untouched, expected, absent]
    cases fallback calls <;> rfl
  · rw [set_up_tables, answers.empty untouched]
    exact iff_of_false (not_not.mpr rfl) (not_exists.mpr unknown)

-- A slot of an allocated block that holds no handler holds the null pointer.
theorem null_called (received : amount ≠ 0)
    (unhandled : ∀ handler, FastTable.lastPut latestPackId (registered debugCode calls) ≠ some (some handler))
    (touched : FastTable.Touched (registered debugCode calls) latestPackId) :
    (calls.foldl setUp (init debugCode)).poll amount latestPackId = .calledNull := by
  have answers := FastTable.put_all_answers (registered debugCode calls) latestPackId
  have null : (FastTable.init.putAll (registered debugCode calls)).get latestPackId = some none := by
    cases last : FastTable.lastPut latestPackId (registered debugCode calls) with
    | none => exact answers.beside last touched
    | some value =>
        cases value with
        | none => exact answers.held none last
        | some handler => exact absurd last (unhandled handler)
  rw [set_up_tables, poll, if_pos received, null]

theorem expected_never_null : expected debugCode calls amount latestPackId ≠ .calledNull := by
  unfold expected
  split <;> nofun

theorem poll_dispatches (received : amount ≠ 0) :
    Dispatches debugCode calls amount latestPackId ↔
      (∃ handler, FastTable.lastPut latestPackId (registered debugCode calls) = some (some handler)) ∨
        ¬ FastTable.Touched (registered debugCode calls) latestPackId := by
  constructor
  · intro dispatches
    by_cases touched : FastTable.Touched (registered debugCode calls) latestPackId
    · left
      by_contra unhandled
      have null := null_called debugCode calls amount latestPackId received (not_exists.mp unhandled) touched
      exact expected_never_null debugCode calls amount latestPackId (dispatches.polled.symm.trans null)
    · exact .inr touched
  · intro condition
    rcases condition with ⟨handler, last⟩ | untouched
    · exact dispatches_registered debugCode calls amount latestPackId received handler last
    · exact dispatches_untouched debugCode calls amount latestPackId received untouched

end Poll

-- A user's handler in place of the library's one for PING.
theorem poll_dispatches_ping : Dispatches true [.on 211 (some "ping")] 1 211 :=
  (poll_dispatches true [.on 211 (some "ping")] 1 211 (by decide)).mpr (.inl ⟨.user "ping", by decide⟩)

-- IDENT_RESP has no handler, but it lies in the block of IDENT_RQST.
theorem ident_resp_calls_null :
    ([Setup.onAny (some "any")].foldl setUp (init true)).poll 1 209 = .calledNull ∧
      expected true [.onAny (some "any")] 1 209 = .fellBack "any" 209 ∧
      ¬ Dispatches true [.onAny (some "any")] 1 209 := by
  have null : ([Setup.onAny (some "any")].foldl setUp (init true)).poll 1 209 = .calledNull := by decide +kernel
  refine ⟨null, by decide +kernel, fun dispatches => ?_⟩
  exact expected_never_null true [.onAny (some "any")] 1 209 (dispatches.polled.symm.trans null)

end HandlerTables

end Animacharacter.SerialDevice
