import Animacharacter.SerialDevice.Invariant

set_option autoImplicit false

namespace Animacharacter.SerialDevice

open Bytes StepSystem

-- A packet of the transfer under way that is sent behind its chunks.
theorem genuine_behind (state : State) (frame : Frame) (inv : Inv state) (genuine : Genuine state.calls frame) :
    ∀ other ∈ state.forward ++ [frame], Genuine state.calls other := by
  intro other member
  cases List.mem_append.mp member with
  | inl old => exact inv.genuine other old
  | inr new =>
      rw [List.mem_singleton.mp new]
      exact genuine

theorem transfer_behind (state : State) (call : Call) (offset : Nat) (frame : Frame)
    (sending : Sending state call offset) (transfer : frame.request.transfer = state.transfer) :
    ∀ other ∈ state.forward ++ [frame], other.request.transfer = state.transfer := by
  intro other member
  cases List.mem_append.mp member with
  | inl old =>
      obtain ⟨at_offset, request⟩ := sending.chunks other old
      rw [request]
      rfl
  | inr new =>
      rw [List.mem_singleton.mp new]
      exact transfer

theorem fifo_behind (state : State) (call : Call) (offset : Nat) (frame : Frame) (inv : Inv state)
    (sending : Sending state call offset) (transfer : frame.request.transfer = state.transfer)
    (later : frame.request.opens = false) : (state.forward ++ [frame]).Pairwise Follows := by
  refine List.pairwise_append.mpr ⟨inv.fifo, List.pairwise_singleton _ _, ?_⟩
  intro first inFirst second inSecond
  obtain ⟨at_offset, request⟩ := sending.chunks first inFirst
  rw [List.mem_singleton.mp inSecond, Follows, request, transfer, later]
  exact ⟨Nat.le_refl _, fun opens => by cases opens⟩

theorem inv_send_chunk (state : State) (call : Call) (offset attempt : Nat) (inv : Inv state)
    (sending : Sending state call offset) (inside : offset < call.size) : Inv (sendChunk state call offset attempt) := by
  have forward (frame : Frame) (member : frame ∈ (sendChunk state call offset attempt).forward) :
      ∃ at_offset, frame.request = .chunk state.transfer at_offset := by
    rcases List.mem_append.mp member with old | new
    · exact sending.chunks frame old
    · rw [List.mem_singleton.mp new]
      exact ⟨offset, rfl⟩
  refine
    { genuine := ?_
      fifo := ?_
      oneTransfer := ?_
      finished := ?_
      answered := inv.answered
      opening := fun _ waiting => by cases waiting
      accepted := fun _ waiting => by cases waiting
      sending := ?_
      known := inv.known
      integrity := inv.integrity }
  · exact genuine_behind state _ inv ⟨call, sending.current, ⟨inside, sending.fits⟩, rfl⟩
  · exact fifo_behind state call offset _ inv sending rfl rfl
  · intro first inFirst second inSecond _ _
    obtain ⟨_, firstRequest⟩ := forward first inFirst
    obtain ⟨_, secondRequest⟩ := forward second inSecond
    rw [firstRequest, secondRequest]
    rfl
  · intro frame member transfer request
    obtain ⟨_, chunk⟩ := forward frame member
    rw [chunk] at request
    cases request
  · intro at_offset at_attempt wait waiting
    cases waiting
    exact ⟨call, inside, sending.current, sending.fits, sending.bound, sending.room, sending.before, forward, sending.acks⟩

theorem inv_send_end (state : State) (call : Call) (result : Nat) (inv : Inv state)
    (sending : Sending state call call.size) : Inv (finishCall (streamEnd state call) result) := by
  unfold streamEnd
  split
  · exact inv_idle state inv _ _
  · have data := transfer_behind state call call.size ⟨endPacket call.packId, .finish state.transfer⟩ sending rfl
    refine
      { genuine := ?_
        fifo := ?_
        oneTransfer := ?_
        finished := ?_
        answered := inv.answered
        opening := fun _ waiting => by cases waiting
        accepted := fun _ waiting => by cases waiting
        sending := fun _ _ _ waiting => by cases waiting
        known := inv.known
        integrity := inv.integrity }
    · exact genuine_behind state _ inv ⟨call, sending.current, rfl⟩
    · exact fifo_behind state call call.size _ inv sending rfl rfl
    · intro first inFirst second inSecond _ _
      rw [data first inFirst, data second inSecond]
    · intro frame member transfer request other found
      have same : transfer = state.transfer := by
        rw [← data frame member, request]
        rfl
      have calls : state.calls[transfer]? = some other := found
      rw [same, sending.current] at calls
      cases calls
      exact sending.before

theorem inv_send_rest (state : State) (call : Call) (offset : Nat) (inv : Inv state)
    (sending : Sending state call offset) : Inv (sendRest state call offset) := by
  unfold sendRest
  split
  · rename_i inside
    unfold streamChunk
    split
    · exact inv_idle state inv _ _
    · split
      · exact inv_idle state inv _ _
      · exact inv_send_chunk state call offset 0 inv sending inside
  · have finish : offset = call.size := by
      have := sending.bound
      omega
    subst finish
    exact inv_send_end state call _ inv sending

theorem inv_after_begin (state : State) (call : Call) (wait : Wait) (waited : Waited) (inv : Inv state)
    (waiting : state.pc = .beginWait wait) (current : state.calls[state.transfer]? = some call)
    (ready : ∀ packet, waited = .matched packet → packet.payload.headD 0 ≠ 0 →
      state.forward = [] ∧ call.size ≤ state.largeRxCtx.bytes.length ∧ call.fitsTxBuff) :
    Inv (afterBegin state call waited) := by
  cases waited with
  | timedOut => exact inv_idle state inv _ _
  | again next =>
      exact { inv with
        opening := fun _ _ => inv.opening wait waiting
        accepted := fun _ _ => inv.accepted wait waiting
        sending := fun _ _ _ sending => by cases sending }
  | matched packet =>
      unfold afterBegin
      dsimp only
      split
      · rename_i transfOk
        obtain ⟨empty, room, fits⟩ := ready packet rfl (by simpa using transfOk)
        apply inv_send_rest _ call 0 (inv_unread state inv state.clock _)
        refine ⟨current, fits, Nat.zero_le _, room, fun index _ upper => absurd upper (by omega), ?_, ?_⟩
        · intro frame member
          change frame ∈ state.forward at member
          rw [empty] at member
          cases member
        · intro frame member at_offset request
          have opens := inv.opening wait waiting frame (.inr member) (by rw [request]; rfl)
          rw [request] at opens
          cases opens
      · exact inv_idle state inv _ _

theorem inv_after_ack (state : State) (call : Call) (offset attempt : Nat) (waited : Waited) (inv : Inv state)
    (sending : Sending state call offset) (inside : offset < call.size)
    (ready : ∀ packet, waited = .matched packet →
      Agree state.largeRxCtx.bytes call.buffer offset (call.actualChunkSize offset)) :
    Inv (afterAck state call offset attempt waited) := by
  cases waited with
  | timedOut =>
      unfold afterAck
      dsimp only
      split
      · exact inv_send_chunk state call offset _ inv sending inside
      · exact inv_idle state inv _ _
  | again next =>
      exact { inv with
        opening := fun _ opening => by cases opening
        accepted := fun _ opening => by cases opening
        sending := fun _ _ _ next => by
          cases next
          exact ⟨call, inside, { sending with }⟩ }
  | matched packet =>
      apply inv_send_rest state call _ inv
      exact ⟨sending.current, sending.fits, chunk_inside call offset sending.bound, sending.room,
        agree_join _ _ offset _ sending.before (ready packet rfl), sending.chunks, sending.acks⟩

theorem inv_resume (state : State) (call : Call) (waited : Waited) (inv : Inv state)
    (current : state.calls[state.transfer]? = some call)
    (begun : ∀ wait packet, state.pc = .beginWait wait → waited = .matched packet →
      packet.payload.headD 0 ≠ 0 →
        state.forward = [] ∧ call.size ≤ state.largeRxCtx.bytes.length ∧ call.fitsTxBuff)
    (acked : ∀ offset attempt wait packet, state.pc = .ackWait offset attempt wait → waited = .matched packet →
      Agree state.largeRxCtx.bytes call.buffer offset (call.actualChunkSize offset)) :
    Inv (resume state call waited) := by
  unfold resume
  split
  · exact inv
  · rename_i wait waiting
    exact inv_after_begin state call wait waited inv waiting current (fun packet => begun wait packet waiting)
  · rename_i offset attempt wait waiting
    obtain ⟨made, inside, sending⟩ := inv.sending offset attempt wait waiting
    have same : made = call := Option.some.inj (sending.current.symm.trans current)
    rw [same] at inside sending
    exact inv_after_ack state call offset attempt waited inv sending inside
      (fun packet => acked offset attempt wait packet waiting)

theorem matched_arrived (packId now : Nat) (wait : Wait) (arrived packet : Packet)
    (matched : waitPacketOfId packId now wait (some arrived) = .matched packet) :
    arrived.id = packId ∧ arrived = packet := by
  unfold waitPacketOfId at matched
  dsimp only at matched
  split at matched
  · cases matched
  · split at matched
    · rename_i same
      cases matched
      exact ⟨same, rfl⟩
    · cases matched

theorem inv_sender_poll (state next : State) (arrived : Bool) (inv : Inv state)
    (fresh : arrived = true → answersPending state ∧ acceptedFits state) (moved : senderPoll state arrived = some next) : Inv next := by
  unfold senderPoll at moved
  split at moved
  · rename_i packId wait call expected current
    split at moved
    · cases moved
      exact inv_resume state call _ inv current (fun _ _ _ matched => by cases matched)
        (fun _ _ _ _ _ matched => by cases matched)
    · split at moved
      · rename_i polls
        split at moved
        · cases moved
        · rename_i frame rest answers
          cases moved
          have member : frame ∈ state.reverse := by simp [answers]
          have pending (packet : Packet)
              (matched : waitPacketOfId packId state.now wait (some frame.packet) = .matched packet)
              (goes : goesOn packId frame.packet) : pendingRequest state = some frame.request ∧ frame.packet = packet :=
            ⟨(fresh polls).1 frame (by simp [answers]) (packId, wait) expected goes,
              (matched_arrived packId state.now wait frame.packet packet matched).2⟩
          have polled : Inv { state with reverse := rest } :=
            inv_shrink state state.forward rest inv (List.Sublist.refl _) (by simp [answers])
          apply inv_resume { state with reverse := rest } call _ polled current
          · intro begun packet waiting matched transfOk
            obtain ⟨sameId, taken⟩ := matched_arrived packId state.now wait frame.packet packet matched
            have goes : goesOn packId frame.packet := ⟨sameId, fun _ => taken ▸ transfOk⟩
            obtain ⟨request, same⟩ := pending packet matched goes
            have waits : state.pc = .beginWait begun := waiting
            simp only [pendingRequest, waits, Option.some.injEq] at request
            obtain ⟨empty, room⟩ := inv.accepted begun waits frame member request.symm (same ▸ transfOk)
            have begins : packId = PACKID_LARGETX_BEGIN_RESP := by
              simp only [awaited, waits, Option.some.injEq, Prod.mk.injEq] at expected
              exact expected.1.symm
            have fits := (fresh polls).2 frame (by simp [answers]) (packId, wait) expected begins goes call current
            exact ⟨empty, room call current, fits⟩
          · intro offset attempt sent packet waiting matched
            have waits : state.pc = .ackWait offset attempt sent := waiting
            have acks : packId = PACKID_LARGETX_ACK := by
              simp only [awaited, waits, Option.some.injEq, Prod.mk.injEq] at expected
              exact expected.1.symm
            have sameId := (matched_arrived packId state.now wait frame.packet packet matched).1
            obtain ⟨request, _⟩ := pending packet matched
              ⟨sameId, fun begins => absurd (acks.symm.trans begins) (by decide)⟩
            simp only [pendingRequest, waits, Option.some.injEq] at request
            obtain ⟨made, _, sending⟩ := inv.sending offset attempt sent waits
            have one : made = call := Option.some.inj (sending.current.symm.trans current)
            exact one ▸ sending.acks frame member offset request.symm
      · cases moved
        exact inv_resume state call _ inv current (fun _ _ _ matched => by cases matched)
          (fun _ _ _ _ _ matched => by cases matched)
  · cases moved

theorem inv_send_large (state : State) (call : Call) (inv : Inv state) :
    Inv (streamBegin { state with calls := state.calls ++ [call] } call) := by
  have old (transfer : Nat) (known : transfer < state.calls.length) :
      (state.calls ++ [call])[transfer]? = state.calls[transfer]? := List.getElem?_append_left known
  have fresh : (state.calls ++ [call]).length - 1 = state.calls.length := by simp
  have knownFrame (frame : Frame) (member : frame ∈ state.forward) : frame.request.transfer < state.calls.length := by
    obtain ⟨_, found, _⟩ := inv.genuine frame member
    exact (List.getElem?_eq_some_iff.mp found).1
  have lookup (delivery : Delivery) (member : delivery ∈ state.delivered) :=
    old delivery.transfer (inv.known delivery member)
  refine
    { genuine := ?_
      fifo := ?_
      oneTransfer := ?_
      finished := ?_
      answered := ?_
      opening := ?_
      accepted := ?_
      sending := fun _ _ _ waiting => by cases waiting
      known := ?_
      integrity := ?_ }
  · intro frame member
    rcases List.mem_append.mp member with earlier | new
    · obtain ⟨made, found, built⟩ := inv.genuine frame earlier
      exact ⟨made, (old _ (knownFrame frame earlier)).trans found, built⟩
    · rw [List.mem_singleton.mp new]
      refine ⟨call, ?_, rfl⟩
      change (state.calls ++ [call])[(state.calls ++ [call]).length - 1]? = some call
      rw [fresh, List.getElem?_concat_length]
  · refine List.pairwise_append.mpr ⟨inv.fifo, List.pairwise_singleton _ _, ?_⟩
    intro first inFirst second inSecond
    have earlier := knownFrame first inFirst
    rw [List.mem_singleton.mp inSecond]
    change _ ≤ (state.calls ++ [call]).length - 1 ∧ (_ → _ < (state.calls ++ [call]).length - 1)
    rw [fresh]
    exact ⟨Nat.le_of_lt earlier, fun _ => earlier⟩
  · intro first inFirst second inSecond firstData secondData
    rcases List.mem_append.mp inFirst with firstOld | firstNew
    · rcases List.mem_append.mp inSecond with secondOld | secondNew
      · exact inv.oneTransfer first firstOld second secondOld firstData secondData
      · rw [List.mem_singleton.mp secondNew] at secondData
        cases secondData
    · rw [List.mem_singleton.mp firstNew] at firstData
      cases firstData
  · intro frame member transfer request made found
    rcases List.mem_append.mp member with earlier | new
    · have known := knownFrame frame earlier
      rw [request] at known
      exact inv.finished frame earlier transfer request made ((old transfer known).symm.trans found)
    · rw [List.mem_singleton.mp new] at request
      cases request
  · intro frame member
    have earlier := inv.answered frame member
    change _ < (state.calls ++ [call]).length
    rw [List.length_append]
    omega
  · intro _ _ frame member same
    change frame.request.transfer = (state.calls ++ [call]).length - 1 at same
    rw [fresh] at same
    rcases member with sent | answer
    · rcases List.mem_append.mp sent with earlier | new
      · exact absurd same (Nat.ne_of_lt (knownFrame frame earlier))
      · rw [List.mem_singleton.mp new]
        rfl
    · exact absurd same (Nat.ne_of_lt (inv.answered frame answer))
  · intro _ _ frame member request
    have earlier := inv.answered frame member
    rw [request] at earlier
    change (state.calls ++ [call]).length - 1 < _ at earlier
    omega
  · intro delivery member
    have earlier := inv.known delivery member
    change _ < (state.calls ++ [call]).length
    rw [List.length_append]
    omega
  · intro delivery member made found
    exact inv.integrity delivery member made ((lookup delivery member).symm.trans found)

-- The transfers whose bytes the receiver's buffer must go on holding.
def Held (state : State) (transfer : Nat) : Prop :=
  (∃ frame ∈ state.forward, frame.request = .finish transfer) ∨
    (transfer = state.transfer ∧ ∃ offset attempt wait, state.pc = .ackWait offset attempt wait)

structure Harmless (state : State) (request : Request) (handled : Handled) : Prop where
  known : request.transfer < state.calls.length
  length : handled.ctx.bytes.length = state.largeRxCtx.bytes.length
  kept : ∀ transfer, Held state transfer → ∀ call, state.calls[transfer]? = some call →
    call.size ≤ state.largeRxCtx.bytes.length → ∀ start count,
      Agree state.largeRxCtx.bytes call.buffer start count → Agree handled.ctx.bytes call.buffer start count
  opened : ∀ wait, state.pc = .beginWait wait → handled.reply ≠ none → request.transfer = state.transfer →
    request.opens = true
  accepted : ∀ wait, state.pc = .beginWait wait → request = .begin state.transfer →
    ∀ packet, handled.reply = some packet → packet.payload.headD 0 ≠ 0 →
      state.forward = [] ∧ ∀ call ∈ state.calls[state.transfer]?, call.size ≤ state.largeRxCtx.bytes.length
  acked : ∀ offset, request = .chunk state.transfer offset → handled.reply ≠ none →
    ∀ call ∈ state.calls[state.transfer]?, call.size ≤ state.largeRxCtx.bytes.length →
      Agree handled.ctx.bytes call.buffer offset (call.actualChunkSize offset)
  received : ∀ buffer size packId, handled.received = some (buffer, size, packId) →
    ∀ call ∈ state.calls[request.transfer]?, buffer.take call.size = call.buffer

theorem deliver_reply (state : State) (request : Request) (handled : Handled) (frame : Frame)
    (member : frame ∈ (deliver state request handled).reverse) :
    frame ∈ state.reverse ∨ (∃ packet, handled.reply = some packet ∧ frame = ⟨packet, request⟩) := by
  rcases List.mem_append.mp member with old | new
  · exact .inl old
  · simp only [Option.mem_toList, Option.map_eq_some_iff] at new
    obtain ⟨packet, replied, same⟩ := new
    exact .inr ⟨packet, replied, same.symm⟩

theorem inv_deliver (state : State) (request : Request) (handled : Handled) (inv : Inv state)
    (harmless : Harmless state request handled) : Inv (deliver state request handled) := by
  have delivery (made : Delivery) (member : made ∈ (deliver state request handled).delivered) :
      made ∈ state.delivered ∨ (∃ buffer size packId, handled.received = some (buffer, size, packId) ∧
        made = ⟨buffer, size, packId, request.transfer⟩) := by
    rcases List.mem_append.mp member with old | new
    · exact .inl old
    · simp only [Option.mem_toList, Option.map_eq_some_iff, Prod.exists] at new
      obtain ⟨buffer, size, packId, received, same⟩ := new
      exact .inr ⟨buffer, size, packId, received, same.symm⟩
  refine
    { genuine := inv.genuine
      fifo := inv.fifo
      oneTransfer := inv.oneTransfer
      finished := ?_
      answered := ?_
      opening := ?_
      accepted := ?_
      sending := ?_
      known := ?_
      integrity := ?_ }
  · intro frame member transfer finish call found
    have stored := inv.finished frame member transfer finish call found
    exact harmless.kept transfer (.inl ⟨frame, member, finish⟩) call found (stored_room state call stored) 0 _ stored
  · intro frame member
    rcases deliver_reply state request handled frame member with old | ⟨_, _, rfl⟩
    · exact inv.answered frame old
    · exact harmless.known
  · intro wait waiting frame member same
    rcases member with sent | answer
    · exact inv.opening wait waiting frame (.inl sent) same
    · rcases deliver_reply state request handled frame answer with old | ⟨packet, replied, rfl⟩
      · exact inv.opening wait waiting frame (.inr old) same
      · exact harmless.opened wait waiting (by simp [replied]) same
  · intro wait waiting frame member begins transfOk
    change state.forward = [] ∧ ∀ call ∈ state.calls[state.transfer]?, call.size ≤ handled.ctx.bytes.length
    rw [harmless.length]
    rcases deliver_reply state request handled frame member with old | ⟨packet, replied, rfl⟩
    · exact inv.accepted wait waiting frame old begins transfOk
    · exact harmless.accepted wait waiting begins packet replied transfOk
  · intro offset attempt wait waiting
    obtain ⟨call, inside, sending⟩ := inv.sending offset attempt wait waiting
    have kept := harmless.kept state.transfer (.inr ⟨rfl, offset, attempt, wait, waiting⟩) call sending.current sending.room
    refine ⟨call, inside, sending.current, sending.fits, sending.bound, ?_, kept _ _ sending.before, sending.chunks, ?_⟩
    · exact harmless.length ▸ sending.room
    · intro frame member at_offset chunk
      rcases deliver_reply state request handled frame member with old | ⟨packet, replied, rfl⟩
      · exact kept _ _ (sending.acks frame old at_offset chunk)
      · exact harmless.acked at_offset chunk (by simp [replied]) call sending.current sending.room
  · intro made member
    rcases delivery made member with old | ⟨_, _, _, _, rfl⟩
    · exact inv.known made old
    · exact harmless.known
  · intro made member call found
    rcases delivery made member with old | ⟨buffer, size, packId, received, rfl⟩
    · exact inv.integrity made old call found
    · exact harmless.received buffer size packId received call found

theorem kept_of_bytes (state : State) (ctx : LargeRxCtx) (same : ctx.bytes = state.largeRxCtx.bytes)
    (call : Call) (start count : Nat) (agreed : Agree state.largeRxCtx.bytes call.buffer start count) :
    Agree ctx.bytes call.buffer start count := by
  rwa [same]

theorem harmless_begin (state : State) (frame : Frame) (rest : List Frame) (inv : Inv state)
    (head : state.forward = frame :: rest) (transfer : Nat) (request : frame.request = .begin transfer) :
    Harmless { state with forward := rest } frame.request (dispatch state.largeRxCtx state.now frame.packet) := by
  have member : frame ∈ state.forward := by simp [head]
  obtain ⟨call, found, built⟩ := inv.genuine frame member
  rw [request] at found built
  have handled := handle_begin state.largeRxCtx state.now call.size call.size_fits
  rw [built, request]
  refine
    { known := (List.getElem?_eq_some_iff.mp found).1
      length := congrArg List.length handled.bytes
      kept := fun _ _ call _ _ => kept_of_bytes state _ handled.bytes call
      opened := fun _ _ _ _ => rfl
      accepted := ?_
      acked := fun _ chunk => by cases chunk
      received := fun _ _ _ received => by rw [handled.received] at received; cases received }
  intro wait waiting begins packet replied transfOk
  have current : transfer = state.transfer := by
    cases begins
    rfl
  constructor
  · -- Nothing can be queued behind the begin packet the sender still waits on.
    apply List.eq_nil_iff_forall_not_mem.mpr
    intro later inRest
    have order := inv.fifo
    rw [head, List.pairwise_cons] at order
    have follows := order.1 later inRest
    have inForward : later ∈ state.forward := by
      rw [head]
      exact List.mem_cons_of_mem _ inRest
    obtain ⟨_, laterFound, _⟩ := inv.genuine later inForward
    have bound := (List.getElem?_eq_some_iff.mp laterFound).1
    have reached : frame.request.transfer = state.transfer := by
      rw [request]
      exact current
    have lower := follows.1
    have same : later.request.transfer = state.transfer := by
      simp only [State.transfer] at reached ⊢
      omega
    have strict := follows.2 (inv.opening wait waiting later (.inl inForward) same)
    omega
  · intro made found'
    have current_call : state.calls[state.transfer]? = some made := found'
    rw [← current] at current_call
    have same : call = made := Option.some.inj (found.symm.trans current_call)
    exact same ▸ handled.accepted packet replied transfOk

theorem harmless_chunk (state : State) (frame : Frame) (rest : List Frame) (inv : Inv state)
    (head : state.forward = frame :: rest) (transfer offset : Nat) (request : frame.request = .chunk transfer offset) :
    Harmless { state with forward := rest } frame.request (dispatch state.largeRxCtx state.now frame.packet) := by
  have member : frame ∈ state.forward := by simp [head]
  obtain ⟨call, found, built⟩ := inv.genuine frame member
  have requested : frame.request.transfer = transfer := by
    rw [request]
    rfl
  rw [request] at found built
  obtain ⟨⟨inside, fits⟩, packet⟩ := built
  have handled := handle_chunk state.largeRxCtx state.now call offset fits inside
  rw [packet, request]
  refine
    { known := (List.getElem?_eq_some_iff.mp found).1
      length := handled.length
      kept := ?_
      opened := ?_
      accepted := fun _ _ begins => by cases begins
      acked := ?_
      received := fun _ _ _ received => by rw [handled.received] at received; cases received }
  · intro held isHeld made found' room start count agreed
    -- Only the transfer of this very chunk can be held while it is on its way.
    have same : held = transfer := by
      rcases isHeld with ⟨last, inRest, finish⟩ | ⟨current, at_offset, attempt, wait, waiting⟩
      · have inForward : last ∈ state.forward := by
          rw [head]
          exact List.mem_cons_of_mem _ inRest
        have one := inv.oneTransfer frame member last inForward (by rw [request]; rfl) (by rw [finish]; rfl)
        rw [requested, finish] at one
        exact one.symm
      · obtain ⟨_, _, sending⟩ := inv.sending at_offset attempt wait waiting
        obtain ⟨_, chunk⟩ := sending.chunks frame member
        rw [request] at chunk
        cases chunk
        exact current
    rw [same] at found'
    have one : call = made := Option.some.inj (found.symm.trans found')
    rw [← one] at room agreed ⊢
    exact handled.kept room start count agreed
  · intro wait waiting _ same
    have opens := inv.opening wait waiting frame (.inl member) (requested.trans same)
    rw [request] at opens
    cases opens
  · intro at_offset chunk replied made found' room
    cases chunk
    have one : call = made := Option.some.inj (found.symm.trans found')
    rw [← one] at room ⊢
    exact handled.stored room replied

theorem harmless_finish (state : State) (frame : Frame) (rest : List Frame) (inv : Inv state)
    (head : state.forward = frame :: rest) (transfer : Nat) (request : frame.request = .finish transfer) :
    Harmless { state with forward := rest } frame.request (dispatch state.largeRxCtx state.now frame.packet) := by
  have member : frame ∈ state.forward := by simp [head]
  obtain ⟨call, found, built⟩ := inv.genuine frame member
  have stored := inv.finished frame member transfer request
  rw [request] at found built
  have handled := handle_end state.largeRxCtx state.now call.packId
  rw [built, request]
  refine
    { known := (List.getElem?_eq_some_iff.mp found).1
      length := congrArg List.length handled.bytes
      kept := fun _ _ call _ _ => kept_of_bytes state _ handled.bytes call
      opened := fun _ _ replied => absurd handled.reply replied
      accepted := fun _ _ begins => by cases begins
      acked := fun _ chunk => by cases chunk
      received := ?_ }
  intro buffer size packId received made found'
  rw [handled.received buffer size packId received]
  exact agree_take _ made.buffer (stored made found')

theorem inv_receiver_poll (state next : State) (inv : Inv state) (moved : receiverPoll state = some next) : Inv next := by
  unfold receiverPoll at moved
  split at moved
  · cases moved
  · rename_i frame rest head
    cases moved
    have polled : Inv { state with forward := rest } :=
      inv_shrink state rest state.reverse inv (by simp [head]) (List.Sublist.refl _)
    apply inv_deliver _ _ _ polled
    cases request : frame.request with
    | begin transfer => exact request ▸ harmless_begin state frame rest inv head transfer request
    | chunk transfer offset => exact request ▸ harmless_chunk state frame rest inv head transfer offset request
    | finish transfer => exact request ▸ harmless_finish state frame rest inv head transfer request

theorem inv_step (state next : State) (action : Action) (inv : Inv state) (admitted : undisturbed state action)
    (moved : step state action = some next) : Inv next := by
  cases action with
  | tick ms =>
      cases moved
      exact inv_unread state inv _ state.streamCtx
  | sendLarge call =>
      simp only [step] at moved
      split at moved
      · cases moved
        exact inv_send_large state call inv
      · cases moved
  | senderPoll arrived => exact inv_sender_poll state next arrived inv admitted moved
  | senderIdlePoll =>
      simp only [step] at moved
      split at moved
      · cases moved
        exact inv_shrink state _ _ inv (List.Sublist.refl _) (List.tail_sublist _)
      · cases moved
  | receiverPoll => exact inv_receiver_poll state next inv moved
  | loseForward index =>
      cases moved
      exact inv_shrink state _ _ inv (List.eraseIdx_sublist _ _) (List.Sublist.refl _)
  | loseReverse index =>
      cases moved
      exact inv_shrink state _ _ inv (List.Sublist.refl _) (List.eraseIdx_sublist _ _)

theorem large_transfer_integrity (state : State) (reached : Reached largeTransfer undisturbed state) :
    Integrity state :=
  (reached_invariant largeTransfer undisturbed Inv inv_started
    (fun source action target => inv_step source target action) state reached).integrity

def quietLink : State :=
  ⟨0, [], [], .idle, ⟨0, false⟩, ⟨⟨LARGERX_CHUNK_TIMEOUT_MS, 0⟩, .READY, some [0, 0], true, 0⟩, [], [], []⟩

def twoByteCall : Call := ⟨[1, 2], 7, 500, 1, by decide⟩

-- The first chunk and the acknowledgement of the second one are lost once each.
def lossyRun : List Action :=
  [.sendLarge twoByteCall, .receiverPoll, .senderPoll true,
    .loseForward 0, .tick 500, .senderPoll false, .senderPoll false, .receiverPoll, .senderPoll true,
    .receiverPoll, .loseReverse 0, .tick 500, .senderPoll false, .senderPoll false, .receiverPoll, .senderPoll true,
    .receiverPoll]

theorem large_transfer_integrity_lossy : ∃ state, state.delivered.length = 1 ∧ Integrity state :=
  ⟨_, by decide, large_transfer_integrity _
    (replay_reached largeTransfer undisturbed lossyRun quietLink _ ⟨rfl, rfl, rfl, rfl, rfl, rfl⟩ rfl)⟩

-- The second ack of the first chunk is taken for the second chunk, which is lost.
def staleAckRun : List Action :=
  [.sendLarge twoByteCall, .receiverPoll, .senderPoll true,
    .receiverPoll, .tick 500, .senderPoll false, .senderPoll false, .receiverPoll, .senderPoll true,
    .loseForward 0, .senderPoll true, .receiverPoll]

theorem large_transfer_stale_ack :
    ∃ state, Reached largeTransfer anyAction state ∧ state.calls = [twoByteCall] ∧ state.returned = [2] ∧
      state.delivered = [⟨[1, 0], 2, 7, 0⟩] ∧ ¬ Integrity state :=
  ⟨_, replay_reached largeTransfer anyAction staleAckRun quietLink _ ⟨rfl, rfl, rfl, rfl, rfl, rfl⟩ rfl,
    rfl, rfl, rfl, by decide⟩

end Animacharacter.SerialDevice
