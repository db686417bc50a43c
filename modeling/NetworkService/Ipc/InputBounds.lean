import NetworkService.Ipc.IntakeRuns
import NetworkService.Ipc.ReactorIntake

/-!
# How much of a client's input is kept

The reactor reads up to sixteen kilobytes of a client in a turn and handles a few of its frames.  As
long as it reads only when every decoded frame has been handled, it never keeps more than the
beginning of one frame and what one `recv` gives.  It does not wait for that, and so a client that
sends small frames makes the queue of its decoder longer with every turn.
-/

namespace NetworkService.Ipc

open Execution Relation Cutting

/-- What is kept of a client's input: the frames that wait, and the bytes of the three buffers. -/
def Intake.kept (i : Intake) : Nat :=
  i.decoder.frames.length + i.decoder.buffer.length + i.initial.length + i.v0Request.length

/-- Of every `recv` in the log it holds what `P` says of the log before it and of its bytes. -/
def AtReads (P : List IntakeEvent → Bytes → Prop) (log : List IntakeEvent) : Prop :=
  ∀ front data back, log = front ++ .received data :: back → P front data

/-- Whenever bytes were received, all frames decoded before had been handled. -/
def DrainedReads : List IntakeEvent → Prop :=
  AtReads fun front _ => handledFrames front = (decoded (receivedBytes front)).frames

/-- The beginning of one frame, and what one `recv` gives. -/
def keptBound : Nat := kHeaderSize + kMaxPayloadBytes + kReceiveBuffer

section AtReads

variable {P : List IntakeEvent → Bytes → Prop} {log : List IntakeEvent}

theorem AtReads.of_begins {more : List IntakeEvent} (h : AtReads P more) (hbegins : log <+: more) :
    AtReads P log := by
  obtain ⟨rest, rfl⟩ := hbegins
  intro front data back hlog
  refine h front data (back ++ rest) ?_
  rw [hlog, List.append_assoc, List.cons_append]

theorem atReads_iff :
    AtReads P log ↔ ∀ k < log.length, ∀ data ∈ log[k]?.bind IntakeEvent.data?, P (log.take k) data := by
  constructor
  · intro h k hk data hdata
    rw [List.getElem?_eq_getElem hk, Option.bind_some] at hdata
    have hreceived : log[k] = .received data := by
      cases hevent : log[k] with
      | received _ =>
        rw [hevent] at hdata
        exact congrArg _ (Option.some.inj hdata)
      | handled _ => rw [hevent] at hdata; cases hdata
      | requested _ => rw [hevent] at hdata; cases hdata
      | answered _ => rw [hevent] at hdata; cases hdata
    refine h _ data (log.drop (k + 1)) ?_
    rw [← hreceived, List.getElem_cons_drop, List.take_append_drop]
  · rintro h front data back rfl
    have hat := h front.length (by simp) data (by simp [IntakeEvent.data?])
    rw [List.take_left] at hat
    exact hat

instance [∀ front data, Decidable (P front data)] : Decidable (AtReads P log) :=
  decidable_of_iff _ atReads_iff.symm

end AtReads

instance (log : List IntakeEvent) : Decidable (DrainedReads log) :=
  inferInstanceAs (Decidable (AtReads _ log))

/-! ### The decoder -/

/-- A byte that is fed makes at most one frame or stays in the buffer. -/
theorem FrameDecoder.feed_length {decoder : FrameDecoder} (herror : decoder.error = .none)
    (data : Bytes) :
    (decoder.feed data).2.frames.length + (decoder.feed data).2.buffer.length ≤
      decoder.frames.length + decoder.buffer.length + data.length := by
  obtain ⟨fs, fault, rest, hcuts⟩ := Cuts.exists_cuts frameCutter (decoder.buffer ++ data)
  have hlength := hcuts.length_le
  rw [List.length_append] at hlength
  rw [(FrameDecoder.feed_eq herror hcuts).1]
  show (decoder.frames ++ fs).length + rest.length ≤ _
  rw [List.length_append]
  omega

/-- A decoder without an error keeps the beginning of a frame. -/
theorem FrameDecoder.Holds.buffer_le {decoder : FrameDecoder} {stream : Bytes} {taken : List Frame}
    (h : decoder.Holds stream taken) (herror : decoder.error = .none) :
    decoder.buffer.length ≤ 65547 := by
  obtain ⟨fault, rest, hcuts, hfault, hbuffer⟩ := h.cuts
  cases fault with
  | some fault =>
    rw [herror] at hfault
    exact absurd hfault.symm (fault_ne_none hcuts)
  | none =>
    rw [hbuffer rfl]
    cases hcuts.rest_cuts with
    | more hmore => exact ((cutFrame_more_iff rest).mp hmore).length_le

theorem holds_decoded (stream : Bytes) : (decoded stream).Holds stream [] :=
  FrameDecoder.Holds.fresh.feed stream

/-- What was decoded is what was handled and what waits. -/
theorem Intake.Framed.decoded_frames {i : Intake} (h : i.Framed) :
    (decoded (receivedBytes i.log)).frames = handledFrames i.log ++ i.decoder.frames ∧
      (decoded (receivedBytes i.log)).error = i.decoder.error := by
  obtain ⟨hframes, herror⟩ := h.holds.unique (holds_decoded (receivedBytes i.log))
  exact ⟨hframes.symm, herror.symm⟩

/-! ### One step -/

theorem Intake.Framed.frames_nil {i : Intake} (h : i.Framed)
    (hdrained : handledFrames i.log = (decoded (receivedBytes i.log)).frames) :
    i.decoder.frames = [] := by
  rw [h.decoded_frames.1] at hdrained
  exact List.append_cancel_left (hdrained.symm.trans (List.append_nil _).symm)

theorem Intake.Framed.kept_receive {i : Intake} (h : i.Framed) (hopen : i.stopped = false)
    (hdrained : handledFrames i.log = (decoded (receivedBytes i.log)).frames) {fresh : Session}
    {data : Bytes} (hsize : data.length ≤ kReceiveBuffer) :
    (i.receive fresh data).kept ≤ keptBound := by
  have herror := h.error_none hopen
  have hbuffer := h.holds.buffer_le herror
  have hfeed := FrameDecoder.feed_length herror data
  rw [h.frames_nil hdrained, List.length_nil] at hfeed
  unfold Intake.receive
  rw [h.protocol]
  simp only [Intake.receiveFrames, Intake.kept]
  rw [h.initial, h.v0Request, List.length_nil]
  unfold keptBound kHeaderSize kMaxPayloadBytes
  omega

/-- The buffers other than the decoder's are small without any condition. -/
theorem Intake.kept_of_empty {i : Intake} (hdecoder : i.decoder = {})
    (hbuffers : i.initial.length + i.v0Request.length ≤ kMaxRequestBytes + kReceiveBuffer) :
    i.kept ≤ keptBound := by
  unfold Intake.kept
  rw [hdecoder]
  unfold keptBound kHeaderSize kMaxPayloadBytes
  unfold kMaxRequestBytes at hbuffers
  simp only [List.length_nil]
  omega

theorem Intake.Line.kept_le {i : Intake} (h : i.Line) : i.kept ≤ keptBound := by
  refine kept_of_empty h.decoder ?_
  rw [h.initial, h.v0Request, List.length_nil, Nat.zero_add]
  exact h.size

/-- The first bytes are few, whatever becomes of them. -/
theorem Intake.Undecided.kept_receive {i : Intake} (h : i.Undecided) (fresh : Session) {data : Bytes}
    (hsize : data.length ≤ kReceiveBuffer) : (i.receive fresh data).kept ≤ keptBound := by
  have hshort := h.short
  have hmagic : kMagic.length = 4 := by decide
  have hlength : (i.initial ++ data).length ≤ 4 + kReceiveBuffer := by
    rw [List.length_append]
    omega
  have hline : ∀ line : Bytes, line.length ≤ 4 + kReceiveBuffer →
      ({ i with initial := [] }.receiveLine data line).kept ≤ keptBound := by
    intro line hle
    have hbuffers : ([] : Bytes).length + line.length ≤ kMaxRequestBytes + kReceiveBuffer := by
      unfold kMaxRequestBytes
      rw [List.length_nil]
      omega
    unfold Intake.receiveLine
    simp only
    split
    · exact kept_of_empty h.decoder hbuffers
    split
    · exact kept_of_empty h.decoder hbuffers
    · exact kept_of_empty h.decoder hbuffers
  have hbuffers : (i.initial ++ data).length + i.v0Request.length ≤
      kMaxRequestBytes + kReceiveBuffer := by
    rw [h.v0Request, List.length_nil]
    unfold kMaxRequestBytes
    omega
  unfold Intake.receive
  rw [h.protocol]
  simp only
  split
  · exact kept_of_empty h.decoder hbuffers
  split
  · exact kept_of_empty h.decoder hbuffers
  split
  · have herror : ({} : FrameDecoder).error = .none := rfl
    have hfeed := FrameDecoder.feed_length herror (i.initial ++ data)
    simp only [Intake.receiveFrames, Intake.kept]
    rw [h.decoder, h.v0Request]
    unfold keptBound kHeaderSize kMaxPayloadBytes
    simp only [List.length_nil] at hfeed ⊢
    omega
  · exact hline _ hlength

theorem Intake.kept_handle {i : Intake} {session : Session} {frame : Frame} {decoder : FrameDecoder}
    (htake : i.decoder.takeFrame = some (frame, decoder)) (answers : List Bytes) (closed : Bool) :
    (i.handle session frame decoder answers closed).kept ≤ i.kept := by
  unfold FrameDecoder.takeFrame at htake
  split at htake
  · cases htake
  next first frames hframes =>
    cases htake
    simp only [Intake.handle, Intake.kept]
    rw [hframes, List.length_cons]
    omega

/-- One step keeps within the bound, if it does not read over frames that wait. -/
theorem Intake.kept_step {i j : Intake} (hsound : i.Sound) (hstep : IntakeStep i j)
    (hdrained : DrainedReads j.log) (hkept : i.kept ≤ keptBound) : j.kept ≤ keptBound := by
  cases hstep with
  | close => exact hkept
  | @receive fresh data hopen hfresh _ hsize =>
    cases hsound with
    | undecided h => exact h.kept_receive fresh hsize
    | line h => exact (h.receive hopen hsize).kept_le
    | framed h =>
      obtain ⟨more, hmore⟩ := i.log_receive fresh data
      rw [List.append_assoc, List.singleton_append] at hmore
      exact h.kept_receive hopen (hdrained i.log data more hmore.symm) hsize
  | handle _ _ htake _ => exact Nat.le_trans (kept_handle htake _ _) hkept

theorem Intake.kept_run {i : Intake} (h : IntakeRun {} i) (hdrained : DrainedReads i.log) :
    i.kept ≤ keptBound := by
  induction h with
  | refl => decide
  | @tail i j hrun hstep ih =>
    exact Intake.kept_step (.of_run hrun) hstep hdrained
      (ih (AtReads.of_begins hdrained hstep.log_begins))

/-- **The kept input is bounded** in every run in which a client is read only when every frame that
was decoded for it has been handled. -/
theorem kept_input_bounded {history : List Turn} {s : Server}
    (hreach : Reaches Started reactorStep history s) {id : ClientId} {client : ClientState}
    (hclient : s.client? id = some client) (hdrained : DrainedReads client.intake.log) :
    client.decoder.frames.length + client.decoder.buffer.length + client.initial.length +
      client.v0Request.length ≤ keptBound :=
  Intake.kept_run (intake_of_reaches hreach hclient) hdrained

/-! ### A client that sends empty requests -/

/-- The ERROR that answers an empty request. -/
def emptyRequestError : Bytes :=
  encodeJson .error
    (Session.errorText (text "INVALID_REQUEST_ID") (text (requestErrorMessage .invalidJson)))

def emptyRequest : Frame := messageFrame (.request, [])

/-- A ready client with nothing to send and this many empty requests waiting. -/
structure Flooded (n : Nat) (client : ClientState) : Prop where
  protocol : client.protocol = .v1
  opened : client.closed = false
  flush : client.closeAfterFlush = false
  outbound : client.outbound = {}
  session : ∃ session, client.session = some session ∧ session.state = .ready
  decoder : client.decoder = { frames := List.replicate n emptyRequest }

/-- The kernel takes what it is given. -/
def promptFlush : FlushReplies := { sends := [.wrote 0 1000] }

def promptReplies (_ : Nat) : Server.FrameReplies := { flush := promptFlush }

theorem handleFrame_emptyRequest {session : Session} (h : session.state = .ready) :
    session.handleFrame emptyRequest = ({ response := emptyRequestError }, session) := by
  have hparse : (parseRequest []).1 = .invalidJson ∧ (parseRequest []).2.haveRequestId = false := by
    decide
  have hready : ReadyRequest session emptyRequest := ⟨h, rfl⟩
  rw [hready.handleFrame_eq]
  simp only [Session.handleRequest, show emptyRequest.payload = [] from rfl]
  rw [hparse.1, if_pos (by decide)]
  unfold Session.rejectRequest
  rw [hparse.2, if_neg (by simp)]
  rfl

theorem emptyRequestError_length : emptyRequestError ≠ [] ∧ emptyRequestError.length ≤ 200 := by
  decide +kernel

/-- A short frame is accepted by an empty queue and taken from it by one call of `send`. -/
theorem flushPending_prompt {client : ClientState} {frame : Bytes}
    (hopen : client.closed = false) (hflush : client.closeAfterFlush = false)
    (hqueue : client.outbound = { queuedBytes := frame.length, frames := [{ bytes := frame }] })
    (hne : frame ≠ []) (hlength : frame.length ≤ 200) :
    (client.flushPending promptFlush).closed = false ∧
      (client.flushPending promptFlush).outbound = {} := by
  have hpos := List.length_pos_iff.mpr hne
  have hconsumed : min 1000 (min frame.length kWriteBudgetPerTick) = frame.length := by
    unfold kWriteBudgetPerTick
    omega
  have hbudget : ¬kWriteBudgetPerTick = 0 := by decide
  have hzero : ¬frame.length = 0 := by omega
  unfold ClientState.flushPending ClientState.flushClient promptFlush
  rw [hopen, hqueue]
  simp only [OutboundQueue.isEmpty, List.isEmpty_cons, Bool.false_eq_true, or_self, if_false]
  unfold ClientState.flushLoop
  rw [hqueue]
  simp only [OutboundQueue.isEmpty, List.isEmpty_cons, Bool.false_eq_true, hbudget, or_self, if_false,
    OutboundQueue.frontSize, Nat.sub_zero, hconsumed, hzero, OutboundQueue.consume, Nat.lt_irrefl,
    Nat.zero_add, Bool.not_true, if_true, Nat.sub_self]
  unfold ClientState.flushLoop
  simp only [OutboundQueue.isEmpty, List.isEmpty_nil, true_or, if_true, ClientState.endFlush, hopen,
    hflush, Bool.or_self, and_self]

theorem enqueueFrame_prompt {client : ClientState} (hqueue : client.outbound = {}) {frame : Bytes}
    (hne : frame ≠ []) (hlength : frame.length ≤ 200) (now : Nat) (last : UInt64) (stamp : Stamp) :
    (client.enqueueFrame now last stamp frame).1 = true ∧
      (client.enqueueFrame now last stamp frame).2.closed = client.closed ∧
      (client.enqueueFrame now last stamp frame).2.outbound =
        { queuedBytes := frame.length, frames := [{ bytes := frame }] } := by
  have hbytes : kDefaultOutboundMaxBytes = 262192 := by decide
  have hsmall : ¬(kDefaultOutboundMaxFrames = 0 ∨ kDefaultOutboundMaxBytes = 0 ∨
      kDefaultOutboundMaxBytes < frame.length) := by
    rw [hbytes]
    unfold kDefaultOutboundMaxFrames
    omega
  have hroom : ¬(kDefaultOutboundMaxFrames ≤ ([] : List PendingFrame).length ∨
      kDefaultOutboundMaxBytes - frame.length < 0) := by
    unfold kDefaultOutboundMaxFrames
    rw [List.length_nil]
    omega
  have henqueue : client.outbound.enqueue frame =
      (.accepted, { queuedBytes := frame.length, frames := [{ bytes := frame }] }) := by
    rw [hqueue]
    unfold OutboundQueue.enqueue
    rw [if_neg hne, if_neg hsmall, if_neg hroom]
    simp only [Nat.zero_add, List.nil_append]
  unfold ClientState.enqueueFrame
  simp only [henqueue, decide_true, if_true, and_self]

/-- The ERROR is queued, and the client goes on. -/
theorem finishFrame_emptyRequest {s : Server} {id : ClientId} {client : ClientState}
    (hclient : s.client? id = some client) (hopen : client.closed = false)
    (hqueue : client.outbound = {}) (turn : Nat) :
    ∃ offers queued,
      (s.finishFrame id (promptReplies turn) { response := emptyRequestError }).1 = true ∧
      (s.finishFrame id (promptReplies turn) { response := emptyRequestError }).2.client? id =
        some queued ∧
      Extends offers client queued ∧ queued.closed = false ∧
      queued.outbound =
        { queuedBytes := emptyRequestError.length, frames := [{ bytes := emptyRequestError }] } := by
  obtain ⟨hne, hlength⟩ := emptyRequestError_length
  obtain ⟨haccepted, hopened, hqueued⟩ := enqueueFrame_prompt hqueue hne hlength 0
    s.sequencer.lastSequence .reply
  have hextends := Extends.enqueueFrame 0 s.sequencer.lastSequence .reply emptyRequestError client
  generalize hq : (client.enqueueFrame 0 s.sequencer.lastSequence .reply emptyRequestError).2 =
    queued at hopened hqueued hextends
  refine ⟨_, queued, ?_, ?_, hextends, hopened.trans hopen, hqueued⟩
  all_goals
    have hrespond : s.respond id (promptReplies turn).now emptyRequestError =
        (true, (s.enqueueFrame id 0 .reply emptyRequestError).2) := by
      unfold Server.respond
      rw [if_neg hne]
      refine Prod.ext ?_ rfl
      simp only [Server.enqueueFrame]
      rw [hclient]
      exact haccepted
    have hrecord : ((s.enqueueFrame id 0 .reply emptyRequestError).2.update id fun client =>
        { client with closeAfterFlush := client.closeAfterFlush || false }).client? id =
          some queued := by
      simp only [Server.enqueueFrame]
      rw [Server.client?_update_self, Server.client?_update_self, hclient, ← hq]
      simp only [Option.map_some, Bool.or_false]
    unfold Server.finishFrame
    simp only [hrespond, Bool.not_true, Bool.false_eq_true, if_false, Server.performAction_none]
  · unfold Server.isOpen
    rw [hrecord]
    simp [hopened, hopen]
  · exact hrecord

/-- One empty request is answered, and its answer is sent. -/
theorem Flooded.process {n : Nat} {s : Server} {id : ClientId} {client : ClientState}
    (h : Flooded (n + 1) client) (hclient : s.client? id = some client) (turn : Nat) :
    (s.processV1Frame id (promptReplies turn)).1 = true ∧
      ∃ after, ((s.processV1Frame id (promptReplies turn)).2.update id
        (.flushPending promptFlush)).client? id = some after ∧ Flooded n after := by
  obtain ⟨session, hsession, hready⟩ := h.session
  obtain ⟨hne, hlength⟩ := emptyRequestError_length
  have htake : client.decoder.takeFrame =
      some (emptyRequest, { frames := List.replicate n emptyRequest }) := by
    rw [h.decoder]
    rfl
  have hprocess : s.processV1Frame id (promptReplies turn) =
      (s.takeFrame id emptyRequest { frames := List.replicate n emptyRequest } session).finishFrame id
        (promptReplies turn) { response := emptyRequestError } := by
    unfold Server.processV1Frame
    simp only [hclient, hsession, htake, h.opened, Bool.false_eq_true, if_false,
      handleFrame_emptyRequest hready]
  have htaken : (s.takeFrame id emptyRequest { frames := List.replicate n emptyRequest }
      session).client? id = some { client with
        decoder := { frames := List.replicate n emptyRequest }
        session := some session
        history := client.history ++ [.handled emptyRequest] } := by
    rw [Server.takeFrame, Server.client?_update_self, hclient]
    rfl
  obtain ⟨offers, queued, hgoes, hqueued, hextends, hopened, houtbound⟩ :=
    finishFrame_emptyRequest htaken h.opened h.outbound turn
  rw [hprocess]
  refine ⟨hgoes, queued.flushPending promptFlush, ?_, ?_⟩
  · rw [Server.client?_update_self, hqueued]
    rfl
  · have hstill := Still.flushPending promptFlush queued
    obtain ⟨hclosed, hempty⟩ := flushPending_prompt hopened (hextends.closeAfterFlush.trans h.flush)
      houtbound hne hlength
    exact
      { protocol := hstill.protocol.trans (hextends.protocol.trans h.protocol)
        opened := hclosed
        flush := hstill.closeAfterFlush.trans (hextends.closeAfterFlush.trans h.flush)
        outbound := hempty
        session := ⟨session, hstill.session.trans hextends.session, hready⟩
        decoder := hstill.decoder.trans hextends.decoder }

/-- A turn of service handles as many requests as it is allowed to. -/
theorem Flooded.serviceLoop {turns n : Nat} {s : Server} {id : ClientId} {client : ClientState}
    (h : Flooded (n + turns) client) (hclient : s.client? id = some client) :
    ∃ after, (Server.serviceLoop id promptReplies turns s).client? id = some after ∧
      Flooded n after := by
  induction turns generalizing s client with
  | zero => exact ⟨client, hclient, h⟩
  | succ turns ih =>
    obtain ⟨hgoes, after, hafter, hflooded⟩ := Flooded.process (n := n + turns) h hclient turns
    unfold Server.serviceLoop
    have hframe : client.decoder.hasFrame = true := by
      rw [h.decoder]
      rfl
    have hempty : client.outbound.isEmpty = true := by
      rw [h.outbound]
      rfl
    simp only [hclient, h.opened, h.flush, hempty, hframe, Bool.not_true, Bool.or_self,
      Bool.false_eq_true, if_false, hgoes]
    exact ih hflooded hafter

theorem Flooded.serviceBufferedV1 {n : Nat} {s : Server} {id : ClientId} {client : ClientState}
    (h : Flooded (n + 4) client) (hclient : s.client? id = some client) :
    ∃ after, (s.serviceBufferedV1 id promptReplies).client? id = some after ∧ Flooded n after := by
  obtain ⟨session, hsession, -⟩ := h.session
  unfold Server.serviceBufferedV1
  simp only [hclient, h.protocol, hsession, h.opened, ne_eq, not_true, reduceCtorEq,
    Bool.false_eq_true, or_self, if_false]
  exact Flooded.serviceLoop h hclient

/-- There is nothing to send. -/
theorem Flooded.flushPending {n : Nat} {client : ClientState} (h : Flooded n client)
    (replies : FlushReplies) : client.flushPending replies = client := by
  have hempty : client.outbound.isEmpty = true := by
    rw [h.outbound]
    rfl
  exact if_pos hempty

theorem Flooded.serviceClient {n : Nat} {s : Server} {id : ClientId} {client : ClientState}
    (h : Flooded (n + 4) client) (hclient : s.client? id = some client) :
    ∃ after, (s.serviceClient id promptReplies promptFlush).client? id = some after ∧
      Flooded n after := by
  obtain ⟨after, hafter, hflooded⟩ := h.serviceBufferedV1 hclient
  refine ⟨after, ?_, hflooded⟩
  unfold Server.serviceClient
  rw [Server.client?_update_self, hafter, Option.map_some, hflooded.flushPending]

/-! ### One turn of the loop -/

/-- What a client sends in one piece: twenty requests without a payload. -/
def burst : Bytes := encodeAll (List.replicate 20 (.request, []))

theorem burst_ne_nil : burst ≠ [] ∧ burst.length ≤ kReceiveBuffer := by decide +kernel

/-- The decoder makes twenty frames of a burst. -/
theorem Flooded.feed {n : Nat} {client : ClientState} (h : Flooded n client) :
    (client.decoder.feed burst).2 = { frames := List.replicate (n + 20) emptyRequest } ∧
      (client.decoder.feed burst).1 ≠ .error := by
  have hcuts : Cuts frameCutter burst (List.replicate 20 emptyRequest) none [] := by
    have hfits : ∀ message ∈ List.replicate 20 (MessageType.request, ([] : Bytes)),
        message.2.length ≤ kMaxPayloadBytes := by
      intro message hmessage
      rw [List.eq_of_mem_replicate hmessage]
      exact Nat.zero_le _
    have hall := cuts_messages hfits
    rw [List.map_replicate] at hall
    exact hall
  have herror : client.decoder.error = .none := by
    rw [h.decoder]
  have hbuffer : client.decoder.buffer ++ burst = burst := by
    rw [h.decoder]
    rfl
  obtain ⟨hdecoder, hstatus⟩ := FrameDecoder.feed_eq herror (hbuffer.symm ▸ hcuts)
  refine ⟨hdecoder.trans ?_, fun hbad => absurd (hstatus.mp hbad) (by simp)⟩
  unfold FrameDecoder.cutOff
  rw [h.decoder, List.replicate_append_replicate]
  rfl

/-- A burst is read: eight of its frames are handled at once, and twenty wait for them. -/
theorem Flooded.acceptBytes {n : Nat} {s : Server} {id : ClientId} {client : ClientState}
    (h : Flooded n client) (hclient : s.client? id = some client) {reply : Server.ReceiveReply}
    (hfirst : reply.first = promptReplies) :
    ∃ after, (s.acceptBytes id reply burst).client? id = some after ∧ Flooded (n + 16) after := by
  obtain ⟨hdecoder, hstatus⟩ := h.feed
  unfold Server.acceptBytes
  rw [hclient, Option.map_some, h.protocol, hfirst]
  simp only
  have hfed : Flooded (n + 16 + 4) { client with
      decoder := (client.decoder.feed burst).2
      closed := client.closed || (client.decoder.feed burst).1 == .error
      history := client.history ++ [.received burst] } :=
    { protocol := h.protocol
      opened := by simp [h.opened, hstatus]
      flush := h.flush
      outbound := h.outbound
      session := h.session
      decoder := hdecoder }
  refine hfed.serviceBufferedV1 ?_
  rw [Server.client?_update_self, hclient]
  rfl

/-- The replies while a burst is read. -/
def burstReply : Server.ReceiveReply :=
  { data := some burst, first := promptReplies, second := promptReplies }

theorem Flooded.receiveClient {n : Nat} {s : Server} {id : ClientId} {client : ClientState}
    (h : Flooded n client) (hclient : s.client? id = some client) :
    ∃ after, (s.receiveClient id [burstReply]).client? id = some after ∧
      Flooded (n + 12) after := by
  obtain ⟨hne, hlength⟩ := burst_ne_nil
  have hempty : client.outbound.isEmpty = true := by
    rw [h.outbound]
    rfl
  have htake : burst.take (min kReceiveBuffer kReadBudgetPerTick) = burst := by
    refine List.take_of_length_le ?_
    unfold kReadBudgetPerTick
    unfold kReceiveBuffer at hlength ⊢
    omega
  have hactive : (s.update id fun client =>
      { client with lastInputActivity := burstReply.now }).client? id =
        some { client with lastInputActivity := burstReply.now } := by
    rw [Server.client?_update_self, hclient]
    rfl
  have hflooded : Flooded n { client with lastInputActivity := burstReply.now } :=
    { h with }
  have hfirst : burstReply.first = promptReplies := rfl
  obtain ⟨middle, hmiddle, hread⟩ := hflooded.acceptBytes hactive hfirst
  obtain ⟨after, hafter, hserved⟩ := Flooded.serviceBufferedV1 (n := n + 12) hread hmiddle
  refine ⟨after, ?_, hserved⟩
  unfold Server.receiveClient
  rw [hclient]
  simp only [h.opened, hempty, h.flush, Bool.not_true, Bool.false_eq_true, or_self, if_false]
  unfold Server.receiveLoop
  rw [hclient]
  simp only [h.opened, hempty, h.flush, Bool.not_true, Bool.false_eq_true, or_self]
  rw [if_neg (by decide)]
  simp only [show burstReply.data = some burst from rfl, htake, hne, if_false]
  unfold Server.receiveLoop
  exact hafter

/-- What `poll` reports while the client goes on sending. -/
def burstPolled : PollReplies :=
  { readable := true, receive := [burstReply], service := promptReplies, flushAfter := promptFlush }

theorem Flooded.isOpen {n : Nat} {s : Server} {id : ClientId} {client : ClientState}
    (h : Flooded n client) (hclient : s.client? id = some client) : s.isOpen id = true := by
  unfold Server.isOpen
  rw [hclient, Option.any_some, h.opened]
  rfl

theorem Flooded.servePolled {n : Nat} {s : Server} {id : ClientId} {client : ClientState}
    (h : Flooded n client) (hclient : s.client? id = some client) :
    ∃ after, (s.servePolled id burstPolled).client? id = some after ∧ Flooded (n + 8) after := by
  obtain ⟨middle, hmiddle, hread⟩ := h.receiveClient hclient
  have hempty : client.outbound.isEmpty = true := by
    rw [h.outbound]
    rfl
  have hpolled : s.receivePolled id burstPolled = s.receiveClient id [burstReply] := by
    unfold Server.receivePolled
    rw [hclient]
    simp only [h.opened, hempty, h.flush, burstPolled, Bool.false_eq_true, if_false, true_or,
      Bool.not_false, and_self, if_true]
  obtain ⟨after, hafter, hserved⟩ := Flooded.serviceClient (n := n + 8) hread hmiddle
  refine ⟨after, ?_, hserved⟩
  unfold Server.servePolled
  simp only [h.isOpen hclient, show burstPolled.any = true from rfl,
    show burstPolled.error = false from rfl, show burstPolled.writable = false from rfl,
    Bool.not_true, Bool.false_eq_true, or_self, if_false, hpolled, hread.isOpen hmiddle]
  exact hafter

/-- A ready client with nothing to send has no deadline. -/
theorem Flooded.applyDeadline {n : Nat} {client : ClientState} (h : Flooded n client) (now : Nat) :
    client.applyDeadline now = client := by
  obtain ⟨session, hsession, hready⟩ := h.session
  have hquiet : client.needsInputDeadline = false := by
    unfold ClientState.needsInputDeadline ClientState.sessionReady Session.ready
    rw [h.protocol, hsession, Option.any_some, hready]
    simp
  have hempty : client.outbound.isEmpty = true := by
    rw [h.outbound]
    rfl
  unfold ClientState.applyDeadline
  simp only [h.opened, hquiet, hempty, Bool.false_eq_true, Bool.not_true, false_and, if_false]

/-- One turn of the reactor's loop: the service, the deadlines, the cleaning and the poll. -/
def burstTurns : List Turn :=
  [.service 0 promptReplies promptFlush, .deadlines 0, .cleanup, .polled 0 burstPolled]

def burstServer (s : Server) : Server := burstTurns.foldl (fun s turn => turn.perform s) s

/-- Sixteen requests are handled in a turn of the loop and twenty are read. -/
theorem Flooded.loop {n : Nat} {s : Server} {client : ClientState} (h : Flooded (n + 4) client)
    (hclient : s.client? 0 = some client) :
    ∃ after, (burstServer s).client? 0 = some after ∧ Flooded (n + 8) after := by
  obtain ⟨served, hserved, hrest⟩ := h.serviceClient hclient
  have hdeadlines : ((s.serviceClient 0 promptReplies promptFlush).applyDeadlines 0).client? 0 =
      some served := by
    unfold Server.applyDeadlines
    rw [Server.client?_mapClients, hserved, Option.map_some, hrest.applyDeadline]
  have hcleanup : ((s.serviceClient 0 promptReplies promptFlush).applyDeadlines
      0).cleanupClients.client? 0 = some served := by
    rw [Server.client?_cleanupClients, hdeadlines, Option.filter_some, hrest.opened]
    rfl
  exact hrest.servePolled hcleanup

/-! ### The flood -/

/-- HELLO, as every v1 client begins. -/
def helloBytes : Bytes :=
  encodeJson .hello (text "\x7b\"minVersion\":1,\"maxVersion\":1\x7d")

/-- A client sends these pieces, each of which is one result of `recv`, and reads its answers. -/
def promptTurns (pieces : List Bytes) : List Turn :=
  [.accept 0, .polled 0
    { readable := true
      receive := pieces.map fun piece =>
        { data := some piece, first := promptReplies, second := promptReplies }
      service := promptReplies
      flushAfter := promptFlush }]

def promptServer (pieces : List Bytes) : Server :=
  (promptTurns pieces).foldl (fun s turn => turn.perform s) (Server.start 7 0)

def promptClient (pieces : List Bytes) : ClientState :=
  ((promptServer pieces).client? 0).getD (.create 0)

theorem promptServer_reaches (pieces : List Bytes) :
    Reaches Started reactorStep (promptTurns pieces).reverse (promptServer pieces) :=
  Reaches.of_run ⟨7, 0, rfl⟩ (run_total Turn.perform (promptTurns pieces) (Server.start 7 0))

/-- HELLO with the first bytes of an empty request, then the rest of the request. -/
def splitRequest : List Bytes :=
  [helloBytes ++ [78, 83], [80, 49, 1, 3, 0, 0, 0, 0, 0, 0]]

/-- HELLO is handled before the rest of the request is read. -/
theorem kept_input_bounded_splitRequest :
    (handledFrames (promptClient splitRequest).intake.log).length = 2 ∧
      (promptClient splitRequest).decoder.frames.length +
        (promptClient splitRequest).decoder.buffer.length +
        (promptClient splitRequest).initial.length +
        (promptClient splitRequest).v0Request.length ≤ keptBound := by
  have hrun : (promptServer splitRequest).client? 0 = some (promptClient splitRequest) ∧
      DrainedReads (promptClient splitRequest).intake.log ∧
      (handledFrames (promptClient splitRequest).intake.log).length = 2 := by
    decide +kernel
  obtain ⟨hclient, hdrained, hhandled⟩ := hrun
  exact ⟨hhandled, kept_input_bounded (promptServer_reaches _) hclient hdrained⟩

/-- HELLO and fifteen requests in one piece; twelve frames are handled, and four wait. -/
def firstPiece : Bytes := helloBytes ++ encodeAll (List.replicate 15 (.request, []))

theorem flooded_firstPiece :
    (promptServer [firstPiece]).client? 0 = some (promptClient [firstPiece]) ∧
      Flooded 4 (promptClient [firstPiece]) := by
  have hrun : (promptServer [firstPiece]).client? 0 = some (promptClient [firstPiece]) ∧
      (promptClient [firstPiece]).protocol = .v1 ∧
      (promptClient [firstPiece]).closed = false ∧
      (promptClient [firstPiece]).closeAfterFlush = false ∧
      (promptClient [firstPiece]).outbound = {} ∧
      (promptClient [firstPiece]).session.map Session.state = some .ready ∧
      (promptClient [firstPiece]).decoder = { frames := List.replicate 4 emptyRequest } := by
    decide +kernel
  obtain ⟨hclient, hprotocol, hopen, hflush, houtbound, hsession, hdecoder⟩ := hrun
  obtain ⟨session, hsome, hready⟩ := Option.map_eq_some_iff.mp hsession
  exact ⟨hclient, hprotocol, hopen, hflush, houtbound, ⟨session, hsome, hready⟩, hdecoder⟩

/-- Every turn of the loop leaves four more requests waiting. -/
theorem flooded_reachable (k : Nat) :
    ∃ history s client, Reaches Started reactorStep history s ∧ s.client? 0 = some client ∧
      Flooded (4 * k + 4) client := by
  induction k with
  | zero =>
    obtain ⟨hclient, hflooded⟩ := flooded_firstPiece
    exact ⟨_, _, _, promptServer_reaches [firstPiece], hclient, hflooded⟩
  | succ k ih =>
    obtain ⟨history, s, client, hreach, hclient, hflooded⟩ := ih
    obtain ⟨after, hafter, hmore⟩ := hflooded.loop hclient
    exact ⟨_, _, _, hreach.append_run (run_total Turn.perform burstTurns s), hafter, hmore⟩

/-- No bound holds for a client that sends faster than its frames are handled, though it reads
every answer. -/
theorem kept_input_unbounded :
    ¬∃ bound, ∀ (history : List Turn) (s : Server) (id : ClientId) (client : ClientState),
      Reaches Started reactorStep history s → s.client? id = some client →
        client.decoder.frames.length + client.decoder.buffer.length + client.initial.length +
          client.v0Request.length ≤ bound := by
  rintro ⟨bound, hbound⟩
  obtain ⟨history, s, client, hreach, hclient, hflooded⟩ := flooded_reachable bound
  have hle := hbound history s 0 client hreach hclient
  rw [hflooded.decoder, List.length_replicate] at hle
  omega

end NetworkService.Ipc
