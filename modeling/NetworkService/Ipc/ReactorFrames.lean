import NetworkService.Ipc.Intake
import NetworkService.Ipc.ReactorMoves
import NetworkService.Ipc.Wire

/-!
# The frames that the reactor queues for a frame

`process_v1_frame` gives the answer to `enqueue_frame`, then what the request triggers.  So the record
of the client is extended by the answer and by events behind it, or the client is closed.
-/

namespace NetworkService.Ipc

/-! ### Offers -/

/-- The frames of these offers have been given to `enqueue_frame`, and nothing else has happened but
that the client may have been closed. -/
structure Extends (offers : List Offer) (before after : ClientState) : Prop where
  protocol : after.protocol = before.protocol
  initial : after.initial = before.initial
  v0Request : after.v0Request = before.v0Request
  session : after.session = before.session
  decoder : after.decoder = before.decoder
  closeAfterFlush : after.closeAfterFlush = before.closeAfterFlush
  history : after.history = before.history ++ offers.map .offered
  frames : after.outbound.frames =
    before.outbound.frames ++ (offers.filter (·.accepted)).map fun offer => { bytes := offer.frame }
  closed : before.closed = true → after.closed = true
  refused : ∀ offer ∈ offers, offer.accepted = false → after.closed = true

namespace Extends

theorem refl (client : ClientState) : Extends [] client client where
  protocol := rfl
  initial := rfl
  v0Request := rfl
  session := rfl
  decoder := rfl
  closeAfterFlush := rfl
  history := (List.append_nil _).symm
  frames := (List.append_nil _).symm
  closed := id
  refused := by simp

theorem trans {offers more : List Offer} {first second third : ClientState}
    (h : Extends offers first second) (h' : Extends more second third) :
    Extends (offers ++ more) first third where
  protocol := h'.protocol.trans h.protocol
  initial := h'.initial.trans h.initial
  v0Request := h'.v0Request.trans h.v0Request
  session := h'.session.trans h.session
  decoder := h'.decoder.trans h.decoder
  closeAfterFlush := h'.closeAfterFlush.trans h.closeAfterFlush
  history := by rw [h'.history, h.history, List.map_append, List.append_assoc]
  frames := by rw [h'.frames, h.frames, List.filter_append, List.map_append, List.append_assoc]
  closed hc := h'.closed (h.closed hc)
  refused offer hoffer hrefused := by
    rcases List.mem_append.mp hoffer with hmem | hmem
    · exact h'.closed (h.refused offer hmem hrefused)
    · exact h'.refused offer hmem hrefused

theorem close (client : ClientState) : Extends [] client client.close where
  protocol := rfl
  initial := rfl
  v0Request := rfl
  session := rfl
  decoder := rfl
  closeAfterFlush := rfl
  history := (List.append_nil _).symm
  frames := (List.append_nil _).symm
  closed := fun _ => rfl
  refused := by simp

theorem enqueueFrame (now : Nat) (last : UInt64) (stamp : Stamp) (frame : Bytes)
    (client : ClientState) :
    Extends [⟨frame, stamp, (client.enqueueFrame now last stamp frame).1, last, client.subscribed⟩]
      client (client.enqueueFrame now last stamp frame).2 := by
  unfold ClientState.enqueueFrame
  rcases client.outbound.enqueue_cases frame with ⟨hresult, -, hqueue⟩ | ⟨hresult, -⟩
  · simp only [hresult, decide_true, if_true]
    exact ⟨rfl, rfl, rfl, rfl, rfl, rfl, rfl, hqueue, id, by simp⟩
  · simp only [decide_eq_false hresult, Bool.false_eq_true, if_false]
    exact ⟨rfl, rfl, rfl, rfl, rfl, rfl, rfl, (List.append_nil _).symm, fun _ => rfl, fun _ _ _ => rfl⟩

end Extends

/-! ### One frame -/

/-- The offer of an event. -/
def Offer.OfEvent (offer : Offer) : Prop :=
  ∃ event, offer.stamp = .event event ∧ offer.frame = event.frame

/-- What is offered to a client while one of its frames is processed: the answer, and then events;
or nothing, if the client is closed or there is nothing to say. -/
inductive FrameOffers (session : Session) (frame : Frame) (closed : Bool) : List Offer → Prop
  | answer {offer : Offer} {events : List Offer} (hstamp : offer.stamp.isAnswer = true)
      (hanswer : AnswerTo session frame offer.frame) (hevents : ∀ event ∈ events, event.OfEvent) :
      FrameOffers session frame closed (offer :: events)
  | lost (h : closed = true) : FrameOffers session frame closed []
  | silent (hresponse : (session.handleFrame frame).1.response = [])
      (haction : (session.handleFrame frame).1.serverAction = .none) :
      FrameOffers session frame closed []

/-- The record of client `id` is extended by these offers. -/
def Server.Offered (s t : Server) (id : ClientId) (before : ClientState) (offers : List Offer)
    (after : ClientState) : Prop :=
  s.client? id = some before ∧ t.client? id = some after ∧ Extends offers before after

namespace Server

variable {s : Server} {id : ClientId} {client : ClientState}

theorem client?_close (hclient : s.client? id = some client) :
    (s.close id).client? id = some client.close := by
  rw [Server.close, client?_update_self, hclient]
  rfl

/-- `enqueue_frame`: the answer says whether the frame was accepted. -/
theorem enqueueFrame_offered (hclient : s.client? id = some client) (now : Nat) (stamp : Stamp)
    (frame : Bytes) :
    ∃ offer after, s.Offered (s.enqueueFrame id now stamp frame).2 id client [offer] after ∧
      offer.frame = frame ∧ offer.stamp = stamp ∧
      (s.enqueueFrame id now stamp frame).1 = offer.accepted := by
  refine ⟨_, _, ⟨hclient, ?_, Extends.enqueueFrame now s.sequencer.lastSequence stamp frame client⟩,
    rfl, rfl, ?_⟩
  · simp only [Server.enqueueFrame]
    rw [client?_update_self, hclient]
    rfl
  · simp only [Server.enqueueFrame]
    rw [hclient]
    rfl

/-- `sendOrClose`: the response is offered, or there is none; it answers `true` only if the response
was accepted, and closes the client otherwise. -/
theorem sendOrClose_offered (hclient : s.client? id = some client) (now : Nat) (stamp : Stamp)
    (response : Bytes) :
    ∃ offers after, s.Offered (s.sendOrClose id now stamp response).2 id client offers after ∧
      ((s.sendOrClose id now stamp response).1 = false → after.closed = true) ∧
      ((offers = [] ∧ after.closed = true) ∨
        ∃ offer, offers = [offer] ∧ offer.frame = response ∧ response ≠ [] ∧ offer.stamp = stamp) := by
  unfold Server.sendOrClose
  by_cases hempty : response = []
  · rw [if_pos hempty]
    exact ⟨[], client.close, ⟨hclient, client?_close hclient, .close client⟩, fun _ => rfl,
      .inl ⟨rfl, rfl⟩⟩
  rw [if_neg hempty]
  obtain ⟨offer, after, ⟨-, hafter, hextends⟩, hframe, hstamp, hqueued⟩ :=
    enqueueFrame_offered hclient now stamp response
  simp only [hqueued]
  cases haccepted : offer.accepted with
  | true =>
    rw [if_pos rfl]
    exact ⟨[offer], after, ⟨hclient, hafter, hextends⟩, by simp,
      .inr ⟨offer, rfl, hframe, hempty, hstamp⟩⟩
  | false =>
    rw [if_neg Bool.false_ne_true]
    have hclosed := hextends.trans (.close after)
    rw [List.append_nil] at hclosed
    exact ⟨[offer], after.close, ⟨hclient, client?_close hafter, hclosed⟩, fun _ => rfl,
      .inr ⟨offer, rfl, hframe, hempty, hstamp⟩⟩

theorem offerEvent_offered (issued : Issued) (last : UInt64) (client : ClientState) :
    ∃ offers : List Offer, Extends offers client (offerEvent issued last client) ∧
      ∀ offer ∈ offers, offer.OfEvent := by
  unfold offerEvent
  split
  · refine ⟨_, Extends.enqueueFrame _ _ _ _ client, ?_⟩
    intro offer hoffer
    rw [List.mem_singleton.mp hoffer]
    exact ⟨issued.event, rfl, rfl⟩
  · exact ⟨[], .refl client, by simp⟩

theorem broadcastEvent_offered (hclient : s.client? id = some client) (now : Nat)
    (eventName payloadJson : Bytes) :
    ∃ offers after, s.Offered (s.broadcastEvent now eventName payloadJson).2 id client offers after ∧
      ∀ offer ∈ offers, offer.OfEvent := by
  unfold Server.broadcastEvent
  simp only
  split
  · exact ⟨[], client, ⟨hclient, hclient, .refl client⟩, by simp⟩
  · obtain ⟨offers, hextends, hevents⟩ := offerEvent_offered
      ⟨s.sequencer.record eventName payloadJson, now⟩
      (s.sequencer.encodeEvent eventName payloadJson).2.lastSequence client
    refine ⟨offers, _, ⟨hclient, ?_, hextends⟩, hevents⟩
    have hmapped := client?_mapClients s (fun _ => offerEvent
      ⟨s.sequencer.record eventName payloadJson, now⟩
      (s.sequencer.encodeEvent eventName payloadJson).2.lastSequence) id
    rw [hclient] at hmapped
    exact hmapped

/-- The answer of the session itself. -/
theorem respond_offered (hclient : s.client? id = some client) (now : Nat) (response : Bytes) :
    ∃ offers after, s.Offered (s.respond id now response).2 id client offers after ∧
      ((s.respond id now response).1 = false → after.closed = true) ∧
      ((response = [] ∧ offers = []) ∨
        response ≠ [] ∧ ∃ offer, offers = [offer] ∧ offer.frame = response ∧ offer.stamp = .reply) := by
  unfold Server.respond
  by_cases hempty : response = []
  · rw [if_pos hempty]
    exact ⟨[], client, ⟨hclient, hclient, .refl client⟩, by simp,
      .inl ⟨hempty, rfl⟩⟩
  rw [if_neg hempty]
  obtain ⟨offer, after, hoffered, hframe, hstamp, hqueued⟩ :=
    enqueueFrame_offered hclient now .reply response
  refine ⟨[offer], after, hoffered, ?_, .inr ⟨hempty, offer, rfl, hframe, hstamp⟩⟩
  intro hrefused
  exact hoffered.2.2.refused offer List.mem_cons_self (hqueued.symm.trans hrefused)

/-- An event that is to be issued for a subscription, and the client that is closed if it cannot. -/
theorem emit_offered (hclient : s.client? id = some client) (replies : FrameReplies)
    {result : HandleResult} (haction : result.serverAction = .emitEventsSubscribed) :
    ∃ offers after, s.Offered (s.performAction id replies result).2 id client offers after ∧
      ((s.performAction id replies result).1 = false → after.closed = true) ∧
      ∀ offer ∈ offers, offer.OfEvent := by
  obtain ⟨offers, after, ⟨-, hafter, hextends⟩, hevents⟩ := broadcastEvent_offered hclient
    replies.now (text "network.events.subscribed") [openBrace, closeBrace]
  unfold Server.performAction
  simp only [haction]
  split
  · exact ⟨offers, after, ⟨hclient, hafter, hextends⟩, by simp, hevents⟩
  · have hclosed := hextends.trans (.close after)
    rw [List.append_nil] at hclosed
    exact ⟨offers, after.close, ⟨hclient, client?_close hafter, hclosed⟩, fun _ => rfl, hevents⟩

/-- An answer that the server makes. -/
theorem deferred_offered (hclient : s.client? id = some client) (replies : FrameReplies)
    (session : Session) {frame : Frame} {result : HandleResult}
    (haccepted : (parseRequest frame.payload).1 = .none)
    (hid : result.actionRequestId = (parseRequest frame.payload).2.requestId)
    (haction : result.serverAction = .sendAuthoritativeSnapshot ∨
      result.serverAction = .dispatchBusinessRequest) :
    ∃ offers after, s.Offered (s.performAction id replies result).2 id client offers after ∧
      ((s.performAction id replies result).1 = false → after.closed = true) ∧
      FrameOffers session frame after.closed offers := by
  rcases haction with haction | haction
  · unfold Server.performAction
    simp only [haction, hid]
    obtain ⟨offers, after, hoffered, hfailed, hsent⟩ := sendOrClose_offered hclient replies.now
      (.snapshot (parseRequest frame.payload).2.requestId s.generation s.sequencer.lastSequence
        replies.snapshotPayload)
      (encodeSnapshotResponse (parseRequest frame.payload).2.requestId s.generation
        s.sequencer.lastSequence replies.snapshotPayload)
    refine ⟨offers, after, hoffered, hfailed, ?_⟩
    rcases hsent with ⟨rfl, hclosed⟩ | ⟨offer, rfl, hframe, hne, hstamp⟩
    · exact .lost hclosed
    · refine .answer (by rw [hstamp]; rfl) ?_ (by simp)
      rw [hframe]
      exact answerTo_snapshot haccepted hne
  · unfold Server.performAction
    simp only [haction, hid]
    obtain ⟨offers, after, hoffered, hfailed, hsent⟩ := sendOrClose_offered hclient replies.now
      .reply (dispatchBusinessRequest replies.daemon (parseRequest frame.payload).2.requestId
        result.actionMethod result.actionParamsJson)
    refine ⟨offers, after, hoffered, hfailed, ?_⟩
    rcases hsent with ⟨rfl, hclosed⟩ | ⟨offer, rfl, hframe, hne, hstamp⟩
    · exact .lost hclosed
    · refine .answer (by rw [hstamp]; rfl) ?_ (by simp)
      rw [hframe]
      exact answerTo_business haccepted hne

theorem performAction_none (s : Server) (id : ClientId) (replies : FrameReplies)
    {result : HandleResult}
    (haction : result.serverAction = .none) :
    s.performAction id replies result = (true, s) := by
  unfold Server.performAction
  rw [haction]

/-- The end of a frame: the client is closed, or it is to be closed if the session says so. -/
def Ends (result : HandleResult) (middle after : ClientState) : Prop :=
  (after = middle ∧ middle.closed = true) ∨
    after = { middle with closeAfterFlush := middle.closeAfterFlush || result.closeAfterSend }

/-- Answer and action one after the other; the action is not taken if the answer was refused. -/
theorem finishFrame_offered {replies : FrameReplies} {result : HandleResult} {offers more : List Offer}
    {middle last : ClientState}
    (hrespond : s.Offered (s.respond id replies.now result.response).2 id client offers middle)
    (hfailed : (s.respond id replies.now result.response).1 = false → middle.closed = true)
    (haction : (s.respond id replies.now result.response).2.Offered
      ((s.respond id replies.now result.response).2.performAction id replies result).2 id middle more
      last)
    (hfailed' : ((s.respond id replies.now result.response).2.performAction id replies result).1 =
      false → last.closed = true) :
    ∃ after, (s.finishFrame id replies result).2.client? id = some after ∧
      ((Ends result middle after ∧ middle.closed = true) ∨ Ends result last after) := by
  unfold Server.finishFrame
  simp only
  cases hsent : (s.respond id replies.now result.response).1 with
  | false => exact ⟨middle, hrespond.2.1, .inl ⟨.inl ⟨rfl, hfailed hsent⟩, hfailed hsent⟩⟩
  | true =>
    cases hperformed :
        ((s.respond id replies.now result.response).2.performAction id replies result).1 with
    | false => exact ⟨last, haction.2.1, .inr (.inl ⟨rfl, hfailed' hperformed⟩)⟩
    | true =>
      refine ⟨_, ?_, .inr (.inr rfl)⟩
      simp only [Bool.not_true, Bool.false_eq_true, if_false]
      rw [client?_update_self, haction.2.1]
      rfl

/-- **What one frame does to its client.** -/
theorem finishFrame_spec (hclient : s.client? id = some client) (replies : FrameReplies)
    (session : Session) (frame : Frame) :
    ∃ offers middle after,
      (s.finishFrame id replies (session.handleFrame frame).1).2.client? id = some after ∧
        Extends offers client middle ∧ Ends (session.handleFrame frame).1 middle after ∧
        FrameOffers session frame middle.closed offers := by
  generalize hresult : (session.handleFrame frame).1 = result
  have houtcome := handleFrame_outcome session frame
  rw [hresult] at houtcome
  obtain ⟨offers, middle, hrespond, hfailed, hsent⟩ :=
    respond_offered hclient replies.now result.response
  have hmiddle := hrespond.2.1
  -- without an action the record is done with the answer
  have hdone : result.serverAction = .none →
      ∃ after, (s.finishFrame id replies result).2.client? id = some after ∧
        Ends result middle after := by
    intro hnone
    have haction := performAction_none (s.respond id replies.now result.response).2 id replies hnone
    obtain ⟨after, hafter, hends⟩ := finishFrame_offered hrespond hfailed
      (by rw [haction]; exact ⟨hmiddle, hmiddle, .refl middle⟩) (by rw [haction]; simp)
    exact ⟨after, hafter, hends.elim And.left fun h => h⟩
  cases houtcome with
  | silent hresponse haction =>
    obtain ⟨after, hafter, hends⟩ := hdone haction
    rcases hsent with ⟨-, rfl⟩ | ⟨hne, -⟩
    · refine ⟨[], middle, after, hafter, hrespond.2.2, hends, .silent ?_ ?_⟩
      · rw [hresult]
        exact hresponse
      · rw [hresult]
        exact haction
    · exact absurd hresponse hne
  | answer hanswer haction =>
    rcases hsent with ⟨hnil, -⟩ | ⟨-, offer, rfl, hframe, hstamp⟩
    · exact absurd hnil hanswer.ne_nil
    have hisAnswer : offer.stamp.isAnswer = true := by
      rw [hstamp]
      rfl
    rw [← hframe] at hanswer
    rcases haction with haction | haction
    · obtain ⟨after, hafter, hends⟩ := hdone haction
      exact ⟨[offer], middle, after, hafter, hrespond.2.2, hends, .answer hisAnswer hanswer (by simp)⟩
    · obtain ⟨events, last, hemit, hfailed', hevents⟩ := emit_offered hmiddle replies haction
      obtain ⟨after, hafter, hends⟩ := finishFrame_offered hrespond hfailed hemit hfailed'
      rcases hends with ⟨hends, -⟩ | hends
      · exact ⟨[offer], middle, after, hafter, hrespond.2.2, hends,
          .answer hisAnswer hanswer (by simp)⟩
      · exact ⟨offer :: events, last, after, hafter, hrespond.2.2.trans hemit.2.2, hends,
          .answer hisAnswer hanswer hevents⟩
  | deferred haccepted hresponse hid haction =>
    obtain ⟨more, last, hdeferred, hfailed', hoffers⟩ :=
      deferred_offered hmiddle replies session haccepted hid haction
    obtain ⟨after, hafter, hends⟩ := finishFrame_offered hrespond hfailed hdeferred hfailed'
    rcases hsent with ⟨-, rfl⟩ | ⟨hne, -⟩
    · rcases hends with ⟨hends, hclosed⟩ | hends
      · exact ⟨[], middle, after, hafter, hrespond.2.2, hends, .lost hclosed⟩
      · exact ⟨more, last, after, hafter, hrespond.2.2.trans hdeferred.2.2, hends, hoffers⟩
    · exact absurd hresponse hne

end Server

/-- The record of a client whose frame has been taken and handled. -/
def ClientState.taken (client : ClientState) (session : Session) (frame : Frame)
    (decoder : FrameDecoder) : ClientState :=
  { client with
    decoder := decoder
    session := some (session.handleFrame frame).2
    history := client.history ++ [.handled frame] }

/-- What `process_v1_frame` does to the record of its client. -/
theorem Server.processV1Frame_spec {s : Server} {id : ClientId} {client : ClientState}
    (hclient : s.client? id = some client) {session : Session} {frame : Frame}
    {decoder : FrameDecoder} (hsession : client.session = some session)
    (htake : client.decoder.takeFrame = some (frame, decoder)) (hopen : client.closed = false)
    (replies : FrameReplies) :
    ∃ offers middle after, (s.processV1Frame id replies).2.client? id = some after ∧
      Extends offers (client.taken session frame decoder) middle ∧
      Ends (session.handleFrame frame).1 middle after ∧
      FrameOffers session frame middle.closed offers := by
  have hprocess : s.processV1Frame id replies =
      (s.takeFrame id frame decoder (session.handleFrame frame).2).finishFrame id replies
        (session.handleFrame frame).1 := by
    unfold Server.processV1Frame
    simp only [hclient, hsession, htake, hopen, Bool.false_eq_true, if_false]
  rw [hprocess]
  refine finishFrame_spec ?_ replies session frame
  unfold Server.takeFrame
  rw [client?_update_self, hclient]
  rfl

end NetworkService.Ipc
