import NetworkService.Ipc.EventStream
import NetworkService.Ipc.ReactorFrames

/-!
# The reactor runs the intakes of its clients

For each function of the reactor: whatever it does to the record of a client is a run of the intake
of that client.  So every client of every run of the reactor has run its intake from the start.
-/

namespace NetworkService.Ipc

open Relation Execution

/-! ### Changes of a record that are none of its intake -/

theorem intake_run_of_calm {before after : ClientState}
    (hprotocol : after.protocol = before.protocol) (hinitial : after.initial = before.initial)
    (hv0Request : after.v0Request = before.v0Request) (hsession : after.session = before.session)
    (hdecoder : after.decoder = before.decoder)
    (hflush : after.closeAfterFlush = before.closeAfterFlush)
    (hlog : after.history.filterMap ClientEvent.intake? =
      before.history.filterMap ClientEvent.intake?)
    (hclosed : before.closed = true → after.closed = true) :
    IntakeRun before.intake after.intake := by
  unfold ClientState.intake
  rw [hprotocol, hinitial, hv0Request, hsession, hdecoder, hflush, hlog]
  cases hafter : after.closed with
  | false =>
    cases hbefore : before.closed with
    | false => exact .refl
    | true => cases hafter.symm.trans (hclosed hbefore)
  | true => exact .single (.close _)

theorem Still.intake {before after : ClientState} (h : Still before after) :
    IntakeRun before.intake after.intake :=
  intake_run_of_calm h.protocol h.initial h.v0Request h.session h.decoder h.closeAfterFlush
    (by rw [h.history]) h.closed

theorem Offer.OfEvent.answer? {offer : Offer} (h : offer.OfEvent) : offer.answer? = none := by
  obtain ⟨event, hstamp, -⟩ := h
  simp [Offer.answer?, hstamp, Stamp.isAnswer]

/-- The log of offers is the log of the answers among them. -/
theorem filterMap_offered (offers : List Offer) :
    (offers.map ClientEvent.offered).filterMap ClientEvent.intake? =
      (offers.filterMap Offer.answer?).map .answered := by
  induction offers with
  | nil => rfl
  | cons offer offers ih =>
    rw [List.map_cons, List.filterMap_cons, List.filterMap_cons, ih]
    cases hanswer : offer.answer? with
    | none => simp [ClientEvent.intake?, hanswer]
    | some answer => simp [ClientEvent.intake?, hanswer]

theorem Extends.log {offers : List Offer} {before after : ClientState}
    (h : Extends offers before after) :
    after.history.filterMap ClientEvent.intake? = before.history.filterMap ClientEvent.intake? ++
      (offers.filterMap Offer.answer?).map .answered := by
  rw [h.history, List.filterMap_append, filterMap_offered]

theorem answers_of_events {offers : List Offer} (h : ∀ offer ∈ offers, offer.OfEvent) :
    offers.filterMap Offer.answer? = [] := by
  rw [List.filterMap_eq_nil_iff]
  exact fun offer hoffer => (h offer hoffer).answer?

theorem intake_offerEvent (issued : Issued) (last : UInt64) (client : ClientState) :
    IntakeRun client.intake (Server.offerEvent issued last client).intake := by
  obtain ⟨offers, h, hevents⟩ := Server.offerEvent_offered issued last client
  refine intake_run_of_calm h.protocol h.initial h.v0Request h.session h.decoder h.closeAfterFlush
    ?_ h.closed
  rw [h.log, answers_of_events hevents, List.map_nil, List.append_nil]

theorem intake_offerAll (new : List Issued) (client : ClientState) :
    IntakeRun client.intake (offerAll new client).intake := by
  induction new generalizing client with
  | nil => exact .refl
  | cons issued new ih => exact (intake_offerEvent issued _ client).trans (ih _)

/-! ### Runs of one client -/

/-- The record of client `id` stays, and its intake has run. -/
def Server.Runs (id : ClientId) (s t : Server) : Prop :=
  ∀ client, s.client? id = some client →
    ∃ after, t.client? id = some after ∧ IntakeRun client.intake after.intake

namespace Server.Runs

variable {id : ClientId} {s t u : Server}

theorem refl : Runs id s s := fun client hclient => ⟨client, hclient, .refl⟩

theorem trans (h : Runs id s t) (h' : Runs id t u) : Runs id s u := by
  intro client hclient
  obtain ⟨middle, hmiddle, hrun⟩ := h client hclient
  obtain ⟨after, hafter, hrun'⟩ := h' middle hmiddle
  exact ⟨after, hafter, hrun.trans hrun'⟩

theorem update {f : ClientState → ClientState}
    (hf : ∀ client, s.client? id = some client → IntakeRun client.intake (f client).intake) :
    Runs id s (s.update id f) := by
  intro client hclient
  refine ⟨f client, ?_, hf client hclient⟩
  rw [client?_update_self, hclient]
  rfl

theorem still {f : ClientState → ClientState} (hf : ∀ client, Still client (f client)) :
    Runs id s (s.update id f) :=
  update fun client _ => (hf client).intake

theorem close : Runs id s (s.close id) := still .close

end Server.Runs

theorem intake_open {client : ClientState} (hclosed : client.closed = false)
    (hflush : client.closeAfterFlush = false) : client.intake.stopped = false := by
  simp [ClientState.intake, hclosed, hflush]

/-- The answers among the offers of a frame. -/
theorem FrameOffers.answersTo {session : Session} {frame : Frame} {offers : List Offer}
    {before after : ClientState} (h : FrameOffers session frame after.closed offers)
    (hextends : Extends offers before after) :
    AnswersTo session frame after.closed (offers.filterMap Offer.answer?) := by
  cases h with
  | @answer offer events hstamp hanswer hevents =>
    rw [List.filterMap_cons, answers_of_events hevents]
    cases haccepted : offer.accepted with
    | true => simpa [Offer.answer?, haccepted, hstamp] using AnswersTo.one hanswer
    | false =>
      have hclosed := hextends.refused offer List.mem_cons_self haccepted
      simpa [Offer.answer?, haccepted] using AnswersTo.lost hclosed
  | lost hclosed => exact .lost hclosed
  | silent hresponse haction => exact .silent hresponse haction

/-! ### Frames -/

theorem intake_handle {client middle after : ClientState} {session : Session} {frame : Frame}
    {decoder : FrameDecoder} {offers : List Offer} (hflush : client.closeAfterFlush = false)
    (hextends : Extends offers (client.taken session frame decoder) middle)
    (hends : Server.Ends (session.handleFrame frame).1 middle after) :
    after.intake = client.intake.handle session frame decoder (offers.filterMap Offer.answer?)
      middle.closed := by
  have hlog := hextends.log
  have hprotocol := hextends.protocol
  have hinitial := hextends.initial
  have hv0Request := hextends.v0Request
  have hsession := hextends.session
  have hdecoder := hextends.decoder
  have hcloses := hextends.closeAfterFlush
  simp only [ClientState.taken, List.filterMap_append, List.filterMap_cons, ClientEvent.intake?,
    List.filterMap_nil] at hlog
  simp only [ClientState.taken, hflush] at hprotocol hinitial hv0Request hsession hdecoder hcloses
  rcases hends with ⟨rfl, hclosed⟩ | rfl
  · simp [ClientState.intake, Intake.handle, hlog, hprotocol, hinitial, hv0Request, hsession, hdecoder,
      hclosed]
  · simp [ClientState.intake, Intake.handle, hlog, hprotocol, hinitial, hv0Request, hsession, hdecoder,
      hcloses]

namespace Server.Runs

variable {id : ClientId} {s : Server}

theorem processV1Frame {client : ClientState} (hclient : s.client? id = some client)
    (hopen : client.closed = false) (hflush : client.closeAfterFlush = false)
    (replies : FrameReplies) : Runs id s (s.processV1Frame id replies).2 := by
  intro other hother
  obtain rfl := Option.some.inj (hclient.symm.trans hother)
  cases hsession : client.session with
  | none =>
    refine ⟨client, ?_, .refl⟩
    unfold Server.processV1Frame
    simp only [hclient, hsession]
  | some session =>
    cases htake : client.decoder.takeFrame with
    | none =>
      refine ⟨client, ?_, .refl⟩
      unfold Server.processV1Frame
      simp only [hclient, hsession, htake]
    | some taken =>
      obtain ⟨frame, decoder⟩ := taken
      obtain ⟨offers, middle, after, hafter, hextends, hends, hoffers⟩ :=
        Server.processV1Frame_spec hclient hsession htake hopen replies
      refine ⟨after, hafter, .single ?_⟩
      rw [intake_handle hflush hextends hends]
      exact .handle (intake_open hopen hflush) hsession htake (hoffers.answersTo hextends)

theorem serviceLoop (replies : Nat → FrameReplies) (turns : Nat) :
    Runs id s (Server.serviceLoop id replies turns s) := by
  induction turns generalizing s with
  | zero => exact refl
  | succ turns ih =>
    unfold Server.serviceLoop
    split
    · exact refl
    next client hclient =>
      split
      · exact refl
      next hgo =>
        simp only [Bool.or_eq_true, not_or, Bool.not_eq_true] at hgo
        have hframe := processV1Frame hclient hgo.1.1.1 hgo.1.1.2 (replies turns)
        simp only
        split
        · exact hframe
        · exact (hframe.trans (still (Still.flushPending _))).trans ih

theorem serviceBufferedV1 (replies : Nat → FrameReplies) :
    Runs id s (s.serviceBufferedV1 id replies) := by
  unfold Server.serviceBufferedV1
  split
  · exact refl
  · split
    · exact refl
    · exact serviceLoop replies _

end Server.Runs

/-! ### Bytes -/

/-- A request line is answered, and the client is to be closed. -/
theorem Server.completeV0_requests {s : Server} {id : ClientId} {client : ClientState}
    (hclient : s.client? id = some client) (hv0 : client.protocol = .v0)
    (hopen : client.closed = false) (hflush : client.closeAfterFlush = false)
    (hline : ascii '\n' ∈ client.v0Request) (reply : ReceiveReply) :
    ∃ after, (s.completeV0IfReady id reply).client? id = some after ∧
      IntakeRun { client.intake with
        stopped := true
        log := client.intake.log ++ [.requested client.v0Request] } after.intake := by
  obtain ⟨requested, hrequested⟩ : ∃ requested : ClientState, requested =
      { client with history := client.history ++ [.requested client.v0Request] } := ⟨_, rfl⟩
  have hupdated : (s.update id fun client =>
      { client with history := client.history ++ [.requested client.v0Request] }).client? id =
        some requested := by
    rw [client?_update_self, hclient, hrequested]
    rfl
  obtain ⟨offer, queued, ⟨-, hqueued, hextends⟩, -, hstamp, haccepted⟩ :=
    enqueueFrame_offered hupdated reply.now .line reply.v0Response
  have hanswers : [offer].filterMap Offer.answer? = [] := by
    simp [Offer.answer?, hstamp, Stamp.isAnswer]
  have hlog := hextends.log
  rw [hanswers, hrequested, List.map_nil, List.append_nil, List.filterMap_append] at hlog
  have hprotocol : queued.protocol = client.protocol := by rw [hextends.protocol, hrequested]
  have hinitial : queued.initial = client.initial := by rw [hextends.initial, hrequested]
  have hv0Request : queued.v0Request = client.v0Request := by rw [hextends.v0Request, hrequested]
  have hsession : queued.session = client.session := by rw [hextends.session, hrequested]
  have hdecoder : queued.decoder = client.decoder := by rw [hextends.decoder, hrequested]
  have hcomplete : s.completeV0IfReady id reply =
      if offer.accepted then
        ((s.update id fun client =>
          { client with history := client.history ++ [.requested client.v0Request] }).enqueueFrame id
            reply.now .line reply.v0Response).2.update id fun client =>
              { client with closeAfterFlush := true }.flushClient reply.v0Flush
      else
        ((s.update id fun client =>
          { client with history := client.history ++ [.requested client.v0Request] }).enqueueFrame id
            reply.now .line reply.v0Response).2 := by
    unfold Server.completeV0IfReady
    rw [hclient]
    simp only [hv0, hopen, hflush, ne_eq, not_true, Bool.false_eq_true, or_self, if_false, hline,
      haccepted]
  rw [hcomplete]
  cases hoffer : offer.accepted with
  | true =>
    rw [if_pos rfl, client?_update_self, hqueued]
    refine ⟨_, rfl, ?_⟩
    refine ReflTransGen.trans ?_ (Still.flushClient reply.v0Flush _).intake
    unfold ClientState.intake
    simp only [hprotocol, hinitial, hv0Request, hsession, hdecoder, hlog, hopen, Bool.or_true]
    cases queued.closed with
    | false => exact .refl
    | true => exact .single (.close _)
  | false =>
    rw [if_neg Bool.false_ne_true]
    have hclosed := hextends.refused offer List.mem_cons_self hoffer
    refine ⟨queued, hqueued, ?_⟩
    unfold ClientState.intake
    simp only [hprotocol, hinitial, hv0Request, hsession, hdecoder, hlog, hclosed, hopen]
    exact .single (.close _)

/-- The end of the reading of a line. -/
theorem Server.completeV0_runs {s : Server} {id : ClientId} {client : ClientState} {i : Intake}
    {data : Bytes} (hclient : s.client? id = some client) (hi : i.closed = false)
    (hstopped : i.stopped = false) (hflush : client.closeAfterFlush = false)
    (hclosed : client.closed = decide (kMaxRequestBytes < client.v0Request.length))
    (hintake : client.intake =
      { i with
        protocol := .v0
        v0Request := client.v0Request
        stopped := client.closed
        closed := client.closed
        log := i.log ++ [.received data] }) (reply : ReceiveReply) :
    ∃ after, (s.completeV0IfReady id reply).client? id = some after ∧
      IntakeRun (i.receiveLine data client.v0Request) after.intake := by
  have hv0 : client.protocol = .v0 := congrArg Intake.protocol hintake
  have hstay : (client.closed = true ∨ ascii '\n' ∉ client.v0Request) →
      s.completeV0IfReady id reply = s := by
    intro hwhy
    unfold Server.completeV0IfReady
    rw [hclient]
    simp only
    rcases hwhy with hwhy | hwhy
    · rw [if_pos (.inr (.inl hwhy))]
    · by_cases hstop : client.protocol ≠ .v0 ∨ client.closed = true ∨ client.closeAfterFlush = true
      · rw [if_pos hstop]
      · rw [if_neg hstop, if_pos hwhy]
  unfold Intake.receiveLine
  simp only
  by_cases hlarge : kMaxRequestBytes < client.v0Request.length
  · rw [decide_eq_true hlarge] at hclosed
    rw [if_pos hlarge, hstay (.inl hclosed)]
    refine ⟨client, hclient, ?_⟩
    rw [hintake, hclosed]
    exact .refl
  rw [decide_eq_false hlarge] at hclosed
  rw [if_neg hlarge]
  by_cases hline : ascii '\n' ∉ client.v0Request
  · rw [if_pos hline, hstay (.inr hline)]
    refine ⟨client, hclient, ?_⟩
    rw [hintake, hclosed, hi, hstopped]
  · rw [if_neg hline]
    obtain ⟨after, hafter, hrun⟩ := completeV0_requests hclient hv0 hclosed hflush
      (Decidable.not_not.mp hline) reply
    refine ⟨after, hafter, ?_⟩
    rw [hintake, hclosed] at hrun
    simp only [List.append_assoc, List.singleton_append] at hrun
    rw [← hi] at hrun
    exact hrun

/-- The record of a client whose protocol is not known yet, with more bytes. -/
def ClientState.filled (client : ClientState) (data : Bytes) : ClientState :=
  { client with
    initial := client.initial ++ data
    closed := client.closed || decide (kMaxRequestBytes < (client.initial ++ data).length)
    history := client.history ++ [.received data] }

theorem ClientState.intake_filled {client : ClientState} (hopen : client.closed = false)
    (hflush : client.closeAfterFlush = false) (data : Bytes) :
    (client.filled data).intake =
      { client.intake with
        initial := client.initial ++ data
        stopped := decide (kMaxRequestBytes < (client.initial ++ data).length)
        closed := decide (kMaxRequestBytes < (client.initial ++ data).length)
        log := client.intake.log ++ [.received data] } := by
  unfold ClientState.intake ClientState.filled
  simp only [hopen, hflush, Bool.false_or, Bool.or_false, List.filterMap_append]
  rfl

def ClientState.committedV1 (client : ClientState) (session : Session) (initial : Bytes) :
    ClientState :=
  { client with
    protocol := .v1
    session := some session
    decoder := (client.decoder.feed initial).2
    initial := []
    closed := client.closed || (client.decoder.feed initial).1 == .error }

theorem Server.client?_commitV1 (s : Server) (id : ClientId) (initial : Bytes) :
    (s.commitV1 id initial).client? id = (s.client? id).map fun client =>
      client.committedV1 (Session.create s.generation s.sessionIdText) initial :=
  client?_update_self s id fun client =>
    client.committedV1 (Session.create s.generation s.sessionIdText) initial

def ClientState.committedV0 (client : ClientState) (initial : Bytes) : ClientState :=
  { client with
    protocol := .v0
    v0Request := initial
    initial := []
    closed := client.closed || decide (kMaxRequestBytes < initial.length) }

theorem Server.client?_commitV0 (s : Server) (id : ClientId) (initial : Bytes) :
    (s.commitV0 id initial).client? id = (s.client? id).map (·.committedV0 initial) :=
  client?_update_self s id (·.committedV0 initial)

theorem ClientState.intake_committedV1 {client : ClientState} {data : Bytes}
    (hopen : client.closed = false) (hflush : client.closeAfterFlush = false)
    (hsmall : ¬kMaxRequestBytes < (client.initial ++ data).length) (session : Session) :
    ((client.filled data).committedV1 session (client.initial ++ data)).intake =
      { client.intake with initial := [] }.receiveFrames (some session) data
        (client.initial ++ data) := by
  unfold ClientState.intake ClientState.committedV1 ClientState.filled Intake.receiveFrames
  simp only [hopen, hflush, decide_eq_false hsmall, Bool.false_or, Bool.or_false,
    List.filterMap_append]
  rfl

theorem ClientState.intake_committedV0 {client : ClientState} {data : Bytes}
    (hopen : client.closed = false) (hflush : client.closeAfterFlush = false)
    (hsmall : ¬kMaxRequestBytes < (client.initial ++ data).length) :
    ((client.filled data).committedV0 (client.initial ++ data)).intake =
      { client.intake with
        protocol := .v0
        initial := []
        v0Request := client.initial ++ data
        stopped := false
        closed := false
        log := client.intake.log ++ [.received data] } := by
  unfold ClientState.intake ClientState.committedV0 ClientState.filled
  simp only [hopen, hflush, decide_eq_false hsmall, Bool.or_false, List.filterMap_append]
  rfl

theorem freshSession_create (s : Server) :
    FreshSession (Session.create s.generation s.sessionIdText) where
  state := rfl
  unsubscribed := rfl
  sessionId := by
    have hgeneration := length_decimal_le s.generation
    have hsequence := length_decimal_le s.nextSessionSequence
    have hfront : (text "ns-").length = 3 := by decide
    have hbetween : (text "-").length = 1 := by decide
    simp only [Session.create, Server.sessionIdText]
    rw [List.length_append, List.length_append, List.length_append, hfront, hbetween]
    omega

namespace Server.Runs

variable {id : ClientId} {s : Server} {client : ClientState}

/-- The first bytes of a client: too many, too few, or enough to know the protocol. -/
theorem acceptUndecided (hclient : s.client? id = some client)
    (hundecided : client.protocol = .undecided) (hopen : client.closed = false)
    (hflush : client.closeAfterFlush = false) {data : Bytes} (hdata : data ≠ [])
    (hsize : data.length ≤ kReceiveBuffer) (reply : ReceiveReply) :
    Runs id s (s.acceptBytes id reply data) := by
  intro other hother
  obtain rfl := Option.some.inj (hclient.symm.trans hother)
  have hstep : IntakeStep client.intake
      (client.intake.receive (Session.create s.generation s.sessionIdText) data) :=
    .receive (intake_open hopen hflush) (freshSession_create s) hdata hsize
  have hupdated : (s.update id (·.filled data)).client? id = some (client.filled data) := by
    rw [client?_update_self, hclient]
    rfl
  have haccept : s.acceptBytes id reply data =
      (s.update id (·.filled data)).commitProtocolIfPossible id reply := by
    unfold Server.acceptBytes
    rw [hclient, Option.map_some, hundecided]
    rfl
  have hclosed : (client.filled data).closed =
      decide (kMaxRequestBytes < (client.initial ++ data).length) := by
    simp only [ClientState.filled, hopen, Bool.false_or]
  have hprotocol : (client.filled data).protocol = .undecided := hundecided
  unfold Intake.receive at hstep
  rw [show client.intake.protocol = .undecided from hundecided] at hstep
  simp only [show client.intake.initial = client.initial from rfl] at hstep
  rw [haccept]
  unfold Server.commitProtocolIfPossible
  rw [hupdated]
  simp only [hprotocol, ne_eq, not_true, false_or, hclosed, decide_eq_true_eq]
  rw [show (client.filled data).initial = client.initial ++ data from rfl]
  have hintake := client.intake_filled hopen hflush data
  simp only at hintake
  by_cases hlarge : kMaxRequestBytes < (client.initial ++ data).length
  · rw [if_pos hlarge] at hstep
    rw [if_pos (.inr hlarge)]
    refine ⟨client.filled data, hupdated, .single ?_⟩
    rw [hintake, decide_eq_true hlarge]
    exact hstep
  rw [if_neg hlarge] at hstep
  rw [decide_eq_false hlarge] at hintake hclosed
  by_cases hshort : (client.initial ++ data).length < kMagic.length
  · rw [if_pos hshort] at hstep
    rw [if_pos (.inl hshort)]
    refine ⟨client.filled data, hupdated, .single ?_⟩
    rw [intake_open hopen hflush, show client.intake.closed = false from hopen] at hstep
    rw [hintake, show client.intake.protocol = .undecided from hundecided]
    exact hstep
  rw [if_neg hshort] at hstep
  rw [if_neg (not_or.mpr ⟨hshort, hlarge⟩)]
  by_cases hmagic : Server.startsWithV1Magic (client.initial ++ data) = true
  · rw [if_pos hmagic] at hstep
    rw [if_pos hmagic]
    have hcommit := client?_commitV1 (s.update id (·.filled data)) id (client.initial ++ data)
    rw [hupdated] at hcommit
    obtain ⟨after, hafter, hrun⟩ := serviceBufferedV1 reply.first _ hcommit
    refine ⟨after, hafter, .trans (.single hstep) ?_⟩
    have hframes := ClientState.intake_committedV1 hopen hflush hlarge
      (Session.create s.generation s.sessionIdText)
    have hserved : IntakeRun ((client.filled data).committedV1
        (Session.create s.generation s.sessionIdText) (client.initial ++ data)).intake
          after.intake := hrun
    rw [hframes] at hserved
    exact hserved
  · rw [if_neg hmagic] at hstep
    rw [if_neg hmagic]
    have hcommit := client?_commitV0 (s.update id (·.filled data)) id (client.initial ++ data)
    rw [hupdated, Option.map_some] at hcommit
    have hcommitted : ((client.filled data).committedV0 (client.initial ++ data)).closed = false := by
      simp only [ClientState.committedV0, hclosed, decide_eq_false hlarge, Bool.false_or]
    obtain ⟨after, hafter, hrun⟩ := completeV0_runs (i := { client.intake with initial := [] })
      hcommit hopen (intake_open hopen hflush) hflush
      (hcommitted.trans (decide_eq_false hlarge).symm)
      (by
        rw [hcommitted]
        exact ClientState.intake_committedV0 hopen hflush hlarge) reply
    exact ⟨after, hafter, .trans (.single hstep) hrun⟩

theorem acceptLine (hclient : s.client? id = some client) (hv0 : client.protocol = .v0)
    (hopen : client.closed = false) (hflush : client.closeAfterFlush = false) {data : Bytes} (hdata : data ≠ [])
    (hsize : data.length ≤ kReceiveBuffer) (reply : ReceiveReply) :
    Runs id s (s.acceptBytes id reply data) := by
  intro other hother
  obtain rfl := Option.some.inj (hclient.symm.trans hother)
  have hstep : IntakeStep client.intake
      (client.intake.receive (Session.create s.generation s.sessionIdText) data) :=
    .receive (intake_open hopen hflush) (freshSession_create s) hdata hsize
  unfold Intake.receive at hstep
  rw [show client.intake.protocol = .v0 from hv0] at hstep
  obtain ⟨longer, hlonger⟩ : ∃ longer : ClientState, longer =
      { client with
        v0Request := client.v0Request ++ data
        closed := client.closed || decide (kMaxRequestBytes < (client.v0Request ++ data).length)
        history := client.history ++ [.received data] } := ⟨_, rfl⟩
  have hupdated : (s.update id fun client =>
      { client with
        v0Request := client.v0Request ++ data
        closed := client.closed || decide (kMaxRequestBytes < (client.v0Request ++ data).length)
        history := client.history ++ [.received data] }).client? id = some longer := by
    rw [client?_update_self, hclient, hlonger]
    rfl
  have hrequest : longer.v0Request = client.v0Request ++ data := by rw [hlonger]
  have hclosed : longer.closed = decide (kMaxRequestBytes < longer.v0Request.length) := by
    rw [hlonger, hopen]
    exact Bool.false_or _
  have hflush' : longer.closeAfterFlush = false := by
    rw [hlonger]
    exact hflush
  have hintake : longer.intake =
      { client.intake with
        protocol := .v0
        v0Request := longer.v0Request
        stopped := longer.closed
        closed := longer.closed
        log := client.intake.log ++ [.received data] } := by
    unfold ClientState.intake
    simp only [hflush', Bool.or_false]
    rw [hlonger]
    simp only [hv0, List.filterMap_append]
    rfl
  obtain ⟨after, hafter, hrun⟩ := completeV0_runs hupdated hopen (intake_open hopen hflush) hflush'
    hclosed hintake reply
  refine ⟨after, ?_, .trans (.single hstep) ?_⟩
  · unfold Server.acceptBytes
    rw [hclient, Option.map_some, hv0]
    exact hafter
  · rw [hrequest] at hrun
    exact hrun

theorem acceptFrames (hclient : s.client? id = some client) (hv1 : client.protocol = .v1)
    (hopen : client.closed = false) (hflush : client.closeAfterFlush = false) {data : Bytes} (hdata : data ≠ [])
    (hsize : data.length ≤ kReceiveBuffer) (reply : ReceiveReply) :
    Runs id s (s.acceptBytes id reply data) := by
  have haccept : s.acceptBytes id reply data =
      (s.update id fun client =>
        { client with
          decoder := (client.decoder.feed data).2
          closed := client.closed || (client.decoder.feed data).1 == .error
          history := client.history ++ [.received data] }).serviceBufferedV1 id reply.first := by
    unfold Server.acceptBytes
    rw [hclient, Option.map_some, hv1]
  rw [haccept]
  refine trans (update ?_) (serviceBufferedV1 _)
  intro other hother
  obtain rfl := Option.some.inj (hclient.symm.trans hother)
  have hstep : IntakeStep client.intake
      (client.intake.receive (Session.create s.generation s.sessionIdText) data) :=
    .receive (intake_open hopen hflush) (freshSession_create s) hdata hsize
  unfold Intake.receive at hstep
  rw [show client.intake.protocol = .v1 from hv1] at hstep
  refine .single ?_
  have hintake : ClientState.intake { client with
        decoder := (client.decoder.feed data).2
        closed := client.closed || (client.decoder.feed data).1 == .error
        history := client.history ++ [.received data] } =
      client.intake.receiveFrames client.intake.session data data := by
    unfold ClientState.intake Intake.receiveFrames
    simp only [hv1, hopen, hflush, Bool.false_or, Bool.or_false, List.filterMap_append]
    rfl
  rw [hintake]
  exact hstep

/-- The bytes of one `recv`. -/
theorem acceptBytes (hclient : s.client? id = some client) (hopen : client.closed = false)
    (hflush : client.closeAfterFlush = false) {data : Bytes} (hdata : data ≠ [])
    (hsize : data.length ≤ kReceiveBuffer) (reply : ReceiveReply) :
    Runs id s (s.acceptBytes id reply data) := by
  cases hprotocol : client.protocol with
  | undecided => exact acceptUndecided hclient hprotocol hopen hflush hdata hsize reply
  | v0 => exact acceptLine hclient hprotocol hopen hflush hdata hsize reply
  | v1 => exact acceptFrames hclient hprotocol hopen hflush hdata hsize reply

theorem receiveLoop (replies : List ReceiveReply) (budget : Nat) :
    Runs id s (Server.receiveLoop id replies budget s) := by
  induction replies generalizing budget s with
  | nil => exact refl
  | cons reply replies ih =>
    unfold Server.receiveLoop
    split
    · exact refl
    next client hclient =>
      split
      · exact refl
      next hgo =>
        simp only [not_or, Bool.not_eq_true] at hgo
        split
        · exact close
        next received hreceived =>
          dsimp only
          split
          · exact close
          next hdata =>
            have hsize : (received.take (min kReceiveBuffer budget)).length ≤ kReceiveBuffer := by
              rw [List.length_take]
              omega
            refine trans (t := s.update id fun client =>
              { client with lastInputActivity := reply.now }) (update fun _ _ => .refl) ?_
            have hclient' : (s.update id fun client =>
                { client with lastInputActivity := reply.now }).client? id =
                  some { client with lastInputActivity := reply.now } := by
              rw [client?_update_self, hclient]
              rfl
            exact (acceptBytes hclient' hgo.2.1 hgo.2.2.2 hdata hsize reply).trans
              ((serviceBufferedV1 _).trans (ih _))

theorem receivePolled (polled : PollReplies) : Runs id s (s.receivePolled id polled) := by
  unfold Server.receivePolled
  split
  · exact refl
  split
  · exact refl
  split
  · unfold Server.receiveClient
    split
    · exact refl
    · split
      · exact refl
      · exact receiveLoop _ _
  split
  · exact close
  · exact refl

theorem serviceClient (replies : Nat → FrameReplies) (flush : FlushReplies) :
    Runs id s (s.serviceClient id replies flush) :=
  (serviceBufferedV1 replies).trans (still (Still.flushPending flush))

theorem servePolled (polled : PollReplies) : Runs id s (s.servePolled id polled) := by
  unfold Server.servePolled
  split
  · exact refl
  split
  · exact close
  dsimp only
  have hflush : Runs id s
      (if polled.writable then s.update id (.flushPending polled.flush) else s) := by
    split
    · exact still (Still.flushPending _)
    · exact refl
  generalize (if polled.writable then s.update id (.flushPending polled.flush) else s) = flushed
    at hflush ⊢
  split
  · exact hflush
  have hreceive := hflush.trans (receivePolled polled)
  split
  · exact hreceive
  · exact hreceive.trans (serviceClient _ _)

end Server.Runs

/-! ### Turns -/

theorem Moves.absent {s t : Server} {id other : ClientId} (h : Moves id s t)
    (habsent : s.client? other = none) : t.client? other = none := by
  induction h with
  | refl => exact habsent
  | client _ f _ ih => rw [Server.update, Server.client?_mapClients, ih, Option.map_none]
  | session _ _ ih => exact ih
  | event _ now eventName payloadJson ih =>
    rcases Server.broadcastEvent_cases _ now eventName payloadJson with hsame | hissues
    · rw [hsame]
      exact ih
    · rw [hissues.clients, ih, Option.map_none]

theorem Turn.bystander_intake {turn : Turn} {client after : ClientState}
    (h : turn.bystander client = some after) : IntakeRun client.intake after.intake := by
  cases turn with
  | deadlines now =>
    obtain rfl := Option.some.inj h
    exact (Still.applyDeadline now client).intake
  | cleanup =>
    simp only [Turn.bystander] at h
    split at h
    · cases h
    · obtain rfl := Option.some.inj h
      exact .refl
  | shutdown => cases h
  | _ =>
    obtain rfl := Option.some.inj h
    exact .refl

/-- Whatever turn the reactor takes, a client that is there afterwards is new, or was there before
and its intake has run. -/
theorem Turn.perform_intake {s : Server} {turn : Turn} {id : ClientId} {after : ClientState}
    (h : (turn.perform s).client? id = some after) :
    (∃ now, after = .create now) ∨
      ∃ client, s.client? id = some client ∧ IntakeRun client.intake after.intake := by
  cases hclient : s.client? id with
  | some client =>
    refine .inr ⟨client, rfl, ?_⟩
    by_cases hmine : turn.addressee = some id
    · have hruns : Server.Runs id s (turn.perform s) := by
        cases turn with
        | service other replies flush =>
          obtain rfl := Option.some.inj hmine
          exact .serviceClient replies flush
        | polled other replies =>
          obtain rfl := Option.some.inj hmine
          exact .servePolled replies
        | _ => cases hmine
      obtain ⟨found, hfound, hrun⟩ := hruns client hclient
      obtain rfl := Option.some.inj (h.symm.trans hfound)
      exact hrun
    · obtain ⟨new, -, hafter⟩ := Turn.perform_bystander hclient hmine
      exact (intake_offerAll new client).trans (Turn.bystander_intake (hafter.symm.trans h))
  | none =>
    have habsent : ∀ {t : Server} {other : ClientId}, Moves other s t → t.client? id ≠ some after := by
      intro t other hmoves hfound
      rw [hmoves.absent hclient] at hfound
      cases hfound
    cases turn with
    | observe now changes =>
      refine absurd h ?_
      simp only [Turn.perform, Server.observeState]
      split
      · exact habsent (.event (.refl : Moves 0 s s) now _ _)
      · exact habsent (.refl : Moves 0 s s)
    | service other replies flush => exact absurd h (habsent (Moves.serviceClient replies flush))
    | polled other replies => exact absurd h (habsent (Moves.servePolled replies))
    | accept now =>
      rcases Server.client?_acceptClient h with hold | rfl
      · cases hclient.symm.trans hold
      · exact .inl ⟨now, rfl⟩
    | deadlines now =>
      simp only [Turn.perform, Server.applyDeadlines, Server.client?_mapClients, hclient] at h
      cases h
    | cleanup =>
      simp only [Turn.perform, Server.client?_cleanupClients, hclient] at h
      cases h
    | shutdown => cases h

/-- **Every client of a run has run its intake.** -/
theorem intake_of_reaches {history : List Turn} {s : Server}
    (h : Reaches Started reactorStep history s) {id : ClientId} {client : ClientState}
    (hclient : s.client? id = some client) : IntakeRun {} client.intake := by
  have hall := Reaches.invariant (I := fun _ s => ∀ id client, s.client? id = some client →
    IntakeRun {} client.intake) ?_ ?_ h
  · exact hall id client hclient
  · rintro s ⟨now, pid, rfl⟩ id client hclient
    cases hclient
  · intro history turn s t hs hstep id client hclient
    obtain rfl := Option.some.inj hstep
    rcases Turn.perform_intake hclient with ⟨now, rfl⟩ | ⟨before, hbefore, hrun⟩
    · exact .refl
    · exact (hs id before hbefore).trans hrun

end NetworkService.Ipc
