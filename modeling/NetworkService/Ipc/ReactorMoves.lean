import NetworkService.Ipc.Reactor

/-!
# What a turn of the reactor is made of

A turn for one client changes that client's record, in a few ways, and issues events.  `ClientMove`
says what a change of the record may do, `Moves` puts such changes and events together, and for each
function of the reactor there is a lemma that it is a sequence of moves of its client.  What holds of
every sequence of moves then holds of the reactor.
-/

namespace NetworkService.Ipc

/-! ### Looking up a client -/

namespace Server

theorem lookup_map (clients : List (ClientId × ClientState))
    (f : ClientId → ClientState → ClientState) (id : ClientId) :
    (clients.map fun entry => (entry.1, f entry.1 entry.2)).lookup id =
      (clients.lookup id).map (f id) := by
  induction clients with
  | nil => rfl
  | cons entry clients ih =>
    rw [List.map_cons, List.lookup_cons, List.lookup_cons]
    cases h : id == entry.1 with
    | true => rw [beq_iff_eq.mp h]; rfl
    | false => exact ih

@[simp] theorem client?_mapClients (s : Server) (f : ClientId → ClientState → ClientState)
    (id : ClientId) : (s.mapClients f).client? id = (s.client? id).map (f id) :=
  lookup_map s.clients f id

theorem client?_update_self (s : Server) (id : ClientId) (f : ClientState → ClientState) :
    (s.update id f).client? id = (s.client? id).map f := by
  simp [update]

theorem client?_update_ne (s : Server) {id other : ClientId} (f : ClientState → ClientState)
    (h : other ≠ id) : (s.update id f).client? other = s.client? other := by
  simp [update, h]

end Server

/-! ### Moves of one client -/

/-- The stamp of an offer is true of its frame. -/
def Offer.Honest (offer : Offer) : Prop :=
  match offer.stamp with
  | .line => offer.subscribed = false
  | .reply => Session.IsReply offer.frame
  | .event event => offer.frame = event.frame
  | .snapshot requestId generation snapshotSeq snapshot =>
    offer.frame = encodeSnapshotResponse requestId generation snapshotSeq snapshot

/-- A session exists for v1 clients only, and has been greeted before it subscribes. -/
structure ClientState.Wellformed (client : ClientState) : Prop where
  sessionV1 : client.session.isSome = true → client.protocol = .v1
  greeted : ∀ session, client.session = some session → session.Greeted

/-- An offer that is not an event, made while the server's last number is `last`. -/
structure FairOffer (generation last : UInt64) (after : ClientState) (offer : Offer) : Prop where
  lastSequence : offer.lastSequence = last
  subscribed : offer.subscribed = true → after.subscribed = true
  refused : offer.accepted = false → after.closed = true
  notEvent : ∀ event, offer.stamp ≠ .event event
  watermark : ∀ requestId g n snapshot, offer.stamp = .snapshot requestId g n snapshot →
    g = generation ∧ n = last
  honest : offer.Honest

/-- What the reactor may do to the record of a client between two events. -/
structure ClientMove (generation last : UInt64) (before after : ClientState) : Prop where
  wellformed : after.Wellformed
  subscribed : before.subscribed = true → after.subscribed = true
  receives : before.subscribed = true → after.receivesEvents = true → before.receivesEvents = true
  offers : after.offers = before.offers ∨
    ∃ offer, after.offers = before.offers ++ [offer] ∧ FairOffer generation last after offer

theorem ClientState.receivesEvents_iff (client : ClientState) :
    client.receivesEvents = true ↔
      client.closed = false ∧ client.protocol = .v1 ∧ client.sessionReady = true ∧
        client.subscribed = true := by
  simp [ClientState.receivesEvents, and_assoc]

theorem ClientState.offers_append (client : ClientState) (event : ClientEvent) :
    (client.history ++ [event]).filterMap ClientEvent.offer? =
      client.offers ++ event.offer?.toList := by
  rw [List.filterMap_append]
  cases h : event.offer? <;> simp [ClientState.offers, h]

/-- What `enqueue_frame` records: the frame, and whether the queue accepted it. -/
theorem ClientState.offers_enqueueFrame (client : ClientState) (now : Nat) (last : UInt64)
    (stamp : Stamp) (frame : Bytes) :
    (client.enqueueFrame now last stamp frame).2.offers =
      client.offers ++ [⟨frame, stamp, (client.enqueueFrame now last stamp frame).1, last,
        client.subscribed⟩] := by
  have happend (accepted : Bool) := client.offers_append
    (.offered ⟨frame, stamp, accepted, last, client.subscribed⟩)
  unfold ClientState.enqueueFrame
  simp only
  split
  next hacc =>
    rw [hacc]
    exact happend true
  next hacc =>
    rw [Bool.not_eq_true] at hacc
    rw [hacc]
    exact happend false

theorem ClientState.session_enqueueFrame (client : ClientState) (now : Nat) (last : UInt64)
    (stamp : Stamp) (frame : Bytes) :
    (client.enqueueFrame now last stamp frame).2.session = client.session ∧
      (client.enqueueFrame now last stamp frame).2.protocol = client.protocol := by
  unfold ClientState.enqueueFrame
  simp only
  split <;> exact ⟨rfl, rfl⟩

theorem ClientState.subscribed_enqueueFrame (client : ClientState) (now : Nat) (last : UInt64)
    (stamp : Stamp) (frame : Bytes) :
    (client.enqueueFrame now last stamp frame).2.subscribed = client.subscribed := by
  unfold ClientState.subscribed
  rw [(client.session_enqueueFrame now last stamp frame).1]

/-- A frame that the queue refuses closes the client; no frame opens it. -/
theorem ClientState.closed_enqueueFrame (client : ClientState) (now : Nat) (last : UInt64)
    (stamp : Stamp) (frame : Bytes) :
    (client.enqueueFrame now last stamp frame).2.closed =
      (client.closed || !(client.enqueueFrame now last stamp frame).1) := by
  unfold ClientState.enqueueFrame
  simp only
  split <;> simp

theorem ClientState.Wellformed.enqueueFrame {client : ClientState} (h : client.Wellformed)
    (now : Nat) (last : UInt64) (stamp : Stamp) (frame : Bytes) :
    (client.enqueueFrame now last stamp frame).2.Wellformed := by
  obtain ⟨hsession, hprotocol⟩ := client.session_enqueueFrame now last stamp frame
  refine ⟨?_, ?_⟩
  · rw [hsession, hprotocol]
    exact h.sessionV1
  · rw [hsession]
    exact h.greeted

/-- A change of the outbound queue and the timers alone; the client may be closed by it. -/
structure Still (before after : ClientState) : Prop where
  protocol : after.protocol = before.protocol
  initial : after.initial = before.initial
  v0Request : after.v0Request = before.v0Request
  session : after.session = before.session
  decoder : after.decoder = before.decoder
  closeAfterFlush : after.closeAfterFlush = before.closeAfterFlush
  history : after.history = before.history
  closed : before.closed = true → after.closed = true

namespace Still

theorem refl (client : ClientState) : Still client client :=
  ⟨rfl, rfl, rfl, rfl, rfl, rfl, rfl, id⟩

theorem trans {first second third : ClientState} (h : Still first second)
    (h' : Still second third) : Still first third where
  protocol := h'.protocol.trans h.protocol
  initial := h'.initial.trans h.initial
  v0Request := h'.v0Request.trans h.v0Request
  session := h'.session.trans h.session
  decoder := h'.decoder.trans h.decoder
  closeAfterFlush := h'.closeAfterFlush.trans h.closeAfterFlush
  history := h'.history.trans h.history
  closed hc := h'.closed (h.closed hc)

theorem close (client : ClientState) : Still client client.close :=
  ⟨rfl, rfl, rfl, rfl, rfl, rfl, rfl, fun _ => rfl⟩

theorem armTimer (now : Nat) (client : ClientState) : Still client (client.armTimer now) := by
  unfold ClientState.armTimer
  split
  · exact refl client
  · exact ⟨rfl, rfl, rfl, rfl, rfl, rfl, rfl, id⟩

theorem endFlush (now : Nat) (client : ClientState) : Still client (client.endFlush now) := by
  unfold ClientState.endFlush
  split
  · exact ⟨rfl, rfl, rfl, rfl, rfl, rfl, rfl, fun h => by simp [h]⟩
  · exact armTimer now client

theorem flushLoop (now : Nat) (sends : List SendReply) (budget : Nat) (client : ClientState) :
    Still client (client.flushLoop now sends budget) := by
  induction sends generalizing budget client with
  | nil =>
    unfold ClientState.flushLoop
    split
    · exact endFlush now client
    · exact armTimer now client
  | cons reply sends ih =>
    unfold ClientState.flushLoop
    split
    · exact endFlush now client
    cases reply with
    | wouldBlock time => exact armTimer time client
    | failed => exact close client
    | wrote time bytes =>
      simp only
      split
      · exact close client
      split
      · exact close client
      · refine trans ?_ (ih _ _)
        exact ⟨rfl, rfl, rfl, rfl, rfl, rfl, rfl, id⟩

theorem flushClient (replies : FlushReplies) (client : ClientState) :
    Still client (client.flushClient replies) := by
  unfold ClientState.flushClient
  split
  · exact ⟨rfl, rfl, rfl, rfl, rfl, rfl, rfl, fun h => by simp [h]⟩
  · exact flushLoop _ _ _ client

theorem flushPending (replies : FlushReplies) (client : ClientState) :
    Still client (client.flushPending replies) := by
  unfold ClientState.flushPending
  split
  · exact refl client
  · exact flushClient replies client

theorem applyDeadline (now : Nat) (client : ClientState) :
    Still client (client.applyDeadline now) := by
  unfold ClientState.applyDeadline
  split
  · exact refl client
  split
  · exact close client
  split
  · exact close client
  · exact refl client

end Still

/-- A change of the buffers, the queue and the timers, with nothing offered; the client may be
closed by it. -/
structure Quiet (before after : ClientState) : Prop where
  protocol : after.protocol = before.protocol
  session : after.session = before.session
  offers : after.offers = before.offers
  closed : before.closed = true → after.closed = true

namespace Quiet

theorem trans {first second third : ClientState} (h : Quiet first second)
    (h' : Quiet second third) : Quiet first third :=
  ⟨h'.protocol.trans h.protocol, h'.session.trans h.session, h'.offers.trans h.offers,
    fun hc => h'.closed (h.closed hc)⟩

theorem of_still {before after : ClientState} (h : Still before after) : Quiet before after where
  protocol := h.protocol
  session := h.session
  offers := by
    unfold ClientState.offers
    rw [h.history]
  closed := h.closed

end Quiet

namespace ClientMove

variable {generation last : UInt64} {before after : ClientState}

theorem of_quiet (hwf : before.Wellformed) (h : Quiet before after) :
    ClientMove generation last before after where
  wellformed := by
    refine ⟨?_, ?_⟩
    · rw [h.protocol, h.session]
      exact hwf.sessionV1
    · rw [h.session]
      exact hwf.greeted
  subscribed hsub := by
    unfold ClientState.subscribed at hsub ⊢
    rw [h.session]
    exact hsub
  receives _ hrec := by
    rw [ClientState.receivesEvents_iff] at hrec ⊢
    unfold ClientState.sessionReady ClientState.subscribed at hrec ⊢
    rw [h.protocol, h.session] at hrec
    refine ⟨?_, hrec.2⟩
    cases hb : before.closed with
    | false => rfl
    | true => rw [h.closed hb] at hrec; exact absurd hrec.1 (by decide)
  offers := .inl h.offers

/-- `enqueue_frame` with a frame that is what its stamp says. -/
theorem enqueueFrame (hwf : before.Wellformed) (now : Nat) {stamp : Stamp} {frame : Bytes}
    (hevent : ∀ event, stamp ≠ .event event)
    (hwatermark : ∀ requestId g n snapshot, stamp = .snapshot requestId g n snapshot →
      g = generation ∧ n = last)
    (hhonest : ∀ accepted, Offer.Honest ⟨frame, stamp, accepted, last, before.subscribed⟩) :
    ClientMove generation last before (before.enqueueFrame now last stamp frame).2 := by
  have hclosed := before.closed_enqueueFrame now last stamp frame
  have hsub := before.subscribed_enqueueFrame now last stamp frame
  obtain ⟨hsession, hprotocol⟩ := before.session_enqueueFrame now last stamp frame
  refine ⟨hwf.enqueueFrame now last stamp frame, fun h => hsub.trans h, ?_,
    .inr ⟨_, before.offers_enqueueFrame now last stamp frame, ?_⟩⟩
  · intro _ h
    rw [ClientState.receivesEvents_iff] at h ⊢
    unfold ClientState.sessionReady at h ⊢
    rw [hclosed, hprotocol, hsession, hsub, Bool.or_eq_false_iff] at h
    exact ⟨h.1.1, h.2⟩
  · refine ⟨rfl, fun h => hsub.trans h, ?_, hevent, hwatermark, hhonest _⟩
    intro hrefused
    rw [hclosed, Bool.or_eq_true, Bool.not_eq_true']
    exact .inr hrefused

/-- A frame is taken and handled by the session. -/
theorem handleFrame (hwf : before.Wellformed) {session : Session}
    (hsession : before.session = some session) (frame : Frame) (decoder : FrameDecoder) :
    ClientMove generation last before { before with
      decoder := decoder
      session := some (session.handleFrame frame).2
      history := before.history ++ [.handled frame] } where
  wellformed := by
    refine ⟨fun _ => hwf.sessionV1 (by simp [hsession]), ?_⟩
    intro after hafter
    obtain rfl := Option.some.inj hafter
    exact Session.handleFrame_greeted frame (hwf.greeted session hsession)
  subscribed h := by
    simp only [ClientState.subscribed, hsession, Option.any_some] at h ⊢
    exact Session.handleFrame_subscribed frame h
  receives hsub hrec := by
    rw [ClientState.receivesEvents_iff] at hrec ⊢
    simp only [ClientState.sessionReady, ClientState.subscribed, hsession, Option.any_some]
      at hsub hrec ⊢
    have hready := Session.ready_of_handleFrame_ready (hwf.greeted session hsession) hsub hrec.2.2.1
    exact ⟨hrec.1, hrec.2.1, hready, hsub⟩
  offers := by
    refine .inl ?_
    have happend := before.offers_append (.handled frame)
    rw [show (ClientEvent.handled frame).offer? = none from rfl, Option.toList_none,
      List.append_nil] at happend
    exact happend

/-- The protocol of a client is decided before it can subscribe. -/
theorem of_unsubscribed (hsub : before.subscribed = false) (hwf : after.Wellformed)
    (hoffers : after.offers = before.offers) : ClientMove generation last before after where
  wellformed := hwf
  subscribed h := absurd h (by simp [hsub])
  receives h := absurd h (by simp [hsub])
  offers := .inl hoffers

end ClientMove

theorem ClientState.Wellformed.session_none {client : ClientState} (h : client.Wellformed)
    (hp : client.protocol ≠ .v1) : client.session = none := by
  cases hs : client.session with
  | none => rfl
  | some session => exact absurd (h.sessionV1 (by simp [hs])) hp

theorem ClientState.Wellformed.unsubscribed {client : ClientState} (h : client.Wellformed)
    (hp : client.protocol ≠ .v1) : client.subscribed = false := by
  simp [ClientState.subscribed, h.session_none hp]

/-! ### Moves of the server -/

/-- Changes of the record of client `id`, and events. -/
inductive Moves (id : ClientId) (s : Server) : Server → Prop
  | refl : Moves id s s
  | client {t : Server} (h : Moves id s t) (f : ClientState → ClientState)
      (hf : ∀ client, t.client? id = some client → client.Wellformed →
        ClientMove t.generation t.sequencer.lastSequence client (f client)) :
      Moves id s (t.update id f)
  | session {t : Server} (h : Moves id s t) (n : UInt64) :
      Moves id s { t with nextSessionSequence := n }
  | event {t : Server} (h : Moves id s t) (now : Nat) (eventName payloadJson : Bytes) :
      Moves id s (t.broadcastEvent now eventName payloadJson).2

namespace Moves

variable {id : ClientId} {s t u : Server}

theorem trans (h : Moves id s t) (h' : Moves id t u) : Moves id s u := by
  induction h' with
  | refl => exact h
  | client _ f hf ih => exact .client ih f hf
  | session _ n ih => exact .session ih n
  | event _ now eventName payloadJson ih => exact .event ih now eventName payloadJson

theorem update {f : ClientState → ClientState}
    (hf : ∀ client, s.client? id = some client → client.Wellformed →
      ClientMove s.generation s.sequencer.lastSequence client (f client)) :
    Moves id s (s.update id f) :=
  .client .refl f hf

theorem quiet {f : ClientState → ClientState} (hf : ∀ client, Quiet client (f client)) :
    Moves id s (s.update id f) :=
  update fun client _ hwf => .of_quiet hwf (hf client)

theorem still {f : ClientState → ClientState} (hf : ∀ client, Still client (f client)) :
    Moves id s (s.update id f) :=
  quiet fun client => .of_still (hf client)

theorem close : Moves id s (s.close id) := still .close

/-! ### The functions of the reactor -/

theorem enqueueFrame (now : Nat) {stamp : Stamp} {frame : Bytes}
    (hevent : ∀ event, stamp ≠ .event event)
    (hwatermark : ∀ requestId g n snapshot, stamp = .snapshot requestId g n snapshot →
      g = s.generation ∧ n = s.sequencer.lastSequence)
    (hhonest : ∀ client, s.client? id = some client → client.Wellformed → ∀ accepted,
      Offer.Honest ⟨frame, stamp, accepted, s.sequencer.lastSequence, client.subscribed⟩) :
    Moves id s (s.enqueueFrame id now stamp frame).2 :=
  update fun client hc hwf => .enqueueFrame hwf now hevent hwatermark (hhonest client hc hwf)

theorem enqueueReply (now : Nat) {frame : Bytes} (h : Session.IsReply frame) :
    Moves id s (s.enqueueFrame id now .reply frame).2 :=
  enqueueFrame now (by simp) (by simp) fun _ _ _ _ => h

theorem respond (now : Nat) {response : Bytes} (h : response = [] ∨ Session.IsReply response) :
    Moves id s (s.respond id now response).2 := by
  unfold Server.respond
  split
  · exact refl
  next hne => exact enqueueReply now (h.resolve_left hne)

/-- A response that is refused costs the client its connection. -/
theorem sendOrClose (now : Nat) {stamp : Stamp} {response : Bytes}
    (h : Moves id s (s.enqueueFrame id now stamp response).2) :
    Moves id s (s.sendOrClose id now stamp response).2 := by
  unfold Server.sendOrClose
  split
  · exact close
  · simp only
    split
    · exact h
    · exact h.trans close

theorem performAction (replies : Server.FrameReplies) (result : HandleResult) :
    Moves id s (s.performAction id replies result).2 := by
  unfold Server.performAction
  split
  · exact refl
  · simp only
    split
    · exact .event .refl _ _ _
    · exact (event .refl _ _ _).trans close
  · refine sendOrClose _ (enqueueFrame _ (by simp) ?_ fun _ _ _ _ => rfl)
    intro requestId g n snapshot heq
    cases heq
    exact ⟨rfl, rfl⟩
  · exact sendOrClose _ (enqueueReply _ (Session.isReply_encodeJson (by decide) _))

theorem finishFrame (replies : Server.FrameReplies) {result : HandleResult}
    (h : result.response = [] ∨ Session.IsReply result.response) :
    Moves id s (s.finishFrame id replies result).2 := by
  have hrespond : Moves id s (s.respond id replies.now result.response).2 := respond replies.now h
  unfold Server.finishFrame
  simp only
  split
  · exact hrespond
  have haction := hrespond.trans (performAction replies result)
  split
  · exact haction
  · refine haction.trans ?_
    dsimp only
    exact quiet fun client => ⟨rfl, rfl, rfl, fun hc => hc⟩

theorem processV1Frame (replies : Server.FrameReplies) :
    Moves id s (s.processV1Frame id replies).2 := by
  unfold Server.processV1Frame
  split
  · exact refl
  next client hclient =>
    split
    next session frame decoder hsession hframe =>
      split
      · exact refl
      · refine trans (update ?_) (finishFrame replies (Session.handleFrame_response session frame))
        intro other hother hwf
        obtain rfl := Option.some.inj (hclient.symm.trans hother)
        exact .handleFrame hwf hsession frame decoder
    · exact refl

theorem serviceLoop (replies : Nat → Server.FrameReplies) (turns : Nat) :
    Moves id s (Server.serviceLoop id replies turns s) := by
  induction turns generalizing s with
  | zero => exact refl
  | succ turns ih =>
    unfold Server.serviceLoop
    split
    · exact refl
    split
    · exact refl
    simp only
    have hframe : Moves id s (s.processV1Frame id (replies turns)).2 := processV1Frame _
    split
    · exact hframe
    · exact (hframe.trans (still (Still.flushPending _))).trans ih

theorem serviceBufferedV1 (replies : Nat → Server.FrameReplies) :
    Moves id s (s.serviceBufferedV1 id replies) := by
  unfold Server.serviceBufferedV1
  split
  · exact refl
  · split
    · exact refl
    · exact serviceLoop replies _

/-- A v0 request is answered with a line; such a client has no subscription. -/
theorem requestLine {client : ClientState} (hclient : s.client? id = some client)
    (hv0 : client.protocol = .v0) (reply : Server.ReceiveReply) :
    Moves id s ((s.update id fun client =>
        { client with history := client.history ++ [.requested client.v0Request] }).enqueueFrame id
      reply.now .line reply.v0Response).2 := by
  refine trans (quiet ?_) (enqueueFrame _ ?_ ?_ ?_)
  · intro client
    refine ⟨rfl, rfl, ?_, fun hc => hc⟩
    exact (client.offers_append (.requested client.v0Request)).trans (List.append_nil _)
  · simp
  · simp
  · intro other hother hwf accepted
    rw [Server.client?_update_self, hclient] at hother
    obtain rfl := Option.some.inj hother
    exact hwf.unsubscribed (by simp [hv0])

theorem completeV0IfReady (reply : Server.ReceiveReply) :
    Moves id s (s.completeV0IfReady id reply) := by
  unfold Server.completeV0IfReady
  split
  · exact refl
  next client hclient =>
    split
    · exact refl
    next hready =>
      have hv0 : client.protocol = .v0 := Decidable.not_not.mp fun hne => hready (.inl hne)
      split
      · exact refl
      dsimp only
      have hrequested := requestLine hclient hv0 reply
      split
      · refine hrequested.trans (quiet fun client => ?_)
        refine Quiet.trans ?_ (.of_still (Still.flushClient _ _))
        exact ⟨rfl, rfl, rfl, fun hc => hc⟩
      · exact hrequested

theorem commitV1 {client : ClientState} (hclient : s.client? id = some client)
    (hundecided : client.protocol = .undecided) (initial : Bytes) :
    Moves id s (s.commitV1 id initial) := by
  refine .session (update ?_) _
  intro other hother hwf
  obtain rfl := Option.some.inj (hclient.symm.trans hother)
  have hp : client.protocol ≠ .v1 := by simp [hundecided]
  refine .of_unsubscribed (hwf.unsubscribed hp) ⟨fun _ => rfl, ?_⟩ rfl
  intro session hsession
  obtain rfl := Option.some.inj hsession
  intro hsub
  cases hsub

theorem commitV0 {client : ClientState} (hclient : s.client? id = some client)
    (hundecided : client.protocol = .undecided) (initial : Bytes) :
    Moves id s (s.commitV0 id initial) := by
  refine update ?_
  intro other hother hwf
  obtain rfl := Option.some.inj (hclient.symm.trans hother)
  have hp : client.protocol ≠ .v1 := by simp [hundecided]
  have hnone := hwf.session_none hp
  exact .of_unsubscribed (hwf.unsubscribed hp) ⟨by simp [hnone], by simp [hnone]⟩ rfl

theorem commitProtocolIfPossible (reply : Server.ReceiveReply) :
    Moves id s (s.commitProtocolIfPossible id reply) := by
  unfold Server.commitProtocolIfPossible
  split
  · exact refl
  next client hclient =>
    split
    · exact refl
    next hready =>
      have hundecided : client.protocol = .undecided :=
        Decidable.not_not.mp fun hne => hready (.inl hne)
      split
      · exact (commitV1 hclient hundecided _).trans (serviceBufferedV1 _)
      · exact (commitV0 hclient hundecided _).trans (completeV0IfReady reply)

theorem acceptBytes (reply : Server.ReceiveReply) (data : Bytes) :
    Moves id s (s.acceptBytes id reply data) := by
  have hreceived : ∀ client : ClientState,
      (client.history ++ [ClientEvent.received data]).filterMap ClientEvent.offer? = client.offers := by
    intro client
    exact (client.offers_append (.received data)).trans (List.append_nil _)
  unfold Server.acceptBytes
  split
  · exact refl
  · refine trans (quiet ?_) (commitProtocolIfPossible reply)
    exact fun client => ⟨rfl, rfl, hreceived client, fun hc => by simp [hc]⟩
  · refine trans (quiet ?_) (completeV0IfReady reply)
    exact fun client => ⟨rfl, rfl, hreceived client, fun hc => by simp [hc]⟩
  · refine trans (quiet ?_) (serviceBufferedV1 _)
    exact fun client => ⟨rfl, rfl, hreceived client, fun hc => by simp [hc]⟩

theorem receiveLoop (replies : List Server.ReceiveReply) (budget : Nat) :
    Moves id s (Server.receiveLoop id replies budget s) := by
  induction replies generalizing budget s with
  | nil => exact refl
  | cons reply replies ih =>
    unfold Server.receiveLoop
    split
    · exact refl
    split
    · exact refl
    split
    · exact close
    dsimp only
    split
    · exact close
    · refine trans (quiet ?_) ((acceptBytes reply _).trans ((serviceBufferedV1 _).trans (ih _)))
      exact fun client => ⟨rfl, rfl, rfl, fun hc => hc⟩

theorem receiveClient (replies : List Server.ReceiveReply) :
    Moves id s (s.receiveClient id replies) := by
  unfold Server.receiveClient
  split
  · exact refl
  · split
    · exact refl
    · exact receiveLoop replies _

theorem serviceClient (replies : Nat → Server.FrameReplies) (flush : FlushReplies) :
    Moves id s (s.serviceClient id replies flush) :=
  (serviceBufferedV1 replies).trans (still (Still.flushPending flush))

theorem receivePolled (polled : PollReplies) : Moves id s (s.receivePolled id polled) := by
  unfold Server.receivePolled
  split
  · exact refl
  split
  · exact refl
  split
  · exact receiveClient _
  split
  · exact close
  · exact refl

theorem servePolled (polled : PollReplies) : Moves id s (s.servePolled id polled) := by
  unfold Server.servePolled
  split
  · exact refl
  split
  · exact close
  dsimp only
  have hflush : Moves id s
      (if polled.writable then s.update id (.flushPending polled.flush) else s) := by
    split
    · exact still (Still.flushPending _)
    · exact refl
  generalize (if polled.writable then s.update id (.flushPending polled.flush) else s) = flushed
    at hflush ⊢
  split
  · exact hflush
  have hreceive := hflush.trans (receivePolled polled)
  split
  · exact hreceive
  · exact hreceive.trans (serviceClient _ _)

end Moves

end NetworkService.Ipc
