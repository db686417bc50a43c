import NetworkService.Ipc.InputBounds

/-!
# One answer for every frame, in the order of the frames

A session that is not closed has something to say to every frame, or leaves it to the server.  So
every frame that is handled gets its answer, one after the other, unless the connection is closed.
-/

namespace NetworkService.Ipc

open Execution Relation

/-! ### A session always answers -/

/-- The session answers, or the server is to. -/
def HandleResult.Speaks (result : HandleResult) : Prop :=
  result.response ≠ [] ∨ result.serverAction ≠ .none

theorem errorResult_speaks (session : Session) {code message : String} (close : Bool)
    (h : (text code).length + (text message).length ≤ 1000) :
    (session.errorResult code message close).1.Speaks := by
  have hfront : (text "\x7b\"code\":\"").length = 9 := by decide
  have hbetween : (text "\",\"message\":\"").length = 13 := by decide
  have hback : (text "\"\x7d").length = 2 := by decide
  refine .inl (encodeJson_ne_nil .error ?_)
  unfold Session.errorText kMaxPayloadBytes
  rw [List.length_append, List.length_append, List.length_append, List.length_append, hfront, hbetween,
    hback]
  omega

theorem readyResult_speaks {session : Session} (h : session.sessionId.length ≤ 50) :
    session.readyResult.Speaks := by
  have hgeneration := length_decimal_le session.generation
  have hfront : (text "\x7b\"version\":1,\"service\":\"network_service\",\"sessionId\":\"").length =
      54 := by decide
  have hbetween : (text "\",\"generation\":").length = 15 := by decide
  have hback : (text (",\"capabilities\":[\"request-response\",\"events\",\"snapshot-rebase\"," ++
      "\"network-control\"]\x7d")).length = 82 := by decide
  refine .inl (encodeJson_ne_nil .ready ?_)
  unfold Session.readyText kMaxPayloadBytes
  rw [List.length_append, List.length_append, List.length_append, List.length_append, hfront, hbetween,
    hback]
  omega

theorem handleRequest_speaks (session : Session) (payload : Bytes) :
    (session.handleRequest payload).1.Speaks := by
  simp only [Session.handleRequest]
  by_cases hparse : (parseRequest payload).1 ≠ .none
  · rw [if_pos hparse]
    have hmessage := requestErrorMessage_length (parseRequest payload).1
    unfold Session.rejectRequest
    split
    · refine .inl ?_
      rw [responseError_response, failureText_eq]
      exact correlatedText_ne_nil _ (failureOutcome_length hmessage)
    · have hcode : (text "INVALID_REQUEST_ID").length = 18 := by decide
      exact errorResult_speaks session false (by omega)
  rw [if_neg hparse]
  by_cases hping : (parseRequest payload).2.method = text "network.ping"
  · rw [if_pos hping]
    refine .inl ?_
    rw [responseSuccess_response, successText_eq]
    exact correlatedText_ne_nil _ (successOutcome_length pingJson_length)
  rw [if_neg hping]
  by_cases hsnapshot : (parseRequest payload).2.method = text "network.snapshot"
  · rw [if_pos hsnapshot]
    exact .inr (by simp)
  rw [if_neg hsnapshot]
  by_cases hsubscribe : (parseRequest payload).2.method = text "network.events.subscribe"
  · rw [if_pos hsubscribe]
    refine .inl ?_
    simp only
    rw [responseSuccess_response, successText_eq]
    exact correlatedText_ne_nil _ (successOutcome_length subscribedJson_length)
  · rw [if_neg hsubscribe]
    exact .inr (by simp)

/-- An open session with an id of ordinary length. -/
theorem handleFrame_speaks {session : Session} (hid : session.sessionId.length ≤ 50)
    (hopen : session.state ≠ .closed) (frame : Frame) : (session.handleFrame frame).1.Speaks := by
  unfold Session.handleFrame
  cases hstate : session.state with
  | closed => exact absurd hstate hopen
  | awaitHello =>
    simp only
    split
    · exact errorResult_speaks session true (by decide)
    · unfold Session.handleHello
      split
      · exact errorResult_speaks session true (by decide)
      split
      · exact errorResult_speaks session true (by decide)
      · exact readyResult_speaks hid
  | ready =>
    simp only
    split
    · exact handleRequest_speaks session frame.payload
    · exact errorResult_speaks session true (by decide)

/-- No frame changes the id of a session. -/
theorem Session.handleFrame_sessionId (session : Session) (frame : Frame) :
    (session.handleFrame frame).2.sessionId = session.sessionId := by
  rcases session.handleFrame_step frame with
    ⟨-, hframe⟩ | ⟨-, failure, hframe⟩ | ⟨-, hframe⟩ | ⟨-, -, hframe⟩
  · rw [hframe]
  · rw [hframe]
  · rw [hframe]
  · rw [hframe]
    simp only [Session.handleRequest]
    split
    · unfold Session.rejectRequest
      split
      · rfl
      · rfl
    split
    · rfl
    split
    · rfl
    split
    · rfl
    · rfl

theorem Session.after_sessionId (session : Session) (frames : List Frame) :
    (session.after frames).sessionId = session.sessionId := by
  induction frames generalizing session with
  | nil => rfl
  | cons frame frames ih =>
    rw [after_cons, ih]
    exact session.handleFrame_sessionId frame

/-! ### One request -/

/-- The queue has got the answer of a request and the events that it has triggered. -/
structure Answered (frame : Frame) (before after : ClientState) (answer : Bytes)
    (events : List EventRecord) : Prop where
  queue : after.outbound.frames = before.outbound.frames ++
    { bytes := answer } :: events.map fun event => { bytes := event.frame }
  kind : (∃ payload, answer = encodeJson .response payload) ∨ ∃ payload, answer = encodeJson .error payload
  responds : (parseRequest frame.payload).1 = .none → RespondsTo frame.payload answer

theorem exists_events {offers : List Offer} (h : ∀ offer ∈ offers, offer.OfEvent) :
    ∃ events : List EventRecord, offers.map Offer.frame = events.map EventRecord.frame := by
  induction offers with
  | nil => exact ⟨[], rfl⟩
  | cons offer offers ih =>
    obtain ⟨events, hevents⟩ := ih fun other hother => h other (List.mem_cons_of_mem _ hother)
    obtain ⟨event, -, hframe⟩ := h offer List.mem_cons_self
    exact ⟨event :: events, by rw [List.map_cons, List.map_cons, hevents, hframe]⟩

/-- An open client has refused no offer. -/
theorem Extends.all_accepted {offers : List Offer} {before after : ClientState}
    (h : Extends offers before after) (hopen : after.closed = false) :
    offers.filter (·.accepted) = offers := by
  rw [List.filter_eq_self]
  intro offer hoffer
  cases haccepted : offer.accepted with
  | true => rfl
  | false =>
    rw [h.refused offer hoffer haccepted] at hopen
    cases hopen

theorem processV1Frame_answered {s : Server} {id : ClientId} {client : ClientState}
    (hclient : s.client? id = some client) {session : Session} {frame : Frame}
    {decoder : FrameDecoder} (hsession : client.session = some session)
    (htake : client.decoder.takeFrame = some (frame, decoder)) (hopen : client.closed = false)
    (hready : ReadyRequest session frame) (replies : Server.FrameReplies) :
    ∃ after, (s.processV1Frame id replies).2.client? id = some after ∧
      (after.closed = true ∨ ∃ answer events, Answered frame client after answer events) := by
  obtain ⟨offers, middle, after, hafter, hextends, hends, hoffers⟩ :=
    Server.processV1Frame_spec hclient hsession htake hopen replies
  refine ⟨after, hafter, ?_⟩
  obtain ⟨houtbound, hclosed⟩ : after.outbound = middle.outbound ∧ after.closed = middle.closed := by
    rcases hends with ⟨rfl, -⟩ | rfl
    · exact ⟨rfl, rfl⟩
    · exact ⟨rfl, rfl⟩
  cases hmiddle : middle.closed with
  | true => exact .inl (hclosed.trans hmiddle)
  | false =>
    refine .inr ?_
    have hqueue := hextends.frames
    rw [hextends.all_accepted hmiddle, ← houtbound] at hqueue
    cases hoffers with
    | @answer offer events _ hanswer hevents =>
      obtain ⟨records, hrecords⟩ := exists_events hevents
      refine ⟨offer.frame, records, ?_, hanswer.kind hready, hanswer.responds hready⟩
      rw [hqueue, List.map_cons]
      have hframes := congrArg (List.map fun bytes => ({ bytes := bytes } : PendingFrame)) hrecords
      rw [List.map_map, List.map_map] at hframes
      exact congrArg (client.outbound.frames ++ { bytes := offer.frame } :: ·) hframes
    | lost hlost =>
      rw [hmiddle] at hlost
      cases hlost
    | silent hresponse haction =>
      have hspeaks := handleRequest_speaks session frame.payload
      rw [← hready.handleFrame_eq] at hspeaks
      exact absurd hspeaks (not_or.mpr ⟨not_not_intro hresponse, not_not_intro haction⟩)

/-! ### Whole connections -/

/-- Every frame has its answer, in the order of the frames. -/
inductive Dialogue (first : Session) : List Frame → List Bytes → Prop
  | nil : Dialogue first [] []
  | snoc {frames : List Frame} {answers : List Bytes} {frame : Frame} {answer : Bytes}
      (h : Dialogue first frames answers) (hanswer : AnswerTo (first.after frames) frame answer) :
      Dialogue first (frames ++ [frame]) (answers ++ [answer])

/-- The frames of a connection and their answers: every frame has one, but the last frame of a closed
connection may have none. -/
def Converses (first : Session) (closed : Bool) (frames : List Frame) (answers : List Bytes) : Prop :=
  Dialogue first frames answers ∨
    closed = true ∧ ∃ before last, frames = before ++ [last] ∧ Dialogue first before answers

theorem Converses.close {first : Session} {closed : Bool} {frames : List Frame} {answers : List Bytes}
    (h : Converses first closed frames answers) : Converses first true frames answers := by
  rcases h with hall | ⟨-, hlast⟩
  · exact .inl hall
  · exact .inr ⟨rfl, hlast⟩

/-- Nothing has been said yet, or the session has made conversation. -/
structure Intake.Talks (i : Intake) : Prop where
  closed : i.closed = true → i.stopped = true
  talks : (i.session = none ∧ handledFrames i.log = [] ∧ answersOf i.log = []) ∨
    ∃ first, FreshSession first ∧ i.session = some (first.after (handledFrames i.log)) ∧
      Converses first i.closed (handledFrames i.log) (answersOf i.log)

/-- What is received is neither handled nor answered at once. -/
theorem Intake.receive_quiet (i : Intake) (fresh : Session) (data : Bytes) :
    handledFrames (i.receive fresh data).log = handledFrames i.log ∧
      answersOf (i.receive fresh data).log = answersOf i.log := by
  have hone : handledFrames (i.log ++ [.received data]) = handledFrames i.log ∧
      answersOf (i.log ++ [.received data]) = answersOf i.log := by
    rw [handledFrames_append, answersOf_append, handledFrames_received, answersOf_received,
      List.append_nil, List.append_nil]
    exact ⟨rfl, rfl⟩
  have hline : ∀ (j : Intake) (line : Bytes), j.log = i.log →
      handledFrames (j.receiveLine data line).log = handledFrames i.log ∧
        answersOf (j.receiveLine data line).log = answersOf i.log := by
    intro j line hlog
    unfold Intake.receiveLine
    simp only
    rw [hlog]
    split
    · exact hone
    split
    · exact hone
    · simp only [handledFrames_append, answersOf_append]
      exact ⟨List.append_nil _, List.append_nil _⟩
  unfold Intake.receive
  split
  · simp only
    split
    · exact hone
    split
    · exact hone
    split
    · exact hone
    · exact hline _ _ rfl
  · exact hline i _ rfl
  · exact hone

/-- A session is made when the protocol becomes known, and it is kept. -/
theorem Intake.receive_session (i : Intake) (fresh : Session) (data : Bytes) :
    (i.receive fresh data).session = i.session ∨
      i.protocol = .undecided ∧ (i.receive fresh data).session = some fresh := by
  have hline : ∀ (j : Intake) (line : Bytes), (j.receiveLine data line).session = j.session := by
    intro j line
    unfold Intake.receiveLine
    simp only
    split
    · rfl
    split
    · rfl
    · rfl
  unfold Intake.receive
  split
  next hundecided =>
    simp only
    split
    · exact .inl rfl
    split
    · exact .inl rfl
    split
    · exact .inr ⟨hundecided, rfl⟩
    · exact .inl (hline _ _)
  · exact .inl (hline _ _)
  · exact .inl rfl

theorem Intake.receive_closed {i : Intake} (fresh : Session) (data : Bytes)
    (h : i.closed = true → i.stopped = true) :
    (i.receive fresh data).closed = true → (i.receive fresh data).stopped = true := by
  have hline : ∀ (j : Intake) (line : Bytes), (j.closed = true → j.stopped = true) →
      (j.receiveLine data line).closed = true → (j.receiveLine data line).stopped = true := by
    intro j line hj
    unfold Intake.receiveLine
    simp only
    split
    · exact fun _ => rfl
    split
    · exact hj
    · exact fun _ => rfl
  have hframes : ∀ (j : Intake) (session : Option Session) (bytes : Bytes),
      (j.closed = true → j.stopped = true) → (j.receiveFrames session data bytes).closed = true →
        (j.receiveFrames session data bytes).stopped = true := by
    intro j session bytes hj hclosed
    simp only [Intake.receiveFrames, Bool.or_eq_true] at hclosed ⊢
    exact hclosed.imp_left hj
  unfold Intake.receive
  split
  · simp only
    split
    · exact fun _ => rfl
    split
    · exact h
    split
    · exact hframes _ _ _ h
    · exact hline _ _ h
  · exact hline _ _ h
  · exact hframes _ _ _ h

theorem Intake.Talks.receive {i : Intake} (h : i.Talks) (hsound : i.Sound) {fresh : Session}
    (hfresh : FreshSession fresh) (hopen : i.stopped = false) (data : Bytes) :
    (i.receive fresh data).Talks := by
  obtain ⟨hhandled, hanswers⟩ := i.receive_quiet fresh data
  refine ⟨i.receive_closed fresh data h.closed, ?_⟩
  rw [hhandled, hanswers]
  rcases h.talks with ⟨hnone, hframes, hempty⟩ | ⟨first, hfirst, hsession, htalks⟩
  · rcases i.receive_session fresh data with hsame | ⟨-, hmade⟩
    · exact .inl ⟨hsame.trans hnone, hframes, hempty⟩
    · rw [hframes, hempty]
      exact .inr ⟨fresh, hfresh, hmade, .inl .nil⟩
  · refine .inr ⟨first, hfirst, ?_, ?_⟩
    · rcases i.receive_session fresh data with hsame | ⟨hundecided, -⟩
      · exact hsame.trans hsession
      · cases hsound with
        | undecided hbefore => cases hbefore.session.symm.trans hsession
        | line hline => cases hline.protocol.symm.trans hundecided
        | framed hframed => cases hframed.protocol.symm.trans hundecided
    · rcases htalks with hall | ⟨hclosed, -⟩
      · exact .inl hall
      · cases hopen.symm.trans (h.closed hclosed)

theorem Intake.Talks.handle {i : Intake} (h : i.Talks) (hsound : i.Sound) {session : Session}
    {frame : Frame} {decoder : FrameDecoder} {answers : List Bytes} {closed : Bool}
    (hopen : i.stopped = false) (hsession : i.session = some session)
    (hanswers : AnswersTo session frame closed answers) :
    (i.handle session frame decoder answers closed).Talks := by
  obtain ⟨-, hframes, -, hlog⟩ := frameLog frame answers
  refine ⟨?_, .inr ?_⟩
  · intro hclosed
    simp only [Intake.handle] at hclosed ⊢
    rw [hclosed, Bool.true_or]
  rcases h.talks with ⟨hnone, -, -⟩ | ⟨first, hfirst, hcurrent, htalks⟩
  · cases hnone.symm.trans hsession
  obtain rfl := Option.some.inj (hsession.symm.trans hcurrent)
  have hall : Dialogue first (handledFrames i.log) (answersOf i.log) := by
    rcases htalks with hall | ⟨hclosed, -⟩
    · exact hall
    · cases hopen.symm.trans (h.closed hclosed)
  simp only [Intake.handle]
  rw [handledFrames_append, answersOf_append, hframes, hlog]
  refine ⟨first, hfirst, ?_, ?_⟩
  · rw [Session.after_append]
    rfl
  cases hanswers with
  | one hanswer => exact .inl (.snoc hall hanswer)
  | lost hclosed =>
    rw [List.append_nil]
    exact .inr ⟨hclosed, _, _, rfl, hall⟩
  | silent hresponse haction =>
    have hid : (first.after (handledFrames i.log)).sessionId.length ≤ 50 := by
      rw [Session.after_sessionId]
      exact hfirst.sessionId
    have hstate : (first.after (handledFrames i.log)).state ≠ .closed := by
      intro hclosed
      cases hsound with
      | undecided hbefore => cases hbefore.session.symm.trans hsession
      | line hline => cases hline.session.symm.trans hsession
      | framed hframed =>
        obtain ⟨other, -, hother, hends⟩ := hframed.session
        rw [Option.some.inj (hsession.symm.trans hother)] at hclosed
        cases hopen.symm.trans (hends hclosed)
    have hspeaks := handleFrame_speaks hid hstate frame
    exact absurd hspeaks (not_or.mpr ⟨not_not_intro hresponse, not_not_intro haction⟩)

theorem Intake.Talks.of_run {i : Intake} (h : IntakeRun {} i) : i.Talks := by
  induction h with
  | refl => exact ⟨id, .inl ⟨rfl, rfl, rfl⟩⟩
  | tail hrun hstep ih =>
    have hsound := Intake.Sound.of_run hrun
    cases hstep with
    | close =>
      refine ⟨fun _ => rfl, ih.talks.imp_right ?_⟩
      rintro ⟨first, hfirst, hsession, htalks⟩
      exact ⟨first, hfirst, hsession, htalks.close⟩
    | receive hopen hfresh _ _ => exact ih.receive hsound hfresh hopen _
    | handle hopen hsession _ hanswers => exact ih.handle hsound hopen hsession hanswers

/-- **One answer for every request, in their order.**  A REQUEST that `process_v1_frame` takes for a
ready client closes the client, or gets exactly one RESPONSE or ERROR into its queue, in front of the
events that it triggers; if it is accepted, this is a RESPONSE with the id that is written in it.
In every run of the reactor the answers of a connection have been queued in the order of its frames,
one for each; only the last frame of a closed connection may be without one. -/
theorem one_answer_per_request :
    (∀ (s : Server) (id : ClientId) (client : ClientState) (session : Session) (frame : Frame)
      (decoder : FrameDecoder) (replies : Server.FrameReplies),
      s.client? id = some client → client.session = some session →
      client.decoder.takeFrame = some (frame, decoder) → client.closed = false →
      ReadyRequest session frame →
        ∃ after, (s.processV1Frame id replies).2.client? id = some after ∧
          (after.closed = true ∨ ∃ answer events, Answered frame client after answer events)) ∧
    ∀ (history : List Turn) (s : Server) (id : ClientId) (client : ClientState),
      Reaches Started reactorStep history s → s.client? id = some client → client.session ≠ none →
        ∃ first, FreshSession first ∧
          Converses first client.closed (handledFrames client.intake.log)
            (answersOf client.intake.log) := by
  constructor
  · intro s id client session frame decoder replies hclient hsession htake hopen hready
    exact processV1Frame_answered hclient hsession htake hopen hready replies
  · intro history s id client hreach hclient hsession
    rcases (Intake.Talks.of_run (intake_of_reaches hreach hclient)).talks with
      ⟨hnone, -, -⟩ | ⟨first, hfirst, -, htalks⟩
    · exact absurd hnone hsession
    · exact ⟨first, hfirst, htalks⟩

def pingRequest : Bytes := text "\x7b\"requestId\":1,\"method\":\"network.ping\"\x7d"

def subscribeRequest : Bytes :=
  text "\x7b\"requestId\":18446744073709551615,\"method\":\"network.events.subscribe\"\x7d"

/-- HELLO, ten empty requests, a ping and a subscription in one piece; the subscription waits. -/
def subscribedPiece : Bytes :=
  helloBytes ++
    encodeAll (List.replicate 10 (.request, []) ++
      [(.request, pingRequest), (.request, subscribeRequest)])

/-- The subscription has the greatest id there is.  It is answered before the event that it causes,
and the frames before it have been answered in their order. -/
theorem one_answer_per_request_subscribed :
    (∃ after answer events,
      ((promptServer [subscribedPiece]).processV1Frame 0 (promptReplies 0)).2.client? 0 = some after ∧
        Answered (messageFrame (.request, subscribeRequest)) (promptClient [subscribedPiece]) after
          answer events ∧
        RespondsTo subscribeRequest answer ∧ events.length = 1) ∧
      (handledFrames (promptClient [subscribedPiece]).intake.log).length = 12 ∧
      ∃ first, FreshSession first ∧
        Converses first (promptClient [subscribedPiece]).closed
          (handledFrames (promptClient [subscribedPiece]).intake.log)
          (answersOf (promptClient [subscribedPiece]).intake.log) := by
  have hrun : (promptServer [subscribedPiece]).client? 0 = some (promptClient [subscribedPiece]) ∧
      (promptClient [subscribedPiece]).closed = false ∧
      (promptClient [subscribedPiece]).session.map Session.state = some .ready ∧
      (promptClient [subscribedPiece]).outbound.frames = [] ∧
      (promptClient [subscribedPiece]).decoder.takeFrame =
        some (messageFrame (.request, subscribeRequest), {}) ∧
      (handledFrames (promptClient [subscribedPiece]).intake.log).length = 12 ∧
      (((promptServer [subscribedPiece]).processV1Frame 0 (promptReplies 0)).2.client? 0).map
        (fun after => (after.closed, after.outbound.frames.length)) = some (false, 2) ∧
      (parseRequest subscribeRequest).1 = .none := by
    decide +kernel
  obtain ⟨hclient, hopen, hsession, hqueue, htake, hhandled, hafter, haccepted⟩ := hrun
  obtain ⟨session, hsome, hready⟩ := Option.map_eq_some_iff.mp hsession
  refine ⟨?_, hhandled, one_answer_per_request.2 _ _ 0 _ (promptServer_reaches _) hclient ?_⟩
  · obtain ⟨after, hone, hanswered⟩ :=
      one_answer_per_request.1 _ 0 _ session _ _ (promptReplies 0) hclient hsome htake hopen
        ⟨hready, rfl⟩
    rw [hone, Option.map_some, Option.some.injEq, Prod.mk.injEq] at hafter
    rcases hanswered with hclosed | ⟨answer, events, hanswer⟩
    · cases hafter.1.symm.trans hclosed
    · have hlength := congrArg List.length hanswer.queue
      rw [hafter.2, hqueue, List.nil_append, List.length_cons, List.length_map] at hlength
      exact ⟨after, answer, events, hone, hanswer, hanswer.responds haccepted, by omega⟩
  · rw [hsome]
    simp

end NetworkService.Ipc
