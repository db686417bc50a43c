import NetworkService.Ipc.Framing
import NetworkService.Ipc.Session

/-!
# Sequences of frames given to a session

A session lives through one greeting and any number of requests, and ends with the first frame that
does not belong there.  What one frame can do is said by `handleFrame_step`; the statements about
whole sequences follow from it by induction.
-/

namespace NetworkService.Ipc

/-! ### The type of an answer -/

/-- The type of the frame in a result, if there is one. -/
def HandleResult.frameType? (result : HandleResult) : Option MessageType :=
  match decodeHeader result.response with
  | .ok header => some header.type
  | .error _ => none

theorem decodeHeader_encodeJson (type : MessageType) {payload : Bytes}
    (h : payload.length ≤ kMaxPayloadBytes) :
    decodeHeader (encodeJson type payload) = .ok (headerOf type payload.length) := by
  have hlt : payload.length < 2 ^ 32 := by
    unfold kMaxPayloadBytes at h
    omega
  have hspelled := encodeJson_append type h []
  rw [List.append_nil, List.append_nil] at hspelled
  have hlong : kHeaderSize ≤ (encodeJson type payload).length := by
    rw [hspelled, length_spelled]
    omega
  have hdeclared : declaredLength (encodeJson type payload) = payload.length := by
    rw [hspelled]
    exact declaredLength_writeBe32 hlt _ _ _ _ _ _ _ _ _
  have hvalid : headerFault (encodeJson type payload) = none := by
    rw [headerFault_eq_none_iff, hdeclared]
    rw [hspelled]
    exact ⟨rfl, rfl, MessageType.isValid_toByte _, ⟨rfl, rfl⟩, h⟩
  have htype : MessageType.ofByte ((encodeJson type payload).getD 5 0) = type := by
    rw [hspelled]
    exact MessageType.ofByte_toByte _
  rw [decodeHeader_eq hlong, hvalid, hdeclared, htype]

/-- A frame has the type that it was encoded with; what could not be encoded has none. -/
theorem frameType?_encodeJson {result : HandleResult} {type found : MessageType} (payload : Bytes)
    (h : result.response = encodeJson type payload) (hfound : result.frameType? = some found) :
    found = type := by
  unfold HandleResult.frameType? at hfound
  rw [h] at hfound
  by_cases hlength : payload.length ≤ kMaxPayloadBytes
  · rw [decodeHeader_encodeJson type hlength] at hfound
    exact (Option.some.inj hfound).symm
  · have hempty : encodeJson type payload = [] := by
      unfold encodeJson encodeFrame
      rw [MessageType.isValid_toByte, if_neg (by decide), if_pos (Nat.not_le.mp hlength)]
    rw [hempty, decodeHeader_short (by decide)] at hfound
    cases hfound

namespace Session

/-! ### One frame -/

/-- The frame is a HELLO that this session accepts: version 1 is in the client's range. -/
def Accepts (session : Session) (frame : Frame) : Prop :=
  session.state = .awaitHello ∧ frame.header.type = .hello ∧
    ∃ minVersion maxVersion, parseHelloVersions frame.payload = some (minVersion, maxVersion) ∧
      minVersion ≤ 1 ∧ 1 ≤ maxVersion

/-- A session and a frame that it ends with: anything but a HELLO that it accepts, or but a REQUEST
once it is ready. -/
def Refuses (session : Session) (frame : Frame) : Prop :=
  session.state = .awaitHello ∨ session.state = .ready ∧ frame.header.type ≠ .request

theorem handleHello_step (session : Session) (payload : Bytes) :
    (∃ failure, session.handleHello payload =
      ({ response := encodeJson .error failure, closeAfterSend := true },
        { session with state := .closed })) ∨
    ((∃ minVersion maxVersion, parseHelloVersions payload = some (minVersion, maxVersion) ∧
        minVersion ≤ 1 ∧ 1 ≤ maxVersion) ∧
      session.handleHello payload = (session.readyResult, { session with state := .ready })) := by
  unfold handleHello
  cases hversions : parseHelloVersions payload with
  | none => exact .inl ⟨_, rfl⟩
  | some versions =>
    obtain ⟨minVersion, maxVersion⟩ := versions
    simp only
    by_cases hrange : kProtocolVersion.toUInt64 < minVersion ∨ maxVersion < kProtocolVersion.toUInt64
    · rw [if_pos hrange]
      exact .inl ⟨_, rfl⟩
    · rw [if_neg hrange]
      rw [not_or, UInt64.not_lt, UInt64.not_lt] at hrange
      exact .inr ⟨⟨minVersion, maxVersion, rfl, hrange.1, hrange.2⟩, rfl⟩

/-- The outcome of a request: the session stays open, no second READY is sent, and the first
subscription is the only one that the server hears of. -/
structure StaysOpen (session : Session) (outcome : HandleResult × Session) : Prop where
  stays : outcome.1.closeAfterSend = false
  state : outcome.2.state = session.state
  greets : outcome.1.frameType? ≠ some .ready
  subscribed : session.eventsSubscribed = true → outcome.2.eventsSubscribed = true
  emits : outcome.1.serverAction = .emitEventsSubscribed →
    session.eventsSubscribed = false ∧ outcome.2.eventsSubscribed = true

theorem staysOpen_answer (session : Session) {type : MessageType} (h : type ≠ .ready)
    (payload : Bytes) : session.StaysOpen ({ response := encodeJson type payload }, session) where
  stays := rfl
  state := rfl
  greets := fun hready => h (frameType?_encodeJson payload rfl hready).symm
  subscribed := id
  emits := fun h => by cases h

theorem staysOpen_action (session : Session) {action : ServerAction}
    (h : action ≠ .emitEventsSubscribed) (requestId : UInt64) (method params : Bytes) :
    session.StaysOpen
      ({ serverAction := action, actionRequestId := requestId, actionMethod := method,
         actionParamsJson := params }, session) where
  stays := rfl
  state := rfl
  greets := fun hready => by cases hready
  subscribed := id
  emits := fun hemit => absurd hemit h

theorem staysOpen_subscribe (session : Session) (payload : Bytes) :
    session.StaysOpen
      ({ response := encodeJson .response payload
         serverAction := if !session.eventsSubscribed then .emitEventsSubscribed else .none },
        { session with eventsSubscribed := true }) where
  stays := rfl
  state := rfl
  greets := fun hready => by cases frameType?_encodeJson payload rfl hready
  subscribed := fun _ => rfl
  emits := fun hemit => by
    cases hsub : session.eventsSubscribed with
    | false => exact ⟨rfl, rfl⟩
    | true =>
      rw [hsub] at hemit
      cases hemit

theorem handleRequest_staysOpen (session : Session) (payload : Bytes) :
    session.StaysOpen (session.handleRequest payload) := by
  simp only [handleRequest]
  by_cases hparse : (parseRequest payload).1 ≠ .none
  · rw [if_pos hparse]
    unfold rejectRequest
    split
    · simp only [responseError]
      exact session.staysOpen_answer (by decide) _
    · simp only [errorResult, Bool.false_eq_true, if_false]
      exact session.staysOpen_answer (by decide) _
  rw [if_neg hparse]
  by_cases hping : (parseRequest payload).2.method = text "network.ping"
  · rw [if_pos hping]
    simp only [responseSuccess]
    exact session.staysOpen_answer (by decide) _
  rw [if_neg hping]
  by_cases hsnapshot : (parseRequest payload).2.method = text "network.snapshot"
  · rw [if_pos hsnapshot]
    exact session.staysOpen_action (by decide) _ _ _
  rw [if_neg hsnapshot]
  by_cases hsubscribe : (parseRequest payload).2.method = text "network.events.subscribe"
  · rw [if_pos hsubscribe]
    simp only [responseSuccess]
    exact session.staysOpen_subscribe _
  · rw [if_neg hsubscribe]
    exact session.staysOpen_action (by decide) _ _ _

/-- What a session does with one frame. -/
theorem handleFrame_step (session : Session) (frame : Frame) :
    (session.state = .closed ∧ session.handleFrame frame = ({ closeAfterSend := true }, session)) ∨
    (session.Refuses frame ∧ ∃ failure, session.handleFrame frame =
      ({ response := encodeJson .error failure, closeAfterSend := true },
        { session with state := .closed })) ∨
    (session.Accepts frame ∧
      session.handleFrame frame = (session.readyResult, { session with state := .ready })) ∨
    (session.state = .ready ∧ frame.header.type = .request ∧
      session.handleFrame frame = session.handleRequest frame.payload) := by
  unfold handleFrame
  cases hstate : session.state with
  | closed => exact .inl ⟨rfl, rfl⟩
  | awaitHello =>
    simp only
    by_cases hhello : frame.header.type ≠ .hello
    · rw [if_pos hhello]
      exact .inr (.inl ⟨.inl hstate, _, rfl⟩)
    · rw [if_neg hhello]
      rcases session.handleHello_step frame.payload with hfailure | ⟨hrange, hready⟩
      · exact .inr (.inl ⟨.inl hstate, hfailure⟩)
      · exact .inr (.inr (.inl ⟨⟨hstate, Decidable.not_not.mp hhello, hrange⟩, hready⟩))
  | ready =>
    simp only
    by_cases hrequest : frame.header.type = .request
    · rw [if_pos hrequest]
      exact .inr (.inr (.inr ⟨trivial, hrequest, rfl⟩))
    · rw [if_neg hrequest]
      exact .inr (.inl ⟨.inr ⟨hstate, hrequest⟩, _, rfl⟩)

/-! ### Sequences of frames -/

/-- The session after these frames. -/
def after (session : Session) (frames : List Frame) : Session :=
  frames.foldl (fun session frame => (session.handleFrame frame).2) session

/-- The results for these frames. -/
def results (session : Session) : List Frame → List HandleResult
  | [] => []
  | frame :: frames =>
    (session.handleFrame frame).1 :: (session.handleFrame frame).2.results frames

theorem after_cons (session : Session) (frame : Frame) (frames : List Frame) :
    session.after (frame :: frames) = (session.handleFrame frame).2.after frames := rfl

theorem after_append (session : Session) (frames more : List Frame) :
    session.after (frames ++ more) = (session.after frames).after more :=
  List.foldl_append

/-- A closed session stays closed and asks for the end again. -/
theorem closed_results {session : Session} (h : session.state = .closed) (frames : List Frame) :
    session.after frames = session ∧
      ∀ result ∈ session.results frames, result = { closeAfterSend := true } := by
  induction frames with
  | nil => exact ⟨rfl, by rintro result ⟨⟩⟩
  | cons frame frames ih =>
    have hframe : session.handleFrame frame = ({ closeAfterSend := true }, session) := by
      unfold handleFrame
      rw [h]
    rw [after_cons, results, hframe]
    exact ⟨ih.1, List.forall_mem_cons.mpr ⟨rfl, ih.2⟩⟩

/-- What asks for closing has closed the session. -/
theorem closed_of_close {session : Session} {frame : Frame}
    (h : (session.handleFrame frame).1.closeAfterSend = true) :
    (session.handleFrame frame).2.state = .closed := by
  rcases session.handleFrame_step frame with
    ⟨hclosed, hframe⟩ | ⟨_, failure, hframe⟩ | ⟨_, hframe⟩ | ⟨_, _, hframe⟩
  · rw [hframe]
    exact hclosed
  · rw [hframe]
  · rw [hframe] at h
    cases h
  · rw [hframe, (session.handleRequest_staysOpen frame.payload).stays] at h
    cases h

/-- A ready session that waited for HELLO has accepted one. -/
theorem accepts_of_after_ready {session : Session} {frames : List Frame}
    (hwait : session.state = .awaitHello) (h : (session.after frames).state = .ready) :
    ∃ hello rest, frames = hello :: rest ∧ session.Accepts hello := by
  cases frames with
  | nil => cases hwait.symm.trans h
  | cons frame frames =>
    rcases session.handleFrame_step frame with
      ⟨hclosed, _⟩ | ⟨_, failure, hframe⟩ | ⟨haccepts, _⟩ | ⟨hready, _, _⟩
    · cases hwait.symm.trans hclosed
    · rw [after_cons, hframe, (closed_results rfl frames).1] at h
      cases h
    · exact ⟨frame, frames, rfl, haccepts⟩
    · cases hwait.symm.trans hready

/-- Only a ready session answers with a RESPONSE or asks the server for something. -/
theorem ready_of_answer {session : Session} {frame : Frame}
    (h : (session.handleFrame frame).1.frameType? = some .response ∨
      (session.handleFrame frame).1.serverAction ≠ .none) : session.state = .ready := by
  rcases session.handleFrame_step frame with
    ⟨_, hframe⟩ | ⟨_, failure, hframe⟩ | ⟨_, hframe⟩ | ⟨hready, _, _⟩
  · rw [hframe] at h
    rcases h with h | h
    · cases h
    · exact absurd rfl h
  · rw [hframe] at h
    rcases h with h | h
    · cases frameType?_encodeJson failure rfl h
    · exact absurd rfl h
  · rw [hframe, readyResult] at h
    rcases h with h | h
    · cases frameType?_encodeJson _ rfl h
    · exact absurd rfl h
  · exact hready

/-- READY is sent by a session that waits for HELLO, once. -/
theorem countP_ready (session : Session) (frames : List Frame) :
    (session.results frames).countP (fun result => result.frameType? = some .ready) ≤
      if session.state = .awaitHello then 1 else 0 := by
  induction frames generalizing session with
  | nil => exact Nat.zero_le _
  | cons frame frames ih =>
    have hrest := ih (session.handleFrame frame).2
    rw [results, List.countP_cons]
    rcases session.handleFrame_step frame with
      ⟨hclosed, hframe⟩ | ⟨_, failure, hframe⟩ | ⟨haccepts, hframe⟩ | ⟨hready, _, hframe⟩
    · rw [hframe, hclosed] at hrest
      rw [hframe, hclosed]
      exact hrest
    · have hother : ¬(session.handleFrame frame).1.frameType? = some .ready := by
        rw [hframe]
        intro h
        cases frameType?_encodeJson failure rfl h
      rw [hframe] at hrest
      rw [if_neg (by simpa using hother), hframe]
      exact Nat.le_trans hrest (Nat.zero_le _)
    · have hnone : ((session.handleFrame frame).2.results frames).countP
          (fun result => result.frameType? = some .ready) = 0 := by
        rw [hframe] at hrest ⊢
        exact Nat.le_zero.mp hrest
      rw [hnone, haccepts.1, if_pos rfl]
      split <;> omega
    · have hopen := session.handleRequest_staysOpen frame.payload
      rw [← hframe] at hopen
      rw [hopen.state, hready] at hrest
      rw [if_neg (by simpa using hopen.greets), hready]
      exact hrest

/-- The server hears of a subscription once. -/
theorem countP_emit (session : Session) (frames : List Frame) :
    (session.results frames).countP (fun result => result.serverAction = .emitEventsSubscribed) ≤
      if session.eventsSubscribed then 0 else 1 := by
  induction frames generalizing session with
  | nil => exact Nat.zero_le _
  | cons frame frames ih =>
    have hrest := ih (session.handleFrame frame).2
    rw [results, List.countP_cons]
    rcases session.handleFrame_step frame with
      ⟨_, hframe⟩ | ⟨_, failure, hframe⟩ | ⟨_, hframe⟩ | ⟨_, _, hframe⟩
    · rw [hframe] at hrest ⊢
      exact hrest
    · rw [hframe] at hrest ⊢
      exact hrest
    · rw [hframe] at hrest ⊢
      exact hrest
    · have hopen := session.handleRequest_staysOpen frame.payload
      rw [← hframe] at hopen
      by_cases hemit : (session.handleFrame frame).1.serverAction = .emitEventsSubscribed
      · obtain ⟨hbefore, hafter⟩ := hopen.emits hemit
        rw [hafter] at hrest
        rw [if_pos (by simpa using hemit), hbefore]
        exact Nat.add_le_add_right hrest 1
      · rw [if_neg (by simpa using hemit)]
        refine Nat.le_trans hrest ?_
        cases hsub : session.eventsSubscribed with
        | true =>
          exact Nat.le_of_eq (by rw [hopen.subscribed hsub])
        | false => split <;> simp

theorem after_subscribed {session : Session} (h : session.eventsSubscribed = true)
    (frames : List Frame) : (session.after frames).eventsSubscribed = true := by
  induction frames generalizing session with
  | nil => exact h
  | cons frame frames ih => exact ih (handleFrame_subscribed frame h)

/-- **Safety of the session.** Over every sequence of frames: no RESPONSE and no server action comes
before an accepted HELLO; READY and the first subscription come at most once, and a subscription
stays; a result that asks for closing leaves the session closed, and all later results are empty and
ask for closing again; and a request leaves a ready session ready. -/
theorem session_safety (generation : UInt64) (sessionId : Bytes) :
    (∀ (before : List Frame) (frame : Frame),
      ((((create generation sessionId).after before).handleFrame frame).1.frameType? =
          some .response ∨
        (((create generation sessionId).after before).handleFrame frame).1.serverAction ≠ .none) →
      ∃ hello rest, before = hello :: rest ∧ (create generation sessionId).Accepts hello) ∧
    (∀ frames, ((create generation sessionId).results frames).countP
      (fun result => result.frameType? = some .ready) ≤ 1) ∧
    (∀ frames, ((create generation sessionId).results frames).countP
      (fun result => result.serverAction = .emitEventsSubscribed) ≤ 1) ∧
    (∀ before rest, ((create generation sessionId).after before).eventsSubscribed = true →
      ((create generation sessionId).after (before ++ rest)).eventsSubscribed = true) ∧
    (∀ (before : List Frame) (frame : Frame) (rest : List Frame),
      (((create generation sessionId).after before).handleFrame frame).1.closeAfterSend = true →
      ((create generation sessionId).after (before ++ [frame])).state = .closed ∧
      ((create generation sessionId).after (before ++ frame :: rest)).state = .closed ∧
      ∀ result ∈ ((create generation sessionId).after (before ++ [frame])).results rest,
        result = { closeAfterSend := true }) ∧
    ∀ (before : List Frame) (frame : Frame),
      ((create generation sessionId).after before).state = .ready →
      frame.header.type = .request →
      ((create generation sessionId).after (before ++ [frame])).state = .ready ∧
      (((create generation sessionId).after before).handleFrame frame).1.closeAfterSend = false := by
  have hwait : (create generation sessionId).state = .awaitHello := rfl
  generalize create generation sessionId = session at hwait
  refine ⟨?_, ?_, ?_, ?_, ?_, ?_⟩
  · intro before frame h
    exact accepts_of_after_ready hwait (ready_of_answer h)
  · intro frames
    have hcount := session.countP_ready frames
    rw [if_pos hwait] at hcount
    exact hcount
  · intro frames
    refine Nat.le_trans (session.countP_emit frames) ?_
    split <;> omega
  · intro before rest h
    rw [after_append]
    exact after_subscribed h rest
  · intro before frame rest h
    have hclosed := closed_of_close h
    rw [after_append, after_append]
    show ((session.after before).handleFrame frame).2.state = .closed ∧
      (((session.after before).handleFrame frame).2.after rest).state = .closed ∧ _
    rw [(closed_results hclosed rest).1]
    exact ⟨hclosed, hclosed, (closed_results hclosed rest).2⟩
  · intro before frame hready hrequest
    have hopen := (session.after before).handleRequest_staysOpen frame.payload
    have hframe : (session.after before).handleFrame frame =
        (session.after before).handleRequest frame.payload := by
      unfold handleFrame
      rw [hready]
      simp only
      rw [if_pos hrequest]
    rw [after_append]
    show ((session.after before).handleFrame frame).2.state = .ready ∧ _
    rw [hframe]
    exact ⟨hopen.state.trans hready, hopen.stays⟩

-- A greeting, two subscriptions, a request that is not JSON, a second greeting and a request.
example :
    ((create 7 (text "s")).results
      [messageFrame (.hello, text "\x7b\"minVersion\":1,\"maxVersion\":2\x7d"),
        messageFrame (.request, text "\x7b\"requestId\":5,\"method\":\"network.events.subscribe\"\x7d"),
        messageFrame (.request, text "\x7b\"requestId\":6,\"method\":\"network.events.subscribe\"\x7d"),
        messageFrame (.request, []), messageFrame (.hello, []), messageFrame (.request, [])]).map
      (fun result => (result.frameType?, result.serverAction, result.closeAfterSend)) =
    [(some .ready, .none, false), (some .response, .emitEventsSubscribed, false),
      (some .response, .none, false), (some .error, .none, false), (some .error, .none, true),
      (none, .none, true)] := by
  decide +kernel

end Session

end NetworkService.Ipc
