import NetworkService.Ipc.BusinessDispatch
import NetworkService.Ipc.Events
import NetworkService.Ipc.RequestWellformed

/-!
# The answer to a frame

A frame is answered by the session itself, or the session leaves the answer to the server.  Whoever
answers, an accepted request gets a RESPONSE with the id that is written in it.
-/

namespace NetworkService.Ipc

open Json

/-! ### Answers -/

/-- The RESPONSE to an accepted request: its id is the number that is written in the payload. -/
def RespondsTo (payload answer : Bytes) : Prop :=
  ∃ id outcome value, answer = encodeJson .response (correlatedText id outcome) ∧
    requestIdText payload = some value ∧ WritesId value id

/-- What is sent for a frame: never an event, for a request of a ready session a RESPONSE or an
ERROR, and for an accepted one its RESPONSE. -/
structure AnswerTo (session : Session) (frame : Frame) (answer : Bytes) : Prop where
  ne_nil : answer ≠ []
  reply : Session.IsReply answer
  kind : ReadyRequest session frame →
    (∃ payload, answer = encodeJson .response payload) ∨ ∃ payload, answer = encodeJson .error payload
  responds : ReadyRequest session frame → (parseRequest frame.payload).1 = .none →
    RespondsTo frame.payload answer

theorem writesId_of_accepted {payload : Bytes} (h : (parseRequest payload).1 = .none) :
    ∃ value, requestIdText payload = some value ∧
      WritesId value (parseRequest payload).2.requestId := by
  obtain ⟨rest, -, hmembers, hid⟩ := parseRequest_none h
  obtain ⟨value, hvalue, hwrites, -⟩ := (requestMembers_writesId hmembers).2 rfl
  exact ⟨value, hid.trans hvalue, hwrites⟩

/-- A RESPONSE with the id that was read answers the request. -/
theorem answerTo_response {session : Session} {frame : Frame} {outcome : Bytes}
    (haccepted : (parseRequest frame.payload).1 = .none)
    (hne : encodeJson .response (correlatedText (parseRequest frame.payload).2.requestId outcome) ≠ []) :
    AnswerTo session frame
      (encodeJson .response (correlatedText (parseRequest frame.payload).2.requestId outcome)) where
  ne_nil := hne
  reply := Session.isReply_encodeJson (by decide) _
  kind _ := .inl ⟨_, rfl⟩
  responds _ _ := by
    obtain ⟨value, hvalue, hwrites⟩ := writesId_of_accepted haccepted
    exact ⟨_, outcome, value, rfl, hvalue, hwrites⟩

/-- A request that is not accepted may be answered by anything but an event. -/
theorem answerTo_rejected {session : Session} {frame : Frame} {type : MessageType} {payload : Bytes}
    (hrejected : (parseRequest frame.payload).1 ≠ .none) (htype : type = .response ∨ type = .error)
    (hne : encodeJson type payload ≠ []) : AnswerTo session frame (encodeJson type payload) where
  ne_nil := hne
  reply := by
    rcases htype with rfl | rfl
    · exact Session.isReply_encodeJson (by decide) _
    · exact Session.isReply_encodeJson (by decide) _
  kind _ := by
    rcases htype with rfl | rfl
    · exact .inl ⟨_, rfl⟩
    · exact .inr ⟨_, rfl⟩
  responds _ haccepted := absurd haccepted hrejected

/-- Outside the ready session there is no request to answer. -/
theorem answerTo_other {session : Session} {frame : Frame} {type : MessageType} {payload : Bytes}
    (hother : ¬ReadyRequest session frame) (htype : type ≠ .event)
    (hne : encodeJson type payload ≠ []) : AnswerTo session frame (encodeJson type payload) where
  ne_nil := hne
  reply := Session.isReply_encodeJson htype _
  kind hready := absurd hready hother
  responds hready := absurd hready hother

/-! ### What a session leaves to be done -/

/-- The outcome of a frame: an answer, perhaps with an event behind it; nothing at all; or an
accepted request whose answer the server makes. -/
inductive Outcome (session : Session) (frame : Frame) (result : HandleResult) : Prop
  | answer (hanswer : AnswerTo session frame result.response)
      (haction : result.serverAction = .none ∨ result.serverAction = .emitEventsSubscribed)
  | silent (hresponse : result.response = []) (haction : result.serverAction = .none)
  | deferred (haccepted : (parseRequest frame.payload).1 = .none) (hresponse : result.response = [])
      (hid : result.actionRequestId = (parseRequest frame.payload).2.requestId)
      (haction : result.serverAction = .sendAuthoritativeSnapshot ∨
        result.serverAction = .dispatchBusinessRequest)

theorem outcome_response {session : Session} {frame : Frame} {result : HandleResult}
    (h : result.response ≠ [] → AnswerTo session frame result.response)
    (haction : result.serverAction = .none) : Outcome session frame result := by
  by_cases hempty : result.response = []
  · exact .silent hempty haction
  · exact .answer (h hempty) (.inl haction)

theorem answerTo_success {session : Session} {frame : Frame} {resultJson : Bytes}
    (haccepted : (parseRequest frame.payload).1 = .none) (hlength : resultJson.length ≤ 1000)
    {result : HandleResult}
    (hresponse : result.response =
      (Session.responseSuccess (parseRequest frame.payload).2.requestId resultJson).response) :
    AnswerTo session frame result.response := by
  rw [hresponse, responseSuccess_response, successText_eq]
  exact answerTo_response haccepted (correlatedText_ne_nil _ (successOutcome_length hlength))

theorem handleRequest_outcome (session : Session) (frame : Frame) :
    Outcome session frame (session.handleRequest frame.payload).1 := by
  simp only [Session.handleRequest]
  by_cases hparse : (parseRequest frame.payload).1 ≠ .none
  · rw [if_pos hparse]
    refine outcome_response ?_ (session.rejectRequest_none _ _).1
    unfold Session.rejectRequest
    split
    · rw [responseError_response]
      exact answerTo_rejected hparse (.inl rfl)
    · simp only [Session.errorResult]
      exact answerTo_rejected hparse (.inr rfl)
  rw [if_neg hparse]
  have haccepted := Decidable.not_not.mp hparse
  by_cases hping : (parseRequest frame.payload).2.method = text "network.ping"
  · rw [if_pos hping]
    exact .answer (answerTo_success haccepted pingJson_length rfl) (.inl rfl)
  rw [if_neg hping]
  by_cases hsnapshot : (parseRequest frame.payload).2.method = text "network.snapshot"
  · rw [if_pos hsnapshot]
    exact .deferred haccepted rfl rfl (.inl rfl)
  rw [if_neg hsnapshot]
  by_cases hsubscribe : (parseRequest frame.payload).2.method = text "network.events.subscribe"
  · rw [if_pos hsubscribe]
    refine .answer (answerTo_success haccepted subscribedJson_length ?_) ?_
    · simp only
    · simp only
      cases session.eventsSubscribed with
      | true => exact .inl rfl
      | false => exact .inr rfl
  · rw [if_neg hsubscribe]
    exact .deferred haccepted rfl rfl (.inr rfl)

/-- **One frame leaves at most one answer to be sent.** -/
theorem handleFrame_outcome (session : Session) (frame : Frame) :
    Outcome session frame (session.handleFrame frame).1 := by
  rcases session.handleFrame_step frame with
    ⟨-, heq⟩ | ⟨hrefuses, failure, heq⟩ | ⟨haccepts, heq⟩ | ⟨-, -, heq⟩
  · rw [heq]
    exact .silent rfl rfl
  · rw [heq]
    refine outcome_response (answerTo_other ?_ (by decide)) rfl
    intro hready
    rcases hrefuses with hwaits | ⟨-, hother⟩
    · cases hwaits.symm.trans hready.ready
    · exact hother hready.request
  · rw [heq]
    simp only [Session.readyResult]
    refine outcome_response (answerTo_other ?_ (by decide)) rfl
    intro hready
    cases haccepts.1.symm.trans hready.ready
  · rw [heq]
    exact handleRequest_outcome session frame

/-! ### Answers of the server -/

theorem snapshotJson_eq (requestId generation snapshotSeq : UInt64) (snapshot : Bytes) :
    ∃ outcome, snapshotJson requestId generation snapshotSeq snapshot =
      correlatedText requestId outcome := by
  have hstatus : text ",\"status\":200,\"result\":\x7b\"generation\":" =
      text ",\"status\":" ++ text "200,\"result\":\x7b\"generation\":" := by decide
  refine ⟨text "200,\"result\":\x7b\"generation\":" ++ decimal generation ++
    text ",\"snapshotSeq\":" ++ decimal snapshotSeq ++ text ",\"snapshot\":" ++ snapshot ++
    text "\x7d\x7d", ?_⟩
  unfold snapshotJson correlatedText
  rw [hstatus]
  simp only [List.append_assoc]

theorem answerTo_snapshot {session : Session} {frame : Frame} {generation snapshotSeq : UInt64}
    {snapshot : Bytes} (haccepted : (parseRequest frame.payload).1 = .none)
    (hne : encodeSnapshotResponse (parseRequest frame.payload).2.requestId generation snapshotSeq
      snapshot ≠ []) :
    AnswerTo session frame (encodeSnapshotResponse (parseRequest frame.payload).2.requestId generation
      snapshotSeq snapshot) := by
  unfold encodeSnapshotResponse at hne ⊢
  split at hne
  · exact absurd rfl hne
  next hvalid =>
    rw [if_neg hvalid]
    obtain ⟨outcome, heq⟩ := snapshotJson_eq (parseRequest frame.payload).2.requestId generation
      snapshotSeq snapshot
    rw [heq] at hne ⊢
    exact answerTo_response haccepted hne

theorem answerTo_business {session : Session} {frame : Frame} {daemon : DaemonCall → OperationResult}
    {method params : Bytes} (haccepted : (parseRequest frame.payload).1 = .none)
    (hne : dispatchBusinessRequest daemon (parseRequest frame.payload).2.requestId method params ≠ []) :
    AnswerTo session frame
      (dispatchBusinessRequest daemon (parseRequest frame.payload).2.requestId method params) := by
  obtain ⟨status, outcome, heq⟩ := businessResponse_eq daemon
    (parseRequest frame.payload).2.requestId method params
  have hcorrelated : businessText (parseRequest frame.payload).2.requestId status outcome =
      correlatedText (parseRequest frame.payload).2.requestId (text (toString status) ++ outcome) := by
    unfold businessText correlatedText
    rw [List.append_assoc]
  unfold dispatchBusinessRequest at hne ⊢
  rw [heq, hcorrelated] at hne ⊢
  exact answerTo_response haccepted hne

end NetworkService.Ipc
