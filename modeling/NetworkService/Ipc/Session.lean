import NetworkService.Ipc.RequestText

/-!
# The v1 session

A session waits for HELLO, then answers REQUEST frames until a frame that a ready client must not
send closes it.  It answers by itself what needs no other part of the service and asks the server
for the rest by a server action.
-/

namespace NetworkService.Ipc

inductive SessionState
  | awaitHello
  | ready
  | closed
  deriving DecidableEq, Repr

inductive ServerAction
  | none
  | emitEventsSubscribed
  | sendAuthoritativeSnapshot
  | dispatchBusinessRequest
  deriving DecidableEq, Repr

/-- An empty response is no response. -/
structure HandleResult where
  response : Bytes := []
  closeAfterSend : Bool := false
  serverAction : ServerAction := .none
  actionRequestId : UInt64 := 0
  actionMethod : Bytes := []
  actionParamsJson : Bytes := [openBrace, closeBrace]
  deriving DecidableEq

structure Session where
  generation : UInt64
  sessionId : Bytes
  state : SessionState := .awaitHello
  eventsSubscribed : Bool := false
  deriving DecidableEq

namespace Session

/-- The constructor of the source: a generation of zero counts as one. -/
def create (generation : UInt64) (sessionId : Bytes) : Session :=
  { generation := if generation = 0 then 1 else generation, sessionId := sessionId }

def ready (session : Session) : Bool := session.state == .ready

/-! ### Result builders -/

def errorText (code message : Bytes) : Bytes :=
  text "\x7b\"code\":\"" ++ code ++ text "\",\"message\":\"" ++ message ++ text "\"\x7d"

def errorResult (session : Session) (code message : String) (closeAfterSend : Bool) :
    HandleResult × Session :=
  ({ response := encodeJson .error (errorText (text code) (text message))
     closeAfterSend := closeAfterSend },
    if closeAfterSend then { session with state := .closed } else session)

def readyText (session : Session) : Bytes :=
  text "\x7b\"version\":1,\"service\":\"network_service\",\"sessionId\":\"" ++ session.sessionId ++
    text "\",\"generation\":" ++ decimal session.generation ++
    text (",\"capabilities\":[\"request-response\",\"events\",\"snapshot-rebase\"," ++
      "\"network-control\"]\x7d")

def readyResult (session : Session) : HandleResult :=
  { response := encodeJson .ready session.readyText }

def successText (requestId : UInt64) (resultJson : Bytes) : Bytes :=
  text "\x7b\"requestId\":" ++ decimal requestId ++ text ",\"status\":200,\"result\":" ++
    resultJson ++ text "\x7d"

def responseSuccess (requestId : UInt64) (resultJson : Bytes) : HandleResult :=
  { response := encodeJson .response (successText requestId resultJson) }

def failureText (requestId : UInt64) (status : UInt64) (code message : String) : Bytes :=
  text "\x7b\"requestId\":" ++ decimal requestId ++ text ",\"status\":" ++ decimal status ++
    text ",\"error\":\x7b\"code\":\"" ++ text code ++ text "\",\"message\":\"" ++ text message ++
    text "\"\x7d\x7d"

def responseError (requestId : UInt64) (status : UInt64) (code message : String) : HandleResult :=
  { response := encodeJson .response (failureText requestId status code message) }

/-! ### Requests -/

/-- The request could not be read.  It is answered under its id if the id was read before the
mistake. -/
def rejectRequest (session : Session) (parseError : RequestParseError) (request : ParsedRequest) :
    HandleResult × Session :=
  if request.haveRequestId ∧ parseError ≠ .duplicateRequestId ∧
      parseError ≠ .invalidRequestId then
    (responseError request.requestId 400 "INVALID_REQUEST" (requestErrorMessage parseError),
      session)
  else session.errorResult "INVALID_REQUEST_ID" (requestErrorMessage parseError) false

def handleRequest (session : Session) (payload : Bytes) : HandleResult × Session :=
  let (parseError, request) := parseRequest payload
  if parseError ≠ .none then session.rejectRequest parseError request
  else if request.method = text "network.ping" then
    (responseSuccess request.requestId
      (text "\x7b\"service\":\"network_service\",\"protocolVersion\":1\x7d"), session)
  else if request.method = text "network.snapshot" then
    ({ serverAction := .sendAuthoritativeSnapshot, actionRequestId := request.requestId }, session)
  else if request.method = text "network.events.subscribe" then
    let result := responseSuccess request.requestId (text "\x7b\"subscribed\":true\x7d")
    let firstSubscription := !session.eventsSubscribed
    ({ result with
        serverAction :=
          if firstSubscription then .emitEventsSubscribed else result.serverAction },
      { session with eventsSubscribed := true })
  else
    ({ serverAction := .dispatchBusinessRequest
       actionRequestId := request.requestId
       actionMethod := request.method
       actionParamsJson := request.paramsJson }, session)

def handleHello (session : Session) (payload : Bytes) : HandleResult × Session :=
  match parseHelloVersions payload with
  | none => session.errorResult "INVALID_HELLO" "HELLO payload is invalid" true
  | some (minVersion, maxVersion) =>
    if kProtocolVersion.toUInt64 < minVersion ∨ maxVersion < kProtocolVersion.toUInt64 then
      session.errorResult "UNSUPPORTED_VERSION"
        "protocol version 1 is not supported by client range" true
    else (session.readyResult, { session with state := .ready })

def handleFrame (session : Session) (frame : Frame) : HandleResult × Session :=
  match session.state with
  | .closed => ({ closeAfterSend := true }, session)
  | .awaitHello =>
    if frame.header.type ≠ .hello then
      session.errorResult "SESSION_NOT_READY" "HELLO required before REQUEST" true
    else session.handleHello frame.payload
  | .ready =>
    if frame.header.type = .request then session.handleRequest frame.payload
    else session.errorResult "PROTOCOL_VIOLATION" "unexpected client frame for READY session" true

/-! ### What one frame can do -/

/-- A frame of the session or of the dispatcher: any message but an event. -/
def IsReply (frame : Bytes) : Prop := ∃ type payload, type ≠ .event ∧ frame = encodeJson type payload

theorem isReply_encodeJson {type : MessageType} (h : type ≠ .event) (payload : Bytes) :
    IsReply (encodeJson type payload) := ⟨type, payload, h, rfl⟩

theorem errorResult_isReply (session : Session) (code message : String) (closeAfterSend : Bool) :
    IsReply (session.errorResult code message closeAfterSend).1.response := by
  simp only [errorResult]
  exact isReply_encodeJson (by decide) _

theorem readyResult_isReply (session : Session) : IsReply session.readyResult.response := by
  simp only [readyResult]
  exact isReply_encodeJson (by decide) _

theorem responseSuccess_isReply (requestId : UInt64) (resultJson : Bytes) :
    IsReply (responseSuccess requestId resultJson).response := by
  simp only [responseSuccess]
  exact isReply_encodeJson (by decide) _

theorem responseError_isReply (requestId status : UInt64) (code message : String) :
    IsReply (responseError requestId status code message).response := by
  simp only [responseError]
  exact isReply_encodeJson (by decide) _

theorem rejectRequest_isReply (session : Session) (parseError : RequestParseError)
    (request : ParsedRequest) :
    IsReply (session.rejectRequest parseError request).1.response := by
  unfold rejectRequest
  split
  · exact responseError_isReply _ _ _ _
  · exact errorResult_isReply _ _ _ _

theorem handleRequest_response (session : Session) (payload : Bytes) :
    (session.handleRequest payload).1.response = [] ∨
      IsReply (session.handleRequest payload).1.response := by
  unfold handleRequest
  simp only
  split
  · exact .inr (rejectRequest_isReply session _ _)
  split
  · exact .inr (responseSuccess_isReply _ _)
  split
  · exact .inl rfl
  split
  · refine .inr ?_
    simp only [responseSuccess]
    exact isReply_encodeJson (by decide) _
  · exact .inl rfl

theorem handleHello_isReply (session : Session) (payload : Bytes) :
    IsReply (session.handleHello payload).1.response := by
  unfold handleHello
  split
  · exact errorResult_isReply _ _ _ _
  · split
    · exact errorResult_isReply _ _ _ _
    · exact readyResult_isReply session

/-- The session never makes an event by itself. -/
theorem handleFrame_response (session : Session) (frame : Frame) :
    (session.handleFrame frame).1.response = [] ∨
      IsReply (session.handleFrame frame).1.response := by
  unfold handleFrame
  split
  · exact .inl rfl
  · refine .inr ?_
    split
    · exact errorResult_isReply _ _ _ _
    · exact handleHello_isReply session frame.payload
  · split
    · exact handleRequest_response session frame.payload
    · exact .inr (errorResult_isReply _ _ _ _)

theorem errorResult_close (session : Session) (code message : String) :
    (session.errorResult code message true).1.serverAction = .none ∧
      (session.errorResult code message true).2 = { session with state := .closed } := ⟨rfl, rfl⟩

theorem rejectRequest_none (session : Session) (parseError : RequestParseError)
    (request : ParsedRequest) :
    (session.rejectRequest parseError request).1.serverAction = .none ∧
      (session.rejectRequest parseError request).2 = session := by
  unfold rejectRequest
  split
  · exact ⟨rfl, rfl⟩
  · exact ⟨rfl, rfl⟩

/-- A request leaves the session as it is or subscribes it. -/
theorem handleRequest_cases (session : Session) (payload : Bytes) :
    (session.handleRequest payload).2 = session ∨
      ((session.handleRequest payload).2 = { session with eventsSubscribed := true } ∧
        (session.handleRequest payload).1.serverAction ≠ .sendAuthoritativeSnapshot) := by
  unfold handleRequest
  simp only
  split
  · exact .inl (rejectRequest_none session _ _).2
  split
  · exact .inl rfl
  split
  · exact .inl rfl
  split
  · refine .inr ⟨rfl, ?_⟩
    split <;> simp [responseSuccess]
  · exact .inl rfl

/-- **One frame of a client.** A ready session goes on, perhaps subscribed; a session that waits for
HELLO becomes ready; or the session is closed.  Only a ready session answers with a snapshot, and it
is not changed by it. -/
theorem handleFrame_cases (session : Session) (frame : Frame) :
    (session.state = .ready ∧ (session.handleFrame frame).2 = session) ∨
    (session.state = .ready ∧
      (session.handleFrame frame).2 = { session with eventsSubscribed := true } ∧
      (session.handleFrame frame).1.serverAction ≠ .sendAuthoritativeSnapshot) ∨
    (session.state = .awaitHello ∧
      (session.handleFrame frame).2 = { session with state := .ready } ∧
      (session.handleFrame frame).1.serverAction = .none) ∨
    ((session.handleFrame frame).2 = { session with state := .closed } ∧
      (session.handleFrame frame).1.serverAction = .none) := by
  unfold handleFrame
  split
  next h =>
    refine .inr (.inr (.inr ⟨?_, rfl⟩))
    rw [← h]
  next h =>
    split
    · exact .inr (.inr (.inr (errorResult_close session _ _).symm))
    · unfold handleHello
      split
      · exact .inr (.inr (.inr (errorResult_close session _ _).symm))
      · split
        · exact .inr (.inr (.inr (errorResult_close session _ _).symm))
        · exact .inr (.inr (.inl ⟨h, rfl, rfl⟩))
  next h =>
    split
    · rcases handleRequest_cases session frame.payload with hsame | hsub
      · exact .inl ⟨h, hsame⟩
      · exact .inr (.inl ⟨h, hsub⟩)
    · exact .inr (.inr (.inr (errorResult_close session _ _).symm))

/-- A subscribed session has said HELLO. -/
def Greeted (session : Session) : Prop :=
  session.eventsSubscribed = true → session.state ≠ .awaitHello

theorem handleFrame_greeted {session : Session} (frame : Frame) (h : session.Greeted) :
    (session.handleFrame frame).2.Greeted := by
  rcases handleFrame_cases session frame with
    ⟨_, hs⟩ | ⟨hready, hs, _⟩ | ⟨hwait, hs, _⟩ | ⟨hs, _⟩
  · rw [hs]
    exact h
  · rw [hs]
    intro _ hwait
    exact absurd (hready.symm.trans hwait) (by decide)
  · rw [hs]
    intro _
    simp
  · rw [hs]
    intro _
    simp

/-- A subscription survives every frame. -/
theorem handleFrame_subscribed {session : Session} (frame : Frame)
    (h : session.eventsSubscribed = true) :
    (session.handleFrame frame).2.eventsSubscribed = true := by
  rcases handleFrame_cases session frame with ⟨_, hs⟩ | ⟨_, hs, _⟩ | ⟨_, hs, _⟩ | ⟨hs, _⟩
  · rw [hs]
    exact h
  · rw [hs]
  · rw [hs]
    exact h
  · rw [hs]
    exact h

/-- A subscribed session that is ready after a frame was ready before it. -/
theorem ready_of_handleFrame_ready {session : Session} {frame : Frame} (hgreeted : session.Greeted)
    (hsub : session.eventsSubscribed = true) (h : (session.handleFrame frame).2.ready = true) :
    session.ready = true := by
  rcases handleFrame_cases session frame with
    ⟨hready, _⟩ | ⟨hready, _, _⟩ | ⟨hwait, _, _⟩ | ⟨hs, _⟩
  · simp [ready, hready]
  · simp [ready, hready]
  · exact absurd hwait (hgreeted hsub)
  · rw [hs] at h
    exact absurd h (by simp [ready])

end Session

end NetworkService.Ipc
