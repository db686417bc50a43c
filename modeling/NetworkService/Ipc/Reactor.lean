import Mathlib.Algebra.Ring.Int.Defs
import NetworkService.Ipc.Session
import NetworkService.Ipc.BusinessDispatch
import NetworkService.Ipc.Events
import NetworkService.Ipc.Outbound

/-!
# The IPC reactor

One thread serves every client: it takes frames out of their decoders, hands them to their sessions,
queues the answers, sends events to the subscribed clients and writes what the sockets accept.

The functions follow the lambdas of `NetworkIpcServer::run`.  What the rest of the world answers
while one of them runs (the clock, `send` and `recv`, the daemon's snapshot and the outcome of its
operations) is given to it as an argument.  Three histories are kept that the program does not have:
what was received from each client, handled for it and offered to it, with the server's last
sequence number at that moment, what entered and left its queue and when, and the events that were
issued.
-/

namespace NetworkService.Ipc

def kClientHandshakeIdleTimeoutMs : Nat := 1000

def kMaxRequestBytes : Nat := 64 * 1024

def kMaxActiveClients : Nat := 8

def kReadBudgetPerTick : Nat := 16 * 1024

def kWriteBudgetPerTick : Nat := 64 * 1024

def kFramesPerClientTick : Nat := 4

def kReceiveBuffer : Nat := 4096

/-! ### Clients -/

inductive ClientProtocol
  | undecided
  | v0
  | v1
  deriving DecidableEq, Repr

/-- What a frame that is offered to a client is: the line that answers a v0 request, an answer of
the session or of the dispatcher, an event, or a snapshot. -/
inductive Stamp
  | line
  | reply
  | event (event : EventRecord)
  | snapshot (requestId generation snapshotSeq : UInt64) (snapshot : Bytes)
  deriving DecidableEq

/-- A frame given to `enqueue_frame`: whether the queue accepted it, and the server's last sequence
number and the client's subscription at that moment. -/
structure Offer where
  frame : Bytes
  stamp : Stamp
  accepted : Bool
  lastSequence : UInt64
  subscribed : Bool
  deriving DecidableEq

inductive ClientEvent
  | received (data : Bytes)
  | handled (frame : Frame)
  | requested (request : Bytes)
  | offered (offer : Offer)
  deriving DecidableEq

/-- A frame enters the queue of a client, or bytes leave it, with the time that the clock shows. -/
inductive QueueChange
  | enqueued (time : Nat) (frame : Bytes)
  | consumed (time bytes : Nat)
  deriving DecidableEq

structure ClientState where
  protocol : ClientProtocol := .undecided
  initial : Bytes := []
  v0Request : Bytes := []
  session : Option Session := none
  decoder : FrameDecoder := {}
  outbound : OutboundQueue := {}
  lastInputActivity : Nat
  writeProgressAt : Nat
  writeTimerActive : Bool := false
  closeAfterFlush : Bool := false
  closed : Bool := false
  history : List ClientEvent := []
  /-- newest first -/
  queueLog : List QueueChange := []
  deriving DecidableEq

def ClientEvent.offer? : ClientEvent → Option Offer
  | offered offer => some offer
  | _ => none

namespace ClientState

def create (now : Nat) : ClientState := { lastInputActivity := now, writeProgressAt := now }

def offers (client : ClientState) : List Offer := client.history.filterMap ClientEvent.offer?

def subscribed (client : ClientState) : Bool :=
  client.session.any fun session => session.eventsSubscribed

def sessionReady (client : ClientState) : Bool := client.session.any Session.ready

/-- The clients that `broadcast_event` does not skip. -/
def receivesEvents (client : ClientState) : Bool :=
  !client.closed && client.protocol == .v1 && client.sessionReady && client.subscribed

def close (client : ClientState) : ClientState := { client with closed := true }

def enqueueFrame (now : Nat) (lastSequence : UInt64) (stamp : Stamp) (frame : Bytes)
    (client : ClientState) : Bool × ClientState :=
  let wasEmpty := client.outbound.isEmpty
  let (result, outbound) := client.outbound.enqueue frame
  let accepted := decide (result = .accepted)
  let history :=
    client.history ++ [.offered ⟨frame, stamp, accepted, lastSequence, client.subscribed⟩]
  if accepted then
    (true, { client with
      outbound := outbound
      writeTimerActive := client.writeTimerActive || wasEmpty
      writeProgressAt := if wasEmpty then now else client.writeProgressAt
      history := history
      queueLog := .enqueued now frame :: client.queueLog })
  else (false, { client with closed := true, history := history })

end ClientState

/-! ### Writing -/

/-- A reply of `send`, and the clock when it is looked at.  An interrupted call is made again, so
it is not a reply of its own. -/
inductive SendReply
  | wrote (time bytes : Nat)
  | wouldBlock (time : Nat)
  | failed
  deriving DecidableEq

/-- The replies of one `flush_client`; the kernel blocks when they are used up. -/
structure FlushReplies where
  sends : List SendReply := []
  now : Nat := 0
  deriving DecidableEq

namespace ClientState

def armTimer (now : Nat) (client : ClientState) : ClientState :=
  if client.writeTimerActive then client
  else { client with writeTimerActive := true, writeProgressAt := now }

/-- Behind the loop of `flush_client`: the queue is drained or the budget is used up. -/
def endFlush (now : Nat) (client : ClientState) : ClientState :=
  if client.outbound.isEmpty then
    { client with writeTimerActive := false, closed := client.closed || client.closeAfterFlush }
  else client.armTimer now

def flushLoop (now : Nat) : List SendReply → Nat → ClientState → ClientState
  | sends, budget, client =>
    if client.outbound.isEmpty ∨ budget = 0 then client.endFlush now
    else
      match sends with
      | [] => client.armTimer now
      | .wouldBlock time :: _ => client.armTimer time
      | .failed :: _ => client.close
      | .wrote time bytes :: sends =>
        -- `send` never reports more than it was given
        let consumed := min bytes (min client.outbound.frontSize budget)
        if consumed = 0 then client.close
        else
          let (taken, outbound) := client.outbound.consume consumed
          if !taken then client.close
          else
            flushLoop now sends (budget - consumed) { client with
              outbound := outbound
              writeProgressAt := time
              writeTimerActive := !outbound.isEmpty
              queueLog := .consumed time consumed :: client.queueLog }

def flushClient (replies : FlushReplies) (client : ClientState) : ClientState :=
  if client.closed ∨ client.outbound.isEmpty then
    { client with
      writeTimerActive := client.writeTimerActive && !client.outbound.isEmpty
      closed := client.closed || (client.closeAfterFlush && client.outbound.isEmpty) }
  else flushLoop replies.now replies.sends kWriteBudgetPerTick client

/-- The reactor flushes a client that has something to send. -/
def flushPending (replies : FlushReplies) (client : ClientState) : ClientState :=
  if client.outbound.isEmpty then client else client.flushClient replies

end ClientState

/-! ### The server -/

abbrev ClientId := Nat

/-- An event that was issued, and when. -/
structure Issued where
  event : EventRecord
  now : Nat
  deriving DecidableEq

/-- The clients are known by the order in which they were accepted. -/
structure Server where
  generation : UInt64
  sequencer : EventSequencer
  nextSessionSequence : UInt64 := 1
  clients : List (ClientId × ClientState) := []
  nextClient : Nat := 0
  issued : List Issued := []
  distinct : (clients.map Prod.fst).Nodup := by simp
  known : ∀ id ∈ clients.map Prod.fst, id < nextClient := by simp
  deriving DecidableEq

def makeServerGeneration (now pid : UInt64) : UInt64 :=
  let generation := now ^^^ (pid <<< 32)
  if generation = 0 then 1 else generation

namespace Server

def start (now pid : UInt64) : Server :=
  { generation := makeServerGeneration now pid
    sequencer := .create (makeServerGeneration now pid) }

def client? (s : Server) (id : ClientId) : Option ClientState := s.clients.lookup id

theorem map_fst_map (clients : List (ClientId × ClientState))
    (f : ClientId → ClientState → ClientState) :
    (clients.map fun entry => (entry.1, f entry.1 entry.2)).map Prod.fst =
      clients.map Prod.fst := by
  simp

def mapClients (s : Server) (f : ClientId → ClientState → ClientState) : Server :=
  { s with
    clients := s.clients.map fun entry => (entry.1, f entry.1 entry.2)
    distinct := by rw [map_fst_map]; exact s.distinct
    known := by rw [map_fst_map]; exact s.known }

def update (s : Server) (id : ClientId) (f : ClientState → ClientState) : Server :=
  s.mapClients fun other client => if other = id then f client else client

def close (s : Server) (id : ClientId) : Server := s.update id .close

/-- `enqueue_frame` for one client. -/
def enqueueFrame (s : Server) (id : ClientId) (now : Nat) (stamp : Stamp) (frame : Bytes) :
    Bool × Server :=
  ((s.client? id).any fun client =>
      (client.enqueueFrame now s.sequencer.lastSequence stamp frame).1,
    s.update id fun client => (client.enqueueFrame now s.sequencer.lastSequence stamp frame).2)

/-- One turn of the loop of `broadcast_event`. -/
def offerEvent (issued : Issued) (lastSequence : UInt64) (client : ClientState) : ClientState :=
  if client.receivesEvents then
    (client.enqueueFrame issued.now lastSequence (.event issued.event) issued.event.frame).2
  else client

def broadcastEvent (s : Server) (now : Nat) (eventName payloadJson : Bytes) : Bool × Server :=
  let (event, sequencer) := s.sequencer.encodeEvent eventName payloadJson
  if event = [] then (false, s)
  else
    let issued : Issued := ⟨s.sequencer.record eventName payloadJson, now⟩
    (true, { s.mapClients fun _ => offerEvent issued sequencer.lastSequence with
      sequencer := sequencer
      issued := s.issued ++ [issued] })

/-! ### State observations -/

structure NetworkStateChangeSet where
  eth : Bool := false
  wifi : Bool := false
  route : Bool := false
  dns : Bool := false
  deriving DecidableEq, Repr

namespace NetworkStateChangeSet

def any (changes : NetworkStateChangeSet) : Bool :=
  changes.eth || changes.wifi || changes.route || changes.dns

def categories (changes : NetworkStateChangeSet) : List String :=
  (if changes.eth then ["eth"] else []) ++ (if changes.wifi then ["wifi"] else []) ++
    (if changes.route then ["route"] else []) ++ (if changes.dns then ["dns"] else [])

end NetworkStateChangeSet

def stateChangesPayload (changes : NetworkStateChangeSet) : Bytes :=
  text "\x7b\"changed\":[" ++
    (text ",").intercalate (changes.categories.map fun name => text "\"" ++ text name ++ text "\"") ++
    text "]\x7d"

def observeState (s : Server) (now : Nat) (changes : NetworkStateChangeSet) : Server :=
  if changes.any then
    (s.broadcastEvent now (text "network.state.changed") (stateChangesPayload changes)).2
  else s

/-! ### Frames of a v1 client -/

/-- What the daemon and the kernel answer while one frame is processed: the text of the snapshot,
and the outcome of every call that a business request can make. -/
structure FrameReplies where
  now : Nat := 0
  snapshotPayload : Bytes := []
  daemon : DaemonCall → OperationResult := fun _ => {}
  flush : FlushReplies := {}

/-- A response that must reach the queue; the client is closed otherwise. -/
def sendOrClose (s : Server) (id : ClientId) (now : Nat) (stamp : Stamp) (response : Bytes) :
    Bool × Server :=
  if response = [] then (false, s.close id)
  else
    let (queued, s) := s.enqueueFrame id now stamp response
    if queued then (true, s) else (false, s.close id)

def performAction (s : Server) (id : ClientId) (replies : FrameReplies) (result : HandleResult) :
    Bool × Server :=
  match result.serverAction with
  | .none => (true, s)
  | .emitEventsSubscribed =>
    let (issued, s) :=
      s.broadcastEvent replies.now (text "network.events.subscribed") [openBrace, closeBrace]
    if issued then (true, s) else (false, s.close id)
  | .sendAuthoritativeSnapshot =>
    let snapshotSeq := s.sequencer.lastSequence
    s.sendOrClose id replies.now
      (.snapshot result.actionRequestId s.generation snapshotSeq replies.snapshotPayload)
      (encodeSnapshotResponse result.actionRequestId s.generation snapshotSeq
        replies.snapshotPayload)
  | .dispatchBusinessRequest =>
    s.sendOrClose id replies.now .reply
      (dispatchBusinessRequest replies.daemon result.actionRequestId result.actionMethod
        result.actionParamsJson)

/-- The answer of the session itself, if it has one. -/
def respond (s : Server) (id : ClientId) (now : Nat) (response : Bytes) : Bool × Server :=
  if response = [] then (true, s) else s.enqueueFrame id now .reply response

/-- The session's part in `process_v1_frame`: the frame is taken and handled. -/
def takeFrame (s : Server) (id : ClientId) (frame : Frame) (decoder : FrameDecoder)
    (session : Session) : Server :=
  s.update id fun client => { client with
    decoder := decoder
    session := some session
    history := client.history ++ [.handled frame] }

def isOpen (s : Server) (id : ClientId) : Bool := (s.client? id).any fun client => !client.closed

/-- The result is handled: answer, action, and the request to close. -/
def finishFrame (s : Server) (id : ClientId) (replies : FrameReplies) (result : HandleResult) :
    Bool × Server :=
  let (sent, s) := s.respond id replies.now result.response
  if !sent then (false, s)
  else
    let (performed, s) := s.performAction id replies result
    if !performed then (false, s)
    else
      let s := s.update id fun client =>
        { client with closeAfterFlush := client.closeAfterFlush || result.closeAfterSend }
      (s.isOpen id, s)

def processV1Frame (s : Server) (id : ClientId) (replies : FrameReplies) : Bool × Server :=
  match s.client? id with
  | none => (false, s)
  | some client =>
    match client.session, client.decoder.takeFrame with
    | some session, some (frame, decoder) =>
      if client.closed then (false, s)
      else
        let (result, session) := session.handleFrame frame
        (s.takeFrame id frame decoder session).finishFrame id replies result
    | _, _ => (false, s)

/-- The loop of `service_buffered_v1`, over the turns that are left. -/
def serviceLoop (id : ClientId) (replies : Nat → FrameReplies) : Nat → Server → Server
  | 0, s => s
  | turns + 1, s =>
    match s.client? id with
    | none => s
    | some client =>
      if client.closed || client.closeAfterFlush || !client.outbound.isEmpty ||
          !client.decoder.hasFrame then s
      else
        let (again, s) := s.processV1Frame id (replies turns)
        if !again then s
        else serviceLoop id replies turns (s.update id (.flushPending (replies turns).flush))

def serviceBufferedV1 (s : Server) (id : ClientId) (replies : Nat → FrameReplies) : Server :=
  match s.client? id with
  | none => s
  | some client =>
    if client.protocol ≠ .v1 ∨ client.session = none ∨ client.closed then s
    else serviceLoop id replies kFramesPerClientTick s

/-! ### Input -/

/-- A reply of `recv`, and the replies while its bytes are used.  No data is a failed call, empty
data a peer that has closed; `recv` would block when the replies are used up. -/
structure ReceiveReply where
  now : Nat := 0
  data : Option Bytes
  v0Response : Bytes := []
  v0Flush : FlushReplies := {}
  first : Nat → FrameReplies := fun _ => {}
  second : Nat → FrameReplies := fun _ => {}

def completeV0IfReady (s : Server) (id : ClientId) (reply : ReceiveReply) : Server :=
  match s.client? id with
  | none => s
  | some client =>
    if client.protocol ≠ .v0 ∨ client.closed ∨ client.closeAfterFlush then s
    else if ascii '\n' ∉ client.v0Request then s
    else
      let s := s.update id fun client =>
        { client with history := client.history ++ [.requested client.v0Request] }
      let (queued, s) := s.enqueueFrame id reply.now .line reply.v0Response
      if queued then
        s.update id fun client => { client with closeAfterFlush := true }.flushClient reply.v0Flush
      else s

def sessionIdText (s : Server) : Bytes :=
  text "ns-" ++ decimal s.generation ++ text "-" ++ decimal s.nextSessionSequence

/-- The bytes behind the first four decide for v1: a session is made and the decoder fed. -/
def commitV1 (s : Server) (id : ClientId) (initial : Bytes) : Server :=
  let session := Session.create s.generation s.sessionIdText
  { s.update id fun client =>
      let (status, decoder) := client.decoder.feed initial
      { client with
        protocol := .v1
        session := some session
        decoder := decoder
        initial := []
        closed := client.closed || status == .error } with
    nextSessionSequence := s.nextSessionSequence + 1 }

def commitV0 (s : Server) (id : ClientId) (initial : Bytes) : Server :=
  s.update id fun client => { client with
    protocol := .v0
    v0Request := initial
    initial := []
    closed := client.closed || decide (kMaxRequestBytes < initial.length) }

def startsWithV1Magic (data : Bytes) : Bool := kMagic.isPrefixOf data

def commitProtocolIfPossible (s : Server) (id : ClientId) (reply : ReceiveReply) : Server :=
  match s.client? id with
  | none => s
  | some client =>
    if client.protocol ≠ .undecided ∨ client.initial.length < kMagic.length ∨ client.closed then s
    else if startsWithV1Magic client.initial then
      (s.commitV1 id client.initial).serviceBufferedV1 id reply.first
    else (s.commitV0 id client.initial).completeV0IfReady id reply

/-- The bytes of one `recv`, by protocol. -/
def acceptBytes (s : Server) (id : ClientId) (reply : ReceiveReply) (data : Bytes) : Server :=
  match (s.client? id).map ClientState.protocol with
  | none => s
  | some .undecided =>
    let s := s.update id fun client =>
      let initial := client.initial ++ data
      { client with
        initial := initial
        closed := client.closed || decide (kMaxRequestBytes < initial.length)
        history := client.history ++ [.received data] }
    s.commitProtocolIfPossible id reply
  | some .v0 =>
    let s := s.update id fun client =>
      let v0Request := client.v0Request ++ data
      { client with
        v0Request := v0Request
        closed := client.closed || decide (kMaxRequestBytes < v0Request.length)
        history := client.history ++ [.received data] }
    s.completeV0IfReady id reply
  | some .v1 =>
    let s := s.update id fun client =>
      let (status, decoder) := client.decoder.feed data
      { client with
        decoder := decoder
        closed := client.closed || status == .error
        history := client.history ++ [.received data] }
    s.serviceBufferedV1 id reply.first

def receiveLoop (id : ClientId) : List ReceiveReply → Nat → Server → Server
  | [], _, s => s
  | reply :: replies, budget, s =>
    match s.client? id with
    | none => s
    | some client =>
      if budget = 0 ∨ client.closed ∨ !client.outbound.isEmpty ∨ client.closeAfterFlush then s
      else
        match reply.data with
        | none => s.close id
        | some received =>
          let data := received.take (min kReceiveBuffer budget)
          if data = [] then s.close id
          else
            let s := s.update id fun client => { client with lastInputActivity := reply.now }
            let s := s.acceptBytes id reply data
            let s := s.serviceBufferedV1 id reply.second
            receiveLoop id replies (budget - data.length) s

def receiveClient (s : Server) (id : ClientId) (replies : List ReceiveReply) : Server :=
  match s.client? id with
  | none => s
  | some client =>
    if client.closed ∨ !client.outbound.isEmpty ∨ client.closeAfterFlush then s
    else receiveLoop id replies kReadBudgetPerTick s

/-! ### Deadlines, poll and accept -/

end Server

def ClientState.needsInputDeadline (client : ClientState) : Bool :=
  !client.closeAfterFlush && (client.protocol != .v1 || !client.sessionReady)

/-- One turn of the loop of `apply_deadlines`. -/
def ClientState.applyDeadline (now : Nat) (client : ClientState) : ClientState :=
  if client.closed then client
  else if client.needsInputDeadline ∧
      client.lastInputActivity + kClientHandshakeIdleTimeoutMs ≤ now then client.close
  else if !client.outbound.isEmpty ∧ client.writeTimerActive ∧
      client.writeProgressAt + kDefaultWriteStallTimeoutMs ≤ now then client.close
  else client

/-- The poll of a client that has a frame to be served does not wait. -/
def ClientState.servesNow (client : ClientState) : Bool :=
  client.protocol == .v1 && client.session.isSome && client.decoder.hasFrame &&
    client.outbound.isEmpty && !client.closeAfterFlush

/-- `include_deadline`: no wait beyond the deadline, and none that an `int` does not hold. -/
def includeDeadline (now deadline : Nat) (timeout : Int) : Int :=
  let remaining : Int := deadline - now
  let candidate := if 0 < remaining then min remaining (2 ^ 31 - 1) else 0
  if timeout < 0 ∨ candidate < timeout then candidate else timeout

/-- One turn of the loop of `poll_timeout_ms` that does not return. -/
def ClientState.includeDeadlines (now : Nat) (client : ClientState) (timeout : Int) : Int :=
  let timeout :=
    if client.needsInputDeadline then
      includeDeadline now (client.lastInputActivity + kClientHandshakeIdleTimeoutMs) timeout
    else timeout
  if !client.outbound.isEmpty ∧ client.writeTimerActive then
    includeDeadline now (client.writeProgressAt + kDefaultWriteStallTimeoutMs) timeout
  else timeout

/-- The loop of `poll_timeout_ms`; nothing if it returns zero on the way. -/
def pollLoop (now : Nat) : List ClientState → Int → Option Int
  | [], timeout => some timeout
  | client :: clients, timeout =>
    if client.closed then pollLoop now clients timeout
    else if client.servesNow then none
    else pollLoop now clients (client.includeDeadlines now timeout)

/-- What `poll` reported for a client, and the replies while it is served. -/
structure PollReplies where
  error : Bool := false
  readable : Bool := false
  writable : Bool := false
  hangup : Bool := false
  flush : FlushReplies := {}
  receive : List Server.ReceiveReply := []
  service : Nat → Server.FrameReplies := fun _ => {}
  flushAfter : FlushReplies := {}

def PollReplies.any (polled : PollReplies) : Bool :=
  polled.error || polled.readable || polled.writable || polled.hangup

namespace Server

def applyDeadlines (s : Server) (now : Nat) : Server :=
  s.mapClients fun _ client => client.applyDeadline now

theorem map_fst_filter_sublist (clients : List (ClientId × ClientState))
    (p : ClientId × ClientState → Bool) :
    ((clients.filter p).map Prod.fst).Sublist (clients.map Prod.fst) :=
  List.filter_sublist.map _

def cleanupClients (s : Server) : Server :=
  { s with
    clients := s.clients.filter fun entry => !entry.2.closed
    distinct := s.distinct.sublist (map_fst_filter_sublist _ _)
    known := fun id h => s.known id ((map_fst_filter_sublist _ _).subset h) }

/-- The client is new: its identity has not been given before. -/
def acceptClient (s : Server) (now : Nat) : Server :=
  if kMaxActiveClients ≤ s.clients.length then s
  else
    { s with
      clients := s.clients ++ [(s.nextClient, .create now)]
      nextClient := s.nextClient + 1
      distinct := by
        rw [List.map_append, List.nodup_append]
        refine ⟨s.distinct, by simp, ?_⟩
        intro id hid other hother
        have hlt := s.known id hid
        simp only [List.map_cons, List.map_nil, List.mem_singleton] at hother
        exact Nat.ne_of_lt (hother ▸ hlt)
      known := by
        intro id hid
        rw [List.map_append, List.mem_append] at hid
        rcases hid with hid | hid
        · exact Nat.lt_succ_of_lt (s.known id hid)
        · simp only [List.map_cons, List.map_nil, List.mem_singleton] at hid
          exact hid ▸ Nat.lt_succ_self _ }

/-- `poll_timeout_ms`, with the two times at which the daemon is to be looked at again. -/
def pollTimeoutMs (s : Server) (now nextLeaseReconcile nextFallbackObservation : Nat) : Int :=
  match pollLoop now (s.clients.map Prod.snd) (-1) with
  | none => 0
  | some timeout =>
    includeDeadline now nextFallbackObservation (includeDeadline now nextLeaseReconcile timeout)

/-- The service of one client at the top of the reactor's loop, and again behind `poll`. -/
def serviceClient (s : Server) (id : ClientId) (replies : Nat → FrameReplies)
    (flush : FlushReplies) : Server :=
  (s.serviceBufferedV1 id replies).update id (.flushPending flush)

/-- The input half of a polled client: read it, or notice that it is gone. -/
def receivePolled (s : Server) (id : ClientId) (polled : PollReplies) : Server :=
  match s.client? id with
  | none => s
  | some client =>
    if client.closed then s
    else if (polled.readable ∨ polled.hangup) ∧ client.outbound.isEmpty ∧
        !client.closeAfterFlush then s.receiveClient id polled.receive
    else if polled.hangup ∧ client.outbound.isEmpty then s.close id
    else s

def servePolled (s : Server) (id : ClientId) (polled : PollReplies) : Server :=
  if !s.isOpen id ∨ !polled.any then s
  else if polled.error then s.close id
  else
    let s := if polled.writable then s.update id (.flushPending polled.flush) else s
    if !s.isOpen id then s
    else
      let s := s.receivePolled id polled
      if !s.isOpen id then s else s.serviceClient id polled.service polled.flushAfter

/-- The clients are closed when the reactor ends. -/
def shutdown (s : Server) : Server := { s with clients := [], distinct := by simp, known := by simp }

end Server

/-! ### Runs of the reactor -/

/-- What the reactor does between two points of its loop, with everything it is answered. -/
inductive Turn
  | observe (now : Nat) (changes : Server.NetworkStateChangeSet)
  | service (id : ClientId) (replies : Nat → Server.FrameReplies) (flush : FlushReplies)
  | polled (id : ClientId) (replies : PollReplies)
  | accept (now : Nat)
  | deadlines (now : Nat)
  | cleanup
  | shutdown

def Turn.perform : Turn → Server → Server
  | observe now changes, s => s.observeState now changes
  | service id replies flush, s => s.serviceClient id replies flush
  | polled id replies, s => s.servePolled id replies
  | accept now, s => s.acceptClient now
  | deadlines now, s => s.applyDeadlines now
  | cleanup, s => s.cleanupClients
  | shutdown, s => s.shutdown

/-- Every turn is possible at any time. -/
def reactorStep (turn : Turn) (s : Server) : Option Server := some (turn.perform s)

/-- A server that has just been constructed, at any time and by any process. -/
def Started (s : Server) : Prop := ∃ now pid, s = Server.start now pid

end NetworkService.Ipc
