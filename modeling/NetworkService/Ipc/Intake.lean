import Mathlib.Logic.Relation
import NetworkService.Ipc.Answers
import NetworkService.Ipc.Reactor

/-!
# The intake of a client

What the reactor does with the bytes of one client, apart from everything else it does: the bytes
are collected until the protocol is known, then they are a line or go through the decoder, and the
session is given one frame after the other.  The intake keeps a log of this.  It has no clock, no
queue and no other clients, so what holds of it is proved by looking at three kinds of steps.
-/

namespace NetworkService.Ipc

open Relation

inductive IntakeEvent
  | received (data : Bytes)
  | handled (frame : Frame)
  | requested (request : Bytes)
  | answered (answer : Bytes)
  deriving DecidableEq

/-- The intake is stopped when the client is closed or is to be closed after its last answer. -/
structure Intake where
  protocol : ClientProtocol := .undecided
  initial : Bytes := []
  v0Request : Bytes := []
  session : Option Session := none
  decoder : FrameDecoder := {}
  stopped : Bool := false
  closed : Bool := false
  log : List IntakeEvent := []
  deriving DecidableEq

namespace IntakeEvent

def data? : IntakeEvent → Option Bytes
  | received data => some data
  | _ => none

def frame? : IntakeEvent → Option Frame
  | handled frame => some frame
  | _ => none

def request? : IntakeEvent → Option Bytes
  | requested request => some request
  | _ => none

def answer? : IntakeEvent → Option Bytes
  | answered answer => some answer
  | _ => none

end IntakeEvent

/-- The results of `recv`, in their order. -/
def chunksOf (log : List IntakeEvent) : List Bytes := log.filterMap IntakeEvent.data?

def receivedBytes (log : List IntakeEvent) : Bytes := (chunksOf log).flatten

/-- The frames that were given to the session. -/
def handledFrames (log : List IntakeEvent) : List Frame := log.filterMap IntakeEvent.frame?

/-- The texts that were given to `handle_request`. -/
def requestsOf (log : List IntakeEvent) : List Bytes := log.filterMap IntakeEvent.request?

def answersOf (log : List IntakeEvent) : List Bytes := log.filterMap IntakeEvent.answer?

namespace Intake

def close (i : Intake) : Intake := { i with stopped := true, closed := true }

/-- A v0 client: a line that is too long closes it, and a text with a newline is the request. -/
def receiveLine (i : Intake) (data line : Bytes) : Intake :=
  let i := { i with protocol := .v0, v0Request := line }
  if kMaxRequestBytes < line.length then { i.close with log := i.log ++ [.received data] }
  else if ascii '\n' ∉ line then { i with log := i.log ++ [.received data] }
  else { i with stopped := true, log := i.log ++ [.received data, .requested line] }

/-- A v1 client: the bytes go to the decoder, and an error closes the client. -/
def receiveFrames (i : Intake) (session : Option Session) (data bytes : Bytes) : Intake :=
  { i with
    protocol := .v1
    session := session
    decoder := (i.decoder.feed bytes).2
    stopped := i.stopped || (i.decoder.feed bytes).1 == .error
    closed := i.closed || (i.decoder.feed bytes).1 == .error
    log := i.log ++ [.received data] }

def receive (i : Intake) (fresh : Session) (data : Bytes) : Intake :=
  match i.protocol with
  | .undecided =>
    let initial := i.initial ++ data
    if kMaxRequestBytes < initial.length then
      { i.close with initial := initial, log := i.log ++ [.received data] }
    else if initial.length < kMagic.length then
      { i with initial := initial, log := i.log ++ [.received data] }
    else if Server.startsWithV1Magic initial then
      { i with initial := [] }.receiveFrames (some fresh) data initial
    else { i with initial := [] }.receiveLine data initial
  | .v0 => i.receiveLine data (i.v0Request ++ data)
  | .v1 => i.receiveFrames i.session data data

/-- A frame is taken from the decoder and handled, and its answer is queued. -/
def handle (i : Intake) (session : Session) (frame : Frame) (decoder : FrameDecoder)
    (answers : List Bytes) (closed : Bool) : Intake :=
  { i with
    session := some (session.handleFrame frame).2
    decoder := decoder
    stopped := closed || (session.handleFrame frame).1.closeAfterSend
    closed := closed
    log := i.log ++ .handled frame :: answers.map .answered }

end Intake

/-- A session that has just been made for a client; its id has two decimal numbers in it. -/
structure FreshSession (session : Session) : Prop where
  state : session.state = .awaitHello
  unsubscribed : session.eventsSubscribed = false
  sessionId : session.sessionId.length ≤ 50

/-- The answers to a frame: one, or none because the client was closed or there was nothing to say. -/
inductive AnswersTo (session : Session) (frame : Frame) (closed : Bool) : List Bytes → Prop
  | one {answer : Bytes} (h : AnswerTo session frame answer) : AnswersTo session frame closed [answer]
  | lost (h : closed = true) : AnswersTo session frame closed []
  | silent (hresponse : (session.handleFrame frame).1.response = [])
      (haction : (session.handleFrame frame).1.serverAction = .none) :
      AnswersTo session frame closed []

inductive IntakeStep : Intake → Intake → Prop
  | close (i : Intake) : IntakeStep i i.close
  | receive {i : Intake} {fresh : Session} {data : Bytes} (hopen : i.stopped = false)
      (hfresh : FreshSession fresh) (hdata : data ≠ []) (hsize : data.length ≤ kReceiveBuffer) :
      IntakeStep i (i.receive fresh data)
  | handle {i : Intake} {session : Session} {frame : Frame} {decoder : FrameDecoder}
      {answers : List Bytes} {closed : Bool} (hopen : i.stopped = false)
      (hsession : i.session = some session) (htake : i.decoder.takeFrame = some (frame, decoder))
      (hanswers : AnswersTo session frame closed answers) :
      IntakeStep i (i.handle session frame decoder answers closed)

/-- What the intake of a client can become. -/
abbrev IntakeRun : Intake → Intake → Prop := ReflTransGen IntakeStep

/-! ### The intake of a client of the reactor -/

def Stamp.isAnswer : Stamp → Bool
  | .reply => true
  | .snapshot .. => true
  | _ => false

/-- An offer that the queue has accepted, and that is the answer to a frame. -/
def Offer.answer? (offer : Offer) : Option Bytes :=
  if offer.accepted && offer.stamp.isAnswer then some offer.frame else none

def ClientEvent.intake? : ClientEvent → Option IntakeEvent
  | received data => some (.received data)
  | handled frame => some (.handled frame)
  | requested request => some (.requested request)
  | offered offer => offer.answer?.map .answered

def ClientState.intake (client : ClientState) : Intake where
  protocol := client.protocol
  initial := client.initial
  v0Request := client.v0Request
  session := client.session
  decoder := client.decoder
  stopped := client.closed || client.closeAfterFlush
  closed := client.closed
  log := client.history.filterMap ClientEvent.intake?

end NetworkService.Ipc
