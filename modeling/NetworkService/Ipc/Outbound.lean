import NetworkService.Ipc.Codec

/-!
# The outbound queue of a client

Frames wait here until the client's socket takes them.  The queue is bounded in frames and in bytes;
a frame that does not fit is refused, and the server gives up the client.
-/

namespace NetworkService.Ipc

def kDefaultOutboundMaxFrames : Nat := 32

def kDefaultOutboundMaxBytes : Nat := 4 * (kHeaderSize + kMaxPayloadBytes)

def kDefaultWriteStallTimeoutMs : Nat := 1000

inductive OutboundEnqueueResult
  | accepted
  | invalidFrame
  | frameTooLarge
  | overflow
  deriving DecidableEq, Repr

structure PendingFrame where
  bytes : Bytes
  offset : Nat := 0
  deriving DecidableEq

structure OutboundQueue where
  maxFrames : Nat := kDefaultOutboundMaxFrames
  maxBytes : Nat := kDefaultOutboundMaxBytes
  queuedBytes : Nat := 0
  frames : List PendingFrame := []
  deriving DecidableEq

namespace OutboundQueue

def enqueue (queue : OutboundQueue) (frame : Bytes) : OutboundEnqueueResult × OutboundQueue :=
  if frame = [] then (.invalidFrame, queue)
  else if queue.maxFrames = 0 ∨ queue.maxBytes = 0 ∨ queue.maxBytes < frame.length then
    (.frameTooLarge, queue)
  else if queue.maxFrames ≤ queue.frames.length ∨
      queue.maxBytes - frame.length < queue.queuedBytes then
    (.overflow, queue)
  else
    (.accepted, { queue with
      queuedBytes := queue.queuedBytes + frame.length
      frames := queue.frames ++ [{ bytes := frame }] })

def isEmpty (queue : OutboundQueue) : Bool := queue.frames.isEmpty

def frontData (queue : OutboundQueue) : Bytes :=
  match queue.frames with
  | [] => []
  | front :: _ => front.bytes.drop front.offset

def frontSize (queue : OutboundQueue) : Nat :=
  match queue.frames with
  | [] => 0
  | front :: _ => front.bytes.length - front.offset

def consume (queue : OutboundQueue) (bytes : Nat) : Bool × OutboundQueue :=
  match queue.frames with
  | [] => (false, queue)
  | front :: rest =>
    if bytes = 0 ∨ queue.frontSize < bytes then (false, queue)
    else
      let front := { front with offset := front.offset + bytes }
      (true, { queue with
        queuedBytes := queue.queuedBytes - bytes
        frames := if front.offset = front.bytes.length then rest else front :: rest })

def clear (queue : OutboundQueue) : OutboundQueue := { queue with frames := [], queuedBytes := 0 }

end OutboundQueue

end NetworkService.Ipc
