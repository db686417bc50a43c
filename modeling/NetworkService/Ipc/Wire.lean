import NetworkService.Ipc.Framing
import NetworkService.Ipc.Outbound

/-!
# From the outbound queue to the peer's decoder

The server takes bytes from the front of the queue in whatever portions the socket accepts.  Nothing
is skipped or repeated by this: the bytes sent and the bytes waiting are the accepted frames one
after the other.
-/

namespace NetworkService.Ipc

open Cutting Execution

/-! ### The waiting bytes -/

namespace OutboundQueue

def PendingFrame.waiting (frame : PendingFrame) : Bytes := frame.bytes.drop frame.offset

/-- The bytes that are still to be sent. -/
def waiting (queue : OutboundQueue) : Bytes := queue.frames.flatMap PendingFrame.waiting

/-- No frame of the queue is sent to its end. -/
def Unfinished (queue : OutboundQueue) : Prop :=
  ∀ frame ∈ queue.frames, frame.offset < frame.bytes.length

/-- A frame is appended whole, or refused and the queue is as it was. -/
theorem enqueue_cases (queue : OutboundQueue) (frame : Bytes) :
    ((queue.enqueue frame).1 = .accepted ∧ frame ≠ [] ∧
      (queue.enqueue frame).2.frames = queue.frames ++ [{ bytes := frame }]) ∨
    ((queue.enqueue frame).1 ≠ .accepted ∧ (queue.enqueue frame).2 = queue) := by
  unfold enqueue
  by_cases hempty : frame = []
  · rw [if_pos hempty]
    exact .inr ⟨by simp, rfl⟩
  rw [if_neg hempty]
  by_cases hlarge : queue.maxFrames = 0 ∨ queue.maxBytes = 0 ∨ queue.maxBytes < frame.length
  · rw [if_pos hlarge]
    exact .inr ⟨by simp, rfl⟩
  rw [if_neg hlarge]
  by_cases hfull : queue.maxFrames ≤ queue.frames.length ∨
      queue.maxBytes - frame.length < queue.queuedBytes
  · rw [if_pos hfull]
    exact .inr ⟨by simp, rfl⟩
  · rw [if_neg hfull]
    exact .inl ⟨rfl, hempty, rfl⟩

/-- A portion is taken from the first frame, which leaves the queue with its last byte. -/
theorem consume_front {queue : OutboundQueue} {n : ℕ} (hpos : 1 ≤ n) (hfits : n ≤ queue.frontSize) :
    ∃ front rest, queue.frames = front :: rest ∧ n ≤ front.bytes.length - front.offset ∧
      (queue.consume n).2.frames =
        if front.offset + n = front.bytes.length then rest
        else { front with offset := front.offset + n } :: rest := by
  cases hframes : queue.frames with
  | nil =>
    have hsize : queue.frontSize = 0 := by
      unfold frontSize
      rw [hframes]
    omega
  | cons front rest =>
    have hsize : queue.frontSize = front.bytes.length - front.offset := by
      unfold frontSize
      rw [hframes]
    have hguard : ¬(n = 0 ∨ queue.frontSize < n) := by omega
    refine ⟨front, rest, rfl, by omega, ?_⟩
    unfold consume
    rw [hframes]
    simp only [if_neg hguard]

/-- The portion that is sent comes off the front of what waits. -/
theorem waiting_consume {queue : OutboundQueue} {n : ℕ} (hpos : 1 ≤ n)
    (hfits : n ≤ queue.frontSize) :
    queue.waiting = queue.frontData.take n ++ (queue.consume n).2.waiting := by
  obtain ⟨front, rest, hframes, hn, hnext⟩ := consume_front hpos hfits
  have hdata : queue.frontData = front.bytes.drop front.offset := by
    unfold frontData
    rw [hframes]
  unfold waiting
  rw [hnext, hframes, hdata, List.flatMap_cons]
  by_cases hdone : front.offset + n = front.bytes.length
  · have hall : (front.bytes.drop front.offset).take n = front.bytes.drop front.offset := by
      apply List.take_of_length_le
      rw [List.length_drop]
      omega
    rw [if_pos hdone, hall]
    rfl
  · rw [if_neg hdone, List.flatMap_cons, ← List.append_assoc]
    unfold PendingFrame.waiting
    rw [← List.drop_drop, List.take_append_drop]

theorem unfinished_consume {queue : OutboundQueue} {n : ℕ} (h : queue.Unfinished)
    (hpos : 1 ≤ n) (hfits : n ≤ queue.frontSize) : (queue.consume n).2.Unfinished := by
  obtain ⟨front, rest, hframes, hn, hnext⟩ := consume_front hpos hfits
  unfold Unfinished at *
  rw [hframes] at h
  obtain ⟨hfront, hrest⟩ := List.forall_mem_cons.mp h
  rw [hnext]
  by_cases hdone : front.offset + n = front.bytes.length
  · rw [if_pos hdone]
    exact hrest
  · rw [if_neg hdone]
    refine List.forall_mem_cons.mpr ⟨?_, hrest⟩
    show front.offset + n < front.bytes.length
    omega

theorem waiting_of_frames_append {queue next : OutboundQueue} {frame : Bytes}
    (h : next.frames = queue.frames ++ [{ bytes := frame }]) :
    next.waiting = queue.waiting ++ frame := by
  unfold waiting
  rw [h, List.flatMap_append, List.flatMap_cons, List.flatMap_nil, List.append_nil]
  rfl

theorem unfinished_of_frames_append {queue next : OutboundQueue} {frame : Bytes}
    (h : next.frames = queue.frames ++ [{ bytes := frame }]) (hne : frame ≠ [])
    (hqueue : queue.Unfinished) : next.Unfinished := by
  intro pending hpending
  rw [h, List.mem_append, List.mem_singleton] at hpending
  rcases hpending with hold | rfl
  · exact hqueue pending hold
  · exact List.length_pos_iff.mpr hne

end OutboundQueue

/-! ### Sending -/

/-- A queue with what it has accepted and what was taken from its front so far. -/
structure Wire where
  queue : OutboundQueue
  accepted : List (MessageType × Bytes) := []
  sent : Bytes := []
  deriving DecidableEq

inductive WireOp
  | enqueue (type : MessageType) (payload : Bytes)
  | send (bytes : ℕ)
  deriving DecidableEq

/-- A send consumes as many bytes as the socket took of `front_data`. -/
def wireStep : WireOp → Wire → Option Wire
  | .enqueue type payload, wire =>
    match wire.queue.enqueue (encodeJson type payload) with
    | (.accepted, queue) =>
      some { wire with queue := queue, accepted := wire.accepted ++ [(type, payload)] }
    | (_, queue) => some { wire with queue := queue }
  | .send bytes, wire =>
    if 1 ≤ bytes ∧ bytes ≤ wire.queue.frontSize then
      some { wire with
        queue := (wire.queue.consume bytes).2
        sent := wire.sent ++ wire.queue.frontData.take bytes }
    else none

/-- What was sent and what waits is what was accepted. -/
structure Wire.Balanced (wire : Wire) : Prop where
  bytes : wire.sent ++ wire.queue.waiting = encodeAll wire.accepted
  unfinished : wire.queue.Unfinished
  fits : ∀ message ∈ wire.accepted, message.2.length ≤ kMaxPayloadBytes

theorem length_le_of_encodeJson {type : MessageType} {payload : Bytes} (h : encodeJson type payload ≠ []) :
    payload.length ≤ kMaxPayloadBytes := by
  apply Nat.not_lt.mp
  intro hlarge
  apply h
  unfold encodeJson encodeFrame
  rw [MessageType.isValid_toByte, if_neg (by decide), if_pos hlarge]

theorem wireStep_balanced {op : WireOp} {wire next : Wire} (h : wire.Balanced)
    (hstep : wireStep op wire = some next) : next.Balanced := by
  cases op with
  | enqueue type payload =>
    simp only [wireStep] at hstep
    have hcases := wire.queue.enqueue_cases (encodeJson type payload)
    generalize wire.queue.enqueue (encodeJson type payload) = enqueued at hstep hcases
    obtain ⟨result, queue⟩ := enqueued
    rcases hcases with ⟨hresult, hne, hframes⟩ | ⟨hresult, hqueue⟩
    · obtain rfl : result = .accepted := hresult
      cases hstep
      refine ⟨?_, OutboundQueue.unfinished_of_frames_append hframes hne h.unfinished, ?_⟩
      · show wire.sent ++ queue.waiting = encodeAll (wire.accepted ++ [(type, payload)])
        rw [OutboundQueue.waiting_of_frames_append hframes, ← List.append_assoc, h.bytes]
        unfold encodeAll
        rw [List.flatMap_append, List.flatMap_cons, List.flatMap_nil, List.append_nil]
      · intro message hmessage
        rw [List.mem_append, List.mem_singleton] at hmessage
        rcases hmessage with hold | rfl
        · exact h.fits message hold
        · exact length_le_of_encodeJson hne
    · obtain rfl : queue = wire.queue := hqueue
      cases result with
      | accepted => exact absurd rfl hresult
      | _ =>
        cases hstep
        exact h
  | send bytes =>
    simp only [wireStep] at hstep
    by_cases hguard : 1 ≤ bytes ∧ bytes ≤ wire.queue.frontSize
    · rw [if_pos hguard] at hstep
      cases hstep
      obtain ⟨hpos, hfits⟩ := hguard
      refine ⟨?_, OutboundQueue.unfinished_consume h.unfinished hpos hfits, h.fits⟩
      show (wire.sent ++ wire.queue.frontData.take bytes) ++ (wire.queue.consume bytes).2.waiting = _
      rw [List.append_assoc, ← OutboundQueue.waiting_consume hpos hfits]
      exact h.bytes
    · rw [if_neg hguard] at hstep
      cases hstep

theorem balanced_of_run {ops : List WireOp} {wire next : Wire} (h : wire.Balanced)
    (hrun : run wireStep ops wire = some next) : next.Balanced := by
  have hreach : Reaches (fun w => w = wire) wireStep ops.reverse next := Reaches.of_run rfl hrun
  refine hreach.invariant (I := fun _ w => w.Balanced) ?_ ?_
  · intro w hw
    exact hw ▸ h
  · intro _ op w v hw hstep
    exact wireStep_balanced hw hstep

/-- The queue as it is constructed. -/
def Wire.fresh (maxFrames maxBytes : ℕ) : Wire :=
  { queue := { maxFrames := maxFrames, maxBytes := maxBytes } }

theorem Wire.balanced_fresh (maxFrames maxBytes : ℕ) : (Wire.fresh maxFrames maxBytes).Balanced :=
  ⟨rfl, by rintro frame ⟨⟩, by rintro message ⟨⟩⟩

theorem OutboundQueue.waiting_of_isEmpty {queue : OutboundQueue} (h : queue.isEmpty = true) :
    queue.waiting = [] := by
  unfold waiting
  rw [List.isEmpty_iff.mp h]
  rfl

/-- **The bytes sent are the accepted frames in order.** Whatever is enqueued, accepted or refused,
and in whatever portions it is sent, the bytes taken so far begin the accepted frames, and are all of
them when the queue is empty; a decoder that is fed these bytes in any pieces has no error, and its
frames are the first of the accepted ones. -/
theorem sent_bytes_are_accepted_frames {maxFrames maxBytes : ℕ} {ops : List WireOp} {wire : Wire}
    (h : run wireStep ops (Wire.fresh maxFrames maxBytes) = some wire) :
    wire.sent <+: encodeAll wire.accepted ∧
      (wire.queue.isEmpty = true → wire.sent = encodeAll wire.accepted) ∧
      ∀ (pieces : List DecoderOp) (taken : List Frame) (decoder : FrameDecoder),
        fedBytes pieces = wire.sent →
        run decoderStep pieces ([], {}) = some (taken, decoder) →
          decoder.error = .none ∧ taken ++ decoder.frames <+: wire.accepted.map messageFrame := by
  have hbalanced := balanced_of_run (Wire.balanced_fresh maxFrames maxBytes) h
  refine ⟨⟨_, hbalanced.bytes⟩, fun hempty => ?_, fun pieces taken decoder hfed hpieces => ?_⟩
  · have hbytes := hbalanced.bytes
    rw [OutboundQueue.waiting_of_isEmpty hempty, List.append_nil] at hbytes
    exact hbytes
  · have hall := cuts_messages hbalanced.fits
    rw [← hbalanced.bytes] at hall
    obtain ⟨fault, rest, hcuts, herror, -⟩ := (holds_of_run hpieces).cuts
    rw [hfed] at hcuts
    obtain ⟨rfl, hfirst⟩ := hall.of_append hcuts
    exact ⟨herror, hfirst⟩

/-- A queue with room for one frame: the second message is refused, the third follows the first. -/
def narrowOps : List WireOp :=
  [.enqueue .ready [123, 125], .enqueue .event [], .send 5, .send 9, .enqueue .response [48],
    .send 3]

theorem sent_bytes_are_accepted_frames_narrow :
    ∃ wire, run wireStep narrowOps (Wire.fresh 1 64) = some wire ∧
      wire.accepted = [(.ready, [123, 125]), (.response, [48])] ∧ wire.sent.length = 17 ∧
      wire.sent <+: encodeAll wire.accepted := by
  have hrun : run wireStep narrowOps (Wire.fresh 1 64) =
      some
        { queue :=
            { maxFrames := 1, maxBytes := 64, queuedBytes := 10
              frames := [{ bytes := encodeJson .response [48], offset := 3 }] }
          accepted := [(.ready, [123, 125]), (.response, [48])]
          sent := encodeJson .ready [123, 125] ++ [78, 83, 80] } := by
    decide +kernel
  exact ⟨_, hrun, rfl, by decide +kernel, (sent_bytes_are_accepted_frames hrun).1⟩

end NetworkService.Ipc
