import NetworkService.Ipc.Outbound

/-!
# The byte counter of the outbound queue

`OutboundQueue` counts in `std::size_t` and keeps the number of queued bytes by adding and
subtracting, never by summing up.  Here the queue is taken with 64-bit sizes, as the source has it.
Over any calls the counter stays the sum of what is pending, no subtraction goes below zero, and the
queue is the one with unbounded sizes that the server is modelled with.
-/

namespace NetworkService.Ipc

/-- The bytes of a `std::vector`, whose `size()` is a `std::size_t`. -/
structure SizedBytes where
  bytes : Bytes
  bound : bytes.length < 2 ^ 64
  deriving DecidableEq

namespace SizedBytes

def size (frame : SizedBytes) : UInt64 := frame.bytes.length.toUInt64

@[simp] theorem toNat_size (frame : SizedBytes) : frame.size.toNat = frame.bytes.length := by
  show (UInt64.ofNat _).toNat = _
  rw [UInt64.toNat_ofNat']
  exact Nat.mod_eq_of_lt frame.bound

end SizedBytes

namespace SizeT

structure PendingFrame where
  bytes : SizedBytes
  offset : UInt64 := 0
  deriving DecidableEq

/-- What is left of a frame, as a number without bound. -/
def PendingFrame.left (frame : PendingFrame) : ℕ := frame.bytes.bytes.length - frame.offset.toNat

structure OutboundQueue where
  maxFrames : UInt64
  maxBytes : UInt64
  queuedBytes : UInt64 := 0
  frames : List PendingFrame := []
  deriving DecidableEq

namespace OutboundQueue

def frameCount (queue : OutboundQueue) : UInt64 := queue.frames.length.toUInt64

def enqueue (queue : OutboundQueue) (frame : SizedBytes) : OutboundEnqueueResult × OutboundQueue :=
  if frame.bytes = [] then (.invalidFrame, queue)
  else if queue.maxFrames = 0 ∨ queue.maxBytes = 0 ∨ queue.maxBytes < frame.size then
    (.frameTooLarge, queue)
  else if queue.maxFrames ≤ queue.frameCount ∨
      queue.maxBytes - frame.size < queue.queuedBytes then
    (.overflow, queue)
  else
    (.accepted, { queue with
      queuedBytes := queue.queuedBytes + frame.size
      frames := queue.frames ++ [{ bytes := frame }] })

def frontSize (queue : OutboundQueue) : UInt64 :=
  match queue.frames with
  | [] => 0
  | front :: _ => front.bytes.size - front.offset

def consume (queue : OutboundQueue) (bytes : UInt64) : Bool × OutboundQueue :=
  match queue.frames with
  | [] => (false, queue)
  | front :: rest =>
    if bytes = 0 ∨ queue.frontSize < bytes then (false, queue)
    else
      let front := { front with offset := front.offset + bytes }
      (true, { queue with
        queuedBytes := queue.queuedBytes - bytes
        frames := if front.offset = front.bytes.size then rest else front :: rest })

def clear (queue : OutboundQueue) : OutboundQueue := { queue with frames := [], queuedBytes := 0 }

/-- The bytes that are pending, summed up. -/
def pendingBytes (queue : OutboundQueue) : ℕ := (queue.frames.map PendingFrame.left).sum

/-! ### The accounting -/

/-- The counter is the sum of what is pending, every frame has something left, and both bounds are
kept. -/
structure Accounted (queue : OutboundQueue) : Prop where
  exact : queue.queuedBytes.toNat = queue.pendingBytes
  pending : ∀ frame ∈ queue.frames, frame.offset.toNat < frame.bytes.bytes.length
  frames : queue.frames.length ≤ queue.maxFrames.toNat
  bytes : queue.queuedBytes ≤ queue.maxBytes

variable {queue : OutboundQueue}

theorem pendingBytes_cons {front : PendingFrame} {rest : List PendingFrame}
    (h : queue.frames = front :: rest) :
    queue.pendingBytes = front.left + (rest.map PendingFrame.left).sum := by
  rw [pendingBytes, h, List.map_cons, List.sum_cons]

/-- What `front_size` subtracts is less than what it subtracts from. -/
theorem Accounted.toNat_frontSize (h : queue.Accounted) {front : PendingFrame}
    {rest : List PendingFrame} (hframes : queue.frames = front :: rest) :
    queue.frontSize.toNat = front.left := by
  have hpending := h.pending front (by rw [hframes]; exact List.mem_cons_self)
  unfold frontSize PendingFrame.left
  rw [hframes]
  show (front.bytes.size - front.offset).toNat = _
  rw [UInt64.toNat_sub_of_le, SizedBytes.toNat_size]
  rw [UInt64.le_iff_toNat_le, SizedBytes.toNat_size]
  exact Nat.le_of_lt hpending

theorem Accounted.toNat_frameCount (h : queue.Accounted) :
    queue.frameCount.toNat = queue.frames.length := by
  have hlt := queue.maxFrames.toNat_lt
  have hle := h.frames
  show (UInt64.ofNat _).toNat = _
  rw [UInt64.toNat_ofNat']
  exact Nat.mod_eq_of_lt (by omega)

theorem accounted_empty (maxFrames maxBytes : UInt64) :
    Accounted { maxFrames := maxFrames, maxBytes := maxBytes } where
  exact := rfl
  pending := nofun
  frames := Nat.zero_le _
  bytes := UInt64.le_iff_toNat_le.mpr (Nat.zero_le _)

/-- Where the comparison with `max_bytes - frame.size()` is made, the frame is not larger. -/
theorem enqueue_cases (queue : OutboundQueue) (frame : SizedBytes) :
    (∃ result, result ≠ .accepted ∧ queue.enqueue frame = (result, queue)) ∨
      (frame.bytes ≠ [] ∧ frame.size ≤ queue.maxBytes ∧ queue.frameCount < queue.maxFrames ∧
        queue.queuedBytes ≤ queue.maxBytes - frame.size ∧
        queue.enqueue frame = (.accepted, { queue with
          queuedBytes := queue.queuedBytes + frame.size
          frames := queue.frames ++ [{ bytes := frame }] })) := by
  unfold enqueue
  by_cases hempty : frame.bytes = []
  · rw [if_pos hempty]
    exact .inl ⟨_, by decide, rfl⟩
  rw [if_neg hempty]
  by_cases hlarge : queue.maxFrames = 0 ∨ queue.maxBytes = 0 ∨ queue.maxBytes < frame.size
  · rw [if_pos hlarge]
    exact .inl ⟨_, by decide, rfl⟩
  rw [if_neg hlarge]
  by_cases hover : queue.maxFrames ≤ queue.frameCount ∨
      queue.maxBytes - frame.size < queue.queuedBytes
  · rw [if_pos hover]
    exact .inl ⟨_, by decide, rfl⟩
  rw [if_neg hover]
  obtain ⟨-, hlarge⟩ := not_or.mp hlarge
  obtain ⟨-, hfits⟩ := not_or.mp hlarge
  obtain ⟨hcount, hroom⟩ := not_or.mp hover
  exact .inr ⟨hempty, UInt64.not_lt.mp hfits, UInt64.not_le.mp hcount, UInt64.not_lt.mp hroom, rfl⟩

/-- Where there is room for a frame, its addition does not wrap. -/
theorem toNat_added {frame : SizedBytes} (hfits : frame.size ≤ queue.maxBytes)
    (hroom : queue.queuedBytes ≤ queue.maxBytes - frame.size) :
    (queue.queuedBytes + frame.size).toNat = queue.queuedBytes.toNat + frame.bytes.length ∧
      queue.queuedBytes.toNat + frame.bytes.length ≤ queue.maxBytes.toNat := by
  have hroom' := UInt64.le_iff_toNat_le.mp hroom
  have hfits' := UInt64.le_iff_toNat_le.mp hfits
  have hlt := queue.maxBytes.toNat_lt
  rw [UInt64.toNat_sub_of_le _ _ hfits, frame.toNat_size] at hroom'
  rw [frame.toNat_size] at hfits'
  refine ⟨?_, by omega⟩
  rw [UInt64.toNat_add, frame.toNat_size]
  exact Nat.mod_eq_of_lt (by omega)

theorem Accounted.enqueue (h : queue.Accounted) (frame : SizedBytes) :
    (queue.enqueue frame).2.Accounted := by
  rcases queue.enqueue_cases frame with ⟨result, -, hrun⟩ | ⟨hne, hfits, hcount, hroom, hrun⟩
  · rw [hrun]
    exact h
  rw [hrun]
  obtain ⟨hadd, hbound⟩ := toNat_added hfits hroom
  refine ⟨?_, ?_, ?_, ?_⟩
  · show (queue.queuedBytes + frame.size).toNat = _
    rw [hadd, h.exact]
    simp [pendingBytes, PendingFrame.left]
  · intro pending hpending
    rcases List.mem_append.mp hpending with hold | hnew
    · exact h.pending pending hold
    · obtain rfl := List.mem_singleton.mp hnew
      exact List.length_pos_iff.mpr hne
  · have hcount' := UInt64.lt_iff_toNat_lt.mp hcount
    rw [h.toNat_frameCount] at hcount'
    show (queue.frames ++ [_]).length ≤ _
    rw [List.length_append, List.length_singleton]
    exact hcount'
  · rw [UInt64.le_iff_toNat_le]
    show (queue.queuedBytes + frame.size).toNat ≤ queue.maxBytes.toNat
    rw [hadd]
    exact hbound

theorem consume_cases (queue : OutboundQueue) (bytes : UInt64) :
    queue.consume bytes = (false, queue) ∨
      ∃ front rest, queue.frames = front :: rest ∧ bytes ≠ 0 ∧ bytes ≤ queue.frontSize ∧
        queue.consume bytes = (true, { queue with
          queuedBytes := queue.queuedBytes - bytes
          frames := if front.offset + bytes = front.bytes.size then rest
            else { front with offset := front.offset + bytes } :: rest }) := by
  unfold consume
  cases hframes : queue.frames with
  | nil => exact .inl rfl
  | cons front rest =>
    simp only
    by_cases hrefused : bytes = 0 ∨ queue.frontSize < bytes
    · rw [if_pos hrefused]
      exact .inl rfl
    · rw [if_neg hrefused]
      obtain ⟨hzero, hsize⟩ := not_or.mp hrefused
      exact .inr ⟨front, rest, rfl, hzero, UInt64.not_lt.mp hsize, rfl⟩

/-- The bytes that are taken from the front are queued. -/
theorem Accounted.front_le (h : queue.Accounted) : queue.frontSize ≤ queue.queuedBytes := by
  rw [UInt64.le_iff_toNat_le]
  cases hframes : queue.frames with
  | nil =>
    have hzero : queue.frontSize = 0 := by
      unfold frontSize
      rw [hframes]
    rw [hzero]
    exact Nat.zero_le _
  | cons front rest =>
    rw [h.toNat_frontSize hframes, h.exact, pendingBytes_cons hframes]
    exact Nat.le_add_right _ _

/-- Bytes that the front frame has can be taken from it and from the counter. -/
theorem Accounted.taken (h : queue.Accounted) {front : PendingFrame} {rest : List PendingFrame}
    (hframes : queue.frames = front :: rest) {bytes : UInt64} (hsize : bytes ≤ queue.frontSize) :
    (queue.queuedBytes - bytes).toNat = queue.queuedBytes.toNat - bytes.toNat ∧
      (front.offset + bytes).toNat = front.offset.toNat + bytes.toNat ∧
      front.offset.toNat + bytes.toNat ≤ front.bytes.bytes.length ∧
      (front.offset + bytes = front.bytes.size ↔
        front.offset.toNat + bytes.toNat = front.bytes.bytes.length) := by
  have hpending := h.pending front (by rw [hframes]; exact List.mem_cons_self)
  have hsize' := UInt64.le_iff_toNat_le.mp hsize
  rw [h.toNat_frontSize hframes, PendingFrame.left] at hsize'
  have hbound := front.bytes.bound
  have hadd : (front.offset + bytes).toNat = front.offset.toNat + bytes.toNat := by
    rw [UInt64.toNat_add]
    exact Nat.mod_eq_of_lt (by omega)
  refine ⟨UInt64.toNat_sub_of_le _ _ (UInt64.le_trans hsize h.front_le), hadd, by omega, ?_⟩
  rw [← UInt64.toNat_inj, hadd, SizedBytes.toNat_size]

theorem Accounted.consume (h : queue.Accounted) (bytes : UInt64) :
    (queue.consume bytes).2.Accounted := by
  rcases queue.consume_cases bytes with hrun | ⟨front, rest, hframes, hne, hsize, hrun⟩
  · rw [hrun]
    exact h
  rw [hrun]
  obtain ⟨hsub, hadd, hleft, hdone⟩ := h.taken hframes hsize
  have hexact := h.exact
  rw [pendingBytes_cons hframes, PendingFrame.left] at hexact
  have hcount := h.frames
  rw [hframes, List.length_cons] at hcount
  have hrest : ∀ frame ∈ rest, frame.offset.toNat < frame.bytes.bytes.length := fun frame hframe =>
    h.pending frame (by rw [hframes]; exact List.mem_cons_of_mem _ hframe)
  have hbytes := UInt64.le_iff_toNat_le.mp h.bytes
  by_cases hempty : front.offset + bytes = front.bytes.size
  · -- the front frame is sent
    have hsent := hdone.mp hempty
    refine ⟨?_, ?_, ?_, ?_⟩
    · show (queue.queuedBytes - bytes).toNat = ((if _ then rest else _).map PendingFrame.left).sum
      rw [hsub, if_pos hempty]
      omega
    · rw [if_pos hempty]
      exact hrest
    · show (if _ then rest else _).length ≤ _
      rw [if_pos hempty]
      exact Nat.le_of_succ_le hcount
    · rw [UInt64.le_iff_toNat_le]
      show (queue.queuedBytes - bytes).toNat ≤ queue.maxBytes.toNat
      omega
  · have hnot := mt hdone.mpr hempty
    refine ⟨?_, ?_, ?_, ?_⟩
    · show (queue.queuedBytes - bytes).toNat = ((if _ then rest else _).map PendingFrame.left).sum
      rw [hsub, if_neg hempty, List.map_cons, List.sum_cons]
      show _ = front.bytes.bytes.length - (front.offset + bytes).toNat + _
      omega
    · rw [if_neg hempty]
      refine List.forall_mem_cons.mpr ⟨?_, hrest⟩
      show (front.offset + bytes).toNat < front.bytes.bytes.length
      omega
    · show (if _ then rest else _).length ≤ _
      rw [if_neg hempty]
      exact hcount
    · rw [UInt64.le_iff_toNat_le]
      show (queue.queuedBytes - bytes).toNat ≤ queue.maxBytes.toNat
      omega

theorem accounted_clear (queue : OutboundQueue) : queue.clear.Accounted where
  exact := rfl
  pending := nofun
  frames := Nat.zero_le _
  bytes := UInt64.le_iff_toNat_le.mpr (Nat.zero_le _)

/-! ### Unbounded sizes -/

/-- The same queue with numbers that have no bound. -/
def unsized (queue : OutboundQueue) : Ipc.OutboundQueue where
  maxFrames := queue.maxFrames.toNat
  maxBytes := queue.maxBytes.toNat
  queuedBytes := queue.queuedBytes.toNat
  frames := queue.frames.map fun frame => ⟨frame.bytes.bytes, frame.offset.toNat⟩

theorem toNat_eq_zero {size : UInt64} : size.toNat = 0 ↔ size = 0 := by
  rw [← UInt64.toNat_inj]
  exact Iff.rfl

/-- **Sizes of 64 bits are enough**: an accounted queue does with them what it does without. -/
theorem Accounted.unsized_enqueue (h : queue.Accounted) (frame : SizedBytes) :
    queue.unsized.enqueue frame.bytes =
      ((queue.enqueue frame).1, (queue.enqueue frame).2.unsized) := by
  have hcount : queue.maxFrames ≤ queue.frameCount ↔
      queue.unsized.maxFrames ≤ queue.unsized.frames.length := by
    rw [UInt64.le_iff_toNat_le, h.toNat_frameCount]
    show _ ↔ queue.maxFrames.toNat ≤ (queue.frames.map _).length
    rw [List.length_map]
  unfold Ipc.OutboundQueue.enqueue OutboundQueue.enqueue
  by_cases hempty : frame.bytes = []
  · rw [if_pos hempty, if_pos hempty]
  rw [if_neg hempty, if_neg hempty]
  have hlarge : (queue.maxFrames = 0 ∨ queue.maxBytes = 0 ∨ queue.maxBytes < frame.size) ↔
      (queue.unsized.maxFrames = 0 ∨ queue.unsized.maxBytes = 0 ∨
        queue.unsized.maxBytes < frame.bytes.length) := by
    rw [UInt64.lt_iff_toNat_lt, frame.toNat_size]
    exact or_congr toNat_eq_zero.symm (or_congr toNat_eq_zero.symm Iff.rfl)
  by_cases htoo : queue.maxFrames = 0 ∨ queue.maxBytes = 0 ∨ queue.maxBytes < frame.size
  · rw [if_pos htoo, if_pos (hlarge.mp htoo)]
  rw [if_neg htoo, if_neg (mt hlarge.mpr htoo)]
  have hfits : frame.size ≤ queue.maxBytes :=
    UInt64.not_lt.mp (not_or.mp (not_or.mp htoo).2).2
  have hroom : (queue.maxBytes - frame.size < queue.queuedBytes) ↔
      (queue.unsized.maxBytes - frame.bytes.length < queue.unsized.queuedBytes) := by
    rw [UInt64.lt_iff_toNat_lt, UInt64.toNat_sub_of_le _ _ hfits, frame.toNat_size]
    exact Iff.rfl
  by_cases hover : queue.maxFrames ≤ queue.frameCount ∨
      queue.maxBytes - frame.size < queue.queuedBytes
  · rw [if_pos hover, if_pos ((or_congr hcount hroom).mp hover)]
  · rw [if_neg hover, if_neg (mt (or_congr hcount hroom).mpr hover)]
    have hadd : (queue.queuedBytes + frame.size).toNat =
        queue.queuedBytes.toNat + frame.bytes.length :=
      (toNat_added hfits (UInt64.not_lt.mp (not_or.mp hover).2)).1
    simp [unsized, hadd]

theorem Accounted.unsized_consume (h : queue.Accounted) (bytes : UInt64) :
    queue.unsized.consume bytes.toNat =
      ((queue.consume bytes).1, (queue.consume bytes).2.unsized) := by
  unfold Ipc.OutboundQueue.consume OutboundQueue.consume
  cases hframes : queue.frames with
  | nil => simp [unsized, hframes]
  | cons front rest =>
    have hfront : queue.unsized.frontSize = queue.frontSize.toNat := by
      rw [h.toNat_frontSize hframes]
      simp [Ipc.OutboundQueue.frontSize, unsized, hframes, PendingFrame.left]
    have hrefused : (bytes = 0 ∨ queue.frontSize < bytes) ↔
        (bytes.toNat = 0 ∨ queue.unsized.frontSize < bytes.toNat) := by
      rw [hfront, UInt64.lt_iff_toNat_lt]
      exact or_congr toNat_eq_zero.symm Iff.rfl
    have hcons : queue.unsized.frames = ⟨front.bytes.bytes, front.offset.toNat⟩ ::
        rest.map fun frame => ⟨frame.bytes.bytes, frame.offset.toNat⟩ := by
      simp [unsized, hframes]
    rw [hcons]
    simp only
    by_cases hno : bytes = 0 ∨ queue.frontSize < bytes
    · rw [if_pos hno, if_pos (hrefused.mp hno)]
    rw [if_neg hno, if_neg (mt hrefused.mpr hno)]
    have hsize : bytes ≤ queue.frontSize := UInt64.not_lt.mp (not_or.mp hno).2
    obtain ⟨hsub, hadd, -, hdone⟩ := h.taken hframes hsize
    by_cases hsent : front.offset + bytes = front.bytes.size
    · rw [if_pos hsent, if_pos (hdone.mp hsent)]
      simp [unsized, hsub]
    · rw [if_neg hsent, if_neg (mt hdone.mpr hsent)]
      simp [unsized, hsub, hadd]

/-! ### Calls -/

/-- The subtractions that `front_size` makes, each with what it subtracts from. -/
def frontSizeSubtractions (queue : OutboundQueue) : List (UInt64 × UInt64) :=
  match queue.frames with
  | [] => []
  | front :: _ => [(front.bytes.size, front.offset)]

end OutboundQueue

inductive QueueCall
  | enqueue (frame : SizedBytes)
  | consume (bytes : UInt64)
  | clear
  deriving DecidableEq

namespace QueueCall

variable (call : QueueCall) (queue : OutboundQueue)

def perform : OutboundQueue :=
  match call with
  | enqueue frame => (queue.enqueue frame).2
  | consume bytes => (queue.consume bytes).2
  | clear => queue.clear

/-- The call on the queue without bounds. -/
def performUnsized (queue : Ipc.OutboundQueue) : Ipc.OutboundQueue :=
  match call with
  | enqueue frame => (queue.enqueue frame.bytes).2
  | consume bytes => (queue.consume bytes.toNat).2
  | clear => queue.clear

/-- The call returns `Accepted` or `true`; `clear` returns nothing. -/
def succeeds : Bool :=
  match call with
  | enqueue frame => (queue.enqueue frame).1 = .accepted
  | consume bytes => (queue.consume bytes).1
  | clear => true

/-- The subtractions of sizes that the call comes to, in their order. -/
def subtractions : List (UInt64 × UInt64) :=
  match call with
  | enqueue frame =>
    if frame.bytes = [] ∨ queue.maxFrames = 0 ∨ queue.maxBytes = 0 ∨ queue.maxBytes < frame.size ∨
        queue.maxFrames ≤ queue.frameCount then []
    else [(queue.maxBytes, frame.size)]
  | consume bytes =>
    if queue.frames = [] ∨ bytes = 0 then []
    else queue.frontSizeSubtractions ++
      if queue.frontSize < bytes then [] else [(queue.queuedBytes, bytes)]
  | clear => []

variable {call queue}

theorem accounted_perform (h : queue.Accounted) : (call.perform queue).Accounted := by
  cases call with
  | enqueue frame => exact h.enqueue frame
  | consume bytes => exact h.consume bytes
  | clear => exact queue.accounted_clear

theorem unsized_perform (h : queue.Accounted) :
    (call.perform queue).unsized = call.performUnsized queue.unsized := by
  cases call with
  | enqueue frame => exact (congrArg Prod.snd (h.unsized_enqueue frame)).symm
  | consume bytes => exact (congrArg Prod.snd (h.unsized_consume bytes)).symm
  | clear => rfl

theorem perform_bounds : (call.perform queue).maxFrames = queue.maxFrames ∧
    (call.perform queue).maxBytes = queue.maxBytes := by
  cases call with
  | enqueue frame =>
    rcases queue.enqueue_cases frame with ⟨result, -, hrun⟩ | ⟨-, -, -, -, hrun⟩
    all_goals
      simp only [perform, hrun, and_self]
  | consume bytes =>
    rcases queue.consume_cases bytes with hrun | ⟨front, rest, -, -, -, hrun⟩
    all_goals
      simp only [perform, hrun, and_self]
  | clear => exact ⟨rfl, rfl⟩

theorem perform_refused (h : call.succeeds queue = false) : call.perform queue = queue := by
  cases call with
  | enqueue frame =>
    rcases queue.enqueue_cases frame with ⟨result, -, hrun⟩ | ⟨-, -, -, -, hrun⟩
    · simp only [perform, hrun]
    · simp only [succeeds, hrun, decide_true, Bool.true_eq_false] at h
  | consume bytes =>
    rcases queue.consume_cases bytes with hrun | ⟨front, rest, -, -, -, hrun⟩
    · simp only [perform, hrun]
    · simp only [succeeds, hrun, Bool.true_eq_false] at h
  | clear => cases h

theorem frontSizeSubtractions_fit (h : queue.Accounted) :
    ∀ subtraction ∈ queue.frontSizeSubtractions, subtraction.2 ≤ subtraction.1 := by
  intro subtraction hmem
  unfold OutboundQueue.frontSizeSubtractions at hmem
  cases hframes : queue.frames with
  | nil =>
    rw [hframes] at hmem
    cases hmem
  | cons front rest =>
    rw [hframes] at hmem
    obtain rfl := List.mem_singleton.mp hmem
    have hpending := h.pending front (by rw [hframes]; exact List.mem_cons_self)
    rw [UInt64.le_iff_toNat_le, SizedBytes.toNat_size]
    exact Nat.le_of_lt hpending

/-- No subtraction of a call goes below zero. -/
theorem subtractions_fit (h : queue.Accounted) :
    ∀ subtraction ∈ call.subtractions queue, subtraction.2 ≤ subtraction.1 := by
  intro subtraction hmem
  cases call with
  | enqueue frame =>
    simp only [subtractions] at hmem
    split at hmem
    · cases hmem
    next hreached =>
      obtain rfl := List.mem_singleton.mp hmem
      obtain ⟨-, hreached⟩ := not_or.mp hreached
      obtain ⟨-, hreached⟩ := not_or.mp hreached
      obtain ⟨-, hreached⟩ := not_or.mp hreached
      exact UInt64.not_lt.mp (not_or.mp hreached).1
  | consume bytes =>
    simp only [subtractions] at hmem
    split at hmem
    · cases hmem
    · rcases List.mem_append.mp hmem with hfront | hqueued
      · exact frontSizeSubtractions_fit h subtraction hfront
      · split at hqueued
        · cases hqueued
        next hsize =>
          obtain rfl := List.mem_singleton.mp hqueued
          exact UInt64.le_trans (UInt64.not_lt.mp hsize) h.front_le
  | clear => cases hmem

end QueueCall

namespace OutboundQueue

/-- The queue behind some calls, oldest first. -/
def afterCalls (queue : OutboundQueue) (calls : List QueueCall) : OutboundQueue :=
  calls.foldl (fun queue call => call.perform queue) queue

theorem accounted_afterCalls {queue : OutboundQueue} (h : queue.Accounted) (calls : List QueueCall) :
    (queue.afterCalls calls).Accounted ∧ (queue.afterCalls calls).maxFrames = queue.maxFrames ∧
      (queue.afterCalls calls).maxBytes = queue.maxBytes := by
  induction calls generalizing queue with
  | nil => exact ⟨h, rfl, rfl⟩
  | cons call calls ih =>
    obtain ⟨haccounted, hframes, hbytes⟩ := ih (call.accounted_perform h)
    obtain ⟨hframes', hbytes'⟩ : (call.perform queue).maxFrames = queue.maxFrames ∧
        (call.perform queue).maxBytes = queue.maxBytes := call.perform_bounds
    exact ⟨haccounted, hframes.trans hframes', hbytes.trans hbytes'⟩

/-- **The queue refines the one without bounds**, whatever is called. -/
theorem unsized_afterCalls {queue : OutboundQueue} (h : queue.Accounted) (calls : List QueueCall) :
    (queue.afterCalls calls).unsized =
      calls.foldl (fun queue call => call.performUnsized queue) queue.unsized := by
  induction calls generalizing queue with
  | nil => rfl
  | cons call calls ih =>
    show ((call.perform queue).afterCalls calls).unsized = _
    rw [ih (call.accounted_perform h), call.unsized_perform h]
    rfl

/-- **The accounting is exact and bounded**, whatever is called: the counter is the sum of what is
pending, every pending frame has something left, both bounds hold, no subtraction of the next call
goes below zero, and a call that is refused changes nothing. -/
theorem accounting_exact (maxFrames maxBytes : UInt64) (calls : List QueueCall) :
    let queue := afterCalls { maxFrames := maxFrames, maxBytes := maxBytes } calls
    queue.queuedBytes.toNat =
        (queue.frames.map fun frame => frame.bytes.bytes.length - frame.offset.toNat).sum ∧
      (∀ frame ∈ queue.frames, frame.offset.toNat < frame.bytes.bytes.length) ∧
      queue.frames.length ≤ maxFrames.toNat ∧ queue.queuedBytes ≤ maxBytes ∧
      ∀ call : QueueCall,
        (∀ subtraction ∈ call.subtractions queue, subtraction.2 ≤ subtraction.1) ∧
          (call.succeeds queue = false → call.perform queue = queue) := by
  obtain ⟨haccounted, hframes, hbytes⟩ :=
    accounted_afterCalls (accounted_empty maxFrames maxBytes) calls
  refine ⟨haccounted.exact, haccounted.pending, ?_, ?_, fun call =>
    ⟨call.subtractions_fit haccounted, call.perform_refused⟩⟩
  · have hcount := haccounted.frames
    rw [hframes] at hcount
    exact hcount
  · have hcount := haccounted.bytes
    rw [hbytes] at hcount
    exact hcount

end OutboundQueue

end SizeT

end NetworkService.Ipc
