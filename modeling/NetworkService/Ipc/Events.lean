import NetworkService.Ipc.Codec

/-!
# Event numbering and the consumer's rebase

The server numbers its events across all clients, one sequence for its generation.  A consumer takes
a snapshot, which names the number of the last event it includes, and then expects the next number;
`RebaseTracker` is its side of that contract.
-/

namespace NetworkService.Ipc

def maxSequence : UInt64 := 18446744073709551615

/-! ### The server's sequence -/

/-- The escapes of an event name. -/
def jsonEscape (value : Bytes) : Bytes :=
  value.flatMap fun ch =>
    if ch = 0x5c then text "\\\\"
    else if ch = 0x22 then text "\\\""
    else if ch = 0x08 then text "\\b"
    else if ch = 0x0c then text "\\f"
    else if ch = 0x0a then text "\\n"
    else if ch = 0x0d then text "\\r"
    else if ch = 0x09 then text "\\t"
    else if ch < 0x20 then text "?"
    else [ch]

/-- What one EVENT frame says. -/
structure EventRecord where
  name : Bytes
  generation : UInt64
  seq : UInt64
  payload : Bytes
  deriving DecidableEq

namespace EventRecord

def json (event : EventRecord) : Bytes :=
  text "\x7b\"event\":\"" ++ jsonEscape event.name ++ text "\",\"generation\":" ++
    decimal event.generation ++ text ",\"seq\":" ++ decimal event.seq ++ text ",\"payload\":" ++
    event.payload ++ text "\x7d"

/-- The frame on the wire. -/
def frame (event : EventRecord) : Bytes := encodeJson .event event.json

end EventRecord

/-- `nextSequence` is zero once the last number has been used. -/
structure EventSequencer where
  generation : UInt64
  nextSequence : UInt64 := 1
  deriving DecidableEq

namespace EventSequencer

/-- The constructor of the source: a generation of zero counts as one. -/
def create (generation : UInt64) : EventSequencer :=
  { generation := if generation = 0 then 1 else generation }

def lastSequence (sequencer : EventSequencer) : UInt64 :=
  if sequencer.nextSequence = 0 then maxSequence else sequencer.nextSequence - 1

/-- What the next frame of this name and payload says. -/
def record (sequencer : EventSequencer) (eventName payloadJson : Bytes) : EventRecord :=
  ⟨eventName, sequencer.generation, sequencer.nextSequence, payloadJson⟩

def advance (sequencer : EventSequencer) : EventSequencer :=
  { sequencer with
    nextSequence :=
      if sequencer.nextSequence = maxSequence then 0 else sequencer.nextSequence + 1 }

/-- The frame, empty if there is none, and the sequencer afterwards. -/
def encodeEvent (sequencer : EventSequencer) (eventName payloadJson : Bytes) :
    Bytes × EventSequencer :=
  if eventName = [] ∨ payloadJson = [] ∨ sequencer.nextSequence = 0 then ([], sequencer)
  else
    let encoded := (sequencer.record eventName payloadJson).frame
    if encoded = [] then ([], sequencer) else (encoded, sequencer.advance)

/-- A frame that was built carries the next number, which was not used up. -/
theorem encodeEvent_of_ne_nil {sequencer : EventSequencer} {eventName payloadJson : Bytes}
    (h : (sequencer.encodeEvent eventName payloadJson).1 ≠ []) :
    sequencer.nextSequence ≠ 0 ∧
      sequencer.encodeEvent eventName payloadJson =
        ((sequencer.record eventName payloadJson).frame, sequencer.advance) := by
  unfold encodeEvent at h ⊢
  simp only at h ⊢
  split at h
  · exact absurd rfl h
  next hgiven =>
    split at h
    · exact absurd rfl h
    next hbuilt =>
      rw [if_neg hgiven, if_neg hbuilt]
      exact ⟨fun hzero => hgiven (.inr (.inr hzero)), rfl⟩

@[simp] theorem advance_generation (sequencer : EventSequencer) :
    sequencer.advance.generation = sequencer.generation := rfl

/-- The number of an event is the server's last number once it has been allocated. -/
theorem lastSequence_advance (sequencer : EventSequencer) :
    sequencer.advance.lastSequence = sequencer.nextSequence := by
  unfold lastSequence advance
  by_cases hmax : sequencer.nextSequence = maxSequence
  · simp [hmax]
  · have hne : sequencer.nextSequence + 1 ≠ 0 := by
      unfold maxSequence at hmax
      intro hzero
      apply hmax
      have := congrArg UInt64.toNat hzero
      rw [UInt64.toNat_add] at this
      apply UInt64.toNat_inj.mp
      have hlt := sequencer.nextSequence.toNat_lt
      simp at this ⊢
      omega
    simp [hmax, hne]

/-- Before its allocation it is one more. -/
theorem toNat_nextSequence {sequencer : EventSequencer} (h : sequencer.nextSequence ≠ 0) :
    sequencer.nextSequence.toNat = sequencer.lastSequence.toNat + 1 := by
  unfold lastSequence
  rw [if_neg h]
  have hpos : sequencer.nextSequence.toNat ≠ 0 := fun hzero => h (UInt64.toNat_inj.mp hzero)
  rw [UInt64.toNat_sub_of_le _ _ (UInt64.le_iff_toNat_le.mpr (by simp; omega))]
  simp
  omega

end EventSequencer

/-! ### The consumer's side -/

inductive EventDecision
  | accept
  | ignoreStale
  | rebaseRequired
  deriving DecidableEq, Repr

structure RebaseTracker where
  hasBaseline : Bool := false
  generation : UInt64 := 0
  lastSequence : UInt64 := 0
  deriving DecidableEq

namespace RebaseTracker

def invalidate (_tracker : RebaseTracker) : RebaseTracker := {}

def rebase (tracker : RebaseTracker) (generation snapshotSeq : UInt64) : Bool × RebaseTracker :=
  if generation = 0 then (false, tracker.invalidate)
  else (true, { hasBaseline := true, generation := generation, lastSequence := snapshotSeq })

def observeEvent (tracker : RebaseTracker) (generation seq : UInt64) :
    EventDecision × RebaseTracker :=
  if !tracker.hasBaseline ∨ generation = 0 ∨ seq = 0 then (.rebaseRequired, tracker.invalidate)
  else if generation ≠ tracker.generation then (.rebaseRequired, tracker.invalidate)
  else if seq ≤ tracker.lastSequence then (.ignoreStale, tracker)
  else if tracker.lastSequence ≠ maxSequence ∧ seq = tracker.lastSequence + 1 then
    (.accept, { tracker with lastSequence := seq })
  else (.rebaseRequired, tracker.invalidate)

/-- The tracker of a consumer that has everything up to `last`. -/
def upTo (generation last : UInt64) : RebaseTracker :=
  { hasBaseline := true, generation := generation, lastSequence := last }

theorem rebase_eq_upTo (tracker : RebaseTracker) {generation : UInt64} (last : UInt64)
    (h : generation ≠ 0) : tracker.rebase generation last = (true, upTo generation last) :=
  if_neg h

/-- The next event of the generation is accepted. -/
theorem observeEvent_next {generation last seq : UInt64} (hg : generation ≠ 0)
    (hseq : seq.toNat = last.toNat + 1) :
    (upTo generation last).observeEvent generation seq = (.accept, upTo generation seq) := by
  have hseq0 : seq ≠ 0 := fun hzero => by rw [hzero] at hseq; simp at hseq
  have hfresh : ¬ seq ≤ last := fun hle => by
    have := UInt64.le_iff_toNat_le.mp hle
    omega
  have hroom : last ≠ maxSequence := fun hmax => by
    have hlt := seq.toNat_lt
    rw [hmax] at hseq
    simp [maxSequence] at hseq
    omega
  have hnext : seq = last + 1 := by
    apply UInt64.toNat_inj.mp
    have hlt := seq.toNat_lt
    rw [UInt64.toNat_add]
    simp
    omega
  unfold observeEvent upTo
  simp only [hg, hseq0, hfresh, Bool.not_true, Bool.false_eq_true, or_self, if_false, ne_eq,
    not_true]
  rw [if_pos ⟨hroom, hnext⟩]

end RebaseTracker

/-! ### Snapshots -/

def snapshotJson (requestId generation snapshotSeq : UInt64) (snapshot : Bytes) : Bytes :=
  text "\x7b\"requestId\":" ++ decimal requestId ++
    text ",\"status\":200,\"result\":\x7b\"generation\":" ++ decimal generation ++
    text ",\"snapshotSeq\":" ++ decimal snapshotSeq ++ text ",\"snapshot\":" ++ snapshot ++
    text "\x7d\x7d"

def encodeSnapshotResponse (requestId generation snapshotSeq : UInt64) (snapshot : Bytes) : Bytes :=
  if requestId = 0 ∨ generation = 0 ∨ snapshot = [] then []
  else encodeJson .response (snapshotJson requestId generation snapshotSeq snapshot)

end NetworkService.Ipc
