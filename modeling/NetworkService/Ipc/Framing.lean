import NetworkService.Ipc.Decoding
import NetworkService.Library.Execution

/-!
# The frame decoder

The decoder's loop computes the cutting of what it has received.  So the frames it hands out and its
error do not depend on the pieces in which the bytes came, and the streams it accepts are the
encodings of their frames, followed by the beginning of one more.
-/

namespace NetworkService.Ipc

open Cutting Execution

/-! ### The loop -/

namespace FrameDecoder

/-- One turn of the loop. -/
theorem parseLoop_succ (turns : ℕ) (decoder : FrameDecoder) :
    parseLoop (turns + 1) decoder =
      match cutFrame decoder.buffer with
      | .more => (decoder.status, decoder)
      | .bad fault => (.error, { decoder with error := fault })
      | .item frame rest =>
        parseLoop turns { decoder with buffer := rest, frames := decoder.frames ++ [frame] } := by
  by_cases hshort : decoder.buffer.length < kHeaderSize
  · rw [cutFrame_short hshort]
    simp only [parseLoop, if_pos hshort]
  · simp only [parseLoop, if_neg hshort, cutFrame]
    cases hheader : decodeHeader decoder.buffer with
    | error fault => cases fault <;> rfl
    | ok header =>
      simp only
      by_cases hpart : decoder.buffer.length < kHeaderSize + header.payloadLength.toNat
      · rw [if_pos hpart, if_pos hpart]
      · rw [if_neg hpart, if_neg hpart]

/-- The decoder that has cut `fs` off its buffer. -/
def cutOff (decoder : FrameDecoder) (fs : List Frame) (fault : Option CodecError) (rest : Bytes) :
    FrameDecoder :=
  { buffer := rest, frames := decoder.frames ++ fs, error := fault.getD decoder.error }

/-- The loop computes the cutting of the buffer. -/
theorem parseLoop_eq {s rest : Bytes} {fs : List Frame} {fault : Option CodecError}
    (h : Cuts frameCutter s fs fault rest) :
    ∀ (turns : ℕ) (decoder : FrameDecoder), decoder.buffer = s → s.length ≤ turns →
      (parseLoop turns decoder).2 = decoder.cutOff fs fault rest ∧
        ((parseLoop turns decoder).1 = .error ↔ fault.isSome = true) := by
  induction h with
  | @more s hs =>
    intro turns decoder hbuffer _
    have hstop : parseLoop turns decoder = (decoder.status, decoder) := by
      cases turns with
      | zero => rfl
      | succ turns =>
        rw [parseLoop_succ, hbuffer, show cutFrame s = .more from hs]
    rw [hstop]
    refine ⟨?_, ?_⟩
    · simp only [cutOff, List.append_nil, Option.getD_none, ← hbuffer]
    · unfold status
      split <;> simp
  | @bad s fault hs =>
    intro turns decoder hbuffer hturns
    cases turns with
    | zero =>
      rw [List.length_eq_zero_iff.mp (Nat.le_zero.mp hturns)] at hs
      cases hs
    | succ turns =>
      rw [parseLoop_succ, hbuffer, show cutFrame s = .bad fault from hs]
      simp only [cutOff, List.append_nil, Option.getD_some, ← hbuffer, Option.isSome_some, and_self]
  | @item s t rest frame fs fault hs _ ih =>
    intro turns decoder hbuffer hturns
    have hlt := frameCutter.shorter hs
    cases turns with
    | zero => omega
    | succ turns =>
      rw [parseLoop_succ, hbuffer, show cutFrame s = .item frame t from hs]
      obtain ⟨hdecoder, hstatus⟩ := ih turns
        { decoder with buffer := t, frames := decoder.frames ++ [frame] } rfl (by omega)
      refine ⟨hdecoder.trans ?_, hstatus⟩
      simp only [cutOff, List.append_assoc, List.singleton_append]

/-- `feed` on a decoder without an error. -/
theorem feed_eq {decoder : FrameDecoder} {data rest : Bytes} {fs : List Frame}
    {fault : Option CodecError} (herror : decoder.error = .none)
    (h : Cuts frameCutter (decoder.buffer ++ data) fs fault rest) :
    (decoder.feed data).2 = decoder.cutOff fs fault rest ∧
      ((decoder.feed data).1 = .error ↔ fault.isSome = true) := by
  unfold feed
  rw [if_neg (not_not_intro herror)]
  exact parseLoop_eq h _ { decoder with buffer := decoder.buffer ++ data } rfl (Nat.le_refl _)

/-- A decoder with an error stays as it is. -/
theorem feed_error {decoder : FrameDecoder} (herror : decoder.error ≠ .none) (data : Bytes) :
    decoder.feed data = (.error, decoder) := if_pos herror

end FrameDecoder

theorem fault_ne_none {s rest : Bytes} {fs : List Frame} {fault : CodecError}
    (h : Cuts frameCutter s fs (some fault) rest) : fault ≠ .none := by
  intro hnone
  cases h.rest_cuts with
  | bad hs =>
    rcases cutFrame_cases rest with
      ⟨_, hcut⟩ | ⟨_, _, hfault, hcut⟩ | ⟨_, _, _, hcut⟩ | ⟨_, _, _, hcut⟩
    · cases hcut.symm.trans hs
    · cases hcut.symm.trans hs
      exact headerFault_ne_none (hnone ▸ hfault)
    · cases hcut.symm.trans hs
    · cases hcut.symm.trans hs

/-! ### What a decoder has received -/

/-- The decoder has received `stream`, and `taken` are the frames that were taken from it. -/
structure FrameDecoder.Holds (decoder : FrameDecoder) (stream : Bytes) (taken : List Frame) :
    Prop where
  cuts : ∃ fault rest, Cuts frameCutter stream (taken ++ decoder.frames) fault rest ∧
    decoder.error = fault.getD .none ∧ (fault = none → decoder.buffer = rest)

namespace FrameDecoder.Holds

variable {decoder : FrameDecoder} {stream data : Bytes} {taken : List Frame}

theorem fresh : ({} : FrameDecoder).Holds [] [] :=
  ⟨none, [], .more rfl, rfl, fun _ => rfl⟩

theorem feed (h : decoder.Holds stream taken) (data : Bytes) :
    (decoder.feed data).2.Holds (stream ++ data) taken := by
  obtain ⟨fault, rest, hcuts, herror, hbuffer⟩ := h.cuts
  cases fault with
  | some fault =>
    have hne : decoder.error ≠ .none := by
      rw [herror]
      exact fault_ne_none hcuts
    rw [feed_error hne data]
    exact ⟨some fault, rest ++ data, hcuts.append_bad data, herror, fun hnone => by cases hnone⟩
  | none =>
    obtain ⟨fs, fault, rest', hcuts'⟩ := Cuts.exists_cuts frameCutter (rest ++ data)
    have hdata : Cuts frameCutter (decoder.buffer ++ data) fs fault rest' := by
      rw [hbuffer rfl]
      exact hcuts'
    rw [(feed_eq herror hdata).1]
    refine ⟨fault, rest', ?_, ?_, fun _ => rfl⟩
    · show Cuts frameCutter (stream ++ data) (taken ++ (decoder.frames ++ fs)) fault rest'
      rw [← List.append_assoc]
      exact hcuts.append hcuts'
    · show fault.getD decoder.error = _
      rw [herror]
      rfl

theorem take (h : decoder.Holds stream taken) {frame : Frame} {next : FrameDecoder}
    (htake : decoder.takeFrame = some (frame, next)) : next.Holds stream (taken ++ [frame]) := by
  obtain ⟨fault, rest, hcuts, herror, hbuffer⟩ := h.cuts
  unfold takeFrame at htake
  split at htake
  · cases htake
  next first frames hframes =>
    cases htake
    refine ⟨fault, rest, ?_, herror, hbuffer⟩
    rw [List.append_assoc, List.singleton_append, ← hframes]
    exact hcuts

/-- Two decoders that have received the same stream agree on the frames and on the error. -/
theorem unique {other : FrameDecoder} {taken' : List Frame} (h : decoder.Holds stream taken)
    (h' : other.Holds stream taken') :
    taken ++ decoder.frames = taken' ++ other.frames ∧ decoder.error = other.error := by
  obtain ⟨fault, rest, hcuts, herror, -⟩ := h.cuts
  obtain ⟨fault', rest', hcuts', herror', -⟩ := h'.cuts
  obtain ⟨hframes, rfl, -⟩ := hcuts.unique hcuts'
  exact ⟨hframes, herror.trans herror'.symm⟩

end FrameDecoder.Holds

/-! ### Pieces of a stream -/

/-- What can be done with a decoder. -/
inductive DecoderOp
  | feed (data : Bytes)
  | take
  deriving DecidableEq

/-- The frames taken so far, and the decoder; a frame is taken where there is one. -/
def decoderStep : DecoderOp → List Frame × FrameDecoder → Option (List Frame × FrameDecoder)
  | .feed data, (taken, decoder) => some (taken, (decoder.feed data).2)
  | .take, (taken, decoder) =>
    decoder.takeFrame.map fun (frame, decoder) => (taken ++ [frame], decoder)

def DecoderOp.data : DecoderOp → Bytes
  | feed data => data
  | take => []

/-- Everything that was fed. -/
def fedBytes (ops : List DecoderOp) : Bytes := ops.flatMap DecoderOp.data

/-- A decoder holds what it was fed, whatever was taken meanwhile. -/
theorem holds_of_run {ops : List DecoderOp} {taken : List Frame} {decoder : FrameDecoder}
    (h : run decoderStep ops ([], {}) = some (taken, decoder)) :
    decoder.Holds (fedBytes ops) taken := by
  have hreach : Reaches (fun s => s = ([], {})) decoderStep ops.reverse (taken, decoder) :=
    Reaches.of_run rfl h
  have hinv := Reaches.invariant
    (I := fun history s => s.2.Holds (fedBytes history.reverse) s.1) ?_ ?_ hreach
  · rw [List.reverse_reverse] at hinv
    exact hinv
  · intro s hs
    rw [hs]
    exact FrameDecoder.Holds.fresh
  · intro history op s t hs hstep
    have hbytes : fedBytes (op :: history).reverse = fedBytes history.reverse ++ op.data := by
      unfold fedBytes
      rw [List.reverse_cons, List.flatMap_append, List.flatMap_cons, List.flatMap_nil,
        List.append_nil]
    rw [hbytes]
    cases op with
    | feed data =>
      cases hstep
      exact hs.feed data
    | take =>
      obtain ⟨⟨frame, next⟩, htake, hnext⟩ := Option.map_eq_some_iff.mp hstep
      cases hnext
      rw [show DecoderOp.take.data = [] from rfl, List.append_nil]
      exact hs.take htake

/-- **Decoding does not depend on the pieces.** Whatever is fed in whatever pieces, and whenever
frames are taken, the frames taken followed by those still there, and the error, are those of one
call with all the bytes; a decoder with an error reports it and takes no more bytes. -/
theorem decoding_independent_of_chunking {ops : List DecoderOp} {taken : List Frame}
    {decoder : FrameDecoder} (h : run decoderStep ops ([], {}) = some (taken, decoder)) :
    taken ++ decoder.frames = (({} : FrameDecoder).feed (fedBytes ops)).2.frames ∧
      decoder.error = (({} : FrameDecoder).feed (fedBytes ops)).2.error ∧
      (decoder.error ≠ .none → ∀ data, decoder.feed data = (.error, decoder)) := by
  have hpieces := holds_of_run h
  have hwhole := FrameDecoder.Holds.fresh.feed (fedBytes ops)
  rw [List.nil_append] at hwhole
  obtain ⟨hframes, herror⟩ := hpieces.unique hwhole
  exact ⟨hframes, herror, fun hne data => FrameDecoder.feed_error hne data⟩

/-- A greeting and the beginning of a request in four pieces, with the greeting taken in between. -/
def piecewiseOps : List DecoderOp :=
  [.feed (text "NSP1"), .feed [1, 1, 0, 0, 0, 0, 0, 2, 123, 125, 78, 83], .take, .feed [],
    .feed [80, 49, 1, 3, 0, 1, 0, 0, 0, 0], .feed (text "NSP1")]

theorem decoding_independent_of_chunking_piecewise :
    ∃ taken decoder, run decoderStep piecewiseOps ([], {}) = some (taken, decoder) ∧
      taken.length = 1 ∧ decoder.error = .nonZeroFlags ∧
      taken ++ decoder.frames = (({} : FrameDecoder).feed (fedBytes piecewiseOps)).2.frames ∧
      decoder.error = (({} : FrameDecoder).feed (fedBytes piecewiseOps)).2.error := by
  have hrun : run decoderStep piecewiseOps ([], {}) =
      some ([⟨headerOf .hello 2, [123, 125]⟩],
        { buffer := [78, 83, 80, 49, 1, 3, 0, 1, 0, 0, 0, 0], error := .nonZeroFlags }) := by
    decide +kernel
  obtain ⟨hframes, herror, -⟩ := decoding_independent_of_chunking hrun
  exact ⟨_, _, hrun, rfl, rfl, hframes, herror⟩

/-! ### The accepted streams -/

/-- A fresh decoder after one call of `feed`. -/
def decoded (s : Bytes) : FrameDecoder := (({} : FrameDecoder).feed s).2

/-- The beginning of a frame: part of a header, or a valid header without its whole payload. -/
def Incomplete (r : Bytes) : Prop :=
  r.length < kHeaderSize ∨
    kHeaderSize ≤ r.length ∧ headerFault r = none ∧ r.length < kHeaderSize + declaredLength r

theorem cutFrame_more_iff (r : Bytes) : cutFrame r = .more ↔ Incomplete r := by
  unfold Incomplete
  rcases cutFrame_cases r with
    ⟨hshort, hcut⟩ | ⟨fault, hlong, hfault, hcut⟩ | ⟨hlong, hvalid, hpart, hcut⟩ |
      ⟨hlong, hvalid, hall, hcut⟩
  · exact ⟨fun _ => .inl hshort, fun _ => hcut⟩
  · rw [hcut, hfault]
    constructor
    · intro h
      cases h
    · intro h
      rcases h with h | ⟨_, h, _⟩
      · omega
      · cases h
  · exact ⟨fun _ => .inr ⟨hlong, hvalid, hpart⟩, fun _ => hcut⟩
  · rw [hcut]
    constructor
    · intro h
      cases h
    · intro h
      omega

theorem cutFrame_bad_iff (t : Bytes) (fault : CodecError) :
    cutFrame t = .bad fault ↔ kHeaderSize ≤ t.length ∧ headerFault t = some fault := by
  constructor
  · intro h
    rcases cutFrame_cases t with
      ⟨_, hcut⟩ | ⟨found, hlong, hfault, hcut⟩ | ⟨_, _, _, hcut⟩ | ⟨_, _, _, hcut⟩
    · cases hcut.symm.trans h
    · cases hcut.symm.trans h
      exact ⟨hlong, hfault⟩
    · cases hcut.symm.trans h
    · cases hcut.symm.trans h
  · rintro ⟨hlong, hfault⟩
    exact cutFrame_bad hlong hfault

/-- What is kept of an incomplete frame is shorter than the longest frame. -/
theorem Incomplete.length_le {r : Bytes} (h : Incomplete r) : r.length ≤ 65547 := by
  rcases h with hshort | ⟨_, hvalid, hpart⟩
  · unfold kHeaderSize at hshort
    omega
  · have hlength := ((headerFault_eq_none_iff r).mp hvalid).2.2.2.2
    unfold kHeaderSize at hpart
    unfold kMaxPayloadBytes at hlength
    omega

/-- A fresh decoder computes the cutting of the whole stream. -/
theorem decoded_eq {s rest : Bytes} {fs : List Frame} {fault : Option CodecError}
    (h : Cuts frameCutter s fs fault rest) :
    decoded s = { buffer := rest, frames := fs, error := fault.getD .none } := by
  have hfresh : ({} : FrameDecoder).error = .none := rfl
  have hfeed := (FrameDecoder.feed_eq hfresh h).1
  rw [decoded, hfeed]
  rfl

/-- The frame of a message. -/
def messageFrame (message : MessageType × Bytes) : Frame :=
  ⟨headerOf message.1 message.2.length, message.2⟩

/-- The frames of these messages one after the other. -/
def encodeAll (messages : List (MessageType × Bytes)) : Bytes :=
  messages.flatMap fun message => encodeJson message.1 message.2

theorem cuts_messages {messages : List (MessageType × Bytes)}
    (h : ∀ message ∈ messages, message.2.length ≤ kMaxPayloadBytes) :
    Cuts frameCutter (encodeAll messages) (messages.map messageFrame) none [] := by
  refine frameSpelling.cuts_iff.mpr ⟨?_, ?_, rfl⟩
  · intro frame hframe
    obtain ⟨message, hmem, rfl⟩ := List.mem_map.mp hframe
    exact ⟨rfl, h message hmem⟩
  · rw [List.append_nil, List.flatMap_map]
    rfl

/-- **The decoder accepts what the encoder writes.** A stream has no error exactly if it is the
encodings of the decoded frames and the beginning of one more, which is kept and is never longer
than 65547 bytes; otherwise a header follows these encodings, and the error is the first check that
it fails.  So encoded messages come back as they were. -/
theorem decoder_accepts_encoder_language :
    (∀ s : Bytes,
      ((decoded s).error = .none ↔
        s = (decoded s).frames.flatMap Frame.encoded ++ (decoded s).buffer ∧
          Incomplete (decoded s).buffer) ∧
      ((decoded s).error = .none → (decoded s).buffer.length ≤ 65547) ∧
      ((decoded s).error ≠ .none → ∃ t,
        s = (decoded s).frames.flatMap Frame.encoded ++ t ∧ kHeaderSize ≤ t.length ∧
          headerFault t = some (decoded s).error) ∧
      ∀ frame ∈ (decoded s).frames,
        encodeFrame frame.header.type frame.payload = .ok frame.encoded) ∧
    ∀ messages : List (MessageType × Bytes),
      (∀ message ∈ messages, message.2.length ≤ kMaxPayloadBytes) →
        decoded (encodeAll messages) = { frames := messages.map messageFrame } := by
  refine ⟨fun s => ?_, fun messages hmessages => decoded_eq (cuts_messages hmessages)⟩
  obtain ⟨fs, fault, rest, hcuts⟩ := Cuts.exists_cuts frameCutter s
  obtain ⟨hvalid, hs, hends⟩ := frameSpelling.cuts_iff.mp hcuts
  rw [decoded_eq hcuts]
  have hencoded : ∀ frame ∈ fs,
      encodeFrame frame.header.type frame.payload = .ok frame.encoded := by
    intro frame hframe
    have hlength := (hvalid frame hframe).2
    unfold Frame.encoded
    rw [encodeJson_eq _ hlength]
    unfold encodeFrame
    rw [MessageType.isValid_toByte, if_neg (by decide), if_neg (Nat.not_lt.mpr hlength)]
  cases fault with
  | none =>
    have hrest : Incomplete rest := (cutFrame_more_iff rest).mp hends
    exact ⟨⟨fun _ => ⟨hs, hrest⟩, fun _ => rfl⟩, fun _ => hrest.length_le,
      fun hne => absurd rfl hne, hencoded⟩
  | some fault =>
    have hne : fault ≠ .none := fault_ne_none hcuts
    obtain ⟨hlong, hfault⟩ := (cutFrame_bad_iff rest fault).mp hends
    refine ⟨⟨fun herror => absurd herror hne, fun h => ?_⟩, fun herror => absurd herror hne,
      fun _ => ⟨rest, hs, hlong, hfault⟩, hencoded⟩
    have hmore := (cutFrame_more_iff rest).mpr h.2
    rw [show cutFrame rest = .bad fault from hends] at hmore
    cases hmore

theorem decoder_accepts_encoder_language_messages :
    decoded (encodeJson .hello [123, 125] ++ encodeJson .request []) =
      { frames := [⟨headerOf .hello 2, [123, 125]⟩, ⟨headerOf .request 0, []⟩] } := by
  have hdecoded := decoder_accepts_encoder_language.2 [(.hello, [123, 125]), (.request, [])]
    (by decide)
  exact hdecoded

end NetworkService.Ipc
