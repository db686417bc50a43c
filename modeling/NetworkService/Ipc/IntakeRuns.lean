import NetworkService.Ipc.Framing
import NetworkService.Ipc.Intake

/-!
# What an intake has received

Along every run the buffers of an intake are what its log says: before the protocol is known they
hold the few bytes received so far, a line is everything received, and the decoder holds everything
received but for the frames that were handled.
-/

namespace NetworkService.Ipc

open Relation

/-! ### Logs -/

section Logs

variable (log more : List IntakeEvent)

@[simp] theorem chunksOf_append : chunksOf (log ++ more) = chunksOf log ++ chunksOf more :=
  List.filterMap_append

@[simp] theorem receivedBytes_append :
    receivedBytes (log ++ more) = receivedBytes log ++ receivedBytes more := by
  unfold receivedBytes
  rw [chunksOf_append, List.flatten_append]

@[simp] theorem handledFrames_append :
    handledFrames (log ++ more) = handledFrames log ++ handledFrames more :=
  List.filterMap_append

@[simp] theorem requestsOf_append : requestsOf (log ++ more) = requestsOf log ++ requestsOf more :=
  List.filterMap_append

@[simp] theorem answersOf_append : answersOf (log ++ more) = answersOf log ++ answersOf more :=
  List.filterMap_append

end Logs

@[simp] theorem chunksOf_received (data : Bytes) : chunksOf [.received data] = [data] := rfl

@[simp] theorem receivedBytes_received (data : Bytes) : receivedBytes [.received data] = data :=
  List.append_nil data

@[simp] theorem handledFrames_received (data : Bytes) : handledFrames [.received data] = [] := rfl

@[simp] theorem requestsOf_received (data : Bytes) : requestsOf [.received data] = [] := rfl

@[simp] theorem answersOf_received (data : Bytes) : answersOf [.received data] = [] := rfl

/-- The log of one frame. -/
theorem frameLog (frame : Frame) (answers : List Bytes) :
    chunksOf (.handled frame :: answers.map .answered) = [] ∧
      handledFrames (.handled frame :: answers.map .answered) = [frame] ∧
      requestsOf (.handled frame :: answers.map .answered) = [] ∧
      answersOf (.handled frame :: answers.map .answered) = answers := by
  induction answers with
  | nil => exact ⟨rfl, rfl, rfl, rfl⟩
  | cons answer answers ih =>
    obtain ⟨hchunks, hframes, hrequests, hanswers⟩ := ih
    exact ⟨hchunks, hframes, hrequests, congrArg (answer :: ·) hanswers⟩

/-! ### The buffers -/

/-- The protocol is not known yet. -/
structure Intake.Undecided (i : Intake) : Prop where
  protocol : i.protocol = .undecided
  initial : i.initial = receivedBytes i.log
  short : i.initial.length < kMagic.length
  v0Request : i.v0Request = []
  session : i.session = none
  decoder : i.decoder = {}
  frames : handledFrames i.log = []
  requests : requestsOf i.log = []
  answers : answersOf i.log = []

/-- Where the reader of a line goes on: too few bytes, or no newline yet. -/
def Unfinished (text : Bytes) : Prop := text.length < kMagic.length ∨ ascii '\n' ∉ text

/-- The client waits for a newline, its line is too long, or its request has been handed over. -/
def Intake.LineState (i : Intake) (line : Bytes) : Prop :=
  (requestsOf i.log = [] ∧ ascii '\n' ∉ line ∧ line.length ≤ kMaxRequestBytes) ∨
    (requestsOf i.log = [] ∧ kMaxRequestBytes < line.length ∧ i.stopped = true) ∨
    (requestsOf i.log = [line] ∧ ascii '\n' ∈ line ∧ line.length ≤ kMaxRequestBytes ∧
      i.stopped = true)

/-- A v0 client. -/
structure Intake.Line (i : Intake) : Prop where
  protocol : i.protocol = .v0
  initial : i.initial = []
  v0Request : i.v0Request = receivedBytes i.log
  session : i.session = none
  decoder : i.decoder = {}
  frames : handledFrames i.log = []
  answers : answersOf i.log = []
  long : kMagic.length ≤ (receivedBytes i.log).length
  other : Server.startsWithV1Magic (receivedBytes i.log) = false
  size : (receivedBytes i.log).length ≤ kMaxRequestBytes + kReceiveBuffer
  unfinished : ∀ front, front <+: chunksOf i.log → front ≠ chunksOf i.log → Unfinished front.flatten
  state : i.LineState (receivedBytes i.log)

/-- A v1 client: the decoder holds what was received, and the session has seen what was handled. -/
structure Intake.Framed (i : Intake) : Prop where
  protocol : i.protocol = .v1
  initial : i.initial = []
  v0Request : i.v0Request = []
  magic : Server.startsWithV1Magic (receivedBytes i.log) = true
  requests : requestsOf i.log = []
  holds : i.decoder.Holds (receivedBytes i.log) (handledFrames i.log)
  session : ∃ first, FreshSession first ∧ i.session = some (first.after (handledFrames i.log)) ∧
    ((first.after (handledFrames i.log)).state = .closed → i.stopped = true)
  failed : i.decoder.error ≠ .none → i.stopped = true

/-- The buffers of an intake agree with its log. -/
inductive Intake.Sound (i : Intake) : Prop
  | undecided (h : i.Undecided)
  | line (h : i.Line)
  | framed (h : i.Framed)

/-! ### Steps -/

theorem FrameDecoder.status_of_error {decoder : FrameDecoder} {data : Bytes}
    (herror : decoder.error = .none) (h : (decoder.feed data).2.error ≠ .none) :
    (decoder.feed data).1 = .error := by
  obtain ⟨fs, fault, rest, hcuts⟩ := Cutting.Cuts.exists_cuts frameCutter (decoder.buffer ++ data)
  obtain ⟨hdecoder, hstatus⟩ := FrameDecoder.feed_eq herror hcuts
  apply hstatus.mpr
  cases fault with
  | some fault => rfl
  | none =>
    rw [hdecoder] at h
    exact absurd herror h

/-- The session that is closed by a frame asks for the end. -/
theorem Session.close_of_closed {session : Session} {frame : Frame}
    (h : (session.handleFrame frame).2.state = .closed) :
    (session.handleFrame frame).1.closeAfterSend = true := by
  rcases session.handleFrame_step frame with
    ⟨-, hframe⟩ | ⟨-, failure, hframe⟩ | ⟨-, hframe⟩ | ⟨hready, -, hframe⟩
  · rw [hframe]
  · rw [hframe]
  · rw [hframe] at h
    cases h
  · rw [hframe, (session.handleRequest_staysOpen frame.payload).state, hready] at h
    cases h

theorem receivedBytes_of_begins {log : List IntakeEvent} {front : List Bytes}
    (h : front <+: chunksOf log) : front.flatten <+: receivedBytes log := by
  obtain ⟨more, hmore⟩ := h
  unfold receivedBytes
  rw [← hmore, List.flatten_append]
  exact List.prefix_append _ _

namespace Intake

/-- An intake that may become a line with the next bytes. -/
structure BeforeLine (i : Intake) (data line : Bytes) : Prop where
  text : line = receivedBytes i.log ++ data
  initial : i.initial = []
  session : i.session = none
  decoder : i.decoder = {}
  frames : handledFrames i.log = []
  answers : answersOf i.log = []
  requests : requestsOf i.log = []
  long : kMagic.length ≤ line.length
  other : Server.startsWithV1Magic line = false
  size : line.length ≤ kMaxRequestBytes + kReceiveBuffer
  unfinished : ∀ front, front <+: chunksOf i.log → Unfinished front.flatten

theorem Line.of_log {i : Intake} {data line : Bytes} (h : i.BeforeLine data line)
    {log : List IntakeEvent} {stopped closed : Bool} (hchunks : chunksOf log = [data])
    (hframes : handledFrames log = []) (hanswers : answersOf log = [])
    (hstate : LineState
      { i with
        protocol := .v0
        v0Request := line
        stopped := stopped
        closed := closed
        log := i.log ++ log } line) :
    Line { i with
      protocol := .v0
      v0Request := line
      stopped := stopped
      closed := closed
      log := i.log ++ log } := by
  have hreceived : receivedBytes (i.log ++ log) = line := by
    rw [receivedBytes_append, h.text]
    unfold receivedBytes
    rw [hchunks, List.flatten_cons, List.flatten_nil, List.append_nil]
  refine ⟨rfl, h.initial, hreceived.symm, h.session, h.decoder, ?_, ?_, ?_, ?_, ?_, ?_, ?_⟩
  · rw [handledFrames_append, h.frames, hframes]
    rfl
  · rw [answersOf_append, h.answers, hanswers]
    rfl
  · rw [hreceived]
    exact h.long
  · rw [hreceived]
    exact h.other
  · rw [hreceived]
    exact h.size
  · intro front hbegins hne
    rw [chunksOf_append, hchunks] at hbegins hne
    exact h.unfinished front ((List.prefix_concat_iff.mp hbegins).resolve_left hne)
  · rw [hreceived]
    exact hstate

theorem BeforeLine.receiveLine {i : Intake} {data line : Bytes} (h : i.BeforeLine data line) :
    (i.receiveLine data line).Line := by
  unfold Intake.receiveLine
  simp only
  by_cases hlarge : kMaxRequestBytes < line.length
  · rw [if_pos hlarge]
    refine Line.of_log h rfl rfl rfl (.inr (.inl ⟨?_, hlarge, rfl⟩))
    rw [requestsOf_append, h.requests]
    rfl
  rw [if_neg hlarge]
  by_cases hwaits : ascii '\n' ∉ line
  · rw [if_pos hwaits]
    refine Line.of_log h rfl rfl rfl (.inl ⟨?_, hwaits, Nat.not_lt.mp hlarge⟩)
    rw [requestsOf_append, h.requests]
    rfl
  · rw [if_neg hwaits]
    refine Line.of_log h rfl rfl rfl
      (.inr (.inr ⟨?_, Decidable.not_not.mp hwaits, Nat.not_lt.mp hlarge, rfl⟩))
    rw [requestsOf_append, h.requests]
    rfl

theorem Framed.of_receiveFrames {i : Intake} {session : Session} {data bytes : Bytes}
    {taken : List Frame} (hinitial : i.initial = []) (hv0Request : i.v0Request = [])
    (hrequests : requestsOf i.log = []) (hframes : handledFrames i.log = taken)
    (hmagic : Server.startsWithV1Magic (receivedBytes i.log ++ data) = true)
    (herror : i.decoder.error = .none)
    (hholds : (i.decoder.feed bytes).2.Holds (receivedBytes i.log ++ data) taken)
    (hsession : ∃ first, FreshSession first ∧ session = first.after taken ∧
      ((first.after taken).state ≠ .closed)) :
    (i.receiveFrames (some session) data bytes).Framed := by
  obtain ⟨first, hfresh, rfl, hstate⟩ := hsession
  have hreceived : receivedBytes (i.log ++ [.received data]) = receivedBytes i.log ++ data := by
    rw [receivedBytes_append, receivedBytes_received]
  have htaken : handledFrames (i.log ++ [.received data]) = taken := by
    rw [handledFrames_append, handledFrames_received, List.append_nil, hframes]
  refine ⟨rfl, hinitial, hv0Request, ?_, ?_, ?_, ⟨first, hfresh, ?_, ?_⟩, ?_⟩
  · simp only [Intake.receiveFrames]
    rw [hreceived]
    exact hmagic
  · simp only [Intake.receiveFrames]
    rw [requestsOf_append, hrequests]
    rfl
  · simp only [Intake.receiveFrames]
    rw [hreceived, htaken]
    exact hholds
  · simp only [Intake.receiveFrames]
    rw [htaken]
  · simp only [Intake.receiveFrames]
    rw [htaken]
    exact fun hclosed => absurd hclosed hstate
  · intro hfailed
    simp only [Intake.receiveFrames] at hfailed ⊢
    rw [FrameDecoder.status_of_error herror hfailed]
    simp

theorem Undecided.receive {i : Intake} (h : i.Undecided) {fresh : Session} {data : Bytes}
    (hfresh : FreshSession fresh) (hsize : data.length ≤ kReceiveBuffer) :
    (i.receive fresh data).Sound := by
  have hshort := h.short
  have hlength : (i.initial ++ data).length = i.initial.length + data.length := List.length_append
  have hmagicLength : kMagic.length = 4 := by decide
  have hsmall : ¬kMaxRequestBytes < (i.initial ++ data).length := by
    unfold kMaxRequestBytes
    unfold kReceiveBuffer at hsize
    omega
  unfold Intake.receive
  rw [h.protocol]
  simp only
  rw [if_neg hsmall]
  by_cases hfew : (i.initial ++ data).length < kMagic.length
  · rw [if_pos hfew]
    refine .undecided ⟨rfl, ?_, hfew, h.v0Request, h.session, h.decoder, ?_, ?_, ?_⟩
    · rw [receivedBytes_append, receivedBytes_received, h.initial]
    · rw [handledFrames_append, h.frames]
      rfl
    · rw [requestsOf_append, h.requests]
      rfl
    · rw [answersOf_append, h.answers]
      rfl
  rw [if_neg hfew]
  cases hmagic : Server.startsWithV1Magic (i.initial ++ data) with
  | true =>
    rw [if_pos rfl]
    refine .framed (Framed.of_receiveFrames rfl h.v0Request h.requests h.frames ?_ ?_ ?_ ?_)
    · rw [← h.initial]
      exact hmagic
    · rw [h.decoder]
    · have hholds := FrameDecoder.Holds.fresh.feed (i.initial ++ data)
      rw [h.decoder, ← h.initial]
      exact hholds
    · refine ⟨fresh, hfresh, rfl, ?_⟩
      intro hclosed
      cases hfresh.state.symm.trans hclosed
  | false =>
    rw [if_neg Bool.false_ne_true]
    refine .line (BeforeLine.receiveLine ?_)
    refine ⟨by rw [h.initial], rfl, h.session, h.decoder, h.frames, h.answers, h.requests,
      Nat.not_lt.mp hfew, hmagic, by omega, ?_⟩
    -- everything received so far is too short
    intro front hbegins
    have hle := (receivedBytes_of_begins hbegins).length_le
    rw [← h.initial] at hle
    exact .inl (Nat.lt_of_le_of_lt hle hshort)

theorem startsWithV1Magic_append {data : Bytes} (h : kMagic.length ≤ data.length) (more : Bytes) :
    Server.startsWithV1Magic (data ++ more) = Server.startsWithV1Magic data := by
  unfold Server.startsWithV1Magic
  rw [Bool.eq_iff_iff, List.isPrefixOf_iff_prefix, List.isPrefixOf_iff_prefix]
  constructor
  · exact fun hbegins => List.prefix_of_prefix_length_le hbegins (List.prefix_append _ _) h
  · exact fun hbegins => hbegins.trans (List.prefix_append _ _)

theorem length_of_magic {data : Bytes} (h : Server.startsWithV1Magic data = true) :
    kMagic.length ≤ data.length :=
  (List.isPrefixOf_iff_prefix.mp h).length_le

theorem Line.receive {i : Intake} (h : i.Line) {fresh : Session} {data : Bytes}
    (hopen : i.stopped = false) (hsize : data.length ≤ kReceiveBuffer) :
    (i.receive fresh data).Line := by
  -- a line that is still read has no newline yet
  obtain ⟨hrequests, hwaits, hsmall⟩ : requestsOf i.log = [] ∧
      ascii '\n' ∉ receivedBytes i.log ∧ (receivedBytes i.log).length ≤ kMaxRequestBytes := by
    rcases h.state with hwaiting | ⟨-, -, hstopped⟩ | ⟨-, -, -, hstopped⟩
    · exact hwaiting
    · cases hopen.symm.trans hstopped
    · cases hopen.symm.trans hstopped
  have hlong := h.long
  have hlength : (receivedBytes i.log ++ data).length = (receivedBytes i.log).length + data.length :=
    List.length_append
  unfold Intake.receive
  rw [h.protocol]
  simp only
  rw [h.v0Request]
  refine BeforeLine.receiveLine ⟨rfl, h.initial, h.session, h.decoder, h.frames, h.answers, hrequests,
    by omega, ?_, by omega, ?_⟩
  · rw [startsWithV1Magic_append hlong]
    exact h.other
  · intro front hbegins
    by_cases hall : front = chunksOf i.log
    · rw [hall]
      exact .inr hwaits
    · exact h.unfinished front hbegins hall

/-- The decoder of an intake that goes on has no error. -/
theorem Framed.error_none {i : Intake} (h : i.Framed) (hopen : i.stopped = false) :
    i.decoder.error = .none := by
  by_cases herror : i.decoder.error = .none
  · exact herror
  · cases hopen.symm.trans (h.failed herror)

theorem Framed.receive {i : Intake} (h : i.Framed) {fresh : Session} {data : Bytes}
    (hopen : i.stopped = false) : (i.receive fresh data).Framed := by
  obtain ⟨first, hfresh, hsession, hends⟩ := h.session
  unfold Intake.receive
  rw [h.protocol]
  simp only
  rw [hsession]
  refine Framed.of_receiveFrames h.initial h.v0Request h.requests rfl ?_ (h.error_none hopen)
    (h.holds.feed data) ⟨first, hfresh, rfl, ?_⟩
  · rw [startsWithV1Magic_append (length_of_magic h.magic)]
    exact h.magic
  · intro hclosed
    cases hopen.symm.trans (hends hclosed)

theorem Framed.handle {i : Intake} (h : i.Framed) {session : Session} {frame : Frame}
    {decoder : FrameDecoder} (answers : List Bytes) (closed : Bool)
    (hsession : i.session = some session) (htake : i.decoder.takeFrame = some (frame, decoder))
    (hopen : i.stopped = false) : (i.handle session frame decoder answers closed).Framed := by
  obtain ⟨first, hfresh, hfirst, -⟩ := h.session
  obtain rfl := Option.some.inj (hsession.symm.trans hfirst)
  obtain ⟨hchunks, hframes, hrequests, -⟩ := frameLog frame answers
  have hreceived : receivedBytes (i.log ++ .handled frame :: answers.map .answered) =
      receivedBytes i.log := by
    rw [receivedBytes_append]
    unfold receivedBytes
    rw [hchunks, List.flatten_nil, List.append_nil]
  have htaken : handledFrames (i.log ++ .handled frame :: answers.map .answered) =
      handledFrames i.log ++ [frame] := by
    rw [handledFrames_append, hframes]
  have hafter : first.after (handledFrames i.log ++ [frame]) =
      ((first.after (handledFrames i.log)).handleFrame frame).2 := by
    rw [Session.after_append]
    rfl
  refine ⟨h.protocol, h.initial, h.v0Request, ?_, ?_, ?_, ⟨first, hfresh, ?_, ?_⟩, ?_⟩
  · simp only [Intake.handle]
    rw [hreceived]
    exact h.magic
  · simp only [Intake.handle]
    rw [requestsOf_append, h.requests, hrequests]
    rfl
  · simp only [Intake.handle]
    rw [hreceived, htaken]
    exact h.holds.take htake
  · simp only [Intake.handle]
    rw [htaken, hafter]
  · simp only [Intake.handle]
    rw [htaken, hafter]
    intro hclosed
    rw [Session.close_of_closed hclosed, Bool.or_true]
  · intro hfailed
    have herror := h.error_none hopen
    unfold FrameDecoder.takeFrame at htake
    split at htake
    · cases htake
    · cases htake
      exact absurd herror hfailed

end Intake

/-! ### Runs -/

theorem Intake.log_receive (i : Intake) (fresh : Session) (data : Bytes) :
    i.log ++ [.received data] <+: (i.receive fresh data).log := by
  have hline : ∀ (i : Intake) (line : Bytes),
      i.log ++ [.received data] <+: (i.receiveLine data line).log := by
    intro i line
    unfold Intake.receiveLine
    simp only
    split
    · exact List.prefix_refl _
    split
    · exact List.prefix_refl _
    · exact ⟨[.requested line], List.append_assoc _ _ _⟩
  unfold Intake.receive
  split
  · simp only
    split
    · exact List.prefix_refl _
    split
    · exact List.prefix_refl _
    split
    · exact List.prefix_refl _
    · exact hline { i with initial := [] } _
  · exact hline i _
  · exact List.prefix_refl _

/-- The log only grows. -/
theorem IntakeStep.log_begins {i j : Intake} (h : IntakeStep i j) : i.log <+: j.log := by
  cases h with
  | close => exact List.prefix_refl _
  | receive =>
    exact (List.prefix_append _ _).trans (i.log_receive _ _)
  | handle => exact List.prefix_append _ _

theorem Intake.Sound.close {i : Intake} (h : i.Sound) : i.close.Sound := by
  cases h with
  | undecided h =>
    exact .undecided ⟨h.protocol, h.initial, h.short, h.v0Request, h.session, h.decoder, h.frames,
      h.requests, h.answers⟩
  | line h =>
    refine .line ⟨h.protocol, h.initial, h.v0Request, h.session, h.decoder, h.frames, h.answers,
      h.long, h.other, h.size, h.unfinished, ?_⟩
    rcases h.state with hwaits | ⟨hnone, hlarge, -⟩ | ⟨hrequest, hnewline, hsmall, -⟩
    · exact .inl hwaits
    · exact .inr (.inl ⟨hnone, hlarge, rfl⟩)
    · exact .inr (.inr ⟨hrequest, hnewline, hsmall, rfl⟩)
  | framed h =>
    obtain ⟨first, hfresh, hsession, -⟩ := h.session
    exact .framed ⟨h.protocol, h.initial, h.v0Request, h.magic, h.requests, h.holds,
      ⟨first, hfresh, hsession, fun _ => rfl⟩, fun _ => rfl⟩

theorem Intake.Sound.step {i j : Intake} (h : i.Sound) (hstep : IntakeStep i j) : j.Sound := by
  cases hstep with
  | close => exact h.close
  | receive hopen hfresh _ hsize =>
    cases h with
    | undecided h => exact h.receive hfresh hsize
    | line h => exact .line (h.receive hopen hsize)
    | framed h => exact .framed (h.receive hopen)
  | handle hopen hsession htake _ =>
    cases h with
    | undecided h => cases h.session.symm.trans hsession
    | line h => cases h.session.symm.trans hsession
    | framed h => exact .framed (h.handle _ _ hsession htake hopen)

/-- **The buffers of every run agree with its log.** -/
theorem Intake.Sound.of_run {i : Intake} (h : IntakeRun {} i) : i.Sound := by
  induction h with
  | refl => exact .undecided ⟨rfl, rfl, by decide, rfl, rfl, rfl, rfl, rfl, rfl⟩
  | tail _ hstep ih => exact ih.step hstep

end NetworkService.Ipc
