import Mathlib.Data.List.Basic
import Mathlib.Data.List.Induction
import NetworkService.Ipc.InputBounds

/-!
# The frames that are handled of a stream

A session is given the frames of the stream one after the other until it is closed, until the server
cannot answer, or until a malformed header ends the stream.  A malformed header ends the connection
as soon as it is decoded, and the frames in front of it are dropped if they still wait: so it depends
on where the kernel cuts the stream whether they are handled.
-/

namespace NetworkService.Ipc

open Execution Relation Cutting

/-! ### The items up to the first end -/

section UpTo

variable {α : Type} {ends : List α → Bool}

/-- One item after the other is done, until all that is done has come to an end. -/
def upTo (ends : List α → Bool) (done : List α) : List α → List α
  | [] => done
  | item :: items =>
    if ends (done ++ [item]) then done ++ [item] else upTo ends (done ++ [item]) items

/-- Nothing ends with these items. -/
theorem upTo_append {items : List α} (rest : List α) {done : List α}
    (h : ∀ front, front <+: items → front ≠ [] → ends (done ++ front) = false) :
    upTo ends done (items ++ rest) = upTo ends (done ++ items) rest := by
  induction items generalizing done with
  | nil => rw [List.nil_append, List.append_nil]
  | cons item items ih =>
    have hfirst : ends (done ++ [item]) = false :=
      h [item] (List.cons_prefix_cons.mpr ⟨rfl, List.nil_prefix⟩) (by simp)
    rw [List.cons_append, upTo, hfirst, if_neg Bool.false_ne_true, ih, List.append_assoc,
      List.singleton_append]
    intro front hbegins _
    have hlonger := h (item :: front) (List.cons_prefix_cons.mpr ⟨rfl, hbegins⟩) (by simp)
    rw [List.append_assoc, List.singleton_append]
    exact hlonger

/-- As long as there are items, one more is done. -/
theorem length_lt_upTo {items : List α} (h : items ≠ []) (done : List α) :
    done.length < (upTo ends done items).length := by
  induction items generalizing done with
  | nil => exact absurd rfl h
  | cons item items ih =>
    have hlength : (done ++ [item]).length = done.length + 1 := by
      rw [List.length_append, List.length_singleton]
    rw [upTo]
    by_cases hends : ends (done ++ [item]) = true
    · rw [if_pos hends]
      omega
    rw [if_neg hends]
    by_cases hempty : items = []
    · rw [hempty, upTo]
      omega
    · have hmore := ih hempty (done ++ [item])
      omega

/-- The items are done up to here: nothing ended before, and this is the end or all. -/
theorem upTo_eq {items done : List α} (hbegins : done <+: items)
    (hgoes : ∀ front, front <+: done → front ≠ done → ends front = false)
    (hend : done = items ∨ done ≠ [] ∧ ends done = true) : upTo ends [] items = done := by
  obtain ⟨rest, rfl⟩ := hbegins
  rcases List.eq_nil_or_concat' done with rfl | ⟨before, last, rfl⟩
  · rcases hend with hall | ⟨hne, -⟩
    · rw [← hall, upTo]
    · exact absurd rfl hne
  · have hbefore : ∀ front, front <+: before → front ≠ [] → ends ([] ++ front) = false := by
      intro front hfront _
      refine hgoes front (hfront.trans (List.prefix_append _ _)) ?_
      rintro rfl
      have hle := hfront.length_le
      rw [List.length_append, List.length_singleton] at hle
      omega
    rw [List.append_assoc, upTo_append _ hbefore, List.nil_append, List.singleton_append, upTo]
    rcases hend with hall | ⟨-, hends⟩
    · obtain rfl : rest = [] := List.append_right_eq_self.mp hall.symm
      rw [upTo, ite_self]
    · rw [if_pos hends]

theorem upTo_ne {done rest : List α} (hrest : rest ≠ [])
    (hgoes : ∀ front, front <+: done → ends front = false) : upTo ends [] (done ++ rest) ≠ done := by
  intro heq
  rw [upTo_append _ fun front hfront _ => hgoes front hfront, List.nil_append] at heq
  have hlt : done.length < (upTo ends done rest).length := length_lt_upTo hrest done
  rw [heq] at hlt
  omega

end UpTo

/-! ### What a stream makes of a session -/

/-- Only the state of a session decides over its next state. -/
theorem Session.handleFrame_state {a b : Session} (h : a.state = b.state) (frame : Frame) :
    (a.handleFrame frame).2.state = (b.handleFrame frame).2.state := by
  unfold handleFrame
  rw [h]
  cases hstate : b.state with
  | closed => exact h.trans rfl
  | awaitHello =>
    simp only
    split
    · rfl
    · unfold handleHello
      split
      · rfl
      · split
        · rfl
        · rfl
  | ready =>
    simp only
    split
    · rw [(a.handleRequest_staysOpen _).state, (b.handleRequest_staysOpen _).state]
      exact h
    · rfl

theorem Session.after_state {a b : Session} (h : a.state = b.state) (frames : List Frame) :
    (a.after frames).state = (b.after frames).state := by
  induction frames generalizing a b with
  | nil => exact h
  | cons frame frames ih => exact ih (handleFrame_state h frame)

/-- The state of the session that has been given these frames. -/
def stateAfter (frames : List Frame) : SessionState := ((Session.create 1 []).after frames).state

theorem FreshSession.after_state {first : Session} (h : FreshSession first) (frames : List Frame) :
    (first.after frames).state = stateAfter frames :=
  Session.after_state h.state frames

/-- A connection ends with these frames: the session is closed, or the server cannot answer the last
of them.  This is up to the daemon, and `fails` says for which frames it is so. -/
def streamEnds (fails : List Frame → Bool) (frames : List Frame) : Bool :=
  decide (stateAfter frames = .closed) || fails frames

/-- The frames of a stream that are to be handled. -/
def streamFrames (fails : List Frame → Bool) (stream : Bytes) : List Frame :=
  upTo (streamEnds fails) [] (decoded stream).frames

/-- What is decoded of the beginning of a stream is decoded of the stream, and an error stays. -/
theorem decoded_append (s t : Bytes) :
    (decoded s).frames <+: (decoded (s ++ t)).frames ∧
      ((decoded s).error ≠ .none → (decoded (s ++ t)).frames = (decoded s).frames ∧
        (decoded (s ++ t)).error = (decoded s).error) := by
  obtain ⟨fs, fault, rest, hcuts⟩ := Cuts.exists_cuts frameCutter s
  cases fault with
  | none =>
    obtain ⟨more, fault, rest', hmore⟩ := Cuts.exists_cuts frameCutter (rest ++ t)
    rw [decoded_eq hcuts, decoded_eq (hcuts.append hmore)]
    exact ⟨List.prefix_append _ _, fun herror => absurd rfl herror⟩
  | some fault =>
    rw [decoded_eq hcuts, decoded_eq (hcuts.append_bad t)]
    exact ⟨List.prefix_refl _, fun _ => ⟨rfl, rfl⟩⟩

theorem decoded_short {s : Bytes} (h : s.length < kHeaderSize) : (decoded s).error = .none := by
  rw [decoded_eq (.more (cutFrame_short h))]
  rfl

/-! ### Logs -/

/-- The server goes on: it reads, or it hands over a frame. -/
def IntakeEvent.isMove : IntakeEvent → Bool
  | received _ => true
  | handled _ => true
  | _ => false

/-- Whenever the server went on, what `P` says held of the log before. -/
def AtMoves (P : List IntakeEvent → Prop) (log : List IntakeEvent) : Prop :=
  ∀ front event back, log = front ++ event :: back → event.isMove = true → P front

/-- No `recv` brings a malformed header while a frame in front of it waits. -/
def WholeReads : List IntakeEvent → Prop :=
  AtReads fun front data =>
    (decoded (receivedBytes front ++ data)).error ≠ .none →
      handledFrames front = (decoded (receivedBytes front ++ data)).frames

instance (log : List IntakeEvent) : Decidable (WholeReads log) :=
  inferInstanceAs (Decidable (AtReads _ log))

section AtMoves

variable {P Q : List IntakeEvent → Prop} {log : List IntakeEvent}

theorem AtMoves.of_begins {more : List IntakeEvent} (h : AtMoves P more) (hbegins : log <+: more) :
    AtMoves P log := by
  obtain ⟨rest, rfl⟩ := hbegins
  intro front event back hlog
  refine h front event (back ++ rest) ?_
  rw [hlog, List.append_assoc, List.cons_append]

theorem AtMoves.and (h : AtMoves P log) (h' : AtMoves Q log) :
    AtMoves (fun front => P front ∧ Q front) log :=
  fun front event back hlog hmove =>
    ⟨h front event back hlog hmove, h' front event back hlog hmove⟩

/-- One more event. -/
theorem AtMoves.concat {event : IntakeEvent} (h : AtMoves P log) (hevent : event.isMove = true → P log) :
    AtMoves P (log ++ [event]) := by
  intro front other back hlog hmove
  rcases List.eq_nil_or_concat' back with rfl | ⟨before, last, rfl⟩
  · obtain ⟨rfl, heq⟩ := List.append_inj' hlog rfl
    obtain rfl := (List.cons.inj heq).1
    exact hevent hmove
  · rw [← List.cons_append, ← List.append_assoc] at hlog
    obtain ⟨rfl, -⟩ := List.append_inj' hlog rfl
    exact h front other before rfl hmove

/-- Events that are not moves. -/
theorem AtMoves.append_rest {more : List IntakeEvent} (h : AtMoves P log)
    (hmore : ∀ event ∈ more, event.isMove = false) : AtMoves P (log ++ more) := by
  induction more generalizing log with
  | nil =>
    rw [List.append_nil]
    exact h
  | cons event more ih =>
    rw [List.append_cons]
    refine ih (h.concat ?_) fun other hother => hmore other (List.mem_cons_of_mem _ hother)
    intro hmove
    rw [hmore event List.mem_cons_self] at hmove
    cases hmove

/-- When a frame was handled, the frames before it were the ones handled by then. -/
theorem AtMoves.handled (h : AtMoves P log) {frames : List Frame}
    (hbegins : frames <+: handledFrames log) (hne : frames ≠ handledFrames log) :
    ∃ front, handledFrames front = frames ∧ P front := by
  induction log using List.reverseRecOn with
  | nil => exact absurd (List.prefix_nil.mp hbegins) hne
  | append_singleton log event ih =>
    have hbefore := h.of_begins (List.prefix_append log [event])
    rw [handledFrames_append] at hbegins hne
    cases hframe : event.frame? with
    | none =>
      have hsame : handledFrames [event] = [] := List.filterMap_cons_none hframe
      rw [hsame, List.append_nil] at hbegins hne
      exact ih hbefore hbegins hne
    | some frame =>
      have hone : handledFrames [event] = [frame] := List.filterMap_cons_some hframe
      have hmove : event.isMove = true := by
        cases event with
        | handled _ => rfl
        | received _ => cases hframe
        | requested _ => cases hframe
        | answered _ => cases hframe
      rw [hone] at hbegins hne
      have hshorter := (List.prefix_concat_iff.mp hbegins).resolve_left hne
      by_cases hlast : frames = handledFrames log
      · exact ⟨log, hlast.symm, h log event [] rfl hmove⟩
      · exact ih hbefore hshorter hlast

end AtMoves

/-! ### Runs -/

/-- The connection is open: the session is, and nothing malformed has been received. -/
def OpenLog (log : List IntakeEvent) : Prop :=
  stateAfter (handledFrames log) ≠ .closed ∧ (decoded (receivedBytes log)).error = .none

/-- A v1 client, or one that may become one: the server went on only while the connection was open,
and a malformed header was the last thing that it read. -/
structure Intake.Steady (i : Intake) : Prop where
  moves : AtMoves OpenLog i.log
  broken : i.decoder.error ≠ .none → ∃ front data, i.log = front ++ [.received data]

theorem Intake.Undecided.openLog {i : Intake} (h : i.Undecided) : OpenLog i.log := by
  have hmagic : kMagic.length = 4 := by decide
  have hshort := h.short
  rw [h.initial] at hshort
  refine ⟨?_, decoded_short ?_⟩
  · rw [h.frames]
    decide
  · unfold kHeaderSize
    omega

theorem Intake.Framed.openLog {i : Intake} (h : i.Framed) (hopen : i.stopped = false) :
    OpenLog i.log := by
  obtain ⟨first, hfresh, -, hends⟩ := h.session
  refine ⟨?_, h.decoded_frames.2.trans (h.error_none hopen)⟩
  intro hclosed
  rw [← hfresh.after_state] at hclosed
  cases hopen.symm.trans (hends hclosed)

theorem Intake.receiveLine_protocol (i : Intake) (data line : Bytes) :
    (i.receiveLine data line).protocol = .v0 := by
  unfold Intake.receiveLine
  simp only
  split
  · rfl
  split
  · rfl
  · rfl

/-- The log is longer by what was received, unless that was a line. -/
theorem Intake.log_receive_or (i : Intake) (fresh : Session) (data : Bytes) :
    (i.receive fresh data).protocol = .v0 ∨
      (i.receive fresh data).log = i.log ++ [.received data] := by
  unfold Intake.receive
  split
  · simp only
    split
    · exact .inr rfl
    split
    · exact .inr rfl
    split
    · exact .inr rfl
    · exact .inl (receiveLine_protocol _ _ _)
  · exact .inl (receiveLine_protocol _ _ _)
  · exact .inr rfl

theorem Intake.Steady.step {i j : Intake} (hsound : i.Sound) (hstep : IntakeStep i j)
    (h : i.protocol ≠ .v0 → i.Steady) (hother : j.protocol ≠ .v0) : j.Steady := by
  cases hstep with
  | close => exact ⟨(h hother).moves, (h hother).broken⟩
  | @receive fresh data hopen =>
    have hlog := (i.log_receive_or fresh data).resolve_left hother
    refine ⟨?_, fun _ => ⟨i.log, data, hlog⟩⟩
    rw [hlog]
    cases hsound with
    | undecided hundecided =>
      refine (h ?_).moves.concat fun _ => hundecided.openLog
      rw [hundecided.protocol]
      decide
    | line hline =>
      refine absurd ?_ hother
      unfold Intake.receive
      rw [hline.protocol]
      exact receiveLine_protocol _ _ _
    | framed hframed =>
      refine (h ?_).moves.concat fun _ => hframed.openLog hopen
      rw [hframed.protocol]
      decide
  | @handle session frame decoder answers closed hopen hsession htake =>
    cases hsound with
    | undecided hundecided => cases hundecided.session.symm.trans hsession
    | line hline => cases hline.session.symm.trans hsession
    | framed hframed =>
      have hsteady := h hother
      have herror : decoder.error = i.decoder.error := by
        unfold FrameDecoder.takeFrame at htake
        split at htake
        · cases htake
        · cases htake
          rfl
      refine ⟨?_, ?_⟩
      · simp only [Intake.handle]
        rw [List.append_cons]
        refine (hsteady.moves.concat fun _ => hframed.openLog hopen).append_rest ?_
        intro event hevent
        obtain ⟨answer, -, rfl⟩ := List.mem_map.mp hevent
        rfl
      · intro hbroken
        simp only [Intake.handle] at hbroken
        rw [herror] at hbroken
        exact absurd (hframed.error_none hopen) hbroken

theorem Intake.Steady.of_run {i : Intake} (h : IntakeRun {} i) (hother : i.protocol ≠ .v0) :
    i.Steady := by
  induction h with
  | refl =>
    refine ⟨?_, fun herror => absurd rfl herror⟩
    intro front event back hlog
    cases front <;> cases hlog
  | tail hrun hstep ih => exact Steady.step (.of_run hrun) hstep ih hother

/-! ### A stream that has been dealt with -/

/-- The connection is through with its stream, and nothing but the stream and the daemon has ended
it: a malformed header, the session, or an answer that failed; or all of it was read and handled. -/
structure Intake.Finished (fails : List Frame → Bool) (stream : Bytes) (i : Intake) : Prop where
  received : receivedBytes i.log <+: stream
  goesOn : AtMoves (fun front => fails (handledFrames front) = false) i.log
  ended : i.decoder.error ≠ .none ∨ (∃ session, i.session = some session ∧ session.state = .closed) ∨
    (handledFrames i.log ≠ [] ∧ fails (handledFrames i.log) = true) ∨
    (receivedBytes i.log = stream ∧ i.decoder.frames = [])

section Finished

variable {fails : List Frame → Bool} {stream : Bytes} {i : Intake}

/-- A finished stream of frames is one of a v1 client. -/
theorem Intake.Finished.framed (h : i.Finished fails stream) (hsound : i.Sound)
    (hmagic : Server.startsWithV1Magic stream = true) : i.Framed := by
  cases hsound with
  | framed hframed => exact hframed
  | undecided hundecided =>
    have hlength := Intake.length_of_magic hmagic
    have hshort := hundecided.short
    rw [hundecided.initial] at hshort
    rcases h.ended with herror | ⟨session, hsession, -⟩ | ⟨hhandled, -⟩ | ⟨hall, -⟩
    · rw [hundecided.decoder] at herror
      exact absurd rfl herror
    · cases hundecided.session.symm.trans hsession
    · exact absurd hundecided.frames hhandled
    · rw [hall] at hshort
      omega
  | line hline =>
    obtain ⟨more, hmore⟩ := h.received
    have hother := hline.other
    rw [← startsWithV1Magic_append hline.long more, hmore, hmagic] at hother
    cases hother

/-- The connection did not end before the last frame. -/
theorem Intake.Finished.goes (h : i.Finished fails stream) (hsteady : i.Steady) {front : List Frame}
    (hbegins : front <+: handledFrames i.log) (hne : front ≠ handledFrames i.log) :
    streamEnds fails front = false := by
  obtain ⟨before, rfl, hopen, hgoes⟩ := (hsteady.moves.and h.goesOn).handled hbegins hne
  unfold streamEnds
  rw [hgoes, decide_eq_false hopen.1, Bool.or_false]

/-- A malformed header was read when the frames that are handled had been handled. -/
theorem Intake.Steady.last_read (hsteady : i.Steady) (herror : i.decoder.error ≠ .none) :
    ∃ front data, i.log = front ++ [.received data] ∧ OpenLog front ∧
      handledFrames i.log = handledFrames front ∧
      receivedBytes i.log = receivedBytes front ++ data := by
  obtain ⟨front, data, hlog⟩ := hsteady.broken herror
  refine ⟨front, data, hlog, hsteady.moves front (.received data) [] hlog rfl, ?_, ?_⟩
  · rw [hlog, handledFrames_append, handledFrames_received, List.append_nil]
  · rw [hlog, receivedBytes_append, receivedBytes_received]

/-- Without an error nothing malformed was read. -/
theorem Intake.Framed.wholeReads (hframed : i.Framed) (herror : i.decoder.error = .none) :
    WholeReads i.log := by
  intro front data back hlog hbad
  have hreceived : receivedBytes i.log = receivedBytes front ++ data ++ receivedBytes back := by
    rw [hlog, List.append_cons, receivedBytes_append, receivedBytes_append, receivedBytes_received]
  have hsame := ((decoded_append (receivedBytes front ++ data) (receivedBytes back)).2 hbad).2
  rw [← hreceived, hframed.decoded_frames.2, herror] at hsame
  exact absurd hsame.symm hbad

/-- With an error, all reads were whole if no frame waits. -/
theorem Intake.Framed.wholeReads_iff (hframed : i.Framed) (hsteady : i.Steady)
    (herror : i.decoder.error ≠ .none) : WholeReads i.log ↔ i.decoder.frames = [] := by
  obtain ⟨front, data, hlog, hopen, hhandled, hreceived⟩ := hsteady.last_read herror
  obtain ⟨hframes, hdecoded⟩ := hframed.decoded_frames
  constructor
  · intro hwhole
    have hbad : (decoded (receivedBytes front ++ data)).error ≠ .none := by
      rw [← hreceived, hdecoded]
      exact herror
    have hall := hwhole front data [] hlog hbad
    rw [← hreceived, hframes, ← hhandled] at hall
    exact List.append_right_eq_self.mp hall.symm
  · intro hnone before piece back hsplit hbad
    rcases List.eq_nil_or_concat' back with rfl | ⟨between, last, rfl⟩
    · obtain ⟨rfl, heq⟩ := List.append_inj' (hlog.symm.trans hsplit) rfl
      cases heq
      rw [← hreceived, hframes, hnone, List.append_nil, hhandled]
    · -- an earlier malformed header would have been the last thing that was read
      rw [← List.cons_append, ← List.append_assoc] at hsplit
      obtain ⟨rfl, -⟩ := List.append_inj' (hlog.symm.trans hsplit) rfl
      have hsame := ((decoded_append (receivedBytes before ++ piece) (receivedBytes between)).2 hbad).2
      have hopened := hopen.2
      rw [List.append_cons, receivedBytes_append, receivedBytes_append, receivedBytes_received,
        hsame] at hopened
      exact absurd hopened hbad

/-- What is handled of a stream is what is to be handled of it, exactly if all reads were whole. -/
theorem Intake.Finished.handled_iff (h : i.Finished fails stream) (hrun : IntakeRun {} i)
    (hmagic : Server.startsWithV1Magic stream = true) :
    handledFrames i.log = streamFrames fails stream ↔ WholeReads i.log := by
  have hframed := h.framed (.of_run hrun) hmagic
  have hother : i.protocol ≠ .v0 := by
    rw [hframed.protocol]
    decide
  have hsteady := Intake.Steady.of_run hrun hother
  obtain ⟨hframes, hdecoded⟩ := hframed.decoded_frames
  obtain ⟨rest, hrest⟩ := h.received
  obtain ⟨hbegins, hsame⟩ := decoded_append (receivedBytes i.log) rest
  rw [hrest, hframes] at hbegins
  unfold streamFrames
  by_cases herror : i.decoder.error = .none
  · refine iff_of_true ?_ (hframed.wholeReads herror)
    refine (upTo_eq ((List.prefix_append _ _).trans hbegins) (fun _ => h.goes hsteady) ?_).symm
    rcases h.ended with hbad | ⟨session, hsession, hclosed⟩ | ⟨hne, hfails⟩ | ⟨hall, hnone⟩
    · exact absurd herror hbad
    · obtain ⟨first, hfresh, hfirst, -⟩ := hframed.session
      obtain rfl := Option.some.inj (hsession.symm.trans hfirst)
      rw [hfresh.after_state] at hclosed
      refine .inr ⟨?_, ?_⟩
      · intro hempty
        rw [hempty] at hclosed
        cases hclosed
      · unfold streamEnds
        rw [decide_eq_true hclosed, Bool.true_or]
    · refine .inr ⟨hne, ?_⟩
      unfold streamEnds
      rw [hfails, Bool.or_true]
    · rw [← hall, hframes, hnone, List.append_nil]
      exact .inl rfl
  · obtain ⟨front, data, hlog, hopen, hhandled, -⟩ := hsteady.last_read herror
    have hgoes : ∀ before, before <+: handledFrames i.log → streamEnds fails before = false := by
      intro before hbefore
      by_cases hlast : before = handledFrames i.log
      · unfold streamEnds
        rw [hlast, hhandled, decide_eq_false hopen.1, h.goesOn front _ [] hlog rfl, Bool.or_false]
      · exact h.goes hsteady hbefore hlast
    have hstream : (decoded stream).frames = handledFrames i.log ++ i.decoder.frames := by
      rw [← hframes, ← hrest]
      refine (hsame ?_).1
      rw [hdecoded]
      exact herror
    rw [hframed.wholeReads_iff hsteady herror, hstream]
    constructor
    · intro heq
      by_cases hnone : i.decoder.frames = []
      · exact hnone
      · exact absurd heq.symm (upTo_ne hnone hgoes)
    · intro hnone
      rw [hnone, List.append_nil]
      exact (upTo_eq (List.prefix_refl _) (fun _ hbefore _ => hgoes _ hbefore) (.inl rfl)).symm

end Finished

/-- **What is handled of a stream** is determined by the stream, however the kernel cuts it, exactly
if no `recv` brings a malformed header while a frame in front of it waits.  So two connections, of
any two runs, that are through with one stream and have read it so have handled the same frames, and
a connection that has not has handled others. -/
theorem handled_frames_same_iff {fails : List Frame → Bool} {stream : Bytes}
    (hmagic : Server.startsWithV1Magic stream = true)
    {history history' : List Turn} {s s' : Server} {id id' : ClientId} {client client' : ClientState}
    (hreach : Reaches Started reactorStep history s) (hclient : s.client? id = some client)
    (hfinished : client.intake.Finished fails stream)
    (hreach' : Reaches Started reactorStep history' s') (hclient' : s'.client? id' = some client')
    (hfinished' : client'.intake.Finished fails stream) :
    (handledFrames client.intake.log = streamFrames fails stream ↔ WholeReads client.intake.log) ∧
      (WholeReads client.intake.log →
        (handledFrames client'.intake.log = handledFrames client.intake.log ↔
          WholeReads client'.intake.log)) := by
  have hiff := hfinished.handled_iff (intake_of_reaches hreach hclient) hmagic
  have hiff' := hfinished'.handled_iff (intake_of_reaches hreach' hclient') hmagic
  refine ⟨hiff, fun hwhole => ?_⟩
  rw [hiff.mpr hwhole]
  exact hiff'

/-- A header with an unknown version. -/
def badHeader : Bytes := kMagic ++ [9, 3, 0, 0, 0, 0, 0, 0]

/-- A connection that was closed for a malformed header. -/
theorem Intake.Finished.of_error {i : Intake} {stream : Bytes}
    (hreceived : receivedBytes i.log = stream) (herror : i.decoder.error ≠ .none) :
    i.Finished (fun _ => false) stream where
  received := hreceived ▸ List.prefix_refl _
  goesOn := fun _ _ _ _ _ => rfl
  ended := .inl herror

theorem startsWithV1Magic_hello : Server.startsWithV1Magic (helloBytes ++ badHeader) = true := by
  decide +kernel

/-- In one piece with the malformed header, HELLO is not handled. -/
theorem handled_frames_differ :
    ¬∀ (fails : List Frame → Bool) (stream : Bytes) (history history' : List Turn) (s s' : Server)
      (id id' : ClientId) (client client' : ClientState),
      Server.startsWithV1Magic stream = true →
      Reaches Started reactorStep history s → s.client? id = some client →
      client.intake.Finished fails stream →
      Reaches Started reactorStep history' s' → s'.client? id' = some client' →
      client'.intake.Finished fails stream →
        handledFrames client'.intake.log = handledFrames client.intake.log := by
  intro h
  have hone : (promptServer [helloBytes ++ badHeader]).client? 0 =
        some (promptClient [helloBytes ++ badHeader]) ∧
      receivedBytes (promptClient [helloBytes ++ badHeader]).intake.log = helloBytes ++ badHeader ∧
      (promptClient [helloBytes ++ badHeader]).intake.decoder.error ≠ .none ∧
      handledFrames (promptClient [helloBytes ++ badHeader]).intake.log = [] := by decide +kernel
  have htwo : (promptServer [helloBytes, badHeader]).client? 0 =
        some (promptClient [helloBytes, badHeader]) ∧
      receivedBytes (promptClient [helloBytes, badHeader]).intake.log = helloBytes ++ badHeader ∧
      (promptClient [helloBytes, badHeader]).intake.decoder.error ≠ .none ∧
      (handledFrames (promptClient [helloBytes, badHeader]).intake.log).length = 1 := by
    decide +kernel
  obtain ⟨hclient, hreceived, herror, hhandled⟩ := hone
  obtain ⟨hclient', hreceived', herror', hhandled'⟩ := htwo
  have hsame := h (fun _ => false) (helloBytes ++ badHeader) _ _ _ _ 0 0 _ _ startsWithV1Magic_hello
    (promptServer_reaches _) hclient (.of_error hreceived herror)
    (promptServer_reaches _) hclient' (.of_error hreceived' herror')
  rw [hsame, hhandled] at hhandled'
  exact absurd hhandled' (by simp)

/-- The header comes after HELLO, though some bytes of it come with HELLO. -/
def cutInHeader : List Bytes := [helloBytes.take 5, helloBytes.drop 5 ++ kMagic, badHeader.drop 4]

theorem handled_frames_same_cutInHeader :
    handledFrames (promptClient cutInHeader).intake.log =
      handledFrames (promptClient [helloBytes, badHeader]).intake.log := by
  have htwo : (promptServer [helloBytes, badHeader]).client? 0 =
        some (promptClient [helloBytes, badHeader]) ∧
      receivedBytes (promptClient [helloBytes, badHeader]).intake.log = helloBytes ++ badHeader ∧
      (promptClient [helloBytes, badHeader]).intake.decoder.error ≠ .none ∧
      WholeReads (promptClient [helloBytes, badHeader]).intake.log := by decide +kernel
  have hthree : (promptServer cutInHeader).client? 0 = some (promptClient cutInHeader) ∧
      receivedBytes (promptClient cutInHeader).intake.log = helloBytes ++ badHeader ∧
      (promptClient cutInHeader).intake.decoder.error ≠ .none ∧
      WholeReads (promptClient cutInHeader).intake.log := by decide +kernel
  obtain ⟨hclient, hreceived, herror, hwhole⟩ := htwo
  obtain ⟨hclient', hreceived', herror', hwhole'⟩ := hthree
  have hiff := handled_frames_same_iff startsWithV1Magic_hello (promptServer_reaches _) hclient
    (.of_error hreceived herror) (promptServer_reaches _) hclient' (.of_error hreceived' herror')
  exact (hiff.2 hwhole).mpr hwhole'

end NetworkService.Ipc
