import NetworkService.Ipc.IntakeRuns
import NetworkService.Ipc.ReactorIntake

/-!
# The line that a v0 client sends

A v0 request ends with its newline.  The reactor looks for the newline only when at least four bytes
are there, and hands over everything it has received by then: so it depends on where the kernel cuts
the stream whether the request is the line.
-/

namespace NetworkService.Ipc

open Execution

/-- The stream of a v0 client: the first line and what follows it. -/
structure LineStream (line rest : Bytes) : Prop where
  first : ascii '\n' ∉ line
  limit : line.length < kMaxRequestBytes
  other : Server.startsWithV1Magic (line ++ ascii '\n' :: rest) = false

/-- The line with its newline. -/
def wholeLine (line : Bytes) : Bytes := line ++ [ascii '\n']

theorem length_wholeLine (line : Bytes) : (wholeLine line).length = line.length + 1 := by
  unfold wholeLine
  rw [List.length_append, List.length_singleton]

theorem newline_mem_wholeLine (line : Bytes) : ascii '\n' ∈ wholeLine line :=
  List.mem_append_right _ List.mem_cons_self

/-- What has been received with the newline begins with the line. -/
theorem wholeLine_begins {line rest received : Bytes} (h : received <+: line ++ ascii '\n' :: rest)
    (hnewline : line.length < received.length) : wholeLine line <+: received := by
  have hwhole : wholeLine line <+: line ++ ascii '\n' :: rest := by
    rw [List.append_cons]
    exact List.prefix_append _ _
  refine List.prefix_of_prefix_length_le hwhole h ?_
  rw [length_wholeLine]
  omega

theorem not_unfinished_wholeLine {line : Bytes} (h : 3 ≤ line.length) :
    ¬Unfinished (wholeLine line) := by
  have hmagic : kMagic.length = 4 := by decide
  have hlength := length_wholeLine line
  rintro (hshort | hnone)
  · omega
  · exact hnone (newline_mem_wholeLine line)

/-- The requests of an intake whose bytes include the newline. -/
theorem Intake.Line.requests_iff {i : Intake} (h : i.Line) {line : Bytes}
    (hlimit : line.length < kMaxRequestBytes) (hwhole : wholeLine line <+: receivedBytes i.log) :
    requestsOf i.log = [wholeLine line] ↔
      3 ≤ line.length ∧ ∃ front, front <+: chunksOf i.log ∧ front.flatten = wholeLine line := by
  have hmagic : kMagic.length = 4 := by decide
  have hlong := h.long
  have hlength := length_wholeLine line
  -- a cut behind the newline is the last one, since the line is complete there
  have hlast : ∀ front, front <+: chunksOf i.log → front.flatten = wholeLine line →
      3 ≤ line.length → receivedBytes i.log = wholeLine line := by
    intro front hbegins hfront hthree
    by_cases hall : front = chunksOf i.log
    · rw [receivedBytes, ← hall, hfront]
    · have hunfinished := h.unfinished front hbegins hall
      rw [hfront] at hunfinished
      exact absurd hunfinished (not_unfinished_wholeLine hthree)
  rcases h.state with ⟨-, hnone, -⟩ | ⟨hnone, hlarge, -⟩ | ⟨hrequest, -, -, -⟩
  · exact absurd (hwhole.subset (newline_mem_wholeLine line)) hnone
  · rw [hnone]
    refine iff_of_false (by simp) ?_
    rintro ⟨hthree, front, hbegins, hfront⟩
    rw [hlast front hbegins hfront hthree] at hlarge
    omega
  · rw [hrequest]
    constructor
    · intro heq
      have hreceived : receivedBytes i.log = wholeLine line := (List.cons.inj heq).1
      refine ⟨?_, chunksOf i.log, List.prefix_refl _, hreceived⟩
      rw [hreceived] at hlong
      omega
    · rintro ⟨hthree, front, hbegins, hfront⟩
      rw [hlast front hbegins hfront hthree]

/-- **The request of a v0 client** is the line up to the newline, and the only one, exactly if the
line has at least three bytes and some `recv` ended right behind the newline.  This holds in every
run of the reactor as soon as the newline has been received. -/
theorem request_is_line_iff {history : List Turn} {s : Server}
    (hreach : Reaches Started reactorStep history s) {id : ClientId} {client : ClientState}
    (hclient : s.client? id = some client) {line rest : Bytes} (hstream : LineStream line rest)
    (hreceived : receivedBytes client.intake.log <+: line ++ ascii '\n' :: rest)
    (hnewline : line.length < (receivedBytes client.intake.log).length) :
    requestsOf client.intake.log = [wholeLine line] ↔
      3 ≤ line.length ∧
        ∃ front, front <+: chunksOf client.intake.log ∧ front.flatten = wholeLine line := by
  have hsound := Intake.Sound.of_run (intake_of_reaches hreach hclient)
  have hwhole := wholeLine_begins hreceived hnewline
  cases hsound with
  | undecided h =>
    have hmagic : kMagic.length = 4 := by decide
    have hshort := h.short
    rw [h.initial] at hshort
    rw [h.requests]
    exact iff_of_false (by simp) fun hcut => absurd hcut.1 (by omega)
  | line h => exact h.requests_iff hstream.limit hwhole
  | framed h =>
    -- a stream of frames begins with the magic
    obtain ⟨more, hmore⟩ := hreceived
    have hother := hstream.other
    rw [← hmore, Intake.startsWithV1Magic_append (Intake.length_of_magic h.magic), h.magic] at hother
    cases hother

/-- A client sends these pieces, each of which is one result of `recv`. -/
def lineTurns (pieces : List Bytes) : List Turn :=
  [.accept 0, .polled 0 { readable := true, receive := pieces.map fun piece =>
    { data := some piece, v0Response := text "\x7b\x7d\n" } }]

def lineServer (pieces : List Bytes) : Server :=
  (lineTurns pieces).foldl (fun s turn => turn.perform s) (Server.start 7 0)

def lineClient (pieces : List Bytes) : ClientState :=
  ((lineServer pieces).client? 0).getD (.create 0)

theorem lineServer_reaches (pieces : List Bytes) :
    Reaches Started reactorStep (lineTurns pieces).reverse (lineServer pieces) :=
  Reaches.of_run ⟨7, 0, rfl⟩ (run_total Turn.perform (lineTurns pieces) (Server.start 7 0))

theorem lineStream_ping (rest : Bytes) : LineStream (text "ping") rest where
  first := by decide
  limit := by decide
  other := rfl

/-- In one piece the line is handed over with what follows it. -/
theorem request_with_what_follows :
    ¬∀ (history : List Turn) (s : Server) (id : ClientId) (client : ClientState) (line rest : Bytes),
      Reaches Started reactorStep history s → s.client? id = some client → LineStream line rest →
      receivedBytes client.intake.log <+: line ++ ascii '\n' :: rest →
      line.length < (receivedBytes client.intake.log).length →
        requestsOf client.intake.log = [wholeLine line] := by
  intro h
  have hrun : (lineServer [text "ping\nx"]).client? 0 = some (lineClient [text "ping\nx"]) ∧
      receivedBytes (lineClient [text "ping\nx"]).intake.log = text "ping\nx" ∧
      requestsOf (lineClient [text "ping\nx"]).intake.log = [text "ping\nx"] := by decide +kernel
  obtain ⟨hclient, hreceived, hrequests⟩ := hrun
  have hline := h _ _ 0 _ (text "ping") (text "x") (lineServer_reaches _) hclient (lineStream_ping _)
    (by rw [hreceived]; decide) (by rw [hreceived]; decide)
  rw [hrequests] at hline
  exact absurd hline (by decide)

/-- Cut behind the newline, the request is the line and the rest is not read. -/
theorem request_is_line_two_pieces :
    requestsOf (lineClient [text "pi", text "ng\n", text "x"]).intake.log = [text "ping\n"] := by
  have hrun : (lineServer [text "pi", text "ng\n", text "x"]).client? 0 =
        some (lineClient [text "pi", text "ng\n", text "x"]) ∧
      chunksOf (lineClient [text "pi", text "ng\n", text "x"]).intake.log =
        [text "pi", text "ng\n"] := by decide +kernel
  obtain ⟨hclient, hchunks⟩ := hrun
  have hreceived : receivedBytes (lineClient [text "pi", text "ng\n", text "x"]).intake.log =
      text "ping\n" := by
    unfold receivedBytes
    rw [hchunks]
    decide
  have hiff := request_is_line_iff (lineServer_reaches _) hclient (lineStream_ping (text "x"))
    (by rw [hreceived]; decide) (by rw [hreceived]; decide)
  exact hiff.mpr ⟨by decide, _, List.prefix_refl _, hreceived⟩

end NetworkService.Ipc
