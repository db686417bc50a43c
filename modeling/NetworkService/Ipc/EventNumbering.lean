import NetworkService.Ipc.Events

/-!
# Numbers that are never reused

The two ends of the event stream over whole runs.  The server's sequencer gives its successful calls
the numbers 1, 2, 3 and so on, and stops for good behind the last 64-bit number.  The consumer's
tracker accepts nothing but the next number of its generation, in whatever order events arrive.
-/

namespace NetworkService.Ipc

theorem toNat_maxSequence : maxSequence.toNat = 2 ^ 64 - 1 := rfl

/-! ### The sequencer -/

namespace EventSequencer

/-- An event that a call asks for, and the frame that the call returns. -/
structure Encoded where
  name : Bytes
  payload : Bytes
  frame : Bytes
  deriving DecidableEq

/-- The calls of a run with their frames, oldest first, and the sequencer behind them. -/
def encodeAll (sequencer : EventSequencer) : List (Bytes × Bytes) → List Encoded × EventSequencer
  | [] => ([], sequencer)
  | (name, payload) :: calls =>
    let (frame, next) := sequencer.encodeEvent name payload
    let (encoded, last) := next.encodeAll calls
    (⟨name, payload, frame⟩ :: encoded, last)

/-- The calls that returned a frame. -/
def successes (encoded : List Encoded) : List Encoded := encoded.filter fun call => call.frame ≠ []

/-- The sequencer behind `n` successful calls. -/
structure Behind (generation : UInt64) (n : ℕ) (sequencer : EventSequencer) : Prop where
  generation : sequencer.generation = generation
  bound : n < 2 ^ 64
  next : sequencer.nextSequence.toNat = (n + 1) % 2 ^ 64

variable {generation : UInt64} {n : ℕ} {sequencer : EventSequencer}

theorem behind_create (generation : UInt64) :
    Behind (create generation).generation 0 (create generation) := ⟨rfl, by decide, rfl⟩

/-- The number of calls is what `last_sequence` tells, also when the numbers are used up. -/
theorem Behind.lastSequence (h : Behind generation n sequencer) :
    sequencer.lastSequence.toNat = n := by
  have hbound := h.bound
  have hnext := h.next
  by_cases hzero : sequencer.nextSequence = 0
  · unfold EventSequencer.lastSequence
    rw [if_pos hzero, toNat_maxSequence]
    rw [hzero] at hnext
    have hmod : (n + 1) % 2 ^ 64 = 0 := hnext.symm
    omega
  · have hlast := toNat_nextSequence hzero
    have hne : sequencer.nextSequence.toNat ≠ 0 := fun h => hzero (UInt64.toNat_inj.mp h)
    omega

/-- There is a next number exactly if the last one is not reached. -/
theorem Behind.nextSequence_eq_zero (h : Behind generation n sequencer) :
    sequencer.nextSequence = 0 ↔ n = 2 ^ 64 - 1 := by
  have hbound := h.bound
  have hnext := h.next
  rw [← UInt64.toNat_inj]
  show sequencer.nextSequence.toNat = 0 ↔ _
  omega

/-- A call that returns a frame takes the next number, and another changes nothing. -/
theorem encodeEvent_cases (sequencer : EventSequencer) (name payload : Bytes) :
    sequencer.encodeEvent name payload = ([], sequencer) ∨
      ((sequencer.encodeEvent name payload).1 ≠ [] ∧ sequencer.nextSequence ≠ 0 ∧
        sequencer.encodeEvent name payload =
          ((sequencer.record name payload).frame, sequencer.advance)) := by
  by_cases hframe : (sequencer.encodeEvent name payload).1 = []
  · left
    unfold encodeEvent at hframe ⊢
    simp only at hframe ⊢
    split
    · rfl
    next hgiven =>
      rw [if_neg hgiven] at hframe
      split
      · rfl
      next hbuilt =>
        rw [if_neg hbuilt] at hframe
        exact absurd hframe hbuilt
  · obtain ⟨hne, hrun⟩ := encodeEvent_of_ne_nil hframe
    exact .inr ⟨hframe, hne, hrun⟩

theorem Behind.advance (h : Behind generation n sequencer) (hne : sequencer.nextSequence ≠ 0) :
    Behind generation (n + 1) sequencer.advance := by
  have hbound := h.bound
  have hnext := h.next
  have hroom : n ≠ 2 ^ 64 - 1 := mt h.nextSequence_eq_zero.mpr hne
  refine ⟨h.generation, by omega, ?_⟩
  unfold EventSequencer.advance
  show (if sequencer.nextSequence = maxSequence then 0 else sequencer.nextSequence + 1).toNat = _
  by_cases hmax : sequencer.nextSequence = maxSequence
  · rw [if_pos hmax]
    rw [hmax, toNat_maxSequence] at hnext
    show 0 = _
    omega
  · rw [if_neg hmax, UInt64.toNat_add]
    have hmax' : sequencer.nextSequence.toNat ≠ 2 ^ 64 - 1 := fun heq =>
      hmax (UInt64.toNat_inj.mp (heq.trans toNat_maxSequence.symm))
    show (sequencer.nextSequence.toNat + 1) % 2 ^ 64 = _
    omega

theorem encodeAll_cons {name payload frame : Bytes} {next : EventSequencer}
    (h : sequencer.encodeEvent name payload = (frame, next)) (calls : List (Bytes × Bytes)) :
    sequencer.encodeAll ((name, payload) :: calls) =
      (⟨name, payload, frame⟩ :: (next.encodeAll calls).1, (next.encodeAll calls).2) := by
  rw [EventSequencer.encodeAll, h]

/-- The frames of a run carry the next numbers, one after the other. -/
theorem Behind.encodeAll (h : Behind generation n sequencer) (calls : List (Bytes × Bytes)) :
    Behind generation (n + (successes (sequencer.encodeAll calls).1).length)
        (sequencer.encodeAll calls).2 ∧
      ∀ i call, (successes (sequencer.encodeAll calls).1)[i]? = some call →
        call.frame = (EventRecord.mk call.name generation (n + i + 1).toUInt64 call.payload).frame := by
  induction calls generalizing sequencer n with
  | nil => exact ⟨h, fun i call hcall => nomatch hcall⟩
  | cons event calls ih =>
    obtain ⟨name, payload⟩ := event
    rcases sequencer.encodeEvent_cases name payload with hrun | ⟨hframe, hne, hrun⟩
    · -- nothing was sent
      have hsame : successes (⟨name, payload, []⟩ :: (sequencer.encodeAll calls).1) =
          successes (sequencer.encodeAll calls).1 := List.filter_cons_of_neg (by simp)
      rw [encodeAll_cons hrun, hsame]
      exact ih h
    · have hadvance := h.advance hne
      obtain ⟨hbehind, hframes⟩ := ih hadvance
      have hmore : successes (⟨name, payload, (sequencer.record name payload).frame⟩ ::
            (sequencer.advance.encodeAll calls).1) =
          ⟨name, payload, (sequencer.record name payload).frame⟩ ::
            successes (sequencer.advance.encodeAll calls).1 := by
        rw [hrun] at hframe
        exact List.filter_cons_of_pos (by simpa using hframe)
      rw [encodeAll_cons hrun, hmore]
      refine ⟨?_, ?_⟩
      · rw [List.length_cons, Nat.add_comm _ 1, ← Nat.add_assoc]
        exact hbehind
      · intro i call hcall
        cases i with
        | zero =>
          obtain rfl := Option.some.inj hcall
          have hseq : sequencer.nextSequence = (n + 0 + 1).toUInt64 := by
            apply UInt64.toNat_inj.mp
            rw [h.next]
            exact UInt64.toNat_ofNat'.symm
          show (EventRecord.mk name sequencer.generation sequencer.nextSequence payload).frame = _
          rw [h.generation, hseq]
        | succ i =>
          rw [hframes i call hcall, Nat.add_assoc n 1 i, Nat.add_comm 1 i]

/-- **The numbers of events are consecutive and are never used twice.**  Over any calls, the
successful ones carry 1, 2, 3 and so on, `last_sequence` counts them, a call that fails leaves the
sequencer as it was, and behind the last 64-bit number every call fails. -/
theorem sequence_consecutive (generation : UInt64) (calls : List (Bytes × Bytes)) :
    let run := (create generation).encodeAll calls
    (∀ i call, (successes run.1)[i]? = some call →
        call.frame = (EventRecord.mk call.name (create generation).generation
          (i + 1).toUInt64 call.payload).frame ∧ i + 1 < 2 ^ 64) ∧
      run.2.lastSequence.toNat = (successes run.1).length ∧
      (∀ name payload, (run.2.encodeEvent name payload).1 = [] →
        (run.2.encodeEvent name payload).2 = run.2) ∧
      ((successes run.1).length = 2 ^ 64 - 1 → ∀ more : List (Bytes × Bytes),
        successes (run.2.encodeAll more).1 = [] ∧
          (run.2.encodeAll more).2.lastSequence = maxSequence) := by
  intro run
  obtain ⟨hbehind, hframes⟩ := (behind_create generation).encodeAll calls
  rw [Nat.zero_add] at hbehind
  refine ⟨fun i call hcall => ⟨?_, ?_⟩, hbehind.lastSequence, ?_, ?_⟩
  · rw [hframes i call hcall, Nat.zero_add]
  · have hbound := hbehind.bound
    have hlt := (List.getElem?_eq_some_iff.mp hcall).1
    exact Nat.lt_of_le_of_lt (Nat.succ_le_of_lt hlt) hbound
  · intro name payload hempty
    rcases run.2.encodeEvent_cases name payload with hrun | ⟨hne, -, -⟩
    · rw [hrun]
    · exact absurd hempty hne
  · intro hlast more
    rw [hlast] at hbehind
    obtain ⟨hmore, -⟩ := hbehind.encodeAll more
    have hbound : 2 ^ 64 - 1 + (successes (run.2.encodeAll more).1).length < 2 ^ 64 := hmore.bound
    have hnone : (successes (run.2.encodeAll more).1).length = 0 := by omega
    have hlast := hmore.lastSequence
    refine ⟨List.length_eq_zero_iff.mp hnone, UInt64.toNat_inj.mp (hlast.trans ?_)⟩
    exact (congrArg (2 ^ 64 - 1 + ·) hnone).trans toNat_maxSequence.symm

end EventSequencer

/-! ### The tracker -/

namespace RebaseTracker

inductive Call
  | rebase (generation snapshotSeq : UInt64)
  | invalidate
  | observe (generation seq : UInt64)
  deriving DecidableEq

/-- A tracker with what has been accepted since the last rebase that succeeded. -/
structure Tracked where
  tracker : RebaseTracker := {}
  baseline : Option (UInt64 × UInt64) := none
  accepted : List (UInt64 × UInt64) := []
  deriving DecidableEq

namespace Tracked

def perform (call : Call) (t : Tracked) : Tracked :=
  match call with
  | .rebase generation snapshotSeq =>
    let (done, tracker) := t.tracker.rebase generation snapshotSeq
    if done then ⟨tracker, some (generation, snapshotSeq), []⟩ else { t with tracker := tracker }
  | .invalidate => { t with tracker := t.tracker.invalidate }
  | .observe generation seq =>
    let (decision, tracker) := t.tracker.observeEvent generation seq
    ⟨tracker, t.baseline,
      if decision = .accept then t.accepted ++ [(generation, seq)] else t.accepted⟩

/-- A tracker behind some calls, oldest first. -/
def afterCalls (t : Tracked) (calls : List Call) : Tracked :=
  calls.foldl (fun t call => t.perform call) t

end Tracked

/-- The additions that `observe_event` makes: `last_sequence_ + 1`, if it comes to it. -/
def additions (tracker : RebaseTracker) (generation seq : UInt64) : List (UInt64 × UInt64) :=
  if !tracker.hasBaseline ∨ generation = 0 ∨ seq = 0 ∨ generation ≠ tracker.generation ∨
      seq ≤ tracker.lastSequence ∨ tracker.lastSequence = maxSequence then []
  else [(tracker.lastSequence, 1)]

/-- The numbers behind `n`, each with the generation. -/
def numbersBehind (generation n : UInt64) (count : ℕ) : List (UInt64 × UInt64) :=
  (List.range' (n.toNat + 1) count).map fun seq => (generation, seq.toUInt64)

theorem numbersBehind_succ (generation n : UInt64) (count : ℕ) :
    numbersBehind generation n (count + 1) =
      numbersBehind generation n count ++ [(generation, (n.toNat + count + 1).toUInt64)] := by
  unfold numbersBehind
  rw [List.range'_concat, List.map_append, List.map_singleton, Nat.one_mul, Nat.add_right_comm]

/-! ### One event -/

section Observe

variable {tracker : RebaseTracker} {generation seq : UInt64}

theorem toNat_succ_lastSequence (h : tracker.lastSequence ≠ maxSequence) :
    (tracker.lastSequence + 1).toNat = tracker.lastSequence.toNat + 1 := by
  have hlt := tracker.lastSequence.toNat_lt
  have hne : tracker.lastSequence.toNat ≠ 2 ^ 64 - 1 := fun heq =>
    h (UInt64.toNat_inj.mp (heq.trans toNat_maxSequence.symm))
  rw [UInt64.toNat_add]
  show (tracker.lastSequence.toNat + 1) % 2 ^ 64 = _
  omega

/-- The four things that an event can do. -/
theorem observeEvent_cases (tracker : RebaseTracker) (generation seq : UInt64) :
    (tracker.observeEvent generation seq = (.rebaseRequired, {}) ∧
      (tracker.hasBaseline = false ∨ generation ≠ tracker.generation ∨ seq = 0 ∨
        generation = 0 ∨ tracker.lastSequence.toNat + 1 < seq.toNat)) ∨
    (tracker.hasBaseline = true ∧ generation = tracker.generation ∧ generation ≠ 0 ∧ seq ≠ 0 ∧
      ((seq ≤ tracker.lastSequence ∧
          tracker.observeEvent generation seq = (.ignoreStale, tracker)) ∨
        (seq.toNat = tracker.lastSequence.toNat + 1 ∧
          tracker.observeEvent generation seq =
            (.accept, { tracker with lastSequence := seq })))) := by
  unfold observeEvent
  by_cases hnone : !tracker.hasBaseline ∨ generation = 0 ∨ seq = 0
  · rw [if_pos hnone]
    refine .inl ⟨rfl, ?_⟩
    rcases hnone with hbase | hgeneration | hseq
    · exact .inl (by simpa using hbase)
    · exact .inr (.inr (.inr (.inl hgeneration)))
    · exact .inr (.inr (.inl hseq))
  rw [if_neg hnone]
  obtain ⟨hbase, hnone⟩ := not_or.mp hnone
  obtain ⟨hgeneration, hseq⟩ := not_or.mp hnone
  have hbase' : tracker.hasBaseline = true := by simpa using hbase
  by_cases hother : generation ≠ tracker.generation
  · rw [if_pos hother]
    exact .inl ⟨rfl, .inr (.inl hother)⟩
  rw [if_neg hother]
  have hsame := Decidable.not_not.mp hother
  by_cases hstale : seq ≤ tracker.lastSequence
  · rw [if_pos hstale]
    exact .inr ⟨hbase', hsame, hgeneration, hseq, .inl ⟨hstale, rfl⟩⟩
  rw [if_neg hstale]
  have hlater := UInt64.lt_iff_toNat_lt.mp (UInt64.not_le.mp hstale)
  by_cases hnext : tracker.lastSequence ≠ maxSequence ∧ seq = tracker.lastSequence + 1
  · rw [if_pos hnext]
    refine .inr ⟨hbase', hsame, hgeneration, hseq, .inr ⟨?_, rfl⟩⟩
    rw [hnext.2, toNat_succ_lastSequence hnext.1]
  · rw [if_neg hnext]
    refine .inl ⟨rfl, .inr (.inr (.inr (.inr ?_)))⟩
    have hmax : tracker.lastSequence ≠ maxSequence := by
      intro hmax
      rw [hmax, toNat_maxSequence] at hlater
      have hlt := seq.toNat_lt
      omega
    have hne : seq.toNat ≠ tracker.lastSequence.toNat + 1 := fun heq =>
      hnext ⟨hmax, UInt64.toNat_inj.mp (heq.trans (toNat_succ_lastSequence hmax).symm)⟩
    omega

end Observe

/-! ### Every run -/

theorem perform_rebase (t : Tracked) (generation n : UInt64) :
    t.perform (.rebase generation n) =
      if generation = 0 then { t with tracker := {} }
      else ⟨upTo generation n, some (generation, n), []⟩ := by
  by_cases hzero : generation = 0
  · simp only [Tracked.perform, rebase, if_pos hzero]
    rfl
  · simp only [Tracked.perform, rebase_eq_upTo t.tracker n hzero, if_neg hzero, if_true]

/-- What has been accepted since the baseline, and where the tracker stands. -/
structure Contiguous (t : Tracked) : Prop where
  accepted : ∀ generation n, t.baseline = some (generation, n) →
    t.accepted = numbersBehind generation n t.accepted.length ∧
      n.toNat + t.accepted.length < 2 ^ 64
  standing : t.tracker.hasBaseline = true → ∃ n,
    t.baseline = some (t.tracker.generation, n) ∧
      t.tracker.lastSequence.toNat = n.toNat + t.accepted.length
  lost : t.tracker.hasBaseline = false → t.tracker = {}
  generation : ∀ {generation n}, t.baseline = some (generation, n) → generation ≠ 0

/-- The tracker may give up its baseline at any time. -/
theorem Contiguous.lose {t : Tracked} (h : Contiguous t) : Contiguous { t with tracker := {} } :=
  ⟨h.accepted, nofun, fun _ => rfl, h.generation⟩

/-- The next number goes to the end of what has been accepted. -/
theorem Contiguous.accept {t : Tracked} (h : Contiguous t) (hbase : t.tracker.hasBaseline = true)
    {seq : UInt64} (hnext : seq.toNat = t.tracker.lastSequence.toNat + 1) :
    Contiguous ⟨{ t.tracker with lastSequence := seq }, t.baseline,
      t.accepted ++ [(t.tracker.generation, seq)]⟩ := by
  obtain ⟨n, hbaseline, hlast⟩ := h.standing hbase
  obtain ⟨haccepted, hbound⟩ := h.accepted _ _ hbaseline
  have hlt := seq.toNat_lt
  have hseq : seq = (n.toNat + t.accepted.length + 1).toUInt64 := by
    apply UInt64.toNat_inj.mp
    show _ = (UInt64.ofNat _).toNat
    rw [UInt64.toNat_ofNat', ← hlast, ← hnext, Nat.mod_eq_of_lt hlt]
  refine ⟨fun g m hm => ?_, fun _ => ⟨n, hbaseline, ?_⟩, fun hnone => ?_, h.generation⟩
  · obtain ⟨rfl, rfl⟩ := Prod.mk.inj (Option.some.inj (hbaseline.symm.trans hm))
    rw [List.length_append, List.length_singleton, numbersBehind_succ, ← haccepted, ← hseq]
    exact ⟨rfl, by omega⟩
  · show seq.toNat = n.toNat + (t.accepted ++ [(t.tracker.generation, seq)]).length
    rw [List.length_append, List.length_singleton, hnext, hlast, Nat.add_assoc]
  · exact absurd (hbase.symm.trans hnone) (by decide)

theorem perform_observe {t : Tracked} {generation seq : UInt64} {decision : EventDecision}
    {tracker : RebaseTracker} (h : t.tracker.observeEvent generation seq = (decision, tracker)) :
    t.perform (.observe generation seq) = ⟨tracker, t.baseline,
      if decision = .accept then t.accepted ++ [(generation, seq)] else t.accepted⟩ := by
  unfold Tracked.perform
  simp only [h]

theorem Contiguous.perform {t : Tracked} (h : Contiguous t) (call : Call) :
    Contiguous (t.perform call) := by
  cases call with
  | rebase generation n =>
    rw [perform_rebase]
    by_cases hzero : generation = 0
    · rw [if_pos hzero]
      exact h.lose
    · rw [if_neg hzero]
      refine ⟨?_, fun _ => ⟨n, rfl, rfl⟩, nofun, ?_⟩
      · rintro g m ⟨⟩
        exact ⟨rfl, n.toNat_lt⟩
      · rintro g m ⟨⟩
        exact hzero
  | invalidate => exact h.lose
  | observe generation seq =>
    rcases t.tracker.observeEvent_cases generation seq with
      ⟨hrun, -⟩ | ⟨hbase, hsame, -, -, ⟨-, hrun⟩ | ⟨hnext, hrun⟩⟩
    · rw [perform_observe hrun, if_neg (by decide)]
      exact h.lose
    · rw [perform_observe hrun, if_neg (by decide)]
      exact h
    · rw [perform_observe hrun, if_pos rfl, hsame]
      exact h.accept hbase hnext

theorem contiguous_afterCalls {t : Tracked} (h : Contiguous t) (calls : List Call) :
    Contiguous (t.afterCalls calls) := by
  induction calls generalizing t with
  | nil => exact h
  | cons call calls ih => exact ih (h.perform call)

/-- No rebase among these calls succeeds. -/
def NoRebase (calls : List Call) : Prop :=
  ∀ generation n, Call.rebase generation n ∈ calls → generation = 0

/-- Without a rebase a lost baseline stays lost. -/
theorem tracker_stays_lost {t : Tracked} (h : t.tracker = {}) {calls : List Call}
    (hcalls : NoRebase calls) : (t.afterCalls calls).tracker = {} := by
  induction calls generalizing t with
  | nil => exact h
  | cons call calls ih =>
    refine ih ?_ fun generation n hmem => hcalls generation n (List.mem_cons_of_mem _ hmem)
    cases call with
    | rebase generation n =>
      show (t.perform (.rebase generation n)).tracker = {}
      rw [perform_rebase, if_pos (hcalls generation n List.mem_cons_self)]
    | invalidate => rfl
    | observe generation seq =>
      show (t.tracker.observeEvent generation seq).2 = {}
      rw [h]
      rfl

/-- The baseline is lost, and every later event asks for a rebase until there is one. -/
structure Lost (t : Tracked) : Prop where
  baseline : t.tracker.hasBaseline = false
  later : ∀ calls, NoRebase calls → ∀ generation seq,
    ((t.afterCalls calls).tracker.observeEvent generation seq).1 = .rebaseRequired

theorem lost_of_tracker {t : Tracked} (h : t.tracker = {}) : Lost t := by
  refine ⟨by rw [h], fun calls hcalls generation seq => ?_⟩
  rw [tracker_stays_lost h hcalls]
  rfl

/-- An event that is neither the next nor an old one of the generation loses the baseline. -/
theorem lost_of_observe {t : Tracked} {generation seq : UInt64}
    (h : t.tracker.hasBaseline = false ∨ generation ≠ t.tracker.generation ∨ seq = 0 ∨
      t.tracker.lastSequence.toNat + 1 < seq.toNat) :
    (t.tracker.observeEvent generation seq).1 = .rebaseRequired ∧
      Lost (t.perform (.observe generation seq)) := by
  have hrun : t.tracker.observeEvent generation seq = (.rebaseRequired, {}) := by
    rcases t.tracker.observeEvent_cases generation seq with ⟨hrun, -⟩ | ⟨hbase, hsame, -, hseq, hend⟩
    · exact hrun
    · exfalso
      have hgap : t.tracker.lastSequence.toNat + 1 < seq.toNat := by
        rcases h with hlost | hother | hzero | hgap
        · exact absurd (hbase.symm.trans hlost) (by decide)
        · exact absurd hsame hother
        · exact absurd hzero hseq
        · exact hgap
      rcases hend with ⟨hstale, -⟩ | ⟨hnext, -⟩
      · have hle := UInt64.le_iff_toNat_le.mp hstale
        omega
      · omega
  refine ⟨by rw [hrun], lost_of_tracker ?_⟩
  show (t.tracker.observeEvent generation seq).2 = {}
  rw [hrun]

theorem stale_changes_nothing {t : Tracked} (h : Contiguous t) {generation n seq : UInt64}
    (hbaseline : t.baseline = some (generation, n)) (hseq : 1 ≤ seq)
    (hle : seq ≤ t.tracker.lastSequence) :
    (t.tracker.observeEvent generation seq).1 = .ignoreStale ∧
      t.perform (.observe generation seq) = t := by
  have hseq' := UInt64.le_iff_toNat_le.mp hseq
  have hle' := UInt64.le_iff_toNat_le.mp hle
  have hone : (1 : UInt64).toNat = 1 := rfl
  rcases t.tracker.observeEvent_cases generation seq with
    ⟨-, hwhy⟩ | ⟨-, -, -, -, ⟨-, hrun⟩ | ⟨hnext, -⟩⟩
  · exfalso
    cases hbase : t.tracker.hasBaseline with
    | false =>
      rw [h.lost hbase] at hle'
      have hzero : (({} : RebaseTracker).lastSequence).toNat = 0 := rfl
      omega
    | true =>
      obtain ⟨m, hm, -⟩ := h.standing hbase
      obtain ⟨hsame, -⟩ := Prod.mk.inj (Option.some.inj (hbaseline.symm.trans hm))
      obtain ⟨-, hbound⟩ := h.accepted _ _ hbaseline
      rcases hwhy with hlost | hother | hzero | hgeneration | hgap
      · exact absurd (hbase.symm.trans hlost) (by decide)
      · exact hother hsame
      · rw [hzero] at hseq'
        exact absurd hseq' (by decide)
      · exact absurd hgeneration (h.generation hbaseline)
      · omega
  · refine ⟨by rw [hrun], ?_⟩
    rw [perform_observe hrun, if_neg (by decide)]
  · omega

/-- The addition of `observe_event` does not wrap. -/
theorem additions_fit (tracker : RebaseTracker) (generation seq : UInt64) :
    ∀ addition ∈ tracker.additions generation seq,
      addition.1.toNat + addition.2.toNat < 2 ^ 64 := by
  intro addition hmem
  unfold additions at hmem
  split at hmem
  · cases hmem
  next hreached =>
    obtain rfl := List.mem_singleton.mp hmem
    have hmax : tracker.lastSequence ≠ maxSequence := by
      intro hmax
      exact hreached (.inr (.inr (.inr (.inr (.inr hmax)))))
    have hsum := toNat_succ_lastSequence hmax
    have hlt := (tracker.lastSequence + 1).toNat_lt
    show tracker.lastSequence.toNat + 1 < 2 ^ 64
    rw [← hsum]
    exact hlt

/-- **The tracker accepts nothing but the next event.**  Behind any calls, what has been accepted
since the last rebase that succeeded is the generation with the numbers behind the snapshot's, each
once; `last_sequence` is the last of them while the baseline stands, and zero without one; an event
that does not fit loses the baseline until a rebase; a stale one changes nothing. -/
theorem tracker_contiguous (calls : List Call) :
    let t := ({} : Tracked).afterCalls calls
    (∀ generation n, t.baseline = some (generation, n) →
      t.accepted = numbersBehind generation n t.accepted.length ∧
      n.toNat + t.accepted.length < 2 ^ 64 ∧
      (t.tracker.hasBaseline = true → t.tracker.generation = generation ∧
        t.tracker.lastSequence.toNat = n.toNat + t.accepted.length) ∧
      (t.tracker.hasBaseline = false → t.tracker.lastSequence = 0) ∧
      (∀ other seq, other ≠ generation ∨ seq = 0 ∨ t.tracker.lastSequence.toNat + 1 < seq.toNat →
        (t.tracker.observeEvent other seq).1 = .rebaseRequired ∧
          Lost (t.perform (.observe other seq))) ∧
      ∀ seq, 1 ≤ seq → seq ≤ t.tracker.lastSequence →
        (t.tracker.observeEvent generation seq).1 = .ignoreStale ∧
          t.perform (.observe generation seq) = t) ∧
      (t.tracker.hasBaseline = false → Lost t) ∧
      ∀ generation seq, ∀ addition ∈ t.tracker.additions generation seq,
        addition.1.toNat + addition.2.toNat < 2 ^ 64 := by
  intro t
  have hfresh : Contiguous {} := ⟨nofun, nofun, fun _ => rfl, nofun⟩
  have h : Contiguous t := contiguous_afterCalls hfresh calls
  refine ⟨fun generation n hbaseline => ?_, fun hlost => lost_of_tracker (h.lost hlost),
    t.tracker.additions_fit⟩
  obtain ⟨haccepted, hbound⟩ := h.accepted _ _ hbaseline
  have hstanding : t.tracker.hasBaseline = true → t.tracker.generation = generation ∧
      t.tracker.lastSequence.toNat = n.toNat + t.accepted.length := by
    intro hbase
    obtain ⟨m, hm, hlast⟩ := h.standing hbase
    obtain ⟨hg, rfl⟩ := Prod.mk.inj (Option.some.inj (hbaseline.symm.trans hm))
    exact ⟨hg.symm, hlast⟩
  refine ⟨haccepted, hbound, hstanding, fun hlost => by rw [h.lost hlost], ?_, ?_⟩
  · intro other seq hodd
    apply lost_of_observe
    cases hbase : t.tracker.hasBaseline with
    | false => exact .inl rfl
    | true =>
      rw [(hstanding hbase).1]
      exact .inr hodd
  · intro seq hseq hle
    exact stale_changes_nothing h hbaseline hseq hle

/-- A tracker that gives up its baseline forgets the number too. -/
theorem invalidated_forgets_number :
    ¬∀ (calls : List Call) (generation n : UInt64),
      (({} : Tracked).afterCalls calls).baseline = some (generation, n) →
        (({} : Tracked).afterCalls calls).tracker.lastSequence.toNat =
          n.toNat + (({} : Tracked).afterCalls calls).accepted.length := by
  intro h
  have hcount := h [.rebase 1 5, .invalidate] 1 5 (by decide)
  revert hcount
  decide

end RebaseTracker

end NetworkService.Ipc
