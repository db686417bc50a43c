import NetworkService.Wifi.ScanLifecycle

/-!
# The generation fence of a scan

The lifecycle decides from four numbers.  As long as the sequence of the monitor has not wrapped, the
comparisons of these numbers say which keyword was recorded last since the current start, and nothing
about earlier scans: whatever was recorded before has a number up to the baseline.
-/

namespace NetworkService.Wifi

/-- The keywords that have a marker. -/
inductive ScanKeyword
  | started
  | results
  | failed
  deriving DecidableEq

namespace ScanKeyword

def text : ScanKeyword → String
  | started => "CTRL-EVENT-SCAN-STARTED"
  | results => "CTRL-EVENT-SCAN-RESULTS"
  | failed => "CTRL-EVENT-SCAN-FAILED"

def marker : ScanKeyword → WpaEventFact → UInt64
  | started, s => s.lastScanStartedSequence
  | results, s => s.lastScanResultSequence
  | failed, s => s.lastScanFailedSequence

theorem marker_updateEvent (keyword : ScanKeyword) (event : String) (s : WpaEventFact) :
    keyword.marker (s.updateEvent event) =
      if mentions event keyword.text then s.nextSequence else keyword.marker s := by
  rw [s.updateEvent_eq event]
  cases keyword <;> rfl

end ScanKeyword

/-- In a history, newest first: the last event with one of the two keywords has `k` and not `k'`. -/
def lastAfter (k k' : ScanKeyword) : List String → Bool
  | [] => false
  | event :: older =>
    if mentions event k.text then !mentions event k'.text
    else if mentions event k'.text then false
    else lastAfter k k' older

/-- An event with the keyword was recorded. -/
def wasRecorded (k : ScanKeyword) (history : List String) : Bool :=
  history.any fun event => mentions event k.text

theorem wasRecorded_cons (k : ScanKeyword) (event : String) (older : List String) :
    wasRecorded k (event :: older) = (mentions event k.text || wasRecorded k older) := rfl

theorem lastAfter_cons (k k' : ScanKeyword) (event : String) (older : List String) :
    lastAfter k k' (event :: older) =
      if mentions event k.text then !mentions event k'.text
      else if mentions event k'.text then false
      else lastAfter k k' older := rfl

/-- The newest event with `k` comes after all those with `k'`. -/
theorem lastAfter_iff {k k' : ScanKeyword} {history : List String} : lastAfter k k' history = true ↔
    ∃ newer event older, history = newer ++ event :: older ∧ mentions event k.text = true ∧
      mentions event k'.text = false ∧
      ∀ x ∈ newer, mentions x k.text = false ∧ mentions x k'.text = false := by
  induction history with
  | nil => exact iff_of_false nofun fun ⟨newer, _, _, h, _⟩ => by cases newer <;> cases h
  | cons first rest ih =>
    rw [lastAfter_cons]
    constructor
    · intro h
      split at h
      next hk => exact ⟨[], first, rest, rfl, hk, by simpa using h, nofun⟩
      next hk =>
        split at h
        · cases h
        next hk' =>
          obtain ⟨newer, event, older, rfl, hevent, hevent', hnewer⟩ := ih.mp h
          refine ⟨first :: newer, event, older, rfl, hevent, hevent', ?_⟩
          exact List.forall_mem_cons.mpr
            ⟨⟨Bool.eq_false_iff.mpr hk, Bool.eq_false_iff.mpr hk'⟩, hnewer⟩
    · rintro ⟨newer, event, older, h, hevent, hevent', hnewer⟩
      cases newer with
      | nil =>
        obtain ⟨rfl, rfl⟩ := List.cons.inj h
        rw [if_pos hevent, hevent']
        rfl
      | cons x newer =>
        obtain ⟨rfl, rfl⟩ := List.cons.inj h
        obtain ⟨⟨hx, hx'⟩, hnewer⟩ := List.forall_mem_cons.mp hnewer
        rw [hx, hx']
        exact ih.mpr ⟨newer, event, older, rfl, hevent, hevent', hnewer⟩

/-- Any event with `k` that is newer than all those with `k'` will do. -/
theorem lastAfter_of_newer {k k' : ScanKeyword} {newer older : List String} {event : String}
    (hevent : mentions event k.text = true) (hevent' : mentions event k'.text = false)
    (hnewer : ∀ x ∈ newer, mentions x k'.text = false) :
    lastAfter k k' (newer ++ event :: older) = true := by
  induction newer with
  | nil =>
    rw [List.nil_append, lastAfter_cons, if_pos hevent, hevent']
    rfl
  | cons x newer ih =>
    obtain ⟨hx', hnewer⟩ := List.forall_mem_cons.mp hnewer
    rw [List.cons_append, lastAfter_cons, hx']
    split
    · rfl
    · exact ih hnewer

/-! ### Numbers of events -/

section Numbers

variable {s : WpaEventFact}

theorem nextSequence_toNat (h : s.eventSequence.toNat + 1 < 2 ^ 64) :
    s.nextSequence.toNat = s.eventSequence.toNat + 1 := by
  have hnext : (s.eventSequence + 1).toNat = s.eventSequence.toNat + 1 := by
    rw [UInt64.toNat_add]
    exact Nat.mod_eq_of_lt h
  unfold WpaEventFact.nextSequence
  rw [if_neg, hnext]
  intro hzero
  rw [hzero] at hnext
  exact nomatch hnext

/-- The markers do not run ahead of the sequence. -/
def MarkersBehind (s : WpaEventFact) : Prop := ∀ k : ScanKeyword, k.marker s ≤ s.eventSequence

/-- What an operation that records no event does to the numbers. -/
theorem perform_silent {op : MonitorOperation} (hop : ScanSystem.recorded op = []) :
    (∀ k : ScanKeyword, k.marker (op.perform s) = k.marker s) ∧
      ((op.perform s).eventSequence = s.eventSequence ∨
        (op.perform s).eventSequence = s.nextSequence) := by
  cases op with
  | event text => exact nomatch hop
  | attached reply =>
    unfold MonitorOperation.perform
    dsimp only
    cases reply.bind parseWpaStatusReply with
    | none => exact ⟨fun k => by cases k <;> rfl, .inr rfl⟩
    | some status => exact ⟨fun k => by cases k <;> rfl, .inr rfl⟩
  | channelLost =>
    show (∀ k : ScanKeyword, k.marker s.markChannelUnavailable = k.marker s) ∧ _
    unfold MonitorOperation.perform WpaEventFact.markChannelUnavailable
    dsimp only
    split
    · exact ⟨fun k => by cases k <;> rfl, .inr rfl⟩
    · exact ⟨fun k => by cases k <;> rfl, .inl rfl⟩

end Numbers

/-! ### The lifecycle alone -/

section Lifecycle

variable {Record : Type}

namespace WifiScanLifecycle

/-- Records are there only in Ready, and an error exactly in Failed. -/
structure Consistent (l : WifiScanLifecycle Record) : Prop where
  records : l.records ≠ [] → l.state = .ready
  error : l.error ≠ "" ↔ l.state = .failed

variable {l : WifiScanLifecycle Record}

theorem consistent_fail (l : WifiScanLifecycle Record) (error : String) :
    (l.fail error).Consistent := by
  refine ⟨fun h => absurd rfl h, iff_of_true ?_ rfl⟩
  show (if error = "" then "scan_failed" else error) ≠ ""
  split
  · exact nofun
  next h => exact h

theorem Consistent.start (h : l.Consistent) (timeout : Int) (events : WifiScanEventMarkers)
    (now : Int) (reply : Except String Unit) : (l.start timeout events now reply).2.Consistent := by
  unfold WifiScanLifecycle.start
  split
  · exact h
  · cases reply with
    | ok _ => exact ⟨fun h => absurd rfl h, iff_of_false (fun h => h rfl) nofun⟩
    | error e => exact consistent_fail _ _

theorem Consistent.poll (h : l.Consistent) (current : WifiScanEventMarkers) (now : Int)
    (results : ScanResults Record) : (l.poll current now results).Consistent := by
  unfold WifiScanLifecycle.poll
  split
  · exact h
  · split
    · exact consistent_fail _ _
    · split
      · split
        · exact consistent_fail _ _
        · exact ⟨fun _ => rfl, iff_of_false (fun h => h rfl) nofun⟩
      · split
        · exact consistent_fail _ _
        · exact h

/-- What a poll needs to see for Ready. -/
theorem poll_ready {current : WifiScanEventMarkers} {now : Int} {results : ScanResults Record}
    (hscanning : l.state = .scanning) (h : (l.poll current now results).state = .ready) :
    l.baseline.sequence < current.startedSequence ∧
      current.startedSequence < current.completedSequence := by
  unfold WifiScanLifecycle.poll at h
  rw [if_neg (not_not_intro hscanning)] at h
  split at h
  · exact nomatch h
  · split at h
    next hcompleted => exact ⟨of_decide_eq_true hcompleted.1, hcompleted.2⟩
    · split at h
      · exact nomatch h
      · exact nomatch hscanning.symm.trans h

theorem nextScanId_toNat (h : l.scanId.toNat + 1 < 2 ^ 64) :
    l.nextScanId.toNat = l.scanId.toNat + 1 := by
  have hnext : (l.scanId + 1).toNat = l.scanId.toNat + 1 := by
    rw [UInt64.toNat_add]
    exact Nat.mod_eq_of_lt h
  unfold nextScanId
  rw [if_neg, hnext]
  intro hzero
  rw [hzero] at hnext
  exact nomatch hnext

/-- A lifecycle that is scanning is not changed by a start. -/
theorem start_of_scanning (hscanning : l.state = .scanning) (timeout : Int)
    (events : WifiScanEventMarkers) (now : Int) (reply : Except String Unit) :
    l.start timeout events now reply = (false, l) := if_pos hscanning

/-- Every other start begins the next generation. -/
theorem start_of_not_scanning (hstate : l.state ≠ .scanning) (timeout : Int)
    (events : WifiScanEventMarkers) (now : Int) (reply : Except String Unit) :
    (l.start timeout events now reply).1 = true ∧
      (l.start timeout events now reply).2.scanId = l.nextScanId ∧
      (l.start timeout events now reply).2.baseline = events ∧
      (l.start timeout events now reply).2.state ≠ .ready := by
  unfold WifiScanLifecycle.start
  rw [if_neg hstate]
  cases reply <;> exact ⟨rfl, rfl, rfl, nofun⟩

theorem poll_keeps (l : WifiScanLifecycle Record) (current : WifiScanEventMarkers) (now : Int)
    (results : ScanResults Record) :
    (l.poll current now results).scanId = l.scanId ∧
      (l.poll current now results).baseline = l.baseline := by
  unfold WifiScanLifecycle.poll
  split
  · exact ⟨rfl, rfl⟩
  · split
    · exact ⟨rfl, rfl⟩
    · split
      · split <;> exact ⟨rfl, rfl⟩
      · split <;> exact ⟨rfl, rfl⟩

/-- A lifecycle that is not scanning is not changed by a poll. -/
theorem poll_of_not_scanning (hstate : l.state ≠ .scanning) (current : WifiScanEventMarkers)
    (now : Int) (results : ScanResults Record) : l.poll current now results = l := if_pos hstate

end WifiScanLifecycle

end Lifecycle

/-! ### The invariant -/

variable {Record : Type}

/-- After at most `n` operations of the monitor: the sequence has not wrapped, and the comparisons of
the markers with the baseline and with each other say what was recorded since the current start. -/
structure Fenced (n : ℕ) (s : ScanSystem Record) : Prop where
  bounded : s.monitor.eventSequence.toNat ≤ n
  behind : MarkersBehind s.monitor
  baseline : s.lifecycle.baseline.sequence ≤ s.monitor.eventSequence
  since : ∀ k : ScanKeyword,
    s.lifecycle.baseline.sequence < k.marker s.monitor ↔ wasRecorded k s.sinceStart = true
  order : ∀ k k' : ScanKeyword,
    wasRecorded k s.sinceStart = true ∨ wasRecorded k' s.sinceStart = true →
      (k'.marker s.monitor < k.marker s.monitor ↔ lastAfter k k' s.sinceStart = true)

namespace ScanSystem

variable (s : ScanSystem Record)

theorem start_of_scanning (hscanning : s.lifecycle.state = .scanning) (timeout now : Int)
    (reply : Except String Unit) : s.start timeout now reply = s := by
  unfold ScanSystem.start
  rw [WifiScanLifecycle.start_of_scanning hscanning]
  rfl

theorem start_of_not_scanning (hstate : s.lifecycle.state ≠ .scanning) (timeout now : Int)
    (reply : Except String Unit) :
    (s.start timeout now reply).monitor = s.monitor ∧
      (s.start timeout now reply).sinceStart = [] ∧
      (s.start timeout now reply).lifecycle.scanId = s.lifecycle.nextScanId ∧
      (s.start timeout now reply).lifecycle.baseline.sequence = s.monitor.eventSequence := by
  obtain ⟨hcalled, hid, hbaseline, -⟩ := WifiScanLifecycle.start_of_not_scanning hstate timeout
    (scanMarkers s.monitor) now reply
  refine ⟨rfl, if_pos hcalled, hid, ?_⟩
  exact congrArg WifiScanEventMarkers.sequence hbaseline

end ScanSystem

section Invariant

variable {n : ℕ} {s : ScanSystem Record}

theorem Fenced.initial : Fenced 0 ({} : ScanSystem Record) where
  bounded := Nat.le_refl 0
  behind k := by cases k <;> exact UInt64.le_refl 0
  baseline := UInt64.le_refl 0
  since k := by cases k <;> exact iff_of_false (UInt64.lt_irrefl 0) nofun
  order _ _ h := by rcases h with h | h <;> cases h

/-- An event gets a number beyond the baseline and beyond all markers. -/
theorem Fenced.event (h : Fenced n s) (hn : n + 1 < 2 ^ 64) (event : String) :
    Fenced (n + 1) (s.record (.event event)) := by
  have hbounded := h.bounded
  have hnext := nextSequence_toNat (s := s.monitor) (by omega)
  have hsequence : (s.monitor.updateEvent event).eventSequence = s.monitor.nextSequence := by
    rw [s.monitor.updateEvent_eq event]
  have hbaseline : s.lifecycle.baseline.sequence < s.monitor.nextSequence := by
    have hle := UInt64.le_iff_toNat_le.mp h.baseline
    exact UInt64.lt_iff_toNat_lt.mpr (by omega)
  have hmarker : ∀ k : ScanKeyword, k.marker s.monitor < s.monitor.nextSequence := by
    intro k
    have hle := UInt64.le_iff_toNat_le.mp (h.behind k)
    exact UInt64.lt_iff_toNat_lt.mpr (by omega)
  refine ⟨?_, ?_, ?_, ?_, ?_⟩
  · show (s.monitor.updateEvent event).eventSequence.toNat ≤ n + 1
    rw [hsequence]
    omega
  · intro k
    show k.marker (s.monitor.updateEvent event) ≤ (s.monitor.updateEvent event).eventSequence
    rw [hsequence, k.marker_updateEvent]
    split
    · exact UInt64.le_refl _
    · exact UInt64.le_of_lt (hmarker k)
  · show s.lifecycle.baseline.sequence ≤ (s.monitor.updateEvent event).eventSequence
    rw [hsequence]
    exact UInt64.le_of_lt hbaseline
  · intro k
    show s.lifecycle.baseline.sequence < k.marker (s.monitor.updateEvent event) ↔
      wasRecorded k (event :: s.sinceStart) = true
    rw [k.marker_updateEvent, wasRecorded_cons]
    cases mentions event k.text with
    | true => exact iff_of_true hbaseline rfl
    | false => exact h.since k
  · intro k k' hrecorded
    show k'.marker (s.monitor.updateEvent event) < k.marker (s.monitor.updateEvent event) ↔
      lastAfter k k' (event :: s.sinceStart) = true
    replace hrecorded : wasRecorded k (event :: s.sinceStart) = true ∨
      wasRecorded k' (event :: s.sinceStart) = true := hrecorded
    rw [wasRecorded_cons, wasRecorded_cons] at hrecorded
    rw [k.marker_updateEvent, k'.marker_updateEvent, lastAfter_cons]
    revert hrecorded
    cases mentions event k.text with
    | true =>
      cases mentions event k'.text with
      | true => exact fun _ => iff_of_false (UInt64.lt_irrefl _) nofun
      | false => exact fun _ => iff_of_true (hmarker k') rfl
    | false =>
      cases mentions event k'.text with
      | true => exact fun _ => iff_of_false (UInt64.lt_asymm (hmarker k)) nofun
      | false => exact fun hrecorded => h.order k k' hrecorded

/-- An operation that records no event moves at most the sequence. -/
theorem Fenced.silent (h : Fenced n s) (hn : n + 1 < 2 ^ 64) {op : MonitorOperation}
    (hop : ScanSystem.recorded op = []) : Fenced (n + 1) (s.record op) := by
  have hbounded := h.bounded
  have hnext := nextSequence_toNat (s := s.monitor) (by omega)
  obtain ⟨hmarker, hsequence⟩ := perform_silent (s := s.monitor) hop
  have hle : s.monitor.eventSequence ≤ (op.perform s.monitor).eventSequence ∧
      (op.perform s.monitor).eventSequence.toNat ≤ n + 1 := by
    rcases hsequence with hsequence | hsequence
    · rw [hsequence]
      exact ⟨UInt64.le_refl _, by omega⟩
    · rw [hsequence]
      exact ⟨UInt64.le_iff_toNat_le.mpr (by omega), by omega⟩
  have hsince : (s.record op).sinceStart = s.sinceStart := by
    show ScanSystem.recorded op ++ s.sinceStart = s.sinceStart
    rw [hop, List.nil_append]
  refine ⟨hle.2, ?_, UInt64.le_trans h.baseline hle.1, ?_, ?_⟩
  · intro k
    show k.marker (op.perform s.monitor) ≤ (op.perform s.monitor).eventSequence
    rw [hmarker k]
    exact UInt64.le_trans (h.behind k) hle.1
  · intro k
    show s.lifecycle.baseline.sequence < k.marker (op.perform s.monitor) ↔ _
    rw [hmarker k, hsince]
    exact h.since k
  · intro k k' hrecorded
    show k'.marker (op.perform s.monitor) < k.marker (op.perform s.monitor) ↔ _
    rw [hsince] at hrecorded ⊢
    rw [hmarker k, hmarker k']
    exact h.order k k' hrecorded

theorem Fenced.record (h : Fenced n s) (hn : n + 1 < 2 ^ 64) (op : MonitorOperation) :
    Fenced (n + 1) (s.record op) := by
  cases op with
  | event text => exact h.event hn text
  | attached reply => exact h.silent hn rfl
  | channelLost => exact h.silent hn rfl

/-- A start draws the baseline at the number of the last event. -/
theorem Fenced.start (h : Fenced n s) (timeout now : Int) (reply : Except String Unit) :
    Fenced n (s.start timeout now reply) := by
  by_cases hscanning : s.lifecycle.state = .scanning
  · rw [s.start_of_scanning hscanning]
    exact h
  · obtain ⟨hmonitor, hsince, -, hbaseline⟩ := s.start_of_not_scanning hscanning timeout now reply
    refine ⟨?_, ?_, ?_, ?_, ?_⟩
    · rw [hmonitor]
      exact h.bounded
    · rw [hmonitor]
      exact h.behind
    · rw [hmonitor, hbaseline]
      exact UInt64.le_refl _
    · intro k
      rw [hmonitor, hsince, hbaseline]
      exact iff_of_false (UInt64.not_lt.mpr (h.behind k)) nofun
    · intro k k' hrecorded
      rw [hsince] at hrecorded
      rcases hrecorded with hrecorded | hrecorded <;> cases hrecorded

theorem Fenced.poll (h : Fenced n s) (now : Int) (results : ScanResults Record) :
    Fenced n (s.poll now results) := by
  have hbaseline := (s.lifecycle.poll_keeps (scanMarkers s.monitor) now results).2
  refine ⟨h.bounded, h.behind, ?_, ?_, h.order⟩
  · show (s.lifecycle.poll (scanMarkers s.monitor) now results).baseline.sequence ≤ _
    rw [hbaseline]
    exact h.baseline
  · intro k
    show (s.lifecycle.poll (scanMarkers s.monitor) now results).baseline.sequence < _ ↔ _
    rw [hbaseline]
    exact h.since k

end Invariant

/-! ### Runs -/

def ScanAction.isMonitor : ScanAction Record → Bool
  | .monitor _ => true
  | .start _ _ | .poll _ _ => false

def ScanAction.isStart : ScanAction Record → Bool
  | .start _ _ => true
  | .monitor _ | .poll _ _ => false

theorem run_append (timeout : Int) (actions : List (ScanAction Record)) (action : ScanAction Record) :
    ScanSystem.run timeout (actions ++ [action]) =
      (ScanSystem.run timeout actions).perform timeout action := by
  unfold ScanSystem.run
  rw [List.foldl_append]
  rfl

/-- **The fence stands in every run in which the sequence does not wrap.** -/
theorem run_fenced (timeout : Int) (actions : List (ScanAction Record))
    (hevents : actions.countP ScanAction.isMonitor < 2 ^ 64) :
    Fenced (actions.countP ScanAction.isMonitor) (ScanSystem.run timeout actions) := by
  induction actions using List.reverseRecOn with
  | nil => exact .initial
  | append_singleton actions action ih =>
    rw [List.countP_append] at hevents ⊢
    rw [run_append]
    cases action with
    | monitor op =>
      have hbefore := ih (by omega)
      exact hbefore.record hevents op
    | start now reply => exact (ih hevents).start timeout now reply
    | poll now results => exact (ih hevents).poll now results

theorem run_consistent (timeout : Int) (actions : List (ScanAction Record)) :
    (ScanSystem.run timeout actions).lifecycle.Consistent := by
  induction actions using List.reverseRecOn with
  | nil => exact ⟨fun h => absurd rfl h, iff_of_false (fun h => h rfl) nofun⟩
  | append_singleton actions action ih =>
    rw [run_append]
    cases action with
    | monitor op => exact ih
    | start now reply => exact ih.start _ _ _ _
    | poll now results => exact ih.poll _ _ _

/-- A scan that is ready: since the current start a scan has started and then had results. -/
def StartedThenCompleted (history : List String) : Prop :=
  ∃ newer result between started older, history = newer ++ result :: between ++ started :: older ∧
    mentions started ScanKeyword.started.text = true ∧
    mentions result ScanKeyword.results.text = true

theorem StartedThenCompleted.append {history : List String} (h : StartedThenCompleted history)
    (newest : List String) : StartedThenCompleted (newest ++ history) := by
  obtain ⟨newer, result, between, started, older, rfl, hstarted, hresult⟩ := h
  refine ⟨newest ++ newer, result, between, started, older, ?_, hstarted, hresult⟩
  simp only [List.append_assoc]

/-- The newest results come after a start. -/
theorem startedThenCompleted_of_last {history : List String}
    (hstarted : wasRecorded .started history = true)
    (hlast : lastAfter .results .started history = true) : StartedThenCompleted history := by
  obtain ⟨newer, result, older, rfl, hresult, hresult', hnewer⟩ := lastAfter_iff.mp hlast
  obtain ⟨started, hmem, hbegun⟩ := List.any_eq_true.mp hstarted
  have holder : started ∈ older := by
    rcases List.mem_append.mp hmem with hmem | hmem
    · exact nomatch (hnewer started hmem).2.symm.trans hbegun
    · rcases List.mem_cons.mp hmem with rfl | hmem
      · exact nomatch hresult'.symm.trans hbegun
      · exact hmem
  obtain ⟨between, oldest, rfl⟩ := List.append_of_mem holder
  refine ⟨newer, result, between, started, oldest, ?_, hbegun, hresult⟩
  rw [List.append_assoc, List.cons_append]

/-- Ready means that the current scan has started and then had results. -/
theorem run_ready (timeout : Int) (actions : List (ScanAction Record))
    (hevents : actions.countP ScanAction.isMonitor < 2 ^ 64)
    (hready : (ScanSystem.run timeout actions).lifecycle.state = .ready) :
    StartedThenCompleted (ScanSystem.run timeout actions).sinceStart := by
  induction actions using List.reverseRecOn with
  | nil => cases hready
  | append_singleton actions action ih =>
    rw [List.countP_append] at hevents
    rw [run_append] at hready ⊢
    cases action with
    | monitor op =>
      have hbefore := ih (by omega) hready
      exact hbefore.append (ScanSystem.recorded op)
    | start now reply =>
      by_cases hscanning : (ScanSystem.run timeout actions).lifecycle.state = .scanning
      · have hsame : (ScanSystem.run timeout actions).perform timeout (.start now reply) =
            ScanSystem.run timeout actions := ScanSystem.start_of_scanning _ hscanning _ _ _
        rw [hsame] at hready
        exact nomatch hscanning.symm.trans hready
      · exact absurd hready
          (WifiScanLifecycle.start_of_not_scanning hscanning timeout _ now reply).2.2.2
    | poll now results =>
      by_cases hscanning : (ScanSystem.run timeout actions).lifecycle.state = .scanning
      · obtain ⟨hbegun, hcompleted⟩ := WifiScanLifecycle.poll_ready hscanning hready
        have hfenced := run_fenced timeout actions hevents
        have hstarted := (hfenced.since .started).mp hbegun
        exact startedThenCompleted_of_last hstarted
          ((hfenced.order .results .started (.inr hstarted)).mp hcompleted)
      · have hsame : ((ScanSystem.run timeout actions).perform timeout (.poll now results)).lifecycle =
            (ScanSystem.run timeout actions).lifecycle :=
          WifiScanLifecycle.poll_of_not_scanning hscanning _ _ _
        rw [hsame] at hready
        exact ih hevents hready

/-- The id has not wrapped: it is at most the number of starts. -/
theorem run_scanId (timeout : Int) (actions : List (ScanAction Record))
    (hstarts : actions.countP ScanAction.isStart < 2 ^ 64) :
    (ScanSystem.run timeout actions).lifecycle.scanId.toNat ≤
      actions.countP ScanAction.isStart := by
  induction actions using List.reverseRecOn with
  | nil => exact Nat.le_refl 0
  | append_singleton actions action ih =>
    rw [List.countP_append] at hstarts ⊢
    rw [run_append]
    have hbefore := ih (by omega)
    cases action with
    | monitor op => exact hbefore
    | start now reply =>
      have hstarts : actions.countP ScanAction.isStart + 1 < 2 ^ 64 := hstarts
      have hnext := WifiScanLifecycle.nextScanId_toNat
        (l := (ScanSystem.run timeout actions).lifecycle) (by omega)
      show ((ScanSystem.run timeout actions).start timeout now reply).lifecycle.scanId.toNat ≤
        actions.countP ScanAction.isStart + 1
      by_cases hscanning : (ScanSystem.run timeout actions).lifecycle.state = .scanning
      · rw [ScanSystem.start_of_scanning _ hscanning]
        omega
      · rw [(ScanSystem.start_of_not_scanning _ hscanning timeout now reply).2.2.1]
        omega
    | poll now results =>
      show ((ScanSystem.run timeout actions).lifecycle.poll _ now results).scanId.toNat ≤ _
      rw [(WifiScanLifecycle.poll_keeps _ _ now results).1]
      exact hbefore

/-- **Scan generations are fenced**, after any run and whatever comes next: the physical start is
called by a start outside Scanning only, which begins a new id, while a start in Scanning returns the
id of the scan; Ready means that since the current start a scan has started and then had results;
records are there only in Ready and an error exactly in Failed; nothing but a start leaves Ready or
Failed. -/
theorem scan_generations_fenced (timeout : Int) (actions : List (ScanAction Record))
    (action : ScanAction Record)
    (hevents : (actions ++ [action]).countP ScanAction.isMonitor < 2 ^ 64)
    (hstarts : (actions ++ [action]).countP ScanAction.isStart < 2 ^ 64) :
    let s := ScanSystem.run timeout actions
    let t := s.perform timeout action
    (t.physicalStarts ≠ s.physicalStarts →
      action.isStart = true ∧ s.lifecycle.state ≠ .scanning) ∧
    (action.isStart = true → s.lifecycle.state = .scanning →
      t.lifecycle.status.scanId = s.lifecycle.status.scanId) ∧
    (action.isStart = true → s.lifecycle.state ≠ .scanning →
      s.lifecycle.scanId < t.lifecycle.scanId) ∧
    (t.lifecycle.state = .ready → StartedThenCompleted t.sinceStart) ∧
    (t.lifecycle.records ≠ [] → t.lifecycle.state = .ready) ∧
    (t.lifecycle.error ≠ "" ↔ t.lifecycle.state = .failed) ∧
    (s.lifecycle.state = .ready ∨ s.lifecycle.state = .failed → action.isStart = false →
      t.lifecycle = s.lifecycle) := by
  intro s t
  have hready := run_ready timeout (actions ++ [action]) hevents
  have hconsistent := run_consistent timeout (actions ++ [action])
  rw [run_append] at hready hconsistent
  rw [List.countP_append] at hstarts
  have hid : s.lifecycle.scanId.toNat ≤ actions.countP ScanAction.isStart :=
    run_scanId timeout actions (by omega)
  refine ⟨?_, ?_, ?_, hready, hconsistent.records, hconsistent.error, ?_⟩
  · intro hcalled
    cases action with
    | monitor op => exact absurd rfl hcalled
    | start now reply =>
      refine ⟨rfl, fun hscanning => hcalled ?_⟩
      exact congrArg ScanSystem.physicalStarts (s.start_of_scanning hscanning timeout now reply)
    | poll now results => exact absurd rfl hcalled
  · intro hstart hscanning
    cases action with
    | monitor op => cases hstart
    | start now reply =>
      exact congrArg (fun s => s.lifecycle.scanId) (s.start_of_scanning hscanning timeout now reply)
    | poll now results => cases hstart
  · intro hstart hstate
    cases action with
    | monitor op => cases hstart
    | start now reply =>
      have hnext := (s.start_of_not_scanning hstate timeout now reply).2.2.1
      have hstarts : actions.countP ScanAction.isStart + 1 < 2 ^ 64 := hstarts
      have hvalue := WifiScanLifecycle.nextScanId_toNat (l := s.lifecycle) (by omega)
      show s.lifecycle.scanId < (s.start timeout now reply).lifecycle.scanId
      rw [hnext]
      exact UInt64.lt_iff_toNat_lt.mpr (by omega)
    | poll now results => cases hstart
  · intro hstate hnot
    have hscanning : s.lifecycle.state ≠ .scanning := by
      rintro h
      rcases hstate with hstate | hstate <;> exact nomatch h.symm.trans hstate
    cases action with
    | monitor op => rfl
    | start now reply => cases hnot
    | poll now results => exact WifiScanLifecycle.poll_of_not_scanning hscanning _ _ _

/-- A scan that starts, completes and is read. -/
def completedScan : List (ScanAction String) :=
  [.start 0 (.ok ()), .monitor (.event "CTRL-EVENT-SCAN-STARTED "),
    .monitor (.event "CTRL-EVENT-SCAN-RESULTS ")]

theorem scan_generations_fenced_completedScan :
    StartedThenCompleted
      ((ScanSystem.run 5000 completedScan).perform 5000 (.poll 1 ⟨["home"], ""⟩)).sinceStart :=
  (scan_generations_fenced 5000 completedScan (.poll 1 ⟨["home"], ""⟩) (by decide)
    (by decide)).2.2.2.1 (by decide +kernel)

end NetworkService.Wifi
