import NetworkService.Wifi.ScanFence

/-!
# Is the completion of a scan missed?

A poll compares the last results with the last start of a scan.  If another scan, say one that the
supplicant does in the background, starts after the results and before the poll, the results lie
behind its start and the poll waits on; if another scan fails there, the poll reports that failure.
So a completed scan is seen exactly as long as neither was recorded after its results.
-/

namespace NetworkService.Wifi

/-- Since the current start a scan has started and then had results, with no failure between them. -/
def CompletedUnfailed (history : List String) : Prop :=
  ∃ newer result between started older, history = newer ++ result :: between ++ started :: older ∧
    mentions started ScanKeyword.started.text = true ∧
    mentions result ScanKeyword.results.text = true ∧
    ∀ event ∈ between, mentions event ScanKeyword.failed.text = false

/-- After results that are not a start themselves neither a start nor a failure was recorded. -/
def ResultsLast (history : List String) : Prop :=
  ∃ newer result older, history = newer ++ result :: older ∧
    mentions result ScanKeyword.results.text = true ∧
    mentions result ScanKeyword.started.text = false ∧
    ∀ event ∈ newer, mentions event ScanKeyword.started.text = false ∧
      mentions event ScanKeyword.failed.text = false

/-! ### The comparisons of a poll -/

/-- An event with `k` among events without `k'` is newer than all those with `k'` behind them. -/
theorem lastAfter_of_mem {k k' : ScanKeyword} {newer older : List String} {event : String}
    (hmem : event ∈ newer) (hevent : mentions event k.text = true)
    (hnewer : ∀ x ∈ newer, mentions x k'.text = false) : lastAfter k k' (newer ++ older) = true := by
  obtain ⟨newest, rest, rfl⟩ := List.append_of_mem hmem
  rw [List.append_assoc, List.cons_append]
  refine lastAfter_of_newer hevent (hnewer event hmem) fun x hx => ?_
  exact hnewer x (List.mem_append_left _ hx)

/-- Where `k` was not recorded after an event with `k'`, it does not come last. -/
theorem not_lastAfter_of_newer {k k' : ScanKeyword} {newer older : List String} {event : String}
    (hevent : mentions event k'.text = true) (hnewer : ∀ x ∈ newer, mentions x k.text = false) :
    lastAfter k k' (newer ++ event :: older) = false := by
  induction newer with
  | nil =>
    rw [List.nil_append, lastAfter_cons, hevent]
    cases mentions event k.text <;> rfl
  | cons x newer ih =>
    obtain ⟨hx, hnewer⟩ := List.forall_mem_cons.mp hnewer
    rw [List.cons_append, lastAfter_cons, hx]
    cases mentions x k'.text with
    | true => rfl
    | false => exact ih hnewer

/-- The results come last exactly if the poll finds them behind the last start and no failure
behind both. -/
theorem resultsLast_iff {history : List String} : ResultsLast history ↔
    lastAfter .results .started history = true ∧
      ¬(lastAfter .failed .started history = true ∧ lastAfter .failed .results history = true) := by
  constructor
  · rintro ⟨newer, result, older, rfl, hresult, hnotStart, hnewer⟩
    refine ⟨lastAfter_of_newer hresult hnotStart fun x hx => (hnewer x hx).1, fun h => ?_⟩
    exact nomatch (not_lastAfter_of_newer hresult fun x hx => (hnewer x hx).2).symm.trans h.2
  · rintro ⟨hlast, hunfailed⟩
    obtain ⟨newer, result, older, rfl, hresult, hnotStart, hnewer⟩ := lastAfter_iff.mp hlast
    refine ⟨newer, result, older, rfl, hresult, hnotStart, fun x hx => ⟨(hnewer x hx).2, ?_⟩⟩
    cases hfailed : mentions x ScanKeyword.failed.text with
    | false => rfl
    | true =>
      refine absurd ⟨?_, ?_⟩ hunfailed
      · exact lastAfter_of_mem hx hfailed fun y hy => (hnewer y hy).2
      · exact lastAfter_of_mem hx hfailed fun y hy => (hnewer y hy).1

/-- What a poll decides, with a reader that succeeds. -/
theorem poll_ready_iff {Record : Type} {l : WifiScanLifecycle Record}
    {current : WifiScanEventMarkers} {now : Int} {results : ScanResults Record}
    (hscanning : l.state = .scanning) (hread : results.error = "") :
    (l.poll current now results).state = .ready ↔
      l.currentScanStarted current = true ∧ current.startedSequence < current.completedSequence ∧
        ¬(current.startedSequence < current.failedSequence ∧
          current.completedSequence < current.failedSequence) := by
  unfold WifiScanLifecycle.poll
  rw [if_neg (not_not_intro hscanning)]
  by_cases hfailed : l.currentScanStarted current = true ∧
      current.startedSequence < current.failedSequence ∧
      current.completedSequence < current.failedSequence
  · rw [if_pos hfailed]
    exact iff_of_false nofun fun h => h.2.2 hfailed.2
  rw [if_neg hfailed]
  by_cases hcompleted : l.currentScanStarted current = true ∧
      current.startedSequence < current.completedSequence
  · rw [if_pos hcompleted, if_neg (not_not_intro hread)]
    exact iff_of_true rfl ⟨hcompleted.1, hcompleted.2, fun h => hfailed ⟨hcompleted.1, h⟩⟩
  · rw [if_neg hcompleted]
    refine iff_of_false ?_ fun h => hcompleted ⟨h.1, h.2.1⟩
    split
    · exact nofun
    · rw [hscanning]
      exact nofun

/-! ### Runs -/

section Runs

variable {Record : Type} (timeout : Int) (actions : List (ScanAction Record)) (now : Int)
  (results : ScanResults Record)

/-- **A poll reports a completed scan exactly if nothing started or failed after its results.** -/
theorem completed_scan_ready_iff (hevents : actions.countP ScanAction.isMonitor < 2 ^ 64)
    (hscanning : (ScanSystem.run timeout actions).lifecycle.state = .scanning)
    (hcompleted : CompletedUnfailed (ScanSystem.run timeout actions).sinceStart)
    (hread : results.error = "") :
    ((ScanSystem.run timeout actions).poll now results).lifecycle.state = .ready ↔
      ResultsLast (ScanSystem.run timeout actions).sinceStart := by
  have hfenced := run_fenced timeout actions hevents
  generalize ScanSystem.run timeout actions = s at hscanning hcompleted hfenced ⊢
  obtain ⟨newer, result, between, started, older, hhistory, hstarted, hresult, -⟩ := hcompleted
  have hwasStarted : wasRecorded .started s.sinceStart = true := by
    rw [hhistory]
    exact List.any_eq_true.mpr ⟨started, List.mem_append_right _ List.mem_cons_self, hstarted⟩
  have hhadResults : wasRecorded .results s.sinceStart = true := by
    rw [hhistory, List.append_assoc]
    exact List.any_eq_true.mpr ⟨result, List.mem_append_right _ List.mem_cons_self, hresult⟩
  have hcurrent : s.lifecycle.currentScanStarted (scanMarkers s.monitor) = true :=
    decide_eq_true ((hfenced.since .started).mpr hwasStarted)
  rw [resultsLast_iff, ← hfenced.order .results .started (.inr hwasStarted),
    ← hfenced.order .failed .started (.inr hwasStarted),
    ← hfenced.order .failed .results (.inr hhadResults)]
  refine (poll_ready_iff hscanning hread).trans ?_
  rw [and_iff_right hcurrent]
  exact Iff.rfl

end Runs

/-- A completed scan that is polled is ready. -/
theorem completed_scan_ready_iff_completedScan :
    ((ScanSystem.run 5000 completedScan).poll 1 ⟨["home"], ""⟩).lifecycle.state = .ready ↔
      ResultsLast (ScanSystem.run 5000 completedScan).sinceStart :=
  completed_scan_ready_iff 5000 completedScan 1 ⟨["home"], ""⟩ (by decide) (by decide)
    ⟨[], "CTRL-EVENT-SCAN-RESULTS ", [], "CTRL-EVENT-SCAN-STARTED ", [], by decide,
      by decide +kernel, by decide +kernel, nofun⟩ rfl

/-- A background scan that starts right after the results hides them from the poll. -/
theorem background_scan_hides_results :
    ¬∀ (timeout : Int) (actions : List (ScanAction String)) (now : Int) (results : ScanResults String),
      (ScanSystem.run timeout actions).lifecycle.state = .scanning →
      now < (ScanSystem.run timeout actions).lifecycle.deadline →
      CompletedUnfailed (ScanSystem.run timeout actions).sinceStart → results.error = "" →
      ((ScanSystem.run timeout actions).poll now results).lifecycle.state = .ready := by
  intro h
  have hready := h 5000
    (completedScan ++ [.monitor (.event "CTRL-EVENT-SCAN-STARTED ")]) 1 ⟨["home"], ""⟩ (by decide)
    (by decide)
    ⟨["CTRL-EVENT-SCAN-STARTED "], "CTRL-EVENT-SCAN-RESULTS ", [], "CTRL-EVENT-SCAN-STARTED ", [],
      by decide, by decide +kernel, by decide +kernel, nofun⟩ rfl
  revert hready
  decide +kernel

end NetworkService.Wifi
