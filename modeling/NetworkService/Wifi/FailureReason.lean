import NetworkService.Wifi.EventMonitor

/-!
# Is a failure reason there exactly while the link is failed?

The link state and the failure reason are written by two cascades over the same event text.  A
recorded reason is overwritten by the empty one at every event without a keyword, and it stays when
an event moves the link from Failed to another state.  So the two agree exactly as long as nothing but
a connect, another failure or the status of a new attachment follows a failure.
-/

namespace NetworkService.Wifi

namespace WpaEventFact

/-- The reason is there exactly while the link is failed. -/
def ReasonIffFailed (s : WpaEventFact) : Prop := s.failureReason ≠ "" ↔ s.l2State = .failed

instance (s : WpaEventFact) : Decidable s.ReasonIffFailed :=
  inferInstanceAs (Decidable (_ ↔ _))

end WpaEventFact

/-- What may follow a failure: a connect, another failure, or a new state of the channel. -/
def MonitorOperation.replacesFailure : MonitorOperation → Bool
  | .event text => mentions text "CTRL-EVENT-CONNECTED" || l2StateForEvent text = some .failed
  | .attached _ | .channelLost => true

/-- At every failed link of a run, the next operation replaces the failure. -/
def FailuresReplaced (operations : List MonitorOperation) : Prop :=
  ∀ done op rest, operations = done ++ op :: rest → (observed done {}).l2State = .failed →
    op.replacesFailure = true

/-! ### The two cascades -/

section Cascades

variable {event : String}

/-- A failure comes with a reason, and neither a connect nor a disconnect stands beside it. -/
theorem reason_of_failed (h : l2StateForEvent event = some .failed) :
    failureReasonForEvent event ≠ "" ∧ mentions event "CTRL-EVENT-CONNECTED" = false ∧
      mentions event "CTRL-EVENT-DISCONNECTED" = false := by
  unfold l2StateForEvent at h
  unfold failureReasonForEvent
  grind

/-- An event without a keyword of the link states gives no reason either. -/
theorem no_reason_of_none (h : l2StateForEvent event = none) :
    failureReasonForEvent event = "" ∧ mentions event "CTRL-EVENT-CONNECTED" = false ∧
      mentions event "CTRL-EVENT-DISCONNECTED" = false := by
  unfold l2StateForEvent at h
  unfold failureReasonForEvent
  grind

end Cascades

/-- No status of the supplicant is a failure. -/
theorem l2StateForStatus_ne_failed (value : String) : l2StateForStatus value ≠ .failed := by
  unfold l2StateForStatus
  grind

theorem parseWpaStatusReply_ne_failed {reply : String} {fact : WpaStatusFact}
    (h : parseWpaStatusReply reply = some fact) : fact.l2State ≠ .failed := by
  have hline : ∀ (read : Bool × WpaStatusFact) (line : List Char), read.2.l2State ≠ .failed →
      (readStatusLine read line).2.l2State ≠ .failed := by
    intro read line hread
    unfold readStatusLine
    dsimp only
    generalize (if line.getLast? = some '\r' then line.dropLast else line) = line
    split
    · exact hread
    · split
      · exact l2StateForStatus_ne_failed _
      · split
        · exact hread
        · split <;> exact hread
  have hlines : ∀ (lines : List (List Char)) (read : Bool × WpaStatusFact),
      read.2.l2State ≠ .failed → (lines.foldl readStatusLine read).2.l2State ≠ .failed := by
    intro lines
    induction lines with
    | nil => exact fun _ hread => hread
    | cons line lines ih => exact fun read hread => ih _ (hline read line hread)
  have hread := hlines (reply.toList.splitOn '\n') (false, {}) (fun h => nomatch h)
  unfold parseWpaStatusReply at h
  generalize (reply.toList.splitOn '\n').foldl readStatusLine (false, {}) = read at h hread
  cases read with
  | mk haveState status =>
    cases haveState with
    | false => cases h
    | true =>
      cases h
      exact hread

/-! ### One operation -/

section Operations

variable {s : WpaEventFact}

/-- A write that clears the reason and does not fail the link. -/
theorem WpaEventFact.reasonIffFailed_of_cleared (hreason : s.failureReason = "")
    (hl2 : s.l2State ≠ .failed) : s.ReasonIffFailed :=
  ⟨fun h => absurd hreason h, fun h => absurd h hl2⟩

/-- A failed link keeps its reason exactly through an event that replaces the failure. -/
theorem updateEvent_of_failed (event : String) (h : s.ReasonIffFailed) (hfailed : s.l2State = .failed) :
    (s.updateEvent event).ReasonIffFailed ↔
      (MonitorOperation.event event).replacesFailure = true := by
  have hreason : s.failureReason ≠ "" := h.mpr hfailed
  unfold WpaEventFact.ReasonIffFailed MonitorOperation.replacesFailure
  rw [s.updateEvent_eq event]
  dsimp only
  unfold WpaEventFact.reasonAfter
  cases hl2 : l2StateForEvent event with
  | none =>
    obtain ⟨hnone, hconnected, hdisconnected⟩ := no_reason_of_none hl2
    simp [hconnected, hdisconnected, hfailed, hnone]
  | some l2 =>
    by_cases hagain : l2 = .failed
    · obtain ⟨hsome, hconnected, hdisconnected⟩ := reason_of_failed (hagain ▸ hl2)
      simp [hconnected, hdisconnected, hagain, hsome]
    · cases hconnected : mentions event "CTRL-EVENT-CONNECTED" with
      | true => simp [hagain]
      | false =>
        -- the link leaves the failure and the reason stays
        simp [hagain, hreason]

/-- A link that is not failed has its reason written with the failure. -/
theorem updateEvent_of_not_failed (event : String) (h : s.ReasonIffFailed)
    (hfailed : s.l2State ≠ .failed) : (s.updateEvent event).ReasonIffFailed := by
  have hreason : s.failureReason = "" := Decidable.byContradiction fun hne => hfailed (h.mp hne)
  unfold WpaEventFact.ReasonIffFailed
  rw [s.updateEvent_eq event]
  dsimp only
  unfold WpaEventFact.reasonAfter
  cases hl2 : l2StateForEvent event with
  | none =>
    obtain ⟨-, hconnected, hdisconnected⟩ := no_reason_of_none hl2
    simp [hconnected, hdisconnected, hfailed, hreason]
  | some l2 =>
    by_cases hnow : l2 = .failed
    · obtain ⟨hsome, hconnected, hdisconnected⟩ := reason_of_failed (hnow ▸ hl2)
      simp [hconnected, hdisconnected, hnow, hsome]
    · simp [hnow, hreason]

/-- The channel operations clear the reason and fail no link. -/
theorem perform_channel {op : MonitorOperation} (hop : ∀ text, op ≠ .event text) :
    (op.perform s).ReasonIffFailed := by
  cases op with
  | event text => exact absurd rfl (hop text)
  | attached reply =>
    unfold MonitorOperation.perform
    dsimp only
    cases hstatus : reply.bind parseWpaStatusReply with
    | none => exact WpaEventFact.reasonIffFailed_of_cleared rfl nofun
    | some status =>
      obtain ⟨text, -, hparse⟩ := Option.bind_eq_some_iff.mp hstatus
      exact WpaEventFact.reasonIffFailed_of_cleared rfl (parseWpaStatusReply_ne_failed hparse)
  | channelLost =>
    show s.markChannelUnavailable.ReasonIffFailed
    unfold WpaEventFact.markChannelUnavailable
    dsimp only
    split <;> exact WpaEventFact.reasonIffFailed_of_cleared rfl nofun

/-- **One operation keeps the coupling exactly if it replaces the failure that it meets.** -/
theorem perform_reasonIffFailed (op : MonitorOperation) (h : s.ReasonIffFailed) :
    (op.perform s).ReasonIffFailed ↔ (s.l2State = .failed → op.replacesFailure = true) := by
  cases op with
  | event text =>
    by_cases hfailed : s.l2State = .failed
    · rw [forall_prop_of_true hfailed]
      exact updateEvent_of_failed text h hfailed
    · exact iff_of_true (updateEvent_of_not_failed text h hfailed) fun hnow => absurd hnow hfailed
  | attached reply => exact iff_of_true (perform_channel (fun _ h => nomatch h)) fun _ => rfl
  | channelLost => exact iff_of_true (perform_channel (fun _ h => nomatch h)) fun _ => rfl

end Operations

/-! ### Runs -/

theorem observed_append (done : List MonitorOperation) (op : MonitorOperation) (s : WpaEventFact) :
    observed (done ++ [op]) s = op.perform (observed done s) := by
  unfold observed
  rw [List.foldl_append]
  rfl

/-- **The reason is there exactly while the link is failed, in every state of a run, if and only if
every failure of the run is replaced by the operation that follows it.** -/
theorem reason_iff_failed_iff (operations : List MonitorOperation) :
    (∀ done, done <+: operations → (observed done {}).ReasonIffFailed) ↔
      FailuresReplaced operations := by
  constructor
  · rintro h done op rest rfl
    have hbefore := h done (List.prefix_append _ _)
    have hafter := h (done ++ [op]) ⟨rest, by rw [List.append_assoc]; rfl⟩
    rw [observed_append] at hafter
    exact (perform_reasonIffFailed op hbefore).mp hafter
  · intro h done
    induction done using List.reverseRecOn with
    | nil => exact fun _ => by decide
    | append_singleton done op ih =>
      rintro ⟨rest, rfl⟩
      rw [observed_append]
      have hbefore := ih ⟨op :: rest, by rw [List.append_assoc]; rfl⟩
      refine (perform_reasonIffFailed op hbefore).mpr (h done op rest ?_)
      rw [List.append_assoc]
      rfl

/-- A scan after a rejected association clears the reason of a link that stays failed. -/
theorem scan_erases_reason :
    ¬∀ operations : List MonitorOperation, ∀ done, done <+: operations →
      (observed done {}).ReasonIffFailed := by
  intro h
  have hscan := h [.event "CTRL-EVENT-ASSOC-REJECT status_code=1",
    .event "CTRL-EVENT-SCAN-STARTED "] _ List.prefix_rfl
  revert hscan
  decide +kernel

end NetworkService.Wifi
