import NetworkService.Wifi.EventMonitor

/-!
# What the name of a network does to an event

Many events carry the name of a network inside their text, and the keywords are searched in the whole
of it.  Two names lead to the same classification exactly if the same telling keywords are found with
either of them; a keyword in the name, or a `CTRL-EVENT-` that makes the monitor cut off what stands
before it, redirects the event.
-/

namespace NetworkService.Wifi

/-- What an event does to the link state, to the counters and to the link state handler. -/
structure Classified where
  l2State : WifiL2State
  scanStartedEvents : UInt32
  scanResultEvents : UInt32
  scanFailedEvents : UInt32
  connectEvents : UInt32
  disconnectEvents : UInt32
  linkStateCall : Option Bool
  deriving DecidableEq

/-- The classification of a received event in the state `s`. -/
def classify (event : String) (s : WpaEventFact) : Classified :=
  let received := receiveEvent event s
  { l2State := received.1.l2State
    scanStartedEvents := received.1.scanStartedEvents
    scanResultEvents := received.1.scanResultEvents
    scanFailedEvents := received.1.scanFailedEvents
    connectEvents := received.1.connectEvents
    disconnectEvents := received.1.disconnectEvents
    linkStateCall := received.2 }

/-- One of the keywords is found. -/
def mentionsAny (event : String) (keywords : List String) : Bool := keywords.any (mentions event)

/-- The keywords of the link states, in the order in which they are looked for. -/
def l2Keywords : List (List String × WifiL2State) :=
  [(["Trying to associate"], .associating),
   (["Associated with"], .associated),
   (["4-Way Handshake", "Key negotiation completed", "WPA: Key negotiation"], .handshake),
   (["CTRL-EVENT-CONNECTED"], .connected),
   (["CTRL-EVENT-DISCONNECTED"], .disconnected),
   (["CTRL-EVENT-SSID-TEMP-DISABLED", "CTRL-EVENT-ASSOC-REJECT", "CTRL-EVENT-AUTH-REJECT",
     "WRONG_KEY"], .failed)]

/-- The keywords that count whatever else is found. -/
def countedKeywords : List String :=
  ["CTRL-EVENT-SCAN-STARTED", "CTRL-EVENT-SCAN-RESULTS", "CTRL-EVENT-SCAN-FAILED",
   "CTRL-EVENT-CONNECTED"]

/-- One of the keywords that are looked for in the first `n` places is found. -/
def mentionsEarly (event : String) (cascade : List (List String × WifiL2State)) (n : ℕ) : Bool :=
  (cascade.take n).any fun entry => mentionsAny event entry.1

/-- **The same telling keywords are found in both events**: the counted ones, a disconnect unless it
stands beside a connect, and a keyword in the first `n` places of the link states, for every `n`. -/
structure SameKeywords (event event' : String) : Prop where
  counted : ∀ keyword ∈ countedKeywords, mentions event keyword = mentions event' keyword
  disconnected : mentions event "CTRL-EVENT-CONNECTED" = false →
    mentions event "CTRL-EVENT-DISCONNECTED" = mentions event' "CTRL-EVENT-DISCONNECTED"
  l2 : ∀ n, mentionsEarly event l2Keywords n = mentionsEarly event' l2Keywords n

/-! ### The cascade -/

/-- The state of the first entry of which a keyword is found. -/
def firstMentioned (event : String) : List (List String × WifiL2State) → Option WifiL2State
  | [] => none
  | (keywords, l2) :: cascade =>
    if mentionsAny event keywords then some l2 else firstMentioned event cascade

theorem l2StateForEvent_eq (event : String) :
    l2StateForEvent event = firstMentioned event l2Keywords := by
  unfold l2StateForEvent
  simp only [firstMentioned, l2Keywords, mentionsAny, List.any_cons, List.any_nil, Bool.or_false,
    Bool.or_assoc]

theorem firstMentioned_mem {event : String} {cascade : List (List String × WifiL2State)}
    {l2 : WifiL2State} (h : firstMentioned event cascade = some l2) :
    l2 ∈ cascade.map Prod.snd := by
  induction cascade with
  | nil => cases h
  | cons entry cascade ih =>
    unfold firstMentioned at h
    split at h
    · cases h
      exact List.mem_cons_self
    · exact List.mem_cons_of_mem _ (ih h)

/-- Where every entry has a state of its own, the state found tells how far the search went. -/
theorem firstMentioned_eq_iff (event event' : String) (cascade : List (List String × WifiL2State))
    (hstates : (cascade.map Prod.snd).Nodup) :
    firstMentioned event cascade = firstMentioned event' cascade ↔
      ∀ n, mentionsEarly event cascade n = mentionsEarly event' cascade n := by
  induction cascade with
  | nil => exact iff_of_true rfl fun n => by simp only [mentionsEarly, List.take_nil, List.any_nil]
  | cons entry cascade ih =>
    obtain ⟨hnew, hstates⟩ := List.nodup_cons.mp hstates
    have hearly : ∀ (event : String) (n : ℕ), mentionsEarly event (entry :: cascade) (n + 1) =
        (mentionsAny event entry.1 || mentionsEarly event cascade n) := fun _ _ => rfl
    have hfirst : ∀ event : String, firstMentioned event (entry :: cascade) =
        if mentionsAny event entry.1 then some entry.2 else firstMentioned event cascade :=
      fun _ => rfl
    rw [hfirst, hfirst]
    cases hhere : mentionsAny event entry.1 with
    | true =>
      cases hhere' : mentionsAny event' entry.1 with
      | true =>
        refine iff_of_true rfl fun n => ?_
        cases n with
        | zero => rfl
        | succ n => rw [hearly, hearly, hhere, hhere', Bool.true_or, Bool.true_or]
      | false =>
        refine iff_of_false (fun h => hnew (firstMentioned_mem h.symm)) fun h => ?_
        have hone := h 1
        rw [hearly, hearly, hhere, hhere'] at hone
        exact nomatch hone
    | false =>
      cases hhere' : mentionsAny event' entry.1 with
      | true =>
        refine iff_of_false (fun h => hnew (firstMentioned_mem h)) fun h => ?_
        have hone := h 1
        rw [hearly, hearly, hhere, hhere'] at hone
        exact nomatch hone
      | false =>
        refine (ih hstates).trans ⟨fun h n => ?_, fun h n => ?_⟩
        · cases n with
          | zero => rfl
          | succ n => rw [hearly, hearly, hhere, hhere', h n]
        · have hnext := h (n + 1)
          rw [hearly, hearly, hhere, hhere', Bool.false_or, Bool.false_or] at hnext
          exact hnext

/-! ### Two events -/

section TwoEvents

variable {event event' : String}

theorem l2StateForEvent_eq_iff : l2StateForEvent event = l2StateForEvent event' ↔
    ∀ n, mentionsEarly event l2Keywords n = mentionsEarly event' l2Keywords n := by
  rw [l2StateForEvent_eq, l2StateForEvent_eq]
  exact firstMentioned_eq_iff event event' l2Keywords (by decide)

theorem linkStateCall_eq_iff : linkStateCall event = linkStateCall event' ↔
    mentions event "CTRL-EVENT-CONNECTED" = mentions event' "CTRL-EVENT-CONNECTED" ∧
      (mentions event "CTRL-EVENT-CONNECTED" = false →
        mentions event "CTRL-EVENT-DISCONNECTED" = mentions event' "CTRL-EVENT-DISCONNECTED") := by
  unfold linkStateCall
  grind

/-- What an event writes, seen from every state. -/
theorem classify_eq (s : WpaEventFact) (event : String) : classify event s =
    { l2State := (l2StateForEvent (normalizeEvent event)).getD s.l2State
      scanStartedEvents :=
        if mentions (normalizeEvent event) "CTRL-EVENT-SCAN-STARTED" then s.scanStartedEvents + 1
        else s.scanStartedEvents
      scanResultEvents :=
        if mentions (normalizeEvent event) "CTRL-EVENT-SCAN-RESULTS" then s.scanResultEvents + 1
        else s.scanResultEvents
      scanFailedEvents :=
        if mentions (normalizeEvent event) "CTRL-EVENT-SCAN-FAILED" then s.scanFailedEvents + 1
        else s.scanFailedEvents
      connectEvents :=
        if mentions (normalizeEvent event) "CTRL-EVENT-CONNECTED" then s.connectEvents + 1
        else s.connectEvents
      disconnectEvents :=
        if linkStateCall (normalizeEvent event) = some false then s.disconnectEvents + 1
        else s.disconnectEvents
      linkStateCall := linkStateCall (normalizeEvent event) } := by
  unfold classify receiveEvent
  rw [s.updateEvent_eq (normalizeEvent event)]

end TwoEvents

/-- A counter tells whether it was raised. -/
theorem counted_eq {b b' : Bool}
    (h : (if b then (0 : UInt32) + 1 else 0) = if b' then 0 + 1 else 0) : b = b' := by
  cases b <;> cases b' <;> first | rfl | exact absurd h (by decide)

/-- **Two names are classified alike, in every state, if and only if the same telling keywords are
found with either of them.** -/
theorem classified_alike_iff (before behind ssid ssid' : String) :
    (∀ s, classify (before ++ ssid ++ behind) s =
        classify (before ++ ssid' ++ behind) s) ↔
      SameKeywords (normalizeEvent (before ++ ssid ++ behind))
        (normalizeEvent (before ++ ssid' ++ behind)) := by
  generalize hevent : before ++ ssid ++ behind = event
  generalize hevent' : before ++ ssid' ++ behind = event'
  constructor
  · intro h
    have hfresh := h {}
    rw [classify_eq, classify_eq, Classified.mk.injEq] at hfresh
    obtain ⟨-, hstarted, hresults, hfailed, -, -, hcall⟩ := hfresh
    obtain ⟨hconnected, hdisconnected⟩ := linkStateCall_eq_iff.mp hcall
    refine ⟨?_, hdisconnected, l2StateForEvent_eq_iff.mp ?_⟩
    · intro keyword hkeyword
      simp only [countedKeywords, List.mem_cons, List.not_mem_nil, or_false] at hkeyword
      rcases hkeyword with rfl | rfl | rfl | rfl
      · exact counted_eq hstarted
      · exact counted_eq hresults
      · exact counted_eq hfailed
      · exact hconnected
    · -- a state that is kept shows in one of two states before
      have hl2 : ∀ l2, (l2StateForEvent (normalizeEvent event)).getD l2 =
          (l2StateForEvent (normalizeEvent event')).getD l2 := by
        intro l2
        have hprior := h { l2State := l2 }
        rw [classify_eq, classify_eq, Classified.mk.injEq] at hprior
        exact hprior.1
      have hunknown := hl2 .unknown
      have hdisabled := hl2 .disabled
      revert hunknown hdisabled
      cases l2StateForEvent (normalizeEvent event) with
      | none =>
        cases l2StateForEvent (normalizeEvent event') with
        | none => exact fun _ _ => rfl
        | some l2' => exact fun hunknown hdisabled => nomatch hunknown.trans hdisabled.symm
      | some l2 =>
        cases l2StateForEvent (normalizeEvent event') with
        | none => exact fun hunknown hdisabled => nomatch hunknown.symm.trans hdisabled
        | some l2' => exact fun hunknown _ => congrArg some hunknown
  · intro h s
    rw [classify_eq, classify_eq, l2StateForEvent_eq_iff.mpr h.l2,
      linkStateCall_eq_iff.mpr ⟨h.counted _ (by decide), h.disconnected⟩,
      h.counted "CTRL-EVENT-SCAN-STARTED" (by decide), h.counted "CTRL-EVENT-SCAN-RESULTS" (by decide),
      h.counted "CTRL-EVENT-SCAN-FAILED" (by decide), h.counted "CTRL-EVENT-CONNECTED" (by decide)]

/-- A network named like a keyword connects the link by being tried. -/
theorem keyword_name_connects :
    ¬∀ (before behind ssid ssid' : String) (s : WpaEventFact),
      classify (before ++ ssid ++ behind) s =
        classify (before ++ ssid' ++ behind) s := by
  intro h
  have hcall := congrArg Classified.linkStateCall
    (h "<3>Trying to associate with 02:00:00:00:00:01 (SSID='" "' freq=2412 MHz)" "home"
      "CTRL-EVENT-CONNECTED" {})
  revert hcall
  decide +kernel

end NetworkService.Wifi
