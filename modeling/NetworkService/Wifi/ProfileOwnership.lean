import NetworkService.Wifi.SupplicantProfiles

/-!
# Every created profile is owned or removed

The id that ADD_NETWORK answers belongs to the backend until `wifi_create_profile` returns it, and to
the policy until the activation succeeds.  Whichever of the two sees a failure removes the profile,
once, and reports that failure.

A computation is `Candid` if it ends normally as long as no mandatory step fails, stops with the error
of the first that does, and leaves ids alone; this survives sequencing, so each part is looked at once.
-/

namespace NetworkService.Wifi

open Fallible Platform

/-! ### What a log says -/

/-- The outcome of a command that must be answered by OK. -/
def okFailure (reply : Except String String) : Option String :=
  match reply with
  | .error e => some e
  | .ok text => if trimReply text = "OK" then none else some ("wpa_supplicant returned: " ++ trimReply text)

/-- The id that ADD_NETWORK answered. -/
def answeredId (reply : Except String String) : Option ℕ :=
  match reply with
  | .error _ => none
  | .ok text => parseNetworkId (trimReply text)

def addFailure (reply : Except String String) : Option String :=
  match reply with
  | .error e => some e
  | .ok text =>
    match parseNetworkId (trimReply text) with
    | some _ => none
    | none => some ("invalid ADD_NETWORK result: " ++ trimReply text)

/-- The error of a mandatory step that failed; isolating, saving and removing are best-effort. -/
def BackendStep.failure : BackendStep → Option String
  | .interfaceUp (.error e) => some e
  | .interfaceUp (.ok _) => none
  | .quote _ (.error e) => some e
  | .quote _ (.ok _) => none
  | .request .addNetwork reply => addFailure reply
  | .request (.setNetwork _ _ _) reply => okFailure reply
  | .request (.enableNetwork _) reply => okFailure reply
  | .request (.selectNetwork _) reply => okFailure reply
  | .request _ _ => none

def firstFailure : BackendLog → Option String
  | [] => none
  | step :: earlier => (firstFailure earlier).or step.failure

def BackendStep.added : BackendStep → Option ℕ
  | .request .addNetwork reply => answeredId reply
  | _ => none

/-- The ids that ADD_NETWORK answered, newest first. -/
def addedIds (log : BackendLog) : List ℕ := log.filterMap BackendStep.added

def BackendStep.removed : BackendStep → Option ℕ
  | .request (.removeNetwork networkId) _ => some networkId
  | _ => none

/-- The ids that REMOVE_NETWORK was sent for, newest first. -/
def removedIds (log : BackendLog) : List ℕ := log.filterMap BackendStep.removed

/-- The failure came first, then the one removal of each id that was answered. -/
def Released (e : String) (log : BackendLog) : Prop :=
  ∃ later earlier, log = later ++ earlier ∧ firstFailure earlier = some e ∧ removedIds earlier = [] ∧
    removedIds later = addedIds log ∧ (addedIds log).length ≤ 1

@[simp] theorem addedIds_cons (step : BackendStep) (log : BackendLog) :
    addedIds (step :: log) = step.added.toList ++ addedIds log := by
  unfold addedIds
  cases hadded : step.added with
  | none => rw [List.filterMap_cons_none hadded, Option.toList_none, List.nil_append]
  | some networkId => rw [List.filterMap_cons_some hadded]; rfl

@[simp] theorem removedIds_cons (step : BackendStep) (log : BackendLog) :
    removedIds (step :: log) = step.removed.toList ++ removedIds log := by
  unfold removedIds
  cases hremoved : step.removed with
  | none => rw [List.filterMap_cons_none hremoved, Option.toList_none, List.nil_append]
  | some networkId => rw [List.filterMap_cons_some hremoved]; rfl

/-! ### Candid computations -/

/-- The ids that were added and those that were removed. -/
def profileIds (log : BackendLog) : List ℕ × List ℕ := (addedIds log, removedIds log)

/-- It reports the first mandatory step that fails, and leaves ids alone. -/
def Candid {α : Type} (m : EStateM String BackendLog α) : Prop :=
  ∀ log, firstFailure log = none →
    wp m (fun _ log' => firstFailure log' = none ∧ profileIds log' = profileIds log)
      (fun e log' => firstFailure log' = some e ∧ profileIds log' = profileIds log) log

section Candid

variable {α β : Type} {m : EStateM String BackendLog α} {f : α → EStateM String BackendLog β}

theorem Candid.pure (a : α) : Candid (Pure.pure a : EStateM String BackendLog α) :=
  fun _ h => ⟨h, rfl⟩

theorem Candid.bind (hm : Candid m) (hf : ∀ a, Candid (f a)) : Candid (m >>= f) := by
  intro log hlog
  rw [wp_bind]
  apply wp_mono (hm log hlog)
  · intro a log₁ ⟨hnone, hids⟩
    apply wp_mono (hf a log₁ hnone)
    · intro b log₂ ⟨hnone₂, hids₂⟩
      exact ⟨hnone₂, hids₂.trans hids⟩
    · intro e log₂ ⟨hfailed, hids₂⟩
      exact ⟨hfailed, hids₂.trans hids⟩
  · intro e log₁ h
    exact h

/-- A step that is noted with its outcome, without an id. -/
theorem Candid.of_step
    (hm : ∀ log, wp m (fun _ log' => ∃ step : BackendStep, log' = step :: log ∧ step.failure = none ∧
        step.added = none ∧ step.removed = none)
      (fun e log' => ∃ step : BackendStep, log' = step :: log ∧ step.failure = some e ∧
        step.added = none ∧ step.removed = none) log) : Candid m := by
  intro log hlog
  apply wp_mono (hm log)
  · intro a log' ⟨step, hlog', hfailure, hadded, hremoved⟩
    subst hlog'
    exact ⟨by rw [firstFailure, hlog, hfailure]; rfl, by
      simp only [profileIds, addedIds_cons, removedIds_cons, hadded, hremoved, Option.toList_none,
        List.nil_append]⟩
  · intro e log' ⟨step, hlog', hfailure, hadded, hremoved⟩
    subst hlog'
    exact ⟨by rw [firstFailure, hlog, hfailure]; rfl, by
      simp only [profileIds, addedIds_cons, removedIds_cons, hadded, hremoved, Option.toList_none,
        List.nil_append]⟩

end Candid

/-! ### The functions of the backend -/

section Backend

variable {world : BackendWorld} {iface : String}

theorem candid_note {α : Type} {step : BackendStep} {outcome : Except String α}
    (hfailure : step.failure = match outcome with | .ok _ => none | .error e => some e)
    (hadded : step.added = none) (hremoved : step.removed = none) : Candid (note step outcome) := by
  apply Candid.of_step
  intro log
  cases outcome with
  | ok a => exact ⟨step, rfl, hfailure, hadded, hremoved⟩
  | error e => exact ⟨step, rfl, hfailure, hadded, hremoved⟩

theorem candid_wifiEnsureInterfaceUp : Candid (wifiEnsureInterfaceUp world iface) := by
  intro log hlog
  apply candid_note _ rfl rfl log hlog
  cases interfaceUp world iface log with
  | ok u => rfl
  | error e => rfl

/-- Only a safe interface comes up. -/
theorem wp_wifiEnsureInterfaceUp (log : BackendLog) :
    wp (wifiEnsureInterfaceUp world iface) (fun _ _ => isSafeIface iface = true) (fun _ _ => True)
      log := by
  unfold wp wifiEnsureInterfaceUp note interfaceUp
  cases hsafe : isSafeIface iface with
  | true => split <;> trivial
  | false => trivial

theorem candid_quoteValue (value : String) : Candid (quoteValue value) := by
  apply candid_note _ rfl rfl
  cases wpaQuote value with
  | ok quoted => rfl
  | error e => rfl

theorem wp_wpaRequest (hsafe : isSafeIface iface = true) (command : WpaCommand) (log : BackendLog) :
    wp (wpaRequest world iface command) (fun text log' => log' = .request command (.ok text) :: log)
      (fun e log' => log' = .request command (.error e) :: log) log := by
  unfold wp wpaRequest
  rw [if_pos hsafe]
  unfold note
  cases world.request log command.text with
  | ok text => rfl
  | error e => rfl

/-- A command ends as its reply says. -/
theorem wp_wpaOk (hsafe : isSafeIface iface = true) (command : WpaCommand) (log : BackendLog) :
    wp (wpaOk world iface command)
      (fun _ log' => ∃ reply, log' = .request command reply :: log ∧ okFailure reply = none)
      (fun e log' => ∃ reply, log' = .request command reply :: log ∧ okFailure reply = some e)
      log := by
  unfold wpaOk
  rw [wp_bind]
  apply wp_mono (wp_wpaRequest hsafe command log)
  · intro text log' hlog'
    apply wp_split
    · intro hok
      exact ⟨.ok text, hlog', if_pos hok⟩
    · intro hok
      exact ⟨.ok text, hlog', if_neg hok⟩
  · intro e log' hlog'
    exact ⟨.error e, hlog', rfl⟩

/-- A mandatory command that concerns no id. -/
theorem candid_wpaOk (hsafe : isSafeIface iface = true) {command : WpaCommand}
    (hfailure : ∀ reply, (BackendStep.request command reply).failure = okFailure reply)
    (hadded : ∀ reply, (BackendStep.request command reply).added = none)
    (hremoved : ∀ reply, (BackendStep.request command reply).removed = none) :
    Candid (wpaOk world iface command) := by
  apply Candid.of_step
  intro log
  apply wp_mono (wp_wpaOk hsafe command log)
  · intro u log' ⟨reply, hlog', hok⟩
    exact ⟨_, hlog', (hfailure reply).trans hok, hadded reply, hremoved reply⟩
  · intro e log' ⟨reply, hlog', hfailed⟩
    exact ⟨_, hlog', (hfailure reply).trans hfailed, hadded reply, hremoved reply⟩

theorem candid_setNetwork (hsafe : isSafeIface iface = true) (networkId : ℕ) (field value : String) :
    Candid (wpaOk world iface (.setNetwork networkId field value)) :=
  candid_wpaOk hsafe (fun _ => rfl) (fun _ => rfl) (fun _ => rfl)

theorem candid_configureProfile (hsafe : isSafeIface iface = true) (networkId : ℕ)
    (ssid password : String) : Candid (configureProfile world iface networkId ssid password) := by
  apply Candid.bind (candid_quoteValue ssid)
  intro quotedSsid
  apply Candid.bind (candid_setNetwork hsafe networkId "ssid" quotedSsid)
  intro u
  split
  · exact candid_setNetwork hsafe networkId "key_mgmt" "NONE"
  · apply Candid.bind (candid_quoteValue password)
    intro quotedPsk
    exact candid_setNetwork hsafe networkId "psk" quotedPsk

/-- An answered id is in the range that every port takes. -/
theorem parseNetworkId_le {value : String} {networkId : ℕ} (h : parseNetworkId value = some networkId) :
    networkId ≤ 4096 := by
  unfold parseNetworkId at h
  split at h
  · split at h
    · cases h
      omega
    · cases h
  · split at h
    · next hvalue =>
      cases h
      exact hvalue.2
    · cases h
  · split at h
    · next hvalue =>
      cases h
      exact hvalue.2
    · cases h

/-- The id that ADD_NETWORK answered, or its failure. -/
theorem wp_wpaAddNetwork (hsafe : isSafeIface iface = true) (log : BackendLog) :
    wp (wpaAddNetwork world iface)
      (fun networkId log' => networkId ≤ 4096 ∧ ∃ step : BackendStep, log' = step :: log ∧
        step.failure = none ∧ step.added = some networkId ∧ step.removed = none)
      (fun e log' => ∃ step : BackendStep, log' = step :: log ∧ step.failure = some e ∧
        step.added = none ∧ step.removed = none) log := by
  unfold wpaAddNetwork
  rw [wp_bind]
  apply wp_mono (wp_wpaRequest hsafe .addNetwork log)
  · intro text log' hlog'
    cases hid : parseNetworkId (trimReply text) with
    | none =>
      refine ⟨_, hlog', ?_, hid, rfl⟩
      show addFailure (.ok text) = _
      rw [addFailure, hid]
    | some networkId =>
      refine ⟨parseNetworkId_le hid, _, hlog', ?_, hid, rfl⟩
      show addFailure (.ok text) = _
      rw [addFailure, hid]
  · intro e log' hlog'
    exact ⟨_, hlog', rfl, rfl, rfl⟩

/-! ### Who owns the profile -/

/-- A profile was added, nothing failed and nothing was removed. -/
def Holding (networkId : ℕ) (log : BackendLog) : Prop :=
  networkId ≤ 4096 ∧ firstFailure log = none ∧ profileIds log = ([networkId], [])

theorem addedIds_append (later earlier : BackendLog) :
    addedIds (later ++ earlier) = addedIds later ++ addedIds earlier := List.filterMap_append

/-- Where nothing was added there is nothing to remove. -/
theorem released_of_unadded {e : String} {log : BackendLog} (hfailed : firstFailure log = some e)
    (hids : profileIds log = ([], [])) : Released e log := by
  have hadded : addedIds log = [] := congrArg Prod.fst hids
  have hremoved : removedIds log = [] := congrArg Prod.snd hids
  exact ⟨[], log, rfl, hfailed, hremoved, hadded.symm, by rw [hadded]; exact Nat.zero_le 1⟩

/-- After a failure the profile is removed, once. -/
theorem released_of_removed {e : String} {networkId : ℕ} (later : BackendLog) {log : BackendLog}
    (hfailed : firstFailure log = some e) (hids : profileIds log = ([networkId], []))
    (hremoved : removedIds later = [networkId]) (hadded : addedIds later = []) :
    Released e (later ++ log) := by
  have hids₁ : addedIds log = [networkId] := congrArg Prod.fst hids
  have hall : addedIds (later ++ log) = [networkId] := by
    rw [addedIds_append, hadded, hids₁]
    rfl
  refine ⟨later, log, rfl, hfailed, congrArg Prod.snd hids, ?_, ?_⟩
  · rw [hremoved, hall]
  · rw [hall]
    exact Nat.le_refl 1

/-- The backend removes the profile that it cannot configure. -/
theorem wp_wifiCreateProfile (hsafe : isSafeIface iface = true) {ssid password : String}
    (hssid : ssid ≠ "") {log : BackendLog} (hlog : firstFailure log = none)
    (hids : profileIds log = ([], [])) :
    wp (wifiCreateProfile world iface ssid password) Holding Released log := by
  unfold wifiCreateProfile
  rw [wp_bind, wp_require, if_pos hsafe, wp_bind, wp_require, if_pos (decide_eq_true hssid), wp_bind]
  have hadded : addedIds log = [] := congrArg Prod.fst hids
  have hremoved : removedIds log = [] := congrArg Prod.snd hids
  apply wp_mono (wp_wpaAddNetwork hsafe log)
  · intro networkId log₁ ⟨hbound, step, hlog₁, hfailure, hadd, hremove⟩
    have hlog₁none : firstFailure log₁ = none := by rw [hlog₁, firstFailure, hlog, hfailure]; rfl
    have hids₁ : profileIds log₁ = ([networkId], []) := by
      rw [hlog₁, profileIds, addedIds_cons, removedIds_cons, hadd, hremove, hadded, hremoved]
      rfl
    rw [wp_bind, wp_attempt]
    apply wp_mono (candid_configureProfile hsafe networkId ssid password log₁ hlog₁none)
    · intro u log₂ ⟨hnone, hsame⟩
      exact ⟨hbound, hnone, hsame.trans hids₁⟩
    · intro e log₂ ⟨hfailed, hsame⟩
      show wp (attempt (wpaOk world iface (.removeNetwork networkId)) >>= fun _ => throw e) _ _ log₂
      rw [wp_bind, wp_attempt]
      have hreleased : ∀ reply, Released e (.request (.removeNetwork networkId) reply :: log₂) :=
        fun reply => released_of_removed [_] hfailed (hsame.trans hids₁) rfl rfl
      apply wp_mono (wp_wpaOk hsafe (.removeNetwork networkId) log₂)
      · intro u log₃ ⟨reply, hlog₃, _⟩
        rw [hlog₃]
        exact hreleased reply
      · intro e' log₃ ⟨reply, hlog₃, _⟩
        rw [hlog₃]
        exact hreleased reply
  · intro e log₁ ⟨step, hlog₁, hfailure, hadd, hremove⟩
    apply released_of_unadded
    · rw [hlog₁, firstFailure, hlog, hfailure]
      rfl
    · rw [hlog₁, profileIds, addedIds_cons, removedIds_cons, hadd, hremove, hadded, hremoved]
      rfl

/-- A command whose outcome is ignored leaves its request in the log. -/
theorem wp_bestEffort (hsafe : isSafeIface iface = true) (command : WpaCommand) (log : BackendLog) :
    wp (bestEffort (some (wpaOk world iface command)))
      (fun _ log' => ∃ reply, log' = .request command reply :: log) (fun _ _ => False) log := by
  show wp (attempt (wpaOk world iface command) >>= fun _ => pure ()) _ _ log
  rw [wp_bind, wp_attempt]
  apply wp_mono (wp_wpaOk hsafe command log)
  · intro u log' ⟨reply, hlog', _⟩
    exact ⟨reply, hlog'⟩
  · intro e log' ⟨reply, hlog', _⟩
    exact ⟨reply, hlog'⟩

theorem candid_bestEffort (hsafe : isSafeIface iface = true) {command : WpaCommand}
    (hfailure : ∀ reply, (BackendStep.request command reply).failure = none)
    (hadded : ∀ reply, (BackendStep.request command reply).added = none)
    (hremoved : ∀ reply, (BackendStep.request command reply).removed = none) :
    Candid (bestEffort (some (wpaOk world iface command))) := by
  apply Candid.of_step
  intro log
  apply wp_mono (wp_bestEffort hsafe command log)
  · intro u log' ⟨reply, hlog'⟩
    exact ⟨_, hlog', hfailure reply, hadded reply, hremoved reply⟩
  · intro e log' h
    exact h.elim

/-- For a valid id the check of a profile command is idle. -/
theorem profileCommand_eq {networkId : ℕ} (hbound : networkId ≤ 4096) (command : ℕ → WpaCommand) :
    profileCommand world iface command networkId = wpaOk world iface (command networkId) := by
  unfold profileCommand
  rw [decide_eq_true hbound]
  rfl

theorem candid_activateProfile (hsafe : isSafeIface iface = true) {networkId : ℕ}
    (hbound : networkId ≤ 4096) :
    Candid (activateProfile (profileOps world iface) networkId true) := by
  show Candid (bestEffort (some (wpaOk world iface .disableAll)) >>= fun _ =>
    profileCommand world iface .enableNetwork networkId >>= fun _ =>
    profileCommand world iface .selectNetwork networkId >>= fun _ =>
    bestEffort (some (wpaOk world iface .saveConfig)))
  rw [profileCommand_eq hbound, profileCommand_eq hbound]
  apply Candid.bind (candid_bestEffort hsafe (fun _ => rfl) (fun _ => rfl) (fun _ => rfl))
  intro _
  apply Candid.bind (candid_wpaOk hsafe (fun _ => rfl) (fun _ => rfl) (fun _ => rfl))
  intro _
  apply Candid.bind (candid_wpaOk hsafe (fun _ => rfl) (fun _ => rfl) (fun _ => rfl))
  intro _
  exact candid_bestEffort hsafe (fun _ => rfl) (fun _ => rfl) (fun _ => rfl)

/-- The policy removes the profile; it saves that if the removal left no error text. -/
theorem wp_rollBackProfile (hsafe : isSafeIface iface = true) {networkId : ℕ}
    (hbound : networkId ≤ 4096) (log : BackendLog) :
    wp (rollBackProfile (profileOps world iface) networkId)
      (fun _ log' => ∃ later, log' = later ++ log ∧ removedIds later = [networkId] ∧
        addedIds later = [])
      (fun _ _ => False) log := by
  unfold rollBackProfile profileOps
  dsimp only
  rw [profileCommand_eq hbound, wp_bind, wp_attempt]
  have hsaved : ∀ reply, wp (bestEffort (some (wpaOk world iface .saveConfig)))
      (fun _ log' => ∃ later, log' = later ++ log ∧ removedIds later = [networkId] ∧
        addedIds later = [])
      (fun _ _ => False) (.request (.removeNetwork networkId) reply :: log) := by
    intro reply
    apply wp_mono (wp_bestEffort hsafe .saveConfig _)
    · intro u log' hsent
      obtain ⟨reply', hlog'⟩ := hsent
      exact ⟨[_, _], hlog', rfl, rfl⟩
    · intro e log' h
      exact h
  apply wp_mono (wp_wpaOk hsafe (.removeNetwork networkId) log)
  · intro u log' hsent
    obtain ⟨reply, hlog', -⟩ := hsent
    rw [hlog']
    exact hsaved reply
  · intro e log' hsent
    obtain ⟨reply, hlog', -⟩ := hsent
    rw [hlog']
    show wp (when (e = "") (bestEffort (some (wpaOk world iface .saveConfig)))) _ _ _
    rw [wp_when]
    split
    · exact hsaved reply
    · exact ⟨[_], rfl, rfl, rfl⟩

/-- The policy keeps the profile or removes it. -/
theorem wp_activateOrRollBack (hsafe : isSafeIface iface = true) {networkId : ℕ} {log : BackendLog}
    (h : Holding networkId log) :
    wp (activateOrRollBack (profileOps world iface) networkId)
      (fun _ log' => firstFailure log' = none ∧ removedIds log' = []) Released log := by
  obtain ⟨hbound, hnone, hids⟩ := h
  unfold activateOrRollBack
  rw [wp_bind, wp_attempt]
  apply wp_mono (candid_activateProfile hsafe hbound log hnone)
  · intro u log' ⟨hnone', hids'⟩
    exact ⟨hnone', congrArg Prod.snd (hids'.trans hids)⟩
  · intro e log' ⟨hfailed, hids'⟩
    show wp (rollBackProfile (profileOps world iface) networkId >>= fun _ => throw e) _ _ log'
    rw [wp_bind]
    apply wp_mono (wp_rollBackProfile hsafe hbound log')
    · intro u log'' ⟨later, hlater, hremoved, hadded⟩
      rw [hlater]
      exact released_of_removed later hfailed (hids'.trans hids) hremoved hadded
    · intro e' log'' h
      exact h.elim

end Backend

/-- **Owned or removed.**  Whatever the shell and the supplicant answer, a connection that succeeds had
no failing mandatory step and removed nothing.  One that fails reports its first failing mandatory
step, and after that step it removed exactly the id that ADD_NETWORK answered, if it answered one, and
only once.  Without a name nothing is done. -/
theorem created_profile_owned_or_removed (world : BackendWorld) (iface ssid password : String) :
    wp (wifiConnect world iface ssid password)
      (fun _ log => firstFailure log = none ∧ removedIds log = [])
      (fun e log => if ssid = "" then e = "ssid is required" ∧ log = [] else Released e log) [] := by
  unfold wifiConnect connectNew
  by_cases hssid : ssid = ""
  · rw [if_pos hssid, wp_throw, if_pos hssid]
    exact ⟨rfl, rfl⟩
  · simp only [if_neg hssid]
    show wp (wifiEnsureInterfaceUp world iface >>= fun _ =>
      wifiCreateProfile world iface ssid password >>= fun networkId =>
      activateOrRollBack (profileOps world iface) networkId) _ _ []
    rw [wp_bind]
    apply wp_mono (wp_and (candid_wifiEnsureInterfaceUp [] rfl) (wp_wifiEnsureInterfaceUp []))
    · intro u log ⟨⟨hnone, hids⟩, hsafe⟩
      rw [wp_bind]
      apply wp_mono (wp_wifiCreateProfile hsafe hssid hnone hids)
      · intro networkId log' h
        exact wp_activateOrRollBack hsafe h
      · intro e log' h
        exact h
    · intro e log ⟨⟨hfailed, hids⟩, _⟩
      exact released_of_unadded hfailed hids

end NetworkService.Wifi
