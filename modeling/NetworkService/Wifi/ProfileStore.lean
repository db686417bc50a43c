import NetworkService.Wifi.ProfilePolicy

/-!
# What a failed connection does to the profiles

The ports of the policy over a store of profiles, one in memory and one saved, each call with its
documented effect or failing without one.  A failed activation comes after all profiles were
disabled; the rollback removes the new profile and saves what is left.  So the enabled flags of the
other profiles are lost, in memory and on disk.
-/

namespace NetworkService.Wifi

open Fallible

/-! ### The supplicant's profiles -/

structure WifiProfile where
  id : ℕ
  ssid : String
  password : String
  enabled : Bool
  deriving DecidableEq

/-- The profiles of the supplicant and those it would load after a restart. -/
structure ProfileStore where
  memory : List WifiProfile
  saved : List WifiProfile
  deriving DecidableEq

/-- Which ports fail, each with its error text.  In one call of the policy that fails no port is
called twice. -/
structure PortFailures where
  ensureInterfaceUp : Option String := none
  createProfile : Option String := none
  disableAllProfiles : Option String := none
  setProfileEnabled : Option String := none
  selectProfile : Option String := none
  removeProfile : Option String := none
  saveProfiles : Option String := none
  deriving DecidableEq

/-- A port that has its effect, or fails without one. -/
def portCall {α : Type} (failure : Option String) (result : ProfileStore → α)
    (effect : ProfileStore → ProfileStore) : EStateM String ProfileStore α := fun store =>
  match failure with
  | none => .ok (result store) (effect store)
  | some e => .error e store

def WifiProfile.setEnabled (enabled : Bool) (profile : WifiProfile) : WifiProfile :=
  { profile with enabled := enabled }

/-- The enabled flag of one profile is set. -/
def enableOne (networkId : ℕ) (enabled : Bool) (memory : List WifiProfile) : List WifiProfile :=
  memory.map fun profile => if profile.id = networkId then profile.setEnabled enabled else profile

/-- The first profile of the name. -/
def findBySsid (ssid : String) : EStateM String ProfileStore ℕ := fun store =>
  match store.memory.find? (·.ssid = ssid) with
  | some profile => .ok profile.id store
  | none => .error ("saved network not found: " ++ ssid) store

/-- The ports of the supplicant; `newId` is the id that a new profile gets. -/
def supplicantOps (newId : List WifiProfile → ℕ) (failures : PortFailures) :
    WifiProfilePolicyOps ProfileStore where
  ensureInterfaceUp := some (portCall failures.ensureInterfaceUp (fun _ => ()) id)
  createProfile := some fun ssid password =>
    portCall failures.createProfile (fun store => newId store.memory) fun store =>
      { store with memory := store.memory ++ [⟨newId store.memory, ssid, password, false⟩] }
  findProfile := some findBySsid
  disableAllProfiles := some (portCall failures.disableAllProfiles (fun _ => ()) fun store =>
    { store with memory := store.memory.map (WifiProfile.setEnabled false) })
  setProfileEnabled := some fun networkId enabled =>
    portCall failures.setProfileEnabled (fun _ => ()) fun store =>
      { store with memory := enableOne networkId enabled store.memory }
  selectProfile := some fun networkId =>
    portCall failures.selectProfile (fun _ => ()) fun store =>
      { store with memory := enableOne networkId true store.memory }
  removeProfile := some fun networkId =>
    portCall failures.removeProfile (fun _ => ()) fun store =>
      { store with memory := store.memory.filter (·.id ≠ networkId) }
  saveProfiles := some (portCall failures.saveProfiles (fun _ => ()) fun store =>
    { store with saved := store.memory })

/-! ### Removing what was added -/

/-- Whatever was done to the flag of one profile is gone with it. -/
theorem filter_enableOne (networkId : ℕ) (enabled : Bool) (memory : List WifiProfile) :
    (enableOne networkId enabled memory).filter (·.id ≠ networkId)
      = memory.filter (·.id ≠ networkId) := by
  induction memory with
  | nil => rfl
  | cons profile memory ih =>
    have hstep : enableOne networkId enabled (profile :: memory)
        = (if profile.id = networkId then profile.setEnabled enabled else profile)
          :: enableOne networkId enabled memory := rfl
    rw [hstep]
    by_cases h : profile.id = networkId
    · rw [if_pos h, List.filter_cons_of_neg (by simp [WifiProfile.setEnabled, h]),
        List.filter_cons_of_neg (by simp [h]), ih]
    · rw [if_neg h, List.filter_cons_of_pos (by simp [h]), List.filter_cons_of_pos (by simp [h]), ih]

/-- The profiles after the best-effort isolation. -/
def isolated (failures : PortFailures) (memory : List WifiProfile) : List WifiProfile :=
  match failures.disableAllProfiles with
  | none => memory.map (WifiProfile.setEnabled false)
  | some _ => memory

theorem isolated_append (failures : PortFailures) (memory memory' : List WifiProfile) :
    isolated failures (memory ++ memory') = isolated failures memory ++ isolated failures memory' := by
  unfold isolated
  cases failures.disableAllProfiles with
  | none => exact List.map_append
  | some e => rfl

/-- The isolation keeps every id. -/
theorem isolated_ids (failures : PortFailures) (memory : List WifiProfile) :
    (isolated failures memory).map (·.id) = memory.map (·.id) := by
  unfold isolated
  cases failures.disableAllProfiles with
  | none =>
    rw [List.map_map]
    rfl
  | some e => rfl

theorem isolated_fresh {failures : PortFailures} {memory : List WifiProfile} {networkId : ℕ}
    (h : ∀ profile ∈ memory, profile.id ≠ networkId) :
    ∀ profile ∈ isolated failures memory, profile.id ≠ networkId := by
  intro profile hprofile
  have hid : profile.id ∈ (isolated failures memory).map (·.id) := List.mem_map_of_mem hprofile
  rw [isolated_ids] at hid
  obtain ⟨profile', hmem, heq⟩ := List.mem_map.mp hid
  rw [← heq]
  exact h profile' hmem

/-- The new profile gone, the isolated others are left. -/
theorem filter_isolated {failures : PortFailures} {memory : List WifiProfile} (added : WifiProfile)
    (h : ∀ profile ∈ memory, profile.id ≠ added.id) :
    (isolated failures (memory ++ [added])).filter (·.id ≠ added.id) = isolated failures memory := by
  have hadded : (isolated failures [added]).filter (·.id ≠ added.id) = [] := by
    apply List.filter_eq_nil_iff.mpr
    intro profile hprofile
    have hid : profile.id ∈ (isolated failures [added]).map (·.id) := List.mem_map_of_mem hprofile
    rw [isolated_ids] at hid
    simpa using hid
  have hothers : (isolated failures memory).filter (·.id ≠ added.id) = isolated failures memory := by
    apply List.filter_eq_self.mpr
    intro profile hprofile
    exact decide_eq_true (isolated_fresh h profile hprofile)
  rw [isolated_append, List.filter_append, hadded, hothers, List.append_nil]

/-- The isolation changes nothing exactly if it fails or nothing was enabled. -/
theorem isolated_eq_self_iff {failures : PortFailures} {memory : List WifiProfile} :
    isolated failures memory = memory ↔
      failures.disableAllProfiles ≠ none ∨ ∀ profile ∈ memory, profile.enabled = false := by
  unfold isolated
  cases failures.disableAllProfiles with
  | some e => exact iff_of_true rfl (Or.inl nofun)
  | none =>
    constructor
    · intro h
      right
      intro profile hprofile
      rw [← h] at hprofile
      obtain ⟨profile', -, rfl⟩ := List.mem_map.mp hprofile
      rfl
    · rintro (h | h)
      · exact absurd rfl h
      · rw [List.map_congr_left (g := id), List.map_id]
        intro profile hprofile
        have hoff := h profile hprofile
        cases profile
        simp only at hoff
        subst hoff
        rfl

/-! ### The failed connection -/

section FailedConnection

variable {newId : List WifiProfile → ℕ} {failures : PortFailures} {store : ProfileStore}
  {ssid password : String}

theorem bestEffort_disableAll :
    bestEffort (supplicantOps newId failures).disableAllProfiles store
      = .ok () { store with memory := isolated failures store.memory } := by
  show bestEffort (some (portCall failures.disableAllProfiles _ _)) store = _
  unfold bestEffort portCall isolated
  cases hdisable : failures.disableAllProfiles with
  | none => rfl
  | some e => rfl

/-- A failed activation leaves the profiles isolated, up to the flag of the new one. -/
theorem activateProfile_failed {networkId : ℕ} {e : String} {store' : ProfileStore}
    (h : activateProfile (supplicantOps newId failures) networkId true store = .error e store') :
    store'.saved = store.saved ∧ (store'.memory = isolated failures store.memory ∨
      store'.memory = enableOne networkId true (isolated failures store.memory)) := by
  have hrun : activateProfile (supplicantOps newId failures) networkId true
      = bestEffort (supplicantOps newId failures).disableAllProfiles >>= fun _ =>
        portCall failures.setProfileEnabled (fun _ => ()) (fun store =>
          { store with memory := enableOne networkId true store.memory }) >>= fun _ =>
        portCall failures.selectProfile (fun _ => ()) (fun store =>
          { store with memory := enableOne networkId true store.memory }) >>= fun _ =>
        bestEffort (supplicantOps newId failures).saveProfiles := rfl
  rw [hrun, run_bind, bestEffort_disableAll] at h
  simp only [run_bind, portCall] at h
  cases henable : failures.setProfileEnabled with
  | some e' =>
    simp only [henable] at h
    cases h
    exact ⟨rfl, Or.inl rfl⟩
  | none =>
    simp only [henable] at h
    cases hselect : failures.selectProfile with
    | some e' =>
      simp only [hselect] at h
      cases h
      exact ⟨rfl, Or.inr rfl⟩
    | none =>
      simp only [hselect] at h
      exact absurd h bestEffort_ne_error

/-- The rollback removes the profile and saves what is left. -/
theorem run_rollBackProfile {networkId : ℕ} (hremove : failures.removeProfile = none)
    (hsave : failures.saveProfiles = none) :
    rollBackProfile (supplicantOps newId failures) networkId store
      = .ok () ⟨store.memory.filter (·.id ≠ networkId), store.memory.filter (·.id ≠ networkId)⟩ := by
  have hremoved : attempt (portCall failures.removeProfile (fun _ => ()) fun store =>
        { store with memory := store.memory.filter (·.id ≠ networkId) }) store
      = .ok (.ok ()) { store with memory := store.memory.filter (·.id ≠ networkId) } := by
    simp only [attempt, portCall, hremove]
  show (attempt _ >>= _) store = _
  rw [run_bind, hremoved]
  show (attempt (portCall failures.saveProfiles _ _) >>= _) _ = _
  simp only [run_bind, attempt, portCall, hsave]
  rfl

/-- The profile that a connection adds. -/
def addedProfile (newId : List WifiProfile → ℕ) (store : ProfileStore) (ssid password : String) :
    WifiProfile := ⟨newId store.memory, ssid, password, false⟩

/-- A connection stops before it touches the profiles, or activates the one it added. -/
theorem run_connectNew : connectNew (supplicantOps newId failures) ssid password store =
    if ssid = "" then .error "ssid is required" store
    else match failures.ensureInterfaceUp, failures.createProfile with
      | some e, _ => .error e store
      | none, some e => .error e store
      | none, none => activateOrRollBack (supplicantOps newId failures) (newId store.memory)
          { store with memory := store.memory ++ [addedProfile newId store ssid password] } := by
  unfold connectNew
  split
  · rfl
  · show (portCall failures.ensureInterfaceUp (fun _ => ()) id >>= fun _ =>
      portCall failures.createProfile _ _ >>= fun networkId =>
      activateOrRollBack (supplicantOps newId failures) networkId) store = _
    simp only [run_bind, portCall]
    cases failures.ensureInterfaceUp with
    | some e => rfl
    | none =>
      cases failures.createProfile with
      | some e => rfl
      | none => rfl

/-- The rollback of the added profile leaves the isolated others, in memory and saved. -/
theorem activateOrRollBack_failed
    (hfresh : ∀ profile ∈ store.memory, profile.id ≠ newId store.memory)
    (hremove : failures.removeProfile = none) (hsave : failures.saveProfiles = none)
    {e : String} {store' : ProfileStore}
    (h : activateOrRollBack (supplicantOps newId failures) (newId store.memory)
        { store with memory := store.memory ++ [addedProfile newId store ssid password] }
      = .error e store') :
    store' = ⟨isolated failures store.memory, isolated failures store.memory⟩ := by
  unfold activateOrRollBack at h
  rw [run_bind, attempt] at h
  generalize hrun : activateProfile (supplicantOps newId failures) (newId store.memory) true _
    = outcome at h
  cases outcome with
  | ok u store'' => cases h
  | error e' store'' =>
    simp only [run_bind, run_rollBackProfile hremove hsave] at h
    cases h
    obtain ⟨-, hmemory⟩ := activateProfile_failed hrun
    have hleft : store''.memory.filter (·.id ≠ newId store.memory)
        = isolated failures store.memory := by
      rcases hmemory with hmemory | hmemory
      · rw [hmemory]
        exact filter_isolated (addedProfile newId store ssid password) hfresh
      · rw [hmemory, filter_enableOne]
        exact filter_isolated (addedProfile newId store ssid password) hfresh
    rw [hleft]

/-- **A failed connection.**  Where the profile was removed and the removal saved, both stores are as
before exactly if no profile was added, or isolating the others changed nothing and what was in
memory was saved already. -/
theorem failed_connect_restores_iff (newId : List WifiProfile → ℕ) (failures : PortFailures)
    (store : ProfileStore) (ssid password : String)
    (hfresh : ∀ profile ∈ store.memory, profile.id ≠ newId store.memory)
    (hremove : failures.removeProfile = none) (hsave : failures.saveProfiles = none)
    (hfailed : completes (connectNew (supplicantOps newId failures) ssid password) store = false) :
    after (connectNew (supplicantOps newId failures) ssid password) store = store ↔
      (ssid = "" ∨ failures.ensureInterfaceUp ≠ none ∨ failures.createProfile ≠ none) ∨
      (failures.disableAllProfiles ≠ none ∨ ∀ profile ∈ store.memory, profile.enabled = false) ∧
        store.saved = store.memory := by
  obtain ⟨e, hstop⟩ := run_of_stopped hfailed
  generalize after (connectNew (supplicantOps newId failures) ssid password) store = store' at hstop ⊢
  rw [run_connectNew] at hstop
  by_cases hssid : ssid = ""
  · rw [if_pos hssid] at hstop
    cases hstop
    exact iff_of_true rfl (Or.inl (Or.inl hssid))
  rw [if_neg hssid] at hstop
  cases hup : failures.ensureInterfaceUp with
  | some e' =>
    rw [hup] at hstop
    cases hstop
    exact iff_of_true rfl (Or.inl (Or.inr (Or.inl nofun)))
  | none =>
    cases hcreate : failures.createProfile with
    | some e' =>
      rw [hup, hcreate] at hstop
      cases hstop
      exact iff_of_true rfl (Or.inl (Or.inr (Or.inr nofun)))
    | none =>
      rw [hup, hcreate] at hstop
      have hleft := activateOrRollBack_failed hfresh hremove hsave hstop
      have hreached : ¬(ssid = "" ∨ (none : Option String) ≠ none ∨ (none : Option String) ≠ none) :=
        fun h => h.elim hssid fun h => h.elim (fun h => h rfl) fun h => h rfl
      rw [or_iff_right hreached, ← isolated_eq_self_iff, hleft]
      constructor
      · intro h
        have hmemory : isolated failures store.memory = store.memory := congrArg ProfileStore.memory h
        have hsaved : isolated failures store.memory = store.saved := congrArg ProfileStore.saved h
        exact ⟨hmemory, hsaved.symm.trans hmemory⟩
      · intro ⟨hmemory, hsaved⟩
        cases store
        simp only at hmemory hsaved
        rw [hmemory, hsaved]

end FailedConnection

/-! ### The flags are lost -/

/-- A home network that the device joins by itself, and ports that refuse only the selection. -/
def homeProfile : WifiProfile := ⟨0, "Home", "secret", true⟩

theorem failed_connect_restores_iff_refusedSelection :
    after (connectNew (supplicantOps List.length { selectProfile := some "FAIL" }) "Cafe" "")
        ⟨[homeProfile], [homeProfile]⟩ = ⟨[homeProfile], [homeProfile]⟩ ↔
      ("Cafe" = "" ∨ (none : Option String) ≠ none ∨ (none : Option String) ≠ none) ∨
      ((none : Option String) ≠ none ∨ ∀ profile ∈ [homeProfile], profile.enabled = false) ∧
        [homeProfile] = [homeProfile] :=
  failed_connect_restores_iff List.length { selectProfile := some "FAIL" }
    ⟨[homeProfile], [homeProfile]⟩ "Cafe" "" (by decide) rfl rfl (by decide)

/-- Joining another network fails, and the device no longer joins its home network by itself, also
after a restart. -/
theorem failed_connect_disables_home :
    completes (connectNew (supplicantOps List.length { selectProfile := some "FAIL" }) "Cafe" "")
        ⟨[homeProfile], [homeProfile]⟩ = false ∧
      after (connectNew (supplicantOps List.length { selectProfile := some "FAIL" }) "Cafe" "")
        ⟨[homeProfile], [homeProfile]⟩
        = ⟨[homeProfile.setEnabled false], [homeProfile.setEnabled false]⟩ ∧
      homeProfile.setEnabled false ≠ homeProfile := by
  decide

end NetworkService.Wifi
