import Mathlib.Data.List.Nodup
import NetworkService.Wifi.ProfileStore

/-!
# Profiles over requests and restarts

Clients ask for connections, forget networks and switch their automatic connection, any port may fail
while they do, and the supplicant may be restarted in between and load what was saved last.  A profile
that is in memory and saved stays in both until its name is forgotten; no profile is there that nobody
asked for; and a request that is answered with success has its whole effect.
-/

namespace NetworkService.Wifi

open Fallible

/-! ### Requests and restarts -/

inductive ProfileRequest
  | connectNew (ssid password : String)
  | connectSaved (ssid : String)
  | forget (ssid : String)
  | setAutoconnect (ssid : String) (enabled : Bool)
  deriving DecidableEq

/-- A request as the policy carries it out. -/
def ProfileRequest.run {W : Type} (ops : WifiProfilePolicyOps W) : ProfileRequest → EStateM String W Unit
  | .connectNew ssid password => Wifi.connectNew ops ssid password
  | .connectSaved ssid => Wifi.connectSaved ops ssid
  | .forget ssid => Wifi.forget ops ssid
  | .setAutoconnect ssid enabled => Wifi.setAutoconnect ops ssid enabled

inductive ProfileEvent
  | request (asked : ProfileRequest) (failures : PortFailures)
  /-- The supplicant is restarted and loads what was saved. -/
  | restart
  deriving DecidableEq

/-- The profiles as the supplicant numbers them when it loads them. -/
def renumbered (saved : List WifiProfile) : List WifiProfile :=
  saved.zipIdx.map fun entry => { entry.1 with id := entry.2 }

def ProfileEvent.perform (newId : List WifiProfile → ℕ) (store : ProfileStore) :
    ProfileEvent → ProfileStore
  | .request asked failures => after (asked.run (supplicantOps newId failures)) store
  | .restart => { store with memory := renumbered store.saved }

/-! ### What a profile is, apart from its flag -/

structure Credential where
  id : ℕ
  ssid : String
  password : String
  deriving DecidableEq

def WifiProfile.credential (profile : WifiProfile) : Credential :=
  ⟨profile.id, profile.ssid, profile.password⟩

def credentials (memory : List WifiProfile) : List Credential :=
  memory.map WifiProfile.credential

theorem credentials_setEnabled (enabled : Bool) (memory : List WifiProfile) :
    credentials (memory.map (WifiProfile.setEnabled enabled)) = credentials memory := by
  unfold credentials
  rw [List.map_map]
  rfl

theorem credentials_enableOne (networkId : ℕ) (enabled : Bool) (memory : List WifiProfile) :
    credentials (enableOne networkId enabled memory) = credentials memory := by
  unfold credentials enableOne
  rw [List.map_map]
  apply List.map_congr_left
  intro profile _
  show WifiProfile.credential (if profile.id = networkId then _ else _) = _
  split <;> rfl

theorem credentials_isolated (failures : PortFailures) (memory : List WifiProfile) :
    credentials (isolated failures memory) = credentials memory := by
  unfold isolated
  cases failures.disableAllProfiles with
  | none => exact credentials_setEnabled false memory
  | some e => rfl

theorem credentials_append (memory memory' : List WifiProfile) :
    credentials (memory ++ memory') = credentials memory ++ credentials memory' := List.map_append

theorem ids_credentials (memory : List WifiProfile) :
    (credentials memory).map Credential.id = memory.map (·.id) := by
  unfold credentials
  rw [List.map_map]
  rfl

/-- A profile without its flag. -/
theorem credentials_filter (networkId : ℕ) (memory : List WifiProfile) :
    credentials (memory.filter (·.id ≠ networkId)) = (credentials memory).filter (·.id ≠ networkId) := by
  unfold credentials
  rw [List.filter_map]
  rfl

/-! ### One request -/

section Requests

variable {newId : List WifiProfile → ℕ} {failures : PortFailures} {store : ProfileStore}

theorem wp_run {α : Type} {m : EStateM String ProfileStore α} {a : α} {t : ProfileStore}
    {Q : α → ProfileStore → Prop} {E : String → ProfileStore → Prop} (hrun : m store = .ok a t) :
    wp m Q E store ↔ Q a t := by
  unfold wp
  rw [hrun]

theorem wp_run_eq {α : Type} {m : EStateM String ProfileStore α}
    (m' : EStateM String ProfileStore α) (t : ProfileStore)
    {Q : α → ProfileStore → Prop} {E : String → ProfileStore → Prop} (hrun : m store = m' t) :
    wp m Q E store ↔ wp m' Q E t := by
  unfold wp
  rw [hrun]

theorem wp_portCall {α : Type} {failure : Option String} {result : ProfileStore → α}
    {effect : ProfileStore → ProfileStore} {Q : α → ProfileStore → Prop}
    {E : String → ProfileStore → Prop} (hok : failure = none → Q (result store) (effect store))
    (herror : ∀ e, failure = some e → E e store) : wp (portCall failure result effect) Q E store := by
  unfold wp portCall
  cases failure with
  | none => exact hok rfl
  | some e => exact herror e rfl

/-- The activation of a profile that is in memory. -/
structure Activated (failures : PortFailures) (networkId : ℕ) (persist : Bool) (s t : ProfileStore) :
    Prop where
  credentials : credentials t.memory = credentials s.memory
  saved : t.saved = if persist ∧ failures.saveProfiles = none then t.memory else s.saved
  enabled : failures.disableAllProfiles = none →
    ∀ profile ∈ t.memory, profile.enabled = decide (profile.id = networkId)

theorem enabled_enableOne (networkId : ℕ) (memory : List WifiProfile) :
    ∀ profile ∈ enableOne networkId true (enableOne networkId true
      (memory.map (WifiProfile.setEnabled false))),
      profile.enabled = decide (profile.id = networkId) := by
  unfold enableOne
  intro profile hprofile
  simp only [List.map_map, List.mem_map] at hprofile
  obtain ⟨before, -, rfl⟩ := hprofile
  by_cases hid : before.id = networkId
  · simp [WifiProfile.setEnabled, hid]
  · simp [WifiProfile.setEnabled, hid]

theorem bestEffort_save :
    bestEffort (supplicantOps newId failures).saveProfiles store
      = .ok () { store with
          saved := if failures.saveProfiles = none then store.memory else store.saved } := by
  show bestEffort (some (portCall failures.saveProfiles _ _)) store = _
  unfold bestEffort portCall
  cases hsave : failures.saveProfiles with
  | none => rfl
  | some e => rfl

theorem wp_activateProfile (networkId : ℕ) (persist : Bool) :
    wp (activateProfile (supplicantOps newId failures) networkId persist)
      (fun _ t => Activated failures networkId persist store t)
      (fun _ t => t.saved = store.saved ∧ credentials t.memory = credentials store.memory) store := by
  have hrun : activateProfile (supplicantOps newId failures) networkId persist
      = bestEffort (supplicantOps newId failures).disableAllProfiles >>= fun _ =>
        portCall failures.setProfileEnabled (fun _ => ()) (fun store =>
          { store with memory := enableOne networkId true store.memory }) >>= fun _ =>
        portCall failures.selectProfile (fun _ => ()) (fun store =>
          { store with memory := enableOne networkId true store.memory }) >>= fun _ =>
        when persist (bestEffort (supplicantOps newId failures).saveProfiles) := rfl
  have hisolated := credentials_isolated failures store.memory
  have hcredentials : credentials (enableOne networkId true (enableOne networkId true
      (isolated failures store.memory))) = credentials store.memory := by
    rw [credentials_enableOne, credentials_enableOne, hisolated]
  have henabled : failures.disableAllProfiles = none → ∀ profile ∈ enableOne networkId true
      (enableOne networkId true (isolated failures store.memory)),
      profile.enabled = decide (profile.id = networkId) := by
    intro hdisable
    unfold isolated
    rw [hdisable]
    exact enabled_enableOne networkId store.memory
  rw [hrun, wp_bind, wp_run bestEffort_disableAll, wp_bind]
  apply wp_portCall
  · intro _
    rw [wp_bind]
    apply wp_portCall
    · intro _
      rw [wp_when]
      split
      · rw [wp_run bestEffort_save]
        next hpersist => exact ⟨hcredentials, by simp [hpersist], henabled⟩
      next hpersist => exact ⟨hcredentials, by simp [hpersist], henabled⟩
    · intro e _
      refine ⟨rfl, ?_⟩
      rw [credentials_enableOne, hisolated]
  · intro e _
    exact ⟨rfl, hisolated⟩

/-- The first profile of the name, if there is one. -/
theorem wp_findBySsid {ssid : String} {Q : ℕ → ProfileStore → Prop} {E : String → ProfileStore → Prop}
    (hfound : ∀ profile, store.memory.find? (·.ssid = ssid) = some profile → Q profile.id store)
    (hnone : ∀ e, E e store) : wp (findBySsid ssid) Q E store := by
  unfold wp findBySsid
  cases hfind : store.memory.find? (·.ssid = ssid) with
  | some profile => exact hfound profile hfind
  | none => exact hnone _

/-- A request that is answered with success. -/
def ProfileRequest.Done (newId : List WifiProfile → ℕ) (failures : PortFailures) (s t : ProfileStore) :
    ProfileRequest → Prop
  | .connectNew ssid password =>
    credentials t.memory = credentials s.memory ++ [⟨newId s.memory, ssid, password⟩] ∧
      t.saved = (if failures.saveProfiles = none then t.memory else s.saved) ∧
      (failures.disableAllProfiles = none →
        ∀ profile ∈ t.memory, profile.enabled = decide (profile.id = newId s.memory))
  | .connectSaved ssid => ∃ found, s.memory.find? (·.ssid = ssid) = some found ∧
    credentials t.memory = credentials s.memory ∧ t.saved = s.saved ∧
      (failures.disableAllProfiles = none →
        ∀ profile ∈ t.memory, profile.enabled = decide (profile.id = found.id))
  | .forget ssid => ∃ found, s.memory.find? (·.ssid = ssid) = some found ∧
    t.memory = s.memory.filter (·.id ≠ found.id) ∧ t.saved = t.memory
  | .setAutoconnect ssid enabled => ∃ found, s.memory.find? (·.ssid = ssid) = some found ∧
    t.memory = enableOne found.id enabled s.memory ∧ t.saved = t.memory

/-- What may be left of a request that is answered with a failure. -/
def ProfileRequest.Left (newId : List WifiProfile → ℕ) (s t : ProfileStore) (asked : ProfileRequest) : Prop :=
  (t.saved = s.saved ∨ t.saved = t.memory) ∧
    (credentials t.memory = credentials s.memory ∨
      (∃ ssid password, asked = .connectNew ssid password ∧
        credentials t.memory = credentials s.memory ++ [⟨newId s.memory, ssid, password⟩]) ∨
      ∃ ssid found, asked = .forget ssid ∧ s.memory.find? (·.ssid = ssid) = some found ∧
        t.memory = s.memory.filter (·.id ≠ found.id))

theorem wp_rollBack (networkId : ℕ) :
    wp (rollBackProfile (supplicantOps newId failures) networkId)
      (fun _ t => (t.saved = store.saved ∨ t.saved = t.memory) ∧
        (t.memory = store.memory ∨ t.memory = store.memory.filter (·.id ≠ networkId)))
      (fun _ _ => False) store := by
  have hsaved : ∀ s : ProfileStore, (if failures.saveProfiles = none then s.memory else s.saved) = s.saved ∨
      (if failures.saveProfiles = none then s.memory else s.saved) = s.memory := by
    intro s
    split
    · exact .inr rfl
    · exact .inl rfl
  show wp (attempt (portCall failures.removeProfile _ _) >>= _) _ _ store
  rw [wp_bind, wp_attempt]
  apply wp_portCall
  · intro _
    rw [wp_run bestEffort_save]
    exact ⟨hsaved _, .inr rfl⟩
  · intro e _
    rw [wp_when]
    split
    · rw [wp_run bestEffort_save]
      exact ⟨hsaved _, .inl rfl⟩
    · exact ⟨.inl rfl, .inl rfl⟩

theorem wp_connectNew (hfresh : ∀ profile ∈ store.memory, profile.id ≠ newId store.memory)
    (ssid password : String) :
    wp (connectNew (supplicantOps newId failures) ssid password)
      (fun _ t => (ProfileRequest.connectNew ssid password).Done newId failures store t)
      (fun _ t => (ProfileRequest.connectNew ssid password).Left newId store t) store := by
  have hsame : (ProfileRequest.connectNew ssid password).Left newId store store :=
    ⟨.inl rfl, .inl rfl⟩
  have hrun : connectNew (supplicantOps newId failures) ssid password store = _ := run_connectNew
  by_cases hssid : ssid = ""
  · rw [if_pos hssid] at hrun
    rw [wp_run_eq (throw "ssid is required") store hrun]
    exact hsame
  rw [if_neg hssid] at hrun
  cases hup : failures.ensureInterfaceUp with
  | some e =>
    rw [hup] at hrun
    rw [wp_run_eq (throw e) store hrun]
    exact hsame
  | none =>
    cases hcreate : failures.createProfile with
    | some e =>
      rw [hup, hcreate] at hrun
      rw [wp_run_eq (throw e) store hrun]
      exact hsame
    | none =>
      rw [hup, hcreate] at hrun
      rw [wp_run_eq (activateOrRollBack (supplicantOps newId failures) (newId store.memory))
        { store with memory := store.memory ++ [addedProfile newId store ssid password] } hrun]
      have hadded : credentials (store.memory ++ [addedProfile newId store ssid password]) =
          credentials store.memory ++ [⟨newId store.memory, ssid, password⟩] := credentials_append _ _
      unfold activateOrRollBack
      rw [wp_bind, wp_attempt]
      apply wp_mono (wp_activateProfile (newId store.memory) true)
      · intro _ t hactivated
        refine ⟨hactivated.credentials.trans hadded, ?_, hactivated.enabled⟩
        rw [hactivated.saved]
        simp only [true_and]
      · rintro e u ⟨hsaved, hcredentials⟩
        show wp (rollBackProfile _ _ >>= fun _ => throw e) _ _ u
        rw [wp_bind]
        refine wp_mono (wp_rollBack _) ?_ fun _ _ h => h.elim
        rintro _ t ⟨hsaved', hmemory⟩
        rw [hsaved] at hsaved'
        refine ⟨hsaved', ?_⟩
        rcases hmemory with hmemory | hmemory
        · rw [hmemory]
          exact .inr (.inl ⟨ssid, password, rfl, hcredentials.trans hadded⟩)
        · -- the profile is gone again, and with it nothing else
          left
          rw [hmemory, credentials_filter, hcredentials.trans hadded, List.filter_append]
          have hothers : (credentials store.memory).filter (·.id ≠ newId store.memory) =
              credentials store.memory := by
            apply List.filter_eq_self.mpr
            intro c hc
            obtain ⟨profile, hprofile, rfl⟩ := List.mem_map.mp hc
            exact decide_eq_true (hfresh profile hprofile)
          rw [hothers]
          simp

theorem wp_connectSaved (ssid : String) :
    wp (connectSaved (supplicantOps newId failures) ssid)
      (fun _ t => (ProfileRequest.connectSaved ssid).Done newId failures store t)
      (fun _ t => (ProfileRequest.connectSaved ssid).Left newId store t) store := by
  have hsame : (ProfileRequest.connectSaved ssid).Left newId store store := ⟨.inl rfl, .inl rfl⟩
  unfold connectSaved
  apply wp_split
  · exact fun _ => hsame
  · intro _
    show wp (portCall failures.ensureInterfaceUp _ id >>= fun _ => findBySsid ssid >>= _) _ _ store
    rw [wp_bind]
    apply wp_portCall
    · intro _
      rw [wp_bind]
      apply wp_findBySsid
      · intro found hfound
        apply wp_mono (wp_activateProfile found.id false)
        · intro _ t hactivated
          exact ⟨found, hfound, hactivated.credentials, hactivated.saved, hactivated.enabled⟩
        · rintro e t ⟨hsaved, hcredentials⟩
          exact ⟨.inl hsaved, .inl hcredentials⟩
      · exact fun _ => hsame
    · exact fun _ _ => hsame

theorem wp_forget (ssid : String) :
    wp (forget (supplicantOps newId failures) ssid)
      (fun _ t => (ProfileRequest.forget ssid).Done newId failures store t)
      (fun _ t => (ProfileRequest.forget ssid).Left newId store t) store := by
  have hsame : (ProfileRequest.forget ssid).Left newId store store := ⟨.inl rfl, .inl rfl⟩
  unfold forget
  apply wp_split
  · exact fun _ => hsame
  · intro _
    show wp (findBySsid ssid >>= fun networkId => portCall failures.removeProfile _ _ >>= fun _ =>
      portCall failures.saveProfiles _ _) _ _ store
    rw [wp_bind]
    apply wp_findBySsid
    · intro found hfound
      rw [wp_bind]
      apply wp_portCall
      · intro _
        apply wp_portCall
        · exact fun _ => ⟨found, hfound, rfl, rfl⟩
        · exact fun _ _ => ⟨.inl rfl, .inr (.inr ⟨ssid, found, rfl, hfound, rfl⟩)⟩
      · exact fun _ _ => hsame
    · exact fun _ => hsame

theorem wp_setAutoconnect (ssid : String) (enabled : Bool) :
    wp (setAutoconnect (supplicantOps newId failures) ssid enabled)
      (fun _ t => (ProfileRequest.setAutoconnect ssid enabled).Done newId failures store t)
      (fun _ t => (ProfileRequest.setAutoconnect ssid enabled).Left newId store t) store := by
  have hsame : (ProfileRequest.setAutoconnect ssid enabled).Left newId store store :=
    ⟨.inl rfl, .inl rfl⟩
  unfold setAutoconnect
  apply wp_split
  · exact fun _ => hsame
  · intro _
    show wp (findBySsid ssid >>= fun networkId => portCall failures.setProfileEnabled _ _ >>= fun _ =>
      portCall failures.saveProfiles _ _) _ _ store
    rw [wp_bind]
    apply wp_findBySsid
    · intro found hfound
      rw [wp_bind]
      apply wp_portCall
      · intro _
        apply wp_portCall
        · exact fun _ => ⟨found, hfound, rfl, rfl⟩
        · exact fun _ _ => ⟨.inl rfl, .inl (credentials_enableOne _ _ _)⟩
      · exact fun _ _ => hsame
    · exact fun _ => hsame

/-- **Every request**: its whole effect if it is answered with success, and otherwise at most a profile
that could not be removed again, or the removal of the one to be forgotten. -/
theorem wp_request (hfresh : ∀ profile ∈ store.memory, profile.id ≠ newId store.memory)
    (asked : ProfileRequest) :
    wp (asked.run (supplicantOps newId failures)) (fun _ t => asked.Done newId failures store t)
      (fun _ t => asked.Left newId store t) store := by
  cases asked with
  | connectNew ssid password => exact wp_connectNew hfresh ssid password
  | connectSaved ssid => exact wp_connectSaved ssid
  | forget ssid => exact wp_forget ssid
  | setAutoconnect ssid enabled => exact wp_setAutoconnect ssid enabled

end Requests

/-! ### Runs -/

/-- What a profile is for a client. -/
structure Login where
  ssid : String
  password : String
  deriving DecidableEq

def Credential.login (c : Credential) : Login := ⟨c.ssid, c.password⟩

def logins (memory : List WifiProfile) : List Login := (credentials memory).map Credential.login

theorem logins_renumbered (saved : List WifiProfile) : logins (renumbered saved) = logins saved := by
  have hlogin : ∀ memory : List WifiProfile,
      logins memory = memory.map fun profile => ⟨profile.ssid, profile.password⟩ := by
    intro memory
    unfold logins credentials
    rw [List.map_map]
    rfl
  rw [hlogin, hlogin]
  unfold renumbered
  rw [List.map_map]
  show saved.zipIdx.map ((fun profile : WifiProfile => (⟨profile.ssid, profile.password⟩ : Login)) ∘
    Prod.fst) = _
  rw [← List.map_map, List.zipIdx_map_fst]

theorem nodup_renumbered (saved : List WifiProfile) : ((renumbered saved).map (·.id)).Nodup := by
  unfold renumbered
  rw [List.map_map]
  show (saved.zipIdx.map Prod.snd).Nodup
  rw [List.zipIdx_map_snd]
  exact List.nodup_range'

namespace ProfileStore

/-- The supplicant tells its profiles apart. -/
def Distinct (s : ProfileStore) : Prop := (s.memory.map (·.id)).Nodup

/-- A profile is in memory and would be loaded again. -/
structure Keeps (s : ProfileStore) (c : Login) : Prop where
  memory : c ∈ logins s.memory
  saved : c ∈ logins s.saved

/-- The profiles in memory and the saved ones. -/
def known (s : ProfileStore) : List Login := logins s.memory ++ logins s.saved

end ProfileStore

namespace ProfileRequest

variable {newId : List WifiProfile → ℕ} {failures : PortFailures} {s t : ProfileStore}
  {asked : ProfileRequest}

theorem Done.left (h : asked.Done newId failures s t) : asked.Left newId s t := by
  cases asked with
  | connectNew ssid password =>
    obtain ⟨hcredentials, hsaved, -⟩ := h
    refine ⟨?_, .inr (.inl ⟨ssid, password, rfl, hcredentials⟩)⟩
    rw [hsaved]
    split
    · exact .inr rfl
    · exact .inl rfl
  | connectSaved ssid =>
    obtain ⟨found, -, hcredentials, hsaved, -⟩ := h
    exact ⟨.inl hsaved, .inl hcredentials⟩
  | forget ssid =>
    obtain ⟨found, hfound, hmemory, hsaved⟩ := h
    exact ⟨.inr hsaved, .inr (.inr ⟨ssid, found, rfl, hfound, hmemory⟩)⟩
  | setAutoconnect ssid enabled =>
    obtain ⟨found, -, hmemory, hsaved⟩ := h
    refine ⟨.inr hsaved, .inl ?_⟩
    rw [hmemory, credentials_enableOne]

theorem Left.distinct (h : asked.Left newId s t)
    (hfresh : ∀ profile ∈ s.memory, profile.id ≠ newId s.memory) (hs : s.Distinct) : t.Distinct := by
  obtain ⟨-, hmemory⟩ := h
  unfold ProfileStore.Distinct at hs ⊢
  rcases hmemory with hsame | ⟨ssid, password, -, hadded⟩ | ⟨ssid, found, -, -, hfiltered⟩
  · rw [← ids_credentials, hsame, ids_credentials]
    exact hs
  · rw [← ids_credentials, hadded, List.map_append, ids_credentials, List.nodup_append]
    refine ⟨hs, List.nodup_singleton _, ?_⟩
    intro networkId hid other hother
    obtain ⟨profile, hprofile, rfl⟩ := List.mem_map.mp hid
    rw [List.map_singleton, List.mem_singleton] at hother
    rw [hother]
    exact hfresh profile hprofile
  · rw [hfiltered]
    exact hs.sublist (List.filter_sublist.map _)

/-- Who is not forgotten by name stays. -/
theorem Left.keeps (h : asked.Left newId s t) (hs : s.Distinct) {c : Login} (hc : s.Keeps c)
    (hname : asked ≠ .forget c.ssid) : t.Keeps c := by
  obtain ⟨hsaved, hmemory⟩ := h
  have hkept : c ∈ logins t.memory := by
    have hbefore := hc.memory
    unfold logins at hbefore ⊢
    rcases hmemory with hsame | ⟨ssid, password, -, hadded⟩ | ⟨ssid, found, rfl, hfound, hfiltered⟩
    · rw [hsame]
      exact hbefore
    · rw [hadded, List.map_append]
      exact List.mem_append_left _ hbefore
    · obtain ⟨credential, hcredential, rfl⟩ := List.mem_map.mp hbefore
      rw [hfiltered, credentials_filter]
      refine List.mem_map_of_mem (List.mem_filter.mpr ⟨hcredential, decide_eq_true ?_⟩)
      intro hid
      -- two profiles of one id would be one, and of one name
      obtain ⟨profile, hprofile, rfl⟩ := List.mem_map.mp hcredential
      have hsame : profile = found :=
        List.inj_on_of_nodup_map hs hprofile (List.mem_of_find?_eq_some hfound) hid
      have hssid := List.find?_some hfound
      rw [← hsame] at hssid
      have hforgotten : profile.ssid = ssid := of_decide_eq_true hssid
      exact hname (congrArg ProfileRequest.forget hforgotten.symm)
  refine ⟨hkept, ?_⟩
  rcases hsaved with hsaved | hsaved
  · rw [hsaved]
    exact hc.saved
  · rw [hsaved]
    exact hkept

/-- Who is there was there, or was asked for. -/
theorem Left.known (h : asked.Left newId s t) {c : Login} (hc : c ∈ t.known) :
    c ∈ s.known ∨ asked = .connectNew c.ssid c.password := by
  obtain ⟨hsaved, hmemory⟩ := h
  have horigin : c ∈ logins t.memory → c ∈ s.known ∨ asked = .connectNew c.ssid c.password := by
    unfold logins
    intro hc
    rcases hmemory with hsame | ⟨ssid, password, rfl, hadded⟩ | ⟨ssid, found, -, -, hfiltered⟩
    · rw [hsame] at hc
      exact .inl (List.mem_append_left _ hc)
    · rw [hadded, List.map_append] at hc
      rcases List.mem_append.mp hc with hc | hc
      · exact .inl (List.mem_append_left _ hc)
      · rw [List.map_singleton] at hc
        rw [List.mem_singleton.mp hc]
        exact .inr rfl
    · rw [hfiltered, credentials_filter] at hc
      obtain ⟨credential, hcredential, rfl⟩ := List.mem_map.mp hc
      exact .inl (List.mem_append_left _ (List.mem_map_of_mem (List.mem_filter.mp hcredential).1))
  rcases List.mem_append.mp hc with hc | hc
  · exact horigin hc
  · rcases hsaved with hsaved | hsaved
    · rw [hsaved] at hc
      exact .inl (List.mem_append_right _ hc)
    · rw [hsaved] at hc
      exact horigin hc

end ProfileRequest

section Runs

variable {newId : List WifiProfile → ℕ}

theorem left_perform (hfresh : ∀ memory, ∀ profile ∈ memory, profile.id ≠ newId memory)
    (s : ProfileStore) (asked : ProfileRequest) (failures : PortFailures) :
    asked.Left newId s ((ProfileEvent.request asked failures).perform newId s) :=
  after_of_wp (I := fun t => asked.Left newId s t)
    (wp_mono (wp_request (hfresh s.memory) asked) (fun _ _ hdone => hdone.left) fun _ _ hleft => hleft)

theorem distinct_run (hfresh : ∀ memory, ∀ profile ∈ memory, profile.id ≠ newId memory)
    (events : List ProfileEvent) : ∀ {s : ProfileStore}, s.Distinct →
      (events.foldl (ProfileEvent.perform newId) s).Distinct := by
  induction events with
  | nil => exact fun h => h
  | cons event events ih =>
    intro s h
    rw [List.foldl_cons]
    apply ih
    cases event with
    | request asked failures => exact (left_perform hfresh s asked failures).distinct (hfresh s.memory) h
    | restart => exact nodup_renumbered s.saved

theorem keeps_run (hfresh : ∀ memory, ∀ profile ∈ memory, profile.id ≠ newId memory) {c : Login}
    (events : List ProfileEvent) : ∀ {s : ProfileStore}, s.Distinct → s.Keeps c →
      (∀ failures, .request (.forget c.ssid) failures ∉ events) →
        (events.foldl (ProfileEvent.perform newId) s).Keeps c := by
  induction events with
  | nil => exact fun _ h _ => h
  | cons event events ih =>
    intro s hdistinct h hname
    rw [List.foldl_cons]
    have hlater : ∀ failures, .request (.forget c.ssid) failures ∉ events :=
      fun failures hmem => hname failures (List.mem_cons_of_mem _ hmem)
    cases event with
    | request asked failures =>
      have hleft := left_perform hfresh s asked failures
      refine ih (hleft.distinct (hfresh s.memory) hdistinct) (hleft.keeps hdistinct h ?_) hlater
      rintro rfl
      exact hname failures List.mem_cons_self
    | restart =>
      have hloaded : c ∈ logins (renumbered s.saved) := by
        rw [logins_renumbered]
        exact h.saved
      exact ih (nodup_renumbered s.saved) ⟨hloaded, h.saved⟩ hlater

theorem known_run (hfresh : ∀ memory, ∀ profile ∈ memory, profile.id ≠ newId memory) {c : Login}
    (events : List ProfileEvent) : ∀ {s : ProfileStore},
      c ∈ (events.foldl (ProfileEvent.perform newId) s).known →
        c ∈ s.known ∨ ∃ failures, .request (.connectNew c.ssid c.password) failures ∈ events := by
  induction events with
  | nil => exact fun h => .inl h
  | cons event events ih =>
    intro s h
    rw [List.foldl_cons] at h
    rcases ih h with hknown | ⟨failures, hmem⟩
    · cases event with
      | request asked failures =>
        rcases (left_perform hfresh s asked failures).known hknown with hbefore | rfl
        · exact .inl hbefore
        · exact .inr ⟨failures, List.mem_cons_self⟩
      | restart =>
        have hsaved : c ∈ logins s.saved := by
          rcases List.mem_append.mp hknown with hloaded | hsaved
          · rw [← logins_renumbered]
            exact hloaded
          · exact hsaved
        exact .inl (List.mem_append_right _ hsaved)
    · exact .inr ⟨failures, List.mem_cons_of_mem _ hmem⟩

/-- **Profiles over requests and restarts.**  After any run the ids in memory are distinct; a profile that was in
memory and saved is still both unless the run forgets its name; every profile that is there was there or
was asked for by its name and password; and one more request has its whole effect if it is answered with
success, and otherwise leaves at most a new profile that could not be removed again, or the one to be
forgotten removed but perhaps not saved so. -/
theorem profiles_over_restarts (hfresh : ∀ memory, ∀ profile ∈ memory, profile.id ≠ newId memory)
    {store : ProfileStore} (hids : store.Distinct) (events : List ProfileEvent) :
    let reached := events.foldl (ProfileEvent.perform newId) store
    reached.Distinct ∧
    (∀ c, store.Keeps c → (∀ failures, .request (.forget c.ssid) failures ∉ events) → reached.Keeps c) ∧
    (∀ c ∈ reached.known,
      c ∈ store.known ∨ ∃ failures, .request (.connectNew c.ssid c.password) failures ∈ events) ∧
    ∀ (asked : ProfileRequest) failures,
      wp (asked.run (supplicantOps newId failures)) (fun _ next => asked.Done newId failures reached next)
        (fun _ next => asked.Left newId reached next) reached :=
  ⟨distinct_run hfresh events hids, fun _ hkeeps hname => keeps_run hfresh events hids hkeeps hname,
    fun _ hknown => known_run hfresh events hknown, fun asked _ => wp_request (hfresh _) asked⟩

end Runs

/-! ### An id that is not in use -/

def nextId (memory : List WifiProfile) : ℕ := memory.foldr (fun profile n => max (profile.id + 1) n) 0

theorem nextId_fresh (memory : List WifiProfile) : ∀ profile ∈ memory, profile.id ≠ nextId memory := by
  have hbelow : ∀ profile ∈ memory, profile.id < nextId memory := by
    induction memory with
    | nil => exact List.forall_mem_nil _
    | cons first memory ih =>
      have hnext : nextId (first :: memory) = max (first.id + 1) (nextId memory) := rfl
      rw [List.forall_mem_cons, hnext]
      refine ⟨by omega, ?_⟩
      intro profile hprofile
      have hlt := ih profile hprofile
      omega
  intro profile hprofile
  exact Nat.ne_of_lt (hbelow profile hprofile)

/-- A connection that fails, a restart and a forgotten network leave the home network alone. -/
theorem profiles_over_restarts_home :
    (([.request (.connectNew "Cafe" "") { selectProfile := some "FAIL" }, .restart,
      .request (.forget "Office") {}] : List ProfileEvent).foldl (ProfileEvent.perform nextId)
        ⟨[homeProfile], [homeProfile]⟩).Keeps ⟨"Home", "secret"⟩ :=
  (profiles_over_restarts nextId_fresh (by unfold ProfileStore.Distinct; decide) _).2.1 _
    ⟨by decide, by decide⟩ (by simp)

end NetworkService.Wifi
