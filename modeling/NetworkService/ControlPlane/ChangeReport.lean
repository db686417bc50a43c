import NetworkService.ControlPlane.LinkPass

/-!
# Reported lease changes

`reconcile(changed, error)` is the fast pass of the 250 ms tick; its `changed` flag decides
whether the reactor looks at the state in that tick.  The flag is set only after both links
have succeeded, while each link commits its fingerprint on its own.  So a change is lost
exactly when Ethernet applies a new lease and the Wi-Fi pass after it fails.
-/

namespace NetworkService.ControlPlane

open Fallible

variable {W : Type} (ops : NetworkControlPlaneOps W)

/-- `NetworkDaemon::reconcile(changed, error)` after `reconcile_dhcp_process` has reported
`dhcpProcessChanged`.  Without an event source (an injected snapshot provider or Netlink) the
full pass runs. -/
def daemonReconcile (eventSource dhcpProcessChanged : Bool) : Op W (Bool × Except String Unit) :=
  if eventSource then do
    let result ← reconcileChanged ops
    pure (dhcpProcessChanged || result.1, result.2)
  else do
    let outcome ← attempt (reconcile ops)
    pure (true, outcome)

/-- The reactor's decision in `reconcile_if_due`. -/
def observesState (leaseChanged runtimeDirty : Bool) : Bool := leaseChanged || runtimeDirty

/-- A stored fingerprint differs. -/
def LeaseChanged (s t : Run W) : Prop :=
  t.plane.eth.fingerprint ≠ s.plane.eth.fingerprint ∨
    t.plane.wifi.fingerprint ≠ s.plane.wifi.fingerprint

instance (s t : Run W) : Decidable (LeaseChanged s t) := inferInstanceAs (Decidable (_ ∨ _))

/-- Ethernet has a new lease that can be applied, and the Wi-Fi lease cannot be read or
applied on the platform that this leaves. -/
def StarvedReport (s : Run W) : Prop :=
  ∃ w, LinkApplies ops s.plane s.plane.names.eth s.world w ∧
    LinkFails ops s.plane s.plane.names.wifi w

variable {ops} {s : Run W}

theorem LeaseChanged.of_config {t u : Run W} (h : LeaseChanged s u)
    (hu : configOf u = configOf t) : LeaseChanged s t := by
  have heth : u.plane.eth = t.plane.eth := congrArg (·.eth) hu
  have hwifi : u.plane.wifi = t.plane.wifi := congrArg (·.wifi) hu
  unfold LeaseChanged at h ⊢
  rwa [heth, hwifi] at h

theorem not_leaseChanged_of_config {t : Run W} (ht : configOf t = configOf s) :
    ¬LeaseChanged s t := by
  intro h
  rcases h.of_config ht with heth | hwifi
  · exact heth rfl
  · exact hwifi rfl

/-- The Wi-Fi pass after an Ethernet pass, with its verdict at the platform it starts from. -/
theorem reconcileLinkLocked_wifi_verdict {t : Run W} (ht : wifiRecords t = wifiRecords s) :
    wp (reconcileLinkLocked ops s.plane.names.wifi)
      (fun _ _ => ¬LinkFails ops s.plane s.plane.names.wifi t.world)
      (fun _ u => LinkFails ops s.plane s.plane.names.wifi t.world ∧ configOf u = configOf t)
      t := by
  have hfails := linkFails_congr ops (w := t.world) (view_wifi_congr ht)
  refine wp_mono (reconcileLinkLocked_verdict ops) (fun changed u hu => ?_) (fun e u hu => ?_)
  · rw [← hfails]
    rcases hu with ⟨-, happlies, -⟩ | ⟨-, -, hfine, -⟩
    · exact happlies.not_fails
    · exact hfine
  · rw [← hfails]
    exact hu

/-- Both links: on success every change is in a flag, on failure a change was lost exactly in
the starved case. -/
theorem reconcileLinks_report :
    wp (reconcileLinks ops)
      (fun changed t => ¬StarvedReport ops s ∧ (LeaseChanged s t → (changed.1 || changed.2) = true))
      (fun _ t => StarvedReport ops s ↔ LeaseChanged s t) s := by
  have hrecords := wp_of_after (I := fun t : Run W => wifiRecords t = wifiRecords s)
    (reconcileLinkLocked_wifiRecords ops s)
  unfold reconcileLinks
  rw [wp_bind, wp_getPlane, wp_bind]
  refine wp_mono (wp_and (reconcileLinkLocked_verdict ops) hrecords) (fun ethChanged t ht => ?_)
    (fun e t ht => ?_)
  · obtain ⟨hverdict, hwifi⟩ := ht
    rw [wp_bind]
    refine wp_mono (wp_and (reconcileLinkLocked_verdict ops)
      (reconcileLinkLocked_wifi_verdict hwifi)) (fun wifiChanged u hu => ?_) (fun e u hu => ?_)
    · obtain ⟨hpass, hfine⟩ := hu
      rcases hverdict with ⟨rfl, happlies, -⟩ | ⟨rfl, hplane, -, hno⟩
      · refine ⟨fun hstarved => ?_, fun _ => rfl⟩
        obtain ⟨w, happlies', hfails⟩ := hstarved
        rw [happlies'.unique happlies] at hfails
        exact hfine hfails
      · refine ⟨fun ⟨w, happlies, _⟩ => hno w happlies, fun hchanged => ?_⟩
        rcases hpass with ⟨rfl, -, -⟩ | ⟨-, hplane', -, -⟩
        · rfl
        · refine absurd hchanged (not_leaseChanged_of_config ?_)
          rw [configOf, hplane', hplane]
    · obtain ⟨-, hfails, hconfig⟩ := hu
      rcases hverdict with ⟨-, happlies, hfp⟩ | ⟨-, hplane, -, hno⟩
      · refine iff_of_true ⟨t.world, happlies, hfails⟩ (Or.inl ?_)
        have hnames : t.plane.names = s.plane.names := congrArg Prod.fst hwifi
        rw [show u.plane.eth = t.plane.eth from congrArg (·.eth) hconfig]
        rw [← hnames, t.plane.linkFor_eth, hnames, s.plane.linkFor_eth] at hfp
        exact hfp
      · refine iff_of_false (fun ⟨w, happlies, _⟩ => hno w happlies)
          (not_leaseChanged_of_config ?_)
        rw [hconfig, configOf, hplane]
  · refine iff_of_false ?_ (not_leaseChanged_of_config ht.1.2)
    rintro ⟨w, happlies, -⟩
    exact happlies.not_fails ht.1.1

/-- The fast pass always returns, and loses a change exactly in the starved case. -/
theorem reconcileChanged_report (ops : NetworkControlPlaneOps W) (s : Run W) :
    wp (reconcileChanged ops)
      (fun result t => (LeaseChanged s t → result.1 = true) ↔ ¬StarvedReport ops s)
      (fun _ _ => False) s := by
  unfold reconcileChanged
  rw [wp_bind, wp_attempt]
  refine wp_mono reconcileLinks_report (fun changed t ht => ?_) (fun e t ht => ?_)
  · refine wp_bind.mpr (wp_getPlane.mpr (wp_split (fun hdirty => ?_) (fun hquiet => ?_)))
    · rw [wp_bind, wp_attempt]
      exact wp_of_framing (recomputeDnsLocked_config ops)
        (fun _ _ _ => iff_of_true (fun _ => rfl) ht.1) (fun _ _ _ => iff_of_true (fun _ => rfl) ht.1)
    · refine iff_of_true (fun hchanged => absurd ?_ hquiet) ht.1
      have hflag := ht.2 hchanged
      simp only [Bool.or_eq_true] at hflag ⊢
      exact Or.inl hflag
  · show (LeaseChanged s t → false = true) ↔ _
    rw [ht]
    simp

/-- **When lease changes are reported.**  The fast pass returns, and it reports every change
of a stored fingerprint exactly if it is not the case that Ethernet applies a new lease and
the Wi-Fi pass fails.  Then the daemon reports the change and the reactor observes the state
in that tick, whatever else happened in it. -/
theorem lease_change_reported_iff (ops : NetworkControlPlaneOps W) (s : Run W) :
    (∃ changed outcome t, reconcileChanged ops s = .ok (changed, outcome) t ∧
      ((LeaseChanged s t → changed = true) ↔ ¬StarvedReport ops s)) ∧
    (¬StarvedReport ops s → ∀ eventSource dhcpProcessChanged runtimeDirty changed outcome t,
      daemonReconcile ops eventSource dhcpProcessChanged s = .ok (changed, outcome) t →
      LeaseChanged s t → observesState changed runtimeDirty = true) := by
  have hreport := reconcileChanged_report ops s
  unfold wp at hreport
  cases hrun : reconcileChanged ops s with
  | error e t => rw [hrun] at hreport; exact hreport.elim
  | ok result t =>
    rw [hrun] at hreport
    refine ⟨⟨result.1, result.2, t, rfl, hreport⟩, fun hfine eventSource dhcpProcessChanged
      runtimeDirty changed outcome u hdaemon hchanged => ?_⟩
    unfold daemonReconcile at hdaemon
    cases eventSource with
    | true =>
      simp only [if_true, run_bind, hrun, run_pure, EStateM.Result.ok.injEq, Prod.mk.injEq]
        at hdaemon
      obtain ⟨⟨rfl, -⟩, rfl⟩ := hdaemon
      simp [observesState, hreport.mpr hfine hchanged]
    | false =>
      simp only [Bool.false_eq_true, if_false, run_bind] at hdaemon
      cases hfull : attempt (reconcile ops) s with
      | ok r v =>
        simp only [hfull, run_pure, EStateM.Result.ok.injEq, Prod.mk.injEq] at hdaemon
        obtain ⟨⟨rfl, -⟩, -⟩ := hdaemon
        rfl
      | error e v =>
        rw [hfull] at hdaemon
        exact nomatch hdaemon

/-- Both clients run; Ethernet has just been given a lease and the Wi-Fi lease file is
unreadable. -/
def starvedRun : Run LeaseFiles :=
  let ethStarted := after ((Operation.startDhcp "eth0").perform leaseFilePorts)
    (fresh .standard ⟨.ok none, .ok none⟩)
  let bothStarted := after ((Operation.startDhcp "wlan0").perform leaseFilePorts) ethStarted
  { bothStarted with world := ⟨.ok (some wiredLease), .error "invalid DHCP lease file"⟩ }

/-- The Ethernet lease is applied and kept, and the pass reports no change. -/
theorem starvedRun_unreported :
    Reachable leaseFilePorts (fun _ _ => True) starvedRun ∧
      wp (reconcileChanged leaseFilePorts)
        (fun result t => result.1 = false ∧ LeaseChanged starvedRun t) (fun _ _ => False)
        starvedRun := by
  refine ⟨?_, by decide +kernel⟩
  exact .environment _ (.perform _ (.perform _ (.fresh _ _) trivial) trivial)

end NetworkService.ControlPlane
