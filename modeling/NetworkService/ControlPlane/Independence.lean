import NetworkService.Library.Lockstep
import NetworkService.ControlPlane.LinkPass

/-!
# What Ethernet can do to Wi-Fi

Two executions of `reconcile` start from the same records on platforms that differ only in
what the ports do for Ethernet.  The Wi-Fi pass itself runs in lockstep on both.  But it runs
only if the Ethernet pass before it did not fail, so one link can starve the other: the Wi-Fi
outcome is the same exactly if Ethernet fails in both executions or in neither, or Wi-Fi has
no lease fact to act on.
-/

namespace NetworkService.ControlPlane

open Fallible NetworkControlPlane

/-- The calls whose purpose is to configure `iface`. -/
def PortCall.configures (iface : String) : PortCall → Bool
  | .applyIpv4 i _ _ | .setDefaultRoute i _ _ | .clearDefaultRoute i _ _ => i = iface
  | _ => false

/-- The configuring calls for `iface` in a log. -/
def configCalls (iface : String) (log : List PortEvent) : List PortCall :=
  (log.map PortEvent.call).filter (PortCall.configures iface)

variable {W W₁ W₂ : Type}

/-- The Wi-Fi link record after `m`, started with the records `p` on the platform `w`. -/
def wifiAfter {α : Type} (m : Op W α) (p : NetworkControlPlane) (w : W) : LinkState :=
  (after m ⟨p, w, []⟩).plane.wifi

/-- The configuring calls for Wi-Fi that its lease fact causes.  Both overloads of `reconcile`
start with the link passes and make every such call there. -/
def wifiLeaseCalls (ops : NetworkControlPlaneOps W) (p : NetworkControlPlane) (w : W) :
    List PortCall :=
  configCalls p.names.wifi (after (reconcileLinks ops) ⟨p, w, []⟩).log

/-- Platforms that differ in Ethernet only: `V` relates platforms that look the same to Wi-Fi,
Ethernet calls on either side cannot be seen from there, and Wi-Fi calls get the same reply. -/
structure SameForWifi (ops₁ : NetworkControlPlaneOps W₁) (ops₂ : NetworkControlPlaneOps W₂)
    (names : IfaceNames) (V : W₁ → W₂ → Prop) : Prop where
  available : ∀ port, ops₁.available port = ops₂.available port
  ethLeft : ∀ c w₁ w₂, PortCall.iface? c = some names.eth → V w₁ w₂ → V (ops₁.call c w₁).2 w₂
  ethRight : ∀ c w₁ w₂, PortCall.iface? c = some names.eth → V w₁ w₂ → V w₁ (ops₂.call c w₂).2
  wifi : ∀ c w₁ w₂, PortCall.iface? c = some names.wifi → V w₁ w₂ →
    (ops₁.call c w₁).1 = (ops₂.call c w₂).1 ∧ V (ops₁.call c w₁).2 (ops₂.call c w₂).2

/-- A `deconfig` fact leaves a trace: a recorded route is withdrawn, or the record changes
because the address could be cleared. -/
def DeconfigActs (ops : NetworkControlPlaneOps W) (p : NetworkControlPlane) (iface : String)
    (w : W) : Prop :=
  if (p.ownedRouteFor iface).active then ops.available .clearDefaultRoute = true
  else ops.available .clearIpv4 = true →
    PortCall.succeeded (.clearIpv4 iface) (ops.call (.clearIpv4 iface) w).1 = true

/-- What the ports and the records let a new fact do that can be seen from outside: a
configuring call, or a change of the record. -/
def FactActs (ops : NetworkControlPlaneOps W) (p : NetworkControlPlane) (iface : String) (w : W)
    (fact : DhcpLeaseFact) : Prop :=
  if fact.event = .deconfig then DeconfigActs ops p iface (ops.call (.readLease iface) w).2
  else fact.configured = true ∧ ops.available .applyIpv4 = true

/-- The link has a new fact to act on. -/
def LeaseActs (ops : NetworkControlPlaneOps W) (p : NetworkControlPlane) (iface : String) (w : W) :
    Prop :=
  ∃ fact, NewFact ops p iface w fact ∧ FactActs ops p iface w fact

/-! ### The Wi-Fi pass in lockstep -/

/-- The same to Wi-Fi: platform, records and the configuring calls so far. -/
structure WifiAlike (names : IfaceNames) (V : W₁ → W₂ → Prop) (s₁ : Run W₁) (s₂ : Run W₂) :
    Prop where
  names_eq : s₁.plane.names = names
  world : V s₁.world s₂.world
  records : wifiRecords s₁ = wifiRecords s₂
  calls : configCalls names.wifi s₁.log = configCalls names.wifi s₂.log

section Lockstep

variable {ops₁ : NetworkControlPlaneOps W₁} {ops₂ : NetworkControlPlaneOps W₂}
  {names : IfaceNames} {V : W₁ → W₂ → Prop}

theorem WifiAlike.view {s₁ : Run W₁} {s₂ : Run W₂} (h : WifiAlike names V s₁ s₂) :
    s₁.plane.view names.wifi = s₂.plane.view names.wifi := by
  obtain ⟨hnames, -, hrecords, -⟩ := h
  simp only [wifiRecords, Prod.mk.injEq] at hrecords
  obtain ⟨hnames₂, hwifi, hroute, hpolicy⟩ := hrecords
  subst hnames
  unfold NetworkControlPlane.view routeAllowed routeMetric
  rw [linkFor_wifi, ownedRouteFor_wifi, hnames₂, linkFor_wifi, ownedRouteFor_wifi, hwifi, hroute,
    hpolicy]

theorem lockstep_getPlane {α : Type} {f₁ : NetworkControlPlane → Op W₁ α}
    {f₂ : NetworkControlPlane → Op W₂ α}
    (hf : ∀ p₁ p₂, p₁.view names.wifi = p₂.view names.wifi →
      Lockstep (WifiAlike names V) (f₁ p₁) (f₂ p₂)) :
    Lockstep (WifiAlike names V) (getPlane >>= f₁) (getPlane >>= f₂) :=
  fun s₁ s₂ hs => hf s₁.plane s₂.plane hs.view s₁ s₂ hs

theorem lockstep_check {α : Type} (r : Except String α) :
    Lockstep (WifiAlike names V) (check r) (check r) := by
  cases r with
  | ok a => exact Lockstep.pure a
  | error e => exact Lockstep.throw e

theorem configCalls_record {s : Run W} {c : PortCall} {r : c.Reply} {w : W} (iface : String) :
    configCalls iface (s.record c r w).log =
      if c.configures iface then c :: configCalls iface s.log else configCalls iface s.log := by
  unfold configCalls
  rw [record_log, List.map_cons, List.filter_cons]

theorem lockstep_invoke (h : SameForWifi ops₁ ops₂ names V) {c : PortCall}
    (hc : c.iface? = some names.wifi) :
    Lockstep (WifiAlike names V) (invoke ops₁ c) (invoke ops₂ c) := by
  intro s₁ s₂ hs
  obtain ⟨hreply, hworld⟩ := h.wifi c s₁.world s₂.world hc hs.world
  refine ⟨hreply, hs.names_eq, hworld, hs.records, ?_⟩
  rw [configCalls_record, configCalls_record, hs.calls]

theorem wifiRecords_setOwnedRoute {s : Run W} (hs : s.plane.names = names)
    (owned : OwnedRouteState) :
    wifiRecords { s with plane := s.plane.setOwnedRoute names.wifi owned } =
      (names, s.plane.wifi, owned, s.plane.routePolicy) := by
  subst hs
  rw [setOwnedRoute_wifi]
  rfl

theorem wifiRecords_setLink {s : Run W} (hs : s.plane.names = names) (g : LinkState → LinkState) :
    wifiRecords { s with plane := s.plane.setLink names.wifi (g (s.plane.linkFor names.wifi)) } =
      (names, g s.plane.wifi, s.plane.wifiRoute, s.plane.routePolicy) := by
  subst hs
  rw [setLink_wifi, linkFor_wifi]
  rfl

theorem lockstep_setOwnedRoute (owned : OwnedRouteState) :
    Lockstep (WifiAlike names V) (modifyPlane fun p => p.setOwnedRoute names.wifi owned)
      (modifyPlane fun p => p.setOwnedRoute names.wifi owned) := by
  intro s₁ s₂ hs
  refine ⟨rfl, setOwnedRoute_names.trans hs.names_eq, hs.world, ?_, hs.calls⟩
  have hrecords := hs.records
  simp only [wifiRecords, Prod.mk.injEq] at hrecords
  obtain ⟨hnames, hwifi, -, hpolicy⟩ := hrecords
  rw [wifiRecords_setOwnedRoute hs.names_eq,
    wifiRecords_setOwnedRoute (hnames.symm.trans hs.names_eq), hwifi, hpolicy]

theorem lockstep_setLink (g : LinkState → LinkState) :
    Lockstep (WifiAlike names V)
      (modifyPlane fun p => p.setLink names.wifi (g (p.linkFor names.wifi)))
      (modifyPlane fun p => p.setLink names.wifi (g (p.linkFor names.wifi))) := by
  intro s₁ s₂ hs
  refine ⟨rfl, setLink_names.trans hs.names_eq, hs.world, ?_, hs.calls⟩
  have hrecords := hs.records
  simp only [wifiRecords, Prod.mk.injEq] at hrecords
  obtain ⟨hnames, hwifi, hroute, hpolicy⟩ := hrecords
  rw [wifiRecords_setLink hs.names_eq, wifiRecords_setLink (hnames.symm.trans hs.names_eq), hwifi,
    hroute, hpolicy]

variable (h : SameForWifi ops₁ ops₂ names V)

include h

theorem lockstep_clear : Lockstep (WifiAlike names V) (clearOwnedRouteLocked ops₁ names.wifi)
    (clearOwnedRouteLocked ops₂ names.wifi) := by
  refine lockstep_getPlane fun p₁ p₂ hview => ?_
  have hroute : p₁.ownedRouteFor names.wifi = p₂.ownedRouteFor names.wifi :=
    congrArg (·.2.1) hview
  dsimp only
  rw [hroute, h.available]
  refine Lockstep.ite ?_ (Lockstep.pure ())
  refine Lockstep.bind (Lockstep.require _ _) fun _ => ?_
  refine Lockstep.bind (lockstep_invoke h (c := .clearDefaultRoute _ _ _) rfl) fun r => ?_
  exact Lockstep.bind (lockstep_check r) fun _ => lockstep_setOwnedRoute {}

theorem lockstep_ensure (gateway4 : String) (metric : Int) :
    Lockstep (WifiAlike names V) (ensureOwnedRouteLocked ops₁ names.wifi gateway4 metric)
      (ensureOwnedRouteLocked ops₂ names.wifi gateway4 metric) := by
  unfold ensureOwnedRouteLocked
  rw [h.available]
  refine Lockstep.ite (lockstep_clear h) ?_
  refine Lockstep.bind (Lockstep.require _ _) fun _ => lockstep_getPlane fun p₁ p₂ hview => ?_
  have hroute : p₁.ownedRouteFor names.wifi = p₂.ownedRouteFor names.wifi :=
    congrArg (·.2.1) hview
  rw [hroute]
  refine Lockstep.bind (Lockstep.when (lockstep_clear h)) fun _ => ?_
  refine Lockstep.bind (lockstep_invoke h (c := .setDefaultRoute _ _ _) rfl) fun r => ?_
  exact Lockstep.bind (lockstep_check r) fun _ => lockstep_setOwnedRoute _

theorem lockstep_deconfigureLink (fact : DhcpLeaseFact) :
    Lockstep (WifiAlike names V) (deconfigureLink ops₁ names.wifi fact)
      (deconfigureLink ops₂ names.wifi fact) := by
  unfold deconfigureLink
  rw [h.available]
  refine Lockstep.bind (lockstep_clear h) fun _ => Lockstep.bind (Lockstep.when ?_) fun _ => ?_
  · exact Lockstep.bind (lockstep_invoke h (c := .clearIpv4 _) rfl) fun r => lockstep_check r
  · exact lockstep_setLink fun link =>
      { link with active := false, lease := fact, fingerprint := fact.fingerprint }

theorem lockstep_configureLink (fact : DhcpLeaseFact) :
    Lockstep (WifiAlike names V) (configureLink ops₁ names.wifi fact)
      (configureLink ops₂ names.wifi fact) := by
  unfold configureLink
  rw [h.available]
  refine Lockstep.bind (Lockstep.require _ _) fun _ => Lockstep.bind (Lockstep.require _ _) fun _ => ?_
  refine Lockstep.bind (lockstep_invoke h (c := .applyIpv4 _ _ _) rfl) fun r => ?_
  refine Lockstep.bind (lockstep_check r) fun _ => Lockstep.bind ?_ fun _ => ?_
  · refine lockstep_getPlane fun p₁ p₂ hview => ?_
    rw [show p₁.routeAllowed names.wifi = p₂.routeAllowed names.wifi from
      congrArg (·.2.2.1) hview, show p₁.routeMetric names.wifi = p₂.routeMetric names.wifi from
      congrArg (·.2.2.2) hview]
    exact Lockstep.ite (lockstep_ensure h _ _) (lockstep_clear h)
  · exact lockstep_setLink fun link =>
      { link with active := true, lease := fact, fingerprint := fact.fingerprint }

/-- **The Wi-Fi pass cannot tell the two platforms apart.** -/
theorem lockstep_reconcileLink :
    Lockstep (WifiAlike names V) (reconcileLinkLocked ops₁ names.wifi)
      (reconcileLinkLocked ops₂ names.wifi) := by
  refine lockstep_getPlane fun p₁ p₂ hview => ?_
  rw [show p₁.linkFor names.wifi = p₂.linkFor names.wifi from congrArg (·.1) hview]
  dsimp only
  rw [h.available]
  refine Lockstep.ite ?_ (Lockstep.pure _)
  refine Lockstep.bind (Lockstep.require _ _) fun _ => ?_
  refine Lockstep.bind (lockstep_invoke h (c := .readLease _) rfl) fun reply => ?_
  refine Lockstep.bind (lockstep_check reply) fun lease => ?_
  cases lease with
  | none => exact Lockstep.pure _
  | some fact =>
    refine Lockstep.ite (Lockstep.pure _) (Lockstep.ite ?_ ?_)
    · exact Lockstep.bind (lockstep_deconfigureLink h fact) fun _ => Lockstep.pure _
    · exact Lockstep.bind (lockstep_configureLink h fact) fun _ => Lockstep.pure _

end Lockstep

/-! ### The Ethernet pass from Wi-Fi's side -/

section EthernetPass

variable {ops₁ : NetworkControlPlaneOps W₁} {ops₂ : NetworkControlPlaneOps W₂}
  {names : IfaceNames} {V : W₁ → W₂ → Prop} {s₁ : Run W₁} {s₂ : Run W₂}

/-- A call that names Ethernet does not configure Wi-Fi. -/
theorem configCalls_record_eth {s : Run W} {c : PortCall} {r : c.Reply} {w : W}
    (hc : c.iface? = some names.eth) :
    configCalls names.wifi (s.record c r w).log = configCalls names.wifi s.log := by
  have hno : c.configures names.wifi = false := by
    cases c <;> simp_all [PortCall.configures, PortCall.iface?, names.distinct]
  rw [configCalls_record, hno]
  rfl

theorem WifiAlike.eth_left (h : SameForWifi ops₁ ops₂ names V) (hs : WifiAlike names V s₁ s₂) :
    WifiAlike names V (after (reconcileLinkLocked ops₁ names.eth) s₁) s₂ := by
  have hsteps : LinkSteps ops₁ names.eth (Keeping fun s => WifiAlike names V s s₂) := by
    have hframe := wifiRecords_steps ops₁ names
    refine ⟨fun c hc _ s hs => ?_, fun owned s hs => ?_, fun f s hs => ?_⟩
    · exact ⟨hs.names_eq, h.ethLeft c _ _ hc hs.world, hs.records,
        (configCalls_record_eth hc).trans hs.calls⟩
    · obtain ⟨hnames, hrecords⟩ := hframe.route owned s hs.names_eq
      exact ⟨hnames, hs.world, hrecords.trans hs.records, hs.calls⟩
    · obtain ⟨hnames, hrecords⟩ := hframe.link f s hs.names_eq
      exact ⟨hnames, hs.world, hrecords.trans hs.records, hs.calls⟩
  exact hsteps.reconcileLink s₁ hs

theorem WifiAlike.eth_right (h : SameForWifi ops₁ ops₂ names V) (hs : WifiAlike names V s₁ s₂) :
    WifiAlike names V s₁ (after (reconcileLinkLocked ops₂ names.eth) s₂) := by
  have hsteps : LinkSteps ops₂ names.eth (Keeping fun s => WifiAlike names V s₁ s) := by
    have hframe := wifiRecords_steps ops₂ names
    have hnames₂ : ∀ {s : Run W₂}, WifiAlike names V s₁ s → s.plane.names = names :=
      fun hs => (congrArg (·.1) hs.records).symm.trans hs.names_eq
    refine ⟨fun c hc _ s hs => ?_, fun owned s hs => ?_, fun f s hs => ?_⟩
    · exact ⟨hs.names_eq, h.ethRight c _ _ hc hs.world, hs.records,
        hs.calls.trans (configCalls_record_eth hc).symm⟩
    · obtain ⟨-, hrecords⟩ := hframe.route owned s (hnames₂ hs)
      exact ⟨hs.names_eq, hs.world, hs.records.trans hrecords.symm, hs.calls⟩
    · obtain ⟨-, hrecords⟩ := hframe.link f s (hnames₂ hs)
      exact ⟨hs.names_eq, hs.world, hs.records.trans hrecords.symm, hs.calls⟩
  exact hsteps.reconcileLink s₂ hs

end EthernetPass

/-! ### When a pass leaves no trace -/

section Silence

variable (ops : NetworkControlPlaneOps W) {s : Run W} {iface : String}

/-- No configuring call is ever taken back. -/
def Growing (iface : String) (s t : Run W) : Prop :=
  (configCalls iface s.log).length ≤ (configCalls iface t.log).length

instance : Std.Refl (Growing (W := W) iface) := ⟨fun _ => Nat.le_refl _⟩

instance : IsTrans (Run W) (Growing iface) := ⟨fun _ _ _ h h' => Nat.le_trans h h'⟩

theorem growing_steps (iface : String) : LinkSteps ops iface (Growing iface) where
  call c _ _ s := by
    unfold Growing
    rw [after_ok (run_invoke ops c s), configCalls_record]
    split
    · exact Nat.le_succ _
    · exact Nat.le_refl _
  route _ _ := Nat.le_refl _
  link _ _ := Nat.le_refl _

/-- The run `t` shows no trace of the pass: same link record, no new configuring call. -/
def Silent (iface : String) (s t : Run W) : Prop :=
  t.plane.linkFor iface = s.plane.linkFor iface ∧
    configCalls iface t.log = configCalls iface s.log

/-- After a configuring call nothing that follows can be silent. -/
theorem not_silent_of_call {α : Type} {m : Op W α} {c : PortCall} {r : c.Reply} {w : W}
    (hc : c.configures iface = true) (hm : Along (Growing iface) m) :
    ¬Silent iface s (after m (s.record c r w)) := by
  rintro ⟨-, hcalls⟩
  have hgrows := hm (s.record c r w)
  unfold Growing at hgrows
  rw [hcalls, configCalls_record, if_pos hc, List.length_cons] at hgrows
  omega

theorem silent_refl : Silent iface s s := ⟨rfl, rfl⟩

theorem deconfigureLink_silent {fact : DhcpLeaseFact}
    (hfresh : fact.fingerprint ≠ (s.plane.linkFor iface).fingerprint) :
    wp (deconfigureLink ops iface fact)
      (fun _ t => Silent iface s t ↔ ¬DeconfigActs ops s.plane iface s.world)
      (fun _ t => Silent iface s t ↔ ¬DeconfigActs ops s.plane iface s.world) s := by
  -- once the record holds the fact, the pass has left a trace
  have hkept : ∀ t : Run W, ¬Silent iface s ⟨t.plane.setLink iface
      { t.plane.linkFor iface with
        active := false, lease := fact, fingerprint := fact.fingerprint }, t.world, t.log⟩ := by
    rintro t ⟨hlink, -⟩
    rw [linkFor_setLink] at hlink
    exact hfresh (by rw [← hlink])
  have hsteps := growing_steps ops iface
  unfold deconfigureLink clearOwnedRouteLocked DeconfigActs
  rw [wp_bind, wp_bind, wp_getPlane]
  by_cases hactive : (s.plane.ownedRouteFor iface).active = true
  · simp only [if_pos hactive]
    rw [wp_bind, wp_require]
    split
    · next havail =>
      rw [wp_bind]
      refine wp_invoke.mpr ?_
      rw [← wp_bind]
      refine wp_of_after (I := fun t : Run W => Silent iface s t ↔ _) (iff_of_false ?_ ?_)
      · refine not_silent_of_call (c := .clearDefaultRoute iface _ _) ?_ ?_
        · simp [PortCall.configures]
        · refine Along.bind (Along.bind (along_check _) fun _ => hsteps.route {}) fun _ => ?_
          refine Along.bind (Along.when ?_) fun _ => hsteps.link _
          exact Along.bind (hsteps.call (.clearIpv4 iface) rfl rfl) fun r => along_check r
      · exact fun hno => hno havail
    · next havail => exact iff_of_true silent_refl havail
  · simp only [if_neg hactive]
    rw [wp_pure, wp_bind, wp_when]
    split
    · next havail =>
      rw [wp_bind]
      refine wp_invoke.mpr ?_
      rw [wp_check]
      refine ⟨fun _ hok => ?_, fun _ herror => ?_⟩
      · exact iff_of_false (hkept _) fun hno => hno fun _ => congrArg Except.isOk hok
      · refine iff_of_true ⟨rfl, ?_⟩ fun hok => ?_
        · rw [configCalls_record]
          rfl
        · cases (hok havail).symm.trans (congrArg Except.isOk herror)
    · next havail => exact iff_of_false (hkept s) fun hno => hno fun h => absurd h havail

theorem configureLink_silent {fact : DhcpLeaseFact} :
    wp (configureLink ops iface fact)
      (fun _ t => Silent iface s t ↔ ¬(fact.configured = true ∧ ops.available .applyIpv4 = true))
      (fun _ t => Silent iface s t ↔ ¬(fact.configured = true ∧ ops.available .applyIpv4 = true))
      s := by
  have hsteps := growing_steps ops iface
  unfold configureLink
  rw [wp_bind, wp_require]
  split
  · next hfact =>
    rw [wp_bind, wp_require]
    split
    · next havail =>
      rw [wp_bind]
      refine wp_invoke.mpr ?_
      refine wp_of_after (I := fun t : Run W => Silent iface s t ↔ _) (iff_of_false ?_ ?_)
      · refine not_silent_of_call (c := .applyIpv4 iface _ _) ?_ ?_
        · simp [PortCall.configures]
        · refine Along.bind (along_check _) fun _ => Along.bind ?_ fun _ => hsteps.link _
          exact Along.bind along_getPlane fun p => Along.ite (hsteps.ensure _ _) hsteps.clear
      · exact fun hno => hno ⟨hfact, havail⟩
    · next havail => exact iff_of_true silent_refl fun h => havail h.2
  · next hfact => exact iff_of_true silent_refl fun h => hfact h.1

/-- **A pass leaves no trace exactly if the link has no fact to act on.** -/
theorem reconcileLinkLocked_silent :
    wp (reconcileLinkLocked ops iface)
      (fun _ t => Silent iface s t ↔ ¬LeaseActs ops s.plane iface s.world)
      (fun _ t => Silent iface s t ↔ ¬LeaseActs ops s.plane iface s.world) s := by
  -- the read itself is not a configuring call
  have hread : ∀ (r : Except String (Option DhcpLeaseFact)) (w : W) (t : Run W),
      Silent iface (s.record (.readLease iface) r w) t ↔ Silent iface s t := by
    intro r w t
    unfold Silent
    rw [configCalls_record]
    exact Iff.rfl
  unfold reconcileLinkLocked
  rw [wp_bind, wp_getPlane]
  refine wp_split (fun hmanaged => ?_) (fun hmanaged => ?_)
  · rw [wp_bind, wp_require]
    split
    · next hreader =>
      rw [wp_bind]
      refine wp_invoke.mpr ?_
      rw [wp_bind, wp_check]
      have hquiet : (∀ fact, ¬NewFact ops s.plane iface s.world fact) →
          ∀ r w, Silent iface s (s.record (.readLease iface) r w) ↔
            ¬LeaseActs ops s.plane iface s.world :=
        fun hno r w => iff_of_true ((hread r w _).mp silent_refl)
          fun ⟨fact, hnew, _⟩ => hno fact hnew
      refine ⟨fun lease hlease => ?_, fun e herror => hquiet (fun fact hnew => ?_) _ _⟩
      · cases lease with
        | none =>
          refine hquiet (fun fact hnew => ?_) _ _
          simpa using hlease.symm.trans hnew.read
        | some fact =>
          refine wp_split (fun hsame => ?_) (fun hfresh => ?_)
          · refine hquiet (fun fact' hnew => hnew.fresh ?_) _ _
            have hfact : fact = fact' := by
              simpa using hlease.symm.trans hnew.read
            rw [← hfact]
            exact hsame
          · have hnew : NewFact ops s.plane iface s.world fact :=
              ⟨hmanaged, hreader, hlease, hfresh⟩
            have hacts : LeaseActs ops s.plane iface s.world ↔
                FactActs ops s.plane iface s.world fact := by
              refine ⟨fun ⟨fact', hnew', h⟩ => ?_, fun h => ⟨fact, hnew, h⟩⟩
              rw [hnew.unique hnew']
              exact h
            unfold FactActs at hacts
            refine wp_split (fun hevent => ?_) (fun hevent => ?_)
            · rw [if_pos hevent] at hacts
              refine wp_bind.mpr (wp_mono (deconfigureLink_silent ops hfresh) (fun _ t ht => ?_)
                (fun _ t ht => ?_))
              · exact ((hread _ _ t).symm.trans ht).trans (not_congr hacts).symm
              · exact ((hread _ _ t).symm.trans ht).trans (not_congr hacts).symm
            · rw [if_neg hevent] at hacts
              refine wp_bind.mpr (wp_mono (configureLink_silent ops) (fun _ t ht => ?_)
                (fun _ t ht => ?_))
              · exact ((hread _ _ t).symm.trans ht).trans (not_congr hacts).symm
              · exact ((hread _ _ t).symm.trans ht).trans (not_congr hacts).symm
      · exact nomatch herror.symm.trans hnew.read
    · next hreader =>
      exact iff_of_true silent_refl fun ⟨fact, hnew, _⟩ => hreader hnew.reader
  · exact iff_of_true silent_refl fun ⟨fact, hnew, _⟩ => hmanaged hnew.managed

end Silence

/-! ### The two executions -/

section Executions

variable (ops : NetworkControlPlaneOps W) (s : Run W)

theorem wifi_of_config {t u : Run W} (ht : t = after (reconcileLinks ops) s)
    (hu : configOf u = configOf t) :
    u.plane.wifi = (after (reconcileLinks ops) s).plane.wifi := by
  rw [← ht]
  exact congrArg (·.wifi) hu

/-- Both overloads leave the Wi-Fi record as the link passes left it. -/
theorem reconcile_wifi :
    (after (reconcile ops) s).plane.wifi = (after (reconcileLinks ops) s).plane.wifi := by
  have hrest : Along (Framing configOf) (do repairOwnedStateLocked ops; recomputeDnsLocked ops) :=
    Along.bind (repairOwnedStateLocked_config ops) fun _ => recomputeDnsLocked_config ops
  refine after_of_wp (I := fun t : Run W => t.plane.wifi = _) ?_
  unfold reconcile
  rw [wp_bind]
  refine wp_mono (wp_of_after (I := fun t => t = after (reconcileLinks ops) s) rfl)
    (fun _ t ht => ?_) (fun _ t ht => by rw [ht])
  exact wp_of_framing hrest (fun _ u hu => wifi_of_config ops s ht hu)
    (fun _ u hu => wifi_of_config ops s ht hu)

theorem reconcileChanged_wifi :
    (after (reconcileChanged ops) s).plane.wifi = (after (reconcileLinks ops) s).plane.wifi := by
  refine after_of_wp (I := fun t : Run W => t.plane.wifi = _) ?_
  unfold reconcileChanged
  rw [wp_bind, wp_attempt]
  refine wp_mono (wp_of_after (I := fun t => t = after (reconcileLinks ops) s) rfl)
    (fun _ t ht => ?_) (fun _ t ht => wifi_of_config ops s ht rfl)
  refine wp_bind.mpr (wp_getPlane.mpr (wp_split (fun _ => ?_) fun _ => wifi_of_config ops s ht rfl))
  rw [wp_bind, wp_attempt]
  exact wp_of_framing (recomputeDnsLocked_config ops) (fun _ u hu => wifi_of_config ops s ht hu)
    (fun _ u hu => wifi_of_config ops s ht hu)

/-- The link passes stop after Ethernet if it fails and go on to Wi-Fi if it does not. -/
theorem reconcileLinks_after :
    (LinkFails ops s.plane s.plane.names.eth s.world →
      after (reconcileLinks ops) s = after (reconcileLinkLocked ops s.plane.names.eth) s) ∧
    (¬LinkFails ops s.plane s.plane.names.eth s.world →
      after (reconcileLinks ops) s = after (reconcileLinkLocked ops s.plane.names.wifi)
        (after (reconcileLinkLocked ops s.plane.names.eth) s)) := by
  have hverdict : wp (reconcileLinkLocked ops s.plane.names.eth) _ _ s :=
    reconcileLinkLocked_verdict ops
  unfold wp at hverdict
  cases hrun : reconcileLinkLocked ops s.plane.names.eth s with
  | error e t =>
    rw [hrun] at hverdict
    refine ⟨fun _ => ?_, fun hfine => absurd hverdict.1 hfine⟩
    rw [after_error hrun]
    exact after_error (e := e) (by simp only [reconcileLinks, run_bind, run_getPlane, hrun])
  | ok changed t =>
    rw [hrun] at hverdict
    have hfine : ¬LinkFails ops s.plane s.plane.names.eth s.world := by
      rcases hverdict with ⟨-, happlies, -⟩ | ⟨-, -, hfine, -⟩
      · exact happlies.not_fails
      · exact hfine
    refine ⟨fun hfails => absurd hfails hfine, fun _ => ?_⟩
    rw [after_ok hrun]
    unfold after
    simp only [reconcileLinks, run_bind, run_getPlane, hrun]
    cases reconcileLinkLocked ops s.plane.names.wifi t <;> rfl

end Executions

theorem newFact_alike {ops₁ : NetworkControlPlaneOps W₁} {ops₂ : NetworkControlPlaneOps W₂}
    {names : IfaceNames} {V : W₁ → W₂ → Prop} (h : SameForWifi ops₁ ops₂ names V)
    {s₁ : Run W₁} {s₂ : Run W₂} (hs : WifiAlike names V s₁ s₂) (fact : DhcpLeaseFact) :
    NewFact ops₁ s₁.plane names.wifi s₁.world fact ↔
      NewFact ops₂ s₂.plane names.wifi s₂.world fact := by
  have hlink : s₁.plane.linkFor names.wifi = s₂.plane.linkFor names.wifi := congrArg (·.1) hs.view
  have hreply := (h.wifi (.readLease names.wifi) s₁.world s₂.world rfl hs.world).1
  constructor
  · exact fun hn => ⟨hlink ▸ hn.managed, h.available _ ▸ hn.reader, hreply ▸ hn.read,
      hlink ▸ hn.fresh⟩
  · exact fun hn => ⟨hlink ▸ hn.managed, (h.available _).symm ▸ hn.reader, hreply.trans hn.read,
      hlink ▸ hn.fresh⟩

/-- Whether Wi-Fi has a fact to act on looks the same on both platforms. -/
theorem leaseActs_alike {ops₁ : NetworkControlPlaneOps W₁} {ops₂ : NetworkControlPlaneOps W₂}
    {names : IfaceNames} {V : W₁ → W₂ → Prop} (h : SameForWifi ops₁ ops₂ names V)
    {s₁ : Run W₁} {s₂ : Run W₂} (hs : WifiAlike names V s₁ s₂) :
    LeaseActs ops₁ s₁.plane names.wifi s₁.world ↔
      LeaseActs ops₂ s₂.plane names.wifi s₂.world := by
  have hroute : s₁.plane.ownedRouteFor names.wifi = s₂.plane.ownedRouteFor names.wifi :=
    congrArg (·.2.1) hs.view
  obtain ⟨-, hread⟩ := h.wifi (.readLease names.wifi) s₁.world s₂.world rfl hs.world
  obtain ⟨hclear, -⟩ := h.wifi (.clearIpv4 names.wifi) _ _ rfl hread
  unfold LeaseActs FactActs DeconfigActs
  simp only [newFact_alike h hs, hroute, h.available, hclear]

section Independence

variable {ops₁ : NetworkControlPlaneOps W₁} {ops₂ : NetworkControlPlaneOps W₂}
  {names : IfaceNames} {V : W₁ → W₂ → Prop}

/-- The Wi-Fi pass after a run `t` is silent exactly if Wi-Fi has no fact to act on. -/
theorem wifi_pass_same_iff (ops : NetworkControlPlaneOps W) {t : Run W}
    (ht : t.plane.names = names) :
    ((after (reconcileLinkLocked ops names.wifi) t).plane.wifi = t.plane.wifi ∧
      configCalls names.wifi (after (reconcileLinkLocked ops names.wifi) t).log =
        configCalls names.wifi t.log) ↔ ¬LeaseActs ops t.plane names.wifi t.world := by
  subst ht
  rw [← after_of_wp (I := fun u : Run W => Silent t.plane.names.wifi t u ↔ _)
    (reconcileLinkLocked_silent ops)]
  have hnames := ((namesSteps ops t.plane.names).passes.reconcileLink _ (Or.inr rfl) t rfl).1
  unfold Silent
  rw [linkFor_wifi, linkFor_of_wifi (congrArg (·.wifi) hnames.symm)]

variable {p : NetworkControlPlane} {w₁ : W₁} {w₂ : W₂}

/-- **When the interfaces reconcile independently.**  From the same records, on platforms that
differ only in Ethernet, both overloads leave the same Wi-Fi link and cause the same
configuring calls for Wi-Fi exactly if the Ethernet pass fails in both executions or in
neither, or Wi-Fi has no lease fact to act on. -/
theorem wifi_independent_iff (h : SameForWifi ops₁ ops₂ p.names V) (hV : V w₁ w₂) :
    (wifiAfter (reconcile ops₁) p w₁ = wifiAfter (reconcile ops₂) p w₂ ∧
      wifiAfter (reconcileChanged ops₁) p w₁ = wifiAfter (reconcileChanged ops₂) p w₂ ∧
      wifiLeaseCalls ops₁ p w₁ = wifiLeaseCalls ops₂ p w₂) ↔
    ((LinkFails ops₁ p p.names.eth w₁ ↔ LinkFails ops₂ p p.names.eth w₂) ∨
      ¬LeaseActs ops₁ p p.names.wifi w₁) := by
  have hstart : WifiAlike p.names V (⟨p, w₁, []⟩ : Run W₁) (⟨p, w₂, []⟩ : Run W₂) :=
    ⟨rfl, hV, rfl, rfl⟩
  have hleft := hstart.eth_left h
  have hright := hstart.eth_right h
  have hboth := hleft.eth_right h
  obtain ⟨hstop₁, hgo₁⟩ := reconcileLinks_after ops₁ ⟨p, w₁, []⟩
  obtain ⟨hstop₂, hgo₂⟩ := reconcileLinks_after ops₂ ⟨p, w₂, []⟩
  have hnames₂ := (congrArg (·.1) hboth.records).symm.trans hboth.names_eq
  have hwifi := congrArg (·.2.1) hboth.records
  unfold wifiAfter wifiLeaseCalls
  rw [reconcile_wifi, reconcile_wifi, reconcileChanged_wifi, reconcileChanged_wifi]
  by_cases hfails₁ : LinkFails ops₁ p p.names.eth w₁ <;>
    by_cases hfails₂ : LinkFails ops₂ p p.names.eth w₂
  · rw [hstop₁ hfails₁, hstop₂ hfails₂]
    exact iff_of_true ⟨hwifi, hwifi, hboth.calls⟩ (Or.inl (iff_of_true hfails₁ hfails₂))
  · -- only the first execution stops: its Wi-Fi state is that before the second one's pass
    rw [hstop₁ hfails₁, hgo₂ hfails₂, leaseActs_alike h hright,
      ← wifi_pass_same_iff ops₂ hnames₂]
    constructor
    · rintro ⟨hsame, -, hcalls⟩
      exact Or.inr ⟨hsame.symm.trans hwifi, hcalls.symm.trans hboth.calls⟩
    · rintro (hiff | ⟨hsame, hcalls⟩)
      · exact absurd (hiff.mp hfails₁) hfails₂
      · have hsame' := hwifi.trans hsame.symm
        exact ⟨hsame', hsame', hboth.calls.trans hcalls.symm⟩
  · -- and the other way round
    rw [hgo₁ hfails₁, hstop₂ hfails₂, leaseActs_alike h hstart, ← leaseActs_alike h hleft,
      ← wifi_pass_same_iff ops₁ hleft.names_eq]
    constructor
    · rintro ⟨hsame, -, hcalls⟩
      exact Or.inr ⟨hsame.trans hwifi.symm, hcalls.trans hboth.calls.symm⟩
    · rintro (hiff | ⟨hsame, hcalls⟩)
      · exact absurd (hiff.mpr hfails₂) hfails₁
      · have hsame' := hsame.trans hwifi
        exact ⟨hsame', hsame', hcalls.trans hboth.calls⟩
  · rw [hgo₁ hfails₁, hgo₂ hfails₂]
    have hafter := (lockstep_reconcileLink h).after hboth
    have hwifi' := congrArg (·.2.1) hafter.records
    exact iff_of_true ⟨hwifi', hwifi', hafter.calls⟩ (Or.inl (iff_of_false hfails₁ hfails₂))

end Independence

/-- Two pairs of lease files look the same to Wi-Fi if the Wi-Fi files do. -/
theorem leaseFilePorts_sameForWifi :
    SameForWifi leaseFilePorts leaseFilePorts .standard fun f g => f.wifi = g.wifi where
  available _ := rfl
  ethLeft c f g _ h := by cases c <;> exact h
  ethRight c f g _ h := by cases c <;> exact h
  wifi c f g hc h := by
    cases c with
    | readLease iface =>
      obtain rfl : iface = "wlan0" := Option.some.inj hc
      exact ⟨h, h⟩
    | _ => exact ⟨rfl, h⟩

/-- Both DHCP clients have been adopted and no lease has been seen yet. -/
def adoptedBoth : NetworkControlPlane where
  names := .standard
  eth := { managedDhcp := true }
  wifi := { managedDhcp := true }

/-- Two different ways to fail for Ethernet make no difference to Wi-Fi. -/
theorem wifi_independent_of_failures :
    let w₁ : LeaseFiles := ⟨.error "invalid DHCP lease file", .ok (some accessPointLease)⟩
    let w₂ : LeaseFiles := ⟨.error "stale DHCP generation", .ok (some accessPointLease)⟩
    wifiAfter (reconcile leaseFilePorts) adoptedBoth w₁ =
        wifiAfter (reconcile leaseFilePorts) adoptedBoth w₂ ∧
      wifiAfter (reconcileChanged leaseFilePorts) adoptedBoth w₁ =
        wifiAfter (reconcileChanged leaseFilePorts) adoptedBoth w₂ ∧
      wifiLeaseCalls leaseFilePorts adoptedBoth w₁ =
        wifiLeaseCalls leaseFilePorts adoptedBoth w₂ := by
  refine (wifi_independent_iff (V := fun f g : LeaseFiles => f.wifi = g.wifi) (p := adoptedBoth)
    leaseFilePorts_sameForWifi rfl).mpr (Or.inl ?_)
  exact iff_of_true ⟨rfl, Or.inr (Or.inl ⟨_, rfl⟩)⟩ ⟨rfl, Or.inr (Or.inl ⟨_, rfl⟩)⟩

/-- An unreadable Ethernet lease keeps Wi-Fi from taking its address. -/
theorem wifi_starved_by_ethernet :
    wifiAfter (reconcileChanged leaseFilePorts) adoptedBoth
        ⟨.ok none, .ok (some accessPointLease)⟩ ≠
      wifiAfter (reconcileChanged leaseFilePorts) adoptedBoth
        ⟨.error "invalid DHCP lease file", .ok (some accessPointLease)⟩ ∧
    wifiLeaseCalls leaseFilePorts adoptedBoth ⟨.ok none, .ok (some accessPointLease)⟩ ≠
      wifiLeaseCalls leaseFilePorts adoptedBoth
        ⟨.error "invalid DHCP lease file", .ok (some accessPointLease)⟩ := by
  decide +kernel

end NetworkService.ControlPlane
