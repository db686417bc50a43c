import NetworkService.ControlPlane.Executions

/-!
# Consistent records

Route, repair and DNS code never touches the link, static and policy records; only the
operations themselves edit those.  From this follow the facts every run keeps, whatever the
ports do: an active DHCP link is managed and holds a `bound` or `renew` fact, static Ethernet
excludes a managed Ethernet link, and an inactive static record is empty.
-/

namespace NetworkService.ControlPlane

open Fallible

namespace NetworkControlPlane

/-- The records without the owned routes and the resolver part. -/
def config (p : NetworkControlPlane) : NetworkControlPlane :=
  { p with
    ethRoute := {}, wifiRoute := {}
    dnsOwnershipInitialized := false, managedDns := false, lastDns := "" }

variable {p : NetworkControlPlane}

@[simp] theorem config_setOwnedRoute {iface : String} {route : OwnedRouteState} :
    (p.setOwnedRoute iface route).config = p.config := by
  unfold setOwnedRoute
  split <;> rfl

/-- The records without the resolver part. -/
def links (p : NetworkControlPlane) : NetworkControlPlane :=
  { p with dnsOwnershipInitialized := false, managedDns := false, lastDns := "" }

theorem links_setLink (p : NetworkControlPlane) (iface : String) (link : LinkState) :
    (p.setLink iface link).links = p.links.setLink iface link := by
  unfold setLink links
  dsimp only
  split <;> rfl

/-- The records after `start_dhcp` has dropped what it knew of `iface`. -/
def reset (p : NetworkControlPlane) (iface : String) : NetworkControlPlane :=
  let q := p.setLink iface {}
  if iface = q.names.eth then { q with staticEth := {} } else q

theorem reset_of_eth {iface : String} (hi : iface = p.names.eth) :
    p.reset iface = { p with eth := {}, staticEth := {} } := by
  simp [hi, reset, setLink_eth]

theorem reset_of_wifi {iface : String} (hi : iface = p.names.wifi) :
    p.reset iface = { p with wifi := {} } := by
  simp [hi, reset, setLink_wifi, Ne.symm p.names.distinct]

theorem linkFor_reset {iface : String} : (p.reset iface).linkFor iface = {} := by
  unfold reset setLink linkFor
  by_cases hi : iface = p.names.eth <;> simp [hi]

theorem staticEth_reset {iface : String} (hi : iface = p.names.eth) :
    (p.reset iface).staticEth = {} := by
  rw [reset_of_eth hi]

@[simp] theorem reset_names {iface : String} : (p.reset iface).names = p.names := by
  unfold reset setLink
  by_cases hi : iface = p.names.eth <;> simp [hi]

/-- The records after the owned route of `iface` has been cleared. -/
def withdraw (p : NetworkControlPlane) (iface : String) : NetworkControlPlane :=
  if (p.ownedRouteFor iface).active then p.setOwnedRoute iface {} else p

@[simp] theorem config_withdraw (p : NetworkControlPlane) (iface : String) :
    (p.withdraw iface).config = p.config := by
  unfold withdraw
  split
  · exact config_setOwnedRoute
  · rfl

/-- The records after the route that the lease `fact` asks for has been applied. -/
def leaseRouted (p : NetworkControlPlane) (iface : String) (fact : DhcpLeaseFact) :
    NetworkControlPlane :=
  if p.routeAllowed iface ∧ fact.gateway4 ≠ "" then
    p.setOwnedRoute iface ⟨true, fact.gateway4, p.routeMetric iface⟩
  else p.withdraw iface

@[simp] theorem config_leaseRouted (p : NetworkControlPlane) (iface : String)
    (fact : DhcpLeaseFact) : (p.leaseRouted iface fact).config = p.config := by
  unfold leaseRouted
  split
  · exact config_setOwnedRoute
  · exact config_withdraw p iface

theorem linkFor_withdraw (p : NetworkControlPlane) (iface : String) :
    (p.withdraw iface).linkFor iface = p.linkFor iface := by
  unfold withdraw
  split
  · exact p.linkFor_setOwnedRoute iface {}
  · rfl

theorem linkFor_leaseRouted (p : NetworkControlPlane) (iface : String) (fact : DhcpLeaseFact) :
    (p.leaseRouted iface fact).linkFor iface = p.linkFor iface := by
  unfold leaseRouted
  split
  · exact p.linkFor_setOwnedRoute iface _
  · exact p.linkFor_withdraw iface

theorem setOwnedRoute_withdraw (p : NetworkControlPlane) (iface : String)
    (route : OwnedRouteState) :
    (p.withdraw iface).setOwnedRoute iface route = p.setOwnedRoute iface route := by
  unfold withdraw
  split
  · unfold setOwnedRoute
    split <;> simp_all
  · rfl

end NetworkControlPlane

/-! ### Resolver selection -/

theorem dnsDecision_congr {p : NetworkControlPlane} (h : ¬p.consultsLiveEthernet = true)
    (live live' : Bool) : p.dnsDecision live = p.dnsDecision live' := by
  unfold NetworkControlPlane.dnsDecision
  cases hpolicy : p.routePolicy with
  | ethernetPreferred =>
    have husable : p.ethDnsUsable = true := by
      simpa [NetworkControlPlane.consultsLiveEthernet, hpolicy] using h
    simp only [husable, if_true]
  | wifiPreferred => rfl
  | wifiOnly => rfl
  | manualMetric => rfl

theorem dnsDecision_links {p q : NetworkControlPlane} (h : q.links = p.links) (live : Bool) :
    q.dnsDecision live = p.dnsDecision live := by
  have hq : q.links.dnsDecision live = q.dnsDecision live := rfl
  rw [← hq, h]
  rfl

theorem dnsDecision_config {p q : NetworkControlPlane} (h : q.config = p.config) (live : Bool) :
    q.dnsDecision live = p.dnsDecision live := (congrArg (·.dnsDecision live) h :)

variable {W : Type}

/-- The view of a run that route, repair and DNS code leaves alone. -/
abbrev configOf (s : Run W) : NetworkControlPlane := s.plane.config

section Frames

variable (ops : NetworkControlPlaneOps W)

theorem clearOwnedRouteLocked_config (iface : String) :
    Along (Framing configOf) (clearOwnedRouteLocked ops iface) := by
  intro s
  rcases clearOwnedRouteLocked_cases ops iface s with
    ⟨-, hrun⟩ | ⟨-, -, hrun⟩ | ⟨e, w, -, -, hrun⟩ | ⟨w, -, -, hrun⟩
  · rw [after_ok hrun]
    rfl
  · rw [after_error hrun]
    rfl
  · rw [after_error hrun]
    rfl
  · rw [after_ok hrun]
    exact NetworkControlPlane.config_setOwnedRoute

theorem Freed.config {iface gateway4 : String} {metric : Int} {s t : Run W}
    (hfreed : Freed ops iface s gateway4 metric t) : configOf t = configOf s := by
  rcases hfreed with ⟨rfl, -⟩ | hclear
  · rfl
  · rw [← after_ok hclear]
    exact clearOwnedRouteLocked_config ops iface s

theorem ensureOwnedRouteLocked_config (iface gateway4 : String) (metric : Int) :
    Along (Framing configOf) (ensureOwnedRouteLocked ops iface gateway4 metric) := by
  intro s
  by_cases hgw : gateway4 = ""
  · unfold ensureOwnedRouteLocked
    rw [if_pos hgw]
    exact clearOwnedRouteLocked_config ops iface s
  rcases ensureOwnedRouteLocked_cases ops iface s gateway4 metric hgw with
    ⟨-, hrun⟩ | ⟨e, t, hclear, hrun⟩ | ⟨t, e, w, hfreed, -, hrun⟩ | ⟨t, w, hfreed, -, hrun⟩
  · rw [after_error hrun]
    rfl
  · rw [after_error hrun, ← after_error hclear]
    exact clearOwnedRouteLocked_config ops iface s
  · rw [after_error hrun]
    exact hfreed.config
  · rw [after_ok hrun]
    exact NetworkControlPlane.config_setOwnedRoute.trans hfreed.config

theorem configSteps (N : IfaceNames) : PortSteps ops N (Framing configOf) := by
  have hwithin : ∀ {α : Type} {m : Op W α}, Along (Framing configOf) m →
      Along (Within N (Framing configOf)) m := by
    intro α m hm
    have hpart : ∀ s : Run W, (configOf s).names = s.plane.names := fun _ => rfl
    exact within_framing NetworkControlPlane.names hpart hm
  exact
    { clear := fun iface _ => hwithin (clearOwnedRouteLocked_config ops iface)
      ensure := fun iface gateway4 metric _ =>
        hwithin (ensureOwnedRouteLocked_config ops iface gateway4 metric)
      call := fun _ _ => hwithin fun _ => rfl }

/-- A DNS pass touches nothing but the resolver records. -/
theorem recomputeDnsLocked_links (s : Run W) :
    (after (recomputeDnsLocked ops) s).plane.links = s.plane.links := by
  have hsteps : DnsSteps ops (Framing fun t : Run W => t.plane.links) := by
    refine ⟨fun c _ s => rfl, fun f hf s => ?_⟩
    cases hf <;> rfl
  exact hsteps.recomputeDns s

theorem recomputeDnsLocked_config : Along (Framing configOf) (recomputeDnsLocked ops) := by
  intro s
  have hlinks := recomputeDnsLocked_links ops s
  show NetworkControlPlane.config (NetworkControlPlane.links _) = s.plane.links.config
  rw [hlinks]

theorem applyRoutesLocked_config : Along (Framing configOf) (applyRoutesLocked ops) :=
  fun s => ((configSteps ops s.plane.names).applyRoutes s rfl).2

theorem repairOwnedStateLocked_config : Along (Framing configOf) (repairOwnedStateLocked ops) :=
  fun s => ((configSteps ops s.plane.names).repairs.repairOwnedState s rfl).2

/-- The calls that `start_dhcp`, `stop_dhcp` and `apply_ethernet_static` make and ignore. -/
theorem ignoredCall_config (c : PortCall) :
    Along (Framing configOf) (do let _ ← invoke ops c : Op W Unit) :=
  Along.bind (along_invoke fun _ _ _ => rfl) fun _ => Along.pure ()

end Frames

/-! ### The invariant -/

/-- An active link is managed and was configured by the lease it holds. -/
def LinkState.Consistent (link : LinkState) : Prop :=
  link.active = true → link.managedDhcp = true ∧ link.lease.configured = true

structure Consistent (p : NetworkControlPlane) : Prop where
  eth : p.eth.Consistent
  wifi : p.wifi.Consistent
  exclusive : p.staticEth.active = true → p.eth.managedDhcp = false
  idle : p.staticEth.active = false → p.staticEth = {}

/-- What every link record satisfies that an operation assigns. -/
structure LinkRule (L : LinkState → Prop) : Prop where
  empty : L {}
  managed : L { managedDhcp := true }
  dropped : ∀ (link : LinkState) (fact : DhcpLeaseFact),
    L { link with active := false, lease := fact, fingerprint := fact.fingerprint }
  configured : ∀ (link : LinkState) (fact : DhcpLeaseFact), link.managedDhcp = true →
    fact.configured = true →
    L { link with active := true, lease := fact, fingerprint := fact.fingerprint }

/-- The records are in line with each other, and both links satisfy the rule. -/
structure ConsistentWith (L : LinkState → Prop) (p : NetworkControlPlane) : Prop where
  eth : L p.eth
  wifi : L p.wifi
  exclusive : p.staticEth.active = true → p.eth.managedDhcp = false
  idle : p.staticEth.active = false → p.staticEth = {}

theorem linkRule_consistent : LinkRule LinkState.Consistent where
  empty hactive := nomatch hactive
  managed hactive := nomatch hactive
  dropped _ _ hactive := nomatch hactive
  configured _ _ hmanaged hfact _ := ⟨hmanaged, hfact⟩

theorem consistent_iff {p : NetworkControlPlane} :
    Consistent p ↔ ConsistentWith LinkState.Consistent p :=
  ⟨fun h => ⟨h.eth, h.wifi, h.exclusive, h.idle⟩, fun h => ⟨h.eth, h.wifi, h.exclusive, h.idle⟩⟩

namespace Consistent

variable {p q : NetworkControlPlane}

theorem of_config (h : Consistent p) (hq : q.config = p.config) : Consistent q := by
  have hp : Consistent p.config := ⟨h.eth, h.wifi, h.exclusive, h.idle⟩
  rw [← hq] at hp
  exact ⟨hp.eth, hp.wifi, hp.exclusive, hp.idle⟩

theorem static_inactive (h : Consistent p)
    (hmanaged : p.eth.managedDhcp = true) : p.staticEth.active = false := by
  cases hactive : p.staticEth.active with
  | false => rfl
  | true => rw [h.exclusive hactive] at hmanaged; exact nomatch hmanaged

end Consistent

namespace ConsistentWith

variable {L : LinkState → Prop} {p q : NetworkControlPlane}

theorem of_config (h : ConsistentWith L p) (hq : q.config = p.config) : ConsistentWith L q := by
  have hp : ConsistentWith L p.config := ⟨h.eth, h.wifi, h.exclusive, h.idle⟩
  rw [← hq] at hp
  exact ⟨hp.eth, hp.wifi, hp.exclusive, hp.idle⟩

theorem setLink (h : ConsistentWith L p) {iface : String} {link : LinkState} (hlink : L link)
    (hstatic : iface = p.names.eth → p.staticEth.active = true → link.managedDhcp = false) :
    ConsistentWith L (p.setLink iface link) := by
  unfold NetworkControlPlane.setLink
  split
  · next hi => exact ⟨hlink, h.wifi, hstatic hi, h.idle⟩
  · exact ⟨h.eth, hlink, h.exclusive, h.idle⟩

theorem setLink_empty (h : ConsistentWith L p) (hL : LinkRule L) (iface : String) :
    ConsistentWith L (p.setLink iface {}) :=
  h.setLink hL.empty (fun _ _ => rfl)

theorem reset (h : ConsistentWith L p) (hL : LinkRule L) (iface : String) :
    ConsistentWith L (p.reset iface) := by
  have hempty := h.setLink_empty hL iface
  unfold NetworkControlPlane.reset
  dsimp only
  split
  · exact ⟨hempty.eth, hempty.wifi, (fun hactive => nomatch hactive), fun _ => rfl⟩
  · exact hempty

end ConsistentWith

/-! ### The operations keep it -/

/-- Both ends of `m` from `s` have records in line with the rule. -/
abbrev KeepsRule (L : LinkState → Prop) {α : Type} (m : Op W α) (s : Run W) : Prop :=
  wp m (fun _ t => ConsistentWith L t.plane) (fun _ t => ConsistentWith L t.plane) s

section Operations

variable (ops : NetworkControlPlaneOps W) {L : LinkState → Prop} {s : Run W}
  (hs : ConsistentWith L s.plane)

include hs

theorem keepsRule_of_framing {α : Type} {m : Op W α} (hm : Along (Framing configOf) m) :
    KeepsRule L m s :=
  wp_of_framing hm (fun _ _ ht => hs.of_config ht) (fun _ _ ht => hs.of_config ht)

theorem recomputeDnsLocked_keepsRule : KeepsRule L (recomputeDnsLocked ops) s :=
  keepsRule_of_framing hs (recomputeDnsLocked_config ops)

theorem refreshExternalState_keepsRule : KeepsRule L (refreshExternalState ops) s :=
  keepsRule_of_framing hs
    (Along.bind (repairOwnedStateLocked_config ops) fun _ => recomputeDnsLocked_config ops)

theorem setRoutePolicy_keepsRule (policy : RoutePolicy) :
    KeepsRule L (setRoutePolicy ops policy) s := by
  have happly : Along (Framing configOf) (do applyRoutesLocked ops; recomputeDnsLocked ops) :=
    Along.bind (applyRoutesLocked_config ops) fun _ => recomputeDnsLocked_config ops
  have hpolicy : ∀ {p : NetworkControlPlane} (policy : RoutePolicy), ConsistentWith L p →
      ConsistentWith L { p with routePolicy := policy } :=
    fun _ h => ⟨h.eth, h.wifi, h.exclusive, h.idle⟩
  unfold setRoutePolicy
  rw [KeepsRule, wp_bind, wp_getPlane, wp_bind, wp_modifyPlane, wp_bind, wp_attempt]
  refine wp_of_framing happly (fun _ t ht => (hpolicy policy hs).of_config ht) fun e t ht => ?_
  have ht : ConsistentWith L t.plane := (hpolicy policy hs).of_config ht
  rw [wp_bind, wp_modifyPlane, wp_bind, wp_attempt]
  have hback := hpolicy s.plane.routePolicy ht
  have hdns : ∀ u : Run W, ConsistentWith L u.plane →
      KeepsRule L (do let _ ← attempt (recomputeDnsLocked ops); throw e : Op W Unit) u := by
    intro u hu
    rw [KeepsRule, wp_bind, wp_attempt]
    exact recomputeDnsLocked_keepsRule ops hu
  exact wp_of_framing (applyRoutesLocked_config ops)
    (fun _ u hu => hdns u (hback.of_config hu)) (fun _ u hu => hdns u (hback.of_config hu))

variable (hL : LinkRule L)

include hL

theorem deconfigureLink_keepsRule (iface : String) (fact : DhcpLeaseFact) :
    KeepsRule L (deconfigureLink ops iface fact) s := by
  have hclear : Along (Framing configOf)
      (when (ops.available .clearIpv4) do check (← invoke ops (.clearIpv4 iface))) := by
    refine Along.when ?_
    exact Along.bind (along_invoke fun _ _ _ => rfl) fun r => along_check r
  unfold deconfigureLink
  rw [KeepsRule, wp_bind]
  refine wp_of_framing (clearOwnedRouteLocked_config ops iface) (fun _ t ht => ?_)
    (fun _ t ht => hs.of_config ht)
  rw [wp_bind]
  refine wp_of_framing hclear (fun _ u hu => ?_) (fun _ u hu => hs.of_config (hu.trans ht))
  have hcons := hs.of_config (hu.trans ht)
  refine hcons.setLink (hL.dropped _ fact) fun hi hstatic => ?_
  rw [hi, NetworkControlPlane.linkFor_eth]
  exact hcons.exclusive hstatic

theorem configureLink_keepsRule (iface : String) (fact : DhcpLeaseFact)
    (hmanaged : (s.plane.linkFor iface).managedDhcp = true) :
    KeepsRule L (configureLink ops iface fact) s := by
  have hroute : Along (Framing configOf) (applyLeaseRoute ops iface fact) :=
    Along.bind along_getPlane fun p => Along.ite (ensureOwnedRouteLocked_config ops _ _ _)
      (clearOwnedRouteLocked_config ops _)
  unfold configureLink
  rw [KeepsRule, wp_bind, wp_require]
  split
  · next hfact =>
    rw [wp_bind, wp_require]
    split
    · rw [wp_bind]
      refine wp_invoke.mpr ?_
      rw [wp_bind, wp_check]
      refine ⟨fun _ _ => ?_, fun _ _ => hs⟩
      rw [wp_bind]
      refine wp_of_framing hroute (fun _ t ht => ?_) (fun _ t ht => hs.of_config ht)
      have hlink : t.plane.linkFor iface = s.plane.linkFor iface :=
        congrArg (·.linkFor iface) ht
      have hcons : ConsistentWith L t.plane := hs.of_config ht
      have hmanaged' : (t.plane.linkFor iface).managedDhcp = true := by rw [hlink, hmanaged]
      refine hcons.setLink (hL.configured _ fact hmanaged' hfact) fun hi hstatic => ?_
      rw [hi, NetworkControlPlane.linkFor_eth]
      exact hcons.exclusive hstatic
    · exact hs
  · exact hs

theorem reconcileLinkLocked_keepsRule (iface : String) :
    KeepsRule L (reconcileLinkLocked ops iface) s := by
  unfold reconcileLinkLocked
  rw [KeepsRule, wp_bind, wp_getPlane, wp_ite]
  split
  · next hmanaged =>
    rw [wp_bind, wp_require]
    split
    · rw [wp_bind]
      refine wp_invoke.mpr ?_
      rw [wp_bind, wp_check]
      refine ⟨fun lease _ => ?_, fun _ _ => hs⟩
      cases lease with
      | none => exact hs
      | some fact =>
        refine wp_split (fun _ => hs) fun _ => wp_split (fun _ => ?_) fun _ => ?_
        · exact wp_bind.mpr (deconfigureLink_keepsRule ops (by exact hs) hL iface fact)
        · exact wp_bind.mpr (configureLink_keepsRule ops (by exact hs) hL iface fact hmanaged)
    · exact hs
  · exact hs

theorem reconcileLinks_keepsRule : KeepsRule L (reconcileLinks ops) s := by
  unfold reconcileLinks
  rw [KeepsRule, wp_bind, wp_getPlane, wp_bind]
  refine wp_mono (reconcileLinkLocked_keepsRule ops hs hL _) (fun _ t ht => ?_) (fun _ _ h => h)
  rw [wp_bind]
  exact wp_mono (reconcileLinkLocked_keepsRule ops ht hL _) (fun _ _ h => h) (fun _ _ h => h)

theorem reconcile_keepsRule : KeepsRule L (reconcile ops) s := by
  unfold reconcile
  rw [KeepsRule, wp_bind]
  exact wp_mono (reconcileLinks_keepsRule ops hs hL)
    (fun _ _ ht => refreshExternalState_keepsRule ops ht) (fun _ _ h => h)

theorem reconcileChanged_keepsRule : KeepsRule L (reconcileChanged ops) s := by
  unfold reconcileChanged
  rw [KeepsRule, wp_bind, wp_attempt]
  refine wp_mono (reconcileLinks_keepsRule ops hs hL) (fun changed t ht => ?_) (fun _ _ h => h)
  dsimp only
  rw [wp_bind, wp_getPlane, wp_ite]
  split
  · rw [wp_bind, wp_attempt]
    exact recomputeDnsLocked_keepsRule ops ht
  · exact ht

theorem startDhcp_keepsRule (iface : String) : KeepsRule L (startDhcp ops iface) s := by
  unfold startDhcp
  rw [KeepsRule, wp_bind, wp_getPlane, wp_bind, wp_require]
  split
  · rw [wp_bind, wp_require]
    split
    · rw [wp_bind]
      refine wp_of_framing (clearOwnedRouteLocked_config ops iface) (fun _ t ht => ?_)
        (fun _ t ht => hs.of_config ht)
      rw [wp_bind]
      refine wp_invoke.mpr ?_
      rw [wp_bind]
      refine wp_invoke.mpr ?_
      rw [wp_bind]
      refine wp_of_framing (Along.when (ignoredCall_config ops (PortCall.clearIpv4 iface)))
        (fun _ u hu => ?_) (fun _ u hu => hs.of_config (hu.trans ht))
      have hreset : ConsistentWith L (u.plane.reset iface) :=
        (hs.of_config (hu.trans ht)).reset hL iface
      rw [wp_bind, wp_modifyPlane, wp_bind, wp_modifyPlane, wp_bind]
      refine wp_of_framing (recomputeDnsLocked_config ops) (fun _ v hv => ?_)
        (fun _ v hv => hreset.of_config hv)
      have hcons : ConsistentWith L v.plane := hreset.of_config hv
      rw [wp_bind]
      refine wp_invoke.mpr ?_
      rw [wp_bind, wp_check]
      refine ⟨fun _ _ => ?_, fun _ _ => hcons⟩
      have hlink : v.plane.linkFor iface = {} :=
        (congrArg (·.linkFor iface) hv).trans NetworkControlPlane.linkFor_reset
      refine hcons.setLink ?_ fun hi hstatic => ?_
      · rw [record_plane, hlink]
        exact hL.managed
      · have hnames : v.plane.names = u.plane.names :=
          (congrArg (·.names) hv).trans NetworkControlPlane.reset_names
        rw [show v.plane.staticEth = {} from (congrArg (·.staticEth) hv).trans
          (NetworkControlPlane.staticEth_reset (hnames ▸ hi))] at hstatic
        cases hstatic
    · exact hs
  · exact hs

theorem stopDhcp_keepsRule (iface : String) : KeepsRule L (stopDhcp ops iface) s := by
  unfold stopDhcp
  rw [KeepsRule, wp_bind, wp_getPlane, wp_ite]
  split
  · have hend : ∀ t : Run W, ConsistentWith L t.plane → KeepsRule L (do
        modifyPlane fun p => p.setLink iface {}
        let _ ← attempt (recomputeDnsLocked ops) : Op W Unit) t := by
      intro t ht
      rw [KeepsRule, wp_bind, wp_modifyPlane, wp_bind, wp_attempt]
      exact recomputeDnsLocked_keepsRule ops (ht.setLink_empty hL iface)
    have hclear : Along (Framing configOf) (attempt (clearOwnedRouteLocked ops iface)) :=
      Along.attempt (clearOwnedRouteLocked_config ops iface)
    have hcall : ∀ (port : Port) (c : PortCall), Along (Framing configOf)
        (when (ops.available port) do let _ ← invoke ops c) :=
      fun _ c => Along.when (ignoredCall_config ops c)
    rw [wp_bind]
    refine wp_mono (keepsRule_of_framing hs hclear) (fun _ t ht => ?_) (fun _ _ h => h)
    rw [wp_bind]
    refine wp_mono (keepsRule_of_framing ht (hcall _ _)) (fun _ u hu => ?_) (fun _ _ h => h)
    rw [wp_bind]
    refine wp_mono (keepsRule_of_framing hu (hcall _ _)) (fun _ v hv => ?_) (fun _ _ h => h)
    rw [wp_bind]
    exact wp_mono (keepsRule_of_framing hv (hcall _ _)) (fun _ w hw => hend w hw)
      (fun _ _ h => h)
  · exact hs

theorem adoptDhcp_keepsRule (iface : String) : KeepsRule L (adoptDhcp ops iface) s := by
  unfold adoptDhcp
  rw [KeepsRule, wp_bind, wp_getPlane, wp_bind, wp_require]
  split
  · rw [wp_bind, wp_require]
    split
    · rw [wp_bind, wp_modifyPlane, wp_bind, wp_modifyPlane, wp_modifyPlane]
      dsimp only
      unfold NetworkControlPlane.setLink NetworkControlPlane.setOwnedRoute
      by_cases hi : iface = s.plane.names.eth
      · simp only [hi, if_true]
        exact ⟨hL.managed, hs.wifi, (fun hactive => nomatch hactive), fun _ => rfl⟩
      · simp only [hi, if_false]
        exact ⟨hs.eth, hL.managed, hs.exclusive, hs.idle⟩
    · exact hs
  · exact hs

theorem applyEthernetStatic_keepsRule (ip4 netmask4 gateway4 dns4 : String)
    (manualMetric : Int) :
    KeepsRule L (applyEthernetStatic ops ip4 netmask4 gateway4 dns4 manualMetric) s := by
  unfold applyEthernetStatic
  rw [KeepsRule, wp_bind, wp_require]
  split
  · rw [wp_bind, wp_getPlane, wp_bind]
    refine wp_of_framing (clearOwnedRouteLocked_config ops _) (fun _ t ht => ?_)
      (fun _ t ht => hs.of_config ht)
    have ht : ConsistentWith L t.plane := hs.of_config ht
    rw [wp_bind]
    refine wp_invoke.mpr ?_
    rw [wp_bind]
    refine wp_invoke.mpr ?_
    rw [wp_bind, wp_modifyPlane, wp_bind]
    refine wp_invoke.mpr ?_
    rw [wp_bind, wp_check]
    have hdropped : ConsistentWith L { t.plane with eth := {}, staticEth := {} } :=
      ⟨hL.empty, ht.wifi, (fun hactive => nomatch hactive), fun _ => rfl⟩
    refine ⟨fun _ _ => ?_, fun _ _ => hdropped⟩
    rw [wp_bind, wp_modifyPlane, wp_bind]
    have hstatic : ConsistentWith L { t.plane with
        eth := {}, staticEth := ⟨true, ip4, netmask4, gateway4, dns4, manualMetric⟩ } :=
      ⟨hL.empty, ht.wifi, fun _ => rfl, (fun hidle => nomatch hidle)⟩
    refine wp_of_framing (applyRoutesLocked_config ops) (fun _ u hu => ?_)
      (fun _ u hu => hstatic.of_config hu)
    exact recomputeDnsLocked_keepsRule ops (hstatic.of_config hu)
  · exact hs

theorem perform_keepsRule (op : Operation) :
    ConsistentWith L (after (op.perform ops) s).plane := by
  refine after_of_wp (I := fun t : Run W => ConsistentWith L t.plane) ?_
  cases op with
  | startDhcp iface => exact startDhcp_keepsRule ops hs hL iface
  | stopDhcp iface => exact stopDhcp_keepsRule ops hs hL iface
  | adoptDhcp iface => exact adoptDhcp_keepsRule ops hs hL iface
  | applyEthernetStatic ip4 netmask4 gateway4 dns4 manualMetric =>
    exact applyEthernetStatic_keepsRule ops hs hL ip4 netmask4 gateway4 dns4 manualMetric
  | reconcile => exact reconcile_keepsRule ops hs hL
  | reconcileChanged =>
    refine wp_bind.mpr (wp_mono (reconcileChanged_keepsRule ops hs hL) (fun result t ht => ?_)
      (fun _ _ h => h))
    exact wp_check.mpr ⟨fun _ _ => ht, fun _ _ => ht⟩
  | refreshExternalState => exact refreshExternalState_keepsRule ops hs
  | setRoutePolicy policy => exact setRoutePolicy_keepsRule ops hs policy

end Operations

/-- The rule holds of both links in every reachable state, on every platform and in any order
of operations. -/
theorem Reachable.consistentWith {ops : NetworkControlPlaneOps W}
    {allowed : Run W → Operation → Prop} {L : LinkState → Prop} (hL : LinkRule L) {s : Run W}
    (hs : Reachable ops allowed s) : ConsistentWith L s.plane := by
  induction hs with
  | fresh names w =>
    exact ⟨hL.empty, hL.empty, (fun hactive => nomatch hactive), fun _ => rfl⟩
  | perform op _ _ ih => exact perform_keepsRule ops ih hL op
  | environment w _ ih => exact ih

/-! ### The couplings that later passes rely on -/

/-- Both ends of `m` from `s` have consistent records. -/
abbrev KeepsRecords {α : Type} (m : Op W α) (s : Run W) : Prop :=
  wp m (fun _ t => Consistent t.plane) (fun _ t => Consistent t.plane) s

theorem reconcileLinks_consistent (ops : NetworkControlPlaneOps W) {s : Run W}
    (hs : Consistent s.plane) : KeepsRecords (reconcileLinks ops) s :=
  wp_mono (reconcileLinks_keepsRule ops (consistent_iff.mp hs) linkRule_consistent)
    (fun _ _ h => consistent_iff.mpr h) fun _ _ h => consistent_iff.mpr h

theorem perform_consistent (ops : NetworkControlPlaneOps W) {s : Run W}
    (hs : Consistent s.plane) (op : Operation) :
    Consistent (after (op.perform ops) s).plane :=
  consistent_iff.mpr (perform_keepsRule ops (consistent_iff.mp hs) linkRule_consistent op)

/-- **The records are consistent in every reachable state**, on every platform and in any
order of operations. -/
theorem Reachable.consistent {ops : NetworkControlPlaneOps W}
    {allowed : Run W → Operation → Prop} {s : Run W} (hs : Reachable ops allowed s) :
    Consistent s.plane :=
  consistent_iff.mpr (hs.consistentWith linkRule_consistent)

end NetworkService.ControlPlane
