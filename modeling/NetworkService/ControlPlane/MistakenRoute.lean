import NetworkService.ControlPlane.Convergence

/-!
# One repair pass converges

A `refresh_external_state` or a full `reconcile` that returns `true` has restored addresses and
default routes, and the preferred nameserver with one exception.  Under `EthernetPreferred` the
policy switch leaves the resolver to a live Ethernet default route that no configuration asks for,
and does not look whose route it is.  After a withdrawal that failed it may be the one the service
has installed and still records; the pass then keeps the nameserver of Wi-Fi from the resolver.
-/

namespace NetworkService.ControlPlane

open Fallible NetworkControlPlane

variable {W : Type}

/-! ### What a pass should leave -/

/-- The resolver is left to whoever runs an Ethernet default route: the policy prefers Ethernet, no
managed Ethernet link asks for a default route, and one is live that the service does not record
as its own. -/
def NetworkControlPlane.LeavesDnsToEthernet (p : NetworkControlPlane) (v : KernelView) : Prop :=
  p.routePolicy = .ethernetPreferred ∧ p.desiredEth = none ∧
    ∃ r ∈ v.routes, r.iface = p.names.eth ∧ p.ethRoute.route? ≠ some (r.gateway4, r.metric)

/-- Only the link records and the routes matter. -/
theorem leavesDnsToEthernet_congr {p q : NetworkControlPlane} {v v' : KernelView}
    (hlinks : q.links = p.links) (hroutes : v'.routes = v.routes) :
    q.LeavesDnsToEthernet v' ↔ p.LeavesDnsToEthernet v := by
  have hnames : q.names = p.names := (congrArg (·.names) hlinks :)
  have hpolicy : q.routePolicy = p.routePolicy := (congrArg (·.routePolicy) hlinks :)
  have hdesired : q.desiredEth = p.desiredEth := (congrArg desiredEth hlinks :)
  have hroute : q.ethRoute = p.ethRoute := (congrArg (·.ethRoute) hlinks :)
  unfold NetworkControlPlane.LeavesDnsToEthernet
  rw [hnames, hpolicy, hdesired, hroute, hroutes]

/-- What holds of the machine when a pass from `s` to `t` has converged. -/
structure Converged (K : KernelPorts W) (s t : Run W) : Prop extends Restored K t where
  dns : ∀ dns4, t.plane.preferredDns = some dns4 → dns4 ≠ "" →
    ¬t.plane.LeavesDnsToEthernet (K.viewOf t) → (K.viewOf t).resolver = dns4
  external : t.plane.LeavesDnsToEthernet (K.viewOf t) →
    callsOf PortCall.setsDns t.log = callsOf PortCall.setsDns s.log ∧ t.plane.managedDns = false

/-- The beginning of the log does not matter. -/
theorem Converged.of_sets {K : KernelPorts W} {s s' t : Run W} (h : Converged K s t)
    (hsets : callsOf PortCall.setsDns s.log = callsOf PortCall.setsDns s'.log) :
    Converged K s' t :=
  ⟨h.toRestored, h.dns, fun hleaves => ⟨(h.external hleaves).1.trans hsets, (h.external hleaves).2⟩⟩

/-! ### When the service takes its own route for another's -/

/-- With these records a pass leaves the resolver to a route of the service: the policy prefers
Ethernet, no configuration asks for an Ethernet route, and what is live on Ethernet is the recorded
route alone.  The resolver does not hold the preferred nameserver, or the pass gives it up. -/
structure MistakesOwnRoute (p : NetworkControlPlane) (v : KernelView) : Prop where
  policy : p.routePolicy = .ethernetPreferred
  unwanted : p.desiredEth = none
  live : v.HasRoute p.names.eth
  own : ∀ r ∈ v.routes, r.iface = p.names.eth → p.ethRoute.route? = some (r.gateway4, r.metric)
  loses : ∃ dns4, p.preferredDns = some dns4 ∧ dns4 ≠ "" ∧
    (v.resolver ≠ dns4 ∨
      v.marker = true ∧ (p.dnsOwnershipInitialized = true → p.managedDns = true))

/-- The record of the Wi-Fi link when its lease has been read. -/
def consumedWifi (ops : NetworkControlPlaneOps W) (p : NetworkControlPlane) (w : W) : LinkState :=
  if p.wifi.managedDhcp then
    match (ops.call (.readLease p.names.wifi) w).1 with
    | .ok (some fact) =>
      if fact.fingerprint = p.wifi.fingerprint then p.wifi
      else
        { p.wifi with
          active := decide (fact.event ≠ .deconfig), lease := fact
          fingerprint := fact.fingerprint }
    | _ => p.wifi
  else p.wifi

/-- The platform when the Ethernet lease has been read. -/
def ethernetRead (ops : NetworkControlPlaneOps W) (p : NetworkControlPlane) (w : W) : W :=
  if p.eth.managedDhcp then (ops.call (.readLease p.names.eth) w).2 else w

/-- A pass that begins in `s` makes that mistake.  The full pass reads leases first: a new Ethernet
lease clears or replaces the recorded route, a new Wi-Fi lease brings its own nameserver. -/
def Operation.Mistakes (K : KernelPorts W) (s : Run W) : Operation → Prop
  | .reconcile =>
    (∀ fact, ¬NewFact K.toNetworkControlPlaneOps s.plane s.plane.names.eth s.world fact) ∧
      MistakesOwnRoute
        { s.plane with
          wifi := consumedWifi K.toNetworkControlPlaneOps s.plane
            (ethernetRead K.toNetworkControlPlaneOps s.plane s.world) }
        (K.viewOf s)
  | _ => MistakesOwnRoute s.plane (K.viewOf s)

/-- Only Ethernet routes and the resolver matter, and no record of a Wi-Fi route. -/
theorem MistakesOwnRoute.of_same {p q : NetworkControlPlane} {v v' : KernelView}
    (h : MistakesOwnRoute p v) (hplane : { q with wifiRoute := {} } = { p with wifiRoute := {} })
    (hroutes : ∀ r : Route, r.iface = p.names.eth → (r ∈ v'.routes ↔ r ∈ v.routes))
    (hresolver : v'.resolver = v.resolver) (hmarker : v'.marker = v.marker) :
    MistakesOwnRoute q v' := by
  have hnames : q.names = p.names := (congrArg (·.names) hplane :)
  have hroute : q.ethRoute = p.ethRoute := (congrArg (·.ethRoute) hplane :)
  have hdns : q.preferredDns = p.preferredDns := (congrArg preferredDns hplane :)
  have hinit : q.dnsOwnershipInitialized = p.dnsOwnershipInitialized :=
    (congrArg (·.dnsOwnershipInitialized) hplane :)
  have hmanaged : q.managedDns = p.managedDns := (congrArg (·.managedDns) hplane :)
  refine ⟨(congrArg (·.routePolicy) hplane :).trans h.policy,
    (congrArg desiredEth hplane :).trans h.unwanted, ?_, fun r hr hiface => ?_, ?_⟩
  · obtain ⟨r, hr, hiface⟩ := h.live
    exact ⟨r, (hroutes r hiface).mpr hr, by rw [hnames]; exact hiface⟩
  · rw [hnames] at hiface
    rw [hroute]
    exact h.own r ((hroutes r hiface).mp hr) hiface
  · rw [hdns, hresolver, hmarker, hinit, hmanaged]
    exact h.loses

theorem mistakesOwnRoute_congr {p q : NetworkControlPlane} {v v' : KernelView}
    (hplane : { q with wifiRoute := {} } = { p with wifiRoute := {} })
    (hroutes : ∀ r : Route, r.iface = p.names.eth → (r ∈ v'.routes ↔ r ∈ v.routes))
    (hresolver : v'.resolver = v.resolver) (hmarker : v'.marker = v.marker) :
    MistakesOwnRoute q v' ↔ MistakesOwnRoute p v := by
  have hnames : q.names = p.names := (congrArg (·.names) hplane :)
  constructor
  · intro h
    refine h.of_same hplane.symm (fun r hr => ?_) hresolver.symm hmarker.symm
    rw [hnames] at hr
    exact (hroutes r hr).symm
  · intro h
    exact h.of_same hplane hroutes hresolver hmarker

/-- An Ethernet route that is live is recorded, so there is a record. -/
theorem MistakesOwnRoute.recorded {p : NetworkControlPlane} {v : KernelView}
    (h : MistakesOwnRoute p v) : p.ethRoute.route? ≠ none := by
  obtain ⟨r, hr, hiface⟩ := h.live
  intro hnone
  exact nomatch hnone.symm.trans (h.own r hr hiface)

/-! ### The resolver step -/

/-- Ports whose snapshot also reports the marker of the resolver file. -/
structure MarkedPorts (W : Type) extends KernelPorts W where
  reportsMarker : ∀ w, (call .snapshot w).1.dnsManagedByNetworkService = (view w).marker

section Resolver

variable (K : MarkedPorts W) {s : Run W}

/-- Giving up a resolver empties the file if it is marked and managed. -/
theorem wp_releaseDns_marked {E : String → Run W → Prop} (hE : ∀ e t, E e t) :
    wp (releaseDns K.toNetworkControlPlaneOps)
      (fun _ t => (K.viewOf t).resolver =
        if (K.viewOf s).marker = true ∧ s.plane.managedDns = true then "" else (K.viewOf s).resolver)
      E s := by
  unfold releaseDns
  rw [wp_bind, wp_getPlane]
  refine wp_split (fun hmanaged => ?_) fun hmanaged => (if_neg fun hyes => hmanaged hyes.2).symm
  rw [wp_bind, wp_require, if_pos (K.wired _), wp_bind]
  refine wp_invoke.mpr ?_
  rw [wp_bind, wp_check]
  refine ⟨fun _ hok => ?_, fun e _ => hE e _⟩
  have hview := K.effective .clearDns s.world (congrArg Except.isOk hok)
  show (K.view (K.call .clearDns s.world).2).resolver = _
  rw [hview]
  cases hmarker : (K.view s.world).marker with
  | true => simp [KernelView.effect, hmarker, hmanaged]
  | false => simp [KernelView.effect, hmarker]

/-- What follows the initialization, when there is nothing to set. -/
theorem applyDns_released {live : Option NetworkSnapshot}
    (hlive : Current K.toKernelPorts (K.viewOf s) live) (hnames : s.plane.names = K.names)
    (hnone : dnsTarget s.plane (K.viewOf s) = none) :
    wp (do
      let choice ← selectDns K.toNetworkControlPlaneOps live
      applyDns K.toNetworkControlPlaneOps choice.1 choice.2)
      (fun _ u => (K.viewOf u).resolver =
        if (K.viewOf s).marker = true ∧ s.plane.managedDns = true then "" else (K.viewOf s).resolver)
      (fun _ _ => True) s := by
  rw [wp_bind]
  refine wp_selectDns K.toKernelPorts hnames hlive fun choice u hchoice _ hu hplane => ?_
  have hreleased := wp_releaseDns_marked K (s := u) (E := fun _ _ => True) fun _ _ => trivial
  rw [hu.view, hplane] at hreleased
  rw [hnone] at hchoice
  cases hdecision : choice.1 with
  | preserveExternal => exact hreleased
  | select dns4 =>
    rw [hdecision] at hchoice
    refine wp_split (fun _ => hreleased) fun hdns => ?_
    have hsome : DnsDecision.target (.select dns4) = some dns4 := if_neg hdns
    exact nomatch hsome.symm.trans hchoice

/-- **A DNS pass that finds nothing to set** empties a resolver file that is marked, and managed as
far as is known. -/
theorem recomputeDnsLocked_released (hnames : s.plane.names = K.names)
    (hnone : dnsTarget s.plane (K.viewOf s) = none) :
    wp (recomputeDnsLocked K.toNetworkControlPlaneOps)
      (fun _ t => (K.viewOf t).resolver =
        if (K.viewOf s).marker = true ∧
          (s.plane.dnsOwnershipInitialized = true → s.plane.managedDns = true) then ""
        else (K.viewOf s).resolver)
      (fun _ _ => True) s := by
  unfold recomputeDnsLocked initializeDnsOwnership
  rw [wp_bind, wp_bind, wp_getPlane]
  refine wp_split (fun hinit => ?_) fun hinit => ?_
  · have hmanaged : (s.plane.dnsOwnershipInitialized = true → s.plane.managedDns = true) ↔
        s.plane.managedDns = true := ⟨fun h => h hinit, fun h _ => h⟩
    simp only [hmanaged]
    exact applyDns_released K (fun _ hc => nomatch hc) hnames hnone
  · rw [wp_ite, if_pos (K.wired _), wp_bind]
    refine wp_invoke.mpr ?_
    rw [wp_bind, wp_modifyPlane, wp_pure]
    have hview : K.view (K.call .snapshot s.world).2 = K.viewOf s :=
      (dnsLooked_snapshot K.toKernelPorts s).view
    refine wp_mono (applyDns_released K ?_ hnames ?_) (fun _ u hu => hu.trans ?_) fun _ _ h => h
    · show Current K.toKernelPorts (K.view (K.call .snapshot s.world).2) _
      rw [hview]
      exact current_snapshot K.toKernelPorts s.world
    · exact (dnsTarget_congr rfl (congrArg KernelView.routes hview)).trans hnone
    · show (if (K.view (K.call .snapshot s.world).2).marker = true ∧
        (K.call .snapshot s.world).1.dnsManagedByNetworkService = true then ""
        else (K.view (K.call .snapshot s.world).2).resolver) = _
      rw [hview, K.reportsMarker s.world]
      simp [hinit]

/-- Giving up the resolver keeps a nameserver from it that was not there, or was in a file it empties. -/
theorem released_ne_iff {given : Prop} [Decidable given] {resolver dns4 : String} (hne : dns4 ≠ "") :
    (if given then "" else resolver) ≠ dns4 ↔ resolver ≠ dns4 ∨ given := by
  by_cases hgiven : given
  · simp [hgiven, Ne.symm hne]
  · simp [hgiven]

/-- **The resolver step completes a restored machine**, except where it takes the service's route for
another's. -/
theorem recomputeDnsLocked_converged (hs : Consistent s.plane) (hnames : s.plane.names = K.names)
    (hrestored : Restored K.toKernelPorts s) :
    wp (recomputeDnsLocked K.toNetworkControlPlaneOps)
      (fun _ t => Converged K.toKernelPorts s t ↔ ¬MistakesOwnRoute s.plane (K.viewOf s))
      (fun _ _ => True) s := by
  have hdone : wp (recomputeDnsLocked K.toNetworkControlPlaneOps)
      (fun _ t => ∃ u, DnsLooked K.toKernelPorts s u ∧ DnsDone K.toKernelPorts u t)
      (fun _ _ => True) s :=
    wp_recomputeDnsLocked_kernel K.toKernelPorts hnames (fun u _ hu _ _ ht => ⟨u, hu, ht⟩)
      fun _ _ _ _ => trivial
  have hreleased : wp (recomputeDnsLocked K.toNetworkControlPlaneOps)
      (fun _ t => dnsTarget s.plane (K.viewOf s) = none → (K.viewOf t).resolver =
        if (K.viewOf s).marker = true ∧
          (s.plane.dnsOwnershipInitialized = true → s.plane.managedDns = true) then ""
        else (K.viewOf s).resolver) (fun _ _ => True) s := by
    by_cases hnone : dnsTarget s.plane (K.viewOf s) = none
    · exact wp_mono (recomputeDnsLocked_released K hnames hnone) (fun _ _ h _ => h) fun _ _ h => h
    · exact wp_mono hdone (fun _ _ _ hyes => absurd hyes hnone) fun _ _ h => h
  refine wp_mono (wp_and hdone hreleased) (fun _ t ht => ?_) fun _ _ _ => trivial
  obtain ⟨⟨u, hu, hdone⟩, hreleased⟩ := ht
  have hlinks : t.plane.links = s.plane.links := hdone.links.trans hu.links
  have hview : K.viewOf u = K.viewOf s := hu.view
  have hroutes : (K.viewOf t).routes = (K.viewOf s).routes := hdone.routes.trans (by rw [hview])
  have hpreferred : t.plane.preferredDns = s.plane.preferredDns := (congrArg preferredDns hlinks :)
  have hleaves := leavesDnsToEthernet_congr (v := K.viewOf s) hlinks hroutes
  have htarget : dnsTarget t.plane (K.viewOf t) = dnsTarget s.plane (K.viewOf s) :=
    dnsTarget_congr hlinks hroutes
  have hback := hrestored.of_dns hu hdone
  by_cases hethernet : s.plane.routePolicy = .ethernetPreferred ∧ s.plane.desiredEth = none ∧
      (K.viewOf s).HasRoute s.plane.names.eth
  · -- the switch leaves the resolver to the live route, whose ever it is
    obtain ⟨hprefers, hunwanted, hlive⟩ := hethernet
    have hnone : dnsTarget s.plane (K.viewOf s) = none := by
      rw [dnsTarget, dnsDecision_leaves hprefers hunwanted (decide_eq_true hlive)]
      rfl
    have hgiven : callsOf PortCall.setsDns t.log = callsOf PortCall.setsDns s.log ∧
        t.plane.managedDns = false := by
      refine ⟨(hdone.sets ?_).trans hu.sets, (dnsSettled_none (htarget.trans hnone)).mp hdone.settled⟩
      exact (dnsTarget_congr hu.links (congrArg KernelView.routes hview)).trans hnone
    constructor
    · intro hconverged hmistakes
      obtain ⟨dns4, hdns, hne, hlost⟩ := hmistakes.loses
      have hown : ¬s.plane.LeavesDnsToEthernet (K.viewOf s) := by
        rintro ⟨-, -, r, hr, hiface, hforeign⟩
        exact hforeign (hmistakes.own r hr hiface)
      have hkept := hconverged.dns dns4 (hpreferred.trans hdns) hne (mt hleaves.mp hown)
      rw [hreleased hnone] at hkept
      exact (released_ne_iff hne).mpr hlost hkept
    · intro hno
      refine ⟨hback, fun dns4 hdns hne hkeeps => by_contra fun hlost => hno ?_, fun _ => hgiven⟩
      rw [hleaves] at hkeeps
      rw [hreleased hnone] at hlost
      have hown : ∀ r ∈ (K.viewOf s).routes, r.iface = s.plane.names.eth →
          s.plane.ethRoute.route? = some (r.gateway4, r.metric) := fun r hr hiface =>
        by_contra fun hforeign => hkeeps ⟨hprefers, hunwanted, r, hr, hiface, hforeign⟩
      exact ⟨hprefers, hunwanted, hlive, hown, dns4, hpreferred.symm.trans hdns, hne,
        (released_ne_iff hne).mp hlost⟩
  · -- the switch selects the preferred nameserver
    have hclear : ¬MistakesOwnRoute s.plane (K.viewOf s) := fun h =>
      hethernet ⟨h.policy, h.unwanted, h.live⟩
    refine iff_of_true ⟨hback, fun dns4 hdns hne _ => ?_, fun hyes => absurd ?_ hethernet⟩ hclear
    · rw [hpreferred] at hdns
      have hselected := dnsDecision_preferred hs hdns hne
        (decide ((K.viewOf s).HasRoute s.plane.names.eth))
        (fun h => hethernet ⟨h.1, h.2.1, of_decide_eq_true h.2.2⟩)
      have hsome : dnsTarget s.plane (K.viewOf s) = some dns4 := by
        rw [dnsTarget, hselected]
        exact if_neg hne
      exact ((dnsSettled_some (htarget.trans hsome)).mp hdone.settled).2.2
    · obtain ⟨hprefers, hunwanted, r, hr, hiface, -⟩ := hleaves.mp hyes
      exact ⟨hprefers, hunwanted, r, hr, hiface⟩

end Resolver

/-! ### The link pass before it -/

section Links

variable (K : KernelPorts W) {s : Run W}

/-- An Ethernet pass with a new fact leaves no recorded route that nobody wants. -/
theorem route?_of_newLease (p : NetworkControlPlane) (fact : DhcpLeaseFact) (route : OwnedRouteState)
    (active : Bool) (hroute : route.route? = none ∨ (active = true ∧ fact.gateway4 ≠ "")) :
    let q := { p with
      ethRoute := route, eth := { p.eth with active := active, lease := fact,
                                             fingerprint := fact.fingerprint } }
    q.routePolicy = .ethernetPreferred → q.desiredEth = none → q.ethRoute.route? = none := by
  intro q hpolicy hunwanted
  rcases hroute with hnone | ⟨hactive, hgw⟩
  · exact hnone
  · unfold desiredEth at hunwanted
    rw [if_neg (by rw [hpolicy]; decide)] at hunwanted
    split at hunwanted
    · cases hunwanted
    · rw [if_pos ⟨hactive, hgw⟩] at hunwanted
      cases hunwanted

/-- The Ethernet pass does nothing without a new lease, and mistakes nothing with one. -/
theorem reconcileLinkLocked_ethernet :
    wp (reconcileLinkLocked K.toNetworkControlPlaneOps s.plane.names.eth)
      (fun _ t =>
        ((∀ fact, ¬NewFact K.toNetworkControlPlaneOps s.plane s.plane.names.eth s.world fact) ∧
          t.plane = s.plane ∧ K.viewOf t = K.viewOf s ∧
          t.world = ethernetRead K.toNetworkControlPlaneOps s.plane s.world) ∨
        ((∃ fact, NewFact K.toNetworkControlPlaneOps s.plane s.plane.names.eth s.world fact) ∧
          (t.plane.routePolicy = .ethernetPreferred → t.plane.desiredEth = none →
            t.plane.ethRoute.route? = none)))
      (fun _ _ => True) s := by
  unfold reconcileLinkLocked
  rw [wp_bind, wp_getPlane]
  refine wp_split (fun hmanaged => ?_) fun hmanaged => ?_
  · rw [wp_bind, wp_require, K.wired, if_pos rfl, wp_bind]
    refine wp_invoke.mpr ?_
    rw [wp_bind, wp_check]
    refine ⟨fun lease hread => ?_, fun _ _ => trivial⟩
    have hview : K.view (K.call (.readLease s.plane.names.eth) s.world).2 = K.viewOf s :=
      view_call_idle K _ rfl (fun _ => rfl) s.world
    have hworld : (K.call (.readLease s.plane.names.eth) s.world).2 =
        ethernetRead K.toNetworkControlPlaneOps s.plane s.world := by
      rw [linkFor_eth] at hmanaged
      exact (if_pos hmanaged).symm
    cases lease with
    | none =>
      refine Or.inl ⟨fun fact hnew => ?_, rfl, hview, hworld⟩
      have := hread.symm.trans hnew.read
      simp at this
    | some fact =>
      refine wp_split (fun hsame => ?_) fun hfresh => ?_
      · refine Or.inl ⟨fun fact' hnew => hnew.fresh ?_, rfl, hview, hworld⟩
        have hfact : fact = fact' := by simpa using hread.symm.trans hnew.read
        rw [← hfact]
        exact hsame
      · have hnew : NewFact K.toNetworkControlPlaneOps s.plane s.plane.names.eth s.world fact :=
          ⟨hmanaged, K.wired _, hread, hfresh⟩
        refine wp_split (fun _ => ?_) fun _ => ?_
        · refine wp_bind.mpr (deconfigureLink_leaves _ (fun t ht => Or.inr ⟨⟨fact, hnew⟩, ?_⟩)
            fun _ _ _ _ => trivial)
          rw [record_plane, linkFor_eth, withdraw_eth] at ht
          rw [ht.trans (setLink_eth { s.plane with ethRoute := s.plane.ethRoute.withdrawn } _)]
          exact route?_of_newLease s.plane fact _ false (Or.inl (route?_withdrawn _))
        · refine wp_bind.mpr (configureLink_leaves _ (fun _ t ht => Or.inr ⟨⟨fact, hnew⟩, ?_⟩)
            (fun _ => trivial) fun _ _ _ _ => trivial)
          obtain ⟨route, hrouted, hroute⟩ := leaseRouted_eth (p := s.plane) fact
          rw [record_plane, linkFor_eth, hrouted] at ht
          rw [ht.trans (setLink_eth { s.plane with ethRoute := route } _)]
          intro hpolicy
          refine route?_of_newLease s.plane fact route true ?_ hpolicy
          have hpolicy' : s.plane.routePolicy = .ethernetPreferred := hpolicy
          rw [if_neg (by rw [hpolicy']; decide)] at hroute
          by_cases hgw : fact.gateway4 = ""
          · exact Or.inl (by rw [hroute, if_neg (not_not.mpr hgw)])
          · exact Or.inr ⟨rfl, hgw⟩
  · refine Or.inl ⟨fun fact hnew => hmanaged hnew.managed, rfl, rfl, ?_⟩
    rw [linkFor_eth] at hmanaged
    exact (if_neg hmanaged).symm

/-- The Wi-Fi pass takes its lease over and else touches its route record at most. -/
theorem reconcileLinkLocked_wifi :
    wp (reconcileLinkLocked K.toNetworkControlPlaneOps s.plane.names.wifi)
      (fun _ t => { t.plane with wifiRoute := {} } =
        { s.plane with
          wifi := consumedWifi K.toNetworkControlPlaneOps s.plane s.world, wifiRoute := {} })
      (fun _ _ => True) s := by
  have hroute : ∀ (p : NetworkControlPlane) (route : OwnedRouteState) (link : LinkState),
      { (p.setOwnedRoute p.names.wifi route).setLink p.names.wifi link with wifiRoute := {} } =
        { p with wifi := link, wifiRoute := {} } := by
    intro p route link
    rw [setOwnedRoute_wifi]
    exact congrArg (fun q : NetworkControlPlane => { q with wifiRoute := {} })
      (setLink_wifi { p with wifiRoute := route } link)
  have hwithdrawn : ∀ (p : NetworkControlPlane) (link : LinkState),
      { (p.withdraw p.names.wifi).setLink p.names.wifi link with wifiRoute := {} } =
        { p with wifi := link, wifiRoute := {} } := by
    intro p link
    rw [withdraw_wifi]
    exact congrArg (fun q : NetworkControlPlane => { q with wifiRoute := {} })
      (setLink_wifi { p with wifiRoute := p.wifiRoute.withdrawn } link)
  unfold reconcileLinkLocked consumedWifi
  rw [wp_bind, wp_getPlane, linkFor_wifi]
  refine wp_split (fun hmanaged => ?_) fun hmanaged => ?_
  · rw [wp_bind, wp_require, K.wired, if_pos rfl, wp_bind, if_pos hmanaged]
    refine wp_invoke.mpr ?_
    rw [wp_bind, wp_check]
    refine ⟨fun lease hread => ?_, fun _ _ => trivial⟩
    rw [hread]
    cases lease with
    | none => rfl
    | some fact =>
      dsimp only
      refine wp_split (fun hsame => ?_) fun hfresh => ?_
      · rw [if_pos hsame]
        rfl
      · rw [if_neg hfresh]
        refine wp_split (fun hevent => ?_) fun hevent => ?_
        · refine wp_bind.mpr (deconfigureLink_leaves _ (fun t ht => ?_) fun _ _ _ _ => trivial)
          rw [record_plane, linkFor_wifi] at ht
          rw [wp_pure, ht, hwithdrawn, decide_eq_false (not_not.mpr hevent)]
        · refine wp_bind.mpr (configureLink_leaves _ (fun _ t ht => ?_) (fun _ => trivial)
            fun _ _ _ _ => trivial)
          rw [record_plane, linkFor_wifi] at ht
          rw [wp_pure, ht, decide_eq_true hevent]
          unfold leaseRouted
          split
          · exact hroute _ _ _
          · exact hwithdrawn _ _
  · rw [if_neg hmanaged]
    rfl

/-- Work on `iface` shows there only, whichever way it ends. -/
abbrev WorkedOn (iface : String) (s t : Run W) : Prop :=
  KernelView.SameBut iface (K.viewOf s) (K.viewOf t)

instance (iface : String) : Std.Refl (WorkedOn K iface) := ⟨fun _ => .refl iface _⟩

instance (iface : String) : IsTrans (Run W) (WorkedOn K iface) := ⟨fun _ _ _ h h' => h.trans h'⟩

theorem workedOn_steps (iface : String) :
    LinkSteps K.toNetworkControlPlaneOps iface (WorkedOn K iface) where
  call c hc _ s := by
    have hdns : c.writesDns = false := by cases c <;> first | rfl | exact nomatch hc
    show KernelView.SameBut iface (K.view s.world) (K.view (K.call c s.world).2)
    cases hok : c.succeeded (K.call c s.world).1 with
    | false =>
      rw [K.harmless c s.world hok hdns]
      exact .refl iface _
    | true =>
      rw [K.effective c s.world hok]
      exact KernelView.effect_sameBut _ hc
  route _ _ := .refl iface _
  link _ _ := .refl iface _

/-- **What the link pass leaves of the mistake**, told from what it finds. -/
theorem reconcileLinks_mistakes :
    wp (reconcileLinks K.toNetworkControlPlaneOps)
      (fun _ t => MistakesOwnRoute t.plane (K.viewOf t) ↔ Operation.reconcile.Mistakes K s)
      (fun _ _ => True) s := by
  unfold reconcileLinks
  rw [wp_bind, wp_getPlane, wp_bind]
  refine wp_mono (wp_and (reconcileLinkLocked_ethernet K)
    (wp_of_after (I := fun t : Run W => t.plane.names = s.plane.names)
      ((namesSteps K.toNetworkControlPlaneOps _).passes.reconcileLink _ (Or.inl rfl) s rfl).1))
    (fun _ t ht => ?_) fun _ _ _ => trivial
  obtain ⟨heth, hnames'⟩ := ht
  rw [wp_bind, ← hnames']
  refine wp_mono (wp_and (reconcileLinkLocked_wifi K)
    (wp_of_after (I := fun u => WorkedOn K t.plane.names.wifi t u)
      ((workedOn_steps K t.plane.names.wifi).reconcileLink t))) (fun _ u hu => ?_)
    fun _ _ _ => trivial
  obtain ⟨hplane, hview⟩ := hu
  have hne : t.plane.names.eth ≠ t.plane.names.wifi := t.plane.names.distinct
  show MistakesOwnRoute u.plane (K.viewOf u) ↔ _
  rw [mistakesOwnRoute_congr (v := K.viewOf t)
    (p := { t.plane with wifi := consumedWifi K.toNetworkControlPlaneOps t.plane t.world }) hplane
    (fun r hr => hview.routes r (hr.trans_ne hne)) hview.resolver hview.marker]
  rcases heth with ⟨hnone, hsame, hview', hworld⟩ | ⟨⟨fact, hnew⟩, hkeeps⟩
  · rw [hsame, hview', hworld]
    exact ⟨fun h => ⟨hnone, h⟩, fun h => h.2⟩
  · refine iff_of_false (fun h => ?_) fun h => h.1 fact hnew
    exact h.recorded (hkeeps h.policy h.unwanted)

/-- The link passes set no nameserver. -/
theorem reconcileLinks_sets (ops : NetworkControlPlaneOps W) :
    Along (Framing fun t : Run W => callsOf PortCall.setsDns t.log) (reconcileLinks ops) := by
  have hsteps : ∀ iface, LinkSteps ops iface
      (Framing fun t : Run W => callsOf PortCall.setsDns t.log) := by
    intro iface
    refine ⟨fun c hc _ s => ?_, fun _ _ => rfl, fun _ _ => rfl⟩
    show callsOf PortCall.setsDns (s.record c _ _).log = _
    rw [callsOf_record]
    cases c <;> first | rfl | exact nomatch hc
  refine Along.bind along_getPlane fun p => ?_
  refine Along.bind (hsteps _).reconcileLink fun _ => ?_
  exact Along.bind (hsteps _).reconcileLink fun _ => Along.pure _

end Links

/-! ### The pass -/

section Pass

variable (K : MarkedPorts W) {s : Run W}

theorem refreshExternalState_converged (hs : Consistent s.plane) (hnames : s.plane.names = K.names) :
    wp (refreshExternalState K.toNetworkControlPlaneOps)
      (fun _ t => Converged K.toKernelPorts s t ↔ ¬MistakesOwnRoute s.plane (K.viewOf s))
      (fun _ _ => True) s := by
  unfold refreshExternalState
  rw [wp_bind]
  have hpart := wp_of_after (I := fun t => dnsPart K.toKernelPorts t = dnsPart K.toKernelPorts s)
    (repairOwnedStateLocked_dnsPart K.toKernelPorts s)
  refine wp_mono (wp_and (repairOwnedStateLocked_restores K.toKernelPorts hs hnames) hpart)
    (fun _ t ht => ?_) fun _ _ _ => trivial
  obtain ⟨⟨hrestored, hconfig, hsets, hkept⟩, hpart⟩ := ht
  have hnames' : t.plane.names = s.plane.names := congrArg DnsPart.names hpart
  have hmistakes : MistakesOwnRoute t.plane (K.viewOf t) ↔ MistakesOwnRoute s.plane (K.viewOf s) := by
    have hdesired : t.plane.desiredEth = s.plane.desiredEth := (wanted_of_config hconfig).2.1
    by_cases hnone : s.plane.desiredEth = none
    · obtain ⟨howned, hroutes⟩ := hkept hnone
      refine mistakesOwnRoute_congr ?_ (fun r hr => hroutes r (hr.trans (by rw [hnames])))
        (congrArg DnsPart.resolver hpart) (congrArg DnsPart.marker hpart)
      have hinit : t.plane.dnsOwnershipInitialized = s.plane.dnsOwnershipInitialized :=
        congrArg DnsPart.initialized hpart
      have hmanaged : t.plane.managedDns = s.plane.managedDns := congrArg DnsPart.managed hpart
      have hlast : t.plane.lastDns = s.plane.lastDns := congrArg DnsPart.last hpart
      calc { t.plane with wifiRoute := {} }
          = { t.plane.config with
              ethRoute := t.plane.ethRoute
              dnsOwnershipInitialized := t.plane.dnsOwnershipInitialized
              managedDns := t.plane.managedDns, lastDns := t.plane.lastDns } := rfl
        _ = { s.plane.config with
              ethRoute := s.plane.ethRoute
              dnsOwnershipInitialized := s.plane.dnsOwnershipInitialized
              managedDns := s.plane.managedDns, lastDns := s.plane.lastDns } := by
            rw [show t.plane.config = s.plane.config from hconfig, howned, hinit, hmanaged, hlast]
        _ = { s.plane with wifiRoute := {} } := rfl
    · exact iff_of_false (fun h => hnone (hdesired.symm.trans h.unwanted)) fun h => hnone h.unwanted
  refine wp_mono (recomputeDnsLocked_converged K (hs.of_config hconfig) (hnames'.trans hnames)
    hrestored) (fun _ u hu => ?_) fun _ _ h => h
  rw [← hmistakes, ← hu]
  exact ⟨fun h => h.of_sets hsets.symm, fun h => h.of_sets hsets⟩

theorem reconcile_converged (hs : Consistent s.plane) (hnames : s.plane.names = K.names) :
    wp (reconcile K.toNetworkControlPlaneOps)
      (fun _ t => Converged K.toKernelPorts s t ↔
        ¬Operation.reconcile.Mistakes K.toKernelPorts s)
      (fun _ _ => True) s := by
  have hkept := wp_of_after (I := fun t : Run W => t.plane.names = s.plane.names)
    ((namesSteps K.toNetworkControlPlaneOps _).passes.reconcileLinks s rfl).1
  have hsets := wp_of_after
    (I := fun t : Run W => callsOf PortCall.setsDns t.log = callsOf PortCall.setsDns s.log)
    (reconcileLinks_sets K.toNetworkControlPlaneOps s)
  unfold reconcile
  rw [wp_bind]
  refine wp_mono (wp_and (wp_and (reconcileLinks_consistent _ hs)
    (reconcileLinks_mistakes K.toKernelPorts)) (wp_and hkept hsets))
    (fun _ t ht => ?_) fun _ _ _ => trivial
  obtain ⟨⟨hcons, hmistakes⟩, hnames', hsets⟩ := ht
  refine wp_mono (refreshExternalState_converged K hcons (hnames'.trans hnames))
    (fun _ u hu => ?_) fun _ _ h => h
  rw [← hmistakes, ← hu]
  exact ⟨fun h => h.of_sets hsets.symm, fun h => h.of_sets hsets⟩

end Pass

/-- **When one repair pass converges.**  From every reachable state and after any change made to the
machine from outside, a `refresh_external_state` or a full `reconcile` that returns `true` has
converged: every present interface carries the address and the default route its active
configuration asks for, and the resolver the preferred nameserver, or it has been left to an Ethernet
route that is not the service's.  The one exception is a pass that takes the service's own route for
such a route. -/
theorem repair_converges (K : MarkedPorts W) {allowed : Run W → Operation → Prop} {s t : Run W}
    (hs : Reachable K.toNetworkControlPlaneOps allowed s) (hnames : s.plane.names = K.names)
    {op : Operation} (hop : op = .refreshExternalState ∨ op = .reconcile)
    (hrun : op.perform K.toNetworkControlPlaneOps s = .ok () t) :
    Converged K.toKernelPorts s t ↔ ¬op.Mistakes K.toKernelPorts s := by
  rcases hop with rfl | rfl
  · have hwp := refreshExternalState_converged K hs.consistent hnames
    unfold wp at hwp
    rw [show refreshExternalState K.toNetworkControlPlaneOps s = .ok () t from hrun] at hwp
    exact hwp
  · have hwp := reconcile_converged K hs.consistent hnames
    unfold wp at hwp
    rw [show reconcile K.toNetworkControlPlaneOps s = .ok () t from hrun] at hwp
    exact hwp

/-! ### Two runs -/

/-- The small machine with a `route del` that fails. -/
def stuckPorts : MarkedPorts Machine where
  available _ := true
  call
    | .clearDefaultRoute _ _ _, m => (.error "command failed rc=256", m)
    | c, m => Machine.call c m
  names := .standard
  view := Machine.view
  wired _ := rfl
  effective c m hok := by
    cases c with
    | clearDefaultRoute => cases hok
    | _ => exact m.view_call_of_succeeded _ hok
  harmless c m hfailed _ := by
    cases c with
    | clearDefaultRoute => rfl
    | _ => exact m.view_call_of_failed _ hfailed
  spoils c m hfailed hdns := by
    cases c with
    | setDns | clearDns =>
      exact congrArg KernelView.besidesResolver (m.view_call_of_failed _ hfailed)
    | _ => cases hdns
  reportsEth m := m.observe_reports "eth0"
  reportsWifi m := m.observe_reports "wlan0"
  reportsDns _ := rfl
  reportsMarker _ := rfl

/-- Wi-Fi is configured from its lease; then something takes the address and the default route
away and rewrites the resolver. -/
def driftedRun : Run Machine :=
  let ops := stuckPorts.toNetworkControlPlaneOps
  let started := after ((Operation.startDhcp "wlan0").perform ops) (fresh .standard {})
  let bound := after (Operation.reconcile.perform ops)
    { started with world := { started.world with wifiLease := some accessPointLease } }
  { bound with world := { resolver := "10.9.9.9" } }

theorem repair_converges_driftedRun :
    let t := after (Operation.refreshExternalState.perform stuckPorts.toNetworkControlPlaneOps)
      driftedRun
    Repaired (stuckPorts.viewOf t) "wlan0" t.plane.wifiAddress t.plane.desiredWifi ∧
      t.plane.wifiAddress = some ("192.168.4.20", "255.255.255.0") ∧
      t.plane.desiredWifi = some ("192.168.4.1", 20) ∧
      t.plane.preferredDns = some "192.168.4.1" ∧
      (stuckPorts.viewOf t).resolver = "192.168.4.1" := by
  have hreach : Reachable stuckPorts.toNetworkControlPlaneOps (fun _ _ => True) driftedRun :=
    .environment _ (.perform _ (.environment _ (.perform _ (.fresh _ _) trivial)) trivial)
  have hrun : Operation.refreshExternalState.perform stuckPorts.toNetworkControlPlaneOps
      driftedRun = .ok () _ := run_of_completes (by decide +kernel)
  have hconverged := (repair_converges stuckPorts hreach (by decide +kernel) (.inl rfl) hrun).mpr
    fun hmistakes => absurd hmistakes.live (by decide +kernel)
  have hnone : ¬(stuckPorts.viewOf (after (Operation.refreshExternalState.perform
      stuckPorts.toNetworkControlPlaneOps) driftedRun)).HasRoute
      (after (Operation.refreshExternalState.perform stuckPorts.toNetworkControlPlaneOps)
        driftedRun).plane.names.eth := by decide +kernel
  refine ⟨hconverged.wifi, by decide +kernel, by decide +kernel, by decide +kernel, ?_⟩
  refine hconverged.dns _ (by decide +kernel) (by decide) ?_
  rintro ⟨-, -, r, hr, hiface, -⟩
  exact hnone ⟨r, hr, hiface⟩

/-- Both links are configured from their leases, Ethernet is stopped, and its default route cannot
be deleted. -/
def orphanedRoute : Run Machine :=
  let ops := stuckPorts.toNetworkControlPlaneOps
  let started := after ((Operation.startDhcp "eth0").perform ops)
    (after ((Operation.startDhcp "wlan0").perform ops) (fresh .standard {}))
  let bound := after (Operation.reconcile.perform ops)
    { started with world := { started.world with
        ethLease := some wiredLease, wifiLease := some accessPointLease } }
  after ((Operation.stopDhcp "eth0").perform ops) bound

/-- The service still records the Ethernet route that is live, and yet a full pass that returns
`true` leaves the resolver without the nameserver of Wi-Fi, the only link that is configured. -/
theorem own_route_hides_wifi_dns :
    Reachable stuckPorts.toNetworkControlPlaneOps (fun _ _ => True) orphanedRoute ∧
      ∃ t, Operation.reconcile.perform stuckPorts.toNetworkControlPlaneOps orphanedRoute =
          .ok () t ∧
        t.plane.preferredDns = some "192.168.4.1" ∧ (stuckPorts.viewOf t).resolver = "" ∧
        ¬Converged stuckPorts.toKernelPorts orphanedRoute t := by
  refine ⟨.perform _ (.perform _ (.environment _ (.perform _ (.perform _ (.fresh _ _) trivial)
    trivial)) trivial) trivial, _, run_of_completes (by decide +kernel), by decide +kernel,
    by decide +kernel, fun hconverged => ?_⟩
  have hresolver := hconverged.dns "192.168.4.1" (by decide +kernel) (by decide) ?_
  · exact absurd hresolver (by decide +kernel)
  · rintro ⟨-, -, r, hr, hiface, hforeign⟩
    revert r
    decide +kernel

end NetworkService.ControlPlane
