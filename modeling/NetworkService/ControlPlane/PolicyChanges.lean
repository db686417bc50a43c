import NetworkService.ControlPlane.CheckedArguments

/-!
# Which policy changes a platform accepts

`set_route_policy` applies the routes and the resolver that the new policy asks for.  On a platform
that only looks at arguments it succeeds for all product policies exactly if the static
configuration is usable under all of them.
-/

namespace NetworkService.ControlPlane

open Fallible Platform

/-- The policies that a client can ask for; `ManualMetric` is turned down by the daemon. -/
def isProductPolicy : RoutePolicy → Bool
  | .manualMetric => false
  | .ethernetPreferred | .wifiPreferred | .wifiOnly => true

/-! ### What a policy asks for -/

section Records

variable {p : NetworkControlPlane}

theorem isMetric_routeMetric (h : isProductPolicy p.routePolicy = true) (iface : String)
    (manualMetric : Int) : isMetric (p.routeMetric iface manualMetric) = true := by
  unfold NetworkControlPlane.routeMetric
  cases hpolicy : p.routePolicy with
  | manualMetric =>
    rw [hpolicy] at h
    exact nomatch h
  | ethernetPreferred =>
    dsimp only
    split <;> rfl
  | wifiPreferred =>
    dsimp only
    split <;> rfl
  | wifiOnly =>
    dsimp only
    split <;> rfl

/-- A nameserver is selected only for a link that has a managed route. -/
theorem dnsDecision_selects {ethLive : Bool} {dns4 : String}
    (h : p.dnsDecision ethLive = .select dns4) :
    dns4 = "" ∨ (p.dhcpWifiRoute = true ∧ dns4 = p.wifiDns) ∨
      (p.ethDnsUsable = true ∧ dns4 = p.ethDns) := by
  have hwifi : p.wifiDnsUsable = true → p.dhcpWifiRoute = true := by
    intro husable
    exact (of_decide_eq_true husable).1
  unfold NetworkControlPlane.dnsDecision at h
  cases hpolicy : p.routePolicy with
  | wifiPreferred =>
    simp only [hpolicy] at h
    split at h
    · next husable => exact .inr (.inl ⟨hwifi husable, (DnsDecision.select.inj h).symm⟩)
    · split at h
      · next husable => exact .inr (.inr ⟨husable, (DnsDecision.select.inj h).symm⟩)
      · exact .inl (DnsDecision.select.inj h).symm
  | wifiOnly =>
    simp only [hpolicy] at h
    split at h
    · next husable => exact .inr (.inl ⟨hwifi husable, (DnsDecision.select.inj h).symm⟩)
    · exact .inl (DnsDecision.select.inj h).symm
  | manualMetric =>
    simp only [hpolicy] at h
    split at h
    · next hroute => exact .inr (.inl ⟨hroute.1, (DnsDecision.select.inj h).symm⟩)
    · split at h
      · next husable => exact .inr (.inr ⟨husable, (DnsDecision.select.inj h).symm⟩)
      · exact .inl (DnsDecision.select.inj h).symm
  | ethernetPreferred =>
    simp only [hpolicy] at h
    split at h
    · next husable => exact .inr (.inr ⟨husable, (DnsDecision.select.inj h).symm⟩)
    · split at h
      · exact nomatch h
      · split at h
        · next husable => exact .inr (.inl ⟨hwifi husable, (DnsDecision.select.inj h).symm⟩)
        · exact .inl (DnsDecision.select.inj h).symm

end Records

variable {W : Type} {ops : NetworkControlPlaneOps W} {N : IfaceNames} {p : NetworkControlPlane}

/-- With a usable static configuration every nameserver that can be selected is well formed. -/
theorem Sound.selected (h : Sound ops N p) (hN : p.names = N) (hcons : Consistent p)
    (husable : UsableStatic p.staticEth) {ethLive : Bool} {dns4 : String}
    (hselect : p.dnsDecision ethLive = .select dns4) : BlankOrIpv4 dns4 := by
  have hlease : p.dhcpEthRoute = true → p.eth.active = true ∧ BlankOrIpv4 p.eth.lease.dns4 := by
    intro hroute
    have hactive : p.eth.active = true := (of_decide_eq_true hroute).1
    have hlink := h.links N.eth (.inl rfl)
    rw [← hN, NetworkControlPlane.linkFor_eth] at hlink
    exact ⟨hactive, (hlink hactive).2.2⟩
  rcases dnsDecision_selects hselect with rfl | ⟨hroute, rfl⟩ | ⟨hdns, rfl⟩
  · exact .inl rfl
  · have hactive : p.wifi.active = true := (of_decide_eq_true hroute).1
    have hlink := h.links N.wifi (.inr rfl)
    rw [← hN, NetworkControlPlane.linkFor_wifi] at hlink
    exact (hlink hactive).2.2
  · obtain ⟨hroute, -⟩ := of_decide_eq_true hdns
    unfold NetworkControlPlane.ethDns
    split
    · next hstatic =>
      rcases hroute with hroute | hroute
      · have hgw : p.staticEth.gateway4 ≠ "" := (of_decide_eq_true hroute).2.2
        exact ((husable hstatic).resolve_left hgw).2
      · have hmanaged := (hcons.eth (hlease hroute).1).1
        rw [hcons.exclusive hstatic] at hmanaged
        exact nomatch hmanaged
    · next hstatic =>
      rcases hroute with hroute | hroute
      · exact absurd (of_decide_eq_true hroute).1 hstatic
      · exact (hlease hroute).2

theorem Sound.withdraw (h : Sound ops N p) (hN : p.names = N) {iface : String}
    (hk : iface = N.eth ∨ iface = N.wifi) : Sound ops N (p.withdraw iface) := by
  unfold NetworkControlPlane.withdraw
  split
  · exact h.setOwnedRoute hN hk fun hactive => nomatch hactive
  · exact h

/-! ### Routes -/

section Routes

variable {s : Run W} (hchecks : ChecksArguments ops) (hsound : Sound ops N s.plane)
  (hN : s.plane.names = N)

include hchecks hsound hN

/-- What the two halves of `apply_routes_locked` leave when they succeed. -/
abbrev RoutesLeft (ops : NetworkControlPlaneOps W) (N : IfaceNames) (s t : Run W) : Prop :=
  t.plane.config = s.plane.config ∧ Sound ops N t.plane

theorem clear_left {iface : String} (hk : iface = N.eth ∨ iface = N.wifi) :
    wp (clearOwnedRouteLocked ops iface) (fun _ => RoutesLeft ops N s) (fun _ _ => False) s := by
  refine wp_mono (clearOwnedRouteLocked_accepted hchecks hsound hk) (fun _ t ht => ?_)
    fun _ _ h => h
  exact ⟨by rw [ht, NetworkControlPlane.config_withdraw], by rw [ht]; exact hsound.withdraw hN hk⟩

theorem ensure_left {iface gateway4 : String} {metric : Int} {f : String → String}
    (hk : iface = N.eth ∨ iface = N.wifi) (hgw : gateway4 ≠ "")
    (hwell : (PortCall.setDefaultRoute iface gateway4 metric).malformed = false) :
    wp (mapError f (ensureOwnedRouteLocked ops iface gateway4 metric))
      (fun _ => RoutesLeft ops N s) (fun _ _ => False) s := by
  rw [wp_mapError]
  refine wp_mono (ensureOwnedRouteLocked_accepted hchecks hsound hk hgw hwell) (fun _ t ht => ?_)
    fun _ _ h => h
  refine ⟨by rw [ht, NetworkControlPlane.config_setOwnedRoute], ?_⟩
  rw [ht]
  exact hsound.setOwnedRoute hN hk fun _ => hwell

omit hchecks hN in
/-- The route of an active lease is well formed. -/
theorem leaseRoute_wellFormed (hproduct : isProductPolicy s.plane.routePolicy = true) {iface : String}
    (hk : iface = N.eth ∨ iface = N.wifi) (hactive : (s.plane.linkFor iface).active = true)
    (hgw : (s.plane.linkFor iface).lease.gateway4 ≠ "") (manualMetric : Int) :
    (PortCall.setDefaultRoute iface (s.plane.linkFor iface).lease.gateway4
      (s.plane.routeMetric iface manualMetric)).malformed = false := by
  obtain ⟨hsafe, hgateway, -⟩ := hsound.links iface hk hactive
  simp [PortCall.malformed, hsafe, hgateway.resolve_left hgw, isMetric_routeMetric hproduct]

theorem applyRoutesLocked_accepted (hproduct : isProductPolicy s.plane.routePolicy = true)
    (husable : UsableStatic s.plane.staticEth) :
    wp (applyRoutesLocked ops) (fun _ => RoutesLeft ops N s) (fun _ _ => False) s := by
  have hethk : s.plane.names.eth = N.eth ∨ s.plane.names.eth = N.wifi := .inl (by rw [hN])
  have heth : wp (applyEthernetRoute ops) (fun _ => RoutesLeft ops N s) (fun _ _ => False) s := by
    unfold applyEthernetRoute
    rw [wp_bind, wp_getPlane, wp_ite]
    split
    · next hstatic =>
      obtain ⟨hactive, -, hgw⟩ := hstatic
      refine ensure_left hchecks hsound hN hethk hgw ?_
      have hsafe : isSafeIface s.plane.names.eth = true := by
        rw [hN]
        exact hsound.static hactive
      simp [PortCall.malformed, hsafe, ((husable hactive).resolve_left hgw).1,
        isMetric_routeMetric hproduct]
    · rw [wp_ite]
      split
      · next hlease =>
        obtain ⟨hactive, -, hgw⟩ := hlease
        refine ensure_left hchecks hsound hN hethk hgw ?_
        have hwell := leaseRoute_wellFormed hsound hproduct hethk
        rw [NetworkControlPlane.linkFor_eth] at hwell
        exact hwell hactive hgw (-1)
      · exact clear_left hchecks hsound hN hethk
  unfold applyRoutesLocked
  rw [wp_bind]
  refine wp_mono heth (fun _ t ht => ?_) fun _ _ h => h
  obtain ⟨hconfig, hsound'⟩ := ht
  have hN' : t.plane.names = N := (congrArg (·.names) hconfig).trans hN
  have hproduct' : isProductPolicy t.plane.routePolicy = true := by
    rw [show t.plane.routePolicy = s.plane.routePolicy from congrArg (·.routePolicy) hconfig]
    exact hproduct
  have hwifik : t.plane.names.wifi = N.eth ∨ t.plane.names.wifi = N.wifi := .inr (by rw [hN'])
  have hwifi : wp (applyWifiRoute ops) (fun _ => RoutesLeft ops N t) (fun _ _ => False) t := by
    unfold applyWifiRoute
    rw [wp_bind, wp_getPlane, wp_ite]
    split
    · next hlease =>
      obtain ⟨hactive, -, hgw⟩ := hlease
      refine ensure_left hchecks hsound' hN' hwifik hgw ?_
      have hwell := leaseRoute_wellFormed hsound' hproduct' hwifik
      rw [NetworkControlPlane.linkFor_wifi] at hwell
      exact hwell hactive hgw (-1)
    · exact clear_left hchecks hsound' hN' hwifik
  exact wp_mono hwifi (fun _ u hu => ⟨hu.1.trans hconfig, hu.2⟩) fun _ _ h => h

end Routes

/-! ### Policies -/

section Policies

variable {s : Run W} (hchecks : ChecksArguments ops) (hsound : Sound ops N s.plane)
  (hN : s.plane.names = N)

include hchecks hsound hN

/-- A usable static configuration is usable under every policy. -/
theorem setRoutePolicy_usable (hcons : Consistent s.plane)
    (husable : UsableStatic s.plane.staticEth) {policy : RoutePolicy}
    (hproduct : isProductPolicy policy = true) : completes (setRoutePolicy ops policy) s = true := by
  have hsound' : Sound ops N { s.plane with routePolicy := policy } :=
    ⟨hsound.routes, hsound.links, hsound.static, hsound.resolver⟩
  have hcons' : Consistent { s.plane with routePolicy := policy } :=
    ⟨hcons.eth, hcons.wifi, hcons.exclusive, hcons.idle⟩
  have hpass : wp (policyPass ops) (fun _ _ => True) (fun _ _ => False)
      { s with plane := { s.plane with routePolicy := policy } } := by
    unfold policyPass
    rw [wp_bind]
    refine wp_mono (applyRoutesLocked_accepted (N := N) hchecks hsound' hN hproduct husable)
      (fun _ t ht => ?_) fun _ _ h => h
    refine recomputeDnsLocked_accepted hchecks fun ethLive dns4 hselect => ?_
    rw [dnsDecision_config ht.1] at hselect
    exact hsound'.selected hN hcons' husable hselect
  obtain ⟨_, t, hrun, -⟩ := run_of_wp hpass
  unfold completes
  rw [setRoutePolicy_accepted hrun]

/-- An unusable one stops the pass under `EthernetPreferred`. -/
theorem policyPass_refused (hmarked : MarkedResolverFits ops)
    (hpolicy : s.plane.routePolicy = .ethernetPreferred)
    (hunusable : ¬UsableStatic s.plane.staticEth) :
    wp (policyPass ops) (fun _ _ => False) (fun _ _ => True) s := by
  have hactive : s.plane.staticEth.active = true := by
    cases hactive : s.plane.staticEth.active with
    | true => rfl
    | false => exact absurd (fun h => nomatch hactive.symm.trans h) hunusable
  obtain ⟨hgw, hbad⟩ : s.plane.staticEth.gateway4 ≠ "" ∧
      (isIpv4 s.plane.staticEth.gateway4 = true → ¬BlankOrIpv4 s.plane.staticEth.dns4) :=
    ⟨fun h => hunusable fun _ => .inl h, fun h h' => hunusable fun _ => .inr ⟨h, h'⟩⟩
  have hallowed : s.plane.routeAllowed s.plane.names.eth = true := by
    simp [NetworkControlPlane.routeAllowed, hpolicy]
  unfold policyPass
  rw [wp_bind]
  cases hgateway : isIpv4 s.plane.staticEth.gateway4 with
  | false =>
    -- the static route itself is refused
    unfold applyRoutesLocked applyEthernetRoute
    rw [wp_bind, wp_bind, wp_getPlane, wp_ite, if_pos ⟨hactive, hallowed, hgw⟩, wp_mapError]
    refine wp_mono (ensureOwnedRouteLocked_refused hchecks hgw ?_) (fun _ _ h => h.elim)
      fun _ _ _ => trivial
    simp [PortCall.malformed, hgateway]
  | true =>
    -- the routes may be set, but the nameserver is selected and refused
    obtain ⟨hne, hdns⟩ : s.plane.staticEth.dns4 ≠ "" ∧ isIpv4 s.plane.staticEth.dns4 = false :=
      ⟨fun h => hbad hgateway (.inl h), by simpa using fun h => hbad hgateway (.inr h)⟩
    have hroutes : ByEdits ops N (fun _ => False) (applyRoutesLocked ops) := byEdits_applyRoutes
    have hleft : wp (applyRoutesLocked ops) (fun _ => RoutesLeft ops N s) (fun _ _ => True) s :=
      wp_mono (wp_of_after
          ⟨applyRoutesLocked_config ops s, edits_sound hchecks (hroutes s hN).2 hN hsound⟩)
        (fun _ _ h => h) fun _ _ _ => trivial
    refine wp_mono hleft (fun _ t ht => ?_) fun _ _ _ => trivial
    have hN' : t.plane.names = N := (congrArg (·.names) ht.1 :).trans hN
    refine wp_recomputeDnsLocked_choice (N := N) fun u ethLive live hedited _ => ?_
    have hselect : t.plane.dnsDecision ethLive = .select s.plane.staticEth.dns4 := by
      rw [dnsDecision_config ht.1]
      simp [NetworkControlPlane.dnsDecision, NetworkControlPlane.ethDnsUsable,
        NetworkControlPlane.staticEthRoute, NetworkControlPlane.ethDns, hpolicy, hallowed, hactive,
        hgw, hne]
    rw [hselect]
    refine applyDns_refused hchecks hne hdns fun hmanaged heq => hbad hgateway ?_
    rw [heq]
    exact (edits_sound hchecks hedited hN' ht.2).resolver hmarked hmanaged

theorem setRoutePolicy_unusable (hmarked : MarkedResolverFits ops)
    (hunusable : ¬UsableStatic s.plane.staticEth) :
    wp (setRoutePolicy ops .ethernetPreferred) (fun _ _ => False) (fun _ _ => True) s := by
  have hsound' : Sound ops N { s.plane with routePolicy := .ethernetPreferred } :=
    ⟨hsound.routes, hsound.links, hsound.static, hsound.resolver⟩
  unfold setRoutePolicy
  rw [wp_bind, wp_getPlane, wp_bind, wp_modifyPlane, wp_bind, wp_attempt]
  refine wp_mono (policyPass_refused (N := N) hchecks hsound' hN hmarked rfl hunusable)
    (fun _ _ h => h.elim) fun failure t _ => ?_
  -- the way back ends with the failure, whatever becomes of it
  rw [wp_bind, wp_modifyPlane, wp_bind, wp_attempt]
  refine wp_of_after (I := fun u => wp _ _ _ u) ?_
  rw [wp_bind, wp_attempt]
  exact wp_of_after (I := fun _ => True) trivial

/-- **Which policy changes are accepted.** -/
theorem setRoutePolicy_accepts_iff (hmarked : MarkedResolverFits ops) (hcons : Consistent s.plane) :
    (∀ policy, isProductPolicy policy = true → completes (setRoutePolicy ops policy) s = true) ↔
      UsableStatic s.plane.staticEth := by
  constructor
  · intro hall
    refine Decidable.byContradiction fun hunusable => ?_
    have hfails := setRoutePolicy_unusable hchecks hsound hN hmarked hunusable
    have hends := run_of_completes (hall .ethernetPreferred rfl)
    unfold wp at hfails
    rw [hends] at hfails
    exact hfails
  · intro husable policy hproduct
    exact setRoutePolicy_usable hchecks hsound hN hcons husable hproduct

end Policies

end NetworkService.ControlPlane
