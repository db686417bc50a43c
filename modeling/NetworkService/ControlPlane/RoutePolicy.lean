import NetworkService.ControlPlane.Reliable

/-!
# Routes follow policy

The desired default route of each interface is a function of the policy and of the
configuration records.  The code computes it in three places: when a lease fact is applied,
when routes are applied after a static or policy change, and when drift is repaired.  The three
agree: where no call fails, the owned route of each interface is the desired one after every
operation, and where calls may fail it is the desired one or none, as long as no withdrawal and
no rollback is cut short.
-/

namespace NetworkService.ControlPlane

open Fallible

/-- Gateway and metric of the route a record stands for. -/
def OwnedRouteState.route? (owned : OwnedRouteState) : Option (String × Int) :=
  if owned.active then some (owned.gateway4, owned.metric) else none

/-- An owned-route record after `clear_owned_route_locked`. -/
def OwnedRouteState.withdrawn (owned : OwnedRouteState) : OwnedRouteState :=
  if owned.active then {} else owned

@[simp] theorem route?_withdrawn (owned : OwnedRouteState) : owned.withdrawn.route? = none := by
  unfold OwnedRouteState.withdrawn OwnedRouteState.route?
  split <;> simp_all

@[simp] theorem route?_mk (gateway4 : String) (metric : Int) :
    (OwnedRouteState.mk true gateway4 metric).route? = some (gateway4, metric) := rfl

namespace NetworkControlPlane

variable (p : NetworkControlPlane)

/-- The route Ethernet should have. -/
def desiredEth : Option (String × Int) :=
  if p.routePolicy = .wifiOnly then none
  else if p.staticEth.active ∧ p.staticEth.gateway4 ≠ "" then
    some (p.staticEth.gateway4, p.routeMetric p.names.eth p.staticEth.manualMetric)
  else if p.eth.active ∧ p.eth.lease.gateway4 ≠ "" then
    some (p.eth.lease.gateway4, p.routeMetric p.names.eth)
  else none

/-- The route Wi-Fi should have; no policy excludes Wi-Fi. -/
def desiredWifi : Option (String × Int) :=
  if p.wifi.active ∧ p.wifi.lease.gateway4 ≠ "" then
    some (p.wifi.lease.gateway4, p.routeMetric p.names.wifi)
  else none

theorem routeAllowed_eth : p.routeAllowed p.names.eth = true ↔ p.routePolicy ≠ .wifiOnly := by
  simp [routeAllowed]

theorem routeAllowed_wifi : p.routeAllowed p.names.wifi = true := by
  simp [routeAllowed, Ne.symm p.names.distinct]

theorem withdraw_eth : p.withdraw p.names.eth = { p with ethRoute := p.ethRoute.withdrawn } := by
  unfold withdraw OwnedRouteState.withdrawn
  rw [ownedRouteFor_eth, setOwnedRoute_eth]
  split <;> rfl

theorem withdraw_wifi :
    p.withdraw p.names.wifi = { p with wifiRoute := p.wifiRoute.withdrawn } := by
  unfold withdraw OwnedRouteState.withdrawn
  rw [ownedRouteFor_wifi, setOwnedRoute_wifi]
  split <;> rfl

theorem leaseRouted_eth (fact : DhcpLeaseFact) :
    ∃ route, p.leaseRouted p.names.eth fact = { p with ethRoute := route } ∧
      route.route? = if p.routePolicy = .wifiOnly then none
        else if fact.gateway4 ≠ "" then some (fact.gateway4, p.routeMetric p.names.eth)
        else none := by
  unfold leaseRouted
  by_cases hpolicy : p.routePolicy = .wifiOnly
  · have hno : ¬(p.routeAllowed p.names.eth = true ∧ fact.gateway4 ≠ "") :=
      fun hc => p.routeAllowed_eth.mp hc.1 hpolicy
    rw [if_neg hno, p.withdraw_eth, if_pos hpolicy]
    exact ⟨_, rfl, route?_withdrawn _⟩
  · have hallowed := p.routeAllowed_eth.mpr hpolicy
    rw [if_neg hpolicy]
    by_cases hgw : fact.gateway4 = ""
    · rw [if_neg (fun hc => hc.2 hgw), p.withdraw_eth, if_neg (fun hc => hc hgw)]
      exact ⟨_, rfl, route?_withdrawn _⟩
    · rw [if_pos ⟨hallowed, hgw⟩, p.setOwnedRoute_eth, if_pos hgw]
      exact ⟨_, rfl, rfl⟩

theorem leaseRouted_wifi (fact : DhcpLeaseFact) :
    ∃ route, p.leaseRouted p.names.wifi fact = { p with wifiRoute := route } ∧
      route.route? = if fact.gateway4 ≠ "" then
        some (fact.gateway4, p.routeMetric p.names.wifi) else none := by
  unfold leaseRouted
  by_cases hgw : fact.gateway4 = ""
  · rw [if_neg (fun hc => hc.2 hgw), p.withdraw_wifi, if_neg (fun hc => hc hgw)]
    exact ⟨_, rfl, route?_withdrawn _⟩
  · rw [if_pos ⟨p.routeAllowed_wifi, hgw⟩, p.setOwnedRoute_wifi, if_pos hgw]
    exact ⟨_, rfl, rfl⟩

theorem setLink_of_eth {p : NetworkControlPlane} {iface : String} (hi : iface = p.names.eth)
    (link : LinkState) : p.setLink iface link = { p with eth := link } := if_pos hi

theorem setLink_of_wifi {p : NetworkControlPlane} {iface : String} (hi : iface = p.names.wifi)
    (link : LinkState) : p.setLink iface link = { p with wifi := link } := by
  rw [hi, setLink_wifi]

end NetworkControlPlane

/-- Both owned routes are the desired ones. -/
structure FollowsPolicy (p : NetworkControlPlane) : Prop where
  eth : p.ethRoute.route? = p.desiredEth
  wifi : p.wifiRoute.route? = p.desiredWifi

namespace FollowsPolicy

variable {p q : NetworkControlPlane}

theorem of_links (h : FollowsPolicy p) (hq : q.links = p.links) : FollowsPolicy q := by
  have hp : FollowsPolicy p.links := ⟨h.eth, h.wifi⟩
  rw [← hq] at hp
  exact ⟨hp.eth, hp.wifi⟩

end FollowsPolicy

/-- The owned route is the desired one; where a call may fail (`fallible`), there may also be
none. -/
def OwnedRouteState.InLine (fallible : Prop) (owned : OwnedRouteState)
    (desired : Option (String × Int)) : Prop :=
  owned.route? = desired ∨ fallible ∧ owned.active = false

structure RoutesInLine (fallible : Prop) (p : NetworkControlPlane) : Prop where
  eth : p.ethRoute.InLine fallible p.desiredEth
  wifi : p.wifiRoute.InLine fallible p.desiredWifi

theorem OwnedRouteState.InLine.of_unowned {fallible : Prop} {owned : OwnedRouteState}
    {desired : Option (String × Int)} (h : fallible) (hinactive : owned.active = false) :
    owned.InLine fallible desired := Or.inr ⟨h, hinactive⟩

theorem withdrawn_active (owned : OwnedRouteState) : owned.withdrawn.active = false := by
  unfold OwnedRouteState.withdrawn
  split
  · rfl
  · next hinactive => exact Bool.not_eq_true _ ▸ hinactive

namespace RoutesInLine

variable {fallible : Prop} {p q : NetworkControlPlane}

theorem of_follows (h : FollowsPolicy p) : RoutesInLine fallible p :=
  ⟨Or.inl h.eth, Or.inl h.wifi⟩

/-- Without failures the owned routes are the desired ones. -/
theorem follows (h : RoutesInLine fallible p) (hsure : ¬fallible) : FollowsPolicy p :=
  ⟨h.eth.resolve_right fun hfail => hsure hfail.1, h.wifi.resolve_right fun hfail => hsure hfail.1⟩

theorem of_links (h : RoutesInLine fallible p) (hq : q.links = p.links) :
    RoutesInLine fallible q := by
  have hp : RoutesInLine fallible p.links := ⟨h.eth, h.wifi⟩
  rw [← hq] at hp
  exact ⟨hp.eth, hp.wifi⟩

/-- An early return leaves the routes as they were or one of them withdrawn. -/
theorem kept (h : RoutesInLine fallible p) {iface : String}
    (hiface : iface = p.names.eth ∨ iface = p.names.wifi) (hfail : fallible)
    (hq : q = p ∨ q = p.withdraw iface) : RoutesInLine fallible q := by
  rcases hq with rfl | rfl
  · exact h
  rcases hiface with rfl | rfl
  · rw [p.withdraw_eth]
    exact ⟨.of_unowned hfail (withdrawn_active _), h.wifi⟩
  · rw [p.withdraw_wifi]
    exact ⟨h.eth, .of_unowned hfail (withdrawn_active _)⟩

/-- A link that was forgotten after its route was withdrawn desires nothing. -/
theorem reset (hr : RoutesInLine fallible p) {iface : String}
    (hknown : p.knownIface iface = true) :
    RoutesInLine fallible ((p.withdraw iface).reset iface) := by
  rcases NetworkControlPlane.knownIface_iff.mp hknown with rfl | rfl
  · rw [p.withdraw_eth, NetworkControlPlane.reset_of_eth rfl]
    exact ⟨Or.inl (by simp [NetworkControlPlane.desiredEth]), hr.wifi⟩
  · rw [p.withdraw_wifi, NetworkControlPlane.reset_of_wifi rfl]
    exact ⟨hr.eth, Or.inl (by simp [NetworkControlPlane.desiredWifi])⟩

end RoutesInLine

variable {W : Type}

section Operations

variable (ops : NetworkControlPlaneOps W)

/-- Both halves of a policy pass. -/
def policyPass : Op W Unit := do
  applyRoutesLocked ops
  recomputeDnsLocked ops

/-- The run in which `set_route_policy` restores the previous policy after a failed attempt. -/
def policyRolledBack (policy : RoutePolicy) (s : Run W) : Run W :=
  let tried := after (policyPass ops) { s with plane := { s.plane with routePolicy := policy } }
  { tried with plane := { tried.plane with routePolicy := s.plane.routePolicy } }

section SetRoutePolicy

variable {ops} {policy : RoutePolicy} {s t : Run W}

theorem setRoutePolicy_accepted {u : Unit}
    (h : policyPass ops { s with plane := { s.plane with routePolicy := policy } } = .ok u t) :
    setRoutePolicy ops policy s = .ok () t := by
  have hattempt : attempt (do applyRoutesLocked ops; recomputeDnsLocked ops : Op W Unit)
      { s with plane := { s.plane with routePolicy := policy } } = .ok (.ok u) t := by
    show attempt (policyPass ops) _ = _
    unfold attempt
    rw [h]
  unfold setRoutePolicy
  rw [run_bind, run_getPlane]
  dsimp only
  rw [run_bind, run_modifyPlane]
  dsimp only
  rw [run_bind, hattempt]
  rfl

/-- After a failed attempt both passes run again, and the error is that of the attempt. -/
theorem setRoutePolicy_rejected {failure : String}
    (h : policyPass ops { s with plane := { s.plane with routePolicy := policy } } =
      .error failure t) :
    setRoutePolicy ops policy s = (do
      let _ ← attempt (applyRoutesLocked ops)
      let _ ← attempt (recomputeDnsLocked ops)
      throw failure : Op W Unit) (policyRolledBack ops policy s) := by
  have hattempt : attempt (do applyRoutesLocked ops; recomputeDnsLocked ops : Op W Unit)
      { s with plane := { s.plane with routePolicy := policy } } = .ok (.error failure) t := by
    show attempt (policyPass ops) _ = _
    unfold attempt
    rw [h]
  have hrolled : policyRolledBack ops policy s =
      { t with plane := { t.plane with routePolicy := s.plane.routePolicy } } := by
    unfold policyRolledBack
    rw [after_error h]
  rw [hrolled]
  unfold setRoutePolicy
  rw [run_bind, run_getPlane]
  dsimp only
  rw [run_bind, run_modifyPlane]
  dsimp only
  rw [run_bind, hattempt]
  rfl

end SetRoutePolicy

/-- What an operation that starts with its routes in line needs to end so: a stop withdraws the
route of a link that is up, and a failed policy change restores the routes of the policy. -/
structure Operation.Withdraws (F : Prop) (s : Run W) (op : Operation) : Prop where
  sparesStatic : op = .stopDhcp s.plane.names.eth → s.plane.staticEth.active = true → F
  stop : ∀ iface, op = .stopDhcp iface → s.plane.knownIface iface = true →
    (s.plane.linkFor iface).active = true → completes (clearOwnedRouteLocked ops iface) s = true
  rollback : ∀ policy, op = .setRoutePolicy policy → policy ≠ s.plane.routePolicy →
    completes (policyPass ops) { s with plane := { s.plane with routePolicy := policy } } = false →
    completes (applyRoutesLocked ops) (policyRolledBack ops policy s) = true

variable {F : Prop} (hF : ops.MayFail → F) {s : Run W}

/-- Both ends of `m` from `s` have their routes in line with the policy. -/
abbrev KeepsRoutes (F : Prop) {α : Type} (m : Op W α) (s : Run W) : Prop :=
  wp m (fun _ t => RoutesInLine F t.plane) (fun _ t => RoutesInLine F t.plane) s

/-! ### Applying the policy -/

theorem applyEthernetRoute_leaves {Q : Unit → Run W → Prop} {E : String → Run W → Prop}
    (h : ∀ (route : OwnedRouteState) (t : Run W), route.route? = s.plane.desiredEth →
      t.plane = { s.plane with ethRoute := route } → Q () t)
    (hE : ops.MayFail → ∀ e t, t.plane = s.plane ∨ t.plane = s.plane.withdraw s.plane.names.eth →
      E e t) : wp (applyEthernetRoute ops) Q E s := by
  unfold applyEthernetRoute
  rw [wp_bind, wp_getPlane]
  dsimp only
  simp only [wp_ite, wp_mapError, NetworkControlPlane.routeAllowed_eth]
  unfold NetworkControlPlane.desiredEth at h
  split
  · next hstatic =>
    refine ensureOwnedRouteLocked_leaves ops hstatic.2.2 (fun t ht => h _ t ?_
      (ht.trans (s.plane.setOwnedRoute_eth _))) fun hfail _ => hE hfail _
    rw [route?_mk, if_neg hstatic.2.1, if_pos ⟨hstatic.1, hstatic.2.2⟩]
  · next hstatic =>
    split
    · next hdhcp =>
      refine ensureOwnedRouteLocked_leaves ops hdhcp.2.2 (fun t ht => h _ t ?_
        (ht.trans (s.plane.setOwnedRoute_eth _))) fun hfail _ => hE hfail _
      rw [route?_mk, if_neg hdhcp.2.1, if_neg (fun hc => hstatic ⟨hc.1, hdhcp.2.1, hc.2⟩),
        if_pos ⟨hdhcp.1, hdhcp.2.2⟩]
    · next hdhcp =>
      refine clearOwnedRouteLocked_leaves ops (fun t ht => h _ t ?_ (ht.trans s.plane.withdraw_eth))
        fun hfail e t ht => hE hfail e t (Or.inl ht)
      rw [route?_withdrawn]
      split
      · rfl
      · next hpolicy =>
        rw [if_neg (fun hc => hstatic ⟨hc.1, hpolicy, hc.2⟩),
          if_neg (fun hc => hdhcp ⟨hc.1, hpolicy, hc.2⟩)]

theorem applyWifiRoute_leaves {Q : Unit → Run W → Prop} {E : String → Run W → Prop}
    (h : ∀ (route : OwnedRouteState) (t : Run W), route.route? = s.plane.desiredWifi →
      t.plane = { s.plane with wifiRoute := route } → Q () t)
    (hE : ops.MayFail → ∀ e t, t.plane = s.plane ∨ t.plane = s.plane.withdraw s.plane.names.wifi →
      E e t) : wp (applyWifiRoute ops) Q E s := by
  unfold applyWifiRoute
  rw [wp_bind, wp_getPlane]
  dsimp only
  simp only [wp_ite, wp_mapError, NetworkControlPlane.routeAllowed_wifi, true_and]
  unfold NetworkControlPlane.desiredWifi at h
  split
  · next hdhcp =>
    refine ensureOwnedRouteLocked_leaves ops hdhcp.2 (fun t ht => h _ t ?_
      (ht.trans (s.plane.setOwnedRoute_wifi _))) fun hfail _ => hE hfail _
    rw [route?_mk, if_pos hdhcp]
  · next hdhcp =>
    refine clearOwnedRouteLocked_leaves ops (fun t ht => h _ t ?_ (ht.trans s.plane.withdraw_wifi))
      fun hfail e t ht => hE hfail e t (Or.inl ht)
    rw [route?_withdrawn, if_neg hdhcp]

include hF

/-- Applying the routes brings both interfaces in line with the policy; an early return keeps
them so if they were. -/
theorem applyRoutesLocked_leaves {Q : Unit → Run W → Prop} {E : String → Run W → Prop}
    (h : ∀ t : Run W, FollowsPolicy t.plane → t.plane.config = s.plane.config → Q () t)
    (hE : ops.MayFail → ∀ e t, (RoutesInLine F s.plane → RoutesInLine F t.plane) →
      t.plane.config = s.plane.config → E e t) :
    wp (applyRoutesLocked ops) Q E s := by
  unfold applyRoutesLocked
  rw [wp_bind]
  refine applyEthernetRoute_leaves ops (fun ethRoute t heth ht => ?_) fun hfail e t ht => ?_
  · refine applyWifiRoute_leaves ops (fun wifiRoute u hwifi hu => h u ?_ ?_) fun hfail e u hu => ?_
    · rw [hu, ht]
      rw [ht] at hwifi
      exact ⟨heth, hwifi⟩
    · rw [hu, ht]
      rfl
    · have ht' : RoutesInLine F s.plane → RoutesInLine F t.plane := by
        intro hs
        rw [ht]
        exact ⟨Or.inl heth, hs.wifi⟩
      refine hE hfail e u (fun hs => (ht' hs).kept (Or.inr rfl) (hF hfail) hu) ?_
      have hconfig : t.plane.config = s.plane.config := by
        rw [ht]
        rfl
      rcases hu with hu | hu
      · rw [hu, hconfig]
      · rw [hu, NetworkControlPlane.config_withdraw, hconfig]
  · refine hE hfail e t (fun hs => hs.kept (Or.inl rfl) (hF hfail) ht) ?_
    rcases ht with ht | ht
    · rw [ht]
    · rw [ht, NetworkControlPlane.config_withdraw]

/-! ### Consuming leases -/

theorem reconcileLinkLocked_eth_inLine (hs : Consistent s.plane)
    (hr : RoutesInLine F s.plane) :
    KeepsRoutes F (reconcileLinkLocked ops s.plane.names.eth) s := by
  refine reconcileLinkLocked_leaves ops (fun t ht => ht ▸ hr) (fun hmanaged fact t ht => ?_)
    (fun hmanaged fact t hfact ht => ?_) (fun e t ht => ht ▸ hr)
    fun hfail e t ht => hr.kept (Or.inl rfl) (hF hfail) ht
  · rw [s.plane.linkFor_eth] at hmanaged
    rw [ht, s.plane.withdraw_eth, NetworkControlPlane.setLink_of_eth rfl]
    refine ⟨Or.inl ?_, hr.wifi⟩
    simp [NetworkControlPlane.desiredEth, hs.static_inactive hmanaged]
  · rw [s.plane.linkFor_eth] at hmanaged
    obtain ⟨route, hrouted, hroute⟩ := s.plane.leaseRouted_eth fact
    rw [ht, hrouted, NetworkControlPlane.setLink_of_eth rfl]
    refine ⟨Or.inl (hroute.trans ?_), hr.wifi⟩
    unfold NetworkControlPlane.desiredEth
    simp only [hs.static_inactive hmanaged, Bool.false_eq_true, false_and, if_false, true_and]
    rfl

theorem reconcileLinkLocked_wifi_inLine (hr : RoutesInLine F s.plane) :
    KeepsRoutes F (reconcileLinkLocked ops s.plane.names.wifi) s := by
  refine reconcileLinkLocked_leaves ops (fun t ht => ht ▸ hr) (fun _ fact t ht => ?_)
    (fun _ fact t hfact ht => ?_) (fun e t ht => ht ▸ hr)
    fun hfail e t ht => hr.kept (Or.inr rfl) (hF hfail) ht
  · rw [ht, s.plane.withdraw_wifi, NetworkControlPlane.setLink_of_wifi rfl]
    refine ⟨hr.eth, Or.inl ?_⟩
    simp [NetworkControlPlane.desiredWifi]
  · obtain ⟨route, hrouted, hroute⟩ := s.plane.leaseRouted_wifi fact
    rw [ht, hrouted, NetworkControlPlane.setLink_of_wifi rfl]
    refine ⟨hr.eth, Or.inl (hroute.trans ?_)⟩
    unfold NetworkControlPlane.desiredWifi
    simp only [true_and]
    rfl

theorem reconcileLinks_inLine (hs : Consistent s.plane) (hr : RoutesInLine F s.plane) :
    KeepsRoutes F (reconcileLinks ops) s := by
  have hnames := wp_of_after (I := fun t : Run W => t.plane.names = s.plane.names)
    ((namesSteps ops _).passes.reconcileLink _ (Or.inl rfl) s rfl).1
  unfold reconcileLinks
  rw [KeepsRoutes, wp_bind, wp_getPlane, wp_bind]
  refine wp_mono (wp_and (reconcileLinkLocked_eth_inLine ops hF hs hr) hnames) (fun _ t ht => ?_)
    (fun _ _ h => h.1)
  rw [wp_bind, ← ht.2]
  exact wp_mono (reconcileLinkLocked_wifi_inLine ops hF ht.1) (fun _ _ h => h) (fun _ _ h => h)

/-! ### Repairing drift -/

/-- Repair of one interface: whatever the route step does keeps the routes in line if setting
the wanted route does. -/
theorem repair_inLine {iface ip4 netmask4 gateway4 : String} {metric : Int}
    {observed : InterfaceSnapshot} (hiface : iface = s.plane.names.eth ∨ iface = s.plane.names.wifi)
    (hr : RoutesInLine F s.plane)
    (hset : s.plane.routeAllowed iface = true → gateway4 ≠ "" →
      RoutesInLine F (s.plane.setOwnedRoute iface ⟨true, gateway4, metric⟩)) :
    KeepsRoutes F (do
      repairIpv4 ops iface observed ip4 netmask4
      repairRoute ops iface observed gateway4 metric) s := by
  rw [KeepsRoutes, wp_bind]
  refine repairIpv4_leaves ops (fun t ht => ?_) fun _ _ t ht => ht ▸ hr
  rw [← ht] at hiface hr hset
  exact repairRoute_leaves ops (fun u hu => hu ▸ hr) (fun hallowed hgw u hu => hu ▸ hset hallowed hgw)
    fun hfail e u hu => hr.kept hiface (hF hfail) hu

theorem repairEthernet_inLine (live : NetworkSnapshot) (hr : RoutesInLine F s.plane) :
    KeepsRoutes F (repairEthernet ops live) s := by
  unfold repairEthernet
  rw [KeepsRoutes, wp_bind, wp_getPlane]
  refine wp_split (fun hstatic => ?_) fun hstatic => wp_split (fun hdhcp => ?_) fun _ => hr
  · refine repair_inLine ops hF (Or.inl rfl) hr fun hallowed hgw => ?_
    rw [s.plane.setOwnedRoute_eth]
    refine ⟨Or.inl ?_, hr.wifi⟩
    rw [s.plane.routeAllowed_eth] at hallowed
    show _ = s.plane.desiredEth
    unfold NetworkControlPlane.desiredEth
    rw [route?_mk, if_neg hallowed, if_pos ⟨hstatic, hgw⟩]
  · refine repair_inLine ops hF (Or.inl rfl) hr fun hallowed hgw => ?_
    rw [s.plane.setOwnedRoute_eth]
    refine ⟨Or.inl ?_, hr.wifi⟩
    rw [s.plane.routeAllowed_eth] at hallowed
    show _ = s.plane.desiredEth
    unfold NetworkControlPlane.desiredEth
    rw [route?_mk, if_neg hallowed, if_neg (fun hc => hstatic hc.1), if_pos ⟨hdhcp.1, hgw⟩]

theorem repairWifi_inLine (live : NetworkSnapshot) (hr : RoutesInLine F s.plane) :
    KeepsRoutes F (repairWifi ops live) s := by
  unfold repairWifi
  rw [KeepsRoutes, wp_bind, wp_getPlane]
  refine wp_split (fun hdhcp => ?_) fun _ => hr
  refine repair_inLine ops hF (Or.inr rfl) hr fun _ hgw => ?_
  rw [s.plane.setOwnedRoute_wifi]
  refine ⟨hr.eth, Or.inl ?_⟩
  show _ = s.plane.desiredWifi
  unfold NetworkControlPlane.desiredWifi
  rw [route?_mk, if_pos ⟨hdhcp.1, hgw⟩]

omit hF in
theorem recomputeDnsLocked_inLine (hr : RoutesInLine F s.plane) :
    KeepsRoutes F (recomputeDnsLocked ops) s :=
  recomputeDnsLocked_leaves ops (fun _ ht => hr.of_links ht) fun _ _ _ ht => hr.of_links ht

theorem refreshExternalState_inLine (hr : RoutesInLine F s.plane) :
    KeepsRoutes F (refreshExternalState ops) s := by
  unfold refreshExternalState repairOwnedStateLocked
  rw [KeepsRoutes, wp_bind]
  refine wp_split (fun _ => ?_) fun _ => recomputeDnsLocked_inLine ops hr
  rw [wp_bind]
  refine wp_invoke.mpr ?_
  rw [wp_bind]
  refine wp_mono (repairEthernet_inLine ops hF _ hr) (fun _ t ht => ?_) (fun _ _ h => h)
  refine wp_mono (repairWifi_inLine ops hF _ ht) (fun _ u hu => ?_) (fun _ _ h => h)
  exact recomputeDnsLocked_inLine ops hu

/-! ### The operations -/

theorem reconcile_inLine (hs : Consistent s.plane) (hr : RoutesInLine F s.plane) :
    KeepsRoutes F (reconcile ops) s := by
  unfold reconcile
  rw [KeepsRoutes, wp_bind]
  exact wp_mono (reconcileLinks_inLine ops hF hs hr)
    (fun _ _ ht => refreshExternalState_inLine ops hF ht) (fun _ _ h => h)

theorem reconcileChanged_inLine (hs : Consistent s.plane) (hr : RoutesInLine F s.plane) :
    KeepsRoutes F (reconcileChanged ops) s := by
  unfold reconcileChanged
  rw [KeepsRoutes, wp_bind, wp_attempt]
  refine wp_mono (reconcileLinks_inLine ops hF hs hr) (fun changed t ht => ?_) (fun _ _ h => h)
  dsimp only
  rw [wp_bind, wp_getPlane, wp_ite]
  split
  · rw [wp_bind, wp_attempt]
    exact wp_mono (recomputeDnsLocked_inLine ops ht) (fun _ _ h => h) (fun _ _ h => h)
  · exact ht

omit hF in
theorem startDhcp_inLine (iface : String) (hr : RoutesInLine F s.plane) :
    KeepsRoutes F (startDhcp ops iface) s := by
  refine startDhcp_leaves ops (fun hknown t ht => ?_) (fun _ _ => hr) fun _ e t ht => ?_
  · refine RoutesInLine.of_links ?_ ht
    rcases NetworkControlPlane.knownIface_iff.mp hknown with rfl | rfl
    · rw [s.plane.withdraw_eth, NetworkControlPlane.reset_of_eth rfl,
        NetworkControlPlane.setLink_of_eth rfl]
      exact ⟨Or.inl (by simp [NetworkControlPlane.desiredEth]), hr.wifi⟩
    · rw [s.plane.withdraw_wifi, NetworkControlPlane.reset_of_wifi rfl,
        NetworkControlPlane.setLink_of_wifi rfl]
      exact ⟨hr.eth, Or.inl (by simp [NetworkControlPlane.desiredWifi])⟩
  · rcases ht with ht | ⟨hknown, ht⟩
    · exact ht ▸ hr
    · exact (hr.reset hknown).of_links ht

omit hF in
/-- A stop keeps the routes in line if it can withdraw the route of a link that is up, and does
not leave a static configuration behind without its route. -/
theorem stopDhcp_inLine (iface : String) (hr : RoutesInLine F s.plane)
    (hstatic : iface = s.plane.names.eth → s.plane.staticEth.active = true → F)
    (hclear : s.plane.knownIface iface = true → (s.plane.linkFor iface).active = true →
      completes (clearOwnedRouteLocked ops iface) s = true) :
    KeepsRoutes F (stopDhcp ops iface) s := by
  refine stopDhcp_leaves ops (fun hknown p t hp ht => ?_) (fun _ => hr)
  refine RoutesInLine.of_links ?_ ht
  rcases hp with rfl | ⟨⟨-, hfailed⟩, rfl⟩
  · rcases NetworkControlPlane.knownIface_iff.mp hknown with rfl | rfl
    · rw [s.plane.withdraw_eth, NetworkControlPlane.setLink_of_eth rfl]
      refine ⟨?_, hr.wifi⟩
      cases hactive : s.plane.staticEth.active with
      | false => exact Or.inl (by simp [NetworkControlPlane.desiredEth, hactive])
      | true => exact .of_unowned (hstatic rfl hactive) (withdrawn_active _)
    · rw [s.plane.withdraw_wifi, NetworkControlPlane.setLink_of_wifi rfl]
      exact ⟨hr.eth, Or.inl (by simp [NetworkControlPlane.desiredWifi])⟩
  · -- the route stays, and so does the static configuration that asks for it
    have hdown : (s.plane.linkFor iface).active = false := by
      cases hactive : (s.plane.linkFor iface).active with
      | false => rfl
      | true => exact nomatch hfailed.symm.trans (hclear hknown hactive)
    rcases NetworkControlPlane.knownIface_iff.mp hknown with rfl | rfl
    · rw [s.plane.linkFor_eth] at hdown
      have hdesired : { s.plane with eth := {} }.desiredEth = s.plane.desiredEth := by
        unfold NetworkControlPlane.desiredEth
        simp only [hdown, Bool.false_eq_true, false_and, if_false]
        rfl
      rw [NetworkControlPlane.setLink_of_eth rfl]
      exact ⟨hdesired ▸ hr.eth, hr.wifi⟩
    · rw [s.plane.linkFor_wifi] at hdown
      have hdesired : { s.plane with wifi := {} }.desiredWifi = s.plane.desiredWifi := by
        unfold NetworkControlPlane.desiredWifi
        simp only [hdown, Bool.false_eq_true, false_and, if_false]
      rw [NetworkControlPlane.setLink_of_wifi rfl]
      exact ⟨hr.eth, hdesired ▸ hr.wifi⟩

omit hF in
theorem adoptDhcp_inLine (iface : String) (hr : RoutesInLine F s.plane) :
    KeepsRoutes F (adoptDhcp ops iface) s := by
  unfold adoptDhcp
  rw [KeepsRoutes, wp_bind, wp_getPlane, wp_bind, wp_require]
  split
  · next hknown =>
    rw [wp_bind]
    refine require_leaves ops (fun _ => ?_) fun _ => hr
    rw [wp_bind, wp_modifyPlane, wp_bind, wp_modifyPlane, wp_modifyPlane]
    dsimp only
    rcases NetworkControlPlane.knownIface_iff.mp hknown with rfl | rfl
    · simp only [NetworkControlPlane.setLink_eth, NetworkControlPlane.setOwnedRoute, if_true]
      exact ⟨Or.inl (by simp [NetworkControlPlane.desiredEth, OwnedRouteState.route?]), hr.wifi⟩
    · simp only [NetworkControlPlane.setLink_wifi, NetworkControlPlane.setOwnedRoute,
        Ne.symm s.plane.names.distinct, if_false]
      exact ⟨hr.eth, Or.inl (by simp [NetworkControlPlane.desiredWifi, OwnedRouteState.route?])⟩
  · exact hr

/-- A policy change keeps the routes in line if a failed attempt at another policy is followed
by a complete route pass under the previous one. -/
theorem setRoutePolicy_inLine (policy : RoutePolicy) (hr : RoutesInLine F s.plane)
    (hrollback : policy ≠ s.plane.routePolicy →
      completes (policyPass ops) { s with plane := { s.plane with routePolicy := policy } } = false →
      completes (applyRoutesLocked ops) (policyRolledBack ops policy s) = true) :
    KeepsRoutes F (setRoutePolicy ops policy) s := by
  let s' : Run W := { s with plane := { s.plane with routePolicy := policy } }
  have hforward : wp (policyPass ops) (fun _ t => RoutesInLine F t.plane)
      (fun _ t => (policy = s.plane.routePolicy → RoutesInLine F t.plane) ∧
        t.plane.routePolicy = policy) s' := by
    unfold policyPass
    rw [wp_bind]
    refine applyRoutesLocked_leaves ops hF (fun t ht hconfig => ?_) fun _ e t ht hconfig => ⟨?_, ?_⟩
    · refine recomputeDnsLocked_leaves ops (fun u hu => .of_follows (ht.of_links hu))
        fun _ e u hu => ⟨fun _ => .of_follows (ht.of_links hu), ?_⟩
      exact (congrArg (·.routePolicy) hu).trans (congrArg (·.routePolicy) hconfig)
    · intro hsame
      refine ht ?_
      show RoutesInLine F { s.plane with routePolicy := policy }
      rw [hsame]
      exact hr
    · exact congrArg (·.routePolicy) hconfig
  have htried := wp_of_after (m := policyPass ops) (s := s')
    (I := fun t => t = after (policyPass ops) s') rfl
  unfold setRoutePolicy
  rw [KeepsRoutes, wp_bind, wp_getPlane, wp_bind, wp_modifyPlane, wp_bind, wp_attempt]
  refine wp_mono (wp_and (wp_and hforward htried) (wp_completes (policyPass ops) s'))
    (fun _ t ht => ht.1.1) fun e t ht => ?_
  obtain ⟨⟨⟨hkept, hpolicy⟩, hafter⟩, hstopped⟩ := ht
  dsimp only
  rw [wp_bind, wp_modifyPlane, wp_bind, wp_attempt]
  have hrolled : { t with plane := { t.plane with routePolicy := s.plane.routePolicy } } =
      policyRolledBack ops policy s := by
    rw [hafter]
    rfl
  rw [hrolled]
  have hback : wp (applyRoutesLocked ops) (fun _ u => RoutesInLine F u.plane)
      (fun _ u => RoutesInLine F (policyRolledBack ops policy s).plane →
        RoutesInLine F u.plane) (policyRolledBack ops policy s) :=
    applyRoutesLocked_leaves ops hF (fun u hu _ => .of_follows hu) fun _ _ _ hu _ => hu
  refine wp_mono (wp_and hback (wp_completes _ _)) (fun _ u hu => ?_) fun _ u hu => ?_
  · rw [wp_bind, wp_attempt]
    exact wp_mono (recomputeDnsLocked_inLine ops hu.1) (fun _ _ h => h) (fun _ _ h => h)
  · -- only an attempt at the same policy may leave the rollback incomplete
    have hsame : policy = s.plane.routePolicy := by
      by_cases hsame : policy = s.plane.routePolicy
      · exact hsame
      · exact nomatch hu.2.symm.trans (hrollback hsame hstopped)
    have hinLine : RoutesInLine F (policyRolledBack ops policy s).plane := by
      rw [← hrolled, ← hsame, ← hpolicy]
      exact hkept hsame
    rw [wp_bind, wp_attempt]
    exact wp_mono (recomputeDnsLocked_inLine ops (hu.1 hinLine)) (fun _ _ h => h) (fun _ _ h => h)

theorem applyEthernetStatic_inLine (ip4 netmask4 gateway4 dns4 : String) (manualMetric : Int)
    (hr : RoutesInLine F s.plane) :
    KeepsRoutes F (applyEthernetStatic ops ip4 netmask4 gateway4 dns4 manualMetric) s := by
  unfold applyEthernetStatic
  rw [KeepsRoutes, wp_bind, wp_require]
  split
  · rw [wp_bind, wp_getPlane, wp_bind]
    refine clearOwnedRouteLocked_leaves ops (fun t ht => ?_) fun _ e t ht => ht ▸ hr
    rw [s.plane.withdraw_eth] at ht
    rw [wp_bind]
    refine wp_invoke.mpr ?_
    rw [wp_bind]
    refine wp_invoke.mpr ?_
    rw [wp_bind, wp_modifyPlane, wp_bind]
    have hdropped : RoutesInLine F { t.plane with eth := {}, staticEth := {} } := by
      rw [ht]
      exact ⟨Or.inl (by simp [NetworkControlPlane.desiredEth]), hr.wifi⟩
    refine wp_invoke.mpr ?_
    rw [wp_bind, wp_check]
    refine ⟨fun _ _ => ?_, fun _ _ => hdropped⟩
    rw [wp_bind, wp_modifyPlane, wp_bind]
    refine applyRoutesLocked_leaves ops hF (fun u hu _ => ?_) fun hfail e u hu _ => hu ?_
    · exact recomputeDnsLocked_inLine ops (.of_follows hu)
    · refine ⟨.of_unowned (hF hfail) ?_, hdropped.wifi⟩
      show t.plane.ethRoute.active = false
      rw [ht]
      exact withdrawn_active _
  · exact hr

theorem perform_inLine (op : Operation) (hs : Consistent s.plane)
    (hr : RoutesInLine F s.plane) (hop : op.Withdraws ops F s) :
    RoutesInLine F (after (op.perform ops) s).plane := by
  refine after_of_wp (I := fun t : Run W => RoutesInLine F t.plane) ?_
  cases op with
  | startDhcp iface => exact startDhcp_inLine ops iface hr
  | stopDhcp iface =>
    exact stopDhcp_inLine ops iface hr (fun hi => hop.sparesStatic (by rw [hi])) (hop.stop _ rfl)
  | adoptDhcp iface => exact adoptDhcp_inLine ops iface hr
  | applyEthernetStatic ip4 netmask4 gateway4 dns4 manualMetric =>
    exact applyEthernetStatic_inLine ops hF ip4 netmask4 gateway4 dns4 manualMetric hr
  | reconcile => exact reconcile_inLine ops hF hs hr
  | reconcileChanged =>
    refine wp_bind.mpr (wp_mono (reconcileChanged_inLine ops hF hs hr) (fun result t ht => ?_)
      (fun _ _ h => h))
    exact wp_check.mpr ⟨fun _ _ => ht, fun _ _ => ht⟩
  | refreshExternalState => exact refreshExternalState_inLine ops hF hr
  | setRoutePolicy policy => exact setRoutePolicy_inLine ops hF policy hr (hop.rollback _ rfl)

end Operations

/-! ### Every run -/

/-- `stop_dhcp` is not called on Ethernet while static Ethernet is active. -/
def SparesStatic (s : Run W) (op : Operation) : Prop :=
  op = .stopDhcp s.plane.names.eth → s.plane.staticEth.active = false

/-- On a reliable platform no withdrawal and no rollback is ever cut short. -/
theorem SparesStatic.withdraws (P : ReliablePorts W) {s : Run W} {op : Operation}
    (h : SparesStatic s op) : op.Withdraws P.toNetworkControlPlaneOps False s where
  sparesStatic hop hactive := nomatch (h hop).symm.trans hactive
  stop _ _ _ _ := completes_of_wp (Q := fun _ _ => True)
    (wp_clearOwnedRouteLocked P fun _ _ => trivial)
  rollback _ _ _ _ := completes_of_wp (Q := fun _ _ => True)
    (applyRoutesLocked_leaves _ P.not_mayFail (fun _ _ _ => trivial)
      fun hfail => absurd hfail P.not_mayFail)

theorem reliable_followsPolicy (P : ReliablePorts W) {s : Run W}
    (hs : Reachable P.toNetworkControlPlaneOps SparesStatic s) : FollowsPolicy s.plane := by
  have hinLine : RoutesInLine False s.plane := by
    induction hs with
    | fresh names w => exact ⟨Or.inl rfl, Or.inl rfl⟩
    | perform op hreach hallowed ih =>
      exact perform_inLine _ P.not_mayFail op hreach.consistent ih (hallowed.withdraws P)
    | environment w _ ih => exact ih
  exact hinLine.follows id

/-- **Routes always follow policy.**  On a platform whose calls succeed, after any sequence of
operations and with any leases and policies, the owned route of each interface is the desired
one. -/
theorem owned_routes_eq_desired (P : ReliablePorts W) {s : Run W}
    (hs : Reachable P.toNetworkControlPlaneOps SparesStatic s) :
    s.plane.ethRoute.route? = s.plane.desiredEth ∧
      s.plane.wifiRoute.route? = s.plane.desiredWifi := by
  have hfollows := reliable_followsPolicy P hs
  exact ⟨hfollows.eth, hfollows.wifi⟩

/-- A Wi-Fi client is started, its lease is consumed and the policy then prefers Wi-Fi. -/
def wifiRun : Run (Option DhcpLeaseFact) :=
  let ops := leasePorts.toNetworkControlPlaneOps
  let started := after ((Operation.startDhcp "wlan0").perform ops) (fresh .standard none)
  let bound := after (Operation.reconcileChanged.perform ops)
    { started with world := some accessPointLease }
  after ((Operation.setRoutePolicy .wifiPreferred).perform ops) bound

theorem owned_routes_eq_desired_wifiRun :
    wifiRun.plane.ethRoute.route? = wifiRun.plane.desiredEth ∧
      wifiRun.plane.wifiRoute.route? = wifiRun.plane.desiredWifi ∧
      wifiRun.plane.desiredWifi = some ("192.168.4.1", 10) := by
  have hreach : Reachable leasePorts.toNetworkControlPlaneOps SparesStatic wifiRun := by
    refine .perform _ (.perform _ (.environment _ (.perform _ (.fresh _ _) ?_)) ?_) ?_ <;>
      exact fun hop => nomatch hop
  obtain ⟨heth, hwifi⟩ := owned_routes_eq_desired leasePorts hreach
  exact ⟨heth, hwifi, by decide +kernel⟩

end NetworkService.ControlPlane
