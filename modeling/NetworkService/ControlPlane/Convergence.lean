import NetworkService.ControlPlane.Kernel
import NetworkService.ControlPlane.LinkPass

/-!
# What a repair pass restores

Whatever happened to addresses and default routes since the last operation, a
`refresh_external_state` or a full `reconcile` that returns `true` has put them where the records
want them.  The argument follows the pass: each fast exit is taken only when the snapshot shows the
wanted state, and no later step of the pass undoes an earlier one.  The file also says which
nameserver the records prefer and when the policy switch selects it.
-/

namespace NetworkService.ControlPlane

open Fallible NetworkControlPlane

namespace NetworkControlPlane

variable (p : NetworkControlPlane)

/-- The address the active Ethernet configuration asks for. -/
def ethAddress : Option (String × String) :=
  if p.staticEth.active then some (p.staticEth.ip4, p.staticEth.netmask4)
  else if p.eth.active then some (p.eth.lease.ip4, p.eth.lease.netmask4)
  else none

/-- The address the active Wi-Fi configuration asks for. -/
def wifiAddress : Option (String × String) :=
  if p.wifi.active then some (p.wifi.lease.ip4, p.wifi.lease.netmask4) else none

/-- The nameserver of the managed link whose desired route has the smallest metric; Ethernet
wins a tie. -/
def preferredDns : Option String :=
  match p.desiredEth, p.desiredWifi with
  | some (_, ethMetric), some (_, wifiMetric) =>
    some (if wifiMetric < ethMetric then p.wifiDns else p.ethDns)
  | some _, none => some p.ethDns
  | none, some _ => some p.wifiDns
  | none, none => none

end NetworkControlPlane

/-- The interface carries the wanted address and the kernel holds the wanted route. -/
structure Repaired (v : KernelView) (iface : String) (address : Option (String × String))
    (route : Option (String × Int)) : Prop where
  address : v.present iface = true → ∀ ip4 netmask4, address = some (ip4, netmask4) →
    ip4 ≠ "" → netmask4 ≠ "" → v.address iface = some (ip4, netmask4)
  route : v.present iface = true → ∀ gateway4 metric, route = some (gateway4, metric) →
    ⟨iface, gateway4, metric⟩ ∈ v.routes

namespace KernelView

variable {iface : String} {v v' v'' : KernelView}

theorem SameBut.refl (iface : String) (v : KernelView) : SameBut iface v v :=
  ⟨rfl, fun _ _ => rfl, fun _ _ => Iff.rfl, rfl, rfl⟩

theorem SameBut.trans (h : SameBut iface v v') (h' : SameBut iface v' v'') :
    SameBut iface v v'' :=
  ⟨h'.present.trans h.present, fun i hi => (h'.address i hi).trans (h.address i hi),
    fun r hr => (h'.routes r hr).trans (h.routes r hr), h'.resolver.trans h.resolver,
    h'.marker.trans h.marker⟩

/-- A call that names `iface` has its effect there. -/
theorem effect_sameBut (v : KernelView) {c : PortCall} (hc : c.iface? = some iface) :
    SameBut iface v (v.effect c) := by
  have hinsert : ∀ gateway4 metric (r : Route), r.iface ≠ iface →
      (r ∈ insert ⟨iface, gateway4, metric⟩ v.routes ↔ r ∈ v.routes) := by
    intro gateway4 metric r hr
    rw [Finset.mem_insert, or_iff_right]
    rintro rfl
    exact hr rfl
  have herase : ∀ gateway4 metric (r : Route), r.iface ≠ iface →
      (r ∈ v.routes.erase ⟨iface, gateway4, metric⟩ ↔ r ∈ v.routes) := by
    intro gateway4 metric r hr
    rw [Finset.mem_erase, and_iff_right_iff_imp]
    rintro - rfl
    exact hr rfl
  cases c with
  | setDns _ | clearDns | snapshot => exact nomatch hc
  | startDhcp _ | stopDhcp _ | readLease _ | clearLease _ => exact .refl iface v
  | applyIpv4 i _ _ | clearIpv4 i =>
    obtain rfl := Option.some.inj hc
    exact ⟨rfl, fun j hj => if_neg hj, fun _ _ => Iff.rfl, rfl, rfl⟩
  | setDefaultRoute i gateway4 metric =>
    obtain rfl := Option.some.inj hc
    exact ⟨rfl, fun _ _ => rfl, hinsert gateway4 metric, rfl, rfl⟩
  | clearDefaultRoute i gateway4 metric =>
    obtain rfl := Option.some.inj hc
    exact ⟨rfl, fun _ _ => rfl, herase gateway4 metric, rfl, rfl⟩

end KernelView

/-- Work on one interface does not undo the other. -/
theorem Repaired.of_sameBut {v v' : KernelView} {iface other : String}
    {address : Option (String × String)} {route : Option (String × Int)}
    (h : Repaired v iface address route) (hother : iface ≠ other)
    (hsame : KernelView.SameBut other v v') : Repaired v' iface address route := by
  refine ⟨fun hpresent ip4 netmask4 haddress hip hmask => ?_,
    fun hpresent gateway4 metric hroute => ?_⟩
  · rw [hsame.address iface hother]
    exact h.address (hsame.present ▸ hpresent) ip4 netmask4 haddress hip hmask
  · exact (hsame.routes _ hother).mpr (h.route (hsame.present ▸ hpresent) gateway4 metric hroute)

theorem Repaired.of_eq {v v' : KernelView} {iface : String}
    {address : Option (String × String)} {route : Option (String × Int)}
    (h : Repaired v iface address route) (hpresent : v'.present = v.present)
    (haddress : v'.address = v.address) (hroutes : v'.routes = v.routes) :
    Repaired v' iface address route := by
  refine ⟨?_, ?_⟩
  · rw [hpresent, haddress]
    exact h.address
  · rw [hpresent, hroutes]
    exact h.route

variable {W : Type} (K : KernelPorts W)

/-- Between `s` and `t` only `iface` was worked on and no nameserver was set. -/
structure Worked (iface : String) (s t : Run W) : Prop where
  view : KernelView.SameBut iface (K.viewOf s) (K.viewOf t)
  sets : callsOf PortCall.setsDns t.log = callsOf PortCall.setsDns s.log
  config : configOf t = configOf s
  ethRoute : iface ≠ s.plane.names.eth → t.plane.ethRoute = s.plane.ethRoute

theorem Worked.refl (iface : String) (s : Run W) : Worked K iface s s :=
  ⟨.refl iface _, rfl, rfl, fun _ => rfl⟩

theorem Worked.trans {iface : String} {s t u : Run W} (h : Worked K iface s t)
    (h' : Worked K iface t u) : Worked K iface s u := by
  have hnames : t.plane.names = s.plane.names := congrArg (·.names) h.config
  refine ⟨h.view.trans h'.view, h'.sets.trans h.sets, h'.config.trans h.config, fun hne => ?_⟩
  exact (h'.ethRoute (by rw [hnames]; exact hne)).trans (h.ethRoute hne)

/-- The record of another interface says nothing about Ethernet. -/
theorem setOwnedRoute_ethRoute {p : NetworkControlPlane} {iface : String}
    (hne : iface ≠ p.names.eth) (route : OwnedRouteState) :
    (p.setOwnedRoute iface route).ethRoute = p.ethRoute := by
  unfold setOwnedRoute
  rw [if_neg hne]

theorem worked_call {iface : String} {s : Run W} (c : PortCall) (hc : c.iface? = some iface)
    (hok : c.succeeded (K.call c s.world).1 = true) :
    Worked K iface s (s.record c (K.call c s.world).1 (K.call c s.world).2) := by
  refine ⟨?_, ?_, rfl, fun _ => rfl⟩
  · show KernelView.SameBut iface _ (K.view _)
    rw [record_world, K.effective c s.world hok]
    exact KernelView.effect_sameBut _ hc
  · rw [callsOf_record]
    cases c <;> first | rfl | exact nomatch hc

/-! ### Routes and addresses -/

section Repair

variable {s : Run W} {iface : String} {Q : Unit → Run W → Prop} {E : String → Run W → Prop}
  (hE : ∀ e t, E e t)

include hE

theorem wp_clearOwnedRouteLocked_kernel
    (h : ∀ t, Worked K iface s t → (K.viewOf t).address = (K.viewOf s).address → Q () t) :
    wp (clearOwnedRouteLocked K.toNetworkControlPlaneOps iface) Q E s := by
  unfold clearOwnedRouteLocked
  rw [wp_bind, wp_getPlane, wp_ite]
  split
  · rw [wp_bind, wp_require, if_pos (K.wired _), wp_bind]
    refine wp_invoke.mpr ?_
    rw [wp_bind, wp_check]
    refine ⟨fun _ hok => ?_, fun e _ => hE e _⟩
    have hworked := worked_call K (s := s) (.clearDefaultRoute iface _ _) rfl
      (congrArg Except.isOk hok)
    refine h _ ⟨hworked.view, hworked.sets, config_setOwnedRoute,
      fun hne => setOwnedRoute_ethRoute hne _⟩ ?_
    show (K.view _).address = _
    rw [record_world, K.effective (.clearDefaultRoute iface _ _) s.world (congrArg Except.isOk hok)]
    rfl
  · exact h s (.refl K iface s) rfl

theorem wp_ensureOwnedRouteLocked_kernel {gateway4 : String} {metric : Int} (hgw : gateway4 ≠ "")
    (h : ∀ t, Worked K iface s t → (K.viewOf t).address = (K.viewOf s).address →
      ⟨iface, gateway4, metric⟩ ∈ (K.viewOf t).routes → Q () t) :
    wp (ensureOwnedRouteLocked K.toNetworkControlPlaneOps iface gateway4 metric) Q E s := by
  have hset : ∀ t : Run W, Worked K iface s t → (K.viewOf t).address = (K.viewOf s).address →
      wp (do
        check (← invoke K.toNetworkControlPlaneOps (.setDefaultRoute iface gateway4 metric))
        modifyPlane fun p => p.setOwnedRoute iface ⟨true, gateway4, metric⟩) Q E t := by
    intro t ht haddress
    rw [wp_bind]
    refine wp_invoke.mpr ?_
    rw [wp_bind, wp_check]
    refine ⟨fun _ hok => ?_, fun e _ => hE e _⟩
    have hok : PortCall.succeeded (.setDefaultRoute iface gateway4 metric)
        (K.call (.setDefaultRoute iface gateway4 metric) t.world).1 = true :=
      congrArg Except.isOk hok
    have hworked := worked_call K (.setDefaultRoute iface gateway4 metric) rfl hok
    have hview := K.effective _ t.world hok
    refine h _ (ht.trans K ⟨hworked.view, hworked.sets, config_setOwnedRoute,
      fun hne => setOwnedRoute_ethRoute hne _⟩) ?_ ?_
    · show (K.view _).address = _
      rw [record_world, hview, ← haddress]
      rfl
    · show _ ∈ (K.view _).routes
      rw [record_world, hview]
      exact Finset.mem_insert_self _ _
  unfold ensureOwnedRouteLocked
  rw [if_neg hgw, wp_bind, wp_require, if_pos (K.wired _), wp_bind, wp_getPlane, wp_bind, wp_when]
  split
  · exact wp_clearOwnedRouteLocked_kernel K hE hset
  · exact hset s (.refl K iface s) rfl

theorem wp_repairIpv4_kernel {observed : InterfaceSnapshot} {ip4 netmask4 : String}
    (hreports : (K.viewOf s).Reports iface observed)
    (h : ∀ t, Worked K iface s t → t.plane = s.plane → (K.viewOf t).routes = (K.viewOf s).routes →
      ((K.viewOf t).present iface = true → ip4 ≠ "" → netmask4 ≠ "" →
        (K.viewOf t).address iface = some (ip4, netmask4)) → Q () t) :
    wp (repairIpv4 K.toNetworkControlPlaneOps iface observed ip4 netmask4) Q E s := by
  unfold repairIpv4
  rw [wp_ite, wp_ite]
  split
  · next hskip =>
    refine h s (.refl K iface s) rfl rfl fun hpresent hip hmask => ?_
    rw [← hreports.present] at hpresent
    simp [hpresent, hip, hmask] at hskip
  · split
    · next hmatch =>
      refine h s (.refl K iface s) rfl rfl fun _ _ _ => ?_
      rw [hreports.address hmatch.1, hmatch.2.1, hmatch.2.2]
    · rw [wp_bind, wp_require, if_pos (K.wired _), wp_bind]
      refine wp_invoke.mpr ?_
      rw [wp_check]
      refine ⟨fun _ hok => ?_, fun e _ => hE e _⟩
      have hok : PortCall.succeeded (.applyIpv4 iface ip4 netmask4)
          (K.call (.applyIpv4 iface ip4 netmask4) s.world).1 = true := congrArg Except.isOk hok
      have hview := K.effective _ s.world hok
      refine h _ (worked_call K _ rfl hok) rfl ?_ fun _ _ _ => ?_
      · show (K.view _).routes = _
        rw [record_world, hview]
        rfl
      · show (K.view _).address iface = _
        rw [record_world, hview]
        exact if_pos rfl

theorem wp_repairRoute_kernel {observed : InterfaceSnapshot} {gateway4 : String} {metric : Int}
    (hpresent : observed.present = (K.viewOf s).present iface)
    (hroute : observed.hasDefaultRoute = true →
      ⟨iface, observed.gateway4, observed.routeMetric⟩ ∈ (K.viewOf s).routes)
    (h : ∀ t, Worked K iface s t → (K.viewOf t).address = (K.viewOf s).address →
      ((K.viewOf t).present iface = true → s.plane.routeAllowed iface = true → gateway4 ≠ "" →
        ⟨iface, gateway4, metric⟩ ∈ (K.viewOf t).routes) → Q () t) :
    wp (repairRoute K.toNetworkControlPlaneOps iface observed gateway4 metric) Q E s := by
  unfold repairRoute
  rw [wp_bind, wp_getPlane, wp_ite, wp_ite]
  split
  · next hskip =>
    refine h s (.refl K iface s) rfl fun hthere hallowed hgw => ?_
    rw [← hpresent] at hthere
    simp [hthere, hallowed, hgw] at hskip
  · next hwanted =>
    split
    · next hmatch =>
      refine h s (.refl K iface s) rfl fun _ _ _ => ?_
      have hlive := hroute hmatch.2.2.2.1
      rw [hmatch.2.2.2.2.1, hmatch.2.2.2.2.2] at hlive
      exact hlive
    · simp only [not_or, Decidable.not_not] at hwanted
      exact wp_ensureOwnedRouteLocked_kernel K hE hwanted.2.2
        fun t ht haddress hmem => h t ht haddress fun _ _ _ => hmem

/-- Address and route of one interface, in the order of the code. -/
theorem wp_repairInterface {observed : InterfaceSnapshot} {ip4 netmask4 gateway4 : String}
    {metric : Int} {address : Option (String × String)} {route : Option (String × Int)}
    (hreports : (K.viewOf s).Reports iface observed)
    (haddress : ∀ a m, address = some (a, m) → a = ip4 ∧ m = netmask4)
    (hroute : ∀ g m, route = some (g, m) →
      s.plane.routeAllowed iface = true ∧ g ≠ "" ∧ g = gateway4 ∧ m = metric)
    (h : ∀ t, Worked K iface s t → Repaired (K.viewOf t) iface address route → Q () t) :
    wp (do
      repairIpv4 K.toNetworkControlPlaneOps iface observed ip4 netmask4
      repairRoute K.toNetworkControlPlaneOps iface observed gateway4 metric) Q E s := by
  rw [wp_bind]
  refine wp_repairIpv4_kernel K hE hreports fun t ht hplane hroutes hcarried => ?_
  refine wp_repairRoute_kernel K hE ?_ (fun hlive => ?_) fun u hu hkept hheld => ?_
  · rw [ht.view.present]
    exact hreports.present
  · rw [hroutes]
    exact hreports.route hlive
  · have hpresent : (K.viewOf u).present = (K.viewOf t).present := hu.view.present
    refine h u (ht.trans K hu) ⟨fun hthere a m hwanted ha hm => ?_, fun hthere g m hwanted => ?_⟩
    · obtain ⟨rfl, rfl⟩ := haddress a m hwanted
      rw [hkept]
      exact hcarried (hpresent ▸ hthere) ha hm
    · obtain ⟨hallowed, hg, rfl, rfl⟩ := hroute g m hwanted
      exact hheld hthere (hplane ▸ hallowed) hg

theorem wp_repairEthernet_kernel {live : NetworkSnapshot} (hs : Consistent s.plane)
    (hreports : (K.viewOf s).Reports s.plane.names.eth live.eth)
    (h : ∀ t, Worked K s.plane.names.eth s t → Repaired (K.viewOf t) s.plane.names.eth
      s.plane.ethAddress s.plane.desiredEth → Q () t) :
    wp (repairEthernet K.toNetworkControlPlaneOps live) Q E s := by
  unfold repairEthernet
  rw [wp_bind, wp_getPlane]
  refine wp_split (fun hstatic => ?_) fun hstatic => wp_split (fun hdhcp => ?_) fun hdhcp => ?_
  · have hinactive : ¬s.plane.eth.active = true := by
      intro hactive
      have hmanaged := (hs.eth hactive).1
      rw [hs.exclusive hstatic] at hmanaged
      exact nomatch hmanaged
    refine wp_repairInterface K hE hreports ?_ ?_ h
    · intro a m haddress
      simpa [ethAddress, hstatic, eq_comm] using haddress
    · intro g m hroute
      unfold desiredEth at hroute
      rw [routeAllowed_eth]
      split at hroute
      · exact nomatch hroute
      · next hpolicy =>
        split at hroute
        · next hgw =>
          simp only [Option.some.injEq, Prod.mk.injEq] at hroute
          obtain ⟨rfl, rfl⟩ := hroute
          exact ⟨hpolicy, hgw.2, rfl, rfl⟩
        · rw [if_neg fun hc => hinactive hc.1] at hroute
          exact nomatch hroute
  · refine wp_repairInterface K hE hreports ?_ ?_ h
    · intro a m haddress
      simpa [ethAddress, hstatic, hdhcp.1, eq_comm] using haddress
    · intro g m hroute
      unfold desiredEth at hroute
      rw [routeAllowed_eth]
      split at hroute
      · exact nomatch hroute
      · next hpolicy =>
        rw [if_neg fun hc => hstatic hc.1] at hroute
        split at hroute
        · next hgw =>
          simp only [Option.some.injEq, Prod.mk.injEq] at hroute
          obtain ⟨rfl, rfl⟩ := hroute
          exact ⟨hpolicy, hgw.2, rfl, rfl⟩
        · exact nomatch hroute
  · have hinactive : ¬s.plane.eth.active = true := fun hactive =>
      hdhcp ⟨hactive, (hs.eth hactive).2⟩
    refine h s (.refl K _ s) ⟨fun _ a m haddress => ?_, fun _ g m hroute => ?_⟩
    · simp [ethAddress, hstatic, hinactive] at haddress
    · simp [desiredEth, hstatic, hinactive] at hroute

theorem wp_repairWifi_kernel {live : NetworkSnapshot} (hs : Consistent s.plane)
    (hreports : (K.viewOf s).Reports s.plane.names.wifi live.wifi)
    (h : ∀ t, Worked K s.plane.names.wifi s t → Repaired (K.viewOf t) s.plane.names.wifi
      s.plane.wifiAddress s.plane.desiredWifi → Q () t) :
    wp (repairWifi K.toNetworkControlPlaneOps live) Q E s := by
  unfold repairWifi
  rw [wp_bind, wp_getPlane]
  refine wp_split (fun hdhcp => ?_) fun hdhcp => ?_
  · refine wp_repairInterface K hE hreports ?_ ?_ h
    · intro a m haddress
      simpa [wifiAddress, hdhcp.1, eq_comm] using haddress
    · intro g m hroute
      unfold desiredWifi at hroute
      split at hroute
      · next hgw =>
        simp only [Option.some.injEq, Prod.mk.injEq] at hroute
        obtain ⟨rfl, rfl⟩ := hroute
        exact ⟨s.plane.routeAllowed_wifi, hgw.2, rfl, rfl⟩
      · exact nomatch hroute
  · have hinactive : ¬s.plane.wifi.active = true := fun hactive =>
      hdhcp ⟨hactive, (hs.wifi hactive).2⟩
    refine h s (.refl K _ s) ⟨fun _ a m haddress => ?_, fun _ g m hroute => ?_⟩
    · simp [wifiAddress, hinactive] at haddress
    · simp [desiredWifi, hinactive] at hroute

end Repair

/-! ### The preferred nameserver -/

section Dns

variable {p : NetworkControlPlane}

theorem desiredEth_eq : p.desiredEth =
    if p.staticEthRoute then
      some (p.staticEth.gateway4, p.routeMetric p.names.eth p.staticEth.manualMetric)
    else if p.dhcpEthRoute then some (p.eth.lease.gateway4, p.routeMetric p.names.eth)
    else none := by
  unfold desiredEth staticEthRoute dhcpEthRoute
  simp only [routeAllowed_eth, decide_eq_true_eq]
  by_cases hpolicy : p.routePolicy = .wifiOnly <;> simp [hpolicy]

theorem desiredWifi_eq : p.desiredWifi =
    if p.dhcpWifiRoute then some (p.wifi.lease.gateway4, p.routeMetric p.names.wifi)
    else none := by
  unfold desiredWifi dhcpWifiRoute
  simp only [routeAllowed_wifi, decide_eq_true_eq, true_and]

/-- A DHCP route has the metric that the switch compares with. -/
theorem routeMetric_dhcp (hs : Consistent p) (hroute : p.dhcpEthRoute = true) :
    p.routeMetric p.names.eth = p.routeMetric p.names.eth p.staticEth.manualMetric := by
  have hactive : p.eth.active = true := by
    simp only [dhcpEthRoute, decide_eq_true_eq] at hroute
    exact hroute.1
  have hidle := hs.idle (hs.static_inactive (hs.eth hactive).1)
  cases hpolicy : p.routePolicy <;> simp [routeMetric, hpolicy, hidle]

/-- The preferred nameserver in the terms of the switch. -/
theorem preferredDns_eq (hs : Consistent p) : p.preferredDns =
    if p.staticEthRoute ∨ p.dhcpEthRoute then
      if p.dhcpWifiRoute ∧
          p.routeMetric p.names.wifi < p.routeMetric p.names.eth p.staticEth.manualMetric then
        some p.wifiDns
      else some p.ethDns
    else if p.dhcpWifiRoute then some p.wifiDns else none := by
  have hmetric := routeMetric_dhcp hs
  unfold preferredDns
  rw [desiredEth_eq, desiredWifi_eq]
  cases hstatic : p.staticEthRoute with
  | true =>
    cases hwifi : p.dhcpWifiRoute with
    | false => simp
    | true =>
      simp only [if_true, true_or, true_and]
      split <;> rfl
  | false =>
    cases hdhcp : p.dhcpEthRoute with
    | false => cases hwifi : p.dhcpWifiRoute <;> simp
    | true =>
      rw [hmetric hdhcp]
      cases hwifi : p.dhcpWifiRoute with
      | false => simp
      | true =>
        simp only [Bool.false_eq_true, if_false, if_true, or_true, true_and]
        split <;> rfl

theorem dnsDecision_preferred (hs : Consistent p) {dns4 : String}
    (hpreferred : p.preferredDns = some dns4) (hdns : dns4 ≠ "") (live : Bool)
    (hown : ¬(p.routePolicy = .ethernetPreferred ∧ p.desiredEth = none ∧ live = true)) :
    p.dnsDecision live = .select dns4 := by
  rw [preferredDns_eq hs] at hpreferred
  have hne : p.names.wifi ≠ p.names.eth := Ne.symm p.names.distinct
  unfold dnsDecision ethDnsUsable wifiDnsUsable
  cases hpolicy : p.routePolicy with
  | wifiOnly =>
    -- no Ethernet route is allowed
    have hstatic : p.staticEthRoute = false := by simp [staticEthRoute, routeAllowed, hpolicy]
    have hdhcp : p.dhcpEthRoute = false := by simp [dhcpEthRoute, routeAllowed, hpolicy]
    cases hwifi : p.dhcpWifiRoute with
    | false => simp [hstatic, hdhcp, hwifi] at hpreferred
    | true =>
      have : p.wifiDns = dns4 := by simpa [hstatic, hdhcp, hwifi] using hpreferred
      simp [this, hdns]
  | wifiPreferred =>
    have hmetric : p.routeMetric p.names.wifi <
        p.routeMetric p.names.eth p.staticEth.manualMetric := by
      simp [routeMetric, hpolicy, p.names.distinct]
    cases hwifi : p.dhcpWifiRoute with
    | true =>
      have : p.wifiDns = dns4 := by simpa [hwifi, hmetric] using hpreferred
      simp [this, hdns]
    | false =>
      have : (p.staticEthRoute ∨ p.dhcpEthRoute) ∧ p.ethDns = dns4 := by
        simpa [hwifi] using hpreferred
      simp [this, hdns]
  | manualMetric =>
    by_cases heth : p.staticEthRoute = true ∨ p.dhcpEthRoute = true
    · by_cases hlower : p.dhcpWifiRoute = true ∧ p.routeMetric p.names.wifi <
          p.routeMetric p.names.eth p.staticEth.manualMetric
      · have : p.wifiDns = dns4 := by simpa [heth, hlower] using hpreferred
        simp [hlower, this]
      · have hkeep : ¬(p.dhcpWifiRoute = true ∧ (¬p.staticEthRoute = true ∧
            ¬p.dhcpEthRoute = true ∨ p.routeMetric p.names.wifi <
              p.routeMetric p.names.eth p.staticEth.manualMetric)) := by
          rintro ⟨hwifi, hno | hmetric⟩
          · exact heth.elim hno.1 hno.2
          · exact hlower ⟨hwifi, hmetric⟩
        have : p.ethDns = dns4 := by simpa [heth, hlower] using hpreferred
        simp only [if_neg hkeep]
        simp [heth, this, hdns]
    · cases hwifi : p.dhcpWifiRoute with
      | false => simp [heth, hwifi] at hpreferred
      | true =>
        have : p.wifiDns = dns4 := by simpa [heth, hwifi] using hpreferred
        simp only [not_or] at heth
        simp [heth.1, heth.2, this]
  | ethernetPreferred =>
    have hmetric : ¬p.routeMetric p.names.wifi <
        p.routeMetric p.names.eth p.staticEth.manualMetric := by
      simp [routeMetric, hpolicy, hne]
    by_cases heth : p.staticEthRoute = true ∨ p.dhcpEthRoute = true
    · have : p.ethDns = dns4 := by simpa [heth, hmetric] using hpreferred
      simp [heth, this, hdns]
    · cases hwifi : p.dhcpWifiRoute with
      | false => simp [heth, hwifi] at hpreferred
      | true =>
        have : p.wifiDns = dns4 := by simpa [heth, hwifi] using hpreferred
        simp only [not_or, Bool.not_eq_true] at heth
        have hlive : live = false := by
          rw [desiredEth_eq] at hown
          simpa [hpolicy, heth.1, heth.2] using hown
        simp [heth.1, heth.2, hlive, this, hdns]

theorem dnsDecision_leaves {live : Bool} (hpolicy : p.routePolicy = .ethernetPreferred)
    (hnone : p.desiredEth = none) (hlive : live = true) :
    p.dnsDecision live = .preserveExternal := by
  have heth : p.staticEthRoute = false ∧ p.dhcpEthRoute = false := by
    rw [desiredEth_eq] at hnone
    cases hstatic : p.staticEthRoute <;> cases hdhcp : p.dhcpEthRoute <;> simp_all
  simp [dnsDecision, hpolicy, ethDnsUsable, heth.1, heth.2, hlive]

end Dns

/-! ### What a call leaves of the resolver -/

/-- The resolver, what the records know of it, and how many writes to it failed. -/
structure DnsPart where
  names : IfaceNames
  initialized : Bool
  managed : Bool
  last : String
  resolver : String
  marker : Bool
  failures : Nat

def dnsPart (s : Run W) : DnsPart where
  names := s.plane.names
  initialized := s.plane.dnsOwnershipInitialized
  managed := s.plane.managedDns
  last := s.plane.lastDns
  resolver := (K.viewOf s).resolver
  marker := (K.viewOf s).marker
  failures := dnsFailures s

/-- A call that is not a resolver write leaves the resolver alone, whichever way it ends. -/
theorem resolver_call (c : PortCall) (hc : c.writesDns = false) (w : W) :
    (K.view (K.call c w).2).resolver = (K.view w).resolver ∧
      (K.view (K.call c w).2).marker = (K.view w).marker := by
  cases hok : c.succeeded (K.call c w).1 with
  | false =>
    rw [K.harmless c w hok hc]
    exact ⟨rfl, rfl⟩
  | true =>
    rw [K.effective c w hok]
    cases c <;> first | exact ⟨rfl, rfl⟩ | exact nomatch hc

theorem dnsPart_invoke (c : PortCall) (hc : c.writesDns = false) :
    Along (Framing (dnsPart K)) (invoke K.toNetworkControlPlaneOps c) := by
  intro s
  have hfailures : dnsFailures (s.record c (K.call c s.world).1 (K.call c s.world).2) =
      dnsFailures s := by
    rw [dnsFailures_record, hc]
    rfl
  have hresolver : (K.viewOf (s.record c (K.call c s.world).1 (K.call c s.world).2)).resolver =
      (K.viewOf s).resolver := (resolver_call K c hc s.world).1
  have hmarker : (K.viewOf (s.record c (K.call c s.world).1 (K.call c s.world).2)).marker =
      (K.viewOf s).marker := (resolver_call K c hc s.world).2
  show dnsPart K (s.record c _ _) = dnsPart K s
  unfold dnsPart
  rw [hfailures, hresolver, hmarker]
  rfl

theorem dnsPart_linkSteps (iface : String) :
    LinkSteps K.toNetworkControlPlaneOps iface (Framing (dnsPart K)) where
  call c hc _ := dnsPart_invoke K c (by cases c <;> first | rfl | exact nomatch hc)
  route owned s := by
    show dnsPart K { s with plane := s.plane.setOwnedRoute iface owned } = dnsPart K s
    unfold setOwnedRoute
    split <;> rfl
  link f s := by
    show dnsPart K { s with plane := s.plane.setLink iface (f s.plane) } = dnsPart K s
    unfold setLink
    split <;> rfl

theorem dnsPart_steps (N : IfaceNames) :
    PortSteps K.toNetworkControlPlaneOps N (Framing (dnsPart K)) := by
  have hwithin : ∀ {α : Type} {m : Op W α}, Along (Framing (dnsPart K)) m →
      Along (Within N (Framing (dnsPart K))) m := by
    intro α m hm
    have hpart : ∀ s : Run W, (dnsPart K s).names = s.plane.names := fun _ => rfl
    exact within_framing DnsPart.names hpart hm
  exact
    { clear := fun iface _ => hwithin (dnsPart_linkSteps K iface).clear
      ensure := fun iface gateway4 metric _ =>
        hwithin ((dnsPart_linkSteps K iface).ensure gateway4 metric)
      call := fun c hc =>
        hwithin (dnsPart_invoke K c (by cases c <;> first | rfl | exact nomatch hc)) }

theorem applyRoutesLocked_dnsPart :
    Along (Framing (dnsPart K)) (applyRoutesLocked K.toNetworkControlPlaneOps) :=
  fun s => ((dnsPart_steps K s.plane.names).applyRoutes s rfl).2

theorem repairOwnedStateLocked_dnsPart :
    Along (Framing (dnsPart K)) (repairOwnedStateLocked K.toNetworkControlPlaneOps) :=
  fun s => ((dnsPart_steps K s.plane.names).repairs.repairOwnedState s rfl).2

theorem reconcileLinks_dnsPart :
    Along (Framing (dnsPart K)) (reconcileLinks K.toNetworkControlPlaneOps) := by
  refine Along.bind along_getPlane fun p => ?_
  refine Along.bind (dnsPart_linkSteps K _).reconcileLink fun _ => ?_
  exact Along.bind (dnsPart_linkSteps K _).reconcileLink fun _ => Along.pure _

/-! ### The pass -/

section Pass

variable {s : Run W}

/-- Addresses and default routes are where the records want them. -/
structure Restored (t : Run W) : Prop where
  eth : Repaired (K.viewOf t) K.names.eth t.plane.ethAddress t.plane.desiredEth
  wifi : Repaired (K.viewOf t) K.names.wifi t.plane.wifiAddress t.plane.desiredWifi

/-- What the records ask for is in the configuration. -/
theorem wanted_of_config {p q : NetworkControlPlane} (h : q.config = p.config) :
    q.ethAddress = p.ethAddress ∧ q.desiredEth = p.desiredEth ∧
      q.wifiAddress = p.wifiAddress ∧ q.desiredWifi = p.desiredWifi := by
  refine ⟨?_, ?_, ?_, ?_⟩
  · exact (congrArg ethAddress h :)
  · exact (congrArg desiredEth h :)
  · exact (congrArg wifiAddress h :)
  · exact (congrArg desiredWifi h :)

/-- A snapshot of one interface stays right while the other is worked on. -/
theorem KernelView.Reports.of_sameBut {v v' : KernelView} {iface other : String}
    {observed : InterfaceSnapshot} (h : v.Reports iface observed) (hother : iface ≠ other)
    (hsame : KernelView.SameBut other v v') : v'.Reports iface observed := by
  refine ⟨?_, fun hip => ?_, fun hroute => ?_, fun hroute r hr => ?_⟩
  · rw [hsame.present]
    exact h.present
  · rw [hsame.address iface hother]
    exact h.address hip
  · exact (hsame.routes _ hother).mpr (h.route hroute)
  · intro hiface
    have hmem : r ∈ v.routes := (hsame.routes r (hiface.symm ▸ hother)).mp hr
    exact h.noRoute hroute r hmem hiface

/-- The Ethernet default routes and their record are as they were. -/
structure EthernetKept (s t : Run W) : Prop where
  owned : t.plane.ethRoute = s.plane.ethRoute
  routes : ∀ r : Route, r.iface = K.names.eth → (r ∈ (K.viewOf t).routes ↔ r ∈ (K.viewOf s).routes)

/-- An address is repaired without the routes. -/
theorem repairIpv4_routes (iface : String) (observed : InterfaceSnapshot) (ip4 netmask4 : String) :
    Along (Framing fun t : Run W => (t.plane, (K.viewOf t).routes))
      (repairIpv4 K.toNetworkControlPlaneOps iface observed ip4 netmask4) := by
  refine Along.ite (Along.pure _) (Along.ite (Along.pure _) ?_)
  refine Along.bind (Along.require _ _) fun _ => Along.bind ?_ fun r => along_check r
  intro s
  exact Prod.ext rfl (routes_call K (.applyIpv4 iface ip4 netmask4) rfl s.world)

/-- Without a wanted route the repair of Ethernet leaves routes and records alone. -/
theorem repairEthernet_unrouted (live : NetworkSnapshot)
    (hnone : s.plane.desiredEth = none) :
    wp (repairEthernet K.toNetworkControlPlaneOps live)
      (fun _ t => t.plane = s.plane ∧ (K.viewOf t).routes = (K.viewOf s).routes)
      (fun _ _ => True) s := by
  have hrepair : ∀ ip4 netmask4 gateway4 metric,
      (s.plane.routePolicy ≠ .wifiOnly → gateway4 = "") →
      wp (do
        repairIpv4 K.toNetworkControlPlaneOps s.plane.names.eth live.eth ip4 netmask4
        repairRoute K.toNetworkControlPlaneOps s.plane.names.eth live.eth gateway4 metric)
        (fun _ t => t.plane = s.plane ∧ (K.viewOf t).routes = (K.viewOf s).routes)
        (fun _ _ => True) s := by
    intro ip4 netmask4 gateway4 metric hgw
    rw [wp_bind]
    refine wp_of_framing (repairIpv4_routes K _ _ _ _) (fun _ t ht => ?_) fun _ _ _ => trivial
    obtain ⟨hplane, hroutes⟩ := Prod.mk.inj ht
    unfold repairRoute
    rw [wp_bind, wp_getPlane, wp_ite, if_pos]
    · exact ⟨hplane, hroutes⟩
    · rw [hplane, routeAllowed_eth]
      by_cases hpolicy : s.plane.routePolicy = .wifiOnly
      · exact Or.inr (Or.inl fun hno => hno hpolicy)
      · exact Or.inr (Or.inr (hgw hpolicy))
  have hwanted : s.plane.routePolicy ≠ .wifiOnly →
      ¬(s.plane.staticEth.active = true ∧ s.plane.staticEth.gateway4 ≠ "") ∧
        ¬(s.plane.eth.active = true ∧ s.plane.eth.lease.gateway4 ≠ "") := by
    intro hpolicy
    unfold desiredEth at hnone
    rw [if_neg hpolicy] at hnone
    split at hnone
    · cases hnone
    · next hstatic =>
      split at hnone
      · cases hnone
      · next hdhcp => exact ⟨hstatic, hdhcp⟩
  unfold repairEthernet
  rw [wp_bind, wp_getPlane]
  refine wp_split (fun hstatic => ?_) fun _ => wp_split (fun hdhcp => ?_) fun _ => ⟨rfl, rfl⟩
  · exact hrepair _ _ _ _ fun hpolicy => by_contra fun hgw => (hwanted hpolicy).1 ⟨hstatic, hgw⟩
  · exact hrepair _ _ _ _ fun hpolicy => by_contra fun hgw => (hwanted hpolicy).2 ⟨hdhcp.1, hgw⟩

/-- **What a repair pass leaves**: both interfaces as the records want them, and Ethernet routes as
they were where no Ethernet route is wanted. -/
theorem repairOwnedStateLocked_restores (hs : Consistent s.plane) (hnames : s.plane.names = K.names) :
    wp (repairOwnedStateLocked K.toNetworkControlPlaneOps)
      (fun _ t => Restored K t ∧ configOf t = configOf s ∧
        callsOf PortCall.setsDns t.log = callsOf PortCall.setsDns s.log ∧
        (s.plane.desiredEth = none → EthernetKept K s t))
      (fun _ _ => True) s := by
  unfold repairOwnedStateLocked
  rw [wp_ite, if_pos (K.wired _), wp_bind]
  refine wp_invoke.mpr ?_
  rw [wp_bind]
  have hlooked := dnsLooked_snapshot K s
  have hview : K.view (K.call .snapshot s.world).2 = K.view s.world := hlooked.view
  have hreportsEth := K.reportsEth s.world
  have hreportsWifi := K.reportsWifi s.world
  rw [← hnames, ← hview] at hreportsEth hreportsWifi
  have heth : wp (repairEthernet K.toNetworkControlPlaneOps (K.call .snapshot s.world).1)
      (fun _ t => Worked K s.plane.names.eth
        (s.record .snapshot (K.call .snapshot s.world).1 (K.call .snapshot s.world).2) t ∧
        Repaired (K.viewOf t) s.plane.names.eth s.plane.ethAddress s.plane.desiredEth)
      (fun _ _ => True)
      (s.record .snapshot (K.call .snapshot s.world).1 (K.call .snapshot s.world).2) :=
    wp_repairEthernet_kernel K (fun _ _ => trivial) (by exact hs) hreportsEth
      fun t ht hrepaired => ⟨ht, hrepaired⟩
  have hkept : wp (repairEthernet K.toNetworkControlPlaneOps (K.call .snapshot s.world).1)
      (fun _ t => s.plane.desiredEth = none →
        t.plane = s.plane ∧ (K.viewOf t).routes = (K.viewOf s).routes) (fun _ _ => True)
      (s.record .snapshot (K.call .snapshot s.world).1 (K.call .snapshot s.world).2) := by
    by_cases hnone : s.plane.desiredEth = none
    · refine wp_mono (repairEthernet_unrouted K _ (by exact hnone)) (fun _ t ht _ => ?_)
        fun _ _ h => h
      exact ⟨ht.1, ht.2.trans (congrArg KernelView.routes hview)⟩
    · refine wp_mono heth (fun _ _ _ hyes => absurd hyes hnone) fun _ _ h => h
  refine wp_mono (wp_and heth hkept) (fun _ t ht => ?_) fun _ _ _ => trivial
  obtain ⟨⟨ht, heth⟩, hkept⟩ := ht
  have hnames₁ : t.plane.names = s.plane.names := congrArg (·.names) ht.config
  refine wp_repairWifi_kernel K (fun _ _ => trivial) (hs.of_config ht.config) ?_ fun u hu hwifi => ?_
  · rw [hnames₁]
    exact hreportsWifi.of_sameBut (Ne.symm s.plane.names.distinct) ht.view
  have hconfig : configOf u = configOf s := hu.config.trans ht.config
  obtain ⟨hethAddress, hethRoute, hwifiAddress, hwifiRoute⟩ := wanted_of_config hconfig
  obtain ⟨-, -, hwifiAddress₁, hwifiRoute₁⟩ := wanted_of_config ht.config
  refine ⟨⟨?_, ?_⟩, hconfig, by rw [hu.sets, ht.sets, hlooked.sets], fun hnone => ?_⟩
  · rw [hethAddress, hethRoute, ← hnames]
    rw [hnames₁] at hu
    exact heth.of_sameBut s.plane.names.distinct hu.view
  · rw [hwifiAddress, hwifiRoute, ← hnames]
    rw [hwifiAddress₁, hwifiRoute₁, hnames₁] at hwifi
    exact hwifi
  · obtain ⟨hplane, hroutes⟩ := hkept hnone
    refine ⟨(hu.ethRoute (Ne.symm t.plane.names.distinct)).trans (by rw [hplane]), fun r hr => ?_⟩
    rw [hu.view.routes r (by rw [hr, hnames₁, hnames]; exact K.names.distinct), hroutes]

variable {K}

/-- The DNS step leaves both interfaces alone. -/
theorem Restored.of_dns {t u v : Run W} (h : Restored K t) (hlooked : DnsLooked K t u)
    (hdone : DnsDone K u v) : Restored K v := by
  have hview : K.viewOf u = K.viewOf t := hlooked.view
  have hconfig : v.plane.config = t.plane.config :=
    (congrArg NetworkControlPlane.config (hdone.links.trans hlooked.links) :)
  obtain ⟨hethAddress, hethRoute, hwifiAddress, hwifiRoute⟩ := wanted_of_config hconfig
  have hstay : ∀ {iface address route}, Repaired (K.viewOf t) iface address route →
      Repaired (K.viewOf v) iface address route :=
    fun h => h.of_eq (hdone.present.trans (by rw [hview])) (hdone.address.trans (by rw [hview]))
      (hdone.routes.trans (by rw [hview]))
  refine ⟨?_, ?_⟩
  · rw [hethAddress, hethRoute]
    exact hstay h.eth
  · rw [hwifiAddress, hwifiRoute]
    exact hstay h.wifi

variable (K)

theorem refreshExternalState_restores (hs : Consistent s.plane) (hnames : s.plane.names = K.names) :
    wp (refreshExternalState K.toNetworkControlPlaneOps) (fun _ t => Restored K t)
      (fun _ _ => True) s := by
  unfold refreshExternalState
  rw [wp_bind]
  refine wp_mono (repairOwnedStateLocked_restores K hs hnames) (fun _ t ht => ?_) fun _ _ h => h
  have hnames' : t.plane.names = K.names := (congrArg (·.names) ht.2.1 :).trans hnames
  exact wp_recomputeDnsLocked_kernel K hnames' (fun u v hu _ _ hv => ht.1.of_dns hu hv)
    fun _ _ _ _ => trivial

theorem reconcile_restores (hs : Consistent s.plane) (hnames : s.plane.names = K.names) :
    wp (reconcile K.toNetworkControlPlaneOps) (fun _ t => Restored K t) (fun _ _ => True) s := by
  have hkept := wp_of_after (I := fun t : Run W => t.plane.names = s.plane.names)
    ((namesSteps K.toNetworkControlPlaneOps _).passes.reconcileLinks s rfl).1
  unfold reconcile
  rw [wp_bind]
  refine wp_mono (wp_and (reconcileLinks_consistent _ hs) hkept) (fun _ t ht => ?_)
    fun _ _ _ => trivial
  exact refreshExternalState_restores K ht.1 (ht.2.trans hnames)

end Pass

end NetworkService.ControlPlane
