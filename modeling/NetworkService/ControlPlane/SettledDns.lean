import NetworkService.ControlPlane.Convergence

/-!
# When a fast reconcile leaves DNS settled

The fast `reconcile(changed, error)` recomputes the resolver only when a lease was applied in
the same call.  On a machine nobody else touches it therefore depends on the calls before it:
a call that committed records and then stopped short of its DNS step, or whose resolver write
failed, leaves a resolver that no later quiet tick looks at again.

`Tended` is the runs in which this does not happen, and in these a fast reconcile that returns
`true` leaves nothing for the resolver to do.
-/

namespace NetworkService.ControlPlane

open Fallible NetworkControlPlane

variable {W : Type} (K : KernelPorts W)

/-! ### Runs without external changes -/

/-- The control plane at the end of the daemon's constructor, which may adopt running clients. -/
inductive Constructed : Run W → Prop
  | fresh (w : W) : Constructed (fresh K.names w)
  | adopt {s : Run W} (iface : String) : Constructed s →
      Constructed (after (adoptDhcp K.toNetworkControlPlaneOps iface) s)

/-- Operations after construction.  Between two of them leases may be published, but addresses,
routes and the resolver stay as they are. -/
inductive Undisturbed : Run W → Prop
  | start {s : Run W} : Constructed K s → Undisturbed s
  | perform {s : Run W} (op : Operation) (hop : ∀ iface, op ≠ .adoptDhcp iface) : Undisturbed s →
      Undisturbed (after (op.perform K.toNetworkControlPlaneOps) s)
  | environment {s : Run W} (w : W) (hview : K.view w = K.viewOf s) : Undisturbed s →
      Undisturbed { s with world := w }

/-- The run in which a rejected `set_route_policy` recomputes the resolver for the policy it
restored. -/
def policyRestored (policy : RoutePolicy) (s : Run W) : Run W :=
  let ops := K.toNetworkControlPlaneOps
  let tried := after (do applyRoutesLocked ops; recomputeDnsLocked ops)
    { s with plane := { s.plane with routePolicy := policy } }
  after (applyRoutesLocked ops)
    { tried with plane := { tried.plane with routePolicy := s.plane.routePolicy } }

/-- The calls that may stop between committing records and their DNS step. -/
def Operation.commitsFirst : Operation → Bool
  | .applyEthernetStatic _ _ _ _ _ | .reconcile | .reconcileChanged => true
  | _ => false

/-- The resolver is not left behind: no resolver write of the call fails, and a call that stops
between its commits and its DNS step has not changed which nameserver is called for.  A
rejected policy change makes up for a failed write when it recomputes for the old policy. -/
def Careful (s : Run W) (op : Operation) : Prop :=
  let ops := K.toNetworkControlPlaneOps
  let t := after (op.perform ops) s
  match op with
  | .setRoutePolicy policy =>
    completes (op.perform ops) s = true ∨
      completes (recomputeDnsLocked ops) (policyRestored K policy s) = true
  | _ =>
    dnsFailures t = dnsFailures s ∧
      (op.commitsFirst = true → s.plane.dnsOwnershipInitialized = true →
        completes (op.perform ops) s = false →
        dnsTarget t.plane (K.viewOf t) = dnsTarget s.plane (K.viewOf s))

/-- The full passes: what they complete makes up for everything before. -/
def Operation.isFullPass : Operation → Bool
  | .reconcile | .refreshExternalState => true
  | _ => false

/-- Runs in which every call since the last completed full pass was careful. -/
inductive Tended : Run W → Prop
  | start {s : Run W} : Constructed K s → Tended s
  | recovered {s : Run W} (op : Operation) (hop : op.isFullPass = true) : Undisturbed K s →
      completes (op.perform K.toNetworkControlPlaneOps) s = true →
      Tended (after (op.perform K.toNetworkControlPlaneOps) s)
  | perform {s : Run W} (op : Operation) (hop : ∀ iface, op ≠ .adoptDhcp iface)
      (hcareful : Careful K s op) : Tended s →
      Tended (after (op.perform K.toNetworkControlPlaneOps) s)
  | environment {s : Run W} (w : W) (hview : K.view w = K.viewOf s) : Tended s →
      Tended { s with world := w }

/-! ### The invariant -/

/-- Once ownership is initialized, the resolver is settled. -/
structure Settled (s : Run W) : Prop where
  names : s.plane.names = K.names
  settled : s.plane.dnsOwnershipInitialized = true → DnsSettled s.plane (K.viewOf s)

variable {K} {s t : Run W}

theorem DnsSettled.of_target {p q : NetworkControlPlane} {v v' : KernelView}
    (h : DnsSettled p v) (htarget : dnsTarget q v' = dnsTarget p v)
    (hmanaged : q.managedDns = p.managedDns) (hlast : q.lastDns = p.lastDns)
    (hresolver : v'.resolver = v.resolver) : DnsSettled q v' := by
  unfold DnsSettled at h ⊢
  rw [htarget, hmanaged, hlast, hresolver]
  exact h

/-- A call that stopped before it came to the resolver. -/
theorem Settled.of_dnsPart (hs : Settled K s) (hpart : dnsPart K t = dnsPart K s)
    (htarget : s.plane.dnsOwnershipInitialized = true →
      dnsTarget t.plane (K.viewOf t) = dnsTarget s.plane (K.viewOf s)) : Settled K t := by
  have hinit : t.plane.dnsOwnershipInitialized = s.plane.dnsOwnershipInitialized :=
    congrArg DnsPart.initialized hpart
  refine ⟨(congrArg DnsPart.names hpart).trans hs.names, fun hyes => ?_⟩
  rw [hinit] at hyes
  exact (hs.settled hyes).of_target (htarget hyes) (congrArg DnsPart.managed hpart)
    (congrArg DnsPart.last hpart) (congrArg DnsPart.resolver hpart)

/-- Nothing a quiet call changes matters to the resolver. -/
theorem Settled.of_same (hs : Settled K s) (hplane : t.plane = s.plane)
    (hview : K.viewOf t = K.viewOf s) : Settled K t := by
  refine ⟨hplane ▸ hs.names, fun hinit => ?_⟩
  rw [hplane] at hinit ⊢
  rw [hview]
  exact hs.settled hinit

/-- **A DNS pass settles the resolver** or one of its writes failed. -/
theorem wp_recomputeDnsLocked_settled (hnames : s.plane.names = K.names) :
    wp (recomputeDnsLocked K.toNetworkControlPlaneOps)
      (fun _ t => Settled K t ∧ t.plane.dnsOwnershipInitialized = true)
      (fun _ t => dnsFailures s < dnsFailures t) s := by
  refine wp_recomputeDnsLocked_kernel K hnames (fun t u ht hinit _ hu => ?_) fun _ _ _ h => h
  refine ⟨⟨?_, fun _ => hu.settled⟩, hu.initialized.trans hinit⟩
  exact (congrArg (·.names) (hu.links.trans ht.links)).trans hnames

/-- A settled resolver is not written to. -/
theorem recomputeDnsLocked_quiet (hs : Settled K s)
    (hinit : s.plane.dnsOwnershipInitialized = true) :
    callsOf PortCall.writesDns (after (recomputeDnsLocked K.toNetworkControlPlaneOps) s).log =
      callsOf PortCall.writesDns s.log := by
  refine after_of_wp (I := fun t : Run W => callsOf PortCall.writesDns t.log = _) ?_
  refine wp_recomputeDnsLocked_observed K hs.names hinit (hs.settled hinit) fun t ht => ?_
  refine ht.log.callsOf fun e he => ?_
  rw [he]
  rfl

/-- The DNS step of a call that began in `s`. -/
theorem wp_dnsStep (hnames : s.plane.names = K.names) (ht : dnsPart K t = dnsPart K s) :
    wp (recomputeDnsLocked K.toNetworkControlPlaneOps) (fun _ u => Settled K u)
      (fun _ u => dnsFailures s < dnsFailures u) t := by
  have hfailures : dnsFailures t = dnsFailures s := congrArg DnsPart.failures ht
  refine wp_mono (wp_recomputeDnsLocked_settled ((congrArg DnsPart.names ht).trans hnames))
    (fun _ _ h => h.1) (fun _ _ h => ?_)
  rw [← hfailures]
  exact h

/-! ### The operations -/

section Operations

/-- How a call may end: settled, or after a failed resolver write. -/
def Accounted (s t : Run W) : Prop := Settled K t ∨ dnsFailures s < dnsFailures t

theorem clearOwnedRouteLocked_stops (iface : String) :
    wp (clearOwnedRouteLocked K.toNetworkControlPlaneOps iface)
      (fun _ t => dnsPart K t = dnsPart K s)
      (fun _ t => t.plane = s.plane ∧ K.viewOf t = K.viewOf s) s := by
  have hpart := (dnsPart_linkSteps K iface).clear s
  rcases clearOwnedRouteLocked_cases K.toNetworkControlPlaneOps iface s with
    ⟨-, hrun⟩ | ⟨-, hport, -⟩ | ⟨e, w, -, hcall, hrun⟩ | ⟨w, -, -, hrun⟩
  · unfold wp
    rw [hrun]
  · rw [K.wired] at hport
    exact nomatch hport
  · unfold wp
    rw [hrun]
    have hview := K.harmless (clearCall iface s) s.world (by rw [hcall]; rfl) rfl
    rw [hcall] at hview
    exact ⟨rfl, hview⟩
  · rw [after_ok hrun] at hpart
    unfold wp
    rw [hrun]
    exact hpart

theorem dnsPart_reset (iface : String) :
    dnsPart K { s with plane := s.plane.reset iface } = dnsPart K s := by
  unfold reset setLink
  by_cases hi : iface = s.plane.names.eth <;> simp [hi, dnsPart, dnsFailures]

/-- Starting a client changes nothing that the resolver follows. -/
theorem view_startDhcp (iface : String) (w : W) : K.view (K.call (.startDhcp iface) w).2 = K.view w :=
  view_call_idle K _ rfl (fun _ => rfl) w

theorem dnsTarget_managed (p : NetworkControlPlane) (iface : String) (v : KernelView) :
    dnsTarget (p.setLink iface { p.linkFor iface with managedDhcp := true }) v = dnsTarget p v := by
  unfold setLink linkFor
  split <;> rfl

theorem Settled.managed (hs : Settled K s) (iface : String) :
    Settled K ⟨s.plane.setLink iface { s.plane.linkFor iface with managedDhcp := true },
      s.world, s.log⟩ := by
  refine hs.of_dnsPart ((dnsPart_linkSteps K iface).link
    (fun p => { p.linkFor iface with managedDhcp := true }) s) fun _ => ?_
  exact dnsTarget_managed _ _ _

theorem startDhcp_accounted (hs : Settled K s) (iface : String) :
    wp (startDhcp K.toNetworkControlPlaneOps iface) (fun _ t => Accounted (K := K) s t)
      (fun _ t => Accounted (K := K) s t) s := by
  unfold startDhcp
  rw [wp_bind, wp_getPlane, wp_bind, wp_require]
  split
  · rw [wp_bind, wp_require, K.wired, K.wired, K.wired, wp_bind]
    refine wp_mono (clearOwnedRouteLocked_stops iface) (fun _ t ht => ?_)
      fun _ t ht => .inl (hs.of_same ht.1 ht.2)
    rw [wp_bind]
    refine wp_invoke.mpr ?_
    rw [wp_bind]
    refine wp_invoke.mpr ?_
    rw [wp_bind, wp_when, if_pos (K.wired _), wp_bind]
    refine wp_invoke.mpr ?_
    rw [wp_pure, wp_bind, wp_modifyPlane, wp_bind, wp_modifyPlane, wp_bind]
    refine wp_mono (wp_dnsStep hs.names ?_) (fun _ u hu => ?_) fun _ _ h => .inr h
    · refine (dnsPart_reset iface).trans (Eq.trans ?_ ht)
      exact ((dnsPart_invoke K (.clearIpv4 iface) rfl _).trans
        (dnsPart_invoke K (.clearLease iface) rfl _)).trans (dnsPart_invoke K (.stopDhcp iface) rfl _)
    rw [wp_bind]
    refine wp_invoke.mpr ?_
    have hstarted : Settled K (u.record (.startDhcp iface) (K.call (.startDhcp iface) u.world).1
        (K.call (.startDhcp iface) u.world).2) := hu.of_same rfl (view_startDhcp iface u.world)
    rw [wp_bind, wp_check]
    exact ⟨fun _ _ => .inl (hstarted.managed iface), fun _ _ => .inl hstarted⟩
  · exact .inl hs

theorem stopDhcp_accounted (hs : Settled K s) (iface : String) :
    wp (stopDhcp K.toNetworkControlPlaneOps iface) (fun _ t => Accounted (K := K) s t)
      (fun _ t => Accounted (K := K) s t) s := by
  unfold stopDhcp
  rw [wp_bind, wp_getPlane, wp_ite]
  split
  · -- the outcome of the withdrawal is ignored, so both ends go on alike
    rw [wp_bind, wp_attempt]
    refine wp_of_framing (dnsPart_linkSteps K iface).clear (fun _ t ht => ?_) (fun _ t ht => ?_) <;>
    · rw [wp_bind, wp_when, if_pos (K.wired _), wp_bind]
      refine wp_invoke.mpr ?_
      rw [wp_pure, wp_bind, wp_when, if_pos (K.wired _), wp_bind]
      refine wp_invoke.mpr ?_
      rw [wp_pure, wp_bind, wp_when, if_pos (K.wired _), wp_bind]
      refine wp_invoke.mpr ?_
      rw [wp_pure, wp_bind, wp_modifyPlane, wp_bind, wp_attempt]
      refine wp_mono (wp_dnsStep hs.names ?_) (fun _ _ h => .inl h) fun _ _ h => .inr h
      refine ((dnsPart_linkSteps K iface).link (fun _ => {}) _).trans (Eq.trans ?_ ht)
      exact ((dnsPart_invoke K (.clearIpv4 iface) rfl _).trans
        (dnsPart_invoke K (.clearLease iface) rfl _)).trans (dnsPart_invoke K (.stopDhcp iface) rfl _)
  · exact .inl hs

/-- `apply_ethernet_static` drops the Ethernet records before it knows that the new address
can be applied. -/
theorem applyEthernetStatic_accounted (hs : Settled K s)
    (ip4 netmask4 gateway4 dns4 : String) (manualMetric : Int) :
    wp (applyEthernetStatic K.toNetworkControlPlaneOps ip4 netmask4 gateway4 dns4 manualMetric)
      (fun _ t => Accounted (K := K) s t)
      (fun _ t => Accounted (K := K) s t ∨ dnsPart K t = dnsPart K s) s := by
  unfold applyEthernetStatic
  rw [wp_bind, wp_require, K.wired, K.wired, K.wired, wp_bind, wp_getPlane, wp_bind]
  refine wp_of_framing (dnsPart_linkSteps K _).clear (fun _ t ht => ?_) fun _ t ht => .inr ht
  rw [wp_bind]
  refine wp_invoke.mpr ?_
  rw [wp_bind]
  refine wp_invoke.mpr ?_
  rw [wp_bind, wp_modifyPlane, wp_bind]
  refine wp_invoke.mpr ?_
  have happlied := ((dnsPart_invoke K (.applyIpv4 s.plane.names.eth ip4 netmask4) rfl _).trans
    (dnsPart_invoke K (.clearLease s.plane.names.eth) rfl _)).trans
      ((dnsPart_invoke K (.stopDhcp s.plane.names.eth) rfl _).trans ht)
  rw [wp_bind, wp_check]
  refine ⟨fun _ _ => ?_, fun _ _ => .inr happlied⟩
  rw [wp_bind, wp_modifyPlane, wp_bind]
  refine wp_of_framing (applyRoutesLocked_dnsPart K) (fun _ u hu => ?_) fun _ u hu =>
    .inr (hu.trans happlied)
  exact wp_mono (wp_dnsStep hs.names (hu.trans happlied)) (fun _ _ h => .inl h)
    fun _ _ h => .inl (.inr h)

theorem reconcile_accounted (hnames : s.plane.names = K.names) :
    wp (reconcile K.toNetworkControlPlaneOps) (fun _ t => Settled K t)
      (fun _ t => Accounted (K := K) s t ∨ dnsPart K t = dnsPart K s) s := by
  unfold reconcile
  rw [wp_bind]
  refine wp_of_framing (reconcileLinks_dnsPart K) (fun _ t ht => ?_) fun _ t ht => .inr ht
  rw [wp_bind]
  refine wp_of_framing (repairOwnedStateLocked_dnsPart K) (fun _ u hu => ?_) fun _ u hu =>
    .inr (hu.trans ht)
  exact wp_mono (wp_dnsStep hnames (hu.trans ht)) (fun _ _ h => h) fun _ _ h => .inl (.inr h)

/-- A link pass that reports no change made none. -/
theorem reconcileLinkLocked_quiet (iface : String) :
    wp (reconcileLinkLocked K.toNetworkControlPlaneOps iface)
      (fun changed t => changed = false → t.plane = s.plane ∧ K.viewOf t = K.viewOf s)
      (fun _ _ => True) s := by
  have hread : K.view (K.call (.readLease iface) s.world).2 = K.viewOf s :=
    view_call_idle K _ rfl (fun _ => rfl) s.world
  have hreported : ∀ (m : Op W Unit) (t : Run W),
      wp (do m; pure true) (fun changed t => changed = false → t.plane = s.plane ∧
        K.viewOf t = K.viewOf s) (fun _ _ => True) t := by
    intro m t
    rw [wp_bind]
    exact wp_mono (wp_of_after (I := fun _ => True) trivial) (fun _ _ _ h => nomatch h)
      fun _ _ h => h
  unfold reconcileLinkLocked
  rw [wp_bind, wp_getPlane]
  refine wp_split (fun _ => ?_) fun _ _ => ⟨rfl, rfl⟩
  rw [wp_bind, wp_require, K.wired, if_pos rfl, wp_bind]
  refine wp_invoke.mpr ?_
  rw [wp_bind, wp_check]
  refine ⟨fun lease _ => ?_, fun _ _ => trivial⟩
  cases lease with
  | none => exact fun _ => ⟨rfl, hread⟩
  | some fact =>
    refine wp_split (fun _ _ => ⟨rfl, hread⟩) fun _ => wp_split (fun _ => ?_) fun _ => ?_
    · exact hreported _ _
    · exact hreported _ _

theorem reconcileLinks_quiet :
    wp (reconcileLinks K.toNetworkControlPlaneOps)
      (fun changed t => changed = (false, false) → t.plane = s.plane ∧ K.viewOf t = K.viewOf s)
      (fun _ _ => True) s := by
  unfold reconcileLinks
  rw [wp_bind, wp_getPlane, wp_bind]
  refine wp_mono (reconcileLinkLocked_quiet _) (fun ethChanged t ht => ?_) fun _ _ h => h
  rw [wp_bind]
  refine wp_mono (reconcileLinkLocked_quiet _) (fun wifiChanged u hu => ?_) fun _ _ h => h
  intro hchanged
  obtain ⟨rfl, rfl⟩ := Prod.mk.inj hchanged
  obtain ⟨hplane, hview⟩ := ht rfl
  obtain ⟨hplane', hview'⟩ := hu rfl
  exact ⟨hplane'.trans hplane, hview'.trans hview⟩

/-- **The fast pass** settles the resolver, or was quiet, or failed a resolver write, or
stopped before the resolver. -/
theorem reconcileChanged_accounted (hs : Settled K s) :
    wp (reconcileChanged K.toNetworkControlPlaneOps)
      (fun result t =>
        (result.2 = .ok () ∧ Settled K t ∧ t.plane.dnsOwnershipInitialized = true) ∨
          ∃ e, result.2 = .error e ∧ (dnsFailures s < dnsFailures t ∨ dnsPart K t = dnsPart K s))
      (fun _ _ => False) s := by
  unfold reconcileChanged
  rw [wp_bind, wp_attempt]
  refine wp_mono (wp_and reconcileLinks_quiet (wp_of_framing (reconcileLinks_dnsPart K)
    (fun _ _ h => h) (fun _ _ h => h))) (fun changed t ht => ?_) fun e t ht => ?_
  · dsimp only
    obtain ⟨hquiet, hpart⟩ := ht
    have hfailures : dnsFailures t = dnsFailures s := congrArg DnsPart.failures hpart
    rw [wp_bind, wp_getPlane, wp_ite]
    split
    · rw [wp_bind, wp_attempt]
      refine wp_mono (wp_recomputeDnsLocked_settled
        ((congrArg DnsPart.names hpart).trans hs.names)) (fun _ u hu => ?_) fun e u hu => ?_
      · exact .inl ⟨rfl, hu⟩
      · exact .inr ⟨e, rfl, .inl (hfailures ▸ hu)⟩
    · next hnone =>
      obtain ⟨ethChanged, wifiChanged⟩ := changed
      simp only [Bool.or_eq_true, Bool.not_eq_true', not_or, Bool.not_eq_true,
        Bool.not_eq_false] at hnone
      obtain ⟨⟨rfl, rfl⟩, hinit⟩ := hnone
      obtain ⟨hplane, hview⟩ := hquiet rfl
      exact .inl ⟨rfl, hs.of_same hplane hview, hinit⟩
  · exact .inr ⟨e, rfl, .inr ht.2⟩

/-! ### Repair does not change what is called for -/

/-- The default routes of Ethernet. -/
def ethRoutes (K : KernelPorts W) (s : Run W) : String → Int → Prop := fun gateway4 metric =>
  ⟨K.names.eth, gateway4, metric⟩ ∈ (K.viewOf s).routes

theorem ethRoutes_invoke (c : PortCall)
    (hc : c.isRouteCall = false ∨ c.iface? ≠ some K.names.eth) :
    Along (Framing (ethRoutes K)) (invoke K.toNetworkControlPlaneOps c) := by
  intro s
  show ethRoutes K (s.record c _ _) = ethRoutes K s
  funext gateway4 metric
  unfold ethRoutes
  cases hok : c.succeeded (K.call c s.world).1 with
  | false =>
    show (_ ∈ (K.view (K.call c s.world).2).routes) = _
    rw [routes_call_failed K c s.world hok]
  | true =>
    show (_ ∈ (K.view (K.call c s.world).2).routes) = _
    rw [K.effective c s.world hok]
    cases c with
    | setDefaultRoute iface gateway metric' | clearDefaultRoute iface gateway metric' =>
      have hother : iface ≠ K.names.eth := by simpa [PortCall.isRouteCall, PortCall.iface?] using hc
      simp [KernelView.effect, Ne.symm hother]
    | clearDns =>
      unfold KernelView.effect
      dsimp only
      split <;> rfl
    | applyIpv4 _ _ _ | clearIpv4 _ | setDns _ | startDhcp _ | stopDhcp _ | readLease _
    | clearLease _ | snapshot => rfl

theorem repairIpv4_ethRoutes (iface : String) (observed : InterfaceSnapshot)
    (ip4 netmask4 : String) : Along (Framing (ethRoutes K))
      (repairIpv4 K.toNetworkControlPlaneOps iface observed ip4 netmask4) := by
  refine Along.ite (Along.pure _) (Along.ite (Along.pure _) ?_)
  refine Along.bind (Along.require _ _) fun _ => ?_
  exact Along.bind (ethRoutes_invoke (.applyIpv4 iface ip4 netmask4) (.inl rfl)) fun r =>
    along_check r

theorem ethRoutes_linkSteps {iface : String} (hi : iface ≠ K.names.eth) :
    LinkSteps K.toNetworkControlPlaneOps iface (Framing (ethRoutes K)) where
  call c hc _ := ethRoutes_invoke c (.inr fun heth => hi (Option.some.inj (hc.symm.trans heth)))
  route _ _ := rfl
  link _ _ := rfl

theorem repairWifi_ethRoutes (live : NetworkSnapshot) (hnames : s.plane.names = K.names) :
    ethRoutes K (after (repairWifi K.toNetworkControlPlaneOps live) s) = ethRoutes K s := by
  have hne : s.plane.names.wifi ≠ K.names.eth := hnames ▸ Ne.symm s.plane.names.distinct
  have hrepair : Along (Framing (ethRoutes K)) (do
      repairIpv4 K.toNetworkControlPlaneOps s.plane.names.wifi live.wifi s.plane.wifi.lease.ip4
        s.plane.wifi.lease.netmask4
      repairRoute K.toNetworkControlPlaneOps s.plane.names.wifi live.wifi
        s.plane.wifi.lease.gateway4 (s.plane.routeMetric s.plane.names.wifi)) := by
    refine Along.bind (repairIpv4_ethRoutes _ _ _ _) fun _ => ?_
    refine Along.bind along_getPlane fun p => Along.ite (Along.pure _) (Along.ite (Along.pure _) ?_)
    exact (ethRoutes_linkSteps hne).ensure _ _
  exact Along.ite hrepair (Along.pure _) s

/-- Without a managed Ethernet route there is no Ethernet route to repair. -/
theorem repairEthernet_ethRoutes (live : NetworkSnapshot) (hstatic : s.plane.staticEthRoute = false)
    (hdhcp : s.plane.dhcpEthRoute = false)
    (hallowed : s.plane.routeAllowed s.plane.names.eth = true) :
    ethRoutes K (after (repairEthernet K.toNetworkControlPlaneOps live) s) = ethRoutes K s := by
  have hrepair : ∀ (ip4 netmask4 gateway4 : String) (metric : Int), gateway4 = "" →
      Along (Framing (ethRoutes K)) (do
        repairIpv4 K.toNetworkControlPlaneOps s.plane.names.eth live.eth ip4 netmask4
        repairRoute K.toNetworkControlPlaneOps s.plane.names.eth live.eth gateway4 metric) := by
    intro ip4 netmask4 gateway4 metric hgw
    refine Along.bind (repairIpv4_ethRoutes _ _ _ _) fun _ => Along.bind along_getPlane fun p => ?_
    rw [if_pos (Or.inr (Or.inr hgw))]
    exact Along.pure _
  simp only [staticEthRoute, hallowed, true_and, decide_eq_false_iff_not, not_and,
    Decidable.not_not] at hstatic
  simp only [dhcpEthRoute, hallowed, true_and, decide_eq_false_iff_not, not_and,
    Decidable.not_not] at hdhcp
  refine (Along.split (R := Framing (ethRoutes K)) (fun hactive => ?_) fun _ =>
    Along.split (fun hactive => ?_) fun _ => Along.pure _) s
  · exact hrepair _ _ _ _ (hstatic hactive)
  · exact hrepair _ _ _ _ (hdhcp hactive.1)

theorem repairOwnedStateLocked_ethRoutes (hnames : s.plane.names = K.names)
    (hstatic : s.plane.staticEthRoute = false) (hdhcp : s.plane.dhcpEthRoute = false)
    (hallowed : s.plane.routeAllowed s.plane.names.eth = true) :
    ethRoutes K (after (repairOwnedStateLocked K.toNetworkControlPlaneOps) s) = ethRoutes K s := by
  refine after_of_wp (I := fun t => ethRoutes K t = ethRoutes K s) ?_
  unfold repairOwnedStateLocked
  rw [wp_ite, if_pos (K.wired _), wp_bind]
  refine wp_invoke.mpr ?_
  have hsnapshot := ethRoutes_invoke (K := K) .snapshot (.inl rfl) s
  have hkept := wp_of_after (I := fun t : Run W => t.plane.names = s.plane.names)
    ((namesSteps K.toNetworkControlPlaneOps _).repairs.repairEthernet (K.call .snapshot s.world).1
      (s.record .snapshot (K.call .snapshot s.world).1 (K.call .snapshot s.world).2) rfl).1
  have heth := wp_of_after (I := fun t : Run W => ethRoutes K t = ethRoutes K s)
    ((repairEthernet_ethRoutes (K.call .snapshot s.world).1 (by exact hstatic) (by exact hdhcp)
      (by exact hallowed)).trans hsnapshot)
  rw [wp_bind]
  refine wp_mono (wp_and hkept heth) (fun _ t ht => ?_) fun _ _ ht => ht.2
  refine wp_of_after (I := fun u => ethRoutes K u = ethRoutes K s) ?_
  exact (repairWifi_ethRoutes _ (ht.1.trans hnames)).trans ht.2

/-- The switch looks at the live route only where Ethernet has no managed route. -/
theorem dnsDecision_live (p : NetworkControlPlane) :
    (∀ live live', p.dnsDecision live = p.dnsDecision live') ∨
      (p.routePolicy = .ethernetPreferred ∧ p.staticEthRoute = false ∧ p.dhcpEthRoute = false) := by
  unfold dnsDecision
  cases hpolicy : p.routePolicy with
  | wifiPreferred | wifiOnly | manualMetric => exact .inl fun _ _ => rfl
  | ethernetPreferred =>
    cases hstatic : p.staticEthRoute with
    | true => exact .inl fun _ _ => by simp
    | false =>
      cases hdhcp : p.dhcpEthRoute with
      | true => exact .inl fun _ _ => by simp
      | false => exact .inr ⟨rfl, rfl, rfl⟩

theorem hasRoute_of_ethRoutes (h : ethRoutes K t = ethRoutes K s) :
    (K.viewOf t).HasRoute K.names.eth ↔ (K.viewOf s).HasRoute K.names.eth := by
  have hmem : ∀ gateway4 metric, (⟨K.names.eth, gateway4, metric⟩ : Route) ∈ (K.viewOf t).routes ↔
      ⟨K.names.eth, gateway4, metric⟩ ∈ (K.viewOf s).routes := fun gateway4 metric =>
    iff_of_eq (congrFun (congrFun h gateway4) metric)
  constructor
  · rintro ⟨⟨iface, gateway4, metric⟩, hr, rfl⟩
    exact ⟨_, (hmem _ _).mp hr, rfl⟩
  · rintro ⟨⟨iface, gateway4, metric⟩, hr, rfl⟩
    exact ⟨_, (hmem _ _).mpr hr, rfl⟩

/-- **A repair leaves the target alone**, also one that stops half-way. -/
theorem repairOwnedStateLocked_target (hnames : s.plane.names = K.names) :
    let t := after (repairOwnedStateLocked K.toNetworkControlPlaneOps) s
    dnsTarget t.plane (K.viewOf t) = dnsTarget s.plane (K.viewOf s) := by
  intro t
  have hconfig : t.plane.config = s.plane.config := repairOwnedStateLocked_config _ s
  have hnames' : t.plane.names = s.plane.names := congrArg (·.names) hconfig
  unfold dnsTarget
  rw [dnsDecision_config hconfig, hnames']
  rcases dnsDecision_live s.plane with hfree | ⟨hpolicy, hstatic, hdhcp⟩
  · rw [hfree]
  · have hallowed : s.plane.routeAllowed s.plane.names.eth = true := by
      simp [routeAllowed, hpolicy]
    have hroutes := repairOwnedStateLocked_ethRoutes hnames hstatic hdhcp hallowed
    rw [hnames, decide_eq_decide.mpr (hasRoute_of_ethRoutes hroutes)]

theorem refreshExternalState_accounted (hnames : s.plane.names = K.names) :
    wp (refreshExternalState K.toNetworkControlPlaneOps) (fun _ t => Settled K t)
      (fun _ t => dnsFailures s < dnsFailures t ∨ dnsPart K t = dnsPart K s ∧
        dnsTarget t.plane (K.viewOf t) = dnsTarget s.plane (K.viewOf s)) s := by
  unfold refreshExternalState
  rw [wp_bind]
  refine wp_mono (wp_of_after (I := fun t => dnsPart K t = dnsPart K s ∧
    dnsTarget t.plane (K.viewOf t) = dnsTarget s.plane (K.viewOf s))
    ⟨repairOwnedStateLocked_dnsPart K s, repairOwnedStateLocked_target hnames⟩)
    (fun _ t ht => ?_) fun _ _ ht => .inr ht
  exact wp_mono (wp_dnsStep hnames ht.1) (fun _ _ h => h) fun _ _ h => .inl h

/-! ### A policy change -/

theorem policyRestored_names (policy : RoutePolicy) :
    (policyRestored K policy s).plane.names = s.plane.names := by
  have htried := (Along.bind (applyRoutesLocked_config K.toNetworkControlPlaneOps) fun _ =>
    recomputeDnsLocked_config K.toNetworkControlPlaneOps)
      { s with plane := { s.plane with routePolicy := policy } }
  have hkeep : ∀ u : Run W, (after (applyRoutesLocked K.toNetworkControlPlaneOps) u).plane.names =
      u.plane.names := fun u => congrArg (·.names) (applyRoutesLocked_config _ u)
  unfold policyRestored
  dsimp only
  rw [hkeep]
  exact congrArg (·.names) htried

theorem setRoutePolicy_settles (hnames : s.plane.names = K.names) (policy : RoutePolicy) :
    wp (setRoutePolicy K.toNetworkControlPlaneOps policy) (fun _ t => Settled K t)
      (fun _ t => completes (recomputeDnsLocked K.toNetworkControlPlaneOps)
        (policyRestored K policy s) = true → Settled K t) s := by
  unfold setRoutePolicy
  rw [wp_bind, wp_getPlane, wp_bind, wp_modifyPlane, wp_bind, wp_attempt]
  have htried : wp (do
      applyRoutesLocked K.toNetworkControlPlaneOps
      recomputeDnsLocked K.toNetworkControlPlaneOps) (fun _ t => Settled K t) (fun _ _ => True)
      { s with plane := { s.plane with routePolicy := policy } } := by
    rw [wp_bind]
    refine wp_of_framing (applyRoutesLocked_dnsPart K) (fun _ t ht => ?_) fun _ _ _ => trivial
    exact wp_mono (wp_dnsStep (by exact hnames) ht) (fun _ _ h => h) fun _ _ _ => trivial
  refine wp_mono (wp_and htried (wp_of_after (I := fun t => t = after _ _) rfl))
    (fun _ t ht => ht.1) fun e t ht => ?_
  -- the rollback: both of its steps are attempted
  obtain ⟨-, rfl⟩ := ht
  have hrestored : wp (applyRoutesLocked K.toNetworkControlPlaneOps)
      (fun _ u => u = policyRestored K policy s) (fun _ u => u = policyRestored K policy s) _ :=
    wp_of_after (I := fun u => u = policyRestored K policy s) rfl
  have hnames' : (policyRestored K policy s).plane.names = K.names :=
    (policyRestored_names policy).trans hnames
  have hdns : wp (do
      let _ ← attempt (recomputeDnsLocked K.toNetworkControlPlaneOps)
      throw e : Op W Unit) (fun _ t => Settled K t) (fun _ t => completes
        (recomputeDnsLocked K.toNetworkControlPlaneOps) (policyRestored K policy s) = true →
          Settled K t) (policyRestored K policy s) := by
    rw [wp_bind, wp_attempt]
    refine wp_mono (wp_and (wp_recomputeDnsLocked_settled hnames') (wp_completes _ _))
      (fun _ _ h _ => h.1.1) fun _ _ h hdone => ?_
    rw [h.2] at hdone
    exact nomatch hdone
  dsimp only
  rw [wp_bind, wp_modifyPlane, wp_bind, wp_attempt]
  refine wp_mono hrestored ?_ ?_
  · rintro _ u rfl
    exact hdns
  · rintro _ u rfl
    exact hdns

/-! ### Every call -/

theorem Accounted.settled (h : Accounted (K := K) s t) (hfailures : dnsFailures t = dnsFailures s) :
    Settled K t := by
  rcases h with hsettled | hfailed
  · exact hsettled
  · exact absurd hfailures (Nat.ne_of_gt hfailed)

/-- **A careful call keeps the resolver settled.** -/
theorem perform_settled (hs : Settled K s) (op : Operation) (hop : ∀ iface, op ≠ .adoptDhcp iface)
    (hcareful : Careful K s op) :
    Settled K (after (op.perform K.toNetworkControlPlaneOps) s) := by
  -- a call that may stop after its commits, from what is known of its two ends
  have hcommits : ∀ op : Operation, op.commitsFirst = true →
      (dnsFailures (after (op.perform K.toNetworkControlPlaneOps) s) = dnsFailures s ∧
        (op.commitsFirst = true → s.plane.dnsOwnershipInitialized = true →
          completes (op.perform K.toNetworkControlPlaneOps) s = false →
          dnsTarget (after (op.perform K.toNetworkControlPlaneOps) s).plane
            (K.viewOf (after (op.perform K.toNetworkControlPlaneOps) s)) =
              dnsTarget s.plane (K.viewOf s))) →
      wp (op.perform K.toNetworkControlPlaneOps) (fun _ t => Accounted (K := K) s t)
        (fun _ t => Accounted (K := K) s t ∨ dnsPart K t = dnsPart K s) s →
      Settled K (after (op.perform K.toNetworkControlPlaneOps) s) := by
    intro op hkind ⟨hfailures, htarget⟩ hends
    have hends' := wp_and hends (wp_completes _ s)
    unfold wp at hends'
    unfold after at hfailures htarget ⊢
    cases hrun : op.perform K.toNetworkControlPlaneOps s with
    | ok u t =>
      rw [hrun] at hends' hfailures
      exact hends'.1.settled hfailures
    | error e t =>
      rw [hrun] at hends' hfailures htarget
      rcases hends'.1 with haccounted | hpart
      · exact haccounted.settled hfailures
      · exact hs.of_dnsPart hpart fun hinit => htarget hkind hinit hends'.2
  cases op with
  | adoptDhcp iface => exact absurd rfl (hop iface)
  | startDhcp iface => exact (after_of_wp (startDhcp_accounted hs iface)).settled hcareful.1
  | stopDhcp iface => exact (after_of_wp (stopDhcp_accounted hs iface)).settled hcareful.1
  | applyEthernetStatic ip4 netmask4 gateway4 dns4 manualMetric =>
    exact hcommits _ rfl hcareful
      (applyEthernetStatic_accounted hs ip4 netmask4 gateway4 dns4 manualMetric)
  | reconcile =>
    exact hcommits _ rfl hcareful (wp_mono (reconcile_accounted hs.names) (fun _ _ h => .inl h)
      fun _ _ h => h)
  | reconcileChanged =>
    refine hcommits _ rfl hcareful (wp_bind.mpr (wp_mono (reconcileChanged_accounted hs)
      (fun result t ht => ?_) fun _ _ h => h.elim))
    refine wp_check.mpr ⟨fun _ hok => ?_, fun e herror => ?_⟩
    · rcases ht with ⟨-, hsettled, -⟩ | ⟨e, herror, -⟩
      · exact .inl hsettled
      · exact nomatch hok.symm.trans herror
    · rcases ht with ⟨hok, -⟩ | ⟨e, -, hfailed | hpart⟩
      · exact nomatch hok.symm.trans herror
      · exact .inl (.inr hfailed)
      · exact .inr hpart
  | refreshExternalState =>
    refine Accounted.settled (s := s) ?_ hcareful.1
    refine after_of_wp (wp_mono (refreshExternalState_accounted hs.names) (fun _ _ h => .inl h)
      fun _ t ht => ?_)
    rcases ht with hfailed | ⟨hpart, htarget⟩
    · exact .inr hfailed
    · exact .inl (hs.of_dnsPart hpart fun _ => htarget)
  | setRoutePolicy policy =>
    have hends := wp_and (setRoutePolicy_settles hs.names policy)
      (wp_completes (setRoutePolicy K.toNetworkControlPlaneOps policy) s)
    refine after_of_wp (wp_mono hends (fun _ _ h => h.1) fun _ t ht => ?_)
    rcases hcareful with hdone | hrestored
    · exact nomatch ht.2.symm.trans hdone
    · exact ht.1 hrestored

end Operations

/-! ### Whole runs -/

/-- Adoption changes neither the names nor what is known of the resolver. -/
theorem adoptDhcp_resolver (ops : NetworkControlPlaneOps W) (iface : String) :
    Along (Framing fun t : Run W => (t.plane.names, t.plane.dnsOwnershipInitialized))
      (adoptDhcp ops iface) := by
  refine Along.bind along_getPlane fun p => Along.bind (Along.require _ _) fun _ => ?_
  refine Along.bind (Along.require _ _) fun _ => Along.bind ?_ fun _ => Along.bind ?_ fun _ => ?_
  · refine along_modifyPlane fun t => ?_
    unfold Framing setLink
    split <;> rfl
  · refine along_modifyPlane fun t => ?_
    unfold Framing setOwnedRoute
    split <;> rfl
  · refine along_modifyPlane fun t => ?_
    unfold Framing
    dsimp only
    split <;> rfl

theorem Constructed.uninitialized (hs : Constructed K s) :
    s.plane.names = K.names ∧ s.plane.dnsOwnershipInitialized = false := by
  induction hs with
  | fresh w => exact ⟨rfl, rfl⟩
  | @adopt s iface _ ih =>
    obtain ⟨hnames, hinit⟩ := Prod.mk.inj (adoptDhcp_resolver K.toNetworkControlPlaneOps iface s)
    exact ⟨hnames.trans ih.1, hinit.trans ih.2⟩

theorem Undisturbed.names (hs : Undisturbed K s) : s.plane.names = K.names := by
  induction hs with
  | start h => exact h.uninitialized.1
  | perform op hop _ ih => exact ((namesSteps _ K.names).perform op hop _ ih).1
  | environment w _ _ ih => exact ih

/-- **The resolver is settled all along a tended run.** -/
theorem Tended.settled (hs : Tended K s) : Settled K s := by
  induction hs with
  | start h =>
    refine ⟨h.uninitialized.1, fun hinit => ?_⟩
    exact nomatch h.uninitialized.2.symm.trans hinit
  | @recovered s op hop hreach hdone =>
    have hends := wp_completes (op.perform K.toNetworkControlPlaneOps) s
    have hsettles : wp (op.perform K.toNetworkControlPlaneOps) (fun _ t => Settled K t)
        (fun _ _ => True) s := by
      cases op with
      | reconcile =>
        exact wp_mono (reconcile_accounted hreach.names) (fun _ _ h => h) fun _ _ _ => trivial
      | refreshExternalState =>
        exact wp_mono (refreshExternalState_accounted hreach.names) (fun _ _ h => h)
          fun _ _ _ => trivial
      | _ => exact nomatch hop
    refine after_of_wp (wp_mono (wp_and hsettles hends) (fun _ _ h => h.1) fun _ _ h => ?_)
    exact nomatch h.2.symm.trans hdone
  | perform op hop hcareful _ ih => exact perform_settled ih op hop hcareful
  | environment w hview _ ih => exact ih.of_same rfl hview

/-- **A fast reconcile that returns `true` leaves DNS settled** in every run that tends to its
resolver: an immediately following DNS pass issues no `set_dns` and no `clear_dns`. -/
theorem fast_reconcile_leaves_dns_settled (K : KernelPorts W) {s t : Run W} (hs : Tended K s)
    {changed : Bool}
    (hrun : reconcileChanged K.toNetworkControlPlaneOps s = .ok (changed, .ok ()) t) :
    callsOf PortCall.writesDns (after (recomputeDnsLocked K.toNetworkControlPlaneOps) t).log =
      callsOf PortCall.writesDns t.log := by
  have hends := reconcileChanged_accounted hs.settled
  unfold wp at hends
  rw [hrun] at hends
  rcases hends with ⟨-, hsettled, hinit⟩ | ⟨e, herror, -⟩
  · exact recomputeDnsLocked_quiet hsettled hinit
  · exact nomatch herror

/-! ### Two runs on the small machine -/

/-- A Wi-Fi client has been started. -/
def wifiStarted : Run Machine :=
  after ((Operation.startDhcp "wlan0").perform machinePorts.toNetworkControlPlaneOps)
    (fresh .standard {})

/-- Its lease has been consumed by a fast reconcile. -/
def wifiConsumed (resolverBroken : Bool) : Run Machine :=
  after (Operation.reconcileChanged.perform machinePorts.toNetworkControlPlaneOps)
    { wifiStarted with world := { wifiStarted.world with
        wifiLease := some accessPointLease, resolverBroken := resolverBroken } }

theorem fast_reconcile_leaves_dns_settled_wifiConsumed :
    ∃ t, reconcileChanged machinePorts.toNetworkControlPlaneOps (wifiConsumed false) =
        .ok (false, .ok ()) t ∧ t.plane.lastDns = "192.168.4.1" ∧
      callsOf PortCall.writesDns
          (after (recomputeDnsLocked machinePorts.toNetworkControlPlaneOps) t).log =
        callsOf PortCall.writesDns t.log := by
  have htended : Tended machinePorts (wifiConsumed false) := by
    refine .perform _ (fun _ h => nomatch h) ⟨by decide +kernel, fun _ _ hstopped => ?_⟩
      (.environment _ rfl (.perform _ (fun _ h => nomatch h) ⟨by decide +kernel, ?_⟩
        (.start (.fresh ({} : Machine)))))
    · exact absurd hstopped (by decide +kernel)
    · exact fun hkind => nomatch hkind
  have hquiet : wp (reconcileChanged machinePorts.toNetworkControlPlaneOps)
      (fun result t => result.1 = false ∧ result.2.isOk = true ∧ t.plane.lastDns = "192.168.4.1")
      (fun _ _ => False) (wifiConsumed false) := by decide +kernel
  obtain ⟨⟨changed, outcome⟩, t, hrun, hchanged, hok, hdns⟩ := run_of_wp hquiet
  obtain rfl : changed = false := hchanged
  cases outcome with
  | error e => exact nomatch hok
  | ok u => exact ⟨t, hrun, hdns, fast_reconcile_leaves_dns_settled machinePorts htended hrun⟩

/-- The resolver file could not be opened when the lease was consumed; now it can. -/
def staleRun : Run Machine :=
  { wifiConsumed true with world := { (wifiConsumed true).world with resolverBroken := false } }

/-- The failed write is not made up for: the next fast reconcile finds no change, returns
`true`, and the nameserver of the lease is still not set. -/
theorem quiet_reconcile_leaves_stale_dns :
    Undisturbed machinePorts staleRun ∧
      wp (reconcileChanged machinePorts.toNetworkControlPlaneOps)
        (fun result t => result.1 = false ∧ result.2.isOk = true ∧
          callsOf PortCall.writesDns
              (after (recomputeDnsLocked machinePorts.toNetworkControlPlaneOps) t).log =
            .setDns "192.168.4.1" :: callsOf PortCall.writesDns t.log)
        (fun _ _ => False) staleRun := by
  refine ⟨?_, by decide +kernel⟩
  exact .environment _ rfl (.perform _ (fun _ h => nomatch h) (.environment _ rfl
    (.perform _ (fun _ h => nomatch h) (.start (.fresh ({} : Machine))))))

end NetworkService.ControlPlane
