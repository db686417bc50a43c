import NetworkService.ControlPlane.FailureFree
import NetworkService.ControlPlane.Idempotence
import NetworkService.ControlPlane.OrphanRoutes
import NetworkService.ControlPlane.RouteOwnership

/-!
# What a rejected policy change brings back

`set_route_policy` keeps no log of what it did.  When the new policy cannot be applied it puts
the old policy back and computes routes and resolver again from the records.  This undoes the
attempt if the records were in line with the machine before it: the owned routes the desired
ones, each recorded route in the kernel, the resolver settled.  A run without failed calls
and without changes from outside that has just completed a `reconcile` is in such a state.

The forward attempt reaches the resolver last, so of the records only the routes have to be brought
back.
-/

namespace NetworkService.ControlPlane

open Fallible NetworkControlPlane

variable {W : Type} (K : KernelPorts W)

/-- No call failed, and addresses, routes and resolver changed through calls only. -/
inductive Smooth : Run W → Prop
  | fresh (w : W) : Smooth (fresh K.names w)
  | perform {s : Run W} (op : Operation) (hadopt : AdoptsAtStart s op)
      (hspares : SparesStatic s op) (hs : Smooth s)
      (hfree : ¬Failed (after (op.perform K.toNetworkControlPlaneOps) s)) :
      Smooth (after (op.perform K.toNetworkControlPlaneOps) s)
  | environment {s : Run W} (w : W) (hview : K.view w = K.viewOf s) (hs : Smooth s) :
      Smooth { s with world := w }

/-- The last operation was a `reconcile` that returned `true`. -/
inductive JustReconciled : Run W → Prop
  | reconciled {s t : Run W} (hs : Smooth K s)
      (hrun : Operation.reconcile.perform K.toNetworkControlPlaneOps s = .ok () t)
      (hfree : ¬Failed t) : JustReconciled t
  | environment {s : Run W} (w : W) (hview : K.view w = K.viewOf s) (hs : JustReconciled s) :
      JustReconciled { s with world := w }

/-- The default routes in the kernel that the service has set and not cleared. -/
def installedRoutes (s : Run W) : Finset Route :=
  (K.viewOf s).routes.filter (· ∈ ensuredRoutes s.log)

/-! ### Records and kernel -/

/-- Each active record has its route in the kernel, each inactive one is empty. -/
def RoutesHeld (s : Run W) : Prop :=
  ∀ iface, iface = K.names.eth ∨ iface = K.names.wifi →
    ((s.plane.ownedRouteFor iface).active = true →
      ⟨iface, (s.plane.ownedRouteFor iface).gateway4, (s.plane.ownedRouteFor iface).metric⟩ ∈
        (K.viewOf s).routes) ∧
    ((s.plane.ownedRouteFor iface).active = false → s.plane.ownedRouteFor iface = {})

section Held

variable {K} {s t : Run W}

theorem RoutesHeld.of_same (h : RoutesHeld K s)
    (howned : ∀ iface, t.plane.ownedRouteFor iface = s.plane.ownedRouteFor iface)
    (hroutes : (K.viewOf t).routes = (K.viewOf s).routes) : RoutesHeld K t := by
  intro iface hiface
  rw [howned, hroutes]
  exact h iface hiface

theorem RoutesHeld.move {iface : String} (h : RoutesHeld K s) (hnames : s.plane.names = K.names)
    (hiface : iface = K.names.eth ∨ iface = K.names.wifi) (hmove : RouteMove K iface s t) :
    RoutesHeld K t := by
  -- the record of the other interface and its route are as they were
  have hother : ∀ {route : OwnedRouteState} {other : String},
      other = K.names.eth ∨ other = K.names.wifi → other ≠ iface →
      t.plane = s.plane.setOwnedRoute iface route →
      t.plane.ownedRouteFor other = s.plane.ownedRouteFor other := by
    intro route other hother hne hplane
    rw [← hnames] at hother hiface
    rw [hplane, ownedRouteFor_setOwnedRoute_ne hother hiface (Ne.symm hne)]
  have hne : ∀ {other gateway4 gateway4' : String} {metric metric' : Int}, other ≠ iface →
      (⟨other, gateway4, metric⟩ : Route) ≠ ⟨iface, gateway4', metric'⟩ :=
    fun hdiff heq => hdiff (congrArg Route.iface heq)
  cases hmove with
  | stayed hplane hview =>
    exact h.of_same (fun _ => by rw [hplane]) (congrArg KernelView.routes hview)
  | cleared hactive hplane hview =>
    intro other hknown
    by_cases hsame : other = iface
    · rw [hplane, hsame, ownedRouteFor_setOwnedRoute]
      exact ⟨nofun, fun _ => rfl⟩
    · rw [hother hknown hsame hplane]
      refine ⟨fun hyes => ?_, (h other hknown).2⟩
      rw [hview]
      exact Finset.mem_erase.mpr ⟨hne hsame, (h other hknown).1 hyes⟩
  | set gateway4 metric _ hplane hview =>
    intro other hknown
    by_cases hsame : other = iface
    · rw [hplane, hsame, ownedRouteFor_setOwnedRoute, hview]
      exact ⟨fun _ => Finset.mem_insert_self _ _, fun hno => nomatch hno⟩
    · rw [hother hknown hsame hplane]
      refine ⟨fun hyes => ?_, (h other hknown).2⟩
      rw [hview]
      exact Finset.mem_insert_of_mem ((h other hknown).1 hyes)

theorem routesHeldSteps :
    Steps K.toNetworkControlPlaneOps K.names (Keeping (RoutesHeld K)) :=
  steps_of_moves K (fun _ _ howned hroutes h => h.of_same howned hroutes)
    fun _ hiface _ _ hN hmove h => h.move hN hiface hmove

/-- Adoption forgets a record and touches nothing else. -/
theorem RoutesHeld.adopted (h : RoutesHeld K s) (hnames : s.plane.names = K.names)
    (iface : String) : RoutesHeld K (after (adoptDhcp K.toNetworkControlPlaneOps iface) s) := by
  refine after_of_wp (I := RoutesHeld K) ?_
  unfold adoptDhcp
  rw [wp_bind, wp_getPlane, wp_bind, wp_require]
  split
  · next hknown =>
    rw [wp_bind, wp_require, if_pos (K.wired _), wp_bind, wp_modifyPlane, wp_bind, wp_modifyPlane,
      wp_modifyPlane]
    dsimp only
    intro other hother
    have howned : ∀ p : NetworkControlPlane,
        (if iface = p.names.eth then { p with staticEth := {} } else p).ownedRouteFor other =
          p.ownedRouteFor other := by
      intro p
      split <;> rfl
    have hlink : (s.plane.setLink iface { managedDhcp := true }).ownedRouteFor other =
        s.plane.ownedRouteFor other := by
      unfold setLink
      split <;> rfl
    rw [howned]
    by_cases hsame : other = iface
    · rw [hsame, ownedRouteFor_setOwnedRoute]
      exact ⟨nofun, fun _ => rfl⟩
    · rw [ownedRouteFor_setOwnedRoute_ne (by rw [setLink_names, hnames]; exact hother)
        (by rw [setLink_names]; exact knownIface_iff.mp hknown) (Ne.symm hsame), hlink]
      exact h other hother
  · exact h

theorem RoutesHeld.perform (h : RoutesHeld K s) (hnames : s.plane.names = K.names)
    (op : Operation) : RoutesHeld K (after (op.perform K.toNetworkControlPlaneOps) s) := by
  by_cases hadopt : ∃ iface, op = .adoptDhcp iface
  · obtain ⟨iface, rfl⟩ := hadopt
    exact h.adopted hnames iface
  · exact ((routesHeldSteps.perform op fun iface hop => hadopt ⟨iface, hop⟩) s hnames).2 h

end Held

/-! ### The state before the attempt -/

section Smooth

variable {K} {s : Run W}

theorem Reachable.mono {ops : NetworkControlPlaneOps W} {allowed allowed' : Run W → Operation → Prop}
    (h : Reachable ops allowed s) (hle : ∀ s op, allowed s op → allowed' s op) :
    Reachable ops allowed' s := by
  induction h with
  | fresh names w => exact .fresh names w
  | perform op _ hallowed ih => exact .perform op ih (hle _ _ hallowed)
  | environment w _ ih => exact .environment w ih

theorem Smooth.reachable (h : Smooth K s) : Reachable K.toNetworkControlPlaneOps
    (fun s op => AdoptsAtStart s op ∧ SparesStatic s op) s := by
  induction h with
  | fresh w => exact .fresh _ w
  | perform op hadopt hspares _ _ ih => exact .perform op ih ⟨hadopt, hspares⟩
  | environment w _ _ ih => exact .environment w ih

theorem Smooth.not_failed (h : Smooth K s) : ¬Failed s := by
  induction h with
  | fresh w => exact fun ⟨_, hmem, _⟩ => nomatch hmem
  | perform _ _ _ _ hfree _ => exact hfree
  | environment w _ _ ih => exact ih

theorem Smooth.names (h : Smooth K s) : s.plane.names = K.names := by
  induction h with
  | fresh w => rfl
  | @perform s op _ _ _ _ ih =>
    by_cases hadopt : ∃ iface, op = .adoptDhcp iface
    · obtain ⟨iface, rfl⟩ := hadopt
      have hkept := adoptDhcp_resolver K.toNetworkControlPlaneOps iface s
      exact (congrArg Prod.fst hkept).trans ih
    · exact ((namesSteps K.toNetworkControlPlaneOps K.names).perform op
        (fun iface hop => hadopt ⟨iface, hop⟩) s ih).1
  | environment w _ _ ih => exact ih

theorem Smooth.routesHeld (h : Smooth K s) : RoutesHeld K s := by
  induction h with
  | fresh w =>
    intro iface _
    have hnone : (ControlPlane.fresh K.names w).plane.ownedRouteFor iface = {} := by
      unfold ownedRouteFor
      split <;> rfl
    rw [hnone]
    exact ⟨nofun, fun _ => rfl⟩
  | perform op _ _ hs _ ih => exact ih.perform hs.names op
  | environment w hview _ ih => exact ih.of_same (fun _ => rfl) (congrArg KernelView.routes hview)

/-- The records are in line with the policy and with the machine. -/
structure Ready (K : KernelPorts W) (s : Run W) : Prop where
  names : s.plane.names = K.names
  follows : FollowsPolicy s.plane
  held : RoutesHeld K s
  initialized : s.plane.dnsOwnershipInitialized = true
  settled : DnsSettled s.plane (K.viewOf s)

theorem JustReconciled.smooth (h : JustReconciled K s) : Smooth K s := by
  induction h with
  | @reconciled s t hs hrun hfree =>
    have hafter : after (Operation.reconcile.perform K.toNetworkControlPlaneOps) s = t :=
      after_ok hrun
    rw [← hafter] at hfree ⊢
    exact .perform .reconcile trivial (fun hop => nomatch hop) hs hfree
  | environment w hview _ ih => exact .environment w hview ih

theorem JustReconciled.ready (h : JustReconciled K s) : Ready K s := by
  have hsmooth := h.smooth
  have hreach : Reachable K.toNetworkControlPlaneOps SparesStatic s :=
    hsmooth.reachable.mono fun _ _ hallowed => hallowed.2
  have hresolved : s.plane.dnsOwnershipInitialized = true ∧ DnsSettled s.plane (K.viewOf s) := by
    clear hsmooth hreach
    induction h with
    | @reconciled s t hs hrun _ =>
      have hwp := reconcile_resolves (K := K) hs.names
      unfold wp at hwp
      rw [show reconcile K.toNetworkControlPlaneOps s = .ok () t from hrun] at hwp
      exact hwp
    | environment w hview _ ih =>
      refine ⟨ih.1, ?_⟩
      show DnsSettled _ (K.view w)
      rw [hview]
      exact ih.2
  exact ⟨hsmooth.names, hreach.followsPolicy K.wired hsmooth.not_failed, hsmooth.routesHeld,
    hresolved.1, hresolved.2⟩

end Smooth

/-! ### What the attempt leaves alone -/

/-- All of records and machine but the routes and the resolver file. -/
def besidesRoutes (s : Run W) : NetworkControlPlane × KernelView :=
  ({ s.plane with ethRoute := {}, wifiRoute := {} },
    { (K.viewOf s).besidesResolver with routes := ∅ })

/-- The Ethernet routes and their record. -/
def ethSide (s : Run W) : (String → Int → Prop) × OwnedRouteState :=
  (ethRoutes K s, s.plane.ethRoute)

section Attempt

variable {K} {s t : Run W}

theorem RouteMove.besidesRoutes {iface : String} (h : RouteMove K iface s t) :
    besidesRoutes K t = besidesRoutes K s := by
  have hplane : ∀ (p : NetworkControlPlane) (route : OwnedRouteState),
      { p.setOwnedRoute iface route with ethRoute := {}, wifiRoute := {} } =
        { p with ethRoute := {}, wifiRoute := {} } := by
    intro p route
    unfold setOwnedRoute
    split <;> rfl
  unfold ControlPlane.besidesRoutes
  cases h with
  | stayed hp hview => rw [hp, hview]
  | cleared _ hp hview =>
    rw [hp, hview, hplane]
    rfl
  | set _ _ _ hp hview =>
    rw [hp, hview, hplane]
    rfl

theorem applyRoutesLocked_besides (hnames : s.plane.names = K.names) :
    besidesRoutes K (after (applyRoutesLocked K.toNetworkControlPlaneOps) s) =
      besidesRoutes K s :=
  ((routeSteps_of_moves (R := Framing (besidesRoutes K)) K
    fun _ _ _ _ _ hmove => hmove.besidesRoutes).applyRoutes s hnames).2

/-- A move on Wi-Fi does not touch the Ethernet side. -/
theorem RouteMove.ethSide (hnames : s.plane.names = K.names)
    (h : RouteMove K K.names.wifi s t) : ethSide K t = ethSide K s := by
  have hplane : ∀ route, t.plane = s.plane.setOwnedRoute K.names.wifi route →
      t.plane.ethRoute = s.plane.ethRoute := by
    intro route hp
    rw [hp, ← hnames, setOwnedRoute_wifi]
  have hroutes : ∀ c : PortCall, c.iface? = some K.names.wifi →
      K.viewOf t = (K.viewOf s).effect c → ethRoutes K t = ethRoutes K s := by
    intro c hc hview
    funext gateway4 metric
    refine propext ?_
    show _ ∈ (K.viewOf t).routes ↔ _
    rw [hview]
    exact (KernelView.effect_sameBut (K.viewOf s) hc).routes _ K.names.distinct
  unfold ControlPlane.ethSide
  cases h with
  | stayed hp hview =>
    have hsame : ethRoutes K t = ethRoutes K s := by
      unfold ethRoutes
      rw [hview]
    rw [hp, hsame]
  | cleared _ hp hview => rw [hplane _ hp, hroutes _ rfl hview]
  | set _ _ _ hp hview => rw [hplane _ hp, hroutes _ rfl hview]

/-- No configuration asks for an Ethernet route, whatever the policy, and none is recorded. -/
structure Unrouted (p : NetworkControlPlane) : Prop where
  static : ¬(p.staticEth.active = true ∧ p.staticEth.gateway4 ≠ "")
  dhcp : ¬(p.eth.active = true ∧ p.eth.lease.gateway4 ≠ "")
  unowned : p.ethRoute.active = false

theorem applyRoutesLocked_ethSide (hnames : s.plane.names = K.names) (h : Unrouted s.plane) :
    ethSide K (after (applyRoutesLocked K.toNetworkControlPlaneOps) s) = ethSide K s := by
  have heth : applyEthernetRoute K.toNetworkControlPlaneOps s = .ok () s := by
    unfold applyEthernetRoute
    rw [run_bind, run_getPlane]
    dsimp only
    rw [if_neg fun hc => h.static ⟨hc.1, hc.2.2⟩, if_neg fun hc => h.dhcp ⟨hc.1, hc.2.2⟩]
    unfold clearOwnedRouteLocked
    simp [ownedRouteFor_eth, h.unowned]
  have hmove := fun (s t : Run W) (hN : s.plane.names = K.names)
    (hmove : RouteMove K K.names.wifi s t) => hmove.ethSide hN
  have hclear := clearOwnedRouteLocked_along (R := Framing (ethSide K)) K hmove
  have hensure := ensureOwnedRouteLocked_along (R := Framing (ethSide K)) K hmove
  have hwifi : Along (Within K.names (Framing (ethSide K)))
      (applyWifiRoute K.toNetworkControlPlaneOps) := by
    refine Within.getPlane fun p hp => ?_
    dsimp only
    rw [hp]
    exact Along.ite (Along.mapError (hensure _ _)) hclear
  have hafter : after (applyRoutesLocked K.toNetworkControlPlaneOps) s =
      after (applyWifiRoute K.toNetworkControlPlaneOps) s := by
    unfold after applyRoutesLocked
    rw [run_bind, heth]
  rw [hafter]
  exact (hwifi s hnames).2

/-- A resolver step that fails has changed nothing but the resolver file. -/
theorem recomputeDnsLocked_stopped (hnames : s.plane.names = K.names)
    (hinit : s.plane.dnsOwnershipInitialized = true) :
    wp (recomputeDnsLocked K.toNetworkControlPlaneOps) (fun _ _ => True)
      (fun _ t => t.plane = s.plane ∧ (K.viewOf t).besidesResolver = (K.viewOf s).besidesResolver)
      s := by
  -- the last call is the one that fails
  have hlast : ∀ (c : PortCall) (reply : c.Reply → Except String Unit),
      c.writesDns = true → (∀ r, c.succeeded r = (reply r).isOk) →
      ∀ (f : NetworkControlPlane → NetworkControlPlane)
      (e : String) (t : Run W), t.plane = s.plane → K.viewOf t = K.viewOf s →
      wp (do
        require (K.available c.port) e
        check (reply (← invoke K.toNetworkControlPlaneOps c))
        modifyPlane f) (fun _ _ => True)
        (fun _ u => u.plane = s.plane ∧ (K.viewOf u).besidesResolver = (K.viewOf s).besidesResolver)
        t := by
    intro c reply hdns hreply f e t hplane hview
    rw [wp_bind, wp_require, if_pos (K.wired _), wp_bind]
    refine wp_invoke.mpr ?_
    rw [wp_bind, wp_check]
    refine ⟨fun _ _ => trivial, fun e herror => ⟨hplane, ?_⟩⟩
    have hfailed : c.succeeded (K.call c t.world).1 = false := by
      rw [hreply, herror]
      rfl
    exact (K.spoils c t.world hfailed hdns).trans (congrArg KernelView.besidesResolver hview)
  have hrelease : ∀ t : Run W, t.plane = s.plane → K.viewOf t = K.viewOf s →
      wp (releaseDns K.toNetworkControlPlaneOps) (fun _ _ => True)
        (fun _ u => u.plane = s.plane ∧ (K.viewOf u).besidesResolver = (K.viewOf s).besidesResolver)
        t := by
    intro t hplane hview
    unfold releaseDns
    rw [wp_bind, wp_getPlane]
    refine wp_split (fun _ => ?_) fun _ => trivial
    exact hlast .clearDns id rfl (fun _ => rfl) _ _ t hplane hview
  unfold recomputeDnsLocked initializeDnsOwnership
  rw [wp_bind, wp_bind, wp_getPlane, wp_ite, if_pos hinit, wp_pure, wp_bind]
  refine wp_selectDns_observed K hnames fun choice t _ hlive ht => ?_
  have hview : K.viewOf t = K.viewOf s := ht.view
  unfold applyDns
  cases choice.1 with
  | preserveExternal => exact hrelease t ht.plane hview
  | select dns4 =>
    refine wp_split (fun _ => hrelease t ht.plane hview) fun _ => ?_
    unfold dnsAlreadyApplied
    rw [wp_bind, wp_bind, wp_getPlane]
    refine wp_split (fun _ => ?_) fun _ => ?_
    · rw [wp_ite, if_pos (K.wired _), wp_bind]
      refine wp_loadLive_observed K (by rw [hview]; exact hlive) fun current u _ hu => ?_
      rw [wp_pure]
      refine wp_split (fun _ => trivial) fun _ => ?_
      exact hlast (.setDns dns4) id rfl (fun _ => rfl) _ _ u (hu.plane.trans ht.plane)
        (hu.view.trans hview)
    · rw [wp_pure]
      refine wp_split (fun _ => trivial) fun _ => ?_
      exact hlast (.setDns dns4) id rfl (fun _ => rfl) _ _ t ht.plane hview

end Attempt

/-! ### The way back -/

section Back

variable {K} {s t : Run W}

/-- The run in which the new policy is tried. -/
abbrev attempted (policy : RoutePolicy) (s : Run W) : Run W :=
  { s with plane := { s.plane with routePolicy := policy } }

/-- The run `t` differs from `s` in routes and resolver file only, and not in the routes of Ethernet
if there are none to apply. -/
structure RoutesApart (K : KernelPorts W) (s t : Run W) : Prop where
  besides : besidesRoutes K t = besidesRoutes K s
  ethernet : Unrouted s.plane → ethSide K t = ethSide K s
  held : RoutesHeld K t

theorem RoutesApart.names (h : RoutesApart K s t) : t.plane.names = s.plane.names :=
  congrArg (fun x => x.1.names) h.besides

theorem RoutesApart.unrouted (h : RoutesApart K s t) (hs : Unrouted s.plane) :
    Unrouted t.plane := by
  have hstatic : t.plane.staticEth = s.plane.staticEth := congrArg (fun x => x.1.staticEth) h.besides
  have hdhcp : t.plane.eth = s.plane.eth := congrArg (fun x => x.1.eth) h.besides
  have hroute : t.plane.ethRoute = s.plane.ethRoute := congrArg Prod.snd (h.ethernet hs)
  refine ⟨?_, ?_, ?_⟩
  · rw [hstatic]
    exact hs.static
  · rw [hdhcp]
    exact hs.dhcp
  · rw [hroute]
    exact hs.unowned

/-- Applying routes goes on from there. -/
theorem RoutesApart.applied (h : RoutesApart K s t) (hnames : s.plane.names = K.names) :
    RoutesApart K s (after (applyRoutesLocked K.toNetworkControlPlaneOps) t) := by
  have hnames' : t.plane.names = K.names := h.names.trans hnames
  refine ⟨(applyRoutesLocked_besides hnames').trans h.besides, fun hs => ?_, ?_⟩
  · exact (applyRoutesLocked_ethSide hnames' (h.unrouted hs)).trans (h.ethernet hs)
  · exact (routesHeldSteps.applyRoutes t hnames').2 h.held

theorem RoutesApart.of_same {u : Run W} (h : RoutesApart K s t) (hplane : u.plane = t.plane)
    (hview : (K.viewOf u).besidesResolver = (K.viewOf t).besidesResolver) : RoutesApart K s u := by
  have hroutes := KernelView.routes_of_besidesResolver hview
  have hethernet : ethSide K u = ethSide K t := by
    unfold ethSide ethRoutes
    rw [hplane, hroutes]
  refine ⟨?_, fun hs => hethernet.trans (h.ethernet hs),
    h.held.of_same (fun _ => by rw [hplane]) hroutes⟩
  rw [← h.besides]
  unfold besidesRoutes
  rw [hplane, hview]

/-- **A policy pass that fails has changed routes and resolver file only.** -/
theorem policyPass_stopped (hs : Ready K s) (policy : RoutePolicy) :
    wp (policyPass K.toNetworkControlPlaneOps) (fun _ _ => True)
      (fun _ t => RoutesApart K (attempted policy s) t) (attempted policy s) := by
  have hstart : RoutesApart K (attempted policy s) (attempted policy s) :=
    ⟨rfl, fun _ => rfl, hs.held.of_same (fun _ => rfl) rfl⟩
  have happlied := hstart.applied hs.names
  unfold policyPass
  rw [wp_bind]
  refine wp_mono (wp_of_after (I := fun t => RoutesApart K (attempted policy s) t) happlied)
    (fun _ t ht => ?_) fun _ _ h => h
  have hinit : t.plane.dnsOwnershipInitialized = true :=
    (congrArg (fun x => x.1.dnsOwnershipInitialized) ht.besides :).trans hs.initialized
  exact wp_mono (recomputeDnsLocked_stopped (ht.names.trans hs.names) hinit) (fun _ _ h => h)
    fun _ _ hu => ht.of_same hu.1 hu.2

/-- So does what follows when the old policy is back. -/
theorem policyRolledBack_apart (hs : Ready K s) {policy : RoutePolicy}
    (hstopped : completes (policyPass K.toNetworkControlPlaneOps) (attempted policy s) = false) :
    RoutesApart K s (policyRolledBack K.toNetworkControlPlaneOps policy s) := by
  have htried := after_of_stopped (policyPass_stopped hs policy) hstopped
  refine ⟨?_, fun hun => ?_, htried.held.of_same (fun _ => rfl) rfl⟩
  · have hback := congrArg (fun x : NetworkControlPlane × KernelView =>
      ({ x.1 with routePolicy := s.plane.routePolicy }, x.2)) htried.besides
    exact hback
  · exact htried.ethernet ⟨hun.static, hun.dhcp, hun.unowned⟩

theorem OwnedRouteState.eq_of_route? {owned owned' : OwnedRouteState}
    (h : owned.route? = owned'.route?) (hidle : owned.active = false → owned = {})
    (hidle' : owned'.active = false → owned' = {}) : owned = owned' := by
  obtain ⟨active, gateway4, metric⟩ := owned
  obtain ⟨active', gateway4', metric'⟩ := owned'
  cases active <;> cases active'
  · rw [hidle rfl, hidle' rfl]
  · exact nomatch h
  · exact nomatch h
  · obtain ⟨rfl, rfl⟩ := Prod.mk.inj (Option.some.inj h)
    rfl

/-- Routes in line with the same configuration are the same. -/
theorem RoutesApart.plane_eq (hs : Ready K s) (h : RoutesApart K s t)
    (hfollows : FollowsPolicy t.plane) : t.plane = s.plane := by
  have hbesides : { t.plane with ethRoute := {}, wifiRoute := {} } =
      { s.plane with ethRoute := {}, wifiRoute := {} } := congrArg Prod.fst h.besides
  have hconfig : t.plane.config = s.plane.config := (congrArg NetworkControlPlane.config hbesides :)
  have hnames : t.plane.names = K.names := h.names.trans hs.names
  obtain ⟨-, heth, -, hwifi⟩ := wanted_of_config hconfig
  have hroute : t.plane.ethRoute = s.plane.ethRoute := by
    have ht := (h.held K.names.eth (Or.inl rfl)).2
    have hs' := (hs.held K.names.eth (Or.inl rfl)).2
    rw [← hnames, ownedRouteFor_eth] at ht
    rw [← hs.names, ownedRouteFor_eth] at hs'
    exact OwnedRouteState.eq_of_route? (hfollows.eth.trans (heth.trans hs.follows.eth.symm)) ht hs'
  have hroute' : t.plane.wifiRoute = s.plane.wifiRoute := by
    have ht := (h.held K.names.wifi (Or.inr rfl)).2
    have hs' := (hs.held K.names.wifi (Or.inr rfl)).2
    rw [← hnames, ownedRouteFor_wifi] at ht
    rw [← hs.names, ownedRouteFor_wifi] at hs'
    exact OwnedRouteState.eq_of_route? (hfollows.wifi.trans (hwifi.trans hs.follows.wifi.symm)) ht hs'
  calc t.plane
      = { ({ t.plane with ethRoute := {}, wifiRoute := {} } : NetworkControlPlane) with
          ethRoute := t.plane.ethRoute, wifiRoute := t.plane.wifiRoute } := rfl
    _ = { ({ s.plane with ethRoute := {}, wifiRoute := {} } : NetworkControlPlane) with
          ethRoute := s.plane.ethRoute, wifiRoute := s.plane.wifiRoute } := by
        rw [hbesides, hroute, hroute']
    _ = s.plane := rfl

/-- The live Ethernet route is there again if it was, and gone again if it was not, wherever the
resolver depends on it. -/
theorem RoutesApart.dnsTarget_eq (hs : Ready K s) (h : RoutesApart K s t)
    (hplane : t.plane = s.plane) : dnsTarget t.plane (K.viewOf t) = dnsTarget s.plane (K.viewOf s) := by
  unfold dnsTarget
  rw [hplane]
  by_cases hconsults : s.plane.consultsLiveEthernet = true
  · have hpolicy : s.plane.routePolicy = .ethernetPreferred := by
      simp only [consultsLiveEthernet, decide_eq_true_eq] at hconsults
      exact hconsults.1
    refine congrArg DnsDecision.target (congrArg s.plane.dnsDecision (decide_eq_decide.mpr ?_))
    cases hdesired : s.plane.desiredEth with
    | some route =>
      -- the owned route is in the kernel on both sides
      have hactive : s.plane.ethRoute.active = true := by
        have hfollows := hs.follows.eth
        rw [hdesired] at hfollows
        cases hactive : s.plane.ethRoute.active with
        | true => rfl
        | false => simp [OwnedRouteState.route?, hactive] at hfollows
      have hroute : ∀ {u : Run W}, u.plane = s.plane → RoutesHeld K u →
          (K.viewOf u).HasRoute s.plane.names.eth := by
        intro u hu hheld
        have hmem := (hheld K.names.eth (Or.inl rfl)).1
        rw [hu, ← hs.names, ownedRouteFor_eth] at hmem
        exact ⟨_, hmem hactive, rfl⟩
      exact iff_of_true (hroute hplane h.held) (hroute rfl hs.held)
    | none =>
      have hunowned : s.plane.ethRoute.active = false := by
        have hfollows := hs.follows.eth
        rw [hdesired] at hfollows
        cases hactive : s.plane.ethRoute.active with
        | false => rfl
        | true => simp [OwnedRouteState.route?, hactive] at hfollows
      have hunrouted : Unrouted s.plane := by
        unfold desiredEth at hdesired
        rw [if_neg (by rw [hpolicy]; decide)] at hdesired
        refine ⟨fun hstatic => ?_, fun hdhcp => ?_, hunowned⟩
        · rw [if_pos hstatic] at hdesired
          cases hdesired
        · rw [if_pos hdhcp] at hdesired
          split at hdesired
          · cases hdesired
          · cases hdesired
      have hsame : ethRoutes K t = ethRoutes K s := congrArg Prod.fst (h.ethernet hunrouted)
      have hmem : ∀ r : Route, r.iface = K.names.eth →
          (r ∈ (K.viewOf t).routes ↔ r ∈ (K.viewOf s).routes) := by
        rintro ⟨iface, gateway4, metric⟩ rfl
        exact Iff.of_eq (congrFun (congrFun hsame gateway4) metric)
      rw [hs.names]
      constructor
      · rintro ⟨r, hr, hiface⟩
        exact ⟨r, (hmem r hiface).mp hr, hiface⟩
      · rintro ⟨r, hr, hiface⟩
        exact ⟨r, (hmem r hiface).mpr hr, hiface⟩
  · rw [dnsDecision_congr hconsults]

/-- A rollback whose calls all succeed comes to the end of its route pass. -/
theorem applyRoutesLocked_completes {u : Run W}
    (hrest : LogGrows (fun _ => True)
      (after (applyRoutesLocked K.toNetworkControlPlaneOps) s) u)
    (hok : LogGrows (fun e => e.ok = true) s u) :
    completes (applyRoutesLocked K.toNetworkControlPlaneOps) s = true := by
  by_cases hdone : completes (applyRoutesLocked K.toNetworkControlPlaneOps) s = true
  · exact hdone
  have hfailed := after_of_stopped
    (applyRoutesLocked_blames K.toNetworkControlPlaneOps (K.wired _) (K.wired _) s)
    (Bool.not_eq_true _ ▸ hdone)
  obtain ⟨added, hlog, e, he, hno⟩ :=
    Issued.mono (hfailed.widen (Std.Refl.refl s) hrest) fun _ he => he.2.1
  obtain ⟨all, hall, hyes⟩ := hok
  rw [List.append_cancel_right (hall.symm.trans hlog)] at hyes
  exact nomatch (hyes e he).symm.trans hno

/-- The routes the service installed are the recorded ones. -/
theorem installedRoutes_eq (hnames : s.plane.names = K.names) (hheld : RoutesHeld K s)
    (howned : RoutesOwned s) : installedRoutes K s = recordedRoutes s.plane := by
  have hrecorded : ∀ iface, iface = K.names.eth ∨ iface = K.names.wifi →
      ∀ r ∈ (s.plane.ownedRouteFor iface).routes iface, r ∈ (K.viewOf s).routes := by
    intro iface hiface r hr
    unfold OwnedRouteState.routes at hr
    split at hr
    · next hactive =>
      rw [Finset.mem_singleton.mp hr]
      exact (hheld iface hiface).1 hactive
    · exact absurd hr (Finset.notMem_empty _)
  unfold installedRoutes
  rw [howned.exact]
  refine Finset.ext fun r => ?_
  rw [Finset.mem_filter, and_iff_right_iff_imp]
  intro hr
  unfold recordedRoutes at hr
  rcases Finset.mem_union.mp hr with hr | hr
  · rw [← ownedRouteFor_eth] at hr
    exact hrecorded _ (Or.inl (by rw [hnames])) r hr
  · rw [← ownedRouteFor_wifi] at hr
    exact hrecorded _ (Or.inr (by rw [hnames])) r hr

end Back

end NetworkService.ControlPlane
