import Mathlib.Tactic.ByContra
import NetworkService.ControlPlane.RoutePolicy

/-!
# Owned routes that nothing asks for

When calls may fail, an owned route is withdrawn before the configuration that asked for it is
forgotten, and a failed withdrawal makes the operation stop there.  Two operations go on
regardless: `stop_dhcp`, which forgets the link in any case, and the rollback of
`set_route_policy`, which restores the policy in any case.  Where their route calls succeed, an
owned route is the desired one in every state of every run; where one of them fails, a route
may stay behind that no later `reconcile` withdraws.
-/

namespace NetworkService.ControlPlane

open Fallible

variable {W : Type}

/-! ### Failed route calls -/

/-- The log has grown and the policy is the same. -/
def Grown (s t : Run W) : Prop :=
  t.plane.routePolicy = s.plane.routePolicy ∧ ∃ added, t.log = added ++ s.log

/-- Among the calls that took the run from `s` to `t` is one that satisfies `P`. -/
def Issued (P : PortEvent → Prop) (s t : Run W) : Prop :=
  ∃ added, t.log = added ++ s.log ∧ ∃ e ∈ added, P e

/-- A call for a default route failed under the policy of `s`. -/
abbrev RouteFailed (s t : Run W) : Prop :=
  Issued (fun e => e.call.isRouteCall = true ∧ e.ok = false ∧
    e.plane.routePolicy = s.plane.routePolicy) s t

/-- What was issued on the way counts for the whole. -/
theorem Issued.widen {P : PortEvent → Prop} {s t u v : Run W} (h : Issued P t u)
    (hst : LogGrows (fun _ => True) s t) (huv : LogGrows (fun _ => True) u v) : Issued P s v := by
  obtain ⟨before, hbefore, -⟩ := hst
  obtain ⟨after, hafter, -⟩ := huv
  obtain ⟨added, hadded, e, he, hP⟩ := h
  refine ⟨after ++ (added ++ before), ?_, e, ?_, hP⟩
  · rw [hafter, hadded, hbefore, List.append_assoc, List.append_assoc]
  · exact List.mem_append_right _ (List.mem_append_left _ he)

theorem Issued.mono {P P' : PortEvent → Prop} {s t : Run W} (h : Issued P s t)
    (hP : ∀ e, P e → P' e) : Issued P' s t := by
  obtain ⟨added, hlog, e, he, hPe⟩ := h
  exact ⟨added, hlog, e, he, hP e hPe⟩

theorem LogGrows.not_issued {P : PortEvent → Prop} {s t : Run W} (h : LogGrows (fun e => ¬P e) s t) :
    ¬Issued P s t := by
  rintro ⟨added, hlog, e, he, hP⟩
  obtain ⟨all, hall, hnot⟩ := h
  rw [List.append_cancel_right (hall.symm.trans hlog)] at hnot
  exact hnot e he hP

theorem Grown.refl (s : Run W) : Grown s s := ⟨rfl, [], rfl⟩

theorem Grown.trans {s t u : Run W} (h : Grown s t) (h' : Grown t u) : Grown s u := by
  obtain ⟨hpolicy, added, hlog⟩ := h
  obtain ⟨hpolicy', more, hlog'⟩ := h'
  exact ⟨hpolicy'.trans hpolicy, more ++ added, by rw [hlog', hlog, List.append_assoc]⟩

theorem Grown.failed {s t u : Run W} (h : Grown s t) (h' : RouteFailed t u) : RouteFailed s u := by
  obtain ⟨hpolicy, added, hlog⟩ := h
  refine Issued.mono (h'.widen ⟨added, hlog, fun _ _ => trivial⟩ (Std.Refl.refl u)) fun e he => ?_
  exact ⟨he.1, he.2.1, he.2.2.trans hpolicy⟩

theorem RouteFailed.record {s : Run W} {c : PortCall} {r : c.Reply} {w : W}
    (hc : c.isRouteCall = true) (hr : c.succeeded r = false) : RouteFailed s (s.record c r w) :=
  ⟨[_], rfl, _, List.mem_singleton.mpr rfl, hc, hr, rfl⟩

section RouteCalls

variable (ops : NetworkControlPlaneOps W) (hclear : ops.available .clearDefaultRoute = true)
  (hset : ops.available .setDefaultRoute = true) (s : Run W)

include hclear

theorem clearOwnedRouteLocked_blames (iface : String) :
    wp (clearOwnedRouteLocked ops iface) (fun _ t => Grown s t) (fun _ t => RouteFailed s t) s := by
  unfold wp
  rcases clearOwnedRouteLocked_cases ops iface s with
    ⟨-, hrun⟩ | ⟨-, havail, -⟩ | ⟨e, w, -, -, hrun⟩ | ⟨w, -, -, hrun⟩
  · rw [hrun]
    exact Grown.refl s
  · exact nomatch hclear.symm.trans havail
  · rw [hrun]
    exact RouteFailed.record rfl rfl
  · rw [hrun]
    refine ⟨?_, [_], rfl⟩
    show (s.plane.setOwnedRoute iface {}).routePolicy = s.plane.routePolicy
    unfold NetworkControlPlane.setOwnedRoute
    split <;> rfl

include hset

theorem ensureOwnedRouteLocked_blames (iface gateway4 : String) (metric : Int) :
    wp (ensureOwnedRouteLocked ops iface gateway4 metric) (fun _ t => Grown s t)
      (fun _ t => RouteFailed s t) s := by
  have hwithdrawn := clearOwnedRouteLocked_blames ops hclear s iface
  by_cases hgw : gateway4 = ""
  · unfold ensureOwnedRouteLocked
    rw [if_pos hgw]
    exact hwithdrawn
  have hfreed : ∀ t, Freed ops iface s gateway4 metric t → Grown s t := by
    rintro t (⟨rfl, -⟩ | hcleared)
    · exact Grown.refl t
    · unfold wp at hwithdrawn
      rw [hcleared] at hwithdrawn
      exact hwithdrawn
  unfold wp
  rcases ensureOwnedRouteLocked_cases ops iface s gateway4 metric hgw with
    ⟨havail, -⟩ | ⟨e, t, hfailed, hrun⟩ | ⟨t, e, w, ht, -, hrun⟩ | ⟨t, w, ht, -, hrun⟩
  · exact nomatch hset.symm.trans havail
  · rw [hrun]
    unfold wp at hwithdrawn
    rw [hfailed] at hwithdrawn
    exact hwithdrawn
  · rw [hrun]
    exact (hfreed t ht).failed (RouteFailed.record rfl rfl)
  · rw [hrun]
    refine (hfreed t ht).trans ⟨?_, [_], rfl⟩
    show (t.plane.setOwnedRoute iface _).routePolicy = t.plane.routePolicy
    unfold NetworkControlPlane.setOwnedRoute
    split <;> rfl

theorem applyEthernetRoute_blames :
    wp (applyEthernetRoute ops) (fun _ t => Grown s t) (fun _ t => RouteFailed s t) s := by
  unfold applyEthernetRoute
  rw [wp_bind, wp_getPlane]
  refine wp_split (fun _ => wp_mapError.mpr ?_) fun _ => wp_split (fun _ => wp_mapError.mpr ?_) ?_
  · exact ensureOwnedRouteLocked_blames ops hclear hset s _ _ _
  · exact ensureOwnedRouteLocked_blames ops hclear hset s _ _ _
  · exact fun _ => clearOwnedRouteLocked_blames ops hclear s _

theorem applyWifiRoute_blames :
    wp (applyWifiRoute ops) (fun _ t => Grown s t) (fun _ t => RouteFailed s t) s := by
  unfold applyWifiRoute
  rw [wp_bind, wp_getPlane]
  refine wp_split (fun _ => wp_mapError.mpr ?_) fun _ => ?_
  · exact ensureOwnedRouteLocked_blames ops hclear hset s _ _ _
  · exact clearOwnedRouteLocked_blames ops hclear s _

/-- A route pass that stops early has issued a route call that failed. -/
theorem applyRoutesLocked_blames :
    wp (applyRoutesLocked ops) (fun _ t => Grown s t) (fun _ t => RouteFailed s t) s := by
  unfold applyRoutesLocked
  rw [wp_bind]
  refine wp_mono (applyEthernetRoute_blames ops hclear hset s) (fun _ t ht => ?_) (fun _ _ h => h)
  exact wp_mono (applyWifiRoute_blames ops hclear hset t) (fun _ _ hu => ht.trans hu)
    (fun _ _ hu => ht.failed hu)

end RouteCalls

/-! ### Whole runs -/

/-- The call spoils the operation that issued it in `s`: it is a failed default-route call that
`stop_dhcp` issued for a link that is up, or that `set_route_policy` issued under the policy it
had restored. -/
def PortEvent.Spoils (s : Run W) (e : PortEvent) : Operation → Prop
  | .stopDhcp iface =>
    (s.plane.linkFor iface).active = true ∧ e.call.isRouteCall = true ∧ e.ok = false
  | .setRoutePolicy policy =>
    policy ≠ s.plane.routePolicy ∧ e.plane.routePolicy = s.plane.routePolicy ∧
      e.call.isRouteCall = true ∧ e.ok = false
  | _ => False

/-- No call that the operation issues spoils it. -/
def Unspoiled (ops : NetworkControlPlaneOps W) (s : Run W) (op : Operation) : Prop :=
  LogGrows (fun e => ¬e.Spoils s op) s (after (op.perform ops) s)

section Spoiled

variable (ops : NetworkControlPlaneOps W)

theorem call_grows (c : PortCall) : Along (LogGrows fun _ => True) (invoke ops c) :=
  along_invoke fun _ _ _ => LogGrows.record trivial

theorem recomputeDnsLocked_grows : Along (LogGrows fun _ => True) (recomputeDnsLocked ops) := by
  have hsteps : DnsSteps ops (LogGrows fun _ => True) :=
    ⟨fun c _ => call_grows ops c, fun _ _ s => ⟨[], rfl, fun _ _ => trivial⟩⟩
  exact hsteps.recomputeDns

theorem growingSteps (N : IfaceNames) : Steps ops N (LogGrows fun _ => True) where
  toRouteSteps := routeSteps_of_calls (fun c _ => call_grows ops c)
    fun _ _ _ => ⟨[], rfl, fun _ _ => trivial⟩
  call c _ s hN := ⟨hN, call_grows ops c s⟩
  dnsCall c _ s hN := ⟨hN, call_grows ops c s⟩
  dnsEdit f hf s hN := ⟨((namesSteps ops N).dnsEdit f hf s hN).1, [], rfl, fun _ _ => trivial⟩
  edit f hf s hN := ⟨((namesSteps ops N).edit f hf s hN).1, [], rfl, fun _ _ => trivial⟩

theorem policyPass_grows : Along (LogGrows fun _ => True) (policyPass ops) := by
  intro s
  have hsteps := growingSteps ops s.plane.names
  exact (Along.bind hsteps.applyRoutes (fun _ => hsteps.dns.recomputeDns) s rfl).2

/-- The rest of `stop_dhcp` only adds calls. -/
theorem stopDhcp_issued {P : PortEvent → Prop} {s : Run W} {iface : String}
    (hknown : s.plane.knownIface iface = true)
    (h : Issued P s (after (clearOwnedRouteLocked ops iface) s)) :
    Issued P s (after (stopDhcp ops iface) s) := by
  refine h.widen (Std.Refl.refl s) ?_
  have hignored : ∀ (port : Port) (c : PortCall), Along (LogGrows fun _ => True)
      (when (ops.available port) do let _ ← invoke ops c) :=
    fun _ c => Along.when (Along.bind (call_grows ops c) fun _ => Along.pure ())
  have hrest : Along (LogGrows fun _ => True) (do
      when (ops.available .stopDhcp) do let _ ← invoke ops (.stopDhcp iface)
      when (ops.available .clearLease) do let _ ← invoke ops (.clearLease iface)
      when (ops.available .clearIpv4) do let _ ← invoke ops (.clearIpv4 iface)
      modifyPlane fun p => p.setLink iface {}
      let _ ← attempt (recomputeDnsLocked ops) : Op W Unit) := by
    refine Along.bind (hignored _ _) fun _ => Along.bind (hignored _ _) fun _ => ?_
    refine Along.bind (hignored _ _) fun _ => Along.bind (fun s => ⟨[], rfl, fun _ _ => trivial⟩) ?_
    exact fun _ => Along.bind (Along.attempt (recomputeDnsLocked_grows ops)) fun _ => Along.pure ()
  have hstop : after (stopDhcp ops iface) s = after (do
      let _ ← attempt (clearOwnedRouteLocked ops iface)
      when (ops.available .stopDhcp) do let _ ← invoke ops (.stopDhcp iface)
      when (ops.available .clearLease) do let _ ← invoke ops (.clearLease iface)
      when (ops.available .clearIpv4) do let _ ← invoke ops (.clearIpv4 iface)
      modifyPlane fun p => p.setLink iface {}
      let _ ← attempt (recomputeDnsLocked ops) : Op W Unit) s := by
    show after (if s.plane.knownIface iface = true then _ else _ : Op W Unit) s = _
    rw [if_pos hknown]
  rw [hstop, after_attempt_bind]
  exact hrest _

section Available

variable (hclear : ops.available .clearDefaultRoute = true)
  (hset : ops.available .setDefaultRoute = true)

include hclear hset

/-- A rollback whose route pass stops early has issued a route call that failed. -/
theorem setRoutePolicy_issued {s : Run W} {policy : RoutePolicy}
    (hforward : completes (policyPass ops)
      { s with plane := { s.plane with routePolicy := policy } } = false)
    (hback : completes (applyRoutesLocked ops) (policyRolledBack ops policy s) = false) :
    Issued (fun e => e.plane.routePolicy = s.plane.routePolicy ∧ e.call.isRouteCall = true ∧
      e.ok = false) s (after (setRoutePolicy ops policy) s) := by
  have htried : LogGrows (fun _ => True) s (policyRolledBack ops policy s) :=
    policyPass_grows ops { s with plane := { s.plane with routePolicy := policy } }
  have hfailed := after_of_stopped (applyRoutesLocked_blames ops hclear hset _) hback
  obtain ⟨failure, hrun⟩ := run_of_stopped hforward
  have hrest : Along (LogGrows fun _ => True) (do
      let _ ← attempt (recomputeDnsLocked ops)
      throw failure : Op W Unit) :=
    Along.bind (Along.attempt (recomputeDnsLocked_grows ops)) fun _ => Along.throw failure
  have hafter : after (setRoutePolicy ops policy) s = after (do
      let _ ← attempt (applyRoutesLocked ops)
      let _ ← attempt (recomputeDnsLocked ops)
      throw failure : Op W Unit) (policyRolledBack ops policy s) := by
    unfold after
    rw [setRoutePolicy_rejected hrun]
  rw [hafter, after_attempt_bind]
  refine (hfailed.widen htried (hrest _)).mono fun e he => ⟨he.2.2, he.1, he.2.1⟩

/-- An operation that no failed route call spoils withdraws what it should. -/
theorem Unspoiled.withdraws {s : Run W} {op : Operation} (h : Unspoiled ops s op) :
    op.Withdraws ops True s where
  sparesStatic _ _ := trivial
  stop iface hop hknown hactive := by
    subst hop
    by_cases hdone : completes (clearOwnedRouteLocked ops iface) s = true
    · exact hdone
    refine absurd ?_ (LogGrows.not_issued h)
    have hfailed := after_of_stopped (clearOwnedRouteLocked_blames ops hclear s iface)
      (Bool.not_eq_true _ ▸ hdone)
    exact (stopDhcp_issued ops hknown hfailed).mono fun e he => ⟨hactive, he.1, he.2.1⟩
  rollback policy hop hother hforward := by
    subst hop
    by_cases hdone : completes (applyRoutesLocked ops) (policyRolledBack ops policy s) = true
    · exact hdone
    refine absurd ?_ (LogGrows.not_issued h)
    have hissued := setRoutePolicy_issued ops hclear hset hforward (Bool.not_eq_true _ ▸ hdone)
    exact hissued.mono fun e he => ⟨hother, he.1, he.2.1, he.2.2⟩

end Available

/-- Operations other than a stop and a policy change cannot be spoiled. -/
theorem unspoiled_of_other (s : Run W) {op : Operation} (hadopt : ∀ i, op ≠ .adoptDhcp i)
    (hstop : ∀ i, op ≠ .stopDhcp i) (hpolicy : ∀ p, op ≠ .setRoutePolicy p) :
    Unspoiled ops s op := by
  obtain ⟨added, hlog, -⟩ := ((growingSteps ops s.plane.names).perform op hadopt s rfl).2
  refine ⟨added, hlog, fun e _ hspoils => ?_⟩
  cases op with
  | stopDhcp i => exact hstop i rfl
  | setRoutePolicy p => exact hpolicy p rfl
  | startDhcp _ | adoptDhcp _ | applyEthernetStatic _ _ _ _ _ | reconcile | reconcileChanged
  | refreshExternalState => exact hspoils

end Spoiled

/-- No active owned route is anything but the desired one. -/
structure NoOrphanRoute (p : NetworkControlPlane) : Prop where
  eth : p.ethRoute.active = true → p.ethRoute.route? = p.desiredEth
  wifi : p.wifiRoute.active = true → p.wifiRoute.route? = p.desiredWifi

theorem OwnedRouteState.InLine.of_active {fallible : Prop} {owned : OwnedRouteState}
    {desired : Option (String × Int)} (h : owned.InLine fallible desired)
    (hactive : owned.active = true) : owned.route? = desired :=
  h.resolve_right fun hnone => Bool.false_ne_true (hnone.2.symm.trans hactive)

theorem RoutesInLine.noOrphanRoute {fallible : Prop} {p : NetworkControlPlane}
    (h : RoutesInLine fallible p) : NoOrphanRoute p := ⟨h.eth.of_active, h.wifi.of_active⟩

/-- An interface without an active configuration owns no route. -/
theorem NoOrphanRoute.unconfigured {p : NetworkControlPlane} (h : NoOrphanRoute p) :
    (p.staticEth.active = false → p.eth.active = false → p.ethRoute.active = false) ∧
      (p.wifi.active = false → p.wifiRoute.active = false) := by
  constructor
  · intro hstatic hdhcp
    by_contra hactive
    have hroute := h.eth (Bool.not_eq_false _ ▸ hactive)
    simp [NetworkControlPlane.desiredEth, OwnedRouteState.route?, hstatic, hdhcp, hactive] at hroute
  · intro hdhcp
    by_contra hactive
    have hroute := h.wifi (Bool.not_eq_false _ ▸ hactive)
    simp [NetworkControlPlane.desiredWifi, OwnedRouteState.route?, hdhcp, hactive] at hroute

theorem Reachable.inLine {ops : NetworkControlPlaneOps W}
    (hclear : ops.available .clearDefaultRoute = true)
    (hset : ops.available .setDefaultRoute = true) {s : Run W}
    (hreach : Reachable ops (Unspoiled ops) s) : RoutesInLine True s.plane := by
  induction hreach with
  | fresh names w => exact ⟨Or.inl rfl, Or.inl rfl⟩
  | perform op hbefore hunspoiled ih =>
    exact perform_inLine ops (fun _ => trivial) op hbefore.consistent ih
      (hunspoiled.withdraws ops hclear hset)
  | environment w _ ih => exact ih

/-- **No owned route survives without a configuration that asks for it**, in a run whose stops
and rollbacks issue no failing route call: when `reconcile` succeeds, an active owned route is
the desired one, so an interface that is not configured owns none. -/
theorem no_orphan_route_when_unspoiled (ops : NetworkControlPlaneOps W)
    (hclear : ops.available .clearDefaultRoute = true)
    (hset : ops.available .setDefaultRoute = true) {s t : Run W}
    (hreach : Reachable ops (Unspoiled ops) s) (hreconcile : reconcile ops s = .ok () t) :
    NoOrphanRoute t.plane ∧
      (t.plane.staticEth.active = false → t.plane.eth.active = false →
        t.plane.ethRoute.active = false) ∧
      (t.plane.wifi.active = false → t.plane.wifiRoute.active = false) := by
  have hinLine := reconcile_inLine ops (fun _ => trivial) hreach.consistent
    (hreach.inLine hclear hset)
  unfold KeepsRoutes wp at hinLine
  rw [hreconcile] at hinLine
  have hnone := RoutesInLine.noOrphanRoute hinLine
  exact ⟨hnone, hnone.unconfigured⟩

/-- A platform that holds a Wi-Fi lease and can refuse to delete a default route. -/
def stuckRoutePorts : NetworkControlPlaneOps Bool where
  available _ := true
  call
    | .readLease _, stuck => (.ok (some accessPointLease), stuck)
    | .clearDefaultRoute _ _ _, stuck =>
      (if stuck then .error "command failed rc=1" else .ok (), stuck)
    | c, stuck => (c.idleReply, stuck)

/-- Wi-Fi has its lease and its route. -/
def wifiRouted : Run Bool :=
  after (Operation.reconcile.perform stuckRoutePorts)
    (after ((Operation.startDhcp "wlan0").perform stuckRoutePorts) (fresh .standard false))

theorem no_orphan_route_when_unspoiled_wifiRouted :
    NoOrphanRoute (after (reconcile stuckRoutePorts) wifiRouted).plane ∧
      ((after (reconcile stuckRoutePorts) wifiRouted).plane.staticEth.active = false →
        (after (reconcile stuckRoutePorts) wifiRouted).plane.eth.active = false →
        (after (reconcile stuckRoutePorts) wifiRouted).plane.ethRoute.active = false) ∧
      ((after (reconcile stuckRoutePorts) wifiRouted).plane.wifi.active = false →
        (after (reconcile stuckRoutePorts) wifiRouted).plane.wifiRoute.active = false) := by
  refine no_orphan_route_when_unspoiled stuckRoutePorts rfl rfl
    (.perform _ (.perform _ (.fresh _ _) ?_) ?_) (run_of_completes (by decide +kernel))
  · exact unspoiled_of_other _ _ (fun _ => nofun) (fun _ => nofun) fun _ => nofun
  · exact unspoiled_of_other _ _ (fun _ => nofun) (fun _ => nofun) fun _ => nofun

/-- The deletion fails while Wi-Fi is stopped; afterwards the platform is well again. -/
def orphanedRun : Run Bool :=
  { after ((Operation.stopDhcp "wlan0").perform stuckRoutePorts)
      { wifiRouted with world := true } with world := false }

/-- `reconcile` succeeds and the route of the stopped interface stays owned. -/
theorem stopped_wifi_keeps_its_route :
    Reachable stuckRoutePorts (fun _ _ => True) orphanedRun ∧
      wp (reconcile stuckRoutePorts) (fun _ t => t.plane.wifi.active = false ∧
        t.plane.wifiRoute.active = true ∧ t.plane.wifiRoute.route? ≠ t.plane.desiredWifi)
        (fun _ _ => False) orphanedRun := by
  refine ⟨?_, by decide +kernel⟩
  exact .environment _ (.perform _ (.environment _ (.perform _ (.perform _ (.fresh _ _) trivial)
    trivial)) trivial)

end NetworkService.ControlPlane
