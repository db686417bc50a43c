import NetworkService.ControlPlane.Outcomes

/-!
# Interfaces the control plane has nothing to apply to

An interface is idle when its DHCP link is neither managed nor active and, for Ethernet, no
static configuration asks for anything.  As long as no operation names an idle interface it
stays idle, and the passes that look at both interfaces (lease reconciliation, repair, route
application, resolver selection) leave it alone: the only call that can still name it
withdraws a route the service owns there (`IdleSteps.perform`).

`stop_dhcp` makes Wi-Fi idle.  It makes Ethernet idle only if no static configuration is in
force: the static record survives the stop, and the next repair pass or policy change applies
it again.
-/

namespace NetworkService.ControlPlane

open Fallible

/-! ### Idle interfaces -/

/-- There is nothing in the record that a repair or a route pass would apply. -/
def StaticEthernetState.Bare (st : StaticEthernetState) : Prop :=
  st.active = true → st.gateway4 = "" ∧ (st.ip4 = "" ∨ st.netmask4 = "")

structure Idle (p : NetworkControlPlane) (iface : String) : Prop where
  unmanaged : (p.linkFor iface).managedDhcp = false
  inactive : (p.linkFor iface).active = false
  bare : iface = p.names.eth → p.staticEth.Bare

/-- `iface` is idle, and owns a default route only if `owns` says it may. -/
structure Apart (N : IfaceNames) (iface : String) (owns : Bool) (p : NetworkControlPlane) :
    Prop where
  names : p.names = N
  idle : Idle p iface
  unowned : owns = false → (p.ownedRouteFor iface).active = false

/-- The operation is not for `iface`. -/
def Operation.Leaves (N : IfaceNames) (iface : String) : Operation → Prop
  | .startDhcp i | .stopDhcp i | .adoptDhcp i => i ≠ iface
  | .applyEthernetStatic _ _ _ _ _ => N.eth ≠ iface
  | .reconcile | .reconcileChanged | .refreshExternalState | .setRoutePolicy _ => True

theorem Idle.of_config {p q : NetworkControlPlane} {iface : String} (h : Idle p iface)
    (hq : q.config = p.config) : Idle q iface := by
  have hlink : q.linkFor iface = p.linkFor iface := congrArg (·.linkFor iface) hq
  have hnames : q.names = p.names := congrArg (·.names) hq
  have hstatic : q.staticEth = p.staticEth := congrArg (·.staticEth) hq
  refine ⟨?_, ?_, ?_⟩
  · rw [hlink]
    exact h.unmanaged
  · rw [hlink]
    exact h.inactive
  · rw [hnames, hstatic]
    exact h.bare

namespace Apart

variable {N : IfaceNames} {iface : String} {owns : Bool} {p q : NetworkControlPlane}

theorem of_config (h : Apart N iface owns p) (hq : q.config = p.config)
    (howned : owns = false → (q.ownedRouteFor iface).active = false) : Apart N iface owns q :=
  ⟨(congrArg (·.names) hq).trans h.names, h.idle.of_config hq, howned⟩

/-- Assigning an owned route of the other interface, or forgetting one, changes nothing. -/
theorem setOwnedRoute (h : Apart N iface owns p) {i : String} {route : OwnedRouteState}
    (hiface : iface = N.eth ∨ iface = N.wifi) (hi : i = N.eth ∨ i = N.wifi)
    (hroute : i = iface → route.active = false) : Apart N iface owns (p.setOwnedRoute i route) := by
  refine h.of_config NetworkControlPlane.config_setOwnedRoute fun howns => ?_
  by_cases hsame : i = iface
  · rw [← hsame, NetworkControlPlane.ownedRouteFor_setOwnedRoute]
    exact hroute hsame
  · rw [NetworkControlPlane.ownedRouteFor_setOwnedRoute_ne (by rw [h.names]; exact hiface)
      (by rw [h.names]; exact hi) hsame]
    exact h.unowned howns

theorem setLink (h : Apart N iface owns p) {i : String} (hiface : iface = N.eth ∨ iface = N.wifi)
    (hi : i = N.eth ∨ i = N.wifi) (hne : i ≠ iface) (link : LinkState) :
    Apart N iface owns (p.setLink i link) := by
  have hlink : (p.setLink i link).linkFor iface = p.linkFor iface :=
    NetworkControlPlane.linkFor_setLink_ne (by rw [h.names]; exact hiface)
      (by rw [h.names]; exact hi) hne link
  have howned : (p.setLink i link).ownedRouteFor iface = p.ownedRouteFor iface :=
    p.ownedRouteFor_setLink i link
  have hstatic : (p.setLink i link).staticEth = p.staticEth :=
    NetworkControlPlane.setLink_staticEth
  refine ⟨NetworkControlPlane.setLink_names.trans h.names, ⟨?_, ?_, ?_⟩, ?_⟩
  · rw [hlink]
    exact h.idle.unmanaged
  · rw [hlink]
    exact h.idle.inactive
  · rw [NetworkControlPlane.setLink_names, hstatic]
    exact h.idle.bare
  · rw [howned]
    exact h.unowned

/-- The static record is no concern of Wi-Fi. -/
theorem setStatic (h : Apart N iface owns p) (hne : N.eth ≠ iface) (st : StaticEthernetState) :
    Apart N iface owns { p with staticEth := st } := by
  refine ⟨h.names, ⟨h.idle.unmanaged, h.idle.inactive, fun heth => ?_⟩, h.unowned⟩
  exact absurd (heth.trans (congrArg (·.eth) h.names)).symm hne

theorem dropStatic (h : Apart N iface owns p) {i : String} (hne : i ≠ iface) :
    Apart N iface owns (if i = p.names.eth then { p with staticEth := {} } else p) := by
  split
  · next heth =>
    refine h.setStatic (fun hsame => hne ?_) {}
    rw [heth, h.names]
    exact hsame
  · exact h

theorem setPolicy (h : Apart N iface owns p) (policy : RoutePolicy) :
    Apart N iface owns { p with routePolicy := policy } :=
  ⟨h.names, ⟨h.idle.unmanaged, h.idle.inactive, h.idle.bare⟩, h.unowned⟩

end Apart

/-! ### What an operation for the other interface does -/

variable {W α : Type}

/-- The steps of an operation that is not for `iface` go up in `R` while `iface` is apart.  A
call may name `iface` only to withdraw the route recorded for it. -/
structure IdleSteps (ops : NetworkControlPlaneOps W) (N : IfaceNames) (iface : String)
    (owns : Bool) (R : Run W → Run W → Prop) : Prop where
  call : ∀ (c : PortCall) (s : Run W), Apart N iface owns s.plane → c.writesDns = false →
    (c.iface? = some iface →
      (∃ gateway4 metric, c = .clearDefaultRoute iface gateway4 metric) ∧
        (s.plane.ownedRouteFor iface).active = true) → R s (after (invoke ops c) s)
  edit : ∀ (f : NetworkControlPlane → NetworkControlPlane) (s : Run W),
    R s { s with plane := f s.plane }
  recompute : ∀ s : Run W, Apart N iface owns s.plane → R s (after (recomputeDnsLocked ops) s)

/-- Going up in `R` while `iface` is apart. -/
abbrev WhileApart (N : IfaceNames) (iface : String) (owns : Bool) (R : Run W → Run W → Prop) :
    Run W → Run W → Prop := Under (fun s => Apart N iface owns s.plane) R

/-- What is done with the records that were read may rely on them. -/
theorem WhileApart.reading {N : IfaceNames} {iface : String} {owns : Bool}
    {R : Run W → Run W → Prop} {f : NetworkControlPlane → Op W α}
    (hf : ∀ s : Run W, Apart N iface owns s.plane →
      WhileApart N iface owns R s (after (f s.plane) s)) :
    Along (WhileApart N iface owns R) (getPlane >>= f) := fun s hs => hf s hs hs

namespace IdleSteps

variable {ops : NetworkControlPlaneOps W} {N : IfaceNames} {iface : String} {owns : Bool}
  {R : Run W → Run W → Prop} (h : IdleSteps ops N iface owns R)
  (hiface : iface = N.eth ∨ iface = N.wifi)

include h

theorem invoke (c : PortCall) (hdns : c.writesDns = false) (hc : c.iface? ≠ some iface) :
    Along (WhileApart N iface owns R) (invoke ops c) :=
  fun s hs => ⟨hs, h.call c s hs hdns fun hnamed => absurd hnamed hc⟩

/-- A call for the other interface. -/
theorem invokeFor (c : PortCall) {i : String} (hc : c.iface? = some i) (hne : i ≠ iface) :
    Along (WhileApart N iface owns R) (ControlPlane.invoke ops c) := by
  refine h.invoke c ?_ fun hsame => hne (Option.some.inj (hc.symm.trans hsame))
  cases c <;> first | rfl | exact nomatch hc

theorem modify (f : NetworkControlPlane → NetworkControlPlane)
    (hf : ∀ p, Apart N iface owns p → Apart N iface owns (f p)) :
    Along (WhileApart N iface owns R) (modifyPlane f) := fun s hs => ⟨hf _ hs, h.edit f s⟩

theorem recomputeDns : Along (WhileApart N iface owns R) (recomputeDnsLocked ops) := by
  intro s hs
  have hlinks := recomputeDnsLocked_links ops s
  have howned : (after (recomputeDnsLocked ops) s).plane.ownedRouteFor iface =
      s.plane.ownedRouteFor iface := congrArg (·.ownedRouteFor iface) hlinks
  refine ⟨hs.of_config (congrArg (·.config) hlinks) fun howns => ?_, h.recompute s hs⟩
  rw [howned]
  exact hs.unowned howns

include hiface in
theorem setLink (i : String) (hi : i = N.eth ∨ i = N.wifi) (hne : i ≠ iface)
    (f : NetworkControlPlane → LinkState) :
    Along (WhileApart N iface owns R) (modifyPlane fun p => p.setLink i (f p)) :=
  h.modify _ fun p hp => hp.setLink hiface hi hne (f p)

variable [Std.Refl R] [IsTrans (Run W) R]

/-- A call for the other interface whose outcome is ignored. -/
theorem ignored (c : PortCall) {i : String} (hc : c.iface? = some i) (hne : i ≠ iface) :
    Along (WhileApart N iface owns R) (do let _ ← ControlPlane.invoke ops c : Op W Unit) :=
  Along.bind (h.invokeFor c hc hne) fun _ => Along.pure _

theorem repairIpv4 (i : String) (hne : i ≠ iface) (observed : InterfaceSnapshot)
    (ip4 netmask4 : String) :
    Along (WhileApart N iface owns R) (repairIpv4 ops i observed ip4 netmask4) := by
  refine Along.ite (Along.pure _) (Along.ite (Along.pure _) ?_)
  refine Along.bind (Along.require _ _) fun _ => ?_
  exact Along.bind (h.invokeFor (.applyIpv4 i ip4 netmask4) rfl hne) fun r => along_check r

include hiface

/-- Withdrawing either interface's route. -/
theorem clear (i : String) (hi : i = N.eth ∨ i = N.wifi) :
    Along (WhileApart N iface owns R) (clearOwnedRouteLocked ops i) := by
  intro s hs
  have hcall : ∀ r w, (s.plane.ownedRouteFor i).active = true →
      ops.call (clearCall i s) s.world = (r, w) → R s (s.record (clearCall i s) r w) := by
    intro r w hactive hreply
    rw [← after_invoke hreply]
    refine h.call _ s hs rfl fun hnamed => ?_
    obtain rfl := Option.some.inj hnamed
    exact ⟨⟨_, _, rfl⟩, hactive⟩
  rcases clearOwnedRouteLocked_cases ops i s with
    ⟨-, hrun⟩ | ⟨-, -, hrun⟩ | ⟨e, w, hactive, hreply, hrun⟩ | ⟨w, hactive, hreply, hrun⟩
  · rw [after_ok hrun]
    exact ⟨hs, Std.Refl.refl s⟩
  · rw [after_error hrun]
    exact ⟨hs, Std.Refl.refl s⟩
  · rw [after_error hrun]
    exact ⟨hs, hcall _ w hactive hreply⟩
  · rw [after_ok hrun]
    refine ⟨hs.setOwnedRoute hiface hi fun _ => rfl, ?_⟩
    exact IsTrans.trans _ _ _ (hcall _ w hactive hreply) (h.edit (·.setOwnedRoute i {}) _)

theorem ensure (i gateway4 : String) (metric : Int) (hi : i = N.eth ∨ i = N.wifi)
    (hne : i ≠ iface) :
    Along (WhileApart N iface owns R) (ensureOwnedRouteLocked ops i gateway4 metric) := by
  refine Along.ite (h.clear hiface i hi) (Along.bind (Along.require _ _) fun _ => ?_)
  refine Along.bind along_getPlane fun p => ?_
  refine Along.bind (Along.when (h.clear hiface i hi)) fun _ => ?_
  refine Along.bind (h.invokeFor (.setDefaultRoute i gateway4 metric) rfl hne) fun r => ?_
  refine Along.bind (along_check r) fun _ => h.modify _ fun p hp => ?_
  exact hp.setOwnedRoute hiface hi fun hsame => absurd hsame hne

/-- The Ethernet half of route application only withdraws where Ethernet is idle. -/
theorem applyEthernetRoute : Along (WhileApart N iface owns R) (applyEthernetRoute ops) := by
  refine WhileApart.reading fun s hs => ?_
  have hk : s.plane.names.eth = N.eth ∨ s.plane.names.eth = N.wifi := Or.inl (by rw [hs.names])
  by_cases heth : s.plane.names.eth = iface
  · have hstatic : ¬(s.plane.staticEth.active = true ∧ s.plane.routeAllowed s.plane.names.eth ∧
        s.plane.staticEth.gateway4 ≠ "") :=
      fun hc => hc.2.2 (hs.idle.bare heth.symm hc.1).1
    have hlink : ¬(s.plane.eth.active = true ∧ s.plane.routeAllowed s.plane.names.eth ∧
        s.plane.eth.lease.gateway4 ≠ "") := by
      have hinactive := hs.idle.inactive
      rw [← heth, NetworkControlPlane.linkFor_eth] at hinactive
      exact fun hc => Bool.false_ne_true (hinactive.symm.trans hc.1)
    simp only [if_neg hstatic, if_neg hlink]
    exact h.clear hiface _ hk s
  · refine Along.ite (Along.mapError (h.ensure hiface _ _ _ hk heth)) (Along.ite ?_ ?_) s
    · exact Along.mapError (h.ensure hiface _ _ _ hk heth)
    · exact h.clear hiface _ hk

theorem applyWifiRoute : Along (WhileApart N iface owns R) (applyWifiRoute ops) := by
  refine WhileApart.reading fun s hs => ?_
  have hk : s.plane.names.wifi = N.eth ∨ s.plane.names.wifi = N.wifi :=
    Or.inr (by rw [hs.names])
  by_cases hwifi : s.plane.names.wifi = iface
  · have hlink : ¬(s.plane.wifi.active = true ∧ s.plane.routeAllowed s.plane.names.wifi ∧
        s.plane.wifi.lease.gateway4 ≠ "") := by
      have hinactive := hs.idle.inactive
      rw [← hwifi, NetworkControlPlane.linkFor_wifi] at hinactive
      exact fun hc => Bool.false_ne_true (hinactive.symm.trans hc.1)
    simp only [if_neg hlink]
    exact h.clear hiface _ hk s
  · exact Along.ite (Along.mapError (h.ensure hiface _ _ _ hk hwifi)) (h.clear hiface _ hk) s

theorem applyRoutes : Along (WhileApart N iface owns R) (applyRoutesLocked ops) :=
  Along.bind (h.applyEthernetRoute hiface) fun _ => h.applyWifiRoute hiface

theorem repairRoute (i : String) (hi : i = N.eth ∨ i = N.wifi) (hne : i ≠ iface)
    (observed : InterfaceSnapshot) (gateway4 : String) (metric : Int) :
    Along (WhileApart N iface owns R) (repairRoute ops i observed gateway4 metric) := by
  refine Along.bind along_getPlane fun p => Along.ite (Along.pure _) (Along.ite (Along.pure _) ?_)
  exact h.ensure hiface _ _ _ hi hne

theorem repairEthernet (live : NetworkSnapshot) :
    Along (WhileApart N iface owns R) (repairEthernet ops live) := by
  refine WhileApart.reading fun s hs => ?_
  by_cases heth : s.plane.names.eth = iface
  · have hinactive := hs.idle.inactive
    rw [← heth, NetworkControlPlane.linkFor_eth] at hinactive
    by_cases hstatic : s.plane.staticEth.active = true
    · -- a bare record: neither the address nor the route asks for a call
      obtain ⟨hgateway, haddress⟩ := hs.idle.bare heth.symm hstatic
      simp only [if_pos hstatic]
      refine Along.bind_at ?_ fun _ => ?_
      · unfold ControlPlane.repairIpv4
        rw [if_pos (Or.inr haddress)]
        exact Std.Refl.refl s
      · unfold ControlPlane.repairRoute
        refine Along.bind along_getPlane fun p => ?_
        rw [if_pos (Or.inr (Or.inr hgateway))]
        exact Along.pure ()
    · simp only [if_neg hstatic, hinactive, Bool.false_eq_true, false_and, if_false]
      exact Std.Refl.refl s
  · have hk : s.plane.names.eth = N.eth ∨ s.plane.names.eth = N.wifi := Or.inl (by rw [hs.names])
    refine Along.ite (Along.bind (h.repairIpv4 _ heth _ _ _) fun _ => ?_)
      (Along.ite (Along.bind (h.repairIpv4 _ heth _ _ _) fun _ => ?_) (Along.pure _)) s
    · exact h.repairRoute hiface _ hk heth _ _ _
    · exact h.repairRoute hiface _ hk heth _ _ _

theorem repairWifi (live : NetworkSnapshot) :
    Along (WhileApart N iface owns R) (repairWifi ops live) := by
  refine WhileApart.reading fun s hs => ?_
  by_cases hwifi : s.plane.names.wifi = iface
  · have hinactive := hs.idle.inactive
    rw [← hwifi, NetworkControlPlane.linkFor_wifi] at hinactive
    simp only [hinactive, Bool.false_eq_true, false_and, if_false]
    exact Std.Refl.refl s
  · have hk : s.plane.names.wifi = N.eth ∨ s.plane.names.wifi = N.wifi :=
      Or.inr (by rw [hs.names])
    refine Along.ite (Along.bind (h.repairIpv4 _ hwifi _ _ _) fun _ => ?_) (Along.pure _) s
    exact h.repairRoute hiface _ hk hwifi _ _ _

theorem repairOwnedState : Along (WhileApart N iface owns R) (repairOwnedStateLocked ops) := by
  refine Along.ite (Along.bind (h.invoke .snapshot rfl ?_) fun live => ?_) (Along.pure _)
  · exact fun hnone => nomatch hnone
  · exact Along.bind (h.repairEthernet hiface live) fun _ => h.repairWifi hiface live

/-- An unmanaged link is not even read; the other one may do as its lease says. -/
theorem reconcileLink (i : String) (hi : i = N.eth ∨ i = N.wifi) :
    Along (WhileApart N iface owns R) (reconcileLinkLocked ops i) := by
  refine WhileApart.reading fun s hs => ?_
  by_cases hne : i = iface
  · have hunmanaged := hs.idle.unmanaged
    rw [← hne] at hunmanaged
    simp only [hunmanaged, Bool.false_eq_true, if_false]
    exact Std.Refl.refl s
  refine Along.ite (Along.bind (Along.require _ _) fun _ => ?_) (Along.pure _) s
  refine Along.bind (h.invokeFor (.readLease i) rfl hne) fun reply => ?_
  refine Along.bind (along_check reply) fun lease => ?_
  cases lease with
  | none => exact Along.pure _
  | some fact =>
    refine Along.ite (Along.pure _) (Along.ite ?_ ?_)
    · refine Along.bind (Along.bind (h.clear hiface i hi) fun _ => ?_) fun _ => Along.pure _
      refine Along.bind (Along.when ?_) fun _ => h.setLink hiface i hi hne _
      exact Along.bind (h.invokeFor (.clearIpv4 i) rfl hne) fun r => along_check r
    · refine Along.bind (Along.bind (Along.require _ _) fun _ => ?_) fun _ => Along.pure _
      refine Along.bind (Along.require _ _) fun _ => ?_
      refine Along.bind (h.invokeFor (.applyIpv4 i _ _) rfl hne) fun r => ?_
      refine Along.bind (along_check r) fun _ => Along.bind ?_ fun _ => h.setLink hiface i hi hne _
      refine Along.bind along_getPlane fun p => Along.ite ?_ (h.clear hiface i hi)
      exact h.ensure hiface _ _ _ hi hne

theorem reconcileLinks : Along (WhileApart N iface owns R) (reconcileLinks ops) := by
  refine WhileApart.reading fun s hs => ?_
  refine Along.bind (h.reconcileLink hiface _ (Or.inl (by rw [hs.names]))) (fun _ => ?_) s
  refine Along.bind (h.reconcileLink hiface _ (Or.inr (by rw [hs.names]))) fun _ => ?_
  exact Along.pure _

theorem startDhcp (i : String) (hne : i ≠ iface) :
    Along (WhileApart N iface owns R) (startDhcp ops i) := by
  refine WhileApart.reading fun s hs => Along.guard (fun hknown => ?_) s
  have hi : i = N.eth ∨ i = N.wifi := by
    simpa only [NetworkControlPlane.knownIface, hs.names, decide_eq_true_eq] using hknown
  refine Along.bind (Along.require _ _) fun _ => Along.bind (h.clear hiface i hi) fun _ => ?_
  refine Along.bind (h.invokeFor (.stopDhcp i) rfl hne) fun _ => ?_
  refine Along.bind (h.invokeFor (.clearLease i) rfl hne) fun _ => ?_
  refine Along.bind (Along.when (h.ignored (.clearIpv4 i) rfl hne)) fun _ => ?_
  refine Along.bind (h.setLink hiface i hi hne _) fun _ => ?_
  refine Along.bind (h.modify _ fun p hp => hp.dropStatic hne) fun _ => ?_
  refine Along.bind h.recomputeDns fun _ => ?_
  refine Along.bind (h.invokeFor (.startDhcp i) rfl hne) fun r => ?_
  exact Along.bind (along_check r) fun _ => h.setLink hiface i hi hne _

theorem stopDhcp (i : String) (hne : i ≠ iface) :
    Along (WhileApart N iface owns R) (stopDhcp ops i) := by
  refine WhileApart.reading fun s hs => Along.split (fun hknown => ?_) (fun _ => Along.pure _) s
  have hi : i = N.eth ∨ i = N.wifi := by
    simpa only [NetworkControlPlane.knownIface, hs.names, decide_eq_true_eq] using hknown
  refine Along.bind (Along.attempt (h.clear hiface i hi)) fun _ => ?_
  refine Along.bind (Along.when (h.ignored (.stopDhcp i) rfl hne)) fun _ => ?_
  refine Along.bind (Along.when (h.ignored (.clearLease i) rfl hne)) fun _ => ?_
  refine Along.bind (Along.when (h.ignored (.clearIpv4 i) rfl hne)) fun _ => ?_
  refine Along.bind (h.setLink hiface i hi hne _) fun _ => ?_
  exact Along.bind (Along.attempt h.recomputeDns) fun _ => Along.pure _

theorem adoptDhcp (i : String) (hne : i ≠ iface) :
    Along (WhileApart N iface owns R) (adoptDhcp ops i) := by
  refine WhileApart.reading fun s hs => Along.guard (fun hknown => ?_) s
  have hi : i = N.eth ∨ i = N.wifi := by
    simpa only [NetworkControlPlane.knownIface, hs.names, decide_eq_true_eq] using hknown
  refine Along.bind (Along.require _ _) fun _ => ?_
  refine Along.bind (h.setLink hiface i hi hne _) fun _ => ?_
  refine Along.bind (h.modify _ fun p hp => ?_) fun _ => ?_
  · exact hp.setOwnedRoute hiface hi fun hsame => absurd hsame hne
  · exact h.modify _ fun p hp => hp.dropStatic hne

theorem applyEthernetStatic (hne : N.eth ≠ iface) (ip4 netmask4 gateway4 dns4 : String)
    (manualMetric : Int) :
    Along (WhileApart N iface owns R)
      (applyEthernetStatic ops ip4 netmask4 gateway4 dns4 manualMetric) := by
  refine Along.bind (Along.require _ _) fun _ => WhileApart.reading fun s hs => ?_
  rw [hs.names]
  refine Along.bind (h.clear hiface _ (Or.inl rfl)) (fun _ => ?_) s
  refine Along.bind (h.invokeFor (.stopDhcp N.eth) rfl hne) fun _ => ?_
  refine Along.bind (h.invokeFor (.clearLease N.eth) rfl hne) fun _ => ?_
  refine Along.bind (h.modify _ fun p hp => ?_) fun _ => ?_
  · have hlink := hp.setLink (i := p.names.eth) hiface (Or.inl (by rw [hp.names]))
      (by rw [hp.names]; exact hne) {}
    rw [NetworkControlPlane.setLink_eth] at hlink
    exact hlink.setStatic hne {}
  refine Along.bind (h.invokeFor (.applyIpv4 N.eth ip4 netmask4) rfl hne) fun r => ?_
  refine Along.bind (along_check r) fun _ => ?_
  refine Along.bind (h.modify _ fun p hp => hp.setStatic hne _) fun _ => ?_
  exact Along.bind (h.applyRoutes hiface) fun _ => h.recomputeDns

theorem refreshExternalState :
    Along (WhileApart N iface owns R) (refreshExternalState ops) :=
  Along.bind (h.repairOwnedState hiface) fun _ => h.recomputeDns

theorem reconcileChanged : Along (WhileApart N iface owns R) (reconcileChanged ops) := by
  refine Along.bind (Along.attempt (h.reconcileLinks hiface)) fun links => ?_
  cases links with
  | error e => exact Along.pure _
  | ok changed =>
    refine Along.bind along_getPlane fun p => Along.ite ?_ (Along.pure _)
    exact Along.bind (Along.attempt h.recomputeDns) fun _ => Along.pure _

theorem setRoutePolicy (policy : RoutePolicy) :
    Along (WhileApart N iface owns R) (setRoutePolicy ops policy) := by
  refine Along.bind along_getPlane fun p => ?_
  refine Along.bind (h.modify _ fun p hp => hp.setPolicy policy) fun _ => ?_
  refine Along.bind (Along.attempt (Along.bind (h.applyRoutes hiface) fun _ => h.recomputeDns))
    fun outcome => ?_
  cases outcome with
  | ok _ => exact Along.pure _
  | error failure =>
    refine Along.bind (h.modify _ fun q hq => hq.setPolicy p.routePolicy) fun _ => ?_
    refine Along.bind (Along.attempt (h.applyRoutes hiface)) fun _ => ?_
    exact Along.bind (Along.attempt h.recomputeDns) fun _ => Along.throw failure

/-- **An operation for the other interface leaves an idle one alone.** -/
theorem perform (op : Operation) (hop : op.Leaves N iface) :
    Along (WhileApart N iface owns R) (op.perform ops) := by
  cases op with
  | startDhcp i => exact h.startDhcp hiface i hop
  | stopDhcp i => exact h.stopDhcp hiface i hop
  | adoptDhcp i => exact h.adoptDhcp hiface i hop
  | applyEthernetStatic ip4 netmask4 gateway4 dns4 manualMetric =>
    exact h.applyEthernetStatic hiface hop ip4 netmask4 gateway4 dns4 manualMetric
  | reconcile =>
    exact Along.bind (h.reconcileLinks hiface) fun _ => h.refreshExternalState hiface
  | reconcileChanged => exact Along.bind (h.reconcileChanged hiface) fun _ => along_check _
  | refreshExternalState => exact h.refreshExternalState hiface
  | setRoutePolicy policy => exact h.setRoutePolicy hiface policy

end IdleSteps

/-! ### Whole runs -/

/-- `t` comes after `s`: operations from `allowed`, and a platform that may change on its own
between them. -/
inductive Later (ops : NetworkControlPlaneOps W) (allowed : Operation → Prop) (s : Run W) :
    Run W → Prop
  | refl : Later ops allowed s s
  | perform {t : Run W} (op : Operation) :
      Later ops allowed s t → allowed op → Later ops allowed s (after (op.perform ops) t)
  | environment {t : Run W} (w : W) : Later ops allowed s t → Later ops allowed s { t with world := w }

theorem Later.of_steps {ops : NetworkControlPlaneOps W} {N : IfaceNames} {iface : String}
    {owns : Bool} {R : Run W → Run W → Prop} [Std.Refl R] [IsTrans (Run W) R]
    (h : IdleSteps ops N iface owns R) (hiface : iface = N.eth ∨ iface = N.wifi)
    (hworld : ∀ (s : Run W) (w : W), R s { s with world := w }) {s t : Run W}
    (hlater : Later ops (·.Leaves N iface) s t) (hs : Apart N iface owns s.plane) :
    Apart N iface owns t.plane ∧ R s t := by
  induction hlater with
  | refl => exact ⟨hs, Std.Refl.refl s⟩
  | perform op _ hop ih =>
    obtain ⟨hapart, hR⟩ := h.perform hiface op hop _ ih.1
    exact ⟨hapart, IsTrans.trans _ _ _ ih.2 hR⟩
  | environment w _ ih => exact ⟨ih.1, IsTrans.trans _ _ _ ih.2 (hworld _ w)⟩

/-- A call issued while `iface` is apart, which names it only to withdraw its route. -/
def PortEvent.Spares (N : IfaceNames) (iface : String) (owns : Bool) (e : PortEvent) : Prop :=
  Apart N iface owns e.plane ∧
    (e.call.iface? = some iface →
      (∃ gateway4 metric, e.call = .clearDefaultRoute iface gateway4 metric) ∧
        (e.plane.ownedRouteFor iface).active = true)

/-- Every call of such an operation spares `iface`. -/
theorem sparingSteps (ops : NetworkControlPlaneOps W) (N : IfaceNames) (iface : String)
    (owns : Bool) : IdleSteps ops N iface owns (LogGrows (PortEvent.Spares N iface owns)) where
  call c s hs _ hnamed := LogGrows.record ⟨hs, hnamed⟩
  edit f s := ⟨[], rfl, List.forall_mem_nil _⟩
  recompute s hs := by
    have hsteps : DnsSteps ops
        (WhileApart N iface owns (LogGrows (PortEvent.Spares N iface owns))) := by
      refine ⟨fun c hc t ht => ⟨ht, LogGrows.record ⟨ht, fun hnamed => ?_⟩⟩, fun f hf t ht => ?_⟩
      · have hnone : c.iface? = none := by
          cases c <;> first | rfl | cases hc
        cases hnone.symm.trans hnamed
      · refine ⟨?_, [], rfl, List.forall_mem_nil _⟩
        cases hf <;>
          exact ⟨ht.names, ⟨ht.idle.unmanaged, ht.idle.inactive, ht.idle.bare⟩, ht.unowned⟩
    exact (hsteps.recomputeDns s hs).2

/-- Idle Ethernet has no route that a nameserver could go with. -/
theorem Idle.ethernet_unrouted {p : NetworkControlPlane} {iface : String} (h : Idle p iface)
    (heth : iface = p.names.eth) : p.staticEthRoute = false ∧ p.dhcpEthRoute = false := by
  have hinactive := h.inactive
  rw [heth, NetworkControlPlane.linkFor_eth] at hinactive
  have hbare := h.bare heth
  refine ⟨?_, by simp [NetworkControlPlane.dhcpEthRoute, hinactive]⟩
  unfold NetworkControlPlane.staticEthRoute
  exact decide_eq_false fun hc => hc.2.2 (hbare hc.1).1

/-- The resolver is never chosen from an idle interface. -/
theorem Idle.dnsSource_ne {p : NetworkControlPlane} {iface : String} (h : Idle p iface)
    (hiface : iface = p.names.eth ∨ iface = p.names.wifi) (ethLive : Bool) :
    p.dnsSource ethLive ≠ some iface := by
  have hwifi : ∀ hi : iface = p.names.wifi, p.dhcpWifiRoute = false := by
    rintro rfl
    have hinactive := h.inactive
    rw [NetworkControlPlane.linkFor_wifi] at hinactive
    simp [NetworkControlPlane.dhcpWifiRoute, hinactive]
  have heth : ∀ hi : iface = p.names.eth, p.ethDnsUsable = false := fun hi => by
    simp [NetworkControlPlane.ethDnsUsable, h.ethernet_unrouted hi]
  have hdistinct := p.names.distinct
  rcases hiface with rfl | rfl
  · have hunusable := heth rfl
    unfold NetworkControlPlane.dnsSource
    cases p.routePolicy <;> dsimp only <;> grind
  · have hunrouted := hwifi rfl
    have hunusable : p.wifiDnsUsable = false := by
      simp [NetworkControlPlane.wifiDnsUsable, hunrouted]
    unfold NetworkControlPlane.dnsSource
    cases p.routePolicy <;> dsimp only <;> grind

/-! ### After a stop -/

/-- The call brings `iface` back: it applies an address or a default route there, or writes a
nameserver that was selected from it. -/
def PortEvent.Restores (iface : String) (e : PortEvent) : Prop :=
  match e.call with
  | .applyIpv4 i _ _ => i = iface
  | .setDefaultRoute i _ _ => i = iface
  | .setDns _ => ∃ ethLive, e.plane.dnsSource ethLive = some iface
  | _ => False

theorem PortEvent.Spares.not_restores {N : IfaceNames} {iface : String} {owns : Bool}
    {e : PortEvent} (h : e.Spares N iface owns) (hiface : iface = N.eth ∨ iface = N.wifi) :
    ¬e.Restores iface := by
  intro hrestores
  unfold PortEvent.Restores at hrestores
  have hnamed := h.2
  cases hcall : e.call with
  | applyIpv4 i ip4 netmask4 =>
    rw [hcall] at hrestores hnamed
    obtain ⟨⟨_, _, hclear⟩, -⟩ := hnamed (congrArg some hrestores)
    exact nomatch hclear
  | setDefaultRoute i gateway4 metric =>
    rw [hcall] at hrestores hnamed
    obtain ⟨⟨_, _, hclear⟩, -⟩ := hnamed (congrArg some hrestores)
    exact nomatch hclear
  | setDns dns4 =>
    rw [hcall] at hrestores
    obtain ⟨ethLive, hsource⟩ := hrestores
    exact h.1.idle.dnsSource_ne (by rw [h.1.names]; exact hiface) ethLive hsource
  | startDhcp i | stopDhcp i | readLease i | clearLease i | clearIpv4 i
  | clearDefaultRoute i _ _ | clearDns | snapshot => rw [hcall] at hrestores; exact hrestores

/-- A stop makes the interface idle, unless a static Ethernet configuration survives it. -/
theorem stopDhcp_apart (ops : NetworkControlPlaneOps W) {s : Run W} {iface : String}
    (hknown : s.plane.knownIface iface = true)
    (hbare : iface = s.plane.names.eth → s.plane.staticEth.Bare) :
    Apart s.plane.names iface true (after (stopDhcp ops iface) s).plane := by
  refine after_of_wp (I := fun t : Run W => Apart s.plane.names iface true t.plane)
    (stopDhcp_leaves ops (fun _ p t hp ht => ?_) fun hunknown => ?_)
  · have hconfig : p.config = s.plane.config := by
      rcases hp with rfl | ⟨-, rfl⟩
      · exact NetworkControlPlane.config_withdraw _ _
      · rfl
    have hpnames : p.names = s.plane.names := congrArg (·.names) hconfig
    have hlink : t.plane.linkFor iface = {} :=
      (congrArg (·.linkFor iface) ht).trans NetworkControlPlane.linkFor_setLink
    have hnames : t.plane.names = s.plane.names :=
      ((congrArg (·.names) ht).trans NetworkControlPlane.setLink_names).trans hpnames
    have hstatic : t.plane.staticEth = s.plane.staticEth := by
      have hkept : (p.setLink iface {}).links.staticEth = p.staticEth :=
        NetworkControlPlane.setLink_staticEth
      exact (congrArg (·.staticEth) ht).trans (hkept.trans (congrArg (·.staticEth) hconfig))
    refine ⟨hnames, ⟨by rw [hlink], by rw [hlink], ?_⟩, fun howns => nomatch howns⟩
    rw [hnames, hstatic]
    exact hbare
  · exact nomatch hknown.symm.trans hunknown

/-- **A stop is final for Wi-Fi, and for Ethernet without a static configuration.**  In every
run that follows `stop_dhcp(iface)` and does not start, adopt or configure `iface` again, no
address and no default route is applied to it and its nameserver is never selected. -/
theorem stop_is_final (ops : NetworkControlPlaneOps W) {s t : Run W} {iface : String}
    (hknown : s.plane.knownIface iface = true)
    (hbare : iface = s.plane.names.eth → s.plane.staticEth.Bare)
    (hlater : Later ops (·.Leaves s.plane.names iface) (after (stopDhcp ops iface) s) t) :
    LogGrows (fun e => ¬e.Restores iface) (after (stopDhcp ops iface) s) t ∧
      ∀ ethLive, t.plane.dnsSource ethLive ≠ some iface := by
  have hiface := NetworkControlPlane.knownIface_iff.mp hknown
  have hstopped := stopDhcp_apart ops hknown hbare
  obtain ⟨hapart, added, hlog, hadded⟩ :=
    hlater.of_steps (sparingSteps ops _ iface true) hiface
      (fun _ _ => ⟨[], rfl, List.forall_mem_nil _⟩) hstopped
  refine ⟨⟨added, hlog, fun e he => (hadded e he).not_restores hiface⟩, fun ethLive => ?_⟩
  exact hapart.idle.dnsSource_ne (by rw [hapart.names]; exact hiface) ethLive

/-- A platform on which both devices exist and neither has an address. -/
def unaddressedPorts : NetworkControlPlaneOps Unit where
  available _ := true
  call
    | .snapshot, w =>
      ({ eth := { present := true }, wifi := { present := true } }, w)
    | c, w => (c.idleReply, w)

/-- Static Ethernet is configured, then Ethernet is stopped. -/
def staticRun : Run Unit :=
  after ((Operation.applyEthernetStatic "192.168.50.20" "255.255.255.0" "192.168.50.1"
    "1.1.1.1" 10).perform unaddressedPorts) (fresh .standard ())

def staticStopped : Run Unit := after (stopDhcp unaddressedPorts "eth0") staticRun

/-- Both devices exist, and the client on Wi-Fi gets a lease. -/
def leasedPorts : NetworkControlPlaneOps Unit where
  available _ := true
  call
    | .snapshot, w =>
      ({ eth := { present := true }, wifi := { present := true } }, w)
    | .readLease _, w => (.ok (some accessPointLease), w)
    | c, w => (c.idleReply, w)

/-- Wi-Fi is started and its lease is taken up. -/
def boundRun : Run Unit :=
  after (Operation.reconcile.perform leasedPorts)
    (after ((Operation.startDhcp "wlan0").perform leasedPorts) (fresh .standard ()))

def wifiStopped : Run Unit := after (stopDhcp leasedPorts "wlan0") boundRun

/-- The policy is changed after the stop, and the next pass repairs what it finds. -/
def laterRun : Run Unit :=
  after (Operation.refreshExternalState.perform leasedPorts)
    (after ((Operation.setRoutePolicy .wifiOnly).perform leasedPorts) wifiStopped)

theorem stop_is_final_wifi :
    boundRun.plane.wifi.active = true ∧ boundRun.plane.dnsSource false = some "wlan0" ∧
    LogGrows (fun e => ¬e.Restores "wlan0") wifiStopped laterRun ∧
      ∀ ethLive, laterRun.plane.dnsSource ethLive ≠ some "wlan0" := by
  have hnames : boundRun.plane.names = .standard := by decide +kernel
  refine ⟨by decide +kernel, by decide +kernel, ?_⟩
  refine stop_is_final leasedPorts ?_ ?_ (.perform _ (.perform _ .refl trivial) trivial)
  · decide +kernel
  · rw [hnames]
    exact fun heth => absurd heth (by decide)

/-- Every call of the stop succeeds, and the next repair pass puts the address back. -/
theorem stop_leaves_static_ethernet :
    Reachable unaddressedPorts (fun _ _ => True) staticRun ∧
      (staticStopped.log.all fun e => e.ok) = true ∧
      Later unaddressedPorts (·.Leaves staticRun.plane.names "eth0") staticStopped
        (after (Operation.refreshExternalState.perform unaddressedPorts) staticStopped) ∧
      ¬LogGrows (fun e => ¬e.Restores "eth0") staticStopped
        (after (Operation.refreshExternalState.perform unaddressedPorts) staticStopped) := by
  refine ⟨.perform _ (.fresh _ _) trivial, by decide +kernel, .perform _ .refl trivial, ?_⟩
  rintro ⟨added, hlog, hadded⟩
  have hrepaired : ((after (Operation.refreshExternalState.perform unaddressedPorts)
      staticStopped).log.any fun e =>
        e.call = .applyIpv4 "eth0" "192.168.50.20" "255.255.255.0" ∧
          e ∉ staticStopped.log) = true := by decide +kernel
  obtain ⟨e, he, hcall⟩ := List.any_eq_true.mp hrepaired
  obtain ⟨happlied, hnew⟩ := of_decide_eq_true hcall
  rw [hlog] at he
  refine hadded e ((List.mem_append.mp he).resolve_right hnew) ?_
  unfold PortEvent.Restores
  rw [happlied]

end NetworkService.ControlPlane
