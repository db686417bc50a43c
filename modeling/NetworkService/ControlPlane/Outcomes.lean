import NetworkService.ControlPlane.Records

/-!
# What each function leaves behind on a platform that may fail

Every port call may fail at any time.  For the functions the operations are made of, this file
says which records they leave at their normal end and which at an early return.  What a failed
`clear_owned_route_locked` leaves is what it found; a failed `ensure_owned_route_locked` leaves
what it found or, when the old route was already withdrawn, no route.
-/

namespace NetworkService.ControlPlane

open Fallible

variable {W : Type} (ops : NetworkControlPlaneOps W) {s : Run W} {Q : Unit → Run W → Prop}
  {E : String → Run W → Prop}

namespace NetworkControlPlane

variable {p : NetworkControlPlane} {iface : String}

theorem withdraw_of_inactive (h : (p.ownedRouteFor iface).active = false) :
    p.withdraw iface = p := by
  unfold withdraw
  rw [if_neg (by rw [h]; exact Bool.false_ne_true)]

theorem withdraw_of_active (h : (p.ownedRouteFor iface).active = true) :
    p.withdraw iface = p.setOwnedRoute iface {} := by
  unfold withdraw
  rw [if_pos h]

end NetworkControlPlane

/-- Some port is missing or some call fails. -/
def NetworkControlPlaneOps.MayFail (ops : NetworkControlPlaneOps W) : Prop :=
  (∃ port, ops.available port = false) ∨
    ∃ (c : PortCall) (w : W), c.succeeded (ops.call c w).1 = false

/-! ### Ports -/

theorem require_leaves {port : Port} {e : String} (hQ : ops.available port = true → Q () s)
    (hE : ops.MayFail → E e s) : wp (require (ops.available port) e) Q E s := by
  rw [wp_require]
  cases havail : ops.available port with
  | true => exact hQ havail
  | false => exact hE (Or.inl ⟨port, havail⟩)

theorem applyIpv4_leaves {iface ip4 netmask4 : String}
    (hQ : ∀ t : Run W, t.plane = s.plane → Q () t)
    (hE : ops.MayFail → ∀ e t, t.plane = s.plane → E e t) :
    wp (do check (← invoke ops (.applyIpv4 iface ip4 netmask4))) Q E s := by
  rw [wp_bind]
  refine wp_invoke.mpr (wp_check.mpr ⟨fun _ _ => hQ _ rfl, fun e herror => ?_⟩)
  refine hE (Or.inr ⟨.applyIpv4 iface ip4 netmask4, s.world, ?_⟩) e _ rfl
  show Except.isOk _ = false
  rw [herror]
  rfl

/-- A call whose outcome is ignored. -/
theorem ignoredCall_leaves {c : Prop} [Decidable c] {call : PortCall}
    (hQ : ∀ t : Run W, t.plane = s.plane → Q () t) :
    wp (when c do let _ ← invoke ops call) Q E s := by
  rw [wp_when]
  split
  · rw [wp_bind]
    exact wp_invoke.mpr (hQ _ rfl)
  · exact hQ s rfl

/-! ### Owned routes -/

theorem clearOwnedRouteLocked_leaves {iface : String}
    (hQ : ∀ t : Run W, t.plane = s.plane.withdraw iface → Q () t)
    (hE : ops.MayFail → ∀ e t, t.plane = s.plane → E e t) :
    wp (clearOwnedRouteLocked ops iface) Q E s := by
  unfold wp
  rcases clearOwnedRouteLocked_cases ops iface s with
    ⟨hinactive, hrun⟩ | ⟨-, havail, hrun⟩ | ⟨e, w, -, hcall, hrun⟩ | ⟨w, hactive, -, hrun⟩
  · rw [hrun]
    exact hQ s (NetworkControlPlane.withdraw_of_inactive hinactive).symm
  · rw [hrun]
    exact hE (Or.inl ⟨_, havail⟩) _ s rfl
  · rw [hrun]
    refine hE (Or.inr ⟨clearCall iface s, s.world, ?_⟩) e _ rfl
    rw [hcall]
    rfl
  · rw [hrun]
    exact hQ _ (NetworkControlPlane.withdraw_of_active hactive).symm

theorem ensureOwnedRouteLocked_leaves {iface gateway4 : String} {metric : Int}
    (hgw : gateway4 ≠ "")
    (hQ : ∀ t : Run W, t.plane = s.plane.setOwnedRoute iface ⟨true, gateway4, metric⟩ → Q () t)
    (hE : ops.MayFail → ∀ e t, t.plane = s.plane ∨ t.plane = s.plane.withdraw iface → E e t) :
    wp (ensureOwnedRouteLocked ops iface gateway4 metric) Q E s := by
  -- the set call, from the records it finds after the withdrawal
  have hset : ∀ t : Run W, t.plane = s.plane ∨ t.plane = s.plane.withdraw iface →
      wp (do
        check (← invoke ops (.setDefaultRoute iface gateway4 metric))
        modifyPlane fun p => p.setOwnedRoute iface ⟨true, gateway4, metric⟩) Q E t := by
    intro t ht
    rw [wp_bind]
    refine wp_invoke.mpr ?_
    rw [wp_bind, wp_check]
    refine ⟨fun _ _ => hQ _ ?_, fun e herror => ?_⟩
    · rcases ht with ht | ht
      · show t.plane.setOwnedRoute _ _ = _
        rw [ht]
      · show t.plane.setOwnedRoute _ _ = _
        rw [ht, NetworkControlPlane.setOwnedRoute_withdraw]
    · refine hE (Or.inr ⟨.setDefaultRoute iface gateway4 metric, t.world, ?_⟩) e _ ht
      show Except.isOk _ = false
      rw [herror]
      rfl
  unfold ensureOwnedRouteLocked
  rw [if_neg hgw, wp_bind]
  refine require_leaves ops (fun _ => ?_) fun hfail => hE hfail _ s (Or.inl rfl)
  rw [wp_bind, wp_getPlane, wp_bind, wp_when]
  split
  · exact clearOwnedRouteLocked_leaves ops (fun t ht => hset t (Or.inr ht))
      fun hfail e t ht => hE hfail e t (Or.inl ht)
  · exact hset s (Or.inl rfl)

/-! ### A DNS pass -/

theorem releaseDns_stopsOnly : StopsOnly ops.MayFail (releaseDns ops) := by
  refine .bind (fun _ => trivial) fun p => .ite ?_ (.pure _)
  refine .bind (.require fun havail => Or.inl ⟨_, havail⟩) fun _ s => ?_
  rw [wp_bind]
  refine wp_invoke.mpr ?_
  rw [wp_bind]
  refine wp_check.mpr ⟨fun _ _ => trivial, fun e herror => Or.inr ⟨.clearDns, s.world, ?_⟩⟩
  show Except.isOk _ = false
  rw [herror]
  rfl

theorem loadLive_stopsOnly (live : Option NetworkSnapshot) :
    StopsOnly ops.MayFail (loadLive ops live) := by
  cases live with
  | none => exact fun _ => trivial
  | some current => exact .pure current

theorem applyDns_stopsOnly (decision : DnsDecision) (live : Option NetworkSnapshot) :
    StopsOnly ops.MayFail (applyDns ops decision live) := by
  cases decision with
  | preserveExternal => exact releaseDns_stopsOnly ops
  | select dns4 =>
    refine .ite (releaseDns_stopsOnly ops) (.bind ?_ fun applied => .ite (.pure _) ?_)
    · refine .bind (fun _ => trivial) fun p => .ite (.ite ?_ (.pure _)) (.pure _)
      exact .bind (loadLive_stopsOnly ops live) fun _ => .pure _
    · refine .bind (.require fun havail => Or.inl ⟨_, havail⟩) fun _ s => ?_
      rw [wp_bind]
      refine wp_invoke.mpr ?_
      rw [wp_bind]
      refine wp_check.mpr ⟨fun _ _ => trivial, fun e herror => Or.inr ⟨.setDns dns4, s.world, ?_⟩⟩
      show Except.isOk _ = false
      rw [herror]
      rfl

theorem recomputeDnsLocked_stopsOnly : StopsOnly ops.MayFail (recomputeDnsLocked ops) := by
  refine .bind ?_ fun live => .bind ?_ fun choice => applyDns_stopsOnly ops _ _
  · refine .bind (fun _ => trivial) fun p => .ite (.pure _) (.ite ?_ ?_)
    · exact .bind (fun _ => trivial) fun current => .bind (fun _ => trivial) fun _ => .pure _
    · exact .bind (fun _ => trivial) fun _ => .pure _
  · refine .bind (fun _ => trivial) fun p => .ite ?_ (.pure _)
    exact .bind (loadLive_stopsOnly ops live) fun _ => .pure _

/-- A DNS pass touches nothing but the resolver records, also when it stops early. -/
theorem recomputeDnsLocked_leaves (hQ : ∀ t : Run W, t.plane.links = s.plane.links → Q () t)
    (hE : ops.MayFail → ∀ e t, t.plane.links = s.plane.links → E e t) :
    wp (recomputeDnsLocked ops) Q E s := by
  have hframe : Along (Framing fun t : Run W => t.plane.links) (recomputeDnsLocked ops) :=
    recomputeDnsLocked_links ops
  have hlinks := wp_of_after (I := fun t : Run W => t.plane.links = s.plane.links) (hframe s)
  exact wp_mono (wp_and hlinks (recomputeDnsLocked_stopsOnly ops s)) (fun _ t ht => hQ t ht.1)
    fun e t ht => hE ht.2 e t ht.1

/-! ### Lease reconciliation -/

theorem deconfigureLink_leaves {iface : String} {fact : DhcpLeaseFact}
    (hQ : ∀ t : Run W, t.plane = (s.plane.withdraw iface).setLink iface
      { s.plane.linkFor iface with
        active := false, lease := fact, fingerprint := fact.fingerprint } → Q () t)
    (hE : ops.MayFail → ∀ e t, t.plane = s.plane ∨ t.plane = s.plane.withdraw iface → E e t) :
    wp (deconfigureLink ops iface fact) Q E s := by
  have hkeep : ∀ t : Run W, t.plane = s.plane.withdraw iface →
      wp (modifyPlane fun p => p.setLink iface
        { p.linkFor iface with
          active := false, lease := fact, fingerprint := fact.fingerprint }) Q E t := by
    intro t ht
    refine hQ _ ?_
    dsimp only
    rw [ht, NetworkControlPlane.linkFor_withdraw]
  unfold deconfigureLink
  rw [wp_bind]
  refine clearOwnedRouteLocked_leaves ops (fun t ht => ?_) fun hfail e t ht =>
    hE hfail e t (Or.inl ht)
  rw [wp_bind, wp_when]
  split
  · rw [wp_bind]
    refine wp_invoke.mpr (wp_check.mpr ⟨fun _ _ => hkeep _ ht, fun e herror => ?_⟩)
    refine hE (Or.inr ⟨.clearIpv4 iface, t.world, ?_⟩) e _ (Or.inr ht)
    show Except.isOk _ = false
    rw [herror]
    rfl
  · exact hkeep t ht

theorem applyLeaseRoute_leaves {iface : String} {fact : DhcpLeaseFact}
    (hQ : ∀ t : Run W, t.plane = s.plane.leaseRouted iface fact → Q () t)
    (hE : ops.MayFail → ∀ e t, t.plane = s.plane ∨ t.plane = s.plane.withdraw iface → E e t) :
    wp (applyLeaseRoute ops iface fact) Q E s := by
  unfold applyLeaseRoute
  rw [wp_bind, wp_getPlane, wp_ite]
  split
  · next hroute =>
    exact ensureOwnedRouteLocked_leaves ops hroute.2
      (fun t ht => hQ t (ht.trans (if_pos hroute).symm)) hE
  · next hroute =>
    exact clearOwnedRouteLocked_leaves ops (fun t ht => hQ t (ht.trans (if_neg hroute).symm))
      fun hfail e t ht => hE hfail e t (Or.inl ht)

theorem configureLink_leaves {iface : String} {fact : DhcpLeaseFact}
    (hQ : fact.configured = true → ∀ t : Run W,
      t.plane = (s.plane.leaseRouted iface fact).setLink iface
        { s.plane.linkFor iface with
          active := true, lease := fact, fingerprint := fact.fingerprint } → Q () t)
    (hrefused : ∀ e, E e s)
    (hE : ops.MayFail → ∀ e t, t.plane = s.plane ∨ t.plane = s.plane.withdraw iface → E e t) :
    wp (configureLink ops iface fact) Q E s := by
  unfold configureLink
  rw [wp_bind, wp_require]
  split
  · next hfact =>
    rw [wp_bind]
    refine require_leaves ops (fun _ => ?_) fun hfail => hE hfail _ s (Or.inl rfl)
    rw [wp_bind]
    refine wp_invoke.mpr ?_
    rw [wp_bind, wp_check]
    refine ⟨fun _ _ => ?_, fun e herror => ?_⟩
    · rw [wp_bind]
      refine applyLeaseRoute_leaves ops (fun t ht => hQ hfact _ ?_) fun hfail e t ht => hE hfail e t ht
      dsimp only
      rw [ht, record_plane, NetworkControlPlane.linkFor_leaseRouted]
    · refine hE (Or.inr ⟨.applyIpv4 iface fact.ip4 fact.netmask4, s.world, ?_⟩) e _ (Or.inl rfl)
      show Except.isOk _ = false
      rw [herror]
      rfl
  · exact hrefused _

/-- One link pass: nothing new, a `deconfig` fact, a fact to apply, or an early return. -/
theorem reconcileLinkLocked_leaves {iface : String} {Q : Bool → Run W → Prop}
    (hsame : ∀ t : Run W, t.plane = s.plane → Q false t)
    (hdeconfig : (s.plane.linkFor iface).managedDhcp = true → ∀ (fact : DhcpLeaseFact) (t : Run W),
      t.plane = (s.plane.withdraw iface).setLink iface
        { s.plane.linkFor iface with
          active := false, lease := fact, fingerprint := fact.fingerprint } → Q true t)
    (hconfigure : (s.plane.linkFor iface).managedDhcp = true → ∀ (fact : DhcpLeaseFact) (t : Run W),
      fact.configured = true → t.plane = (s.plane.leaseRouted iface fact).setLink iface
        { s.plane.linkFor iface with
          active := true, lease := fact, fingerprint := fact.fingerprint } → Q true t)
    (hrefused : ∀ e (t : Run W), t.plane = s.plane → E e t)
    (hE : ops.MayFail → ∀ e t, t.plane = s.plane ∨ t.plane = s.plane.withdraw iface → E e t) :
    wp (reconcileLinkLocked ops iface) Q E s := by
  unfold reconcileLinkLocked
  rw [wp_bind, wp_getPlane, wp_ite]
  split
  · next hmanaged =>
    rw [wp_bind]
    refine require_leaves ops (fun _ => ?_) fun _ => hrefused _ s rfl
    rw [wp_bind]
    refine wp_invoke.mpr ?_
    rw [wp_bind, wp_check]
    refine ⟨fun lease _ => ?_, fun e _ => hrefused e _ rfl⟩
    cases lease with
    | none => exact hsame _ rfl
    | some fact =>
      refine wp_split (fun _ => hsame _ rfl) fun _ => wp_split (fun _ => ?_) fun _ => ?_
      · exact wp_bind.mpr (deconfigureLink_leaves ops (fun t ht => hdeconfig hmanaged fact t ht) hE)
      · exact wp_bind.mpr (configureLink_leaves ops
          (fun hfact t ht => hconfigure hmanaged fact t hfact ht) (fun e => hrefused e _ rfl) hE)
  · exact hsame s rfl

/-! ### Drift repair -/

theorem repairIpv4_leaves {iface ip4 netmask4 : String} {observed : InterfaceSnapshot}
    (hQ : ∀ t : Run W, t.plane = s.plane → Q () t)
    (hE : ops.MayFail → ∀ e t, t.plane = s.plane → E e t) :
    wp (repairIpv4 ops iface observed ip4 netmask4) Q E s := by
  unfold repairIpv4
  rw [wp_ite, wp_ite]
  split
  · exact hQ s rfl
  · split
    · exact hQ s rfl
    · rw [wp_bind]
      exact require_leaves ops (fun _ => applyIpv4_leaves ops hQ hE) fun hfail => hE hfail _ s rfl

theorem repairRoute_leaves {iface gateway4 : String} {metric : Int} {observed : InterfaceSnapshot}
    (hsame : ∀ t : Run W, t.plane = s.plane → Q () t)
    (hset : s.plane.routeAllowed iface = true → gateway4 ≠ "" → ∀ t : Run W,
      t.plane = s.plane.setOwnedRoute iface ⟨true, gateway4, metric⟩ → Q () t)
    (hE : ops.MayFail → ∀ e t, t.plane = s.plane ∨ t.plane = s.plane.withdraw iface → E e t) :
    wp (repairRoute ops iface observed gateway4 metric) Q E s := by
  unfold repairRoute
  rw [wp_bind, wp_getPlane]
  refine wp_split (fun _ => hsame s rfl) fun hneeded => wp_split (fun _ => hsame s rfl) fun _ => ?_
  have hallowed : s.plane.routeAllowed iface = true := by
    by_cases h : s.plane.routeAllowed iface = true
    · exact h
    · exact absurd (Or.inr (Or.inl h)) hneeded
  have hgw : gateway4 ≠ "" := fun h => hneeded (Or.inr (Or.inr h))
  exact ensureOwnedRouteLocked_leaves ops hgw (hset hallowed hgw) hE

/-! ### Starting and stopping a DHCP client -/

/-- `start_dhcp` stops before it has done anything, or with the link forgotten. -/
theorem startDhcp_leaves {iface : String}
    (hQ : s.plane.knownIface iface = true → ∀ t : Run W, t.plane.links =
      (((s.plane.withdraw iface).reset iface).setLink iface { managedDhcp := true }).links →
      Q () t)
    (hunknown : s.plane.knownIface iface = false → ∀ e, E e s)
    (hE : ops.MayFail → ∀ e t, t.plane = s.plane ∨ s.plane.knownIface iface = true ∧
      t.plane.links = ((s.plane.withdraw iface).reset iface).links → E e t) :
    wp (startDhcp ops iface) Q E s := by
  unfold startDhcp
  rw [wp_bind, wp_getPlane, wp_bind, wp_require]
  cases hknown : s.plane.knownIface iface with
  | false => exact hunknown hknown _
  | true =>
    rw [if_pos rfl, wp_bind, wp_require]
    cases hports : ops.available .startDhcp && ops.available .stopDhcp &&
      ops.available .clearLease with
    | false =>
      refine hE (Or.inl ?_) _ s (Or.inl rfl)
      simp only [Bool.and_eq_false_iff] at hports
      rcases hports with (hport | hport) | hport <;> exact ⟨_, hport⟩
    | true =>
      rw [if_pos rfl, wp_bind]
      refine clearOwnedRouteLocked_leaves ops (fun t ht => ?_) fun hfail e t ht =>
        hE hfail e t (Or.inl ht)
      rw [wp_bind]
      refine wp_invoke.mpr ?_
      rw [wp_bind]
      refine wp_invoke.mpr ?_
      rw [wp_bind]
      refine ignoredCall_leaves ops fun u hu => ?_
      rw [wp_bind, wp_modifyPlane, wp_bind, wp_modifyPlane, wp_bind]
      have hreset : ∀ v : Run W, v.plane.links = (u.plane.reset iface).links →
          v.plane.links = ((s.plane.withdraw iface).reset iface).links := by
        intro v hv
        rw [hv, hu, record_plane, record_plane, ht]
      refine recomputeDnsLocked_leaves ops (fun v hv => ?_) fun hfail e v hv =>
        hE hfail e v (Or.inr ⟨hknown, hreset v hv⟩)
      rw [wp_bind]
      refine wp_invoke.mpr ?_
      rw [wp_bind]
      refine wp_check.mpr ⟨fun _ _ => ?_, fun e herror => ?_⟩
      · refine hQ hknown _ ?_
        have hlink : v.plane.linkFor iface = {} :=
          (congrArg (·.linkFor iface) (hreset v hv)).trans NetworkControlPlane.linkFor_reset
        show (v.plane.setLink iface { v.plane.linkFor iface with managedDhcp := true }).links = _
        rw [hlink, NetworkControlPlane.links_setLink, hreset v hv,
          ← NetworkControlPlane.links_setLink]
      · refine hE (Or.inr ⟨.startDhcp iface, v.world, ?_⟩) e _ (Or.inr ⟨hknown, hreset v hv⟩)
        show Except.isOk _ = false
        rw [herror]
        rfl

/-- `stop_dhcp` forgets the link whatever happens; only the withdrawal may have failed. -/
theorem stopDhcp_leaves {iface : String}
    (hQ : s.plane.knownIface iface = true → ∀ (p : NetworkControlPlane) (t : Run W),
      p = s.plane.withdraw iface ∨
        (ops.MayFail ∧ completes (clearOwnedRouteLocked ops iface) s = false) ∧ p = s.plane →
      t.plane.links = (p.setLink iface {}).links → Q () t)
    (hunknown : s.plane.knownIface iface = false → Q () s) : wp (stopDhcp ops iface) Q E s := by
  unfold stopDhcp
  rw [wp_bind, wp_getPlane, wp_ite]
  cases hknown : s.plane.knownIface iface with
  | false => exact hunknown hknown
  | true =>
    have hend : ∀ (p : NetworkControlPlane) (t : Run W), p = s.plane.withdraw iface ∨
        (ops.MayFail ∧ completes (clearOwnedRouteLocked ops iface) s = false) ∧ p = s.plane →
        t.plane = p →
        wp (do
          when (ops.available .stopDhcp) do let _ ← invoke ops (.stopDhcp iface)
          when (ops.available .clearLease) do let _ ← invoke ops (.clearLease iface)
          when (ops.available .clearIpv4) do let _ ← invoke ops (.clearIpv4 iface)
          modifyPlane fun p => p.setLink iface {}
          let _ ← attempt (recomputeDnsLocked ops)) Q E t := by
      intro p t hp ht
      rw [wp_bind]
      refine ignoredCall_leaves ops fun u hu => ?_
      rw [wp_bind]
      refine ignoredCall_leaves ops fun v hv => ?_
      rw [wp_bind]
      refine ignoredCall_leaves ops fun w hw => ?_
      rw [wp_bind, wp_modifyPlane, wp_bind, wp_attempt]
      have hw' : w.plane = p := hw.trans (hv.trans (hu.trans ht))
      refine recomputeDnsLocked_leaves ops (fun x hx => hQ hknown p x hp ?_)
        fun _ _ x hx => hQ hknown p x hp ?_
      · rw [hx, ← hw']
      · rw [hx, ← hw']
    rw [if_pos rfl, wp_bind, wp_attempt]
    have hclear : wp (clearOwnedRouteLocked ops iface)
        (fun _ t => t.plane = s.plane.withdraw iface)
        (fun _ t => ops.MayFail ∧ t.plane = s.plane) s :=
      clearOwnedRouteLocked_leaves ops (fun _ ht => ht) fun hfail _ _ ht => ⟨hfail, ht⟩
    refine wp_mono (wp_and hclear (wp_completes _ s)) (fun _ t ht => ?_) fun _ t ht => ?_
    · exact hend _ t (Or.inl rfl) ht.1
    · exact hend _ t (Or.inr ⟨⟨ht.1.1, ht.2⟩, rfl⟩) ht.1.2

end NetworkService.ControlPlane
