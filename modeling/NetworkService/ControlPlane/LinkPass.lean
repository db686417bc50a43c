import NetworkService.ControlPlane.Records

/-!
# One link pass, read off its inputs

`reconcile_link_locked` reads the lease of one interface and, when the fact is new, makes a
fixed sequence of port calls that depends on the records and the fact.  Whether the pass
applies the fact, does nothing or fails is therefore a matter of the records before the call
and of what the ports answer; this file says so, and the interface-crossing properties build
on it.
-/

namespace NetworkService.ControlPlane

open Fallible

/-- The port a call goes to. -/
def PortCall.port : PortCall → Port
  | .startDhcp _ => .startDhcp
  | .stopDhcp _ => .stopDhcp
  | .readLease _ => .readLease
  | .clearLease _ => .clearLease
  | .applyIpv4 _ _ _ => .applyIpv4
  | .clearIpv4 _ => .clearIpv4
  | .setDefaultRoute _ _ _ => .setDefaultRoute
  | .clearDefaultRoute _ _ _ => .clearDefaultRoute
  | .setDns _ => .setDns
  | .clearDns => .clearDns
  | .snapshot => .snapshot

variable {W : Type} (ops : NetworkControlPlaneOps W)

/-- The platform after the calls, if every port is set and every call succeeds. -/
def serve : List PortCall → W → Option W
  | [], w => some w
  | c :: calls, w =>
    if ops.available c.port ∧ c.succeeded (ops.call c w).1 then serve calls (ops.call c w).2
    else none

theorem serve_append (first second : List PortCall) (w : W) :
    serve ops (first ++ second) w = (serve ops first w).bind (serve ops second) := by
  induction first generalizing w with
  | nil => rfl
  | cons c calls ih =>
    simp only [List.cons_append, serve]
    split
    · exact ih _
    · rfl

namespace NetworkControlPlane

variable (p : NetworkControlPlane) (iface : String)

/-- The calls of `clear_owned_route_locked`. -/
def clearPlan : List PortCall :=
  if (p.ownedRouteFor iface).active then
    [.clearDefaultRoute iface (p.ownedRouteFor iface).gateway4 (p.ownedRouteFor iface).metric]
  else []

/-- The calls of `ensure_owned_route_locked` with a gateway. -/
def ensurePlan (gateway4 : String) (metric : Int) : List PortCall :=
  (if (p.ownedRouteFor iface).active ∧ ((p.ownedRouteFor iface).gateway4 ≠ gateway4 ∨
      (p.ownedRouteFor iface).metric ≠ metric) then p.clearPlan iface else []) ++
    [.setDefaultRoute iface gateway4 metric]

end NetworkControlPlane

open NetworkControlPlane

/-- The calls that a new lease fact leads to. -/
def leasePlan (p : NetworkControlPlane) (iface : String) (fact : DhcpLeaseFact) :
    List PortCall :=
  if fact.event = .deconfig then
    p.clearPlan iface ++ if ops.available .clearIpv4 then [.clearIpv4 iface] else []
  else
    .applyIpv4 iface fact.ip4 fact.netmask4 ::
      if p.routeAllowed iface ∧ fact.gateway4 ≠ "" then
        p.ensurePlan iface fact.gateway4 (p.routeMetric iface)
      else p.clearPlan iface

/-! ### Verdicts -/

section Verdicts

variable (p : NetworkControlPlane) (iface : String) (w : W)

/-- The reader reports a fact that the record does not hold yet. -/
structure NewFact (fact : DhcpLeaseFact) : Prop where
  managed : (p.linkFor iface).managedDhcp = true
  reader : ops.available .readLease = true
  read : (ops.call (.readLease iface) w).1 = .ok (some fact)
  fresh : fact.fingerprint ≠ (p.linkFor iface).fingerprint

/-- The fact is one the control plane knows how to apply, and the ports do all it takes;
`w'` is the platform afterwards. -/
structure Applicable (fact : DhcpLeaseFact) (w' : W) : Prop where
  supported : fact.event = .deconfig ∨ fact.configured = true
  served : serve ops (leasePlan ops p iface fact) (ops.call (.readLease iface) w).2 = some w'

/-- The link has a new fact and it can be applied. -/
def LinkApplies (w' : W) : Prop :=
  ∃ fact, NewFact ops p iface w fact ∧ Applicable ops p iface w fact w'

/-- The link is managed and its lease cannot be read, or is new and cannot be applied. -/
def LinkFails : Prop :=
  (p.linkFor iface).managedDhcp = true ∧
    (ops.available .readLease = false ∨ (∃ e, (ops.call (.readLease iface) w).1 = .error e) ∨
      ∃ fact, NewFact ops p iface w fact ∧ ∀ w', ¬Applicable ops p iface w fact w')

variable {ops p iface w}

theorem NewFact.unique {fact fact' : DhcpLeaseFact} (h : NewFact ops p iface w fact)
    (h' : NewFact ops p iface w fact') : fact = fact' := by
  have hsame := h.read.symm.trans h'.read
  simpa only [Except.ok.injEq, Option.some.injEq] using hsame

theorem NewFact.fails {fact : DhcpLeaseFact} (h : NewFact ops p iface w fact)
    (hno : ∀ w', ¬Applicable ops p iface w fact w') : LinkFails ops p iface w :=
  ⟨h.managed, Or.inr (Or.inr ⟨fact, h, hno⟩)⟩

theorem LinkApplies.unique {w₁ w₂ : W} (h₁ : LinkApplies ops p iface w w₁)
    (h₂ : LinkApplies ops p iface w w₂) : w₁ = w₂ := by
  obtain ⟨fact, hnew, happlicable⟩ := h₁
  obtain ⟨fact', hnew', happlicable'⟩ := h₂
  obtain rfl := hnew.unique hnew'
  exact Option.some.inj (happlicable.served.symm.trans happlicable'.served)

theorem LinkApplies.not_fails {w' : W} (h : LinkApplies ops p iface w w') :
    ¬LinkFails ops p iface w := by
  obtain ⟨fact, hnew, happlicable⟩ := h
  rintro ⟨-, hreader | ⟨e, herror⟩ | ⟨fact', hnew', hno⟩⟩
  · rw [hnew.reader] at hreader
    exact nomatch hreader
  · rw [hnew.read] at herror
    exact nomatch herror
  · obtain rfl := hnew.unique hnew'
    exact hno _ happlicable

end Verdicts

/-! ### The route functions serve their plans -/

section Plans

variable {s : Run W} {iface : String}

/-- `m` serves the plan: it ends normally exactly if the ports do, with the records `p'`, and
an early stop leaves the configuration alone. -/
abbrev Serves (m : Op W Unit) (plan : List PortCall) (p' : NetworkControlPlane) (s : Run W) :
    Prop :=
  wp m (fun _ t => serve ops plan s.world = some t.world ∧ t.plane = p')
    (fun _ t => serve ops plan s.world = none ∧ configOf t = configOf s) s

theorem serve_ok (c : PortCall) {calls : List PortCall} {w : W}
    (havail : ops.available c.port = true) (hok : c.succeeded (ops.call c w).1 = true) :
    serve ops (c :: calls) w = serve ops calls (ops.call c w).2 :=
  if_pos ⟨havail, hok⟩

theorem serve_unavailable (c : PortCall) {calls : List PortCall} {w : W}
    (havail : ¬ops.available c.port = true) : serve ops (c :: calls) w = none :=
  if_neg fun h => havail h.1

theorem serve_error (c : PortCall) {calls : List PortCall} {w : W}
    (hok : c.succeeded (ops.call c w).1 = false) : serve ops (c :: calls) w = none :=
  if_neg fun h => by rw [hok] at h; exact nomatch h.2

theorem clearOwnedRouteLocked_serves : Serves ops (clearOwnedRouteLocked ops iface)
    (s.plane.clearPlan iface) (s.plane.withdraw iface) s := by
  unfold Serves clearOwnedRouteLocked clearPlan withdraw
  rw [wp_bind, wp_getPlane]
  dsimp only
  by_cases hactive : (s.plane.ownedRouteFor iface).active = true
  · simp only [if_pos hactive]
    rw [wp_bind, wp_require]
    split
    · next havail =>
      rw [wp_bind]
      refine wp_invoke.mpr ?_
      rw [wp_bind, wp_check]
      refine ⟨fun _ hok => ?_, fun e herror => ?_⟩
      · refine ⟨?_, rfl⟩
        rw [serve_ok ops (.clearDefaultRoute iface _ _) havail (congrArg Except.isOk hok)]
        rfl
      · exact ⟨serve_error ops (.clearDefaultRoute iface _ _) (congrArg Except.isOk herror), rfl⟩
    · next havail => exact ⟨serve_unavailable ops (.clearDefaultRoute iface _ _) havail, rfl⟩
  · simp only [if_neg hactive]
    exact ⟨rfl, rfl⟩

theorem ensureOwnedRouteLocked_serves {gateway4 : String} {metric : Int} (hgw : gateway4 ≠ "") :
    Serves ops (ensureOwnedRouteLocked ops iface gateway4 metric)
      (s.plane.ensurePlan iface gateway4 metric)
      (s.plane.setOwnedRoute iface ⟨true, gateway4, metric⟩) s := by
  unfold Serves ensureOwnedRouteLocked ensurePlan
  rw [if_neg hgw, wp_bind, wp_require, serve_append]
  split
  · next havail =>
    -- the set call, after the calls that free the record have led to `t`
    have hset : ∀ (first : Option W) (t : Run W), first = some t.world →
        configOf t = configOf s → t.plane.setOwnedRoute iface ⟨true, gateway4, metric⟩ =
          s.plane.setOwnedRoute iface ⟨true, gateway4, metric⟩ →
        wp (do
          check (← invoke ops (.setDefaultRoute iface gateway4 metric))
          modifyPlane fun p => p.setOwnedRoute iface ⟨true, gateway4, metric⟩)
          (fun _ u => first.bind (serve ops [.setDefaultRoute iface gateway4 metric]) =
              some u.world ∧ u.plane = s.plane.setOwnedRoute iface ⟨true, gateway4, metric⟩)
          (fun _ u => first.bind (serve ops [.setDefaultRoute iface gateway4 metric]) = none ∧
            configOf u = configOf s)
          t := by
      rintro first t rfl hconfig hplane
      rw [wp_bind]
      refine wp_invoke.mpr ?_
      rw [wp_bind, wp_check]
      refine ⟨fun _ hok => ⟨?_, hplane⟩, fun e herror => ⟨?_, hconfig⟩⟩
      · rw [Option.bind_some,
          serve_ok ops (.setDefaultRoute iface _ _) havail (congrArg Except.isOk hok)]
        rfl
      · rw [Option.bind_some,
          serve_error ops (.setDefaultRoute iface _ _) (congrArg Except.isOk herror)]
    rw [wp_bind, wp_getPlane, wp_bind, wp_when]
    split
    · refine wp_mono (clearOwnedRouteLocked_serves ops) (fun _ t ht => hset _ t ht.1 ?_ ?_)
        (fun _ _ hnone => ⟨by rw [hnone.1]; rfl, hnone.2⟩)
      · rw [configOf, ht.2, config_withdraw]
      · rw [ht.2, setOwnedRoute_withdraw]
    · exact hset _ s rfl rfl rfl
  · next havail =>
    rw [show serve ops [.setDefaultRoute iface gateway4 metric] = fun _ => none from
      funext fun _ => serve_unavailable ops (.setDefaultRoute iface _ _) havail]
    exact ⟨Option.bind_fun_none _, rfl⟩

theorem deconfigureLink_serves {fact : DhcpLeaseFact} (hfact : fact.event = .deconfig) :
    Serves ops (deconfigureLink ops iface fact) (leasePlan ops s.plane iface fact)
      ((s.plane.withdraw iface).setLink iface
        { s.plane.linkFor iface with
          active := false, lease := fact, fingerprint := fact.fingerprint }) s := by
  unfold Serves deconfigureLink leasePlan
  rw [if_pos hfact, serve_append, wp_bind]
  refine wp_mono (clearOwnedRouteLocked_serves ops) (fun _ t ht => ?_)
    (fun _ _ hnone => ⟨by rw [hnone.1]; rfl, hnone.2⟩)
  have hplane : t.plane.setLink iface { t.plane.linkFor iface with
        active := false, lease := fact, fingerprint := fact.fingerprint } =
      (s.plane.withdraw iface).setLink iface { s.plane.linkFor iface with
        active := false, lease := fact, fingerprint := fact.fingerprint } := by
    rw [ht.2, linkFor_withdraw]
  rw [ht.1, Option.bind_some, wp_bind, wp_when]
  split
  · next havail =>
    rw [wp_bind]
    refine wp_invoke.mpr ?_
    rw [wp_check]
    refine ⟨fun _ hok => ⟨?_, hplane⟩, fun _ herror => ⟨?_, ?_⟩⟩
    · exact serve_ok ops (.clearIpv4 iface) havail (congrArg Except.isOk hok)
    · exact serve_error ops (.clearIpv4 iface) (congrArg Except.isOk herror)
    · show t.plane.config = _
      rw [ht.2, config_withdraw]
  · exact ⟨rfl, hplane⟩

theorem configureLink_serves {fact : DhcpLeaseFact} (hfact : fact.configured = true) :
    Serves ops (configureLink ops iface fact) (leasePlan ops s.plane iface fact)
      ((s.plane.leaseRouted iface fact).setLink iface
        { s.plane.linkFor iface with
          active := true, lease := fact, fingerprint := fact.fingerprint }) s := by
  have hevent : fact.event ≠ .deconfig := by
    intro hdeconfig
    simp [DhcpLeaseFact.configured, hdeconfig] at hfact
  have hroute : ∀ t : Run W, t.plane = s.plane → wp (applyLeaseRoute ops iface fact)
      (fun _ u => serve ops (if s.plane.routeAllowed iface = true ∧ fact.gateway4 ≠ "" then
          s.plane.ensurePlan iface fact.gateway4 (s.plane.routeMetric iface)
        else s.plane.clearPlan iface) t.world = some u.world ∧
        u.plane = s.plane.leaseRouted iface fact)
      (fun _ u => serve ops (if s.plane.routeAllowed iface = true ∧ fact.gateway4 ≠ "" then
          s.plane.ensurePlan iface fact.gateway4 (s.plane.routeMetric iface)
        else s.plane.clearPlan iface) t.world = none ∧ configOf u = configOf t) t := by
    intro t ht
    rw [← ht]
    unfold applyLeaseRoute leaseRouted
    rw [wp_bind, wp_getPlane]
    by_cases hwanted : t.plane.routeAllowed iface = true ∧ fact.gateway4 ≠ ""
    · simp only [if_pos hwanted]
      exact ensureOwnedRouteLocked_serves ops hwanted.2
    · simp only [if_neg hwanted]
      exact clearOwnedRouteLocked_serves ops
  unfold Serves configureLink leasePlan
  rw [if_neg hevent, wp_bind, wp_require, if_pos hfact, wp_bind, wp_require]
  split
  · next havail =>
    rw [wp_bind]
    refine wp_invoke.mpr ?_
    rw [wp_bind, wp_check]
    refine ⟨fun _ hok => ?_, fun _ herror => ?_⟩
    · rw [serve_ok ops (.applyIpv4 iface _ _) havail (congrArg Except.isOk hok), wp_bind]
      refine wp_mono (hroute _ rfl) (fun _ t ht => ⟨ht.1, ?_⟩) (fun _ _ h => h)
      dsimp only
      rw [ht.2, linkFor_leaseRouted]
    · exact ⟨serve_error ops (.applyIpv4 iface _ _) (congrArg Except.isOk herror), rfl⟩
  · next havail => exact ⟨serve_unavailable ops (.applyIpv4 iface _ _) havail, rfl⟩

end Plans

/-! ### The pass -/

section Pass

variable {s : Run W} {iface : String}

/-- **What a link pass does is decided by its inputs.**  It reports a change exactly if the
link has a new fact that can be applied, fails exactly if the lease cannot be read or applied,
and otherwise leaves the records alone. -/
theorem reconcileLinkLocked_verdict :
    wp (reconcileLinkLocked ops iface)
      (fun changed t =>
        (changed = true ∧ LinkApplies ops s.plane iface s.world t.world ∧
          (t.plane.linkFor iface).fingerprint ≠ (s.plane.linkFor iface).fingerprint) ∨
        (changed = false ∧ t.plane = s.plane ∧ ¬LinkFails ops s.plane iface s.world ∧
          ∀ w', ¬LinkApplies ops s.plane iface s.world w'))
      (fun _ t => LinkFails ops s.plane iface s.world ∧ configOf t = configOf s) s := by
  unfold reconcileLinkLocked
  rw [wp_bind, wp_getPlane]
  refine wp_split (fun hmanaged => ?_) (fun hmanaged => ?_)
  · rw [wp_bind, wp_require]
    split
    · next hreader =>
      rw [wp_bind]
      refine wp_invoke.mpr ?_
      rw [wp_bind, wp_check]
      refine ⟨fun lease hread => ?_, fun e herror =>
        ⟨⟨hmanaged, Or.inr (Or.inl ⟨e, herror⟩)⟩, rfl⟩⟩
      -- without a new fact nothing happens
      have hquiet : (∀ fact, ¬NewFact ops s.plane iface s.world fact) →
          ¬LinkFails ops s.plane iface s.world ∧
            ∀ w', ¬LinkApplies ops s.plane iface s.world w' := by
        intro hno
        refine ⟨?_, fun w' happlies => hno _ happlies.choose_spec.1⟩
        rintro ⟨-, hunread | ⟨e, herror⟩ | ⟨fact, hnew, -⟩⟩
        · rw [hreader] at hunread
          exact nomatch hunread
        · rw [hread] at herror
          exact nomatch herror
        · exact hno fact hnew
      cases lease with
      | none =>
        refine Or.inr ⟨rfl, rfl, hquiet fun fact hnew => ?_⟩
        have := hread.symm.trans hnew.read
        simp at this
      | some fact =>
        refine wp_split (fun hsame => ?_) (fun hfresh => ?_)
        · refine Or.inr ⟨rfl, rfl, hquiet fun fact' hnew => hnew.fresh ?_⟩
          have hfact : fact = fact' := by
            simpa using hread.symm.trans hnew.read
          rw [← hfact]
          exact hsame
        · have hnew : NewFact ops s.plane iface s.world fact := ⟨hmanaged, hreader, hread, hfresh⟩
          refine wp_split (fun hevent => ?_) (fun hevent => ?_)
          · refine wp_bind.mpr (wp_mono (deconfigureLink_serves ops hevent) (fun _ t ht => ?_)
              (fun _ _ hnone => ⟨hnew.fails fun w' happlicable => ?_, hnone.2⟩))
            · refine Or.inl ⟨rfl, ⟨fact, hnew, Or.inl hevent, ht.1⟩, ?_⟩
              rw [ht.2, linkFor_setLink]
              exact hfresh
            · exact nomatch hnone.1.symm.trans happlicable.served
          · cases hfact : fact.configured with
            | false =>
              refine wp_bind.mpr (wp_bind.mpr (wp_require.mpr ?_))
              rw [hfact]
              refine ⟨hnew.fails fun w' happlicable => ?_, rfl⟩
              rcases happlicable.supported with hdeconfig | hconfigured
              · exact hevent hdeconfig
              · exact nomatch hfact.symm.trans hconfigured
            | true =>
              refine wp_bind.mpr (wp_mono (configureLink_serves ops hfact) (fun _ t ht => ?_)
                (fun _ _ hnone => ⟨hnew.fails fun w' happlicable => ?_, hnone.2⟩))
              · refine Or.inl ⟨rfl, ⟨fact, hnew, Or.inr hfact, ht.1⟩, ?_⟩
                rw [ht.2, linkFor_setLink]
                exact hfresh
              · exact nomatch hnone.1.symm.trans happlicable.served
    · next hreader =>
      exact ⟨⟨hmanaged, Or.inl (by simpa using hreader)⟩, rfl⟩
  · refine Or.inr ⟨rfl, rfl, fun hfails => hmanaged hfails.1, fun w' happlies => ?_⟩
    exact hmanaged happlies.choose_spec.1.managed

end Pass

/-! ### What the verdicts look at -/

/-- All that a link pass reads of the records. -/
def NetworkControlPlane.view (p : NetworkControlPlane) (iface : String) :
    LinkState × OwnedRouteState × Bool × Int :=
  (p.linkFor iface, p.ownedRouteFor iface, p.routeAllowed iface, p.routeMetric iface)

section View

variable {p q : NetworkControlPlane} {iface : String} {w : W}

theorem leasePlan_congr (hview : q.view iface = p.view iface) (fact : DhcpLeaseFact) :
    leasePlan ops q iface fact = leasePlan ops p iface fact := by
  simp only [view, Prod.mk.injEq] at hview
  obtain ⟨-, hroute, hallowed, hmetric⟩ := hview
  unfold leasePlan ensurePlan clearPlan
  rw [hroute, hallowed, hmetric]

theorem newFact_congr (hview : q.view iface = p.view iface) (fact : DhcpLeaseFact) :
    NewFact ops q iface w fact ↔ NewFact ops p iface w fact := by
  have hlink : q.linkFor iface = p.linkFor iface := congrArg Prod.fst hview
  constructor
  · exact fun h => ⟨hlink ▸ h.managed, h.reader, h.read, hlink ▸ h.fresh⟩
  · exact fun h => ⟨hlink.symm ▸ h.managed, h.reader, h.read, hlink.symm ▸ h.fresh⟩

theorem applicable_congr (hview : q.view iface = p.view iface) (fact : DhcpLeaseFact) (w' : W) :
    Applicable ops q iface w fact w' ↔ Applicable ops p iface w fact w' := by
  have hplan := leasePlan_congr ops hview fact
  constructor
  · exact fun h => ⟨h.supported, hplan ▸ h.served⟩
  · exact fun h => ⟨h.supported, hplan.symm ▸ h.served⟩

theorem linkFails_congr (hview : q.view iface = p.view iface) :
    LinkFails ops q iface w ↔ LinkFails ops p iface w := by
  have hlink : q.linkFor iface = p.linkFor iface := congrArg Prod.fst hview
  simp only [LinkFails, hlink, newFact_congr ops hview, applicable_congr ops hview]

end View

/-! ### A link pass keeps to its interface -/

/-- The steps of a pass over `iface` go up in `R`. -/
structure LinkSteps (iface : String) (R : Run W → Run W → Prop) : Prop where
  call : ∀ c : PortCall, c.iface? = some iface → c.changesLeases = false → Along R (invoke ops c)
  route : ∀ owned, Along R (modifyPlane fun p => p.setOwnedRoute iface owned)
  link : ∀ f : NetworkControlPlane → LinkState,
    Along R (modifyPlane fun p => p.setLink iface (f p))

namespace LinkSteps

variable {ops} {iface : String} {R : Run W → Run W → Prop} [Std.Refl R] [IsTrans (Run W) R]
  (h : LinkSteps ops iface R)

include h

theorem clear : Along R (clearOwnedRouteLocked ops iface) := by
  refine Along.bind along_getPlane fun p => Along.ite ?_ (Along.pure ())
  refine Along.bind (Along.require _ _) fun _ => ?_
  refine Along.bind (h.call (.clearDefaultRoute iface _ _) rfl rfl) fun r => ?_
  exact Along.bind (along_check r) fun _ => h.route {}

theorem ensure (gateway4 : String) (metric : Int) :
    Along R (ensureOwnedRouteLocked ops iface gateway4 metric) := by
  refine Along.ite h.clear ?_
  refine Along.bind (Along.require _ _) fun _ => Along.bind along_getPlane fun p => ?_
  refine Along.bind (Along.when h.clear) fun _ => ?_
  refine Along.bind (h.call (.setDefaultRoute iface gateway4 metric) rfl rfl) fun r => ?_
  exact Along.bind (along_check r) fun _ => h.route _

theorem reconcileLink : Along R (reconcileLinkLocked ops iface) := by
  refine Along.bind along_getPlane fun p => Along.ite ?_ (Along.pure _)
  refine Along.bind (Along.require _ _) fun _ => ?_
  refine Along.bind (h.call (.readLease iface) rfl rfl) fun reply => ?_
  refine Along.bind (along_check reply) fun lease => ?_
  cases lease with
  | none => exact Along.pure _
  | some fact =>
    refine Along.ite (Along.pure _) (Along.ite ?_ ?_)
    · refine Along.bind (Along.bind h.clear fun _ => ?_) fun _ => Along.pure _
      refine Along.bind (Along.when ?_) fun _ => h.link _
      exact Along.bind (h.call (.clearIpv4 iface) rfl rfl) fun r => along_check r
    · refine Along.bind (Along.bind (Along.require _ _) fun _ => ?_) fun _ => Along.pure _
      refine Along.bind (Along.require _ _) fun _ => ?_
      refine Along.bind (h.call (.applyIpv4 iface fact.ip4 fact.netmask4) rfl rfl) fun r => ?_
      refine Along.bind (along_check r) fun _ => Along.bind ?_ fun _ => h.link _
      exact Along.bind along_getPlane fun p => Along.ite (h.ensure _ _) h.clear

end LinkSteps

/-- The records of a run that an Ethernet link pass leaves alone. -/
def wifiRecords (s : Run W) : IfaceNames × LinkState × OwnedRouteState × RoutePolicy :=
  (s.plane.names, s.plane.wifi, s.plane.wifiRoute, s.plane.routePolicy)

theorem wifiRecords_steps (N : IfaceNames) :
    LinkSteps ops N.eth (Within N (Framing wifiRecords)) where
  call _ _ _ _ hN := ⟨hN, rfl⟩
  route owned s hN := by
    subst hN
    refine ⟨setOwnedRoute_names, ?_⟩
    show wifiRecords { s with plane := s.plane.setOwnedRoute s.plane.names.eth owned } = _
    rw [setOwnedRoute_eth]
    rfl
  link f s hN := by
    subst hN
    refine ⟨setLink_names, ?_⟩
    show wifiRecords { s with plane := s.plane.setLink s.plane.names.eth (f s.plane) } = _
    rw [setLink_eth]
    rfl

theorem reconcileLinkLocked_wifiRecords (s : Run W) :
    wifiRecords (after (reconcileLinkLocked ops s.plane.names.eth) s) = wifiRecords s :=
  ((wifiRecords_steps ops s.plane.names).reconcileLink s rfl).2

/-- The Wi-Fi verdicts look only at the Wi-Fi records. -/
theorem view_wifi_congr {s t : Run W} (hrecords : wifiRecords t = wifiRecords s) :
    t.plane.view s.plane.names.wifi = s.plane.view s.plane.names.wifi := by
  simp only [wifiRecords, Prod.mk.injEq] at hrecords
  obtain ⟨hnames, hwifi, hroute, hpolicy⟩ := hrecords
  have hwifi' : t.plane.linkFor s.plane.names.wifi = s.plane.linkFor s.plane.names.wifi := by
    rw [← hnames, linkFor_wifi, hnames, linkFor_wifi, hwifi]
  have hroute' : t.plane.ownedRouteFor s.plane.names.wifi =
      s.plane.ownedRouteFor s.plane.names.wifi := by
    rw [← hnames, ownedRouteFor_wifi, hnames, ownedRouteFor_wifi, hroute]
  unfold view routeAllowed routeMetric
  rw [hwifi', hroute', hnames, hpolicy]

/-! ### A platform with two lease files -/

/-- What reading the two lease files gives. -/
structure LeaseFiles where
  eth : Except String (Option DhcpLeaseFact)
  wifi : Except String (Option DhcpLeaseFact)

/-- Ports of a machine with the standard names that do everything asked of them and read
leases from the two files. -/
def leaseFilePorts : NetworkControlPlaneOps LeaseFiles where
  available _ := true
  call
    | .readLease iface, files => (if iface = "eth0" then files.eth else files.wifi, files)
    | c, files => (c.idleReply, files)

end NetworkService.ControlPlane
