import Mathlib.Logic.Relation
import NetworkService.ControlPlane.Records

/-!
# Every assignment to the records, with its reason

Whatever an operation does to the records of the control plane is a chain of the edits listed here,
and an edit that depends on a port call is made only after that call succeeded: a route is recorded
once the kernel took it, a lease once its address was applied, a nameserver once it was written.  An
invariant of the records therefore has to be checked against this list only.
-/

namespace NetworkService.ControlPlane

open Fallible

variable {W : Type}

/-- The call can succeed on this platform. -/
def Succeeds (ops : NetworkControlPlaneOps W) (c : PortCall) : Prop :=
  ∃ w, c.succeeded (ops.call c w).1 = true

/-- One assignment to the records of a control plane with the names `N`.  Static configurations
come from outside, and `permits` says which. -/
inductive RecordEdit (ops : NetworkControlPlaneOps W) (N : IfaceNames)
    (permits : StaticEthernetState → Prop) (p : NetworkControlPlane) : NetworkControlPlane → Prop
  | clearRoute {iface : String} (known : iface = N.eth ∨ iface = N.wifi) :
      RecordEdit ops N permits p (p.setOwnedRoute iface {})
  | setRoute {iface gateway4 : String} {metric : Int} (known : iface = N.eth ∨ iface = N.wifi)
      (set : Succeeds ops (.setDefaultRoute iface gateway4 metric)) :
      RecordEdit ops N permits p (p.setOwnedRoute iface ⟨true, gateway4, metric⟩)
  | link {iface : String} {link : LinkState} (known : iface = N.eth ∨ iface = N.wifi)
      (kept : link.active = true → (p.linkFor iface).active = true ∧
        link.lease = (p.linkFor iface).lease) :
      RecordEdit ops N permits p (p.setLink iface link)
  | configured {iface : String} {link : LinkState} {w : W}
      (known : iface = N.eth ∨ iface = N.wifi)
      (read : (ops.call (.readLease iface) w).1 = .ok (some link.lease))
      (applied : Succeeds ops (.applyIpv4 iface link.lease.ip4 link.lease.netmask4)) :
      RecordEdit ops N permits p (p.setLink iface link)
  | dropStatic : RecordEdit ops N permits p { p with staticEth := {} }
  | static {st : StaticEthernetState} (permitted : permits st)
      (applied : Succeeds ops (.applyIpv4 N.eth st.ip4 st.netmask4)) :
      RecordEdit ops N permits p { p with staticEth := st }
  | policy (policy : RoutePolicy) : RecordEdit ops N permits p { p with routePolicy := policy }
  | adoptDns (w : W) :
      RecordEdit ops N permits p
        { p with
          dnsOwnershipInitialized := true
          managedDns := (ops.call .snapshot w).1.dnsManagedByNetworkService
          lastDns := if (ops.call .snapshot w).1.dnsManagedByNetworkService then
            (ops.call .snapshot w).1.dns4 else "" }
  | initializeBlind : RecordEdit ops N permits p { p with dnsOwnershipInitialized := true }
  | releaseDns : RecordEdit ops N permits p { p with managedDns := false, lastDns := "" }
  | setDns {dns4 : String} (set : Succeeds ops (.setDns dns4)) :
      RecordEdit ops N permits p { p with managedDns := true, lastDns := dns4 }

/-- The records of `t` come from those of `s` by edits. -/
def Edited (ops : NetworkControlPlaneOps W) (N : IfaceNames)
    (permits : StaticEthernetState → Prop) (s t : Run W) : Prop :=
  Relation.ReflTransGen (RecordEdit ops N permits) s.plane t.plane

section Edits

variable {ops : NetworkControlPlaneOps W} {N : IfaceNames} {permits : StaticEthernetState → Prop}

instance : Std.Refl (Edited ops N permits) := ⟨fun _ => .refl⟩

instance : IsTrans (Run W) (Edited ops N permits) := ⟨fun _ _ _ h h' => h.trans h'⟩

/-- Operations whose edits are all on the list. -/
abbrev ByEdits (ops : NetworkControlPlaneOps W) (N : IfaceNames)
    (permits : StaticEthernetState → Prop) {α : Type} (m : Op W α) : Prop :=
  Along (Within N (Edited ops N permits)) m

/-! ### Steps -/

theorem RecordEdit.names {p q : NetworkControlPlane} (h : RecordEdit ops N permits p q) :
    q.names = p.names := by
  cases h with
  | clearRoute => exact NetworkControlPlane.setOwnedRoute_names
  | setRoute => exact NetworkControlPlane.setOwnedRoute_names
  | link => exact NetworkControlPlane.setLink_names
  | configured => exact NetworkControlPlane.setLink_names
  | dropStatic | static | policy | adoptDns | initializeBlind | releaseDns | setDns => rfl

theorem byEdits_modifyPlane {f : NetworkControlPlane → NetworkControlPlane}
    (h : ∀ p : NetworkControlPlane, p.names = N → RecordEdit ops N permits p (f p)) :
    ByEdits ops N permits (modifyPlane f : Op W Unit) := by
  intro s hN
  have hedit := h s.plane hN
  exact ⟨hedit.names.trans hN, .single hedit⟩

theorem byEdits_invoke (c : PortCall) : ByEdits ops N permits (invoke ops c) :=
  fun _ hN => ⟨hN, .refl⟩

/-- What comes after a call may use that the reply is one the port gives. -/
theorem byEdits_reply {c : PortCall} {α : Type} {f : c.Reply → Op W α}
    (hf : ∀ w, ByEdits ops N permits (f (ops.call c w).1)) :
    ByEdits ops N permits (invoke ops c >>= f) := by
  intro s hN
  exact hf s.world (s.record c (ops.call c s.world).1 (ops.call c s.world).2) hN

theorem byEdits_check {α β : Type} {r : Except String α} {f : α → Op W β}
    (hf : ∀ a, r = .ok a → ByEdits ops N permits (f a)) :
    ByEdits ops N permits (check r >>= f) := by
  cases r with
  | ok a => exact hf a rfl
  | error e => exact fun _ hN => ⟨hN, .refl⟩

theorem byEdits_routes : PortSteps ops N (Edited ops N permits) where
  clear iface hiface s hN := by
    refine ⟨(clearOwnedRouteLocked_names ops iface s).trans hN, ?_⟩
    rcases clearOwnedRouteLocked_cases ops iface s with
      ⟨-, hrun⟩ | ⟨-, -, hrun⟩ | ⟨e, w, -, -, hrun⟩ | ⟨w, -, -, hrun⟩
    · rw [after_ok hrun]
      exact .refl
    · rw [after_error hrun]
      exact .refl
    · rw [after_error hrun]
      exact .refl
    · rw [after_ok hrun]
      exact .single (.clearRoute hiface)
  ensure iface gateway4 metric hiface s hN := by
    refine ⟨(ensureOwnedRouteLocked_names ops iface s gateway4 metric).trans hN, ?_⟩
    have hclear : ∀ t, clearOwnedRouteLocked ops iface s = .ok () t ∨
        (∃ e, clearOwnedRouteLocked ops iface s = .error e t) → Edited ops N permits s t := by
      intro t ht
      rcases clearOwnedRouteLocked_cases ops iface s with
        ⟨-, hrun⟩ | ⟨-, -, hrun⟩ | ⟨e, w, -, -, hrun⟩ | ⟨w, -, -, hrun⟩
      all_goals
        rw [hrun] at ht
        rcases ht with ht | ⟨_, ht⟩
      all_goals cases ht
      · exact .refl
      · exact .refl
      · exact .refl
      · exact .single (.clearRoute hiface)
    have hfreed : ∀ t, Freed ops iface s gateway4 metric t → Edited ops N permits s t := by
      rintro t (⟨rfl, -⟩ | ht)
      · exact .refl
      · exact hclear t (.inl ht)
    by_cases hgw : gateway4 = ""
    · unfold ensureOwnedRouteLocked
      rw [if_pos hgw]
      unfold after
      cases hrun : clearOwnedRouteLocked ops iface s with
      | ok _ t => exact hclear t (.inl hrun)
      | error e t => exact hclear t (.inr ⟨e, hrun⟩)
    rcases ensureOwnedRouteLocked_cases ops iface s gateway4 metric hgw with
      ⟨-, hrun⟩ | ⟨e, t, ht, hrun⟩ | ⟨t, e, w, ht, -, hrun⟩ | ⟨t, w, ht, hcall, hrun⟩
    · rw [after_error hrun]
      exact .refl
    · rw [after_error hrun]
      exact hclear t (.inr ⟨e, ht⟩)
    · rw [after_error hrun]
      exact hfreed t ht
    · rw [after_ok hrun]
      refine .tail (hfreed t ht) (.setRoute hiface ⟨t.world, ?_⟩)
      rw [hcall]
      rfl
  call c _ _ hN := ⟨hN, .refl⟩

theorem byEdits_applyRoutes : ByEdits ops N permits (applyRoutesLocked ops) :=
  byEdits_routes.applyRoutes

/-! ### A DNS pass -/

theorem byEdits_loadLive (live : Option NetworkSnapshot) :
    ByEdits ops N permits (loadLive ops live) := by
  cases live with
  | none => exact byEdits_invoke _
  | some current => exact Along.pure _

theorem byEdits_releaseDns : ByEdits ops N permits (releaseDns ops) := by
  refine Along.bind along_getPlane fun p => Along.ite ?_ (Along.pure _)
  refine Along.bind (Along.require _ _) fun _ => Along.bind (byEdits_invoke _) fun r => ?_
  exact Along.bind (along_check r) fun _ => byEdits_modifyPlane fun _ _ => .releaseDns

theorem byEdits_recomputeDns : ByEdits ops N permits (recomputeDnsLocked ops) := by
  refine Along.bind ?_ fun live => Along.bind ?_ fun choice => ?_
  · refine Along.bind along_getPlane fun p => Along.ite (Along.pure _) (Along.ite ?_ ?_)
    · refine byEdits_reply fun w => Along.bind ?_ fun _ => Along.pure _
      exact byEdits_modifyPlane fun _ _ => .adoptDns w
    · exact Along.bind (byEdits_modifyPlane fun _ _ => .initializeBlind) fun _ => Along.pure _
  · refine Along.bind along_getPlane fun p => Along.ite ?_ (Along.pure _)
    exact Along.bind (byEdits_loadLive live) fun _ => Along.pure _
  · obtain ⟨decision, live⟩ := choice
    cases decision with
    | preserveExternal => exact byEdits_releaseDns
    | select dns4 =>
      refine Along.ite byEdits_releaseDns (Along.bind ?_ fun applied => Along.ite (Along.pure _) ?_)
      · refine Along.bind along_getPlane fun p => Along.ite (Along.ite ?_ (Along.pure _)) (Along.pure _)
        exact Along.bind (byEdits_loadLive live) fun _ => Along.pure _
      · refine Along.bind (Along.require _ _) fun _ => byEdits_reply fun w => byEdits_check fun _ hok => ?_
        exact byEdits_modifyPlane fun _ _ => .setDns ⟨w, congrArg Except.isOk hok⟩

/-! ### Operations -/

/-- Dropping a link record. -/
theorem byEdits_dropLink {iface : String} (hk : iface = N.eth ∨ iface = N.wifi)
    {f : NetworkControlPlane → LinkState} (hf : ∀ p, (f p).active = false) :
    ByEdits ops N permits (modifyPlane fun p => p.setLink iface (f p) : Op W Unit) := by
  refine byEdits_modifyPlane fun p _ => .link hk fun hactive => ?_
  rw [hf p] at hactive
  exact nomatch hactive

theorem byEdits_dropStatic (iface : String) : ByEdits ops N permits
    (modifyPlane fun p => if iface = p.names.eth then { p with staticEth := {} } else p : Op W Unit) := by
  intro s hN
  show (if iface = s.plane.names.eth then { s.plane with staticEth := {} } else s.plane).names = N ∧
    Relation.ReflTransGen (RecordEdit ops N permits) s.plane
      (if iface = s.plane.names.eth then { s.plane with staticEth := {} } else s.plane)
  split
  · exact ⟨hN, .single .dropStatic⟩
  · exact ⟨hN, .refl⟩

theorem byEdits_dropEthernet : ByEdits ops N permits
    (modifyPlane fun p => { p with eth := {}, staticEth := {} } : Op W Unit) := by
  intro s hN
  have hlink : RecordEdit ops N permits s.plane (s.plane.setLink s.plane.names.eth {}) :=
    .link (.inl (by rw [hN])) fun hactive => nomatch hactive
  rw [NetworkControlPlane.setLink_eth] at hlink
  exact ⟨hN, .tail (.single hlink) .dropStatic⟩

theorem byEdits_manage {iface : String} (hk : iface = N.eth ∨ iface = N.wifi) :
    ByEdits ops N permits (modifyPlane fun p =>
      p.setLink iface { p.linkFor iface with managedDhcp := true } : Op W Unit) :=
  byEdits_modifyPlane fun _ _ => .link hk fun hactive => ⟨hactive, rfl⟩

theorem byEdits_configureLink {iface : String} (hk : iface = N.eth ∨ iface = N.wifi) {w : W}
    {fact : DhcpLeaseFact} (hread : (ops.call (.readLease iface) w).1 = .ok (some fact)) :
    ByEdits ops N permits (configureLink ops iface fact) := by
  refine Along.bind (Along.require _ _) fun _ => Along.bind (Along.require _ _) fun _ => ?_
  refine byEdits_reply fun w' => byEdits_check fun _ hok => Along.bind ?_ fun _ => ?_
  · exact Along.bind along_getPlane fun p =>
      Along.ite (byEdits_routes.ensure _ _ _ hk) (byEdits_routes.clear _ hk)
  · exact byEdits_modifyPlane fun _ _ => .configured hk hread ⟨w', congrArg Except.isOk hok⟩

theorem byEdits_reconcileLink {iface : String} (hk : iface = N.eth ∨ iface = N.wifi) :
    ByEdits ops N permits (reconcileLinkLocked ops iface) := by
  refine Along.bind along_getPlane fun p => Along.ite ?_ (Along.pure _)
  refine Along.bind (Along.require _ _) fun _ => byEdits_reply fun w => byEdits_check fun lease hread => ?_
  cases lease with
  | none => exact Along.pure _
  | some fact =>
    refine Along.ite (Along.pure _) (Along.ite ?_ ?_)
    · refine Along.bind ?_ fun _ => Along.pure _
      refine Along.bind (byEdits_routes.clear iface hk) fun _ => ?_
      refine Along.bind (Along.when ?_) fun _ => byEdits_dropLink hk fun _ => rfl
      exact Along.bind (byEdits_invoke _) fun r => along_check r
    · exact Along.bind (byEdits_configureLink hk hread) fun _ => Along.pure _

theorem byEdits_reconcileLinks : ByEdits ops N permits (reconcileLinks ops) := by
  refine Within.getPlane fun p hp => ?_
  refine Along.bind (byEdits_reconcileLink (.inl (by rw [hp]))) fun _ => ?_
  exact Along.bind (byEdits_reconcileLink (.inr (by rw [hp]))) fun _ => Along.pure _

theorem byEdits_startDhcp (iface : String) : ByEdits ops N permits (startDhcp ops iface) := by
  refine Within.getPlane fun p hp => Along.guard fun hknown => ?_
  have hk : iface = N.eth ∨ iface = N.wifi := by
    simpa only [NetworkControlPlane.knownIface, hp, decide_eq_true_eq] using hknown
  refine Along.bind (Along.require _ _) fun _ => ?_
  refine Along.bind (byEdits_routes.clear iface hk) fun _ => ?_
  refine Along.bind (byEdits_invoke _) fun _ => Along.bind (byEdits_invoke _) fun _ => ?_
  refine Along.bind (Along.when (Along.bind (byEdits_invoke _) fun _ => Along.pure _)) fun _ => ?_
  refine Along.bind (byEdits_dropLink hk fun _ => rfl) fun _ => ?_
  refine Along.bind (byEdits_dropStatic iface) fun _ => ?_
  refine Along.bind byEdits_recomputeDns fun _ => Along.bind (byEdits_invoke _) fun r => ?_
  exact Along.bind (along_check r) fun _ => byEdits_manage hk

theorem byEdits_stopDhcp (iface : String) : ByEdits ops N permits (stopDhcp ops iface) := by
  refine Within.getPlane fun p hp => Along.split (fun hknown => ?_) (fun _ => Along.pure _)
  have hk : iface = N.eth ∨ iface = N.wifi := by
    simpa only [NetworkControlPlane.knownIface, hp, decide_eq_true_eq] using hknown
  have hcall : ∀ c : PortCall, ByEdits ops N permits (do let _ ← invoke ops c) := fun c =>
    Along.bind (byEdits_invoke c) fun _ => Along.pure _
  refine Along.bind (Along.attempt (byEdits_routes.clear iface hk)) fun _ => ?_
  refine Along.bind (Along.when (hcall _)) fun _ => Along.bind (Along.when (hcall _)) fun _ => ?_
  refine Along.bind (Along.when (hcall _)) fun _ => ?_
  refine Along.bind (byEdits_dropLink hk fun _ => rfl) fun _ => ?_
  exact Along.bind (Along.attempt byEdits_recomputeDns) fun _ => Along.pure _

theorem byEdits_adoptDhcp (iface : String) : ByEdits ops N permits (adoptDhcp ops iface) := by
  refine Within.getPlane fun p hp => Along.guard fun hknown => ?_
  have hk : iface = N.eth ∨ iface = N.wifi := by
    simpa only [NetworkControlPlane.knownIface, hp, decide_eq_true_eq] using hknown
  refine Along.bind (Along.require _ _) fun _ => ?_
  refine Along.bind (byEdits_dropLink hk fun _ => rfl) fun _ => ?_
  refine Along.bind (byEdits_modifyPlane fun _ _ => .clearRoute hk) fun _ => ?_
  exact byEdits_dropStatic iface

theorem byEdits_applyEthernetStatic {ip4 netmask4 gateway4 dns4 : String} {manualMetric : Int}
    (hpermits : permits ⟨true, ip4, netmask4, gateway4, dns4, manualMetric⟩) :
    ByEdits ops N permits (applyEthernetStatic ops ip4 netmask4 gateway4 dns4 manualMetric) := by
  refine Along.bind (Along.require _ _) fun _ => Within.getPlane fun p hp => ?_
  refine Along.bind (byEdits_routes.clear _ (.inl (by rw [hp]))) fun _ => ?_
  refine Along.bind (byEdits_invoke _) fun _ => Along.bind (byEdits_invoke _) fun _ => ?_
  refine Along.bind byEdits_dropEthernet fun _ => byEdits_reply fun w => byEdits_check fun _ hok => ?_
  refine Along.bind (byEdits_modifyPlane fun _ _ => .static hpermits ⟨w, ?_⟩) fun _ => ?_
  · rw [hp] at hok
    exact congrArg Except.isOk hok
  · exact Along.bind byEdits_applyRoutes fun _ => byEdits_recomputeDns

theorem byEdits_refreshExternalState : ByEdits ops N permits (refreshExternalState ops) :=
  Along.bind byEdits_routes.repairs.repairOwnedState fun _ => byEdits_recomputeDns

theorem byEdits_reconcileChanged : ByEdits ops N permits (reconcileChanged ops) := by
  refine Along.bind (Along.attempt byEdits_reconcileLinks) fun links => ?_
  cases links with
  | error e => exact Along.pure _
  | ok changed =>
    refine Along.bind along_getPlane fun p => Along.ite ?_ (Along.pure _)
    exact Along.bind (Along.attempt byEdits_recomputeDns) fun _ => Along.pure _

theorem byEdits_setRoutePolicy (policy : RoutePolicy) :
    ByEdits ops N permits (setRoutePolicy ops policy) := by
  have hpolicy : ∀ policy, ByEdits ops N permits
      (modifyPlane fun p => { p with routePolicy := policy } : Op W Unit) := fun policy =>
    byEdits_modifyPlane fun _ _ => .policy policy
  refine Along.bind along_getPlane fun p => Along.bind (hpolicy policy) fun _ => ?_
  refine Along.bind (Along.attempt (Along.bind byEdits_applyRoutes fun _ =>
    byEdits_recomputeDns)) fun outcome => ?_
  cases outcome with
  | ok _ => exact Along.pure _
  | error failure =>
    refine Along.bind (hpolicy _) fun _ => ?_
    refine Along.bind (Along.attempt byEdits_applyRoutes) fun _ => ?_
    exact Along.bind (Along.attempt byEdits_recomputeDns) fun _ => Along.throw failure

/-- **Every operation is a chain of edits**, if the static configuration it brings is permitted. -/
theorem byEdits_perform (op : Operation)
    (hpermits : ∀ ip4 netmask4 gateway4 dns4 manualMetric,
      op = .applyEthernetStatic ip4 netmask4 gateway4 dns4 manualMetric →
      permits ⟨true, ip4, netmask4, gateway4, dns4, manualMetric⟩) :
    ByEdits ops N permits (op.perform ops) := by
  cases op with
  | startDhcp iface => exact byEdits_startDhcp iface
  | stopDhcp iface => exact byEdits_stopDhcp iface
  | adoptDhcp iface => exact byEdits_adoptDhcp iface
  | applyEthernetStatic ip4 netmask4 gateway4 dns4 manualMetric =>
    exact byEdits_applyEthernetStatic (hpermits _ _ _ _ _ rfl)
  | reconcile => exact Along.bind byEdits_reconcileLinks fun _ => byEdits_refreshExternalState
  | reconcileChanged => exact Along.bind byEdits_reconcileChanged fun _ => along_check _
  | refreshExternalState => exact byEdits_refreshExternalState
  | setRoutePolicy policy => exact byEdits_setRoutePolicy policy

/-- **An invariant of the edits is an invariant of chains of them.** -/
theorem edits_keep {I : NetworkControlPlane → Prop}
    (hI : ∀ p q, RecordEdit ops N permits p q → p.names = N → I p → I q) {s t : Run W}
    (hedited : Edited ops N permits s t) (hN : s.plane.names = N) (h : I s.plane) :
    t.plane.names = N ∧ I t.plane := by
  have hchain : ∀ q, Relation.ReflTransGen (RecordEdit ops N permits) s.plane q →
      q.names = N ∧ I q := by
    intro q hedits
    induction hedits with
    | refl => exact ⟨hN, h⟩
    | tail _ hedit ih => exact ⟨hedit.names.trans ih.1, hI _ _ hedit ih.1 ih.2⟩
  exact hchain _ hedited

theorem perform_keeps {I : NetworkControlPlane → Prop}
    (hI : ∀ p q, RecordEdit ops N permits p q → p.names = N → I p → I q) (op : Operation)
    (hpermits : ∀ ip4 netmask4 gateway4 dns4 manualMetric,
      op = .applyEthernetStatic ip4 netmask4 gateway4 dns4 manualMetric →
      permits ⟨true, ip4, netmask4, gateway4, dns4, manualMetric⟩)
    {s : Run W} (hN : s.plane.names = N) (h : I s.plane) : I (after (op.perform ops) s).plane :=
  (edits_keep hI (byEdits_perform op hpermits s hN).2 hN h).2

end Edits

end NetworkService.ControlPlane
