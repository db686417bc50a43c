import NetworkService.ControlPlane.Operations

/-!
# What an operation can do

Every operation is put together from a few kinds of steps: clearing or ensuring an owned
route, calling a port that is not a default-route port, and editing records other than the
owned routes.  A preorder on runs that these steps follow is followed by every operation
(`Steps.perform`), on success and at every early return, so an invariant or a frame
condition is checked step by step once and then holds of whole operations.
-/

namespace NetworkService.ControlPlane

open Fallible

/-- The calls that set or clear a default route. -/
def PortCall.isRouteCall : PortCall → Bool
  | .setDefaultRoute _ _ _ | .clearDefaultRoute _ _ _ => true
  | _ => false

/-- The calls of a DNS pass. -/
def PortCall.isDnsCall : PortCall → Bool
  | .setDns _ | .clearDns | .snapshot => true
  | _ => false

/-- The calls that write the resolver file. -/
def PortCall.writesDns : PortCall → Bool
  | .setDns _ | .clearDns => true
  | _ => false

def PortCall.setsDns : PortCall → Bool
  | .setDns _ => true
  | _ => false

/-- The calls that touch neither a default route nor the resolver. -/
def PortCall.isPlain : PortCall → Bool
  | .setDefaultRoute _ _ _ | .clearDefaultRoute _ _ _ | .setDns _ | .clearDns => false
  | _ => true

/-- The calls that begin or end a DHCP lease. -/
def PortCall.changesLeases : PortCall → Bool
  | .startDhcp _ | .stopDhcp _ | .clearLease _ => true
  | _ => false

/-- The assignments to the resolver records. -/
inductive DnsEdit : (NetworkControlPlane → NetworkControlPlane) → Prop
  | dns (managed : Bool) (last : String) :
      DnsEdit fun p => { p with managedDns := managed, lastDns := last }
  | initializeDns (managed : Bool) (last : String) :
      DnsEdit fun p =>
        { p with dnsOwnershipInitialized := true, managedDns := managed, lastDns := last }
  | initializeBlind : DnsEdit fun p => { p with dnsOwnershipInitialized := true }

/-- The assignments to the link, static and policy records. -/
inductive Edit : (NetworkControlPlane → NetworkControlPlane) → Prop
  | link (iface : String) (f : NetworkControlPlane → LinkState) :
      Edit fun p => p.setLink iface (f p)
  | dropStatic (iface : String) :
      Edit fun p => if iface = p.names.eth then { p with staticEth := {} } else p
  | dropEthernet : Edit fun p => { p with eth := {}, staticEth := {} }
  | static (st : StaticEthernetState) : Edit fun p => { p with staticEth := st }
  | policy (policy : RoutePolicy) : Edit fun p => { p with routePolicy := policy }

/-- These assignments leave the owned routes alone. -/
theorem ownedRouteFor_edit {f : NetworkControlPlane → NetworkControlPlane} (hf : Edit f)
    (p : NetworkControlPlane) (iface : String) :
    (f p).ownedRouteFor iface = p.ownedRouteFor iface := by
  cases hf with
  | link i g => exact p.ownedRouteFor_setLink i (g p)
  | dropStatic i =>
    show (if i = p.names.eth then _ else _ : NetworkControlPlane).ownedRouteFor iface = _
    split <;> rfl
  | dropEthernet => rfl
  | static st => rfl
  | policy policy => rfl

variable {W α : Type}

/-- The steps of a DNS pass go up in `R`. -/
structure DnsSteps (ops : NetworkControlPlaneOps W) (R : Run W → Run W → Prop) : Prop where
  call : ∀ c : PortCall, c.isDnsCall = true → Along R (invoke ops c)
  edit : ∀ f, DnsEdit f → Along R (modifyPlane f)

/-- `R` between runs of a control plane with the names `N`, which no step changes. -/
def Within (N : IfaceNames) (R : Run W → Run W → Prop) (s t : Run W) : Prop :=
  s.plane.names = N → t.plane.names = N ∧ R s t

/-- What goes up in `R` and keeps the names goes up within them. -/
theorem within_of_names {N : IfaceNames} {R : Run W → Run W → Prop} {m : Op W α}
    (hnames : ∀ s, (after m s).plane.names = s.plane.names) (hm : Along R m) :
    Along (Within N R) m := by
  intro s hN
  exact ⟨(hnames s).trans hN, hm s⟩

/-- Framing a part that shows the names keeps them. -/
theorem within_framing {N : IfaceNames} {β : Type} {part : Run W → β} (names : β → IfaceNames)
    (hpart : ∀ s, names (part s) = s.plane.names) {m : Op W α} (hm : Along (Framing part) m) :
    Along (Within N (Framing part)) m :=
  within_of_names (fun s => by rw [← hpart, hm s, hpart]) hm

/-- The two functions that touch owned routes go up in `R` for both interfaces of `N`. -/
structure RouteSteps (ops : NetworkControlPlaneOps W) (N : IfaceNames)
    (R : Run W → Run W → Prop) : Prop where
  clear : ∀ iface, iface = N.eth ∨ iface = N.wifi →
    Along (Within N R) (clearOwnedRouteLocked ops iface)
  ensure : ∀ iface gateway4 metric, iface = N.eth ∨ iface = N.wifi →
    Along (Within N R) (ensureOwnedRouteLocked ops iface gateway4 metric)

/-- So do the two other calls of a repair pass. -/
structure RepairSteps (ops : NetworkControlPlaneOps W) (N : IfaceNames)
    (R : Run W → Run W → Prop) : Prop extends RouteSteps ops N R where
  apply : ∀ iface ip4 netmask4, Along (Within N R) (invoke ops (.applyIpv4 iface ip4 netmask4))
  look : Along (Within N R) (invoke ops .snapshot)

/-- So do all plain calls. -/
structure PortSteps (ops : NetworkControlPlaneOps W) (N : IfaceNames)
    (R : Run W → Run W → Prop) : Prop extends RouteSteps ops N R where
  call : ∀ c : PortCall, c.isPlain = true → Along (Within N R) (invoke ops c)

/-- So do the edits, and a DNS pass as a whole. -/
structure PassSteps (ops : NetworkControlPlaneOps W) (N : IfaceNames)
    (R : Run W → Run W → Prop) : Prop extends PortSteps ops N R where
  edit : ∀ f, Edit f → Along (Within N R) (modifyPlane f)
  recomputeDns : Along (Within N R) (recomputeDnsLocked ops)

/-- The steps of every operation go up in `R`. -/
structure Steps (ops : NetworkControlPlaneOps W) (N : IfaceNames)
    (R : Run W → Run W → Prop) : Prop extends PortSteps ops N R where
  dnsCall : ∀ c : PortCall, c.isDnsCall = true → Along (Within N R) (invoke ops c)
  dnsEdit : ∀ f, DnsEdit f → Along (Within N R) (modifyPlane f)
  edit : ∀ f, Edit f → Along (Within N R) (modifyPlane f)

variable {ops : NetworkControlPlaneOps W} {N : IfaceNames} {R : Run W → Run W → Prop}

instance [Std.Refl R] : Std.Refl (Within N R) := ⟨fun s hs => ⟨hs, Std.Refl.refl s⟩⟩

instance [IsTrans (Run W) R] : IsTrans (Run W) (Within N R) := by
  constructor
  intro s t u hst htu hs
  obtain ⟨ht, hR⟩ := hst hs
  obtain ⟨hu, hR'⟩ := htu ht
  exact ⟨hu, IsTrans.trans _ _ _ hR hR'⟩

/-- The records that are read carry the names. -/
theorem Within.getPlane {f : NetworkControlPlane → Op W α}
    (hf : ∀ p, p.names = N → Along (Within N R) (f p)) : Along (Within N R) (getPlane >>= f) :=
  fun s hs => hf s.plane hs s hs

theorem Steps.dns (h : Steps ops N R) : DnsSteps ops (Within N R) := ⟨h.dnsCall, h.dnsEdit⟩

/-! ### Growing logs -/

/-- The log has grown by calls that satisfy `P`. -/
def LogGrows (P : PortEvent → Prop) (s t : Run W) : Prop :=
  ∃ added, t.log = added ++ s.log ∧ ∀ e ∈ added, P e

instance (P : PortEvent → Prop) : Std.Refl (LogGrows (W := W) P) :=
  ⟨fun _ => ⟨[], rfl, fun _ hmem => nomatch hmem⟩⟩

instance (P : PortEvent → Prop) : IsTrans (Run W) (LogGrows P) := by
  constructor
  rintro s t u ⟨added, ht, hadded⟩ ⟨more, hu, hmore⟩
  refine ⟨more ++ added, by rw [hu, ht, List.append_assoc], fun e he => ?_⟩
  rcases List.mem_append.mp he with hmem | hmem
  · exact hmore e hmem
  · exact hadded e hmem

theorem LogGrows.record {P : PortEvent → Prop} {s : Run W} {c : PortCall} {r : c.Reply} {w : W}
    (h : P ⟨s.plane, c, c.succeeded r⟩) : LogGrows P s (s.record c r w) := by
  refine ⟨[⟨s.plane, c, c.succeeded r⟩], rfl, fun e he => ?_⟩
  rw [List.mem_singleton.mp he]
  exact h

/-- Calls of another kind do not count. -/
theorem LogGrows.callsOf {P : PortEvent → Prop} {kind : PortCall → Bool} {s t : Run W}
    (h : LogGrows P s t) (hP : ∀ e, P e → kind e.call = false) :
    callsOf kind t.log = callsOf kind s.log := by
  obtain ⟨added, hlog, hadded⟩ := h
  have hnone : ControlPlane.callsOf kind added = [] := by
    refine List.filter_eq_nil_iff.mpr fun c hc => ?_
    obtain ⟨e, he, rfl⟩ := List.mem_map.mp hc
    rw [hP e (hadded e he)]
    exact Bool.false_ne_true
  unfold ControlPlane.callsOf at hnone ⊢
  rw [hlog, List.map_append, List.filter_append, hnone, List.nil_append]

/-! ### A DNS pass -/

namespace DnsSteps

variable [Std.Refl R] (h : DnsSteps ops R)

include h

theorem loadLive (live : Option NetworkSnapshot) : Along R (loadLive ops live) := by
  cases live with
  | none => exact h.call .snapshot rfl
  | some current => exact Along.pure current

variable [IsTrans (Run W) R]

theorem releaseDns : Along R (releaseDns ops) := by
  refine Along.bind along_getPlane fun p => Along.ite ?_ (Along.pure ())
  refine Along.bind (Along.require _ _) fun _ => ?_
  refine Along.bind (h.call .clearDns rfl) fun r => ?_
  exact Along.bind (along_check r) fun _ => h.edit _ (.dns false "")

theorem applyDns (decision : DnsDecision) (live : Option NetworkSnapshot) :
    Along R (applyDns ops decision live) := by
  cases decision with
  | preserveExternal => exact h.releaseDns
  | select dns4 =>
    refine Along.ite h.releaseDns (Along.bind ?_ fun applied => Along.ite (Along.pure ()) ?_)
    · refine Along.bind along_getPlane fun p => Along.ite (Along.ite ?_ (Along.pure _))
        (Along.pure _)
      exact Along.bind (h.loadLive live) fun _ => Along.pure _
    · refine Along.bind (Along.require _ _) fun _ => ?_
      refine Along.bind (h.call (.setDns dns4) rfl) fun r => ?_
      exact Along.bind (along_check r) fun _ => h.edit _ (.dns true dns4)

theorem recomputeDns : Along R (recomputeDnsLocked ops) := by
  refine Along.bind ?_ fun live => Along.bind ?_ fun choice => h.applyDns _ _
  · refine Along.bind along_getPlane fun p => Along.ite (Along.pure _) (Along.ite ?_ ?_)
    · refine Along.bind (h.call .snapshot rfl) fun current => ?_
      exact Along.bind (h.edit _ (.initializeDns _ _)) fun _ => Along.pure _
    · exact Along.bind (h.edit _ .initializeBlind) fun _ => Along.pure _
  · refine Along.bind along_getPlane fun p => Along.ite ?_ (Along.pure _)
    exact Along.bind (h.loadLive live) fun _ => Along.pure _

end DnsSteps

/-! ### Owned routes -/

section OwnedRoutes

variable [Std.Refl R] [IsTrans (Run W) R]
  (hcall : ∀ c : PortCall, c.isRouteCall = true → Along R (invoke ops c))
  (hedit : ∀ iface route, Along R (modifyPlane fun p => p.setOwnedRoute iface route))

include hcall hedit

theorem clearOwnedRouteLocked_of_calls (iface : String) :
    Along R (clearOwnedRouteLocked ops iface) := by
  refine Along.bind along_getPlane fun p => Along.ite ?_ (Along.pure ())
  refine Along.bind (Along.require _ _) fun _ => Along.bind (hcall _ rfl) fun r => ?_
  exact Along.bind (along_check r) fun _ => hedit iface {}

theorem ensureOwnedRouteLocked_of_calls (iface gateway4 : String) (metric : Int) :
    Along R (ensureOwnedRouteLocked ops iface gateway4 metric) := by
  have hclear := clearOwnedRouteLocked_of_calls hcall hedit iface
  refine Along.ite hclear (Along.bind (Along.require _ _) fun _ => ?_)
  refine Along.bind along_getPlane fun p => Along.bind (Along.when hclear) fun _ => ?_
  refine Along.bind (hcall _ rfl) fun r => ?_
  exact Along.bind (along_check r) fun _ => hedit iface _

/-- What the route calls and the assignments to the owned routes follow, the route functions follow. -/
theorem routeSteps_of_calls : RouteSteps ops N R where
  clear iface _ s hN := ⟨(clearOwnedRouteLocked_names ops iface s).trans hN,
    clearOwnedRouteLocked_of_calls hcall hedit iface s⟩
  ensure iface gateway4 metric _ s hN :=
    ⟨(ensureOwnedRouteLocked_names ops iface s gateway4 metric).trans hN,
      ensureOwnedRouteLocked_of_calls hcall hedit iface gateway4 metric s⟩

end OwnedRoutes

/-! ### Route application -/

theorem RouteSteps.applyRoutes [IsTrans (Run W) R] (h : RouteSteps ops N R) :
    Along (Within N R) (applyRoutesLocked ops) := by
  have heth : Along (Within N R) (applyEthernetRoute ops) := by
    refine Within.getPlane fun p hp => ?_
    have hk : p.names.eth = N.eth ∨ p.names.eth = N.wifi := Or.inl (by rw [hp])
    exact Along.ite (Along.mapError (h.ensure _ _ _ hk))
      (Along.ite (Along.mapError (h.ensure _ _ _ hk)) (h.clear _ hk))
  have hwifi : Along (Within N R) (applyWifiRoute ops) := by
    refine Within.getPlane fun p hp => ?_
    have hk : p.names.wifi = N.eth ∨ p.names.wifi = N.wifi := Or.inr (by rw [hp])
    exact Along.ite (Along.mapError (h.ensure _ _ _ hk)) (h.clear _ hk)
  exact Along.bind heth fun _ => hwifi

/-! ### Drift repair -/

namespace RepairSteps

variable [Std.Refl R] [IsTrans (Run W) R] (h : RepairSteps ops N R)

include h

theorem repairIpv4 (iface : String) (observed : InterfaceSnapshot) (ip4 netmask4 : String) :
    Along (Within N R) (repairIpv4 ops iface observed ip4 netmask4) := by
  refine Along.ite (Along.pure _) (Along.ite (Along.pure _) ?_)
  refine Along.bind (Along.require _ _) fun _ => ?_
  exact Along.bind (h.apply iface ip4 netmask4) fun r => along_check r

theorem repairRoute (iface : String) (hk : iface = N.eth ∨ iface = N.wifi)
    (observed : InterfaceSnapshot) (gateway4 : String) (metric : Int) :
    Along (Within N R) (repairRoute ops iface observed gateway4 metric) := by
  refine Along.bind along_getPlane fun p => ?_
  exact Along.ite (Along.pure _) (Along.ite (Along.pure _) (h.ensure _ _ _ hk))

theorem repairEthernet (live : NetworkSnapshot) :
    Along (Within N R) (repairEthernet ops live) := by
  refine Within.getPlane fun p hp => ?_
  have hk : p.names.eth = N.eth ∨ p.names.eth = N.wifi := Or.inl (by rw [hp])
  refine Along.ite ?_ (Along.ite ?_ (Along.pure _))
  · exact Along.bind (h.repairIpv4 _ _ _ _) fun _ => h.repairRoute _ hk _ _ _
  · exact Along.bind (h.repairIpv4 _ _ _ _) fun _ => h.repairRoute _ hk _ _ _

theorem repairWifi (live : NetworkSnapshot) : Along (Within N R) (repairWifi ops live) := by
  refine Within.getPlane fun p hp => ?_
  have hk : p.names.wifi = N.eth ∨ p.names.wifi = N.wifi := Or.inr (by rw [hp])
  refine Along.ite ?_ (Along.pure _)
  exact Along.bind (h.repairIpv4 _ _ _ _) fun _ => h.repairRoute _ hk _ _ _

theorem repairOwnedState : Along (Within N R) (repairOwnedStateLocked ops) := by
  refine Along.ite (Along.bind (h.look) fun live => ?_) (Along.pure _)
  exact Along.bind (h.repairEthernet live) fun _ => h.repairWifi live

end RepairSteps

theorem PortSteps.repairs (h : PortSteps ops N R) : RepairSteps ops N R :=
  ⟨h.toRouteSteps, fun iface ip4 netmask4 => h.call (.applyIpv4 iface ip4 netmask4) rfl,
    h.call .snapshot rfl⟩

/-! ### The operations -/

namespace PassSteps

variable [Std.Refl R] [IsTrans (Run W) R] (h : PassSteps ops N R)

include h

theorem deconfigureLink (iface : String) (hk : iface = N.eth ∨ iface = N.wifi)
    (fact : DhcpLeaseFact) : Along (Within N R) (deconfigureLink ops iface fact) := by
  refine Along.bind (h.clear iface hk) fun _ => ?_
  refine Along.bind (Along.when ?_) fun _ => h.edit _ (.link iface _)
  exact Along.bind (h.call (.clearIpv4 iface) rfl) fun r => along_check r

theorem configureLink (iface : String) (hk : iface = N.eth ∨ iface = N.wifi)
    (fact : DhcpLeaseFact) : Along (Within N R) (configureLink ops iface fact) := by
  refine Along.bind (Along.require _ _) fun _ => Along.bind (Along.require _ _) fun _ => ?_
  refine Along.bind (h.call (.applyIpv4 iface fact.ip4 fact.netmask4) rfl) fun r => ?_
  refine Along.bind (along_check r) fun _ => Along.bind ?_ fun _ => h.edit _ (.link iface _)
  exact Along.bind along_getPlane fun p => Along.ite (h.ensure _ _ _ hk) (h.clear _ hk)

theorem reconcileLink (iface : String) (hk : iface = N.eth ∨ iface = N.wifi) :
    Along (Within N R) (reconcileLinkLocked ops iface) := by
  refine Along.bind along_getPlane fun p => Along.ite ?_ (Along.pure _)
  refine Along.bind (Along.require _ _) fun _ => ?_
  refine Along.bind (h.call (.readLease iface) rfl) fun reply => ?_
  refine Along.bind (along_check reply) fun lease => ?_
  cases lease with
  | none => exact Along.pure _
  | some fact =>
    refine Along.ite (Along.pure _) (Along.ite ?_ ?_)
    · exact Along.bind (h.deconfigureLink iface hk fact) fun _ => Along.pure _
    · exact Along.bind (h.configureLink iface hk fact) fun _ => Along.pure _

theorem reconcileLinks : Along (Within N R) (reconcileLinks ops) := by
  refine Within.getPlane fun p hp => ?_
  refine Along.bind (h.reconcileLink _ (Or.inl (by rw [hp]))) fun _ => ?_
  exact Along.bind (h.reconcileLink _ (Or.inr (by rw [hp]))) fun _ => Along.pure _

theorem startDhcp (iface : String) : Along (Within N R) (startDhcp ops iface) := by
  refine Within.getPlane fun p hp => Along.guard fun hknown => ?_
  have hk : iface = N.eth ∨ iface = N.wifi := by
    simpa only [NetworkControlPlane.knownIface, hp, decide_eq_true_eq] using hknown
  refine Along.bind (Along.require _ _) fun _ => ?_
  refine Along.bind (h.clear iface hk) fun _ => ?_
  refine Along.bind (h.call (.stopDhcp iface) rfl) fun _ => ?_
  refine Along.bind (h.call (.clearLease iface) rfl) fun _ => ?_
  refine Along.bind (Along.when ?_) fun _ => ?_
  · exact Along.bind (h.call (.clearIpv4 iface) rfl) fun _ => Along.pure _
  refine Along.bind (h.edit _ (.link iface _)) fun _ => ?_
  refine Along.bind (h.edit _ (.dropStatic iface)) fun _ => ?_
  refine Along.bind h.recomputeDns fun _ => ?_
  refine Along.bind (h.call (.startDhcp iface) rfl) fun r => ?_
  exact Along.bind (along_check r) fun _ => h.edit _ (.link iface _)

theorem stopDhcp (iface : String) : Along (Within N R) (stopDhcp ops iface) := by
  refine Within.getPlane fun p hp => Along.split (fun hknown => ?_) (fun _ => Along.pure _)
  have hk : iface = N.eth ∨ iface = N.wifi := by
    simpa only [NetworkControlPlane.knownIface, hp, decide_eq_true_eq] using hknown
  refine Along.bind (Along.attempt (h.clear iface hk)) fun _ => ?_
  refine Along.bind (Along.when ?_) fun _ => ?_
  · exact Along.bind (h.call (.stopDhcp iface) rfl) fun _ => Along.pure _
  refine Along.bind (Along.when ?_) fun _ => ?_
  · exact Along.bind (h.call (.clearLease iface) rfl) fun _ => Along.pure _
  refine Along.bind (Along.when ?_) fun _ => ?_
  · exact Along.bind (h.call (.clearIpv4 iface) rfl) fun _ => Along.pure _
  refine Along.bind (h.edit _ (.link iface _)) fun _ => ?_
  exact Along.bind (Along.attempt h.recomputeDns) fun _ => Along.pure _

theorem applyEthernetStatic (ip4 netmask4 gateway4 dns4 : String) (manualMetric : Int) :
    Along (Within N R) (applyEthernetStatic ops ip4 netmask4 gateway4 dns4 manualMetric) := by
  refine Along.bind (Along.require _ _) fun _ => Within.getPlane fun p hp => ?_
  refine Along.bind (h.clear _ (Or.inl (by rw [hp]))) fun _ => ?_
  refine Along.bind (h.call (.stopDhcp _) rfl) fun _ => ?_
  refine Along.bind (h.call (.clearLease _) rfl) fun _ => ?_
  refine Along.bind (h.edit _ .dropEthernet) fun _ => ?_
  refine Along.bind (h.call (.applyIpv4 _ _ _) rfl) fun r => ?_
  refine Along.bind (along_check r) fun _ => ?_
  refine Along.bind (h.edit _ (.static _)) fun _ => ?_
  exact Along.bind h.applyRoutes fun _ => h.recomputeDns

theorem reconcile : Along (Within N R) (reconcile ops) := by
  refine Along.bind h.reconcileLinks fun _ => ?_
  exact Along.bind h.repairs.repairOwnedState fun _ => h.recomputeDns

theorem reconcileChanged : Along (Within N R) (reconcileChanged ops) := by
  refine Along.bind (Along.attempt h.reconcileLinks) fun links => ?_
  cases links with
  | error e => exact Along.pure _
  | ok changed =>
    refine Along.bind along_getPlane fun p => Along.ite ?_ (Along.pure _)
    exact Along.bind (Along.attempt h.recomputeDns) fun _ => Along.pure _

theorem setRoutePolicy (policy : RoutePolicy) :
    Along (Within N R) (setRoutePolicy ops policy) := by
  refine Along.bind along_getPlane fun p => Along.bind (h.edit _ (.policy policy)) fun _ => ?_
  refine Along.bind (Along.attempt (Along.bind h.applyRoutes fun _ => h.recomputeDns))
    fun outcome => ?_
  cases outcome with
  | ok _ => exact Along.pure _
  | error failure =>
    refine Along.bind (h.edit _ (.policy _)) fun _ => ?_
    refine Along.bind (Along.attempt h.applyRoutes) fun _ => ?_
    exact Along.bind (Along.attempt h.recomputeDns) fun _ => Along.throw failure

/-- **Every operation but adoption is made of these steps.** -/
theorem perform (op : Operation) (hop : ∀ iface, op ≠ .adoptDhcp iface) :
    Along (Within N R) (op.perform ops) := by
  cases op with
  | startDhcp iface => exact h.startDhcp iface
  | stopDhcp iface => exact h.stopDhcp iface
  | adoptDhcp iface => exact absurd rfl (hop iface)
  | applyEthernetStatic ip4 netmask4 gateway4 dns4 manualMetric =>
    exact h.applyEthernetStatic ip4 netmask4 gateway4 dns4 manualMetric
  | reconcile => exact h.reconcile
  | reconcileChanged => exact Along.bind h.reconcileChanged fun _ => along_check _
  | refreshExternalState => exact Along.bind h.repairs.repairOwnedState fun _ => h.recomputeDns
  | setRoutePolicy policy => exact h.setRoutePolicy policy

end PassSteps

theorem Steps.passes [Std.Refl R] [IsTrans (Run W) R] (h : Steps ops N R) : PassSteps ops N R :=
  ⟨h.toPortSteps, h.edit, h.dns.recomputeDns⟩

theorem Steps.perform [Std.Refl R] [IsTrans (Run W) R] (h : Steps ops N R) (op : Operation)
    (hop : ∀ iface, op ≠ .adoptDhcp iface) : Along (Within N R) (op.perform ops) :=
  h.passes.perform op hop

/-- With a relation that always holds, what is left of the steps is that they keep the names. -/
theorem namesSteps (ops : NetworkControlPlaneOps W) (N : IfaceNames) :
    Steps ops N (Framing fun _ => ()) where
  clear iface _ s hN := ⟨(clearOwnedRouteLocked_names ops iface s).trans hN, rfl⟩
  ensure iface gateway4 metric _ s hN :=
    ⟨(ensureOwnedRouteLocked_names ops iface s gateway4 metric).trans hN, rfl⟩
  call _ _ _ hN := ⟨hN, rfl⟩
  dnsCall _ _ _ hN := ⟨hN, rfl⟩
  dnsEdit _ hf _ hN := by cases hf <;> exact ⟨hN, rfl⟩
  edit _ hf s hN := by
    refine ⟨Eq.trans ?_ hN, rfl⟩
    cases hf with
    | link iface g => exact NetworkControlPlane.setLink_names
    | dropStatic iface =>
      show (if iface = s.plane.names.eth then _ else _ : NetworkControlPlane).names = _
      split <;> rfl
    | dropEthernet => rfl
    | static st => rfl
    | policy policy => rfl

end NetworkService.ControlPlane
