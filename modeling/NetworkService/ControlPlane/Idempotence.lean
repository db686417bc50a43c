import NetworkService.ControlPlane.Convergence
import NetworkService.ControlPlane.SettledDns

/-!
# A second reconcile does nothing

A full `reconcile` that returns `true` leaves three things settled: every managed lease is the
one the records hold, every wanted address and route is in the kernel under its owned record,
and the resolver is what the records call for.  From such a state a further `reconcile` finds
nothing to do: it reads leases and snapshots, and changes neither the records nor the machine.

What has to be ruled out is a default route besides the owned one, which a snapshot might show
in its place; the passes of the service add none.
-/

namespace NetworkService.ControlPlane

open Fallible NetworkControlPlane

/-- The calls that change addresses, default routes or the resolver. -/
def PortCall.mutates : PortCall → Bool
  | .applyIpv4 _ _ _ | .clearIpv4 _ | .setDefaultRoute _ _ _ | .clearDefaultRoute _ _ _
  | .setDns _ | .clearDns => true
  | .startDhcp _ | .stopDhcp _ | .readLease _ | .clearLease _ | .snapshot => false

variable {W : Type} (K : KernelPorts W)

/-- Every default route of a managed interface is the owned one. -/
def OwnRoutesOnly (s : Run W) : Prop :=
  ∀ r ∈ (K.viewOf s).routes, r.iface = K.names.eth ∨ r.iface = K.names.wifi →
    s.plane.ownedRouteFor r.iface = ⟨true, r.gateway4, r.metric⟩

instance (s : Run W) : Decidable (OwnRoutesOnly K s) :=
  inferInstanceAs (Decidable (∀ r ∈ (K.viewOf s).routes,
    r.iface = K.names.eth ∨ r.iface = K.names.wifi →
      s.plane.ownedRouteFor r.iface = ⟨true, r.gateway4, r.metric⟩))

/-- A snapshot shows the address of a present interface. -/
def ShowsAddresses : Prop :=
  ∀ w, (∀ a, (K.view w).present K.names.eth = true → (K.view w).address K.names.eth = some a →
      (K.call .snapshot w).1.eth.hasIp = true) ∧
    (∀ a, (K.view w).present K.names.wifi = true → (K.view w).address K.names.wifi = some a →
      (K.call .snapshot w).1.wifi.hasIp = true)

/-- What the lease readers report. -/
def leaseReplies (s : Run W) (iface : String) : Except String (Option DhcpLeaseFact) :=
  (K.call (.readLease iface) s.world).1

/-- Leases change only when a client is started, stopped or cleared. -/
def LeasesStay : Prop :=
  ∀ (c : PortCall) (w : W) (iface : String), c.changesLeases = false →
    (K.call (.readLease iface) (K.call c w).2).1 = (K.call (.readLease iface) w).1

/-! ### Default routes -/

section Routes

variable {K} {s t : Run W}

theorem OwnRoutesOnly.of_same (h : OwnRoutesOnly K s)
    (howned : ∀ iface, t.plane.ownedRouteFor iface = s.plane.ownedRouteFor iface)
    (hroutes : (K.viewOf t).routes = (K.viewOf s).routes) : OwnRoutesOnly K t := by
  intro r hr hiface
  rw [howned]
  rw [hroutes] at hr
  exact h r hr hiface

/-- The record of one interface changes together with its routes. -/
theorem OwnRoutesOnly.step {iface : String} {route : OwnedRouteState} (h : OwnRoutesOnly K s)
    (hnames : s.plane.names = K.names) (hiface : iface = K.names.eth ∨ iface = K.names.wifi)
    (hplane : t.plane = s.plane.setOwnedRoute iface route)
    (hother : ∀ r ∈ (K.viewOf t).routes, r.iface ≠ iface → r ∈ (K.viewOf s).routes)
    (hown : ∀ r ∈ (K.viewOf t).routes, r.iface = iface → route = ⟨true, r.gateway4, r.metric⟩) :
    OwnRoutesOnly K t := by
  intro r hr hr'
  rw [hplane]
  rw [← hnames] at hiface
  by_cases hsame : r.iface = iface
  · rw [hsame, ownedRouteFor_setOwnedRoute]
    exact hown r hr hsame
  · rw [ownedRouteFor_setOwnedRoute_ne (by rw [hnames]; exact hr') hiface (Ne.symm hsame)]
    exact h r (hother r hr hsame) hr'

theorem OwnRoutesOnly.move {iface : String} (h : OwnRoutesOnly K s)
    (hnames : s.plane.names = K.names) (hiface : iface = K.names.eth ∨ iface = K.names.wifi)
    (hmove : RouteMove K iface s t) : OwnRoutesOnly K t := by
  cases hmove with
  | stayed hplane hview =>
    exact h.of_same (fun _ => by rw [hplane]) (congrArg KernelView.routes hview)
  | cleared hactive hplane hview =>
    have hroutes : (K.viewOf t).routes = (K.viewOf s).routes.erase
        ⟨iface, (s.plane.ownedRouteFor iface).gateway4, (s.plane.ownedRouteFor iface).metric⟩ :=
      congrArg KernelView.routes hview
    refine h.step hnames hiface hplane (fun r hr _ => ?_) fun r hr hsame => ?_
    · rw [hroutes] at hr
      exact Finset.mem_of_mem_erase hr
    · -- the only route the interface had is the one erased
      rw [hroutes, Finset.mem_erase] at hr
      have howned := h r hr.2 (hsame ▸ hiface)
      rw [hsame] at howned
      refine absurd ?_ hr.1
      rw [howned, ← hsame]
  | set gateway4 metric hfree hplane hview =>
    have hroutes : (K.viewOf t).routes =
        insert ⟨iface, gateway4, metric⟩ (K.viewOf s).routes := congrArg KernelView.routes hview
    refine h.step hnames hiface hplane (fun r hr hne => ?_) fun r hr hsame => ?_
    · rw [hroutes, Finset.mem_insert] at hr
      refine hr.resolve_left fun heq => hne ?_
      rw [heq]
    · rw [hroutes, Finset.mem_insert] at hr
      rcases hr with rfl | hr
      · rfl
      · have howned := h r hr (hsame ▸ hiface)
        rw [hsame] at howned
        rw [howned] at hfree
        obtain ⟨hgw, hmetric⟩ : r.gateway4 = gateway4 ∧ r.metric = metric := hfree rfl
        rw [hgw, hmetric]

/-- **No operation adds a default route beside the owned one.** -/
theorem ownRoutesSteps :
    Steps K.toNetworkControlPlaneOps K.names (Keeping (OwnRoutesOnly K)) :=
  steps_of_moves K (fun _ _ howned hroutes h => h.of_same howned hroutes)
    fun _ hiface _ _ hN hmove h => h.move hN hiface hmove

end Routes

/-! ### Leases -/

section Leases

variable {K} {s t : Run W}

/-- The lease of a managed link is the one its record holds. -/
def LeaseKept (K : KernelPorts W) (iface : String) (s : Run W) : Prop :=
  (s.plane.linkFor iface).managedDhcp = true → ∃ lease, leaseReplies K s iface = .ok lease ∧
    ∀ fact, lease = some fact → fact.fingerprint = (s.plane.linkFor iface).fingerprint

theorem LeaseKept.of_same {iface : String} (h : LeaseKept K iface s)
    (hlink : t.plane.linkFor iface = s.plane.linkFor iface)
    (hreplies : leaseReplies K t = leaseReplies K s) : LeaseKept K iface t := by
  unfold LeaseKept
  rw [hlink, hreplies]
  exact h

variable (hstay : LeasesStay K)

include hstay

theorem leaseReplies_call (c : PortCall) (hc : c.changesLeases = false) :
    Along (Framing (leaseReplies K)) (invoke K.toNetworkControlPlaneOps c) := by
  intro s
  funext iface
  exact hstay c s.world iface hc

theorem leaseReplies_linkSteps (iface : String) :
    LinkSteps K.toNetworkControlPlaneOps iface (Framing (leaseReplies K)) where
  call c _ hc := leaseReplies_call hstay c hc
  route _ _ := rfl
  link _ _ := rfl

theorem leaseReplies_repairs (N : IfaceNames) :
    RepairSteps K.toNetworkControlPlaneOps N (Framing (leaseReplies K)) := by
  have hlink := leaseReplies_linkSteps hstay
  refine ⟨⟨fun iface _ => ?_, fun iface gateway4 metric _ => ?_⟩, fun iface ip4 netmask4 => ?_, ?_⟩
  · exact within_of_names (clearOwnedRouteLocked_names _ iface) (hlink iface).clear
  · exact within_of_names (fun s => ensureOwnedRouteLocked_names _ iface s gateway4 metric)
      ((hlink iface).ensure gateway4 metric)
  · exact within_of_names (fun _ => rfl) (leaseReplies_call hstay (.applyIpv4 iface ip4 netmask4) rfl)
  · exact within_of_names (fun _ => rfl) (leaseReplies_call hstay .snapshot rfl)

theorem leaseReplies_dnsSteps : DnsSteps K.toNetworkControlPlaneOps (Framing (leaseReplies K)) where
  call c hc := leaseReplies_call hstay c (by cases c <;> first | rfl | exact nomatch hc)
  edit _ _ _ := rfl

/-- A link pass that completes has kept the fact it read. -/
theorem reconcileLinkLocked_kept (iface : String) :
    wp (reconcileLinkLocked K.toNetworkControlPlaneOps iface) (fun _ t => LeaseKept K iface t)
      (fun _ _ => True) s := by
  -- what is written last, after a part that leaves the leases alone
  have hwritten : ∀ (active : Bool) {fact : DhcpLeaseFact} {m : Op W Unit} {u : Run W},
      Along (Framing (leaseReplies K)) m → leaseReplies K u iface = .ok (some fact) →
      wp m (fun _ t => t.plane.linkFor iface = { u.plane.linkFor iface with
          active := active, lease := fact, fingerprint := fact.fingerprint }) (fun _ _ => True) u →
      wp (do m; pure true) (fun _ t => LeaseKept K iface t) (fun _ _ => True) u := by
    intro active fact m u hm hread hlink
    rw [wp_bind]
    refine wp_mono (wp_and hlink (wp_of_after (I := fun t => leaseReplies K t = _) (hm u)))
      (fun _ t ht _ => ⟨some fact, ?_, fun fact' hfact => ?_⟩) (fun _ _ _ => trivial)
    · rw [ht.2]
      exact hread
    · obtain rfl := Option.some.inj hfact
      rw [ht.1]
  unfold reconcileLinkLocked
  rw [wp_bind, wp_getPlane]
  refine wp_split (fun _ => ?_) fun hunmanaged hmanaged => absurd hmanaged hunmanaged
  rw [wp_bind, wp_require, K.wired, if_pos rfl, wp_bind]
  refine wp_invoke.mpr ?_
  rw [wp_bind, wp_check]
  refine ⟨fun lease hread => ?_, fun _ _ => trivial⟩
  have hreplies : ∀ {t : Run W}, t.world = (K.call (.readLease iface) s.world).2 →
      leaseReplies K t iface = .ok lease := by
    intro t ht
    unfold leaseReplies
    rw [ht]
    exact (hstay (.readLease iface) s.world iface rfl).trans hread
  cases lease with
  | none => exact fun _ => ⟨none, hreplies rfl, fun _ hfact => nomatch hfact⟩
  | some fact =>
    refine wp_split (fun hsame _ => ⟨some fact, hreplies rfl, fun fact' hfact => ?_⟩) fun _ =>
      wp_split (fun _ => ?_) fun _ => ?_
    · obtain rfl := Option.some.inj hfact
      exact hsame
    · refine hwritten false ?_ (hreplies rfl) ?_
      · refine Along.bind (leaseReplies_linkSteps hstay iface).clear fun _ => ?_
        refine Along.bind (Along.when ?_) fun _ => (leaseReplies_linkSteps hstay iface).link _
        exact Along.bind (leaseReplies_call hstay (.clearIpv4 iface) rfl) fun r => along_check r
      · refine deconfigureLink_leaves _ (fun t ht => ?_) fun _ _ _ _ => trivial
        rw [ht, linkFor_setLink]
    · refine hwritten true ?_ (hreplies rfl) ?_
      · refine Along.bind (Along.require _ _) fun _ => Along.bind (Along.require _ _) fun _ => ?_
        refine Along.bind (leaseReplies_call hstay (.applyIpv4 iface _ _) rfl) fun r => ?_
        refine Along.bind (along_check r) fun _ => Along.bind ?_ fun _ =>
          (leaseReplies_linkSteps hstay iface).link _
        exact Along.bind along_getPlane fun p => Along.ite
          ((leaseReplies_linkSteps hstay iface).ensure _ _)
          (leaseReplies_linkSteps hstay iface).clear
      · refine configureLink_leaves _ (fun _ t ht => ?_) (fun _ => trivial) fun _ _ _ _ => trivial
        rw [ht, linkFor_setLink]

omit hstay in
/-- The pass of one link leaves the other as it was. -/
theorem reconcileLinkLocked_others {iface other : String} (hne : iface ≠ other)
    (hiface : s.plane.knownIface iface = true) (hother : s.plane.knownIface other = true) :
    (after (reconcileLinkLocked K.toNetworkControlPlaneOps iface) s).plane.linkFor other =
      s.plane.linkFor other := by
  rw [knownIface_iff] at hiface hother
  have hwritten : ∀ p q : NetworkControlPlane, p.config = s.plane.config →
      ∀ link, q = p.setLink iface link → q.linkFor other = s.plane.linkFor other := by
    intro p q hp link hq
    have hnames : p.names = s.plane.names := congrArg (·.names) hp
    rw [hq, linkFor_setLink_ne (by rw [hnames]; exact hother) (by rw [hnames]; exact hiface) hne]
    exact (congrArg (·.linkFor other) hp :)
  have hwithdrawn := config_withdraw s.plane iface
  refine after_of_wp (I := fun t : Run W => t.plane.linkFor other = _) ?_
  refine reconcileLinkLocked_leaves _ (fun t ht => by rw [ht]) (fun _ fact t ht => ?_)
    (fun _ fact t _ ht => ?_) (fun _ t ht => by rw [ht]) fun _ _ t ht => ?_
  · exact hwritten _ _ hwithdrawn _ ht
  · exact hwritten _ _ (config_leaseRouted s.plane iface fact) _ ht
  · rcases ht with ht | ht
    · rw [ht]
    · rw [ht]
      exact (congrArg (·.linkFor other) hwithdrawn :)

end Leases

/-! ### After a completed pass -/

/-- There is nothing left to do. -/
structure Steady (s : Run W) : Prop where
  names : s.plane.names = K.names
  routes : OwnRoutesOnly K s
  eth : Repaired (K.viewOf s) K.names.eth s.plane.ethAddress s.plane.desiredEth
  wifi : Repaired (K.viewOf s) K.names.wifi s.plane.wifiAddress s.plane.desiredWifi
  ethLease : LeaseKept K K.names.eth s
  wifiLease : LeaseKept K K.names.wifi s
  initialized : s.plane.dnsOwnershipInitialized = true
  resolver : DnsSettled s.plane (K.viewOf s)

section FirstPass

variable {K} {s : Run W} (hstay : LeasesStay K) (hnames : s.plane.names = K.names)

include hnames

theorem reconcile_names :
    (after (reconcile K.toNetworkControlPlaneOps) s).plane.names = K.names :=
  ((namesSteps K.toNetworkControlPlaneOps K.names).passes.reconcile s hnames).1

theorem reconcile_resolves :
    wp (reconcile K.toNetworkControlPlaneOps)
      (fun _ t => t.plane.dnsOwnershipInitialized = true ∧ DnsSettled t.plane (K.viewOf t))
      (fun _ _ => True) s := by
  have hsteps := namesSteps K.toNetworkControlPlaneOps K.names
  unfold reconcile
  rw [wp_bind]
  refine wp_mono (wp_of_after (I := fun t : Run W => t.plane.names = K.names)
    (hsteps.passes.reconcileLinks s hnames).1) (fun _ t ht => ?_) fun _ _ _ => trivial
  rw [wp_bind]
  refine wp_mono (wp_of_after (I := fun u : Run W => u.plane.names = K.names)
    (hsteps.repairs.repairOwnedState t ht).1) (fun _ u hu => ?_) fun _ _ _ => trivial
  exact wp_mono (wp_recomputeDnsLocked_settled hu) (fun _ _ h => ⟨h.2, h.1.settled h.2⟩)
    fun _ _ _ => trivial

include hstay

theorem reconcileLinks_kept :
    wp (reconcileLinks K.toNetworkControlPlaneOps)
      (fun _ t => LeaseKept K K.names.eth t ∧ LeaseKept K K.names.wifi t) (fun _ _ => True) s := by
  have hsteps := namesSteps K.toNetworkControlPlaneOps K.names
  unfold reconcileLinks
  rw [wp_bind, wp_getPlane, hnames, wp_bind]
  refine wp_mono (wp_and (reconcileLinkLocked_kept hstay K.names.eth)
    (wp_of_after (I := fun t : Run W => t.plane.names = K.names)
      (hsteps.passes.reconcileLink K.names.eth (Or.inl rfl) s hnames).1)) (fun _ t ht => ?_)
    fun _ _ _ => trivial
  -- the Wi-Fi pass leaves what the Ethernet pass has kept
  have hothers := reconcileLinkLocked_others (K := K) (s := t) (Ne.symm K.names.distinct)
    (by rw [knownIface_iff, ht.2]; exact Or.inr rfl)
    (by rw [knownIface_iff, ht.2]; exact Or.inl rfl)
  have hreplies := (leaseReplies_linkSteps hstay K.names.wifi).reconcileLink t
  rw [wp_bind]
  refine wp_mono (wp_and (reconcileLinkLocked_kept hstay K.names.wifi)
    (wp_of_after (I := fun u : Run W => LeaseKept K K.names.eth u)
      (ht.1.of_same hothers hreplies))) (fun _ u hu => ⟨hu.2, hu.1⟩) fun _ _ _ => trivial

omit hnames in
theorem LeaseKept.refreshed {iface : String} (h : LeaseKept K iface s) :
    LeaseKept K iface (after (refreshExternalState K.toNetworkControlPlaneOps) s) := by
  have hconfig : Along (Framing configOf) (refreshExternalState K.toNetworkControlPlaneOps) :=
    Along.bind (repairOwnedStateLocked_config _) fun _ => recomputeDnsLocked_config _
  have hrepair : Along (Framing (leaseReplies K))
      (repairOwnedStateLocked K.toNetworkControlPlaneOps) :=
    fun t => ((leaseReplies_repairs hstay t.plane.names).repairOwnedState t rfl).2
  refine h.of_same (congrArg (·.linkFor iface) (hconfig s) :) ?_
  exact Along.bind (R := Framing (leaseReplies K)) hrepair
    (fun _ => (leaseReplies_dnsSteps hstay).recomputeDns) s

theorem reconcile_kept :
    wp (reconcile K.toNetworkControlPlaneOps)
      (fun _ t => LeaseKept K K.names.eth t ∧ LeaseKept K K.names.wifi t) (fun _ _ => True) s := by
  unfold reconcile
  rw [wp_bind]
  refine wp_mono (reconcileLinks_kept hstay hnames) (fun _ t ht => ?_) fun _ _ h => h
  refine wp_mono (wp_of_after
    (m := refreshExternalState K.toNetworkControlPlaneOps)
    (I := fun u => LeaseKept K K.names.eth u ∧ LeaseKept K K.names.wifi u)
    ⟨ht.1.refreshed hstay, ht.2.refreshed hstay⟩) (fun _ _ h => h) fun _ _ _ => trivial

/-- **A reconcile that returns `true` leaves nothing to do.** -/
theorem reconcile_steady (hs : Consistent s.plane) (hroutes : OwnRoutesOnly K s) :
    wp (reconcile K.toNetworkControlPlaneOps) (fun _ t => Steady K t) (fun _ _ => True) s := by
  have hkept := wp_of_after (I := fun t : Run W => t.plane.names = K.names ∧ OwnRoutesOnly K t)
    ⟨reconcile_names hnames, (ownRoutesSteps.passes.reconcile s hnames).2 hroutes⟩
  refine wp_mono (wp_and (wp_and (reconcile_restores K hs hnames) hkept)
    (wp_and (reconcile_kept hstay hnames) (reconcile_resolves hnames))) (fun _ t ht => ?_)
    fun _ _ _ => trivial
  obtain ⟨⟨hrestored, hnames', hroutes'⟩, hleases, hinit, hresolver⟩ := ht
  exact ⟨hnames', hroutes', hrestored.eth, hrestored.wifi, hleases.1, hleases.2, hinit,
    hresolver⟩

end FirstPass

/-! ### The next pass -/

/-- From `s` to `t` leases and snapshots were read and nothing else happened. -/
structure Still (s t : Run W) : Prop where
  plane : t.plane = s.plane
  view : K.viewOf t = K.viewOf s
  leases : leaseReplies K t = leaseReplies K s
  calls : callsOf PortCall.mutates t.log = callsOf PortCall.mutates s.log

section SecondPass

variable {K} {s t u : Run W}

theorem Still.refl (s : Run W) : Still K s s := ⟨rfl, rfl, rfl, rfl⟩

theorem Still.trans (h : Still K s t) (h' : Still K t u) : Still K s u :=
  ⟨h'.plane.trans h.plane, h'.view.trans h.view, h'.leases.trans h.leases,
    h'.calls.trans h.calls⟩

theorem still_call (hstay : LeasesStay K) (c : PortCall) (hc : c.mutates = false)
    (hc' : c.changesLeases = false) :
    Still K s (s.record c (K.call c s.world).1 (K.call c s.world).2) := by
  refine ⟨rfl, ?_, leaseReplies_call hstay c hc' s, ?_⟩
  · show K.view (K.call c s.world).2 = K.view s.world
    cases hok : c.succeeded (K.call c s.world).1 with
    | false => exact K.harmless c s.world hok (by cases c <;> first | rfl | exact nomatch hc)
    | true =>
      rw [K.effective c s.world hok]
      cases c <;> first | rfl | exact nomatch hc
  · rw [callsOf_record, hc]
    rfl

theorem Steady.of_still (h : Steady K s) (hst : Still K s t) : Steady K t := by
  obtain ⟨hplane, hview, hleases, -⟩ := hst
  have hlease : ∀ {iface}, LeaseKept K iface s → LeaseKept K iface t :=
    fun hkept => hkept.of_same (by rw [hplane]) hleases
  refine ⟨?_, h.routes.of_same (fun iface => by rw [hplane]) (congrArg KernelView.routes hview),
    ?_, ?_, hlease h.ethLease, hlease h.wifiLease, ?_, ?_⟩
  · rw [hplane]
    exact h.names
  · rw [hplane, hview]
    exact h.eth
  · rw [hplane, hview]
    exact h.wifi
  · rw [hplane]
    exact h.initialized
  · rw [hplane, hview]
    exact h.resolver

variable {Q : Unit → Run W → Prop} {E : String → Run W → Prop} (hstay : LeasesStay K)

include hstay

theorem wp_reconcileLinkLocked_still {iface : String} {Q : Bool → Run W → Prop}
    (hkept : LeaseKept K iface s) (h : ∀ t, Still K s t → Q false t) :
    wp (reconcileLinkLocked K.toNetworkControlPlaneOps iface) Q E s := by
  unfold reconcileLinkLocked
  rw [wp_bind, wp_getPlane]
  refine wp_split (fun hmanaged => ?_) fun _ => h s (.refl s)
  obtain ⟨lease, hread, hfact⟩ := hkept hmanaged
  rw [wp_bind, wp_require, K.wired, if_pos rfl, wp_bind]
  refine wp_invoke.mpr ?_
  rw [show (K.call (.readLease iface) s.world).1 = .ok lease from hread]
  have hstill := h _ (still_call hstay (.readLease iface) rfl rfl)
  rw [show (K.call (.readLease iface) s.world).1 = .ok lease from hread] at hstill
  cases lease with
  | none => exact hstill
  | some fact =>
    refine wp_bind.mpr (wp_split (fun _ => hstill) fun hfresh => ?_)
    exact absurd (hfact fact rfl) hfresh

theorem wp_reconcileLinks_still {Q : Bool × Bool → Run W → Prop} (hs : Steady K s)
    (h : ∀ t, Still K s t → Q (false, false) t) :
    wp (reconcileLinks K.toNetworkControlPlaneOps) Q E s := by
  unfold reconcileLinks
  rw [wp_bind, wp_getPlane, hs.names, wp_bind]
  refine wp_reconcileLinkLocked_still hstay hs.ethLease fun t ht => ?_
  rw [wp_bind]
  refine wp_reconcileLinkLocked_still hstay (hs.of_still ht).wifiLease fun u hu => ?_
  exact h u (ht.trans hu)

omit hstay in
/-- The snapshot shows the wanted address. -/
theorem wp_repairIpv4_still {iface ip4 netmask4 : String} {observed : InterfaceSnapshot}
    (hreports : (K.viewOf s).Reports iface observed)
    (hshown : ∀ a, (K.viewOf s).present iface = true → (K.viewOf s).address iface = some a →
      observed.hasIp = true)
    (hcarried : (K.viewOf s).present iface = true → ip4 ≠ "" → netmask4 ≠ "" →
      (K.viewOf s).address iface = some (ip4, netmask4)) (h : Q () s) :
    wp (repairIpv4 K.toNetworkControlPlaneOps iface observed ip4 netmask4) Q E s := by
  unfold repairIpv4
  rw [wp_ite, wp_ite]
  split
  · exact h
  · next hwanted =>
    simp only [not_or, Decidable.not_not] at hwanted
    obtain ⟨hpresent, hip, hmask⟩ := hwanted
    rw [hreports.present] at hpresent
    have haddress := hcarried hpresent hip hmask
    have hhas := hshown _ hpresent haddress
    have hsame := (hreports.address hhas).symm.trans haddress
    simp only [Option.some.injEq, Prod.mk.injEq] at hsame
    rw [if_pos ⟨hhas, hsame.1, hsame.2⟩]
    exact h

omit hstay in
/-- The snapshot shows the wanted route: it can show no other. -/
theorem wp_repairRoute_still {iface gateway4 : String} {metric : Int} {observed : InterfaceSnapshot}
    (hreports : (K.viewOf s).Reports iface observed) (hroutes : OwnRoutesOnly K s)
    (hiface : iface = K.names.eth ∨ iface = K.names.wifi)
    (hheld : (K.viewOf s).present iface = true → s.plane.routeAllowed iface = true →
      gateway4 ≠ "" → ⟨iface, gateway4, metric⟩ ∈ (K.viewOf s).routes) (h : Q () s) :
    wp (repairRoute K.toNetworkControlPlaneOps iface observed gateway4 metric) Q E s := by
  unfold repairRoute
  rw [wp_bind, wp_getPlane, wp_ite, wp_ite]
  split
  · exact h
  · next hwanted =>
    simp only [not_or, Decidable.not_not] at hwanted
    obtain ⟨hpresent, hallowed, hgw⟩ := hwanted
    rw [hreports.present] at hpresent
    have hmem := hheld hpresent hallowed hgw
    have hlive := hreports.hasRoute_iff.mpr ⟨_, hmem, rfl⟩
    have howned := hroutes _ hmem hiface
    have hshown := (hroutes _ (hreports.route hlive) hiface).symm.trans howned
    simp only [OwnedRouteState.mk.injEq, true_and] at hshown
    dsimp only at howned
    rw [howned, if_pos ⟨rfl, rfl, rfl, hlive, hshown.1, hshown.2⟩]
    exact h

omit hstay in
theorem wp_repairEthernet_still {live : NetworkSnapshot} (hs : Steady K s)
    (hreports : (K.viewOf s).Reports K.names.eth live.eth)
    (hshown : ∀ a, (K.viewOf s).present K.names.eth = true →
      (K.viewOf s).address K.names.eth = some a → live.eth.hasIp = true) (h : Q () s) :
    wp (repairEthernet K.toNetworkControlPlaneOps live) Q E s := by
  obtain ⟨hcarried, hheld⟩ := hs.eth
  rw [← hs.names] at hreports hshown hcarried hheld
  have hiface : s.plane.names.eth = K.names.eth ∨ s.plane.names.eth = K.names.wifi :=
    Or.inl (by rw [hs.names])
  unfold repairEthernet
  rw [wp_bind, wp_getPlane]
  refine wp_split (fun hstatic => ?_) fun hstatic => wp_split (fun hdhcp => ?_) fun _ => h
  · rw [wp_bind]
    refine wp_repairIpv4_still hreports hshown (fun hpresent => hcarried hpresent _ _ ?_) ?_
    · exact if_pos hstatic
    refine wp_repairRoute_still hreports hs.routes hiface (fun hpresent hallowed hgw =>
      hheld hpresent _ _ ?_) h
    rw [routeAllowed_eth] at hallowed
    unfold desiredEth
    rw [if_neg hallowed, if_pos ⟨hstatic, hgw⟩]
  · rw [wp_bind]
    refine wp_repairIpv4_still hreports hshown (fun hpresent => hcarried hpresent _ _ ?_) ?_
    · unfold ethAddress
      rw [if_neg hstatic, if_pos hdhcp.1]
    refine wp_repairRoute_still hreports hs.routes hiface (fun hpresent hallowed hgw =>
      hheld hpresent _ _ ?_) h
    rw [routeAllowed_eth] at hallowed
    unfold desiredEth
    rw [if_neg hallowed, if_neg fun hc => hstatic hc.1, if_pos ⟨hdhcp.1, hgw⟩]

omit hstay in
theorem wp_repairWifi_still {live : NetworkSnapshot} (hs : Steady K s)
    (hreports : (K.viewOf s).Reports K.names.wifi live.wifi)
    (hshown : ∀ a, (K.viewOf s).present K.names.wifi = true →
      (K.viewOf s).address K.names.wifi = some a → live.wifi.hasIp = true) (h : Q () s) :
    wp (repairWifi K.toNetworkControlPlaneOps live) Q E s := by
  obtain ⟨hcarried, hheld⟩ := hs.wifi
  rw [← hs.names] at hreports hshown hcarried hheld
  have hiface : s.plane.names.wifi = K.names.eth ∨ s.plane.names.wifi = K.names.wifi :=
    Or.inr (by rw [hs.names])
  unfold repairWifi
  rw [wp_bind, wp_getPlane]
  refine wp_split (fun hdhcp => ?_) fun _ => h
  rw [wp_bind]
  refine wp_repairIpv4_still hreports hshown (fun hpresent => hcarried hpresent _ _ ?_) ?_
  · exact if_pos hdhcp.1
  refine wp_repairRoute_still hreports hs.routes hiface (fun hpresent _ hgw =>
    hheld hpresent _ _ ?_) h
  exact if_pos ⟨hdhcp.1, hgw⟩

theorem wp_repairOwnedStateLocked_still (hshows : ShowsAddresses K) (hs : Steady K s)
    (h : ∀ t, Still K s t → Q () t) :
    wp (repairOwnedStateLocked K.toNetworkControlPlaneOps) Q E s := by
  unfold repairOwnedStateLocked
  rw [wp_ite, if_pos (K.wired _), wp_bind]
  refine wp_invoke.mpr ?_
  have hstill := still_call (s := s) hstay .snapshot rfl rfl
  have hview : K.viewOf (s.record .snapshot (K.call .snapshot s.world).1
      (K.call .snapshot s.world).2) = K.view s.world := hstill.view
  rw [wp_bind]
  refine wp_repairEthernet_still (hs.of_still hstill) ?_ ?_ ?_
  · rw [hview]
    exact K.reportsEth s.world
  · rw [hview]
    exact (hshows s.world).1
  refine wp_repairWifi_still (hs.of_still hstill) ?_ ?_ (h _ hstill)
  · rw [hview]
    exact K.reportsWifi s.world
  · rw [hview]
    exact (hshows s.world).2

theorem wp_recomputeDnsLocked_still (hs : Steady K s) (h : ∀ t, Still K s t → Q () t) :
    wp (recomputeDnsLocked K.toNetworkControlPlaneOps) Q E s := by
  have hobserved : wp (recomputeDnsLocked K.toNetworkControlPlaneOps) (fun _ t => Observed K s t)
      (fun _ _ => False) s :=
    wp_recomputeDnsLocked_observed K hs.names hs.initialized hs.resolver fun _ ht => ht
  refine wp_mono (wp_and hobserved (wp_of_after (I := fun t => leaseReplies K t = leaseReplies K s)
    ((leaseReplies_dnsSteps hstay).recomputeDns s))) (fun _ t ht => ?_) fun _ _ hno => hno.1.elim
  refine h t ⟨ht.1.plane, ht.1.view, ht.2, ht.1.log.callsOf fun e he => ?_⟩
  rw [he]
  rfl

/-- **A pass that has nothing to do does nothing.** -/
theorem wp_reconcile_still (hshows : ShowsAddresses K) (hs : Steady K s)
    (h : ∀ t, Still K s t → Q () t) : wp (reconcile K.toNetworkControlPlaneOps) Q E s := by
  unfold reconcile
  rw [wp_bind]
  refine wp_reconcileLinks_still hstay hs fun t ht => ?_
  rw [wp_bind]
  refine wp_repairOwnedStateLocked_still hstay hshows (hs.of_still ht) fun u hu => ?_
  refine wp_recomputeDnsLocked_still hstay (hs.of_still (ht.trans hu)) fun v hv => ?_
  exact h v ((ht.trans hu).trans hv)

end SecondPass

/-- **Reconciliation is idempotent.**  Let no managed interface have a default route besides
the owned one.  If `reconcile` returns `true` in a reachable state, then a second one, with
the leases unchanged, returns `true` as well, leaves the records as they are and changes
neither an address nor a default route nor the resolver. -/
theorem reconcile_idempotent (K : KernelPorts W) (hstay : LeasesStay K) (hshows : ShowsAddresses K)
    {allowed : Run W → Operation → Prop} {s t : Run W}
    (hs : Reachable K.toNetworkControlPlaneOps allowed s) (hnames : s.plane.names = K.names)
    (hroutes : OwnRoutesOnly K s)
    (hfirst : Operation.reconcile.perform K.toNetworkControlPlaneOps s = .ok () t) :
    ∃ u, Operation.reconcile.perform K.toNetworkControlPlaneOps t = .ok () u ∧
      u.plane = t.plane ∧
      callsOf PortCall.mutates u.log = callsOf PortCall.mutates t.log := by
  have hsteady : Steady K t := by
    have hwp := reconcile_steady hstay hnames hs.consistent hroutes
    unfold wp at hwp
    rw [show reconcile K.toNetworkControlPlaneOps s = .ok () t from hfirst] at hwp
    exact hwp
  obtain ⟨_, u, hrun, hstill⟩ := run_of_wp (Q := fun _ u => Still K t u)
    (wp_reconcile_still hstay hshows hsteady fun _ hu => hu)
  exact ⟨u, hrun, hstill.plane, hstill.calls⟩

/-- Both links have just been given leases. -/
def leasedRun : Run Machine :=
  let ops := machinePorts.toNetworkControlPlaneOps
  let wired := after ((Operation.startDhcp "eth0").perform ops) (fresh .standard {})
  let both := after ((Operation.startDhcp "wlan0").perform ops) wired
  { both with world :=
    { both.world with ethLease := some wiredLease, wifiLease := some accessPointLease } }

theorem machinePorts_leasesStay : LeasesStay machinePorts := by
  intro c m iface hc
  have hkeep : (m.call c).2.ethLease = m.ethLease ∧ (m.call c).2.wifiLease = m.wifiLease := by
    cases c with
    | startDhcp _ | stopDhcp _ | clearLease _ => exact nomatch hc
    | applyIpv4 _ _ _ | clearIpv4 _ | setDefaultRoute _ _ _ | clearDefaultRoute _ _ _
    | readLease _ | snapshot => exact ⟨rfl, rfl⟩
    | setDns dns4 => cases hbroken : m.resolverBroken <;> simp [Machine.call, hbroken]
    | clearDns =>
      cases hmarker : m.marker <;> cases hbroken : m.resolverBroken <;>
        simp [Machine.call, hmarker, hbroken]
  show Except.ok (if iface = "eth0" then (m.call c).2.ethLease else (m.call c).2.wifiLease) = _
  rw [hkeep.1, hkeep.2]
  rfl

theorem machinePorts_showsAddresses : ShowsAddresses machinePorts := by
  intro m
  refine ⟨fun a _ haddress => ?_, fun a _ haddress => ?_⟩
  · exact Option.isSome_iff_exists.mpr ⟨a, haddress⟩
  · exact Option.isSome_iff_exists.mpr ⟨a, haddress⟩

theorem reconcile_idempotent_leasedRun :
    let ops := machinePorts.toNetworkControlPlaneOps
    let t := after (Operation.reconcile.perform ops) leasedRun
    callsOf PortCall.mutates t.log ≠ callsOf PortCall.mutates leasedRun.log ∧
      t.plane.eth.active = true ∧ t.plane.wifi.active = true ∧
      ∃ u, Operation.reconcile.perform ops t = .ok () u ∧ u.plane = t.plane ∧
        callsOf PortCall.mutates u.log = callsOf PortCall.mutates t.log := by
  have hreach : Reachable machinePorts.toNetworkControlPlaneOps (fun _ _ => True) leasedRun :=
    .environment _ (.perform _ (.perform _ (.fresh _ _) trivial) trivial)
  have hfirst : Operation.reconcile.perform machinePorts.toNetworkControlPlaneOps leasedRun =
      .ok () _ := run_of_completes (by decide +kernel)
  refine ⟨by decide +kernel, by decide +kernel, by decide +kernel, ?_⟩
  exact reconcile_idempotent machinePorts machinePorts_leasesStay machinePorts_showsAddresses hreach
    (by decide +kernel) (by decide +kernel) hfirst

end NetworkService.ControlPlane
