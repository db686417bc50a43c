import Mathlib.Data.Finset.Basic
import NetworkService.ControlPlane.RoutePolicy

/-!
# The platform behind the ports

What the ports act on: the addresses, the default routes and the resolver file of the
machine.  `KernelPorts` is any platform whose calls have their effect on that view when they
succeed and none when they fail, and whose snapshot reports it.  A resolver write that fails is the
exception: it may have truncated the file before.  An interface may have several default routes; a
snapshot shows one of them.
-/

namespace NetworkService.ControlPlane

open Fallible

/-- The part of the machine the control plane manages. -/
structure KernelView where
  present : String → Bool
  address : String → Option (String × String)
  routes : Finset Route
  resolver : String
  marker : Bool

namespace KernelView

/-- What a successful call does.  `clear_dns` leaves a resolver file alone that does not carry
the service's marker. -/
def effect (v : KernelView) : PortCall → KernelView
  | .applyIpv4 iface ip4 netmask4 =>
    { v with address := fun i => if i = iface then some (ip4, netmask4) else v.address i }
  | .clearIpv4 iface =>
    { v with address := fun i => if i = iface then none else v.address i }
  | .setDefaultRoute iface gateway4 metric =>
    { v with routes := insert ⟨iface, gateway4, metric⟩ v.routes }
  | .clearDefaultRoute iface gateway4 metric =>
    { v with routes := v.routes.erase ⟨iface, gateway4, metric⟩ }
  | .setDns dns4 => { v with resolver := dns4, marker := true }
  | .clearDns => if v.marker then { v with resolver := "", marker := false } else v
  | .startDhcp _ | .stopDhcp _ | .readLease _ | .clearLease _ | .snapshot => v

/-- The snapshot of one interface tells the truth. -/
structure Reports (v : KernelView) (iface : String) (observed : InterfaceSnapshot) : Prop where
  present : observed.present = v.present iface
  address : observed.hasIp = true → v.address iface = some (observed.ip4, observed.netmask4)
  route : observed.hasDefaultRoute = true →
    ⟨iface, observed.gateway4, observed.routeMetric⟩ ∈ v.routes
  noRoute : observed.hasDefaultRoute = false → ∀ r ∈ v.routes, r.iface ≠ iface

/-- A default route of `iface` is live. -/
def HasRoute (v : KernelView) (iface : String) : Prop := ∃ r ∈ v.routes, r.iface = iface

instance (v : KernelView) (iface : String) : Decidable (v.HasRoute iface) :=
  inferInstanceAs (Decidable (∃ r ∈ v.routes, r.iface = iface))

theorem Reports.hasRoute_iff {v : KernelView} {iface : String} {observed : InterfaceSnapshot}
    (h : v.Reports iface observed) : observed.hasDefaultRoute = true ↔ v.HasRoute iface := by
  constructor
  · intro hroute
    exact ⟨_, h.route hroute, rfl⟩
  · rintro ⟨r, hr, hiface⟩
    cases hroute : observed.hasDefaultRoute with
    | true => rfl
    | false => exact absurd hiface (h.noRoute hroute r hr)

/-- Everything but `iface` is the same. -/
structure SameBut (iface : String) (v v' : KernelView) : Prop where
  present : v'.present = v.present
  address : ∀ i, i ≠ iface → v'.address i = v.address i
  routes : ∀ r : Route, r.iface ≠ iface → (r ∈ v'.routes ↔ r ∈ v.routes)
  resolver : v'.resolver = v.resolver
  marker : v'.marker = v.marker

/-- All but the resolver file. -/
def besidesResolver (v : KernelView) : KernelView := { v with resolver := "", marker := false }

theorem routes_of_besidesResolver {v v' : KernelView}
    (h : v'.besidesResolver = v.besidesResolver) : v'.routes = v.routes :=
  (congrArg (·.routes) h :)

end KernelView

/-- Ports with every `std::function` set, acting on a machine with the interfaces `names`. -/
structure KernelPorts (W : Type) extends NetworkControlPlaneOps W where
  names : IfaceNames
  view : W → KernelView
  wired : ∀ port, available port = true
  effective : ∀ (c : PortCall) w, c.succeeded (call c w).1 = true →
    view (call c w).2 = (view w).effect c
  harmless : ∀ (c : PortCall) w, c.succeeded (call c w).1 = false → c.writesDns = false →
    view (call c w).2 = view w
  spoils : ∀ (c : PortCall) w, c.succeeded (call c w).1 = false → c.writesDns = true →
    (view (call c w).2).besidesResolver = (view w).besidesResolver
  reportsEth : ∀ w, (view w).Reports names.eth (call .snapshot w).1.eth
  reportsWifi : ∀ w, (view w).Reports names.wifi (call .snapshot w).1.wifi
  reportsDns : ∀ w, (call .snapshot w).1.dns4 = (view w).resolver

variable {W : Type}

/-! ### Settled DNS -/

/-- What the resolver should hold: a nameserver, or nothing of ours. -/
def DnsDecision.target : DnsDecision → Option String
  | .preserveExternal => none
  | .select dns4 => if dns4 = "" then none else some dns4

/-- The nameserver that the records and the live Ethernet route call for. -/
def dnsTarget (p : NetworkControlPlane) (v : KernelView) : Option String :=
  (p.dnsDecision (decide (v.HasRoute p.names.eth))).target

/-- The resolver holds what it should and the records know it. -/
def DnsSettled (p : NetworkControlPlane) (v : KernelView) : Prop :=
  match dnsTarget p v with
  | none => p.managedDns = false
  | some dns4 => p.managedDns = true ∧ p.lastDns = dns4 ∧ v.resolver = dns4

theorem dnsSettled_none {p : NetworkControlPlane} {v : KernelView} (h : dnsTarget p v = none) :
    DnsSettled p v ↔ p.managedDns = false := by
  unfold DnsSettled
  rw [h]

theorem dnsSettled_some {p : NetworkControlPlane} {v : KernelView} {dns4 : String}
    (h : dnsTarget p v = some dns4) :
    DnsSettled p v ↔ p.managedDns = true ∧ p.lastDns = dns4 ∧ v.resolver = dns4 := by
  unfold DnsSettled
  rw [h]

/-- How many resolver writes have failed. -/
def dnsFailures (s : Run W) : Nat := s.log.countP fun e => e.call.writesDns && !e.ok

theorem dnsFailures_record {s : Run W} {c : PortCall} {r : c.Reply} {w : W} :
    dnsFailures (s.record c r w) =
      dnsFailures s + if c.writesDns && !c.succeeded r then 1 else 0 := by
  unfold dnsFailures
  rw [record_log, List.countP_cons]

section Pass

variable (K : KernelPorts W)

/-- The machine as the run sees it. -/
abbrev KernelPorts.viewOf (s : Run W) : KernelView := K.view s.world

/-- A snapshot taken while the view was `v`. -/
def Current (v : KernelView) (live : Option NetworkSnapshot) : Prop :=
  ∀ current, live = some current →
    (current.eth.hasDefaultRoute = decide (v.HasRoute K.names.eth)) ∧ current.dns4 = v.resolver

/-- Between two runs of a DNS pass only resolver records change, and no resolver write
happens. -/
structure DnsLooked (s t : Run W) : Prop where
  links : t.plane.links = s.plane.links
  view : K.viewOf t = K.viewOf s
  writes : callsOf PortCall.writesDns t.log = callsOf PortCall.writesDns s.log
  sets : callsOf PortCall.setsDns t.log = callsOf PortCall.setsDns s.log
  failures : dnsFailures t = dnsFailures s

theorem DnsLooked.refl (s : Run W) : DnsLooked K s s := ⟨rfl, rfl, rfl, rfl, rfl⟩

theorem DnsLooked.trans {s t u : Run W} (h : DnsLooked K s t) (h' : DnsLooked K t u) :
    DnsLooked K s u :=
  ⟨h'.links.trans h.links, h'.view.trans h.view, h'.writes.trans h.writes, h'.sets.trans h.sets,
    h'.failures.trans h.failures⟩

theorem current_snapshot (w : W) : Current K (K.view w) (some (K.call .snapshot w).1) := by
  intro current hcurrent
  obtain rfl := Option.some.inj hcurrent
  refine ⟨?_, K.reportsDns w⟩
  rw [Bool.eq_iff_iff, decide_eq_true_eq]
  exact (K.reportsEth w).hasRoute_iff

/-- Reading a snapshot changes nothing we look at. -/
theorem dnsLooked_snapshot (s : Run W) :
    DnsLooked K s (s.record .snapshot (K.call .snapshot s.world).1 (K.call .snapshot s.world).2) :=
  ⟨rfl, K.effective .snapshot s.world rfl, callsOf_record _, callsOf_record _,
    dnsFailures_record⟩

theorem wp_loadLive_kernel {s : Run W} {live : Option NetworkSnapshot}
    {Q : NetworkSnapshot → Run W → Prop} {E : String → Run W → Prop}
    (hlive : Current K (K.viewOf s) live)
    (h : ∀ current t, Current K (K.viewOf s) (some current) → DnsLooked K s t →
      t.plane = s.plane → Q current t) :
    wp (loadLive K.toNetworkControlPlaneOps live) Q E s := by
  cases live with
  | none =>
    exact wp_invoke.mpr (h _ _ (current_snapshot K s.world) (dnsLooked_snapshot K s) rfl)
  | some current => exact h current s hlive (DnsLooked.refl K s) rfl

/-- What the first part of a pass leaves: ownership is initialized, a snapshot may be loaded. -/
theorem wp_initializeDnsOwnership {s : Run W} {Q : Option NetworkSnapshot → Run W → Prop}
    {E : String → Run W → Prop}
    (h : ∀ live t, Current K (K.viewOf s) live → DnsLooked K s t →
      t.plane.dnsOwnershipInitialized = true →
      (s.plane.dnsOwnershipInitialized = true → t.plane = s.plane) → Q live t) :
    wp (initializeDnsOwnership K.toNetworkControlPlaneOps) Q E s := by
  unfold initializeDnsOwnership
  rw [wp_bind, wp_getPlane, wp_ite]
  split
  · next hinit => exact h none s (fun _ hnone => nomatch hnone) (DnsLooked.refl K s) hinit fun _ => rfl
  · next hinit =>
    rw [wp_ite, if_pos (K.wired _), wp_bind]
    refine wp_invoke.mpr ?_
    rw [wp_bind, wp_modifyPlane, wp_pure]
    have hlooked := dnsLooked_snapshot K s
    exact h _ _ (current_snapshot K s.world)
      ⟨rfl, hlooked.view, hlooked.writes, hlooked.sets, hlooked.failures⟩ rfl fun hyes => absurd hyes hinit

/-- The target looks at links and routes only. -/
theorem dnsTarget_congr {p q : NetworkControlPlane} {v v' : KernelView} (h : q.links = p.links)
    (hroutes : v'.routes = v.routes) : dnsTarget q v' = dnsTarget p v := by
  have hnames : q.names = p.names := congrArg (·.names) h
  have hlive : v'.HasRoute p.names.eth ↔ v.HasRoute p.names.eth := by
    unfold KernelView.HasRoute
    rw [hroutes]
  unfold dnsTarget
  rw [dnsDecision_links h, hnames, decide_eq_decide.mpr hlive]

/-- The switch picks the target, and reads the live route only where it matters. -/
theorem wp_selectDns {s : Run W} (hnames : s.plane.names = K.names)
    {live : Option NetworkSnapshot} {Q : DnsDecision × Option NetworkSnapshot → Run W → Prop}
    {E : String → Run W → Prop} (hlive : Current K (K.viewOf s) live)
    (h : ∀ choice t, choice.1.target = dnsTarget s.plane (K.viewOf s) →
      Current K (K.viewOf s) choice.2 → DnsLooked K s t → t.plane = s.plane → Q choice t) :
    wp (selectDns K.toNetworkControlPlaneOps live) Q E s := by
  unfold selectDns
  rw [wp_bind, wp_getPlane, wp_ite]
  split
  · rw [wp_bind]
    refine wp_loadLive_kernel K hlive fun current t hcurrent ht hplane => ?_
    refine h _ t ?_ hcurrent ht hplane
    rw [(hcurrent current rfl).1, ← hnames]
    rfl
  · next hconsults =>
    refine h _ s ?_ hlive (DnsLooked.refl K s) rfl
    have hno : ¬s.plane.consultsLiveEthernet = true := fun hyes => hconsults ⟨hyes, K.wired _⟩
    rw [dnsDecision_congr hno false]
    rfl

/-- What a completed DNS pass leaves behind. -/
structure DnsDone (s t : Run W) : Prop where
  links : t.plane.links = s.plane.links
  initialized : t.plane.dnsOwnershipInitialized = s.plane.dnsOwnershipInitialized
  present : (K.viewOf t).present = (K.viewOf s).present
  address : (K.viewOf t).address = (K.viewOf s).address
  routes : (K.viewOf t).routes = (K.viewOf s).routes
  settled : DnsSettled t.plane (K.viewOf t)
  sets : dnsTarget s.plane (K.viewOf s) = none →
    callsOf PortCall.setsDns t.log = callsOf PortCall.setsDns s.log
  writes : DnsSettled s.plane (K.viewOf s) →
    callsOf PortCall.writesDns t.log = callsOf PortCall.writesDns s.log

theorem dnsFailures_failed {s : Run W} {c : PortCall} {r : c.Reply} {w : W}
    (hc : c.writesDns = true) (hr : c.succeeded r = false) :
    dnsFailures s < dnsFailures (s.record c r w) := by
  rw [dnsFailures_record, hc, hr]
  exact Nat.lt_succ_self _

theorem wp_releaseDns_kernel {s : Run W} {Q : Unit → Run W → Prop} {E : String → Run W → Prop}
    (htarget : dnsTarget s.plane (K.viewOf s) = none) (h : ∀ t, DnsDone K s t → Q () t)
    (hE : ∀ e t, ¬DnsSettled s.plane (K.viewOf s) → dnsFailures s < dnsFailures t → E e t) :
    wp (releaseDns K.toNetworkControlPlaneOps) Q E s := by
  unfold releaseDns
  rw [wp_bind, wp_getPlane, wp_ite]
  split
  · next hmanaged =>
    rw [wp_bind, wp_require, if_pos (K.wired _), wp_bind]
    refine wp_invoke.mpr ?_
    rw [wp_bind, wp_check]
    refine ⟨fun _ hok => ?_, fun e herror => ?_⟩
    · have hview := K.effective .clearDns s.world (congrArg Except.isOk hok)
      have hroutes : (K.view (K.call .clearDns s.world).2).routes = (K.viewOf s).routes := by
        rw [hview, KernelView.effect]
        split <;> rfl
      refine h _ ⟨rfl, rfl, ?_, ?_, hroutes, ?_,
        fun _ => callsOf_record (w := (K.call .clearDns s.world).2) PortCall.setsDns, fun hs => ?_⟩
      · show (K.view _).present = _
        rw [record_world, hview, KernelView.effect]
        split <;> rfl
      · show (K.view _).address = _
        rw [record_world, hview, KernelView.effect]
        split <;> rfl
      · have htarget' : dnsTarget { s.plane with managedDns := false, lastDns := "" }
            (K.view (K.call .clearDns s.world).2) = none :=
          (dnsTarget_congr rfl hroutes).trans htarget
        exact (dnsSettled_none htarget').mpr rfl
      · rw [dnsSettled_none htarget, hmanaged] at hs
        exact nomatch hs
    · refine hE e _ (fun hs => ?_) (dnsFailures_failed rfl (congrArg Except.isOk herror))
      rw [dnsSettled_none htarget, hmanaged] at hs
      exact nomatch hs
  · next hmanaged =>
    refine h s ⟨rfl, rfl, rfl, rfl, rfl, ?_, fun _ => rfl, fun _ => rfl⟩
    exact (dnsSettled_none htarget).mpr (by simpa using hmanaged)

/-- Setting the nameserver the records call for. -/
theorem wp_setDns_kernel {s : Run W} {Q : Unit → Run W → Prop} {E : String → Run W → Prop}
    {dns4 : String} (htarget : dnsTarget s.plane (K.viewOf s) = some dns4)
    (hstale : ¬DnsSettled s.plane (K.viewOf s)) (h : ∀ t, DnsDone K s t → Q () t)
    (hE : ∀ e t, dnsFailures s < dnsFailures t → E e t) :
    wp (do
      require (K.available .setDns) "DNS configuration port is unavailable"
      check (← invoke K.toNetworkControlPlaneOps (.setDns dns4))
      modifyPlane fun p => { p with managedDns := true, lastDns := dns4 }) Q E s := by
  rw [wp_bind, wp_require, if_pos (K.wired _), wp_bind]
  refine wp_invoke.mpr ?_
  rw [wp_bind, wp_check]
  refine ⟨fun _ hok => ?_, fun e herror => ?_⟩
  · have hview := K.effective (.setDns dns4) s.world (congrArg Except.isOk hok)
    have hroutes : (K.view (K.call (.setDns dns4) s.world).2).routes = (K.viewOf s).routes := by
      rw [hview]
      rfl
    refine h _ ⟨rfl, rfl, ?_, ?_, hroutes, ?_, fun hnone => ?_, fun hs => absurd hs hstale⟩
    · show (K.view _).present = _
      rw [record_world, hview]
      rfl
    · show (K.view _).address = _
      rw [record_world, hview]
      rfl
    · have htarget' : dnsTarget { s.plane with managedDns := true, lastDns := dns4 }
          (K.view (K.call (.setDns dns4) s.world).2) = some dns4 :=
        (dnsTarget_congr rfl hroutes).trans htarget
      refine (dnsSettled_some htarget').mpr ⟨rfl, rfl, ?_⟩
      rw [hview]
      rfl
    · exact nomatch htarget.symm.trans hnone
  · exact hE e _ (dnsFailures_failed rfl (congrArg Except.isOk herror))

theorem DnsDone.after_looked {s t u : Run W} (hlooked : DnsLooked K s t)
    (hplane : t.plane = s.plane) (h : DnsDone K t u) : DnsDone K s u := by
  have hview : K.viewOf t = K.viewOf s := hlooked.view
  refine ⟨h.links.trans hlooked.links, ?_, ?_, ?_, ?_, h.settled, fun hnone => ?_, fun hs => ?_⟩
  · rw [h.initialized, hplane]
  · rw [h.present, hview]
  · rw [h.address, hview]
  · rw [h.routes, hview]
  · exact (h.sets (by rw [hview, hplane]; exact hnone)).trans hlooked.sets
  · exact (h.writes (by rw [hview, hplane]; exact hs)).trans hlooked.writes

/-- Carrying out a decision that picks the target. -/
theorem wp_applyDns_kernel {s : Run W} {decision : DnsDecision} {live : Option NetworkSnapshot}
    {Q : Unit → Run W → Prop} {E : String → Run W → Prop}
    (hdecision : decision.target = dnsTarget s.plane (K.viewOf s))
    (hlive : Current K (K.viewOf s) live) (h : ∀ t, DnsDone K s t → Q () t)
    (hE : ∀ e t, ¬DnsSettled s.plane (K.viewOf s) → dnsFailures s < dnsFailures t → E e t) :
    wp (applyDns K.toNetworkControlPlaneOps decision live) Q E s := by
  cases decision with
  | preserveExternal => exact wp_releaseDns_kernel K hdecision.symm h hE
  | select dns4 =>
    unfold applyDns
    dsimp only
    rw [wp_ite]
    change (if dns4 = "" then none else some dns4) = _ at hdecision
    split
    · next hempty =>
      rw [if_pos hempty] at hdecision
      exact wp_releaseDns_kernel K hdecision.symm h hE
    · next hempty =>
      rw [if_neg hempty] at hdecision
      have hsettled := dnsSettled_some hdecision.symm
      unfold dnsAlreadyApplied
      rw [wp_bind, wp_bind, wp_getPlane, wp_ite]
      split
      · next hlast =>
        rw [wp_ite, if_pos (K.wired _), wp_bind]
        refine wp_loadLive_kernel K hlive fun current t hcurrent ht hplane => ?_
        rw [wp_pure, wp_ite, wp_pure]
        have hresolver : current.dns4 = (K.viewOf s).resolver := (hcurrent current rfl).2
        have hdone : ∀ u, DnsDone K t u → Q () u := fun u hu => h u (hu.after_looked K ht hplane)
        have hview : K.viewOf t = K.viewOf s := ht.view
        split
        · next happlied =>
          have hs : DnsSettled s.plane (K.viewOf s) := by
            refine hsettled.mpr ⟨hlast.1, hlast.2.symm, ?_⟩
            rw [← hresolver]
            exact of_decide_eq_true happlied
          refine hdone t ⟨rfl, rfl, rfl, rfl, rfl, ?_, fun _ => rfl, fun _ => rfl⟩
          rw [hview, hplane]
          exact hs
        · next happlied =>
          have hstale : ¬DnsSettled s.plane (K.viewOf s) := by
            rw [hsettled]
            intro hs
            refine happlied (decide_eq_true ?_)
            rw [hresolver]
            exact hs.2.2
          refine wp_setDns_kernel K (by rw [hview, hplane]; exact hdecision.symm)
            (by rw [hview, hplane]; exact hstale) hdone
            fun e u hu => hE e u hstale (ht.failures ▸ hu)
      · next hlast =>
        rw [wp_pure, wp_ite]
        have hstale : ¬DnsSettled s.plane (K.viewOf s) := by
          rw [hsettled]
          exact fun hs => hlast ⟨hs.1, hs.2.1.symm⟩
        exact wp_setDns_kernel K hdecision.symm hstale h fun e t => hE e t hstale

/-- **A DNS pass that completes leaves the resolver settled**; it fails only by a failed
write to a resolver that was not. -/
theorem wp_recomputeDnsLocked_kernel {s : Run W} (hnames : s.plane.names = K.names)
    {Q : Unit → Run W → Prop} {E : String → Run W → Prop}
    (h : ∀ t u, DnsLooked K s t → t.plane.dnsOwnershipInitialized = true →
      (s.plane.dnsOwnershipInitialized = true → t.plane = s.plane) → DnsDone K t u → Q () u)
    (hE : ∀ e t, (s.plane.dnsOwnershipInitialized = true → ¬DnsSettled s.plane (K.viewOf s)) →
      dnsFailures s < dnsFailures t → E e t) :
    wp (recomputeDnsLocked K.toNetworkControlPlaneOps) Q E s := by
  unfold recomputeDnsLocked
  rw [wp_bind]
  refine wp_initializeDnsOwnership K fun live t hlive ht hinit hsame => ?_
  have hview : K.viewOf t = K.viewOf s := ht.view
  have hnames' : t.plane.names = K.names := (congrArg (·.names) ht.links).trans hnames
  rw [wp_bind]
  refine wp_selectDns K hnames' (by rw [hview]; exact hlive) fun choice u hchoice hlive' hu hplane => ?_
  have hview' : K.viewOf u = K.viewOf t := hu.view
  refine wp_applyDns_kernel K ?_ (by rw [hview']; exact hlive') (fun v hv => ?_)
    fun e v hstale hv => hE e v (fun hyes => ?_) ((ht.trans K hu).failures ▸ hv)
  · rw [hview', hplane]
    exact hchoice
  · exact h t v ht hinit hsame (hv.after_looked K hu hplane)
  · rw [hview', hplane, hview, hsame hyes] at hstale
    exact hstale

/-! ### Route moves -/

/-- One move of a route function on `iface`: nothing, the recorded route is cleared, or a
route is set that the record was free for. -/
inductive RouteMove (iface : String) (s t : Run W) : Prop
  | stayed (hplane : t.plane = s.plane) (hview : K.viewOf t = K.viewOf s)
  | cleared (hactive : (s.plane.ownedRouteFor iface).active = true)
      (hplane : t.plane = s.plane.setOwnedRoute iface {})
      (hview : K.viewOf t = (K.viewOf s).effect (clearCall iface s))
  | set (gateway4 : String) (metric : Int)
      (hfree : (s.plane.ownedRouteFor iface).active = true →
        (s.plane.ownedRouteFor iface).gateway4 = gateway4 ∧
          (s.plane.ownedRouteFor iface).metric = metric)
      (hplane : t.plane = s.plane.setOwnedRoute iface ⟨true, gateway4, metric⟩)
      (hview : K.viewOf t = (K.viewOf s).effect (.setDefaultRoute iface gateway4 metric))

theorem clearOwnedRouteLocked_move (iface : String) (s : Run W) :
    RouteMove K iface s (after (clearOwnedRouteLocked K.toNetworkControlPlaneOps iface) s) := by
  rcases clearOwnedRouteLocked_cases K.toNetworkControlPlaneOps iface s with
    ⟨-, hrun⟩ | ⟨-, hport, -⟩ | ⟨e, w, -, hcall, hrun⟩ | ⟨w, hactive, hcall, hrun⟩
  · rw [after_ok hrun]
    exact .stayed rfl rfl
  · rw [K.wired] at hport
    exact nomatch hport
  · rw [after_error hrun]
    have hview := K.harmless (clearCall iface s) s.world (by rw [hcall]; rfl) rfl
    rw [hcall] at hview
    exact .stayed rfl hview
  · rw [after_ok hrun]
    have hview := K.effective (clearCall iface s) s.world (by rw [hcall]; rfl)
    rw [hcall] at hview
    exact .cleared hactive rfl hview

/-- Two moves: the old route is cleared if it is another one, and the new one is set. -/
theorem ensureOwnedRouteLocked_moves (iface gateway4 : String) (metric : Int) (s : Run W) :
    ∃ t, RouteMove K iface s t ∧ t.plane.names = s.plane.names ∧ RouteMove K iface t
      (after (ensureOwnedRouteLocked K.toNetworkControlPlaneOps iface gateway4 metric) s) := by
  have hclear := clearOwnedRouteLocked_move K iface s
  have hnames := clearOwnedRouteLocked_names K.toNetworkControlPlaneOps iface s
  by_cases hgw : gateway4 = ""
  · rw [show ensureOwnedRouteLocked K.toNetworkControlPlaneOps iface gateway4 metric =
      clearOwnedRouteLocked K.toNetworkControlPlaneOps iface from if_pos hgw]
    exact ⟨_, hclear, hnames, .stayed rfl rfl⟩
  -- the run the set call starts from
  have hfreed : ∀ t, Freed K.toNetworkControlPlaneOps iface s gateway4 metric t →
      RouteMove K iface s t ∧ t.plane.names = s.plane.names ∧
        ((t.plane.ownedRouteFor iface).active = true →
          (t.plane.ownedRouteFor iface).gateway4 = gateway4 ∧
            (t.plane.ownedRouteFor iface).metric = metric) := by
    intro t ht
    rcases ht with ⟨rfl, hsame⟩ | hcleared
    · exact ⟨.stayed rfl rfl, rfl, hsame⟩
    · have hleaves : (t.plane.ownedRouteFor iface).active = false := by
        rcases clearOwnedRouteLocked_cases K.toNetworkControlPlaneOps iface s with
          ⟨hinactive, hrun⟩ | ⟨-, -, hrun⟩ | ⟨e, w, -, -, hrun⟩ | ⟨w, -, -, hrun⟩
        · obtain ⟨-, rfl⟩ := EStateM.Result.ok.inj (hrun.symm.trans hcleared)
          exact hinactive
        · exact nomatch hrun.symm.trans hcleared
        · exact nomatch hrun.symm.trans hcleared
        · obtain ⟨-, rfl⟩ := EStateM.Result.ok.inj (hrun.symm.trans hcleared)
          dsimp only
          rw [NetworkControlPlane.ownedRouteFor_setOwnedRoute]
      rw [after_ok hcleared] at hclear hnames
      refine ⟨hclear, hnames, fun hactive => ?_⟩
      rw [hleaves] at hactive
      exact nomatch hactive
  rcases ensureOwnedRouteLocked_cases K.toNetworkControlPlaneOps iface s gateway4 metric hgw with
    ⟨hport, -⟩ | ⟨e, t, hstopped, hrun⟩ | ⟨t, e, w, ht, hcall, hrun⟩ | ⟨t, w, ht, hcall, hrun⟩
  · rw [K.wired] at hport
    exact nomatch hport
  · rw [after_error hstopped] at hclear hnames
    rw [after_error hrun]
    exact ⟨t, hclear, hnames, .stayed rfl rfl⟩
  · obtain ⟨hmove, hnames', -⟩ := hfreed t ht
    rw [after_error hrun]
    have hview := K.harmless (.setDefaultRoute iface gateway4 metric) t.world (by rw [hcall]; rfl) rfl
    rw [hcall] at hview
    exact ⟨t, hmove, hnames', .stayed rfl hview⟩
  · obtain ⟨hmove, hnames', hfree⟩ := hfreed t ht
    rw [after_ok hrun]
    have hview := K.effective (.setDefaultRoute iface gateway4 metric) t.world (by rw [hcall]; rfl)
    rw [hcall] at hview
    exact ⟨t, hmove, hnames', .set gateway4 metric hfree rfl hview⟩

section Moves

variable {R : Run W → Run W → Prop} {iface : String}
  (hmove : ∀ s t : Run W, s.plane.names = K.names → RouteMove K iface s t → R s t)

include hmove

theorem clearOwnedRouteLocked_along :
    Along (Within K.names R) (clearOwnedRouteLocked K.toNetworkControlPlaneOps iface) := by
  intro s hN
  exact ⟨(clearOwnedRouteLocked_names _ iface s).trans hN,
    hmove _ _ hN (clearOwnedRouteLocked_move K iface s)⟩

theorem ensureOwnedRouteLocked_along [IsTrans (Run W) R] (gateway4 : String) (metric : Int) :
    Along (Within K.names R)
      (ensureOwnedRouteLocked K.toNetworkControlPlaneOps iface gateway4 metric) := by
  intro s hN
  obtain ⟨t, hst, hnames, htu⟩ := ensureOwnedRouteLocked_moves K iface gateway4 metric s
  exact ⟨(ensureOwnedRouteLocked_names _ iface s gateway4 metric).trans hN,
    IsTrans.trans _ _ _ (hmove _ _ hN hst) (hmove _ _ (hnames.trans hN) htu)⟩

end Moves

/-- What every route move follows, the route functions follow. -/
theorem routeSteps_of_moves {R : Run W → Run W → Prop} [IsTrans (Run W) R]
    (hmove : ∀ iface, iface = K.names.eth ∨ iface = K.names.wifi → ∀ s t : Run W,
      s.plane.names = K.names → RouteMove K iface s t → R s t) :
    RouteSteps K.toNetworkControlPlaneOps K.names R where
  clear iface hiface := clearOwnedRouteLocked_along K (hmove iface hiface)
  ensure iface gateway4 metric hiface :=
    ensureOwnedRouteLocked_along K (hmove iface hiface) gateway4 metric

/-- A call that fails leaves the routes alone, a resolver write too. -/
theorem routes_call_failed (c : PortCall) (w : W) (hfailed : c.succeeded (K.call c w).1 = false) :
    (K.view (K.call c w).2).routes = (K.view w).routes := by
  cases hdns : c.writesDns with
  | false => rw [K.harmless c w hfailed hdns]
  | true => exact KernelView.routes_of_besidesResolver (K.spoils c w hfailed hdns)

/-- A call without an effect leaves everything alone, whichever way it ends. -/
theorem view_call_idle (c : PortCall) (hdns : c.writesDns = false)
    (hidle : ∀ v : KernelView, v.effect c = v) (w : W) : K.view (K.call c w).2 = K.view w := by
  cases hok : c.succeeded (K.call c w).1 with
  | false => exact K.harmless c w hok hdns
  | true => exact (K.effective c w hok).trans (hidle _)

/-- A call that is not a route call leaves the routes alone, whichever way it ends. -/
theorem routes_call (c : PortCall) (hc : c.isRouteCall = false) (w : W) :
    (K.view (K.call c w).2).routes = (K.view w).routes := by
  cases hok : c.succeeded (K.call c w).1 with
  | false => exact routes_call_failed K c w hok
  | true =>
    rw [K.effective c w hok]
    cases c with
    | setDefaultRoute _ _ _ | clearDefaultRoute _ _ _ => exact nomatch hc
    | clearDns =>
      unfold KernelView.effect
      dsimp only
      split <;> rfl
    | applyIpv4 _ _ _ | clearIpv4 _ | setDns _ | startDhcp _ | stopDhcp _ | readLease _
    | clearLease _ | snapshot => rfl

/-- An invariant of owned routes and kernel routes that route moves keep is kept by every
operation. -/
theorem steps_of_moves {I : Run W → Prop}
    (hsame : ∀ s t : Run W,
      (∀ iface, t.plane.ownedRouteFor iface = s.plane.ownedRouteFor iface) →
      (K.viewOf t).routes = (K.viewOf s).routes → I s → I t)
    (hmove : ∀ iface, iface = K.names.eth ∨ iface = K.names.wifi → ∀ s t : Run W,
      s.plane.names = K.names → RouteMove K iface s t → I s → I t) :
    Steps K.toNetworkControlPlaneOps K.names (Keeping I) where
  toRouteSteps := routeSteps_of_moves K hmove
  call c hc s hN := by
    refine ⟨hN, hsame _ _ (fun _ => rfl) (routes_call K c ?_ s.world)⟩
    cases c <;> first | rfl | exact nomatch hc
  dnsCall c hc s hN := by
    refine ⟨hN, hsame _ _ (fun _ => rfl) (routes_call K c ?_ s.world)⟩
    cases c <;> first | rfl | exact nomatch hc
  dnsEdit f hf s hN := by
    refine ⟨((namesSteps K.toNetworkControlPlaneOps K.names).dnsEdit f hf s hN).1,
      hsame _ _ (fun iface => ?_) rfl⟩
    cases hf <;> rfl
  edit f hf s hN := by
    refine ⟨((namesSteps K.toNetworkControlPlaneOps K.names).edit f hf s hN).1,
      hsame _ _ (fun iface => ownedRouteFor_edit hf s.plane iface) rfl⟩

/-! ### A settled resolver -/

/-- From `s` to `t` snapshots were read and nothing else happened. -/
structure Observed (s t : Run W) : Prop where
  plane : t.plane = s.plane
  view : K.viewOf t = K.viewOf s
  log : LogGrows (fun e => e.call = .snapshot) s t
  rest : ∀ {β : Type} (part : W → β), (∀ w, part (K.call .snapshot w).2 = part w) →
    part t.world = part s.world

theorem Observed.refl (s : Run W) : Observed K s s := ⟨rfl, rfl, Std.Refl.refl s, fun _ _ => rfl⟩

theorem Observed.trans {s t u : Run W} (h : Observed K s t) (h' : Observed K t u) :
    Observed K s u :=
  ⟨h'.plane.trans h.plane, h'.view.trans h.view, IsTrans.trans _ _ _ h.log h'.log,
    fun part hpart => (h'.rest part hpart).trans (h.rest part hpart)⟩

theorem observed_snapshot (s : Run W) :
    Observed K s (s.record .snapshot (K.call .snapshot s.world).1 (K.call .snapshot s.world).2) :=
  ⟨rfl, K.effective .snapshot s.world rfl, .record rfl, fun _ hpart => hpart s.world⟩

theorem wp_loadLive_observed {s : Run W} {live : Option NetworkSnapshot}
    {Q : NetworkSnapshot → Run W → Prop} {E : String → Run W → Prop}
    (hlive : Current K (K.viewOf s) live)
    (h : ∀ current t, Current K (K.viewOf s) (some current) → Observed K s t → Q current t) :
    wp (loadLive K.toNetworkControlPlaneOps live) Q E s := by
  cases live with
  | none => exact wp_invoke.mpr (h _ _ (current_snapshot K s.world) (observed_snapshot K s))
  | some current => exact h current s hlive (.refl K s)

theorem wp_selectDns_observed {s : Run W} (hnames : s.plane.names = K.names)
    {Q : DnsDecision × Option NetworkSnapshot → Run W → Prop} {E : String → Run W → Prop}
    (h : ∀ choice t, choice.1.target = dnsTarget s.plane (K.viewOf s) →
      Current K (K.viewOf s) choice.2 → Observed K s t → Q choice t) :
    wp (selectDns K.toNetworkControlPlaneOps none) Q E s := by
  have hnone : Current K (K.viewOf s) none := fun _ hc => nomatch hc
  unfold selectDns
  rw [wp_bind, wp_getPlane, wp_ite]
  split
  · rw [wp_bind]
    refine wp_loadLive_observed K hnone fun current t hcurrent ht => h _ t ?_ hcurrent ht
    rw [(hcurrent current rfl).1, ← hnames]
    rfl
  · next hconsults =>
    have hno : ¬s.plane.consultsLiveEthernet = true := fun hyes => hconsults ⟨hyes, K.wired _⟩
    refine h _ s ?_ hnone (.refl K s)
    rw [dnsDecision_congr hno false]
    rfl

/-- There is no resolver to give up. -/
theorem wp_releaseDns_unmanaged {s : Run W} {Q : Unit → Run W → Prop} {E : String → Run W → Prop}
    (hunmanaged : s.plane.managedDns = false) (h : Q () s) :
    wp (releaseDns K.toNetworkControlPlaneOps) Q E s := by
  unfold releaseDns
  rw [wp_bind, wp_getPlane, wp_ite, if_neg (by rw [hunmanaged]; exact Bool.false_ne_true)]
  exact h

theorem wp_applyDns_observed {s : Run W} {decision : DnsDecision} {live : Option NetworkSnapshot}
    {Q : Unit → Run W → Prop} {E : String → Run W → Prop}
    (hdecision : decision.target = dnsTarget s.plane (K.viewOf s))
    (hlive : Current K (K.viewOf s) live) (hsettled : DnsSettled s.plane (K.viewOf s))
    (h : ∀ t, Observed K s t → Q () t) :
    wp (applyDns K.toNetworkControlPlaneOps decision live) Q E s := by
  have hrelease : decision.target = none →
      wp (releaseDns K.toNetworkControlPlaneOps) Q E s := by
    intro htarget
    rw [hdecision] at htarget
    exact wp_releaseDns_unmanaged K ((dnsSettled_none htarget).mp hsettled) (h s (.refl K s))
  cases decision with
  | preserveExternal => exact hrelease rfl
  | select dns4 =>
    refine wp_split (fun hempty => hrelease (if_pos hempty)) fun hdns => ?_
    have htarget : dnsTarget s.plane (K.viewOf s) = some dns4 := hdecision.symm.trans (if_neg hdns)
    obtain ⟨hmanaged, hlast, hresolver⟩ := (dnsSettled_some htarget).mp hsettled
    -- the recorded nameserver is the selected one and is still there
    unfold dnsAlreadyApplied
    rw [wp_bind, wp_bind, wp_getPlane, wp_ite, if_pos ⟨hmanaged, hlast.symm⟩, wp_ite,
      if_pos (K.wired _), wp_bind]
    refine wp_loadLive_observed K hlive fun current t hcurrent ht => ?_
    have happlied : current.dns4 = dns4 := (hcurrent current rfl).2.trans hresolver
    rw [wp_pure, decide_eq_true happlied]
    exact h t ht

/-- **A settled resolver is looked at and left alone.** -/
theorem wp_recomputeDnsLocked_observed {s : Run W} {Q : Unit → Run W → Prop}
    {E : String → Run W → Prop} (hnames : s.plane.names = K.names)
    (hinit : s.plane.dnsOwnershipInitialized = true)
    (hsettled : DnsSettled s.plane (K.viewOf s)) (h : ∀ t, Observed K s t → Q () t) :
    wp (recomputeDnsLocked K.toNetworkControlPlaneOps) Q E s := by
  unfold recomputeDnsLocked initializeDnsOwnership
  rw [wp_bind, wp_bind, wp_getPlane, wp_ite, if_pos hinit, wp_pure, wp_bind]
  refine wp_selectDns_observed K hnames fun choice t hchoice hlive ht => ?_
  have hview : K.viewOf t = K.viewOf s := ht.view
  refine wp_applyDns_observed K ?_ ?_ ?_ fun u hu => h u (ht.trans K hu)
  · rw [ht.plane, hview]
    exact hchoice
  · rw [hview]
    exact hlive
  · rw [ht.plane, hview]
    exact hsettled

end Pass

/-! ### A small machine -/

/-- A machine that can be run: addresses, routes, the resolver file, two lease files, and
whether the resolver file can be opened for writing. -/
structure Machine where
  address : String → Option (String × String) := fun _ => none
  routes : List Route := []
  resolver : String := ""
  marker : Bool := false
  ethLease : Option DhcpLeaseFact := none
  wifiLease : Option DhcpLeaseFact := none
  resolverBroken : Bool := false

namespace Machine

def observe (m : Machine) (iface : String) : InterfaceSnapshot where
  iface := iface
  present := true
  hasIp := (m.address iface).isSome
  ip4 := ((m.address iface).getD ("", "")).1
  netmask4 := ((m.address iface).getD ("", "")).2
  hasDefaultRoute := (m.routes.find? (·.iface = iface)).isSome
  gateway4 := ((m.routes.find? (·.iface = iface)).getD ⟨"", "", -1⟩).gateway4
  routeMetric := ((m.routes.find? (·.iface = iface)).getD ⟨"", "", -1⟩).metric

def view (m : Machine) : KernelView where
  present _ := true
  address := m.address
  routes := m.routes.toFinset
  resolver := m.resolver
  marker := m.marker

def call : (c : PortCall) → Machine → c.Reply × Machine
  | .applyIpv4 iface ip4 netmask4, m =>
    (.ok (), { m with address := fun i => if i = iface then some (ip4, netmask4) else m.address i })
  | .clearIpv4 iface, m =>
    (.ok (), { m with address := fun i => if i = iface then none else m.address i })
  | .setDefaultRoute iface gateway4 metric, m =>
    (.ok (), { m with routes := ⟨iface, gateway4, metric⟩ :: m.routes })
  | .clearDefaultRoute iface gateway4 metric, m =>
    (.ok (), { m with routes := m.routes.filter (· ≠ ⟨iface, gateway4, metric⟩) })
  | .setDns dns4, m =>
    if m.resolverBroken then (.error "failed to open /etc/resolv.conf", m)
    else (.ok (), { m with resolver := dns4, marker := true })
  | .clearDns, m =>
    if m.marker then
      if m.resolverBroken then (.error "failed to open /etc/resolv.conf", m)
      else (.ok (), { m with resolver := "", marker := false })
    else (.ok (), m)
  | .readLease iface, m => (.ok (if iface = "eth0" then m.ethLease else m.wifiLease), m)
  | .snapshot, m =>
    ({ eth := m.observe "eth0", wifi := m.observe "wlan0", dns4 := m.resolver,
       dnsManagedByNetworkService := m.marker }, m)
  | .startDhcp _, m => (.ok (), m)
  | .stopDhcp _, m => ((), m)
  | .clearLease iface, m =>
    ((), if iface = "eth0" then { m with ethLease := none } else { m with wifiLease := none })

theorem observe_reports (m : Machine) (iface : String) : m.view.Reports iface (m.observe iface) := by
  refine ⟨rfl, fun hip => ?_, fun hroute => ?_, fun hroute r hr hiface => ?_⟩
  · obtain ⟨a, ha⟩ := Option.isSome_iff_exists.mp hip
    simp [view, observe, ha]
  · obtain ⟨r, hr⟩ := Option.isSome_iff_exists.mp hroute
    have hmem := List.mem_of_find?_eq_some hr
    have hiface : r.iface = iface := by simpa using List.find?_some hr
    simp only [view, observe, hr, Option.getD_some, List.mem_toFinset]
    rw [← hiface]
    exact hmem
  · have hnone : m.routes.find? (·.iface = iface) = none := by
      simpa [observe] using hroute
    have := List.find?_eq_none.mp hnone r (List.mem_toFinset.mp hr)
    simp [hiface] at this

theorem view_call_of_succeeded (m : Machine) (c : PortCall)
    (hok : c.succeeded (call c m).1 = true) : (call c m).2.view = m.view.effect c := by
  cases c with
  | applyIpv4 _ _ _ | clearIpv4 _ | startDhcp _ | stopDhcp _ | readLease _ | snapshot => rfl
  | setDefaultRoute iface gateway4 metric =>
    simp [call, view, KernelView.effect, List.toFinset_cons]
  | clearDefaultRoute iface gateway4 metric =>
    simp only [call, view, KernelView.effect, KernelView.mk.injEq, true_and, and_true]
    ext r
    simp [and_comm]
  | clearLease iface =>
    unfold call
    dsimp only
    split <;> rfl
  | setDns dns4 =>
    cases hbroken : m.resolverBroken with
    | true => simp [call, hbroken, PortCall.succeeded, Except.isOk, Except.toBool] at hok
    | false => simp [call, hbroken, view, KernelView.effect]
  | clearDns =>
    cases hmarker : m.marker with
    | false => simp [call, hmarker, view, KernelView.effect]
    | true =>
      cases hbroken : m.resolverBroken with
      | true => simp [call, hmarker, hbroken, PortCall.succeeded, Except.isOk, Except.toBool] at hok
      | false => simp [call, hmarker, hbroken, view, KernelView.effect]

theorem view_call_of_failed (m : Machine) (c : PortCall)
    (herror : c.succeeded (call c m).1 = false) : (call c m).2.view = m.view := by
  cases c with
  | applyIpv4 _ _ _ | clearIpv4 _ | setDefaultRoute _ _ _ | clearDefaultRoute _ _ _
  | startDhcp _ | stopDhcp _ | readLease _ | clearLease _ | snapshot => exact nomatch herror
  | setDns dns4 =>
    cases hbroken : m.resolverBroken with
    | true => simp [call, hbroken]
    | false => simp [call, hbroken, PortCall.succeeded, Except.isOk, Except.toBool] at herror
  | clearDns =>
    cases hmarker : m.marker with
    | false => simp [call, hmarker]
    | true =>
      cases hbroken : m.resolverBroken with
      | true => simp [call, hmarker, hbroken]
      | false => simp [call, hmarker, hbroken, PortCall.succeeded, Except.isOk, Except.toBool] at herror

end Machine

/-- The machine's ports. -/
def machinePorts : KernelPorts Machine where
  available _ := true
  call := Machine.call
  names := .standard
  view := Machine.view
  wired _ := rfl
  effective c m := m.view_call_of_succeeded c
  harmless c m hfailed _ := m.view_call_of_failed c hfailed
  spoils c m hfailed _ := congrArg KernelView.besidesResolver (m.view_call_of_failed c hfailed)
  reportsEth m := m.observe_reports "eth0"
  reportsWifi m := m.observe_reports "wlan0"
  reportsDns _ := rfl

end NetworkService.ControlPlane
