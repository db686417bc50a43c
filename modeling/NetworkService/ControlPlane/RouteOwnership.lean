import Mathlib.Data.Finset.Basic
import Mathlib.Data.Finset.Lattice.Lemmas
import NetworkService.ControlPlane.Executions

/-!
# Exact route ownership

The ledger of a run is read off the port log: a default route enters it when
`set_default_route` succeeds and leaves it when `clear_default_route` succeeds.  The
invariant is that the ledger is exactly the set of routes in the active owned-route records,
now and at every call that was ever issued, and that a clear call only ever named a recorded
route.
-/

namespace NetworkService.ControlPlane

open Fallible

/-- The routes that were set and not since cleared. -/
def ensuredRoutes : List PortEvent → Finset Route
  | [] => ∅
  | ⟨_, .setDefaultRoute iface gateway4 metric, true⟩ :: older =>
    insert ⟨iface, gateway4, metric⟩ (ensuredRoutes older)
  | ⟨_, .clearDefaultRoute iface gateway4 metric, true⟩ :: older =>
    (ensuredRoutes older).erase ⟨iface, gateway4, metric⟩
  | _ :: older => ensuredRoutes older

/-- The route an owned-route record stands for. -/
def OwnedRouteState.routes (iface : String) (owned : OwnedRouteState) : Finset Route :=
  if owned.active then {⟨iface, owned.gateway4, owned.metric⟩} else ∅

/-- The routes of the active owned-route records. -/
def recordedRoutes (p : NetworkControlPlane) : Finset Route :=
  p.ethRoute.routes p.names.eth ∪ p.wifiRoute.routes p.names.wifi

/-- The call `e`, issued when the log was `older`, found ledger and records in agreement,
and cleared a recorded route if it cleared one. -/
structure CallOwned (e : PortEvent) (older : List PortEvent) : Prop where
  exact : ensuredRoutes older = recordedRoutes e.plane
  clears : ∀ iface gateway4 metric, e.call = .clearDefaultRoute iface gateway4 metric →
    ⟨iface, gateway4, metric⟩ ∈ recordedRoutes e.plane

def LogOwned : List PortEvent → Prop
  | [] => True
  | e :: older => CallOwned e older ∧ LogOwned older

variable {W : Type}

structure RoutesOwned (s : Run W) : Prop where
  exact : ensuredRoutes s.log = recordedRoutes s.plane
  log : LogOwned s.log

/-! ### The records -/

section Records

variable {p : NetworkControlPlane} {iface : String}

theorem routes_inactive {owned : OwnedRouteState} (h : owned.active = false) :
    owned.routes iface = ∅ := by
  simp [OwnedRouteState.routes, h]

theorem routes_active {owned : OwnedRouteState} (h : owned.active = true) :
    owned.routes iface = {⟨iface, owned.gateway4, owned.metric⟩} := by
  simp [OwnedRouteState.routes, h]

theorem mem_routes_iface {owned : OwnedRouteState} {r : Route} (h : r ∈ owned.routes iface) :
    r.iface = iface := by
  unfold OwnedRouteState.routes at h
  split at h
  · rw [Finset.mem_singleton.mp h]
  · simp at h

/-- The routes recorded for the other interface. -/
def otherRoutes (p : NetworkControlPlane) (iface : String) : Finset Route :=
  if iface = p.names.eth then p.wifiRoute.routes p.names.wifi else p.ethRoute.routes p.names.eth

theorem recordedRoutes_eq (hk : iface = p.names.eth ∨ iface = p.names.wifi) :
    recordedRoutes p = (p.ownedRouteFor iface).routes iface ∪ otherRoutes p iface := by
  unfold recordedRoutes otherRoutes NetworkControlPlane.ownedRouteFor
  rcases hk with rfl | rfl
  · rw [if_pos rfl, if_pos rfl]
  · have hne : p.names.wifi ≠ p.names.eth := Ne.symm p.names.distinct
    rw [if_neg hne, if_neg hne, Finset.union_comm]

theorem recordedRoutes_setOwnedRoute (hk : iface = p.names.eth ∨ iface = p.names.wifi)
    (owned : OwnedRouteState) :
    recordedRoutes (p.setOwnedRoute iface owned) = owned.routes iface ∪ otherRoutes p iface := by
  unfold recordedRoutes otherRoutes NetworkControlPlane.setOwnedRoute
  rcases hk with rfl | rfl
  · rw [if_pos rfl, if_pos rfl]
  · have hne : p.names.wifi ≠ p.names.eth := Ne.symm p.names.distinct
    rw [if_neg hne, if_neg hne, Finset.union_comm]

/-- The other interface has no route of this one: the names differ. -/
theorem not_mem_otherRoutes (hk : iface = p.names.eth ∨ iface = p.names.wifi)
    (gateway4 : String) (metric : Int) : (⟨iface, gateway4, metric⟩ : Route) ∉ otherRoutes p iface := by
  intro hmem
  unfold otherRoutes at hmem
  rcases hk with rfl | rfl
  · rw [if_pos rfl] at hmem
    exact p.names.distinct (mem_routes_iface hmem)
  · have hne : p.names.wifi ≠ p.names.eth := Ne.symm p.names.distinct
    rw [if_neg hne] at hmem
    exact hne (mem_routes_iface hmem)

end Records

/-! ### Single calls -/

/-- A call other than a successful route call leaves the ledger alone. -/
theorem ensuredRoutes_cons_other (e : PortEvent) (older : List PortEvent)
    (h : e.call.isRouteCall = false ∨ e.ok = false) :
    ensuredRoutes (e :: older) = ensuredRoutes older := by
  obtain ⟨p, c, ok⟩ := e
  cases c <;> cases ok <;> first | rfl | simp [PortCall.isRouteCall] at h

theorem RoutesOwned.record_other {s : Run W} (hs : RoutesOwned s) {c : PortCall}
    (hc : c.isRouteCall = false) (r : c.Reply) (w : W) : RoutesOwned (s.record c r w) := by
  refine ⟨?_, ⟨⟨hs.exact, ?_⟩, hs.log⟩⟩
  · rw [record_log, ensuredRoutes_cons_other _ _ (Or.inl hc)]
    exact hs.exact
  · intro iface gateway4 metric hclear
    simp only at hclear
    rw [hclear] at hc
    exact nomatch hc

theorem RoutesOwned.edit {s : Run W} (hs : RoutesOwned s)
    {f : NetworkControlPlane → NetworkControlPlane}
    (hf : recordedRoutes (f s.plane) = recordedRoutes s.plane) :
    RoutesOwned { s with plane := f s.plane } :=
  ⟨hs.exact.trans hf.symm, hs.log⟩

/-- A call that clears an active record: whichever way it ends, ledger and log are right. -/
theorem RoutesOwned.record_clear {s : Run W} (hs : RoutesOwned s) {iface : String}
    (hk : iface = s.plane.names.eth ∨ iface = s.plane.names.wifi)
    (hactive : (s.plane.ownedRouteFor iface).active = true) (r : Except String Unit) (w : W) :
    LogOwned (s.record (.clearDefaultRoute iface (s.plane.ownedRouteFor iface).gateway4
      (s.plane.ownedRouteFor iface).metric) r w).log := by
  refine ⟨⟨hs.exact, ?_⟩, hs.log⟩
  intro i g m hclear
  simp only [PortCall.clearDefaultRoute.injEq] at hclear
  obtain ⟨rfl, rfl, rfl⟩ := hclear
  rw [recordedRoutes_eq hk, routes_active hactive]
  exact Finset.mem_union_left _ (Finset.mem_singleton_self _)

theorem erase_recorded {p : NetworkControlPlane} {iface : String}
    (hk : iface = p.names.eth ∨ iface = p.names.wifi)
    (hactive : (p.ownedRouteFor iface).active = true) :
    (recordedRoutes p).erase ⟨iface, (p.ownedRouteFor iface).gateway4,
      (p.ownedRouteFor iface).metric⟩ = recordedRoutes (p.setOwnedRoute iface {}) := by
  rw [recordedRoutes_setOwnedRoute hk, routes_inactive rfl, Finset.empty_union,
    recordedRoutes_eq hk, routes_active hactive, Finset.erase_union_distrib,
    Finset.erase_singleton, Finset.empty_union,
    Finset.erase_eq_of_notMem (not_mem_otherRoutes hk _ _)]

theorem insert_recorded {p : NetworkControlPlane} {iface gateway4 : String} {metric : Int}
    (hk : iface = p.names.eth ∨ iface = p.names.wifi)
    (hfree : (p.ownedRouteFor iface).active = true →
      (p.ownedRouteFor iface).gateway4 = gateway4 ∧ (p.ownedRouteFor iface).metric = metric) :
    insert ⟨iface, gateway4, metric⟩ (recordedRoutes p) =
      recordedRoutes (p.setOwnedRoute iface ⟨true, gateway4, metric⟩) := by
  rw [recordedRoutes_setOwnedRoute hk, routes_active rfl, recordedRoutes_eq hk,
    ← Finset.insert_eq]
  cases hactive : (p.ownedRouteFor iface).active with
  | false => rw [routes_inactive hactive, Finset.empty_union]
  | true =>
    obtain ⟨rfl, rfl⟩ := hfree hactive
    rw [routes_active hactive, Finset.singleton_union, Finset.insert_idem]

/-! ### The two route functions -/

section Functions

variable (ops : NetworkControlPlaneOps W) {s : Run W} {iface : String}

/-- What `clear_owned_route_locked` does to the invariant.  When it returns `true` the record
is inactive. -/
theorem clearOwnedRouteLocked_owned (hs : RoutesOwned s)
    (hk : iface = s.plane.names.eth ∨ iface = s.plane.names.wifi) :
    match clearOwnedRouteLocked ops iface s with
    | .ok _ t => RoutesOwned t ∧ (t.plane.ownedRouteFor iface).active = false
    | .error _ t => RoutesOwned t := by
  rcases clearOwnedRouteLocked_cases ops iface s with
    ⟨hinactive, hrun⟩ | ⟨-, -, hrun⟩ | ⟨e, w, hactive, -, hrun⟩ | ⟨w, hactive, -, hrun⟩ <;>
    rw [hrun]
  · exact ⟨hs, hinactive⟩
  · exact hs
  · refine ⟨?_, hs.record_clear hk hactive (.error e) w⟩
    rw [record_log, ensuredRoutes_cons_other _ _ (Or.inr rfl)]
    exact hs.exact
  · refine ⟨⟨?_, hs.record_clear hk hactive (.ok ()) w⟩, ?_⟩
    · show (ensuredRoutes s.log).erase _ = _
      rw [hs.exact]
      exact erase_recorded hk hactive
    · show ((s.plane.setOwnedRoute iface {}).ownedRouteFor iface).active = false
      rw [NetworkControlPlane.ownedRouteFor_setOwnedRoute]

theorem clearOwnedRouteLocked_after_owned (hs : RoutesOwned s)
    (hk : iface = s.plane.names.eth ∨ iface = s.plane.names.wifi) :
    RoutesOwned (after (clearOwnedRouteLocked ops iface) s) := by
  have hcleared := clearOwnedRouteLocked_owned ops hs hk
  unfold after
  cases hclear : clearOwnedRouteLocked ops iface s with
  | ok u t => rw [hclear] at hcleared; exact hcleared.1
  | error e t => rw [hclear] at hcleared; exact hcleared

/-- The run in which the set call is issued has the invariant, and its record is inactive or
already the wanted one. -/
theorem Freed.owned {gateway4 : String} {metric : Int} {t : Run W} (hs : RoutesOwned s)
    (hk : iface = s.plane.names.eth ∨ iface = s.plane.names.wifi)
    (hfreed : Freed ops iface s gateway4 metric t) :
    RoutesOwned t ∧ ((t.plane.ownedRouteFor iface).active = true →
      (t.plane.ownedRouteFor iface).gateway4 = gateway4 ∧
        (t.plane.ownedRouteFor iface).metric = metric) := by
  rcases hfreed with ⟨rfl, hsame⟩ | hclear
  · exact ⟨hs, hsame⟩
  · have hcleared := clearOwnedRouteLocked_owned ops hs hk
    rw [hclear] at hcleared
    obtain ⟨ht, hinactive⟩ := hcleared
    exact ⟨ht, fun hactive => by rw [hinactive] at hactive; exact nomatch hactive⟩

theorem RoutesOwned.record_set {t : Run W} (ht : RoutesOwned t) (gateway4 : String)
    (metric : Int) (r : Except String Unit) (w : W) :
    LogOwned (t.record (.setDefaultRoute iface gateway4 metric) r w).log :=
  ⟨⟨ht.exact, fun _ _ _ hclear => nomatch hclear⟩, ht.log⟩

theorem ensureOwnedRouteLocked_after_owned (gateway4 : String) (metric : Int)
    (hs : RoutesOwned s) (hk : iface = s.plane.names.eth ∨ iface = s.plane.names.wifi) :
    RoutesOwned (after (ensureOwnedRouteLocked ops iface gateway4 metric) s) := by
  by_cases hgw : gateway4 = ""
  · unfold ensureOwnedRouteLocked
    rw [if_pos hgw]
    exact clearOwnedRouteLocked_after_owned ops hs hk
  rcases ensureOwnedRouteLocked_cases ops iface s gateway4 metric hgw with
    ⟨-, hrun⟩ | ⟨e, t, hclear, hrun⟩ | ⟨t, e, w, hfreed, -, hrun⟩ | ⟨t, w, hfreed, -, hrun⟩
  · rw [after_error hrun]
    exact hs
  · rw [after_error hrun, ← after_error hclear]
    exact clearOwnedRouteLocked_after_owned ops hs hk
  · obtain ⟨ht, -⟩ := hfreed.owned ops hs hk
    rw [after_error hrun]
    refine ⟨?_, ht.record_set gateway4 metric (.error e) w⟩
    rw [record_log, ensuredRoutes_cons_other _ _ (Or.inr rfl)]
    exact ht.exact
  · obtain ⟨ht, hsame⟩ := hfreed.owned ops hs hk
    rw [after_ok hrun]
    refine ⟨?_, ht.record_set gateway4 metric (.ok ()) w⟩
    show insert _ (ensuredRoutes t.log) = _
    rw [ht.exact]
    exact insert_recorded (by rw [hfreed.names]; exact hk) hsame

end Functions

/-! ### Every run -/

theorem Edit.recordedRoutes {f : NetworkControlPlane → NetworkControlPlane} (hf : Edit f)
    (p : NetworkControlPlane) : recordedRoutes (f p) = recordedRoutes p := by
  cases hf with
  | link iface g =>
    show ControlPlane.recordedRoutes (p.setLink iface (g p)) = _
    unfold ControlPlane.recordedRoutes NetworkControlPlane.setLink
    split <;> rfl
  | dropStatic iface => dsimp only; split <;> rfl
  | dropEthernet => rfl
  | static st => rfl
  | policy policy => rfl

/-- Every step of every operation keeps the invariant. -/
theorem routesOwned_steps (ops : NetworkControlPlaneOps W) (N : IfaceNames) :
    Steps ops N (Keeping RoutesOwned) where
  clear := by
    intro iface hk s hN
    subst hN
    exact ⟨clearOwnedRouteLocked_names ops iface s,
      fun hs => clearOwnedRouteLocked_after_owned ops hs hk⟩
  ensure := by
    intro iface gateway4 metric hk s hN
    subst hN
    exact ⟨ensureOwnedRouteLocked_names ops iface s gateway4 metric,
      fun hs => ensureOwnedRouteLocked_after_owned ops gateway4 metric hs hk⟩
  call := by
    intro c hc s hN
    refine ⟨hN, fun hs => hs.record_other ?_ _ _⟩
    cases c <;> first | rfl | exact nomatch hc
  dnsCall := by
    intro c hc s hN
    refine ⟨hN, fun hs => hs.record_other ?_ _ _⟩
    cases c <;> first | rfl | exact nomatch hc
  dnsEdit := by
    intro f hf s hN
    cases hf <;> exact ⟨hN, fun hs => ⟨hs.exact, hs.log⟩⟩
  edit := by
    intro f hf s hN
    exact ⟨((namesSteps ops N).edit f hf s hN).1,
      fun hs => hs.edit (hf.recordedRoutes s.plane)⟩

/-- Nothing is recorded while no port was called, so that forgetting a record loses nothing. -/
theorem adoptDhcp_owned (ops : NetworkControlPlaneOps W) (iface : String) {s : Run W}
    (hs : RoutesOwned s) (hlog : s.log = []) : RoutesOwned (after (adoptDhcp ops iface) s) := by
  have hempty : recordedRoutes s.plane = ∅ := by
    rw [← hs.exact, hlog]
    rfl
  have hforget : ∀ p : NetworkControlPlane, recordedRoutes p = ∅ →
      recordedRoutes (p.setOwnedRoute iface {}) = ∅ := by
    intro p hp
    obtain ⟨heth, hwifi⟩ := Finset.union_eq_empty.mp hp
    unfold recordedRoutes NetworkControlPlane.setOwnedRoute
    split
    · exact Finset.union_eq_empty.mpr ⟨routes_inactive rfl, hwifi⟩
    · exact Finset.union_eq_empty.mpr ⟨heth, routes_inactive rfl⟩
  unfold after adoptDhcp
  cases hknown : s.plane.knownIface iface with
  | false => simpa [hknown] using hs
  | true =>
    cases havail : ops.available .readLease with
    | false => simpa [hknown, havail] using hs
    | true =>
      simp only [run_bind, run_getPlane, run_require, hknown, if_true, run_modifyPlane]
      refine ⟨?_, hs.log⟩
      show ensuredRoutes s.log = _
      rw [hs.exact, hempty, (Edit.dropStatic iface).recordedRoutes]
      refine (hforget _ ?_).symm
      rw [(Edit.link iface fun _ => { managedDhcp := true }).recordedRoutes]
      exact hempty

theorem Reachable.routesOwned {ops : NetworkControlPlaneOps W} {s : Run W}
    (hs : Reachable ops AdoptsAtStart s) : RoutesOwned s := by
  induction hs with
  | fresh names w => exact ⟨rfl, trivial⟩
  | @perform s op _ hallowed ih =>
    by_cases hadopt : ∃ iface, op = .adoptDhcp iface
    · obtain ⟨iface, rfl⟩ := hadopt
      exact adoptDhcp_owned ops iface ih hallowed
    · have hop : ∀ iface, op ≠ .adoptDhcp iface := fun iface h => hadopt ⟨iface, h⟩
      exact (((routesOwned_steps ops s.plane.names).perform op hop) s rfl).2 ih
  | environment w _ ih => exact ⟨ih.exact, ih.log⟩

theorem LogOwned.call : ∀ {newer : List PortEvent} {e : PortEvent} {older : List PortEvent},
    LogOwned (newer ++ e :: older) → CallOwned e older
  | [], _, _, h => h.1
  | _ :: _, _, _, h => LogOwned.call h.2

/-- **Route ownership is exact along every run.**  The routes that were set and not since
cleared are those of the active records, after every operation and at every port call, and a
clear call names a route that is recorded when it is issued. -/
theorem routes_ensured_iff_recorded (ops : NetworkControlPlaneOps W) {s : Run W}
    (hs : Reachable ops AdoptsAtStart s) :
    ensuredRoutes s.log = recordedRoutes s.plane ∧
      ∀ newer e older, s.log = newer ++ e :: older →
        ensuredRoutes older = recordedRoutes e.plane ∧
          ∀ iface gateway4 metric, e.call = .clearDefaultRoute iface gateway4 metric →
            ⟨iface, gateway4, metric⟩ ∈ recordedRoutes e.plane := by
  have howned := hs.routesOwned
  refine ⟨howned.exact, fun newer e older hsplit => ?_⟩
  have hcall : CallOwned e older := LogOwned.call (hsplit ▸ howned.log)
  exact ⟨hcall.exact, hcall.clears⟩

/-- A static route is installed, moved to another metric by the policy and withdrawn again. -/
theorem routes_ensured_iff_recorded_static :
    let s0 := fresh IfaceNames.standard ()
    let s1 := after ((Operation.applyEthernetStatic "192.168.1.2" "255.255.255.0" "192.168.1.1"
      "" 10).perform idlePorts) s0
    let s2 := after ((Operation.setRoutePolicy .wifiPreferred).perform idlePorts) s1
    ensuredRoutes s2.log = recordedRoutes s2.plane ∧
      recordedRoutes s2.plane = {⟨"eth0", "192.168.1.1", 20⟩} := by
  refine ⟨(routes_ensured_iff_recorded idlePorts ?_).1, by decide +kernel⟩
  exact .perform _ (.perform _ (.fresh _ _) trivial) trivial

end NetworkService.ControlPlane
