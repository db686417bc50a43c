import NetworkService.ControlPlane.Records
import NetworkService.ControlPlane.Reliable

/-!
# What later passes read off the records

Repair, resolver and lease passes look at one field of a record and rely on another: a link that is
active is taken to hold the lease it was configured from, an owned route that is active is taken to
have a gateway to repair, and the metric of a static configuration that is gone is taken to be the
default one.  The fields are assigned one at a time, with early returns in between, so each coupling
is carried through every operation.
-/

namespace NetworkService.ControlPlane

open Fallible

/-- An active link is managed, its lease is configured and its fingerprint is that lease's. -/
def LinkState.Coupled (link : LinkState) : Prop :=
  link.active = true →
    link.managedDhcp = true ∧ link.lease.configured = true ∧
      link.fingerprint = link.lease.fingerprint

def OwnedRouteState.Coupled (owned : OwnedRouteState) : Prop :=
  owned.active = true → owned.gateway4 ≠ ""

/-- The fields of the records that are read together. -/
structure RecordsCoupled (p : NetworkControlPlane) : Prop where
  eth : p.eth.Coupled
  wifi : p.wifi.Coupled
  exclusive : p.staticEth.active = true → p.eth.managedDhcp = false ∧ p.eth.active = false
  ethRoute : p.ethRoute.Coupled
  wifiRoute : p.wifiRoute.Coupled
  metric : p.staticEth.active = false → p.staticEth.manualMetric = 10

/-! ### Links -/

theorem linkRule_coupled : LinkRule LinkState.Coupled where
  empty hactive := nomatch hactive
  managed hactive := nomatch hactive
  dropped _ _ hactive := nomatch hactive
  configured _ _ hmanaged hfact _ := ⟨hmanaged, hfact, rfl⟩

/-- Static Ethernet and an active Ethernet link exclude each other through the managed flag. -/
theorem ConsistentWith.eth_inactive {p : NetworkControlPlane}
    (h : ConsistentWith LinkState.Coupled p) (hstatic : p.staticEth.active = true) :
    p.eth.active = false := by
  cases hactive : p.eth.active with
  | false => rfl
  | true =>
    have hmanaged := (h.eth hactive).1
    rw [h.exclusive hstatic] at hmanaged
    exact nomatch hmanaged

/-! ### Owned routes -/

variable {W : Type}

def RoutesCoupled (s : Run W) : Prop := ∀ iface, (s.plane.ownedRouteFor iface).Coupled

theorem RoutesCoupled.same {s t : Run W} (h : RoutesCoupled s)
    (hsame : ∀ iface, t.plane.ownedRouteFor iface = s.plane.ownedRouteFor iface) :
    RoutesCoupled t := by
  intro iface
  rw [hsame iface]
  exact h iface

theorem RoutesCoupled.setOwnedRoute {s t : Run W} (h : RoutesCoupled s) {iface : String}
    {owned : OwnedRouteState} (howned : owned.Coupled)
    (hplane : t.plane = s.plane.setOwnedRoute iface owned) : RoutesCoupled t := by
  intro other
  have heth := h s.plane.names.eth
  have hwifi := h s.plane.names.wifi
  have hne : s.plane.names.wifi ≠ s.plane.names.eth := Ne.symm s.plane.names.distinct
  rw [NetworkControlPlane.ownedRouteFor, if_pos rfl] at heth
  rw [NetworkControlPlane.ownedRouteFor, if_neg hne] at hwifi
  rw [hplane]
  unfold NetworkControlPlane.setOwnedRoute NetworkControlPlane.ownedRouteFor
  by_cases hi : iface = s.plane.names.eth <;> by_cases ho : other = s.plane.names.eth <;>
    simp [hi, ho, howned, heth, hwifi]

theorem empty_coupled : OwnedRouteState.Coupled {} := fun hactive => nomatch hactive

section Steps

variable (ops : NetworkControlPlaneOps W)

theorem clearOwnedRouteLocked_coupled (iface : String) :
    Along (Keeping RoutesCoupled) (clearOwnedRouteLocked ops iface) := by
  intro s h
  rcases clearOwnedRouteLocked_cases ops iface s with
    ⟨-, hrun⟩ | ⟨-, -, hrun⟩ | ⟨e, w, -, -, hrun⟩ | ⟨w, -, -, hrun⟩
  · rw [after_ok hrun]
    exact h
  · rw [after_error hrun]
    exact h
  · rw [after_error hrun]
    exact h
  · rw [after_ok hrun]
    exact h.setOwnedRoute empty_coupled rfl

/-- The one place that activates a route has been past the test for an empty gateway. -/
theorem ensureOwnedRouteLocked_coupled (iface gateway4 : String) (metric : Int) :
    Along (Keeping RoutesCoupled) (ensureOwnedRouteLocked ops iface gateway4 metric) := by
  intro s h
  by_cases hgw : gateway4 = ""
  · unfold ensureOwnedRouteLocked
    rw [if_pos hgw]
    exact clearOwnedRouteLocked_coupled ops iface s h
  have hclear := clearOwnedRouteLocked_coupled ops iface s h
  have hfreed : ∀ t, Freed ops iface s gateway4 metric t → RoutesCoupled t := by
    rintro t (⟨rfl, -⟩ | hrun)
    · exact h
    · exact after_ok hrun ▸ hclear
  rcases ensureOwnedRouteLocked_cases ops iface s gateway4 metric hgw with
    ⟨-, hrun⟩ | ⟨e, t, hrunClear, hrun⟩ | ⟨t, e, w, ht, -, hrun⟩ | ⟨t, w, ht, -, hrun⟩
  · rw [after_error hrun]
    exact h
  · rw [after_error hrun, ← after_error hrunClear]
    exact hclear
  · rw [after_error hrun]
    exact hfreed t ht
  · rw [after_ok hrun]
    exact (hfreed t ht).setOwnedRoute (fun _ => hgw) rfl

theorem coupledSteps (N : IfaceNames) : Steps ops N (Keeping RoutesCoupled) where
  clear iface _ :=
    within_of_names (clearOwnedRouteLocked_names ops iface) (clearOwnedRouteLocked_coupled ops iface)
  ensure iface gateway4 metric _ :=
    within_of_names (fun s => ensureOwnedRouteLocked_names ops iface s gateway4 metric)
      (ensureOwnedRouteLocked_coupled ops iface gateway4 metric)
  call _ _ _ hN := ⟨hN, fun h => h⟩
  dnsCall _ _ _ hN := ⟨hN, fun h => h⟩
  dnsEdit f hf s hN := by
    refine ⟨((namesSteps ops N).dnsEdit f hf s hN).1, fun h => h.same fun iface => ?_⟩
    cases hf <;> rfl
  edit f hf s hN :=
    ⟨((namesSteps ops N).edit f hf s hN).1,
      fun h => h.same fun iface => ownedRouteFor_edit hf s.plane iface⟩

/-- Adoption forgets the owned route without a call. -/
theorem adoptDhcp_coupled (iface : String) :
    Along (Keeping RoutesCoupled) (adoptDhcp ops iface) := by
  have hedit : ∀ {f : NetworkControlPlane → NetworkControlPlane}, Edit f →
      Along (Keeping RoutesCoupled) (modifyPlane f : Op W Unit) :=
    fun hf s h => h.same fun other => ownedRouteFor_edit hf s.plane other
  refine Along.bind along_getPlane fun p => Along.bind (Along.require _ _) fun _ => ?_
  refine Along.bind (Along.require _ _) fun _ => ?_
  refine Along.bind (hedit (.link iface _)) fun _ => ?_
  refine Along.bind (fun s h => h.setOwnedRoute empty_coupled rfl) fun _ => ?_
  exact hedit (.dropStatic iface)

theorem perform_coupled (op : Operation) : Along (Keeping RoutesCoupled) (op.perform ops) := by
  intro s
  cases op with
  | adoptDhcp iface => exact adoptDhcp_coupled ops iface s
  | startDhcp | stopDhcp | applyEthernetStatic | reconcile | reconcileChanged | refreshExternalState
  | setRoutePolicy =>
    exact ((coupledSteps ops s.plane.names).perform _ (fun _ hop => by cases hop) s rfl).2

end Steps

theorem Reachable.routesCoupled {ops : NetworkControlPlaneOps W}
    {allowed : Run W → Operation → Prop} {s : Run W} (hs : Reachable ops allowed s) :
    RoutesCoupled s := by
  induction hs with
  | fresh names w =>
    intro iface
    unfold NetworkControlPlane.ownedRouteFor
    split <;> exact empty_coupled
  | perform op _ _ ih => exact perform_coupled ops op _ ih
  | environment w _ ih => exact ih

/-! ### Every run -/

/-- **The records stay coupled**: after any operations in any order, whatever the ports answer and
whatever leases appear. -/
theorem reachable_recordsCoupled {ops : NetworkControlPlaneOps W}
    {allowed : Run W → Operation → Prop} {s : Run W} (hs : Reachable ops allowed s) :
    RecordsCoupled s.plane := by
  have hlinks := hs.consistentWith linkRule_coupled
  have hroutes := hs.routesCoupled
  have hne : s.plane.names.wifi ≠ s.plane.names.eth := Ne.symm s.plane.names.distinct
  have heth := hroutes s.plane.names.eth
  have hwifi := hroutes s.plane.names.wifi
  rw [NetworkControlPlane.ownedRouteFor, if_pos rfl] at heth
  rw [NetworkControlPlane.ownedRouteFor, if_neg hne] at hwifi
  refine ⟨hlinks.eth, hlinks.wifi, fun hstatic => ?_, heth, hwifi, fun hidle => ?_⟩
  · exact ⟨hlinks.exclusive hstatic, hlinks.eth_inactive hstatic⟩
  · rw [hlinks.idle hidle]

/-- Ethernet is static, and the Wi-Fi client has just been given a lease. -/
def staticAndLeased : Run (Option DhcpLeaseFact) :=
  let ops := leasePorts.toNetworkControlPlaneOps
  let static := after ((Operation.applyEthernetStatic "192.168.50.20" "255.255.255.0"
    "192.168.50.1" "1.1.1.1" 20).perform ops) (fresh .standard none)
  let started := after ((Operation.startDhcp "wlan0").perform ops) static
  after (Operation.reconcile.perform ops) { started with world := some accessPointLease }

theorem reachable_recordsCoupled_staticAndLeased :
    RecordsCoupled staticAndLeased.plane ∧ staticAndLeased.plane.staticEth.active = true ∧
      staticAndLeased.plane.wifi.active = true ∧ staticAndLeased.plane.wifiRoute.active = true := by
  have hreach : Reachable leasePorts.toNetworkControlPlaneOps (fun _ _ => True) staticAndLeased :=
    .perform _ (.environment _ (.perform _ (.perform _ (.fresh _ _) trivial) trivial)) trivial
  exact ⟨reachable_recordsCoupled hreach, by decide +kernel, by decide +kernel, by decide +kernel⟩

end NetworkService.ControlPlane
