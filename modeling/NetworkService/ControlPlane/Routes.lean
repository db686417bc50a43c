import NetworkService.ControlPlane.State

/-!
# Owned default routes

`clear_owned_route_locked` and `ensure_owned_route_locked` are the only places that touch a
default route or an owned-route record; `route_allowed` and `route_metric` are the route
policy, and `apply_routes_locked` brings both interfaces in line with it.
-/

namespace NetworkService.ControlPlane

open Fallible

variable {W : Type} (ops : NetworkControlPlaneOps W)

def clearOwnedRouteLocked (iface : String) : Op W Unit := do
  let owned := (← getPlane).ownedRouteFor iface
  if owned.active then do
    require (ops.available .clearDefaultRoute) "default-route clear port is unavailable"
    check (← invoke ops (.clearDefaultRoute iface owned.gateway4 owned.metric))
    modifyPlane fun p => p.setOwnedRoute iface {}
  else
    pure ()

def ensureOwnedRouteLocked (iface gateway4 : String) (metric : Int) : Op W Unit :=
  if gateway4 = "" then
    clearOwnedRouteLocked ops iface
  else do
    require (ops.available .setDefaultRoute) "default-route port is unavailable"
    let owned := (← getPlane).ownedRouteFor iface
    when (owned.active ∧ (owned.gateway4 ≠ gateway4 ∨ owned.metric ≠ metric)) <|
      clearOwnedRouteLocked ops iface
    check (← invoke ops (.setDefaultRoute iface gateway4 metric))
    modifyPlane fun p => p.setOwnedRoute iface ⟨true, gateway4, metric⟩

/-! ### What the two functions do -/

section Outcomes

variable (iface : String) (s : Run W)

/-- The call that withdraws the recorded route. -/
abbrev clearCall : PortCall :=
  .clearDefaultRoute iface (s.plane.ownedRouteFor iface).gateway4
    (s.plane.ownedRouteFor iface).metric

/-- **Every way `clear_owned_route_locked` can go**: nothing recorded, no port, a failed call,
or a successful call after which the record is empty. -/
theorem clearOwnedRouteLocked_cases :
    ((s.plane.ownedRouteFor iface).active = false ∧ clearOwnedRouteLocked ops iface s = .ok () s) ∨
    ((s.plane.ownedRouteFor iface).active = true ∧ ops.available .clearDefaultRoute = false ∧
      clearOwnedRouteLocked ops iface s =
        .error "default-route clear port is unavailable" s) ∨
    (∃ e w, (s.plane.ownedRouteFor iface).active = true ∧
      ops.call (clearCall iface s) s.world = (.error e, w) ∧
      clearOwnedRouteLocked ops iface s = .error e (s.record (clearCall iface s) (.error e) w)) ∨
    (∃ w, (s.plane.ownedRouteFor iface).active = true ∧
      ops.call (clearCall iface s) s.world = (.ok (), w) ∧
      clearOwnedRouteLocked ops iface s =
        .ok () { s.record (clearCall iface s) (.ok ()) w with
          plane := s.plane.setOwnedRoute iface {} }) := by
  unfold clearOwnedRouteLocked
  cases hactive : (s.plane.ownedRouteFor iface).active with
  | false => simp [hactive]
  | true =>
    cases havail : ops.available .clearDefaultRoute with
    | false => simp [hactive]
    | true =>
      cases hcall : ops.call (clearCall iface s) s.world with
      | mk reply w =>
        cases reply with
        | error e =>
          refine Or.inr (Or.inr (Or.inl ⟨e, w, rfl, rfl, ?_⟩))
          simp [hactive, hcall, check]
        | ok u =>
          refine Or.inr (Or.inr (Or.inr ⟨w, rfl, rfl, ?_⟩))
          simp [hactive, hcall, check]

/-- The run in which `ensure_owned_route_locked` issues its set call: a different recorded
route has been withdrawn. -/
def Freed (gateway4 : String) (metric : Int) (t : Run W) : Prop :=
  let owned := s.plane.ownedRouteFor iface
  (t = s ∧ (owned.active = true → owned.gateway4 = gateway4 ∧ owned.metric = metric)) ∨
    clearOwnedRouteLocked ops iface s = .ok () t

/-- **Every way `ensure_owned_route_locked` can go** with a gateway: no port, the old route
could not be withdrawn, a failed call, or a successful call and the new record. -/
theorem ensureOwnedRouteLocked_cases (gateway4 : String) (metric : Int) (hgw : gateway4 ≠ "") :
    (ops.available .setDefaultRoute = false ∧
      ensureOwnedRouteLocked ops iface gateway4 metric s =
        .error "default-route port is unavailable" s) ∨
    (∃ e t, clearOwnedRouteLocked ops iface s = .error e t ∧
      ensureOwnedRouteLocked ops iface gateway4 metric s = .error e t) ∨
    (∃ t e w, Freed ops iface s gateway4 metric t ∧
      ops.call (.setDefaultRoute iface gateway4 metric) t.world = (.error e, w) ∧
      ensureOwnedRouteLocked ops iface gateway4 metric s =
        .error e (t.record (.setDefaultRoute iface gateway4 metric) (.error e) w)) ∨
    (∃ t w, Freed ops iface s gateway4 metric t ∧
      ops.call (.setDefaultRoute iface gateway4 metric) t.world = (.ok (), w) ∧
      ensureOwnedRouteLocked ops iface gateway4 metric s =
        .ok () { t.record (.setDefaultRoute iface gateway4 metric) (.ok ()) w with
          plane := t.plane.setOwnedRoute iface ⟨true, gateway4, metric⟩ }) := by
  -- the part after the withdrawal, from a run `t` in which the set call is issued
  have htail : ∀ t : Run W, Freed ops iface s gateway4 metric t →
      ensureOwnedRouteLocked ops iface gateway4 metric s =
        (match ops.call (.setDefaultRoute iface gateway4 metric) t.world with
        | (.error e, w) => .error e (t.record (.setDefaultRoute iface gateway4 metric) (.error e) w)
        | (.ok (), w) =>
          .ok () { t.record (.setDefaultRoute iface gateway4 metric) (.ok ()) w with
            plane := t.plane.setOwnedRoute iface ⟨true, gateway4, metric⟩ }) →
      (∃ t e w, Freed ops iface s gateway4 metric t ∧
        ops.call (.setDefaultRoute iface gateway4 metric) t.world = (.error e, w) ∧
        ensureOwnedRouteLocked ops iface gateway4 metric s =
          .error e (t.record (.setDefaultRoute iface gateway4 metric) (.error e) w)) ∨
      (∃ t w, Freed ops iface s gateway4 metric t ∧
        ops.call (.setDefaultRoute iface gateway4 metric) t.world = (.ok (), w) ∧
        ensureOwnedRouteLocked ops iface gateway4 metric s =
          .ok () { t.record (.setDefaultRoute iface gateway4 metric) (.ok ()) w with
            plane := t.plane.setOwnedRoute iface ⟨true, gateway4, metric⟩ }) := by
    intro t ht hrun
    cases hcall : ops.call (.setDefaultRoute iface gateway4 metric) t.world with
    | mk reply w =>
      rw [hcall] at hrun
      cases reply with
      | error e => exact Or.inl ⟨t, e, w, ht, hcall, hrun⟩
      | ok u => exact Or.inr ⟨t, w, ht, hcall, hrun⟩
  have hrun : ensureOwnedRouteLocked ops iface gateway4 metric s =
      (do
        require (ops.available .setDefaultRoute) "default-route port is unavailable"
        when ((s.plane.ownedRouteFor iface).active ∧
            ((s.plane.ownedRouteFor iface).gateway4 ≠ gateway4 ∨
              (s.plane.ownedRouteFor iface).metric ≠ metric)) <|
          clearOwnedRouteLocked ops iface
        check (← invoke ops (.setDefaultRoute iface gateway4 metric))
        modifyPlane fun p => p.setOwnedRoute iface ⟨true, gateway4, metric⟩ : Op W Unit) s := by
    unfold ensureOwnedRouteLocked
    cases ops.available .setDefaultRoute <;> simp [hgw]
  cases havail : ops.available .setDefaultRoute with
  | false => exact Or.inl ⟨rfl, by simp [hrun, havail]⟩
  | true =>
    refine Or.inr ?_
    by_cases hother : (s.plane.ownedRouteFor iface).active ∧
        ((s.plane.ownedRouteFor iface).gateway4 ≠ gateway4 ∨
          (s.plane.ownedRouteFor iface).metric ≠ metric)
    · cases hclear : clearOwnedRouteLocked ops iface s with
      | error e t => exact Or.inl ⟨e, t, rfl, by simp [hrun, havail, hother, when, hclear]⟩
      | ok u t =>
        refine Or.inr (htail t (Or.inr hclear) ?_)
        simp only [hrun, havail, run_bind, run_require, when, if_pos hother, hclear, if_true,
          run_invoke]
        cases ops.call (.setDefaultRoute iface gateway4 metric) t.world with
        | mk reply w => cases reply <;> simp [check]
    · refine Or.inr (htail s (Or.inl ⟨rfl, fun hactive => ?_⟩) ?_)
      · simpa [hactive] using hother
      · simp only [hrun, havail, run_bind, run_require, when, if_neg hother, run_pure, if_true,
          run_invoke]
        cases ops.call (.setDefaultRoute iface gateway4 metric) s.world with
        | mk reply w => cases reply <;> simp [check]

theorem clearOwnedRouteLocked_names :
    (after (clearOwnedRouteLocked ops iface) s).plane.names = s.plane.names := by
  rcases clearOwnedRouteLocked_cases ops iface s with
    ⟨-, hrun⟩ | ⟨-, -, hrun⟩ | ⟨e, w, -, -, hrun⟩ | ⟨w, -, -, hrun⟩
  · rw [after_ok hrun]
  · rw [after_error hrun]
  · rw [after_error hrun]
    rfl
  · rw [after_ok hrun]
    exact NetworkControlPlane.setOwnedRoute_names

theorem Freed.names {gateway4 : String} {metric : Int} {t : Run W}
    (hfreed : Freed ops iface s gateway4 metric t) : t.plane.names = s.plane.names := by
  rcases hfreed with ⟨rfl, -⟩ | hclear
  · rfl
  · rw [← after_ok hclear]
    exact clearOwnedRouteLocked_names ops iface s

theorem ensureOwnedRouteLocked_names (gateway4 : String) (metric : Int) :
    (after (ensureOwnedRouteLocked ops iface gateway4 metric) s).plane.names =
      s.plane.names := by
  by_cases hgw : gateway4 = ""
  · unfold ensureOwnedRouteLocked
    rw [if_pos hgw]
    exact clearOwnedRouteLocked_names ops iface s
  rcases ensureOwnedRouteLocked_cases ops iface s gateway4 metric hgw with
    ⟨-, hrun⟩ | ⟨e, t, hclear, hrun⟩ | ⟨t, e, w, hfreed, -, hrun⟩ | ⟨t, w, hfreed, -, hrun⟩
  · rw [after_error hrun]
  · rw [after_error hrun, ← after_error hclear]
    exact clearOwnedRouteLocked_names ops iface s
  · rw [after_error hrun]
    exact hfreed.names
  · rw [after_ok hrun]
    exact NetworkControlPlane.setOwnedRoute_names.trans hfreed.names

end Outcomes

/-! ### Route policy -/

namespace NetworkControlPlane

def routeAllowed (p : NetworkControlPlane) (iface : String) : Bool :=
  ¬(p.routePolicy = .wifiOnly ∧ iface = p.names.eth)

/-- A `manual_metric` that the caller leaves out is `-1`. -/
def routeMetric (p : NetworkControlPlane) (iface : String) (manualMetric : Int := -1) : Int :=
  match p.routePolicy with
  | .wifiPreferred => if iface = p.names.wifi then 10 else 20
  | .wifiOnly => if iface = p.names.wifi then 10 else 20
  | .manualMetric =>
    if 0 ≤ manualMetric then manualMetric else if iface = p.names.eth then 10 else 20
  | .ethernetPreferred => if iface = p.names.eth then 10 else 20

end NetworkControlPlane

/-- `if (error.empty()) error = text` -/
def orText (text : String) (error : String) : String := if error = "" then text else error

/-- The Ethernet half of `apply_routes_locked`. -/
def applyEthernetRoute : Op W Unit := do
  let p ← getPlane
  let eth := p.names.eth
  if p.staticEth.active ∧ p.routeAllowed eth ∧ p.staticEth.gateway4 ≠ "" then
    mapError (orText "failed to apply Ethernet static route") <|
      ensureOwnedRouteLocked ops eth p.staticEth.gateway4
        (p.routeMetric eth p.staticEth.manualMetric)
  else if p.eth.active ∧ p.routeAllowed eth ∧ p.eth.lease.gateway4 ≠ "" then
    mapError (orText "failed to apply Ethernet DHCP route") <|
      ensureOwnedRouteLocked ops eth p.eth.lease.gateway4 (p.routeMetric eth)
  else
    clearOwnedRouteLocked ops eth

/-- The Wi-Fi half of `apply_routes_locked`. -/
def applyWifiRoute : Op W Unit := do
  let p ← getPlane
  let wifi := p.names.wifi
  if p.wifi.active ∧ p.routeAllowed wifi ∧ p.wifi.lease.gateway4 ≠ "" then
    mapError (orText "failed to apply Wi-Fi DHCP route") <|
      ensureOwnedRouteLocked ops wifi p.wifi.lease.gateway4 (p.routeMetric wifi)
  else
    clearOwnedRouteLocked ops wifi

def applyRoutesLocked : Op W Unit := do
  applyEthernetRoute ops
  applyWifiRoute ops

end NetworkService.ControlPlane
