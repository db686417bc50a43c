import NetworkService.Types
import NetworkService.Library.Fallible

/-!
# The control plane's records and its platform ports

`NetworkControlPlane` keeps one DHCP record per interface, the static Ethernet record, one
owned-route record per interface, the route policy and the resolver ownership.  It reaches
the platform only through `NetworkControlPlaneOps`, eleven `std::function` ports.

A port call is a value `PortCall`; the ops say which ports are set and how a call acts on a
platform of any type `W`.  A failed call returns the error text of the port.  Every call is
written to a log with the records the control plane had when it issued the call, so that
statements about "the calls issued" and "the records at that moment" can be made.
-/

namespace NetworkService.ControlPlane

open Fallible

/-! ### Records -/

structure LinkState where
  managedDhcp : Bool := false
  active : Bool := false
  lease : DhcpLeaseFact := {}
  fingerprint : String := ""
  deriving DecidableEq

structure StaticEthernetState where
  active : Bool := false
  ip4 : String := ""
  netmask4 : String := ""
  gateway4 : String := ""
  dns4 : String := ""
  manualMetric : Int := 10
  deriving DecidableEq

structure OwnedRouteState where
  active : Bool := false
  gateway4 : String := ""
  metric : Int := -1
  deriving DecidableEq

structure NetworkControlPlane where
  names : IfaceNames
  eth : LinkState := {}
  wifi : LinkState := {}
  staticEth : StaticEthernetState := {}
  ethRoute : OwnedRouteState := {}
  wifiRoute : OwnedRouteState := {}
  routePolicy : RoutePolicy := .ethernetPreferred
  dnsOwnershipInitialized : Bool := false
  managedDns : Bool := false
  lastDns : String := ""
  deriving DecidableEq

namespace NetworkControlPlane

variable (p : NetworkControlPlane)

def knownIface (iface : String) : Bool := iface = p.names.eth ∨ iface = p.names.wifi

def linkFor (iface : String) : LinkState := if iface = p.names.eth then p.eth else p.wifi

def ownedRouteFor (iface : String) : OwnedRouteState :=
  if iface = p.names.eth then p.ethRoute else p.wifiRoute

/-- Assignment through the reference `link_for` returns. -/
def setLink (iface : String) (link : LinkState) : NetworkControlPlane :=
  if iface = p.names.eth then { p with eth := link } else { p with wifi := link }

/-- Assignment through the reference `owned_route_for` returns. -/
def setOwnedRoute (iface : String) (route : OwnedRouteState) : NetworkControlPlane :=
  if iface = p.names.eth then { p with ethRoute := route } else { p with wifiRoute := route }

variable {p} {iface : String} {link : LinkState} {route : OwnedRouteState}

theorem setOwnedRoute_eth (p : NetworkControlPlane) (route : OwnedRouteState) :
    p.setOwnedRoute p.names.eth route = { p with ethRoute := route } := if_pos rfl

theorem setOwnedRoute_wifi (p : NetworkControlPlane) (route : OwnedRouteState) :
    p.setOwnedRoute p.names.wifi route = { p with wifiRoute := route } :=
  if_neg (Ne.symm p.names.distinct)

theorem ownedRouteFor_eth (p : NetworkControlPlane) :
    p.ownedRouteFor p.names.eth = p.ethRoute := if_pos rfl

theorem ownedRouteFor_wifi (p : NetworkControlPlane) :
    p.ownedRouteFor p.names.wifi = p.wifiRoute := if_neg (Ne.symm p.names.distinct)

theorem setLink_eth (p : NetworkControlPlane) (link : LinkState) :
    p.setLink p.names.eth link = { p with eth := link } := if_pos rfl

theorem setLink_wifi (p : NetworkControlPlane) (link : LinkState) :
    p.setLink p.names.wifi link = { p with wifi := link } :=
  if_neg (Ne.symm p.names.distinct)

theorem linkFor_eth (p : NetworkControlPlane) : p.linkFor p.names.eth = p.eth := if_pos rfl

theorem linkFor_wifi (p : NetworkControlPlane) : p.linkFor p.names.wifi = p.wifi :=
  if_neg (Ne.symm p.names.distinct)

theorem linkFor_of_wifi (hi : iface = p.names.wifi) : p.linkFor iface = p.wifi := by
  rw [hi, linkFor_wifi]

theorem knownIface_iff :
    p.knownIface iface = true ↔ iface = p.names.eth ∨ iface = p.names.wifi := by
  simp [knownIface]

@[simp] theorem setOwnedRoute_names : (p.setOwnedRoute iface route).names = p.names := by
  unfold setOwnedRoute
  split <;> rfl

@[simp] theorem setLink_names : (p.setLink iface link).names = p.names := by
  unfold setLink
  split <;> rfl

@[simp] theorem ownedRouteFor_setOwnedRoute :
    (p.setOwnedRoute iface route).ownedRouteFor iface = route := by
  unfold setOwnedRoute ownedRouteFor
  split <;> simp_all

@[simp] theorem linkFor_setLink : (p.setLink iface link).linkFor iface = link := by
  unfold setLink linkFor
  split <;> simp_all

/-! ### What an assignment leaves alone -/

theorem linkFor_setOwnedRoute (p : NetworkControlPlane) (iface : String) (route : OwnedRouteState)
    {i : String} : (p.setOwnedRoute iface route).linkFor i = p.linkFor i := by
  unfold setOwnedRoute
  split <;> rfl

theorem ownedRouteFor_setLink (p : NetworkControlPlane) (iface : String) (link : LinkState)
    {i : String} : (p.setLink iface link).ownedRouteFor i = p.ownedRouteFor i := by
  unfold setLink
  split <;> rfl

@[simp] theorem setOwnedRoute_staticEth :
    (p.setOwnedRoute iface route).staticEth = p.staticEth := by
  unfold setOwnedRoute
  split <;> rfl

@[simp] theorem setLink_staticEth : (p.setLink iface link).staticEth = p.staticEth := by
  unfold setLink
  split <;> rfl

@[simp] theorem setOwnedRoute_managedDns :
    (p.setOwnedRoute iface route).managedDns = p.managedDns := by
  unfold setOwnedRoute
  split <;> rfl

@[simp] theorem setLink_managedDns : (p.setLink iface link).managedDns = p.managedDns := by
  unfold setLink
  split <;> rfl

@[simp] theorem setOwnedRoute_lastDns : (p.setOwnedRoute iface route).lastDns = p.lastDns := by
  unfold setOwnedRoute
  split <;> rfl

@[simp] theorem setLink_lastDns : (p.setLink iface link).lastDns = p.lastDns := by
  unfold setLink
  split <;> rfl

theorem linkFor_setLink_ne {i : String} (hp : iface = p.names.eth ∨ iface = p.names.wifi)
    (hi : i = p.names.eth ∨ i = p.names.wifi) (hne : i ≠ iface) (link : LinkState) :
    (p.setLink i link).linkFor iface = p.linkFor iface := by
  rcases hi with rfl | rfl
  · rw [setLink_eth]
    unfold linkFor
    rw [if_neg (Ne.symm hne), if_neg (Ne.symm hne)]
  · obtain rfl := hp.resolve_right (Ne.symm hne)
    rw [setLink_wifi, linkFor_eth p]
    exact linkFor_eth _

theorem ownedRouteFor_setOwnedRoute_ne {i : String} (hp : iface = p.names.eth ∨ iface = p.names.wifi)
    (hi : i = p.names.eth ∨ i = p.names.wifi) (hne : i ≠ iface) (route : OwnedRouteState) :
    (p.setOwnedRoute i route).ownedRouteFor iface = p.ownedRouteFor iface := by
  rcases hi with rfl | rfl
  · rw [setOwnedRoute_eth]
    unfold ownedRouteFor
    rw [if_neg (Ne.symm hne), if_neg (Ne.symm hne)]
  · obtain rfl := hp.resolve_right (Ne.symm hne)
    rw [setOwnedRoute_wifi, ownedRouteFor_eth p]
    exact ownedRouteFor_eth _

end NetworkControlPlane

/-! ### Ports -/

/-- The ports of `NetworkControlPlaneOps`, by name. -/
inductive Port
  | startDhcp
  | stopDhcp
  | readLease
  | clearLease
  | applyIpv4
  | clearIpv4
  | setDefaultRoute
  | clearDefaultRoute
  | setDns
  | clearDns
  | snapshot
  deriving DecidableEq, Repr

/-- A call of a port with its arguments. -/
inductive PortCall
  | startDhcp (iface : String)
  | stopDhcp (iface : String)
  | readLease (iface : String)
  | clearLease (iface : String)
  | applyIpv4 (iface ip4 netmask4 : String)
  | clearIpv4 (iface : String)
  | setDefaultRoute (iface gateway4 : String) (metric : Int)
  | clearDefaultRoute (iface gateway4 : String) (metric : Int)
  | setDns (dns4 : String)
  | clearDns
  | snapshot
  deriving DecidableEq, Repr

namespace PortCall

/-- What a call returns.  `read_lease` reports a fact only when `exists` is set. -/
abbrev Reply : PortCall → Type
  | stopDhcp _ | clearLease _ => Unit
  | readLease _ => Except String (Option DhcpLeaseFact)
  | snapshot => NetworkSnapshot
  | startDhcp _ | applyIpv4 _ _ _ | clearIpv4 _ | setDefaultRoute _ _ _
  | clearDefaultRoute _ _ _ | setDns _ | clearDns => Except String Unit

/-- Whether a call succeeded; the `void` ports and the snapshot cannot fail. -/
def succeeded : (c : PortCall) → c.Reply → Bool
  | stopDhcp _, _ | clearLease _, _ | snapshot, _ => true
  | readLease _, r => r.isOk
  | startDhcp _, r | applyIpv4 _ _ _, r | clearIpv4 _, r | setDefaultRoute _ _ _, r
  | clearDefaultRoute _ _ _, r | setDns _, r | clearDns, r => r.isOk

/-- The interface a call names. -/
def iface? : PortCall → Option String
  | startDhcp i | stopDhcp i | readLease i | clearLease i | applyIpv4 i _ _ | clearIpv4 i
  | setDefaultRoute i _ _ | clearDefaultRoute i _ _ => some i
  | setDns _ | clearDns | snapshot => none

end PortCall

/-- The ports: which of them are set, and how a call acts on the platform `W`. -/
structure NetworkControlPlaneOps (W : Type) where
  available : Port → Bool
  call : (c : PortCall) → W → c.Reply × W

/-- A port call as it was issued: the records at that moment, and how it ended. -/
structure PortEvent where
  plane : NetworkControlPlane
  call : PortCall
  ok : Bool
  deriving DecidableEq

/-- The control plane in its environment, with every call issued so far, newest first. -/
structure Run (W : Type) where
  plane : NetworkControlPlane
  world : W
  log : List PortEvent := []

/-- A member function of the control plane. -/
abbrev Op (W α : Type) := EStateM String (Run W) α

variable {W α : Type}

/-- The run after the call `c` got the reply `r` and the platform became `w`. -/
def Run.record (s : Run W) (c : PortCall) (r : c.Reply) (w : W) : Run W :=
  { s with world := w, log := ⟨s.plane, c, c.succeeded r⟩ :: s.log }

/-- Call a port and take its reply. -/
def invoke (ops : NetworkControlPlaneOps W) (c : PortCall) : Op W c.Reply := fun s =>
  .ok (ops.call c s.world).1 (s.record c (ops.call c s.world).1 (ops.call c s.world).2)

/-- A reply of a port that returns `bool`: go on, or stop with the error it reports. -/
def check (r : Except String α) : Op W α :=
  match r with
  | .ok a => pure a
  | .error e => throw e

def getPlane : Op W NetworkControlPlane := fun s => .ok s.plane s

def modifyPlane (f : NetworkControlPlane → NetworkControlPlane) : Op W Unit := fun s =>
  .ok () { s with plane := f s.plane }

@[simp] theorem run_getPlane (s : Run W) : (getPlane : Op W _) s = .ok s.plane s := rfl

@[simp] theorem run_modifyPlane (f : NetworkControlPlane → NetworkControlPlane) (s : Run W) :
    (modifyPlane f : Op W _) s = .ok () { s with plane := f s.plane } := rfl

@[simp] theorem run_invoke (ops : NetworkControlPlaneOps W) (c : PortCall) (s : Run W) :
    invoke ops c s =
      .ok (ops.call c s.world).1 (s.record c (ops.call c s.world).1 (ops.call c s.world).2) :=
  rfl

theorem after_invoke {ops : NetworkControlPlaneOps W} {c : PortCall} {s : Run W} {r : c.Reply}
    {w : W} (h : ops.call c s.world = (r, w)) : after (invoke ops c) s = s.record c r w := by
  show s.record c (ops.call c s.world).1 (ops.call c s.world).2 = _
  rw [h]

@[simp] theorem record_plane (s : Run W) (c : PortCall) (r : c.Reply) (w : W) :
    (s.record c r w).plane = s.plane := rfl

@[simp] theorem record_world (s : Run W) (c : PortCall) (r : c.Reply) (w : W) :
    (s.record c r w).world = w := rfl

@[simp] theorem record_log (s : Run W) (c : PortCall) (r : c.Reply) (w : W) :
    (s.record c r w).log = ⟨s.plane, c, c.succeeded r⟩ :: s.log := rfl

/-- The calls of a kind in a log. -/
def callsOf (kind : PortCall → Bool) (log : List PortEvent) : List PortCall :=
  (log.map PortEvent.call).filter kind

theorem callsOf_record {s : Run W} {c : PortCall} {r : c.Reply} {w : W} (kind : PortCall → Bool) :
    callsOf kind (s.record c r w).log =
      if kind c then c :: callsOf kind s.log else callsOf kind s.log := by
  unfold callsOf
  rw [record_log, List.map_cons, List.filter_cons]

section Wp

variable {s : Run W} {E : String → Run W → Prop}

@[simp] theorem wp_getPlane {Q : NetworkControlPlane → Run W → Prop} :
    wp getPlane Q E s ↔ Q s.plane s := Iff.rfl

@[simp] theorem wp_modifyPlane {f : NetworkControlPlane → NetworkControlPlane}
    {Q : Unit → Run W → Prop} :
    wp (modifyPlane f) Q E s ↔ Q () { s with plane := f s.plane } := Iff.rfl

@[simp] theorem wp_invoke {ops : NetworkControlPlaneOps W} {c : PortCall}
    {Q : c.Reply → Run W → Prop} :
    wp (invoke ops c) Q E s ↔
      Q (ops.call c s.world).1 (s.record c (ops.call c s.world).1 (ops.call c s.world).2) :=
  Iff.rfl

theorem wp_check {r : Except String α} {Q : α → Run W → Prop} :
    wp (check r) Q E s ↔ (∀ a, r = .ok a → Q a s) ∧ (∀ e, r = .error e → E e s) := by
  cases r <;> simp [check]

end Wp

/-! ### Following a preorder through the primitives -/

section Along

variable {R : Run W → Run W → Prop}

@[simp] theorem along_getPlane [Std.Refl R] : Along R (getPlane : Op W _) :=
  fun s => Std.Refl.refl s

@[simp] theorem along_check [Std.Refl R] (r : Except String α) : Along R (check r : Op W α) := by
  cases r with
  | ok a => exact Along.pure a
  | error e => exact Along.throw e

theorem along_modifyPlane {f : NetworkControlPlane → NetworkControlPlane}
    (h : ∀ s : Run W, R s { s with plane := f s.plane }) : Along R (modifyPlane f : Op W _) :=
  h

theorem along_invoke {ops : NetworkControlPlaneOps W} {c : PortCall}
    (h : ∀ (s : Run W) (r : c.Reply) (w : W), R s (s.record c r w)) : Along R (invoke ops c) :=
  fun s => h s _ _

end Along

end NetworkService.ControlPlane
