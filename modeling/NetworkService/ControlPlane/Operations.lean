import NetworkService.ControlPlane.Dns

/-!
# The operations of the control plane

Lease reconciliation, drift repair and the public operations, each a member function under
its own name, and the runs the daemon can produce: any order of operations, with the
platform free to change on its own between them.
-/

namespace NetworkService.ControlPlane

open Fallible

variable {W : Type} (ops : NetworkControlPlaneOps W)

/-! ### Lease reconciliation -/

/-- A `deconfig` fact: withdraw the route, clear the address, then keep the fact. -/
def deconfigureLink (iface : String) (fact : DhcpLeaseFact) : Op W Unit := do
  clearOwnedRouteLocked ops iface
  when (ops.available .clearIpv4) do
    check (← invoke ops (.clearIpv4 iface))
  modifyPlane fun p => p.setLink iface
    { p.linkFor iface with active := false, lease := fact, fingerprint := fact.fingerprint }

/-- The route a `bound` or `renew` fact asks for. -/
def applyLeaseRoute (iface : String) (fact : DhcpLeaseFact) : Op W Unit := do
  let p ← getPlane
  if p.routeAllowed iface ∧ fact.gateway4 ≠ "" then
    ensureOwnedRouteLocked ops iface fact.gateway4 (p.routeMetric iface)
  else
    clearOwnedRouteLocked ops iface

/-- A `bound` or `renew` fact: apply the address and the route, then keep the fact. -/
def configureLink (iface : String) (fact : DhcpLeaseFact) : Op W Unit := do
  require fact.configured "unsupported DHCP lease fact"
  require (ops.available .applyIpv4) "IPv4 configuration port is unavailable"
  check (← invoke ops (.applyIpv4 iface fact.ip4 fact.netmask4))
  applyLeaseRoute ops iface fact
  modifyPlane fun p => p.setLink iface
    { p.linkFor iface with active := true, lease := fact, fingerprint := fact.fingerprint }

/-- Returns the `changed` flag. -/
def reconcileLinkLocked (iface : String) : Op W Bool := do
  let state := (← getPlane).linkFor iface
  if state.managedDhcp then do
    require (ops.available .readLease) "DHCP lease reader is unavailable"
    let reply ← invoke ops (.readLease iface)
    match ← check reply with
    | none => pure false
    | some fact =>
      if fact.fingerprint = state.fingerprint then
        pure false
      else if fact.event = .deconfig then do
        deconfigureLink ops iface fact
        pure true
      else do
        configureLink ops iface fact
        pure true
  else
    pure false

/-! ### Drift repair -/

def repairIpv4 (iface : String) (observed : InterfaceSnapshot) (ip4 netmask4 : String) :
    Op W Unit :=
  if ¬observed.present ∨ ip4 = "" ∨ netmask4 = "" then
    pure ()
  else if observed.hasIp ∧ observed.ip4 = ip4 ∧ observed.netmask4 = netmask4 then
    pure ()
  else do
    require (ops.available .applyIpv4) "IPv4 repair port is unavailable"
    check (← invoke ops (.applyIpv4 iface ip4 netmask4))

def repairRoute (iface : String) (observed : InterfaceSnapshot) (gateway4 : String)
    (metric : Int) : Op W Unit := do
  let p ← getPlane
  let owned := p.ownedRouteFor iface
  if ¬observed.present ∨ ¬p.routeAllowed iface ∨ gateway4 = "" then
    pure ()
  else if owned.active ∧ owned.gateway4 = gateway4 ∧ owned.metric = metric ∧
      observed.hasDefaultRoute ∧ observed.gateway4 = gateway4 ∧
      observed.routeMetric = metric then
    pure ()
  else
    ensureOwnedRouteLocked ops iface gateway4 metric

def repairEthernet (live : NetworkSnapshot) : Op W Unit := do
  let p ← getPlane
  let eth := p.names.eth
  if p.staticEth.active then do
    repairIpv4 ops eth live.eth p.staticEth.ip4 p.staticEth.netmask4
    repairRoute ops eth live.eth p.staticEth.gateway4
      (p.routeMetric eth p.staticEth.manualMetric)
  else if p.eth.active ∧ p.eth.lease.configured then do
    repairIpv4 ops eth live.eth p.eth.lease.ip4 p.eth.lease.netmask4
    repairRoute ops eth live.eth p.eth.lease.gateway4 (p.routeMetric eth)
  else
    pure ()

def repairWifi (live : NetworkSnapshot) : Op W Unit := do
  let p ← getPlane
  let wifi := p.names.wifi
  if p.wifi.active ∧ p.wifi.lease.configured then do
    repairIpv4 ops wifi live.wifi p.wifi.lease.ip4 p.wifi.lease.netmask4
    repairRoute ops wifi live.wifi p.wifi.lease.gateway4 (p.routeMetric wifi)
  else
    pure ()

def repairOwnedStateLocked : Op W Unit :=
  if ops.available .snapshot then do
    let live ← invoke ops .snapshot
    repairEthernet ops live
    repairWifi ops live
  else
    pure ()

/-! ### Public operations -/

def startDhcp (iface : String) : Op W Unit := do
  require ((← getPlane).knownIface iface) "unknown DHCP interface"
  require (ops.available .startDhcp && ops.available .stopDhcp && ops.available .clearLease)
    "DHCP platform ports are unavailable"
  clearOwnedRouteLocked ops iface
  let _ ← invoke ops (.stopDhcp iface)
  let _ ← invoke ops (.clearLease iface)
  when (ops.available .clearIpv4) do
    let _ ← invoke ops (.clearIpv4 iface)
  modifyPlane fun p => p.setLink iface {}
  modifyPlane fun p => if iface = p.names.eth then { p with staticEth := {} } else p
  recomputeDnsLocked ops
  check (← invoke ops (.startDhcp iface))
  modifyPlane fun p => p.setLink iface { p.linkFor iface with managedDhcp := true }

def stopDhcp (iface : String) : Op W Unit := do
  if (← getPlane).knownIface iface then do
    let _ ← attempt (clearOwnedRouteLocked ops iface)
    when (ops.available .stopDhcp) do
      let _ ← invoke ops (.stopDhcp iface)
    when (ops.available .clearLease) do
      let _ ← invoke ops (.clearLease iface)
    when (ops.available .clearIpv4) do
      let _ ← invoke ops (.clearIpv4 iface)
    modifyPlane fun p => p.setLink iface {}
    let _ ← attempt (recomputeDnsLocked ops)
  else
    pure ()

/-- Import a running DHCP lifecycle; nothing is applied or cleared. -/
def adoptDhcp (iface : String) : Op W Unit := do
  require ((← getPlane).knownIface iface) "unknown DHCP interface"
  require (ops.available .readLease) "DHCP lease reader is unavailable"
  modifyPlane fun p => p.setLink iface { managedDhcp := true }
  modifyPlane fun p => p.setOwnedRoute iface {}
  modifyPlane fun p => if iface = p.names.eth then { p with staticEth := {} } else p

def applyEthernetStatic (ip4 netmask4 gateway4 dns4 : String) (manualMetric : Int) :
    Op W Unit := do
  require (ops.available .applyIpv4 && ops.available .stopDhcp && ops.available .clearLease)
    "static IPv4 platform ports are unavailable"
  let eth := (← getPlane).names.eth
  clearOwnedRouteLocked ops eth
  let _ ← invoke ops (.stopDhcp eth)
  let _ ← invoke ops (.clearLease eth)
  modifyPlane fun p => { p with eth := {}, staticEth := {} }
  check (← invoke ops (.applyIpv4 eth ip4 netmask4))
  modifyPlane fun p =>
    { p with staticEth := ⟨true, ip4, netmask4, gateway4, dns4, manualMetric⟩ }
  applyRoutesLocked ops
  recomputeDnsLocked ops

/-- Both links in turn; the flags say which of them changed. -/
def reconcileLinks : Op W (Bool × Bool) := do
  let names := (← getPlane).names
  let ethChanged ← reconcileLinkLocked ops names.eth
  let wifiChanged ← reconcileLinkLocked ops names.wifi
  pure (ethChanged, wifiChanged)

/-- `reconcile(error)`, the full pass. -/
def reconcile : Op W Unit := do
  let _ ← reconcileLinks ops
  repairOwnedStateLocked ops
  recomputeDnsLocked ops

/-- `reconcile(changed, error)`, the fast pass.  `changed` is an out-parameter that is also
read when the call fails, so both it and the outcome are returned. -/
def reconcileChanged : Op W (Bool × Except String Unit) := do
  match ← attempt (reconcileLinks ops) with
  | .error e => pure (false, .error e)
  | .ok (ethChanged, wifiChanged) =>
    let dnsInitializationNeeded := !(← getPlane).dnsOwnershipInitialized
    if ethChanged || wifiChanged || dnsInitializationNeeded then do
      let outcome ← attempt (recomputeDnsLocked ops)
      pure (true, outcome)
    else
      pure (false, .ok ())

def refreshExternalState : Op W Unit := do
  repairOwnedStateLocked ops
  recomputeDnsLocked ops

def setRoutePolicy (policy : RoutePolicy) : Op W Unit := do
  let previous := (← getPlane).routePolicy
  modifyPlane fun p => { p with routePolicy := policy }
  match ← attempt (do applyRoutesLocked ops; recomputeDnsLocked ops) with
  | .ok () => pure ()
  | .error failure => do
    modifyPlane fun p => { p with routePolicy := previous }
    let _ ← attempt (applyRoutesLocked ops)
    let _ ← attempt (recomputeDnsLocked ops)
    throw failure

/-! ### Runs -/

/-- A public operation with its arguments. -/
inductive Operation
  | startDhcp (iface : String)
  | stopDhcp (iface : String)
  | adoptDhcp (iface : String)
  | applyEthernetStatic (ip4 netmask4 gateway4 dns4 : String) (manualMetric : Int)
  | reconcile
  | reconcileChanged
  | refreshExternalState
  | setRoutePolicy (policy : RoutePolicy)
  deriving DecidableEq, Repr

/-- Call the operation; it completes when the member function returns `true`. -/
def Operation.perform : Operation → Op W Unit
  | .startDhcp iface => ControlPlane.startDhcp ops iface
  | .stopDhcp iface => ControlPlane.stopDhcp ops iface
  | .adoptDhcp iface => ControlPlane.adoptDhcp ops iface
  | .applyEthernetStatic ip4 netmask4 gateway4 dns4 manualMetric =>
    ControlPlane.applyEthernetStatic ops ip4 netmask4 gateway4 dns4 manualMetric
  | .reconcile => ControlPlane.reconcile ops
  | .reconcileChanged => do
    let result ← ControlPlane.reconcileChanged ops
    check result.2
  | .refreshExternalState => ControlPlane.refreshExternalState ops
  | .setRoutePolicy policy => ControlPlane.setRoutePolicy ops policy

/-- The control plane as it is constructed, on a platform `w`. -/
def fresh (names : IfaceNames) (w : W) : Run W := { plane := { names := names }, world := w }

/-- The states that operations from `allowed` reach.  Between two operations the platform
may change on its own. -/
inductive Reachable (allowed : Run W → Operation → Prop) : Run W → Prop
  | fresh (names : IfaceNames) (w : W) : Reachable allowed (fresh names w)
  | perform {s : Run W} (op : Operation) :
      Reachable allowed s → allowed s op → Reachable allowed (after (op.perform ops) s)
  | environment {s : Run W} (w : W) : Reachable allowed s → Reachable allowed { s with world := w }

/-- The daemon adopts DHCP clients in its constructor only, before any port was called. -/
def AdoptsAtStart (s : Run W) : Operation → Prop
  | .adoptDhcp _ => s.log = []
  | _ => True

/-! ### Small platforms -/

/-- What a call gets from a platform that does everything asked of it and has neither leases
nor interfaces to show. -/
def PortCall.idleReply : (c : PortCall) → c.Reply
  | .stopDhcp _ | .clearLease _ => ()
  | .readLease _ => .ok none
  | .snapshot => {}
  | .startDhcp _ | .applyIpv4 _ _ _ | .clearIpv4 _ | .setDefaultRoute _ _ _
  | .clearDefaultRoute _ _ _ | .setDns _ | .clearDns => .ok ()

def idlePorts : NetworkControlPlaneOps Unit where
  available _ := true
  call c w := (c.idleReply, w)

/-- A lease of a wired network. -/
def wiredLease : DhcpLeaseFact where
  event := .bound
  iface := "eth0"
  generation := "1"
  ip4 := "192.168.1.20"
  netmask4 := "255.255.255.0"
  gateway4 := "192.168.1.1"
  dns4 := "192.168.1.1"

/-- A lease that a Wi-Fi access point hands out. -/
def accessPointLease : DhcpLeaseFact where
  event := .bound
  iface := "wlan0"
  generation := "1"
  ip4 := "192.168.4.20"
  netmask4 := "255.255.255.0"
  gateway4 := "192.168.4.1"
  dns4 := "192.168.4.1"

end NetworkService.ControlPlane
