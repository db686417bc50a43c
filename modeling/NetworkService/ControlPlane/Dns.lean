import NetworkService.ControlPlane.Routes

/-!
# Resolver selection

`recompute_dns_locked` decides from the records, and under `EthernetPreferred` also from the
live Ethernet route, which resolver the machine should have, and calls `set_dns` or
`clear_dns` only when that differs from what it last did.  The snapshot is read at most once
in a pass.
-/

namespace NetworkService.ControlPlane

open Fallible

/-- The outcome of the policy switch: leave the resolver to its external owner, or hold the
given nameserver (the empty text selects none). -/
inductive DnsDecision
  | preserveExternal
  | select (dns4 : String)
  deriving DecidableEq, Repr

namespace NetworkControlPlane

variable (p : NetworkControlPlane)

/-- `static_eth_route` -/
def staticEthRoute : Bool :=
  p.staticEth.active ∧ p.routeAllowed p.names.eth ∧ p.staticEth.gateway4 ≠ ""

/-- `dhcp_eth_route` -/
def dhcpEthRoute : Bool :=
  p.eth.active ∧ p.routeAllowed p.names.eth ∧ p.eth.lease.gateway4 ≠ ""

/-- `wifi_route` -/
def dhcpWifiRoute : Bool :=
  p.wifi.active ∧ p.routeAllowed p.names.wifi ∧ p.wifi.lease.gateway4 ≠ ""

def ethDns : String := if p.staticEth.active then p.staticEth.dns4 else p.eth.lease.dns4

def wifiDns : String := p.wifi.lease.dns4

/-- Ethernet has a managed route and a nameserver to go with it. -/
def ethDnsUsable : Bool := (p.staticEthRoute ∨ p.dhcpEthRoute) ∧ p.ethDns ≠ ""

/-- Wi-Fi has a managed route and a nameserver to go with it. -/
def wifiDnsUsable : Bool := p.dhcpWifiRoute ∧ p.wifiDns ≠ ""

/-- The policy switch looks at the live Ethernet route. -/
def consultsLiveEthernet : Bool := p.routePolicy = .ethernetPreferred ∧ ¬p.ethDnsUsable

/-- The policy switch; `ethLive` is the live `eth.has_default_route`, read only where
`consultsLiveEthernet` holds. -/
def dnsDecision (ethLive : Bool) : DnsDecision :=
  match p.routePolicy with
  | .wifiPreferred =>
    if p.wifiDnsUsable then .select p.wifiDns
    else if p.ethDnsUsable then .select p.ethDns
    else .select ""
  | .wifiOnly =>
    if p.wifiDnsUsable then .select p.wifiDns else .select ""
  | .manualMetric =>
    if p.dhcpWifiRoute ∧ ((¬p.staticEthRoute ∧ ¬p.dhcpEthRoute) ∨
        p.routeMetric p.names.wifi < p.routeMetric p.names.eth p.staticEth.manualMetric) then
      .select p.wifiDns
    else if p.ethDnsUsable then .select p.ethDns
    else .select ""
  | .ethernetPreferred =>
    if p.ethDnsUsable then .select p.ethDns
    else if ethLive ∧ ¬p.staticEthRoute ∧ ¬p.dhcpEthRoute then .preserveExternal
    else if p.wifiDnsUsable then .select p.wifiDns
    else .select ""

/-- The interface whose nameserver the policy switch selects, if it selects one. -/
def dnsSource (ethLive : Bool) : Option String :=
  match p.routePolicy with
  | .wifiPreferred =>
    if p.wifiDnsUsable then some p.names.wifi
    else if p.ethDnsUsable then some p.names.eth
    else none
  | .wifiOnly =>
    if p.wifiDnsUsable then some p.names.wifi else none
  | .manualMetric =>
    if p.dhcpWifiRoute ∧ ((¬p.staticEthRoute ∧ ¬p.dhcpEthRoute) ∨
        p.routeMetric p.names.wifi < p.routeMetric p.names.eth p.staticEth.manualMetric) then
      some p.names.wifi
    else if p.ethDnsUsable then some p.names.eth
    else none
  | .ethernetPreferred =>
    if p.ethDnsUsable then some p.names.eth
    else if ethLive ∧ ¬p.staticEthRoute ∧ ¬p.dhcpEthRoute then none
    else if p.wifiDnsUsable then some p.names.wifi
    else none

/-- The nameserver of an interface, as the policy switch reads it. -/
def dnsOf (iface : String) : String := if iface = p.names.eth then p.ethDns else p.wifiDns

/-- **A nameserver is always that of the interface selected**; nothing is selected otherwise. -/
theorem dnsDecision_source (ethLive : Bool) :
    p.dnsDecision ethLive =
      match p.dnsSource ethLive with
      | some iface => .select (p.dnsOf iface)
      | none =>
        if p.routePolicy = .ethernetPreferred ∧ ethLive ∧ ¬p.staticEthRoute ∧ ¬p.dhcpEthRoute
        then .preserveExternal else .select "" := by
  have heth : p.dnsOf p.names.eth = p.ethDns := if_pos rfl
  have hwifi : p.dnsOf p.names.wifi = p.wifiDns := if_neg (Ne.symm p.names.distinct)
  unfold dnsDecision dnsSource
  cases hpolicy : p.routePolicy with
  | wifiPreferred =>
    dsimp only
    split
    · simp only [hwifi]
    · split <;> simp [heth]
  | wifiOnly =>
    dsimp only
    split <;> simp [hwifi]
  | manualMetric =>
    dsimp only
    split
    · simp only [hwifi]
    · split <;> simp [heth]
  | ethernetPreferred =>
    dsimp only
    split
    · simp only [heth]
    · split
      · next hlive => simp [hlive]
      · next hlive =>
        split
        · simp only [hwifi]
        · exact (if_neg fun hc => hlive hc.2).symm

end NetworkControlPlane

variable {W : Type} (ops : NetworkControlPlaneOps W)

/-- `load_live`: the snapshot of this pass, read on first use. -/
def loadLive (live : Option NetworkSnapshot) : Op W NetworkSnapshot :=
  match live with
  | some current => pure current
  | none => invoke ops .snapshot

/-- Recover historical resolver ownership once, from the platform's marker fact.  Returns
the snapshot it read. -/
def initializeDnsOwnership : Op W (Option NetworkSnapshot) := do
  let p ← getPlane
  if p.dnsOwnershipInitialized then
    pure none
  else if ops.available .snapshot then do
    let current ← invoke ops .snapshot
    modifyPlane fun p =>
      { p with
        dnsOwnershipInitialized := true
        managedDns := current.dnsManagedByNetworkService
        lastDns := if current.dnsManagedByNetworkService then current.dns4 else "" }
    pure (some current)
  else do
    modifyPlane fun p => { p with dnsOwnershipInitialized := true }
    pure none

/-- The policy switch with its lazily read snapshot. -/
def selectDns (live : Option NetworkSnapshot) : Op W (DnsDecision × Option NetworkSnapshot) := do
  let p ← getPlane
  if p.consultsLiveEthernet ∧ ops.available .snapshot then do
    let current ← loadLive ops live
    pure (p.dnsDecision current.eth.hasDefaultRoute, some current)
  else
    pure (p.dnsDecision false, live)

/-- Give up a resolver this process manages. -/
def releaseDns : Op W Unit := do
  let p ← getPlane
  if p.managedDns then do
    require (ops.available .clearDns) "DNS clear port is unavailable"
    check (← invoke ops .clearDns)
    modifyPlane fun p => { p with managedDns := false, lastDns := "" }
  else
    pure ()

/-- The selected nameserver is the managed one and is still in the resolver. -/
def dnsAlreadyApplied (dns4 : String) (live : Option NetworkSnapshot) : Op W Bool := do
  let p ← getPlane
  if p.managedDns ∧ dns4 = p.lastDns then
    if ops.available .snapshot then do
      let current ← loadLive ops live
      pure (current.dns4 = dns4)
    else
      pure true
  else
    pure false

/-- Carry the decision out. -/
def applyDns (decision : DnsDecision) (live : Option NetworkSnapshot) : Op W Unit :=
  match decision with
  | .preserveExternal => releaseDns ops
  | .select dns4 =>
    if dns4 = "" then
      releaseDns ops
    else do
      let applied ← dnsAlreadyApplied ops dns4 live
      if applied then
        pure ()
      else do
        require (ops.available .setDns) "DNS configuration port is unavailable"
        check (← invoke ops (.setDns dns4))
        modifyPlane fun p => { p with managedDns := true, lastDns := dns4 }

def recomputeDnsLocked : Op W Unit := do
  let live ← initializeDnsOwnership ops
  let choice ← selectDns ops live
  applyDns ops choice.1 choice.2

end NetworkService.ControlPlane
