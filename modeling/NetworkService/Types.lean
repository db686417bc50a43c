import Mathlib.Algebra.Ring.Nat

/-!
# Cross-boundary data contracts

The records that Service, IPC and Platform exchange: route policies, DHCP lease facts,
interface and network snapshots, and the persisted Ethernet configuration.  A C++
`std::string` is a `String` whose characters stand for its bytes, an `int` is an `Int`.

The two interface names are kept together with the fact that they differ.  A kernel never
has two devices of one name, and the daemon is configured with one Ethernet and one Wi-Fi
device (`eth0` and `wlan0` unless the command line says otherwise).
-/

namespace NetworkService

instance decidableEqExcept {ε α : Type} [DecidableEq ε] [DecidableEq α] : DecidableEq (Except ε α)
  | .ok a, .ok b => decidable_of_iff (a = b) ⟨congrArg Except.ok, Except.ok.inj⟩
  | .error e, .error f => decidable_of_iff (e = f) ⟨congrArg Except.error, Except.error.inj⟩
  | .ok _, .error _ => isFalse nofun
  | .error _, .ok _ => isFalse nofun

/-- The Ethernet and the Wi-Fi device of the daemon. -/
structure IfaceNames where
  eth : String
  wifi : String
  distinct : eth ≠ wifi
  deriving DecidableEq

/-- The default device names of the daemon's command line. -/
def IfaceNames.standard : IfaceNames := ⟨"eth0", "wlan0", by decide⟩

inductive RoutePolicy
  | ethernetPreferred
  | wifiPreferred
  | wifiOnly
  | manualMetric
  deriving DecidableEq, Repr

/-- `DnsPolicy` has the single behaviour that exists. -/
inductive DnsPolicy
  | overwrite
  deriving DecidableEq, Repr

inductive WifiL2State
  | unknown
  | disabled
  | disconnected
  | associating
  | associated
  | handshake
  | connected
  | failed
  deriving DecidableEq, Repr

inductive IpState
  | none
  | configuring
  | ready
  deriving DecidableEq, Repr

/-- Lifecycle of the DHCP client process, independent of lease and address facts. -/
inductive DhcpClientState
  | idle
  | starting
  | running
  | failed
  deriving DecidableEq, Repr

/-- The identity of a default route. -/
structure Route where
  iface : String
  gateway4 : String
  metric : Int
  deriving DecidableEq, Repr

/-! ### DHCP lease facts -/

inductive DhcpLeaseEvent
  | none
  | bound
  | renew
  | deconfig
  deriving DecidableEq, Repr

/-- The value of `static_cast<int>(event)`. -/
def DhcpLeaseEvent.code : DhcpLeaseEvent → ℕ
  | .none => 0
  | .bound => 1
  | .renew => 2
  | .deconfig => 3

structure DhcpLeaseFact where
  event : DhcpLeaseEvent := .none
  iface : String := ""
  generation : String := ""
  ip4 : String := ""
  netmask4 : String := ""
  gateway4 : String := ""
  dns4 : String := ""
  deriving DecidableEq, Repr

namespace DhcpLeaseFact

def configured (fact : DhcpLeaseFact) : Bool :=
  fact.event = .bound ∨ fact.event = .renew

/-- The seven fields joined by the unit separator.  Irreducible, so that comparing two
fingerprints does not make the elaborator compare texts. -/
@[irreducible] def fingerprint (fact : DhcpLeaseFact) : String :=
  toString fact.event.code ++ "\x1f" ++ fact.iface ++ "\x1f" ++ fact.generation ++ "\x1f" ++
    fact.ip4 ++ "\x1f" ++ fact.netmask4 ++ "\x1f" ++ fact.gateway4 ++ "\x1f" ++ fact.dns4

end DhcpLeaseFact

/-! ### Snapshots -/

/-- `present` is the source's `exists`, a reserved word here. -/
structure InterfaceSnapshot where
  iface : String := ""
  present : Bool := false
  carrierUp : Bool := false
  hasIp : Bool := false
  ip4 : String := ""
  netmask4 : String := ""
  hasDefaultRoute : Bool := false
  gateway4 : String := ""
  routeMetric : Int := -1
  enabled : Bool := false
  connected : Bool := false
  ipState : IpState := .none
  wifiL2State : WifiL2State := .unknown
  ssid : String := ""
  signalDbm : Int := 0
  signalBars : Int := 0
  deriving DecidableEq, Repr

structure NetworkSnapshot where
  eth : InterfaceSnapshot := {}
  wifi : InterfaceSnapshot := {}
  routePolicy : RoutePolicy := .ethernetPreferred
  dnsPolicy : DnsPolicy := .overwrite
  primaryIface : String := ""
  dnsAvailable : Bool := false
  dnsManagedByNetworkService : Bool := false
  networkReady : Bool := false
  online : Bool := false
  dns4 : String := ""
  deriving DecidableEq, Repr

/-! ### Persisted Ethernet configuration -/

structure EthernetConfig where
  iface : String := "eth0"
  method : String := "dhcp"
  ip4 : String := ""
  netmask4 : String := ""
  gateway4 : String := ""
  dns4 : String := ""
  routeMetric : Int := 10
  dnsEnabled : Bool := true
  deriving DecidableEq, Repr

end NetworkService
