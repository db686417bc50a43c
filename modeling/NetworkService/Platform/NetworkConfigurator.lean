import NetworkService.ControlPlane.Operations

/-!
# The arguments the configurator takes

`NetworkConfigurator` looks at the texts it is given before it runs a command: a device name is
short and has no shell metacharacter, an address is one that `inet_pton` reads.  The control
plane checks nothing itself, so these are the only checks between a request and the kernel, and a
text is looked at only by the call that uses it.
-/

namespace NetworkService

namespace Platform

/-- A byte of a device name. -/
def isIfaceByte (ch : Char) : Bool :=
  ('a' ≤ ch ∧ ch ≤ 'z') ∨ ('A' ≤ ch ∧ ch ≤ 'Z') ∨ ('0' ≤ ch ∧ ch ≤ '9') ∨ ch = '_' ∨ ch = '-' ∨
    ch = '.'

/-- `is_safe_iface` -/
def isSafeIface (value : String) : Bool :=
  value ≠ "" ∧ value.toList.length ≤ 15 ∧ value.toList.all isIfaceByte

/-- `value.c_str()` as a C function reads it: up to the first NUL. -/
def cString (value : String) : List Char := value.toList.takeWhile (· ≠ '\x00')

/-- A number of a dotted address: decimal, without a leading zero, at most 255. -/
def isOctet (digits : List Char) : Bool :=
  digits ≠ [] ∧ digits.all Char.isDigit ∧ (digits.head? = some '0' → digits.length = 1) ∧
    Nat.ofDigitChars 10 digits 0 ≤ 255

/-- What `inet_pton` reads as an IPv4 address: four numbers between dots. -/
def inetPton (text : List Char) : Bool :=
  (text.splitOn '.').length = 4 ∧ (text.splitOn '.').all isOctet

/-- `is_ipv4` -/
def isIpv4 (value : String) : Bool := value ≠ "" ∧ inetPton (cString value)

/-- The metrics a route command takes. -/
def isMetric (metric : Int) : Bool := 0 ≤ metric ∧ metric ≤ 65535

end Platform

open Platform

namespace ControlPlane

/-- The calls that `NetworkConfigurator` turns down for their arguments. -/
def PortCall.malformed : PortCall → Bool
  | .applyIpv4 iface ip4 netmask4 => !(isSafeIface iface && isIpv4 ip4 && isIpv4 netmask4)
  | .clearIpv4 iface => !isSafeIface iface
  | .setDefaultRoute iface gateway4 metric | .clearDefaultRoute iface gateway4 metric =>
    !(isSafeIface iface && isIpv4 gateway4 && isMetric metric)
  | .setDns dns4 => !isIpv4 dns4
  | .startDhcp _ | .stopDhcp _ | .readLease _ | .clearLease _ | .clearDns | .snapshot => false

/-- A malformed call fails. -/
def NetworkControlPlaneOps.Validates {W : Type} (ops : NetworkControlPlaneOps W) : Prop :=
  ∀ (c : PortCall) (w : W), c.malformed = true → c.succeeded (ops.call c w).1 = false

theorem NetworkControlPlaneOps.Validates.wellFormed {W : Type} {ops : NetworkControlPlaneOps W}
    (h : ops.Validates) {c : PortCall} {w : W} (hok : c.succeeded (ops.call c w).1 = true) :
    c.malformed = false := by
  cases hmalformed : c.malformed with
  | false => rfl
  | true => exact absurd hok (by rw [h c w hmalformed]; decide)

/-- What a call gets from a configurator whose commands and file operations all succeed. -/
def PortCall.configuratorReply : (c : PortCall) → c.Reply
  | .applyIpv4 iface ip4 netmask4 =>
    if (PortCall.applyIpv4 iface ip4 netmask4).malformed then
      .error "invalid IPv4 interface configuration"
    else .ok ()
  | .clearIpv4 iface =>
    if (PortCall.clearIpv4 iface).malformed then .error "invalid interface" else .ok ()
  | .setDefaultRoute iface gateway4 metric =>
    if (PortCall.setDefaultRoute iface gateway4 metric).malformed then
      .error "invalid default route configuration"
    else .ok ()
  | .clearDefaultRoute iface gateway4 metric =>
    if (PortCall.clearDefaultRoute iface gateway4 metric).malformed then
      .error "invalid default route identity"
    else .ok ()
  | .setDns dns4 =>
    if (PortCall.setDns dns4).malformed then .error "invalid DNS IPv4 address" else .ok ()
  | c => c.idleReply

/-- A platform without leases whose commands all succeed. -/
def configuratorPorts : NetworkControlPlaneOps Unit where
  available _ := true
  call c w := (c.configuratorReply, w)

theorem isOk_reject {malformed : Bool} {e : String} :
    (if malformed then .error e else .ok () : Except String Unit).isOk = !malformed := by
  cases malformed <;> rfl

/-- **The configurator fails exactly on malformed calls.** -/
theorem PortCall.configuratorReply_succeeded (c : PortCall) :
    c.succeeded c.configuratorReply = !c.malformed := by
  cases c with
  | startDhcp | stopDhcp | readLease | clearLease | clearDns | snapshot => rfl
  | applyIpv4 | clearIpv4 | setDefaultRoute | clearDefaultRoute | setDns => exact isOk_reject

theorem configuratorPorts_validates : configuratorPorts.Validates := by
  intro c w hmalformed
  show c.succeeded c.configuratorReply = false
  rw [c.configuratorReply_succeeded, hmalformed]
  rfl

end ControlPlane

end NetworkService
