import Mathlib.Data.List.DropRight
import Mathlib.Data.List.Induction
import NetworkService.Platform.ResolverFile

/-!
# The live snapshot

`read_live_snapshot` collects what the kernel and the file system say about the two interfaces: the
addresses of `getifaddrs`, the carrier files of sysfs, the default routes of `/proc/net/route` and the
resolver file.  It decides nothing; that is `normalize_network_snapshot`.

The loop over the routing table takes every row whose destination is zero and overwrites what it has
found so far, so of several such rows of one interface it is the last one's metric that stands in the
snapshot.
-/

namespace NetworkService.Platform

open Config

/-! ### Addresses -/

/-- An entry of `getifaddrs` with the flags and the IPv4 texts that are read of it; an address of
another family is `none`, an absent netmask the empty text. -/
structure IfAddrs where
  ifaName : String
  up : Bool := false
  running : Bool := false
  ifaAddr : Option String := none
  ifaNetmask : String := ""

/-- One turn of the loop of `populate_interface_addresses`. -/
def populateAddress (iface : InterfaceSnapshot) (ifa : IfAddrs) : InterfaceSnapshot :=
  if iface.iface ≠ ifa.ifaName then iface
  else
    let iface :=
      { iface with
        present := true
        enabled := ifa.up
        carrierUp := iface.carrierUp || ifa.running }
    match ifa.ifaAddr with
    | none => iface
    | some ip =>
      let iface := if ip ≠ "" then { iface with hasIp := true, ip4 := ip } else iface
      if ifa.ifaNetmask ≠ "" then { iface with netmask4 := ifa.ifaNetmask } else iface

/-- `read_carrier` on the text of the carrier file. -/
def readCarrier : Option (List Char) → Bool
  | none => false
  | some text => (text.takeWhile (· ≠ '\n')).rdropWhile isBlank = ['1']

/-- What the system answers while a snapshot is read. -/
structure PlatformFacts where
  ifaddrs : Option (List IfAddrs)
  carrier : String → Option (List Char)
  routes : Option (List Char)
  resolver : ResolverFile

def populateInterfaceAddresses (facts : PlatformFacts) (iface : InterfaceSnapshot) :
    InterfaceSnapshot :=
  match facts.ifaddrs with
  | none => iface
  | some ifaddrs =>
    let iface := ifaddrs.foldl populateAddress iface
    if iface.present then { iface with carrierUp := readCarrier (facts.carrier iface.iface) }
    else iface

/-! ### Default routes -/

def isHexDigit (c : Char) : Bool :=
  c.isDigit || ('a' ≤ c ∧ c ≤ 'f') || ('A' ≤ c ∧ c ≤ 'F')

def hexDigitValue (c : Char) : ℕ :=
  if c.isDigit then c.toNat - '0'.toNat
  else if 'a' ≤ c then c.toNat - 'a'.toNat + 10
  else c.toNat - 'A'.toNat + 10

def hexNumber (digits : List Char) : ℕ :=
  digits.foldl (fun value c => 16 * value + hexDigitValue c) 0

/-- The digits that `%lx` reads, with the prefix it allows. -/
def hexPrefix : List Char → Option ℕ
  | '0' :: 'x' :: text => some (hexNumber (text.takeWhile isHexDigit))
  | '0' :: 'X' :: text => some (hexNumber (text.takeWhile isHexDigit))
  | text =>
    if text.takeWhile isHexDigit = [] then none else some (hexNumber (text.takeWhile isHexDigit))

/-- `sscanf(text, "%lx", &raw)` for an `unsigned long` of 64 bits: too large a number stops at the
end, a sign negates. -/
def scanHex (text : List Char) : Option ℕ :=
  match text.dropWhile isSpace with
  | '-' :: rest =>
    (hexPrefix rest).map fun value =>
      if value < 2 ^ 64 then (2 ^ 64 - value) % 2 ^ 64 else 2 ^ 64 - 1
  | '+' :: rest => (hexPrefix rest).map (min (2 ^ 64 - 1))
  | rest => (hexPrefix rest).map (min (2 ^ 64 - 1))

/-- `inet_ntop` on a little-endian host: the low byte of the number comes first. -/
def inetNtop (raw : ℕ) : String :=
  toString (raw % 256) ++ "." ++ toString (raw / 256 % 256) ++ "." ++
    toString (raw / 65536 % 256) ++ "." ++ toString (raw / 16777216 % 256)

def hexGatewayToIpv4 (hex : String) : String :=
  if hex.length < 8 then ""
  else
    match scanHex hex.toList with
    | none => ""
    | some raw => inetNtop raw

/-- A row of the routing table: the seven columns that are read, and the mask behind them, which is
not. -/
structure RouteRow where
  iface : String
  destination : String
  gateway : String
  flags : String
  refcnt : String
  use : String
  metric : String
  mask : Option String
  deriving DecidableEq

def readRouteRow (line : List Char) : Option RouteRow :=
  match (words line).map String.ofList with
  | iface :: destination :: gateway :: flags :: refcnt :: use :: metric :: rest =>
    some { iface, destination, gateway, flags, refcnt, use, metric, mask := rest.head? }
  | _ => none

/-- The rows of `/proc/net/route`, behind its header. -/
def routeRows : Option (List Char) → List RouteRow
  | none => []
  | some text => (text.splitOn '\n').tail.filterMap readRouteRow

def takeDefaultRoute (target : InterfaceSnapshot) (row : RouteRow) : InterfaceSnapshot :=
  { target with
    hasDefaultRoute := true
    gateway4 := hexGatewayToIpv4 row.gateway
    routeMetric := atoi row.metric.toList }

/-- One turn of the loop of `populate_default_routes`; the assignment for Wi-Fi comes second. -/
def populateRow (snapshot : NetworkSnapshot) (row : RouteRow) : NetworkSnapshot :=
  if row.destination ≠ "00000000" then snapshot
  else if row.iface = snapshot.wifi.iface then
    { snapshot with wifi := takeDefaultRoute snapshot.wifi row }
  else if row.iface = snapshot.eth.iface then
    { snapshot with eth := takeDefaultRoute snapshot.eth row }
  else snapshot

def populateDefaultRoutes (routes : Option (List Char)) (snapshot : NetworkSnapshot) :
    NetworkSnapshot :=
  (routeRows routes).foldl populateRow snapshot

/-! ### The snapshot -/

/-- `eth_iface && eth_iface[0] ? eth_iface : fallback` -/
def ifaceOr (iface fallback : String) : String := if iface = "" then fallback else iface

/-- The snapshot before the routing table is read. -/
def readInterfaces (facts : PlatformFacts) (ethIface wifiIface : String) : NetworkSnapshot where
  eth := populateInterfaceAddresses facts { iface := ifaceOr ethIface "eth0" }
  wifi := populateInterfaceAddresses facts { iface := ifaceOr wifiIface "wlan0" }

def readLiveSnapshot (facts : PlatformFacts) (ethIface wifiIface : String) : NetworkSnapshot :=
  let snapshot := populateDefaultRoutes facts.routes (readInterfaces facts ethIface wifiIface)
  { snapshot with
    dns4 := (readDnsFact facts.resolver).dns4
    dnsAvailable := decide ((readDnsFact facts.resolver).dns4 ≠ "")
    dnsManagedByNetworkService := (readDnsFact facts.resolver).managedByNetworkService }

/-! ### What the loop leaves -/

/-- The metrics of the rows that the loop takes for an interface, in the order of the table. -/
def takenMetrics (rows : List RouteRow) (iface : String) : List Int :=
  (rows.filter fun row => row.destination = "00000000" ∧ row.iface = iface).map fun row =>
    atoi row.metric.toList

/-- What `populate_default_routes` does to one interface whose rows have these metrics. -/
structure Populated (metrics : List Int) (before after : InterfaceSnapshot) : Prop where
  found : after.hasDefaultRoute = (before.hasDefaultRoute || !metrics.isEmpty)
  last : after.routeMetric = metrics.getLast?.getD before.routeMetric
  others : after = { before with
    hasDefaultRoute := after.hasDefaultRoute
    gateway4 := after.gateway4
    routeMetric := after.routeMetric }

theorem Populated.none (iface : InterfaceSnapshot) : Populated [] iface iface :=
  ⟨(Bool.or_false _).symm, rfl, rfl⟩

theorem Populated.snoc {metrics : List Int} {before after : InterfaceSnapshot}
    (h : Populated metrics before after) (row : RouteRow) :
    Populated (metrics ++ [atoi row.metric.toList]) before (takeDefaultRoute after row) := by
  refine ⟨?_, ?_, ?_⟩
  · show true = (before.hasDefaultRoute || !(metrics ++ [atoi row.metric.toList]).isEmpty)
    cases metrics <;> exact (Bool.or_true _).symm
  · rw [List.getLast?_concat]
    rfl
  · unfold takeDefaultRoute
    rw [h.others]

theorem takenMetrics_snoc (rows : List RouteRow) (row : RouteRow) (iface : String) :
    takenMetrics (rows ++ [row]) iface =
      if row.destination = "00000000" ∧ row.iface = iface then
        takenMetrics rows iface ++ [atoi row.metric.toList]
      else takenMetrics rows iface := by
  unfold takenMetrics
  rw [List.filter_append, List.map_append]
  split
  · next h => rw [List.filter_cons_of_pos (by simpa using h)]; rfl
  · next h => rw [List.filter_cons_of_neg (by simpa using h)]; exact List.append_nil _

/-- **Every row overwrites**: of the rows of an interface the last one stays. -/
theorem populated_foldl (rows : List RouteRow) {snapshot : NetworkSnapshot}
    (hnames : snapshot.eth.iface ≠ snapshot.wifi.iface) :
    Populated (takenMetrics rows snapshot.eth.iface) snapshot.eth
        (rows.foldl populateRow snapshot).eth ∧
      Populated (takenMetrics rows snapshot.wifi.iface) snapshot.wifi
        (rows.foldl populateRow snapshot).wifi := by
  induction rows using List.reverseRecOn with
  | nil => exact ⟨.none _, .none _⟩
  | append_singleton rows row ih =>
    obtain ⟨heth, hwifi⟩ := ih
    have hethName : (rows.foldl populateRow snapshot).eth.iface = snapshot.eth.iface := by
      rw [heth.others]
    have hwifiName : (rows.foldl populateRow snapshot).wifi.iface = snapshot.wifi.iface := by
      rw [hwifi.others]
    rw [List.foldl_append, List.foldl_cons, List.foldl_nil, takenMetrics_snoc,
      takenMetrics_snoc]
    generalize rows.foldl populateRow snapshot = reached at heth hwifi hethName hwifiName ⊢
    unfold populateRow
    rw [hethName, hwifiName]
    by_cases hdestination : row.destination = "00000000"
    · rw [if_neg (not_not.mpr hdestination)]
      by_cases hrow : row.iface = snapshot.wifi.iface
      · have hother : ¬row.iface = snapshot.eth.iface := fun h => hnames (h.symm.trans hrow)
        rw [if_pos hrow, if_neg (fun h => hother h.2), if_pos ⟨hdestination, hrow⟩]
        exact ⟨heth, hwifi.snoc row⟩
      · rw [if_neg hrow]
        by_cases hrowEth : row.iface = snapshot.eth.iface
        · rw [if_pos hrowEth, if_pos ⟨hdestination, hrowEth⟩, if_neg (fun h => hrow h.2)]
          exact ⟨heth.snoc row, hwifi⟩
        · rw [if_neg hrowEth, if_neg (fun h => hrowEth h.2), if_neg (fun h => hrow h.2)]
          exact ⟨heth, hwifi⟩
    · rw [if_pos hdestination, if_neg (fun h => hdestination h.1), if_neg (fun h => hdestination h.1)]
      exact ⟨heth, hwifi⟩

end NetworkService.Platform
