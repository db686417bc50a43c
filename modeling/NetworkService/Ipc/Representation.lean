import NetworkService.Ipc.Reactor
import NetworkService.Wifi.ScanLifecycle

/-!
# The texts of payloads

The encoders of `network_ipc_representation.cpp`, piece by piece as they are put on the stream.  A
`std::string` field goes through `json_escape`; numbers and booleans are printed as they are.
-/

namespace NetworkService.Ipc

open Wifi Server

/-! ### Values that only the representation knows -/

structure PingInfo where
  service : String
  version : String
  mode : String
  deriving DecidableEq

structure RoutePolicyInfo where
  policy : RoutePolicy := .ethernetPreferred
  persistent : Bool := false
  deriving DecidableEq

structure WpaEventsView where
  attached : Bool := false
  connected : Bool := false
  disconnected : Bool := false
  dhcpRequested : Bool := false
  hasIp : Bool := false
  hasDefaultRoute : Bool := false
  dnsAvailable : Bool := false
  ip4 : String := ""
  gateway4 : String := ""
  dns4 : String := ""
  connectEvents : UInt32 := 0
  disconnectEvents : UInt32 := 0
  dhcpRequests : UInt32 := 0
  scanStartedEvents : UInt32 := 0
  scanResultEvents : UInt32 := 0
  scanFailedEvents : UInt32 := 0
  eventSequence : UInt64 := 0
  lastScanStartedSequence : UInt64 := 0
  lastScanResultSequence : UInt64 := 0
  lastScanFailedSequence : UInt64 := 0
  wifiState : String := "disconnected"
  failureReason : String := ""
  lastEvent : String := ""
  lastSsid : String := ""
  lastBssid : String := ""
  deriving DecidableEq

structure WifiApRecord where
  bssid : String := ""
  frequency : Int := 0
  signalDbm : Int := 0
  flags : String := ""
  ssid : String := ""
  deriving DecidableEq

structure WifiSavedNetwork where
  networkId : Int := -1
  ssid : String := ""
  bssid : String := ""
  flags : String := ""
  isCurrent : Bool := false
  isDisabled : Bool := false
  isTempDisabled : Bool := false
  autoconnect : Bool := true
  deriving DecidableEq

structure WifiEnabledResult where
  enabled : Bool := false
  deriving DecidableEq

structure WifiCommandResult where
  requested : String := ""
  hasEnabled : Bool := false
  enabled : Bool := false
  deriving DecidableEq

namespace Representation

/-- `NETWORK_SERVICE_VERSION` where the build does not set it. -/
def networkServiceVersion : String := "0.1.0"

/-- `json_escape(value)` -/
def escaped (value : String) : Bytes := jsonEscape (text value)

/-- `value ? "true" : "false"` -/
def boolText (value : Bool) : Bytes := text (if value then "true" else "false")

/-- What `os << value` prints for an `int`, an unsigned counter or a size. -/
def number (value : Int) : Bytes := text (toString value)

def routePolicyToString : RoutePolicy → String
  | .wifiPreferred => "wifi_preferred"
  | .wifiOnly => "wifi_only"
  | .manualMetric => "manual_metric"
  | .ethernetPreferred => "ethernet_preferred"

def dnsPolicyToString : DnsPolicy → String
  | _ => "overwrite"

def wifiScanStateName : WifiScanState → String
  | .idle => "idle"
  | .scanning => "scanning"
  | .ready => "ready"
  | .failed => "failed"

def ifacePayload (iface : InterfaceSnapshot) : Bytes :=
  text "\x7b" ++
  text "\"iface\":\"" ++ escaped iface.iface ++ text "\"," ++
  text "\"exists\":" ++ boolText iface.present ++ text "," ++
  text "\"carrier_up\":" ++ boolText iface.carrierUp ++ text "," ++
  text "\"enabled\":" ++ boolText iface.enabled ++ text "," ++
  text "\"connected\":" ++ boolText iface.connected ++ text "," ++
  text "\"has_ip\":" ++ boolText iface.hasIp ++ text "," ++
  text "\"ip4\":\"" ++ escaped iface.ip4 ++ text "\"," ++
  text "\"netmask4\":\"" ++ escaped iface.netmask4 ++ text "\"," ++
  text "\"has_default_route\":" ++ boolText iface.hasDefaultRoute ++ text "," ++
  text "\"gateway4\":\"" ++ escaped iface.gateway4 ++ text "\"," ++
  text "\"route_metric\":" ++ number iface.routeMetric ++ text "," ++
  text "\"ssid\":\"" ++ escaped iface.ssid ++ text "\"," ++
  text "\"signal_dbm\":" ++ number iface.signalDbm ++ text "," ++
  text "\"signal_bars\":" ++ number iface.signalBars ++
  text "\x7d"

def snapshotPayload (snapshot : NetworkSnapshot) : Bytes :=
  text "\x7b" ++
  text "\"version\":\"" ++ text networkServiceVersion ++ text "\"," ++
  text "\"primary_iface\":\"" ++ escaped snapshot.primaryIface ++ text "\"," ++
  text "\"online\":" ++ boolText snapshot.online ++ text "," ++
  text "\"dns_available\":" ++ boolText snapshot.dnsAvailable ++ text "," ++
  text "\"dns4\":\"" ++ escaped snapshot.dns4 ++ text "\"," ++
  text "\"route_policy\":\"" ++ text (routePolicyToString snapshot.routePolicy) ++ text "\"," ++
  text "\"dns_policy\":\"" ++ text (dnsPolicyToString snapshot.dnsPolicy) ++ text "\"," ++
  text "\"eth\":" ++ ifacePayload snapshot.eth ++ text "," ++
  text "\"wifi\":" ++ ifacePayload snapshot.wifi ++
  text "\x7d"

/-- The local `append` of `state_changes_payload`; the flag is `first`. -/
def appendChange (out : Bytes × Bool) (name : String) (enabled : Bool) : Bytes × Bool :=
  if !enabled then out
  else
    let separated := if out.2 then out.1 else out.1 ++ text ","
    (separated ++ text "\"" ++ text name ++ text "\"", false)

def stateChangesPayload (changes : NetworkStateChangeSet) : Bytes :=
  let out := (text "\x7b\"changed\":[", true)
  let out := appendChange out "eth" changes.eth
  let out := appendChange out "wifi" changes.wifi
  let out := appendChange out "route" changes.route
  let out := appendChange out "dns" changes.dns
  out.1 ++ text "]\x7d"

def pingPayload (info : PingInfo) : Bytes :=
  text "\x7b\"service\":\"" ++ escaped info.service ++
  text "\",\"version\":\"" ++ escaped info.version ++
  text "\",\"mode\":\"" ++ escaped info.mode ++ text "\"\x7d"

def routePolicyPayload (info : RoutePolicyInfo) : Bytes :=
  text "\x7b\"policy\":\"" ++ text (routePolicyToString info.policy) ++
  text "\",\"persistent\":" ++ boolText info.persistent ++
  text "\x7d"

def wpaEventsPayload (view : WpaEventsView) : Bytes :=
  text "\x7b" ++
  text "\"attached\":" ++ boolText view.attached ++ text "," ++
  text "\"connected\":" ++ boolText view.connected ++ text "," ++
  text "\"disconnected\":" ++ boolText view.disconnected ++ text "," ++
  text "\"dhcp_requested\":" ++ boolText view.dhcpRequested ++ text "," ++
  text "\"has_ip\":" ++ boolText view.hasIp ++ text "," ++
  text "\"has_default_route\":" ++ boolText view.hasDefaultRoute ++ text "," ++
  text "\"dns_available\":" ++ boolText view.dnsAvailable ++ text "," ++
  text "\"ip4\":\"" ++ escaped view.ip4 ++ text "\"," ++
  text "\"gateway4\":\"" ++ escaped view.gateway4 ++ text "\"," ++
  text "\"dns4\":\"" ++ escaped view.dns4 ++ text "\"," ++
  text "\"connect_events\":" ++ number view.connectEvents.toNat ++ text "," ++
  text "\"disconnect_events\":" ++ number view.disconnectEvents.toNat ++ text "," ++
  text "\"dhcp_requests\":" ++ number view.dhcpRequests.toNat ++ text "," ++
  text "\"scan_started_events\":" ++ number view.scanStartedEvents.toNat ++ text "," ++
  text "\"scan_result_events\":" ++ number view.scanResultEvents.toNat ++ text "," ++
  text "\"scan_failed_events\":" ++ number view.scanFailedEvents.toNat ++ text "," ++
  text "\"event_sequence\":" ++ number view.eventSequence.toNat ++ text "," ++
  text "\"last_scan_started_sequence\":" ++ number view.lastScanStartedSequence.toNat ++ text "," ++
  text "\"last_scan_result_sequence\":" ++ number view.lastScanResultSequence.toNat ++ text "," ++
  text "\"last_scan_failed_sequence\":" ++ number view.lastScanFailedSequence.toNat ++ text "," ++
  text "\"wifi_state\":\"" ++ escaped view.wifiState ++ text "\"," ++
  text "\"failure_reason\":\"" ++ escaped view.failureReason ++ text "\"," ++
  text "\"last_event\":\"" ++ escaped view.lastEvent ++ text "\"," ++
  text "\"last_ssid\":\"" ++ escaped view.lastSsid ++ text "\"," ++
  text "\"last_bssid\":\"" ++ escaped view.lastBssid ++ text "\"" ++
  text "\x7d"

def ethernetConfigPayload (config : EthernetConfig) : Bytes :=
  text "\x7b" ++
  text "\"iface\":\"" ++ escaped config.iface ++ text "\"," ++
  text "\"method\":\"" ++ escaped config.method ++ text "\"," ++
  text "\"ip4\":\"" ++ escaped config.ip4 ++ text "\"," ++
  text "\"netmask4\":\"" ++ escaped config.netmask4 ++ text "\"," ++
  text "\"gateway4\":\"" ++ escaped config.gateway4 ++ text "\"," ++
  text "\"dns4\":\"" ++ escaped config.dns4 ++ text "\"," ++
  text "\"route_metric\":" ++ number config.routeMetric ++ text "," ++
  text "\"dns_enabled\":" ++ boolText config.dnsEnabled ++
  text "\x7d"

def apPayload (record : WifiApRecord) : Bytes :=
  text "\x7b" ++
  text "\"bssid\":\"" ++ escaped record.bssid ++ text "\"," ++
  text "\"frequency\":" ++ number record.frequency ++ text "," ++
  text "\"signal\":" ++ number record.signalDbm ++ text "," ++
  text "\"flags\":\"" ++ escaped record.flags ++ text "\"," ++
  text "\"ssid\":\"" ++ escaped record.ssid ++ text "\"" ++
  text "\x7d"

def savedPayload (record : WifiSavedNetwork) : Bytes :=
  text "\x7b" ++
  text "\"network_id\":" ++ number record.networkId ++ text "," ++
  text "\"ssid\":\"" ++ escaped record.ssid ++ text "\"," ++
  text "\"bssid\":\"" ++ escaped record.bssid ++ text "\"," ++
  text "\"flags\":\"" ++ escaped record.flags ++ text "\"," ++
  text "\"current\":" ++ boolText record.isCurrent ++ text "," ++
  text "\"disabled\":" ++ boolText record.isDisabled ++ text "," ++
  text "\"temp_disabled\":" ++ boolText record.isTempDisabled ++ text "," ++
  text "\"autoconnect\":" ++ boolText record.autoconnect ++
  text "\x7d"

/-- The loop over the records: a comma stands before each but the first. -/
def printRecords {Record : Type} (print : Record → Bytes) : List Record → Bytes
  | [] => []
  | record :: records => print record ++ records.flatMap fun record => text "," ++ print record

def wifiScanPayload (records : List WifiApRecord) : Bytes :=
  text "\x7b\"count\":" ++ number records.length ++ text ",\"aps\":[" ++
  printRecords apPayload records ++
  text "]\x7d"

def wifiSavedPayload (records : List WifiSavedNetwork) : Bytes :=
  text "\x7b\"count\":" ++ number records.length ++ text ",\"saved\":[" ++
  printRecords savedPayload records ++
  text "]\x7d"

def wifiScanStatusPayload (status : WifiScanStatus WifiApRecord) : Bytes :=
  text "\x7b\"scanId\":" ++ decimal status.scanId ++
  text ",\"state\":\"" ++ text (wifiScanStateName status.state) ++ text "\"" ++
  text ",\"error\":\"" ++ escaped status.error ++ text "\"" ++
  text ",\"results\":" ++ wifiScanPayload status.records ++
  text "\x7d"

def wifiEnabledPayload (result : WifiEnabledResult) : Bytes :=
  text "\x7b\"enabled\":" ++ boolText result.enabled ++ text "\x7d"

def wifiCommandPayload (result : WifiCommandResult) : Bytes :=
  text "\x7b\"requested\":\"" ++ escaped result.requested ++ text "\"" ++
  (if result.hasEnabled then text ",\"enabled\":" ++ boolText result.enabled else []) ++
  text "\x7d"

def v0Success (status : Int) (payload : Bytes) : Bytes :=
  text "\x7b\"status\":" ++ number status ++ text ",\"result\":" ++ payload ++ text "\x7d"

def v0Error (status : Int) (message : Bytes) : Bytes :=
  text "\x7b\"status\":" ++ number status ++ text ",\"error\":\"" ++
  jsonEscape message ++ text "\"\x7d"

end Representation

end NetworkService.Ipc
