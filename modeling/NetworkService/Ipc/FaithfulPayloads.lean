import NetworkService.Ipc.ReadBack

/-!
# The encoders print what they are given

Each payload has a document with its fixed member names and the values of the record.  The encoders
are concatenations written by hand; each of them prints exactly its document.
-/

namespace NetworkService.Ipc

open Wifi Server

namespace Representation

/-! ### Documents of the payloads -/

def member (name : String) (value : Document) : Bytes × Document := (text name, value)

/-- The bytes of a `std::string` field. -/
def stringOf (value : String) : Document := .string (text value)

def ifaceDocument (iface : InterfaceSnapshot) : Document :=
  .object
    [member "iface" (stringOf iface.iface), member "exists" (.bool iface.present),
      member "carrier_up" (.bool iface.carrierUp), member "enabled" (.bool iface.enabled),
      member "connected" (.bool iface.connected), member "has_ip" (.bool iface.hasIp),
      member "ip4" (stringOf iface.ip4), member "netmask4" (stringOf iface.netmask4),
      member "has_default_route" (.bool iface.hasDefaultRoute),
      member "gateway4" (stringOf iface.gateway4), member "route_metric" (.number iface.routeMetric),
      member "ssid" (stringOf iface.ssid), member "signal_dbm" (.number iface.signalDbm),
      member "signal_bars" (.number iface.signalBars)]

def snapshotDocument (snapshot : NetworkSnapshot) : Document :=
  .object
    [member "version" (stringOf networkServiceVersion),
      member "primary_iface" (stringOf snapshot.primaryIface), member "online" (.bool snapshot.online),
      member "dns_available" (.bool snapshot.dnsAvailable), member "dns4" (stringOf snapshot.dns4),
      member "route_policy" (stringOf (routePolicyToString snapshot.routePolicy)),
      member "dns_policy" (stringOf (dnsPolicyToString snapshot.dnsPolicy)),
      member "eth" (ifaceDocument snapshot.eth), member "wifi" (ifaceDocument snapshot.wifi)]

def stateChangesDocument (changes : NetworkStateChangeSet) : Document :=
  .object [member "changed" (.array (changes.categories.map stringOf))]

def pingDocument (info : PingInfo) : Document :=
  .object [member "service" (stringOf info.service), member "version" (stringOf info.version),
    member "mode" (stringOf info.mode)]

def routePolicyDocument (info : RoutePolicyInfo) : Document :=
  .object [member "policy" (stringOf (routePolicyToString info.policy)),
    member "persistent" (.bool info.persistent)]

def wpaEventsDocument (view : WpaEventsView) : Document :=
  .object
    [member "attached" (.bool view.attached), member "connected" (.bool view.connected),
      member "disconnected" (.bool view.disconnected),
      member "dhcp_requested" (.bool view.dhcpRequested), member "has_ip" (.bool view.hasIp),
      member "has_default_route" (.bool view.hasDefaultRoute),
      member "dns_available" (.bool view.dnsAvailable), member "ip4" (stringOf view.ip4),
      member "gateway4" (stringOf view.gateway4), member "dns4" (stringOf view.dns4),
      member "connect_events" (.number view.connectEvents.toNat),
      member "disconnect_events" (.number view.disconnectEvents.toNat),
      member "dhcp_requests" (.number view.dhcpRequests.toNat),
      member "scan_started_events" (.number view.scanStartedEvents.toNat),
      member "scan_result_events" (.number view.scanResultEvents.toNat),
      member "scan_failed_events" (.number view.scanFailedEvents.toNat),
      member "event_sequence" (.number view.eventSequence.toNat),
      member "last_scan_started_sequence" (.number view.lastScanStartedSequence.toNat),
      member "last_scan_result_sequence" (.number view.lastScanResultSequence.toNat),
      member "last_scan_failed_sequence" (.number view.lastScanFailedSequence.toNat),
      member "wifi_state" (stringOf view.wifiState),
      member "failure_reason" (stringOf view.failureReason),
      member "last_event" (stringOf view.lastEvent), member "last_ssid" (stringOf view.lastSsid),
      member "last_bssid" (stringOf view.lastBssid)]

def ethernetConfigDocument (config : EthernetConfig) : Document :=
  .object
    [member "iface" (stringOf config.iface), member "method" (stringOf config.method),
      member "ip4" (stringOf config.ip4), member "netmask4" (stringOf config.netmask4),
      member "gateway4" (stringOf config.gateway4), member "dns4" (stringOf config.dns4),
      member "route_metric" (.number config.routeMetric),
      member "dns_enabled" (.bool config.dnsEnabled)]

def apDocument (record : WifiApRecord) : Document :=
  .object
    [member "bssid" (stringOf record.bssid), member "frequency" (.number record.frequency),
      member "signal" (.number record.signalDbm), member "flags" (stringOf record.flags),
      member "ssid" (stringOf record.ssid)]

def savedDocument (record : WifiSavedNetwork) : Document :=
  .object
    [member "network_id" (.number record.networkId), member "ssid" (stringOf record.ssid),
      member "bssid" (stringOf record.bssid), member "flags" (stringOf record.flags),
      member "current" (.bool record.isCurrent), member "disabled" (.bool record.isDisabled),
      member "temp_disabled" (.bool record.isTempDisabled),
      member "autoconnect" (.bool record.autoconnect)]

def wifiScanDocument (records : List WifiApRecord) : Document :=
  .object [member "count" (.number records.length), member "aps" (.array (records.map apDocument))]

def wifiSavedDocument (records : List WifiSavedNetwork) : Document :=
  .object
    [member "count" (.number records.length), member "saved" (.array (records.map savedDocument))]

def wifiScanStatusDocument (status : WifiScanStatus WifiApRecord) : Document :=
  .object
    [member "scanId" (.number status.scanId.toNat),
      member "state" (stringOf (wifiScanStateName status.state)),
      member "error" (stringOf status.error), member "results" (wifiScanDocument status.records)]

def wifiEnabledDocument (result : WifiEnabledResult) : Document :=
  .object [member "enabled" (.bool result.enabled)]

def wifiCommandDocument (result : WifiCommandResult) : Document :=
  .object (member "requested" (stringOf result.requested) ::
    if result.hasEnabled then [member "enabled" (.bool result.enabled)] else [])

/-! ### What the encoders print -/

@[simp] theorem jsonEscape_nil : jsonEscape [] = [] := rfl

/-- A letter of a name is none of the bytes that are escaped. -/
theorem ascii_ne {c : Char} (h : 35 ≤ c.toNat ∧ c.toNat ≤ 126 ∧ c.toNat ≠ 92) (b : UInt8)
    (hb : b.toNat = 92 ∨ b.toNat < 35) : ascii c ≠ b := by
  have hnat : (ascii c).toNat = c.toNat := by
    show (UInt8.ofNat c.toNat).toNat = _
    rw [UInt8.toNat_ofNat']
    omega
  rintro rfl
  omega

theorem ascii_not_control {c : Char} (h : 35 ≤ c.toNat ∧ c.toNat ≤ 126 ∧ c.toNat ≠ 92) :
    ¬ascii c < 0x20 := by
  intro hlt
  exact ascii_ne h (ascii c) (.inr ((UInt8.lt_iff_toNat_lt.mp hlt).trans (by decide))) rfl

/-- The letters of a name stand for themselves. -/
@[simp] theorem jsonEscape_letter {c : Char} {value : Bytes}
    (h : 35 ≤ c.toNat ∧ c.toNat ≤ 126 ∧ c.toNat ≠ 92) :
    jsonEscape (ascii c :: value) = ascii c :: jsonEscape value := by
  have hne := ascii_ne h
  unfold jsonEscape
  rw [List.flatMap_cons, if_neg (hne _ (by decide)), if_neg (hne _ (by decide)),
    if_neg (hne _ (by decide)), if_neg (hne _ (by decide)), if_neg (hne _ (by decide)),
    if_neg (hne _ (by decide)), if_neg (hne _ (by decide)), if_neg (ascii_not_control h)]
  rfl

/-- A literal is the text of its characters. -/
theorem text_literal {s : String} {chars : List Char} (h : s = String.ofList chars) :
    text s = chars.map ascii := by
  rw [h, text, String.toList_ofList]

theorem openBrace_eq : openBrace = ascii '\x7b' := rfl

theorem closeBrace_eq : closeBrace = ascii '\x7d' := rfl

theorem quote_eq : quote = ascii '"' := rfl

/-- The members behind the first, and what follows them. -/
def printMore : List (Bytes × Document) → Bytes → Bytes
  | [], s => s
  | (name, value) :: members, s =>
    ascii ',' :: ascii '"' :: (jsonEscape name ++ ascii '"' :: ascii ':' ::
      (value.print ++ printMore members s))

theorem printMembers_more (members : List (Bytes × Document)) (s : Bytes) :
    (Document.printMembers members).flatMap (fun item => ascii ',' :: item) ++ s
      = printMore members s := by
  induction members with
  | nil => rfl
  | cons m members ih =>
    obtain ⟨name, value⟩ := m
    rw [printMore, ← ih]
    simp [Document.printMembers, Document.printString, quote_eq]

theorem print_object (name : Bytes) (value : Document) (members : List (Bytes × Document)) :
    (Document.object ((name, value) :: members)).print =
      ascii '\x7b' :: ascii '"' :: (jsonEscape name ++ ascii '"' :: ascii ':' ::
        (value.print ++ printMore members [ascii '\x7d'])) := by
  rw [← printMembers_more]
  simp [Document.print, Document.printMembers, Document.printItems, Document.printString, quote_eq,
    openBrace_eq, closeBrace_eq]

theorem print_string_append (value s : Bytes) :
    (Document.string value).print ++ s = ascii '"' :: (jsonEscape value ++ ascii '"' :: s) := by
  simp [Document.print, Document.printString, quote_eq]

theorem print_bool_append (value : Bool) (s : Bytes) :
    (Document.bool value).print ++ s = boolText value ++ s := rfl

theorem print_number_append (value : Int) (s : Bytes) :
    (Document.number value).print ++ s = number value ++ s := rfl

theorem escape_routePolicy (policy : RoutePolicy) :
    jsonEscape (text (routePolicyToString policy)) = text (routePolicyToString policy) := by
  cases policy <;>
    · simp (disch := exact rfl) only [routePolicyToString, text_literal, List.map_cons, List.map_nil]
      simp

theorem escape_dnsPolicy (policy : DnsPolicy) :
    jsonEscape (text (dnsPolicyToString policy)) = text (dnsPolicyToString policy) := by
  simp (disch := exact rfl) only [dnsPolicyToString, text_literal, List.map_cons, List.map_nil]
  simp

theorem escape_version :
    jsonEscape (text networkServiceVersion) = text networkServiceVersion := by
  simp (disch := exact rfl) only [networkServiceVersion, text_literal, List.map_cons, List.map_nil]
  simp

theorem escape_scanState (state : WifiScanState) :
    jsonEscape (text (wifiScanStateName state)) = text (wifiScanStateName state) := by
  cases state <;>
    · simp (disch := exact rfl) only [wifiScanStateName, text_literal, List.map_cons, List.map_nil]
      simp

theorem pingPayload_eq (info : PingInfo) :
    pingPayload info = (pingDocument info).print := by
  unfold pingPayload pingDocument
  simp only [escaped, member, stringOf, print_object, printMore, print_string_append,
    List.append_assoc]
  simp (disch := exact rfl) only [text_literal, List.map_cons, List.map_nil]
  simp

theorem routePolicyPayload_eq (info : RoutePolicyInfo) :
    routePolicyPayload info = (routePolicyDocument info).print := by
  unfold routePolicyPayload routePolicyDocument
  simp only [member, stringOf, print_object, printMore, print_string_append, print_bool_append,
    escape_routePolicy, List.append_assoc]
  simp (disch := exact rfl) only [text_literal, List.map_cons, List.map_nil]
  simp

theorem wifiEnabledPayload_eq (result : WifiEnabledResult) :
    wifiEnabledPayload result = (wifiEnabledDocument result).print := by
  unfold wifiEnabledPayload wifiEnabledDocument
  simp only [member, print_object, printMore, print_bool_append, List.append_assoc]
  simp (disch := exact rfl) only [text_literal, List.map_cons, List.map_nil]
  simp

theorem ethernetConfigPayload_eq (config : EthernetConfig) :
    ethernetConfigPayload config = (ethernetConfigDocument config).print := by
  unfold ethernetConfigPayload ethernetConfigDocument
  simp only [escaped, member, stringOf, print_object, printMore, print_string_append,
    print_bool_append, print_number_append, List.append_assoc]
  simp (disch := exact rfl) only [text_literal, List.map_cons, List.map_nil]
  simp

theorem apPayload_eq (record : WifiApRecord) :
    apPayload record = (apDocument record).print := by
  unfold apPayload apDocument
  simp only [escaped, member, stringOf, print_object, printMore, print_string_append,
    print_number_append, List.append_assoc]
  simp (disch := exact rfl) only [text_literal, List.map_cons, List.map_nil]
  simp

theorem savedPayload_eq (record : WifiSavedNetwork) :
    savedPayload record = (savedDocument record).print := by
  unfold savedPayload savedDocument
  simp only [escaped, member, stringOf, print_object, printMore, print_string_append,
    print_bool_append, print_number_append, List.append_assoc]
  simp (disch := exact rfl) only [text_literal, List.map_cons, List.map_nil]
  simp

set_option maxRecDepth 4000 in
theorem ifacePayload_eq (iface : InterfaceSnapshot) :
    ifacePayload iface = (ifaceDocument iface).print := by
  unfold ifacePayload ifaceDocument
  simp only [escaped, member, stringOf, print_object, printMore, print_string_append,
    print_bool_append, print_number_append, List.append_assoc]
  simp (disch := exact rfl) only [text_literal, List.map_cons, List.map_nil]
  simp

set_option maxRecDepth 4000 in
theorem wpaEventsPayload_eq (view : WpaEventsView) :
    wpaEventsPayload view = (wpaEventsDocument view).print := by
  unfold wpaEventsPayload wpaEventsDocument
  simp only [escaped, member, stringOf, print_object, printMore, print_string_append,
    print_bool_append, print_number_append, List.append_assoc]
  simp (disch := exact rfl) only [text_literal, List.map_cons, List.map_nil]
  simp

set_option maxRecDepth 4000 in
theorem snapshotPayload_eq (snapshot : NetworkSnapshot) :
    snapshotPayload snapshot = (snapshotDocument snapshot).print := by
  unfold snapshotPayload snapshotDocument
  simp only [escaped, member, stringOf, print_object, printMore, print_string_append,
    print_bool_append, ifacePayload_eq, escape_routePolicy, escape_dnsPolicy, escape_version,
    List.append_assoc]
  simp (disch := exact rfl) only [text_literal, List.map_cons, List.map_nil]
  simp

/-- The loop over the records prints an array of their documents. -/
theorem printRecords_eq {Record : Type} {print : Record → Bytes} {document : Record → Document}
    (h : ∀ record, print record = (document record).print) (records : List Record) (s : Bytes) :
    ascii '[' :: (printRecords print records ++ ascii ']' :: s)
      = (Document.array (records.map document)).print ++ s := by
  have hprint : print = fun record => (document record).print := funext h
  have htexts : Document.printEach (records.map document) = records.map print := by
    rw [Document.printEach_eq, List.map_map, hprint]
    rfl
  have hitems : printRecords print records = Document.printItems (records.map print) := by
    cases records with
    | nil => rfl
    | cons record records =>
      rw [List.map_cons, printRecords, Document.printItems, List.flatMap_map]
      simp (disch := exact rfl) only [text_literal, List.map_cons, List.map_nil, List.cons_append,
        List.nil_append]
  rw [Document.print, htexts, hitems]
  simp

theorem wifiScanPayload_eq (records : List WifiApRecord) :
    wifiScanPayload records = (wifiScanDocument records).print := by
  unfold wifiScanPayload wifiScanDocument
  simp only [member, print_object, printMore, print_number_append, ← printRecords_eq apPayload_eq,
    List.append_assoc]
  simp (disch := exact rfl) only [text_literal, List.map_cons, List.map_nil]
  simp

theorem wifiSavedPayload_eq (records : List WifiSavedNetwork) :
    wifiSavedPayload records = (wifiSavedDocument records).print := by
  unfold wifiSavedPayload wifiSavedDocument
  simp only [member, print_object, printMore, print_number_append, ← printRecords_eq savedPayload_eq,
    List.append_assoc]
  simp (disch := exact rfl) only [text_literal, List.map_cons, List.map_nil]
  simp

/-- A `uint64_t` prints like its number. -/
theorem decimal_eq_number (value : UInt64) : decimal value = number value.toNat := rfl

theorem wifiScanStatusPayload_eq (status : WifiScanStatus WifiApRecord) :
    wifiScanStatusPayload status = (wifiScanStatusDocument status).print := by
  unfold wifiScanStatusPayload wifiScanStatusDocument
  simp only [escaped, member, stringOf, print_object, printMore, print_string_append,
    print_number_append, decimal_eq_number, wifiScanPayload_eq, escape_scanState, List.append_assoc]
  simp (disch := exact rfl) only [text_literal, List.map_cons, List.map_nil]
  simp

theorem wifiCommandPayload_eq (result : WifiCommandResult) :
    wifiCommandPayload result = (wifiCommandDocument result).print := by
  unfold wifiCommandPayload wifiCommandDocument
  split
  · simp only [escaped, member, stringOf, print_object, printMore, print_string_append,
      print_bool_append, List.append_assoc]
    simp (disch := exact rfl) only [text_literal, List.map_cons, List.map_nil]
    simp
  · simp only [escaped, member, stringOf, print_object, printMore, print_string_append,
      List.append_assoc]
    simp (disch := exact rfl) only [text_literal, List.map_cons, List.map_nil]
    simp

/-! ### The list of changes -/

theorem printItems_concat (items : List Bytes) (item : Bytes) :
    Document.printItems (items ++ [item]) =
      if items.isEmpty then item else Document.printItems items ++ ascii ',' :: item := by
  cases items with
  | nil => simp [Document.printItems]
  | cons first items => simp [Document.printItems]

/-- The stream and its flag after these names. -/
def changesOut (names : List String) : Bytes × Bool :=
  (text "\x7b\"changed\":[" ++ Document.printItems (names.map fun name => Document.printString (text name)),
    names.isEmpty)

/-- A name between quotes. -/
theorem quoted_name {name : String} (h : jsonEscape (text name) = text name) :
    text "\"" ++ text name ++ text "\"" = Document.printString (text name) := by
  have hquote : text "\"" = [ascii '"'] := by
    simp (disch := exact rfl) only [text_literal, List.map_cons, List.map_nil]
  rw [Document.printString, h, hquote]
  rfl

theorem text_comma : text "," = [ascii ','] := by
  simp (disch := exact rfl) only [text_literal, List.map_cons, List.map_nil]

theorem appendChange_changesOut (names : List String) {name : String}
    (hname : jsonEscape (text name) = text name) (enabled : Bool) :
    appendChange (changesOut names) name enabled =
      changesOut (names ++ if enabled then [name] else []) := by
  cases enabled with
  | false => simp [appendChange]
  | true =>
    simp only [appendChange, changesOut, Bool.not_true, if_true, List.map_append, List.map_cons,
      List.map_nil, printItems_concat, List.isEmpty_map]
    cases names with
    | nil => simp [← quoted_name hname, Document.printItems]
    | cons first names => simp [← quoted_name hname, text_comma]

theorem escape_category (name : String) (h : name ∈ ["eth", "wifi", "route", "dns"]) :
    jsonEscape (text name) = text name := by
  simp only [List.mem_cons, List.not_mem_nil, or_false] at h
  rcases h with rfl | rfl | rfl | rfl <;>
    · simp (disch := exact rfl) only [text_literal, List.map_cons, List.map_nil]
      simp

/-- The categories that changed are appended in their order. -/
theorem stateChangesPayload_out (changes : NetworkStateChangeSet) :
    stateChangesPayload changes = (changesOut changes.categories).1 ++ text "]\x7d" := by
  have hstart : (text "\x7b\"changed\":[", true) = changesOut [] := by
    simp [changesOut, Document.printItems]
  unfold stateChangesPayload
  simp only [hstart, appendChange_changesOut _ (escape_category "eth" (by simp)),
    appendChange_changesOut _ (escape_category "wifi" (by simp)),
    appendChange_changesOut _ (escape_category "route" (by simp)),
    appendChange_changesOut _ (escape_category "dns" (by simp)), List.nil_append]
  rfl

theorem stateChangesPayload_eq (changes : NetworkStateChangeSet) :
    stateChangesPayload changes = (stateChangesDocument changes).print := by
  have htexts : Document.printEach (changes.categories.map stringOf)
      = changes.categories.map fun name => Document.printString (text name) := by
    rw [Document.printEach_eq, List.map_map]
    rfl
  rw [stateChangesPayload_out]
  unfold stateChangesDocument changesOut
  rw [member, print_object, Document.print, htexts]
  simp (disch := exact rfl) only [text_literal, List.map_cons, List.map_nil]
  simp [printMore]

theorem intercalate_eq_printItems (items : List Bytes) :
    [ascii ','].intercalate items = Document.printItems items := by
  cases items with
  | nil => rfl
  | cons item items =>
    rw [Document.printItems]
    induction items generalizing item with
    | nil => simp [List.intercalate]
    | cons next items ih =>
      rw [List.intercalate_cons_cons, ih]
      simp

theorem categories_subset {changes : NetworkStateChangeSet} {name : String}
    (h : name ∈ changes.categories) : name ∈ ["eth", "wifi", "route", "dns"] := by
  unfold NetworkStateChangeSet.categories at h
  simp only [List.mem_append, List.mem_ite_nil_right, List.mem_singleton] at h
  rcases h with ((⟨-, rfl⟩ | ⟨-, rfl⟩) | ⟨-, rfl⟩) | ⟨-, rfl⟩ <;> simp

/-- The reactor broadcasts the text of the encoder. -/
theorem server_stateChangesPayload (changes : NetworkStateChangeSet) :
    Server.stateChangesPayload changes = stateChangesPayload changes := by
  have hnames : (changes.categories.map fun name => text "\"" ++ text name ++ text "\"")
      = changes.categories.map fun name => Document.printString (text name) :=
    List.map_congr_left fun name hname => quoted_name (escape_category name (categories_subset hname))
  unfold Server.stateChangesPayload
  rw [text_comma, intercalate_eq_printItems, hnames, stateChangesPayload_out]
  rfl

end Representation

end NetworkService.Ipc
