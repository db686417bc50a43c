import NetworkService.Library.Search
import NetworkService.Types

/-!
# The supplicant event monitor

`WpaEventMonitor` keeps the facts that wpa_supplicant reports: the text of an attached event and the
reply to a STATUS request.  Events are told apart by searching their text for keywords.  The three
member functions that write the facts hold `lock_` from their first to their last line, so each is one
step.
-/

namespace NetworkService.Wifi

open Search

/-- `event.find(keyword) != npos` -/
@[irreducible] def mentions (event keyword : String) : Bool :=
  decide (keyword.toList <:+: event.toList)

/-- The word behind the first occurrence of `key`. -/
def fieldAfter (event key : String) : String :=
  match fromFirst key.toList event.toList with
  | none => ""
  | some found => String.ofList ((found.drop key.toList.length).takeWhile (· ≠ ' '))

/-- What stands before the first `CTRL-EVENT-` is cut off. -/
def normalizeEvent (event : String) : String :=
  match fromFirst "CTRL-EVENT-".toList event.toList with
  | none => event
  | some found => String.ofList found

def l2StateForEvent (event : String) : Option WifiL2State :=
  if mentions event "Trying to associate" then some .associating
  else if mentions event "Associated with" then some .associated
  else if mentions event "4-Way Handshake" || mentions event "Key negotiation completed" ||
      mentions event "WPA: Key negotiation" then some .handshake
  else if mentions event "CTRL-EVENT-CONNECTED" then some .connected
  else if mentions event "CTRL-EVENT-DISCONNECTED" then some .disconnected
  else if mentions event "CTRL-EVENT-SSID-TEMP-DISABLED" ||
      mentions event "CTRL-EVENT-ASSOC-REJECT" || mentions event "CTRL-EVENT-AUTH-REJECT" ||
      mentions event "WRONG_KEY" then some .failed
  else none

def failureReasonForEvent (event : String) : String :=
  if mentions event "WRONG_KEY" then "wrong_key"
  else if mentions event "CTRL-EVENT-SSID-TEMP-DISABLED" then "ssid_temp_disabled"
  else if mentions event "CTRL-EVENT-ASSOC-REJECT" then "assoc_reject"
  else if mentions event "CTRL-EVENT-AUTH-REJECT" then "auth_reject"
  else ""

def l2StateForStatus (value : String) : WifiL2State :=
  if value = "COMPLETED" then .connected
  else if value = "ASSOCIATING" then .associating
  else if value = "ASSOCIATED" then .associated
  else if value = "4WAY_HANDSHAKE" ∨ value = "GROUP_HANDSHAKE" then .handshake
  else if value = "INTERFACE_DISABLED" then .disabled
  else if value = "DISCONNECTED" ∨ value = "INACTIVE" ∨ value = "SCANNING" then .disconnected
  else .unknown

/-! ### The reply to STATUS -/

structure WpaStatusFact where
  l2State : WifiL2State := .unknown
  ssid : String := ""
  bssid : String := ""
  deriving DecidableEq

/-- One line of the reply; a line without `=` is skipped. -/
def readStatusLine (read : Bool × WpaStatusFact) (line : List Char) : Bool × WpaStatusFact :=
  let line := if line.getLast? = some '\r' then line.dropLast else line
  match line.dropWhile (· ≠ '=') with
  | [] => read
  | _ :: value =>
    let key := String.ofList (line.takeWhile (· ≠ '='))
    let value := String.ofList value
    if key = "wpa_state" then (true, { read.2 with l2State := l2StateForStatus value })
    else if key = "ssid" then (read.1, { read.2 with ssid := value })
    else if key = "bssid" then (read.1, { read.2 with bssid := value })
    else read

/-- `parse_wpa_status_reply`, whose result is `have_state`. -/
def parseWpaStatusReply (reply : String) : Option WpaStatusFact :=
  match (reply.toList.splitOn '\n').foldl readStatusLine (false, {}) with
  | (true, fact) => some fact
  | (false, _) => none

/-! ### The facts -/

structure WpaEventFact where
  attached : Bool := false
  l2State : WifiL2State := .unknown
  scanActive : Bool := false
  failureReason : String := ""
  connectEvents : UInt32 := 0
  disconnectEvents : UInt32 := 0
  scanStartedEvents : UInt32 := 0
  scanResultEvents : UInt32 := 0
  scanFailedEvents : UInt32 := 0
  eventSequence : UInt64 := 0
  lastScanStartedSequence : UInt64 := 0
  lastScanResultSequence : UInt64 := 0
  lastScanFailedSequence : UInt64 := 0
  lastEvent : String := ""
  lastSsid : String := ""
  lastBssid : String := ""
  deriving DecidableEq

namespace WpaEventFact

variable (s : WpaEventFact)

/-- A text that is empty does not replace the one before. -/
def replaceBy (old new : String) : String := if new = "" then old else new

/-- The number zero is left out when the sequence wraps. -/
def bumpSequence : WpaEventFact :=
  { s with
    eventSequence := if s.eventSequence + 1 = 0 then s.eventSequence + 1 + 1 else s.eventSequence + 1 }

def applyStatus (status : WpaStatusFact) : WpaEventFact :=
  bumpSequence { s with
    attached := true
    l2State := status.l2State
    failureReason := ""
    lastSsid := replaceBy s.lastSsid status.ssid
    lastBssid := replaceBy s.lastBssid status.bssid }

/-- What `run` writes when the socket is attached and STATUS has no answer. -/
def attachWithoutStatus : WpaEventFact :=
  bumpSequence { s with attached := true, l2State := .unknown, failureReason := "" }

/-- Losing the channel is not evidence of a disconnect; what was known is dropped. -/
def markChannelUnavailable : WpaEventFact :=
  let changed := s.attached ∨ s.l2State ≠ .unknown ∨ s.scanActive ∨ s.failureReason ≠ ""
  let lost := { s with attached := false, l2State := .unknown, scanActive := false, failureReason := "" }
  if changed then bumpSequence lost else lost

/-! ### `update_event`, part by part -/

def noteScanStarted (event : String) : WpaEventFact :=
  if mentions event "CTRL-EVENT-SCAN-STARTED" then
    { s with
      scanActive := true
      scanStartedEvents := s.scanStartedEvents + 1
      lastScanStartedSequence := s.eventSequence }
  else s

def noteScanResults (event : String) : WpaEventFact :=
  if mentions event "CTRL-EVENT-SCAN-RESULTS" then
    { s with
      scanActive := false
      scanResultEvents := s.scanResultEvents + 1
      lastScanResultSequence := s.eventSequence }
  else s

def noteScanFailed (event : String) : WpaEventFact :=
  if mentions event "CTRL-EVENT-SCAN-FAILED" then
    { s with
      scanActive := false
      scanFailedEvents := s.scanFailedEvents + 1
      lastScanFailedSequence := s.eventSequence }
  else s

def noteL2State (event : String) : WpaEventFact :=
  match l2StateForEvent event with
  | some l2State => { s with l2State := l2State }
  | none => s

def noteConnection (event : String) : WpaEventFact :=
  if mentions event "CTRL-EVENT-CONNECTED" then
    { s with
      failureReason := ""
      connectEvents := s.connectEvents + 1
      lastSsid := replaceBy s.lastSsid (fieldAfter event "id_str=")
      lastBssid := replaceBy s.lastBssid (fieldAfter event "Connection to ") }
  else if mentions event "CTRL-EVENT-DISCONNECTED" then
    { s with disconnectEvents := s.disconnectEvents + 1 }
  else if s.l2State = .failed then { s with failureReason := failureReasonForEvent event }
  else s

/-- `update_event` -/
def updateEvent (event : String) : WpaEventFact :=
  (((((bumpSequence { s with lastEvent := event }).noteScanStarted event).noteScanResults
    event).noteScanFailed event).noteL2State event).noteConnection event

end WpaEventFact

/-! ### The monitor thread -/

/-- What the monitor thread writes at one time. -/
inductive MonitorOperation
  | event (text : String)
  /-- The socket was attached; the reply to STATUS, if there was one. -/
  | attached (reply : Option String)
  | channelLost
  deriving DecidableEq

def MonitorOperation.perform (op : MonitorOperation) (s : WpaEventFact) : WpaEventFact :=
  match op with
  | .event text => s.updateEvent text
  | .attached reply =>
    match reply.bind parseWpaStatusReply with
    | some status => s.applyStatus status
    | none => s.attachWithoutStatus
  | .channelLost => s.markChannelUnavailable

/-- The facts after a list of operations, oldest first. -/
def observed (operations : List MonitorOperation) (s : WpaEventFact) : WpaEventFact :=
  operations.foldl (fun s op => op.perform s) s

/-- The call of the link state handler that follows an event. -/
def linkStateCall (event : String) : Option Bool :=
  if mentions event "CTRL-EVENT-CONNECTED" then some true
  else if mentions event "CTRL-EVENT-DISCONNECTED" then some false
  else none

/-- What `run` does with a received event: the facts afterwards and the call of the handler. -/
def receiveEvent (event : String) (s : WpaEventFact) : WpaEventFact × Option Bool :=
  (s.updateEvent (normalizeEvent event), linkStateCall (normalizeEvent event))

/-! ### What `update_event` writes -/

namespace WpaEventFact

variable (s : WpaEventFact) (event : String)

/-- The number of the next event. -/
def nextSequence : UInt64 :=
  if s.eventSequence + 1 = 0 then s.eventSequence + 1 + 1 else s.eventSequence + 1

theorem noteScanStarted_eq : s.noteScanStarted event =
    { s with
      scanActive := if mentions event "CTRL-EVENT-SCAN-STARTED" then true else s.scanActive
      scanStartedEvents :=
        if mentions event "CTRL-EVENT-SCAN-STARTED" then s.scanStartedEvents + 1
        else s.scanStartedEvents
      lastScanStartedSequence :=
        if mentions event "CTRL-EVENT-SCAN-STARTED" then s.eventSequence
        else s.lastScanStartedSequence } := by
  unfold noteScanStarted
  cases mentions event "CTRL-EVENT-SCAN-STARTED" <;> rfl

theorem noteScanResults_eq : s.noteScanResults event =
    { s with
      scanActive := if mentions event "CTRL-EVENT-SCAN-RESULTS" then false else s.scanActive
      scanResultEvents :=
        if mentions event "CTRL-EVENT-SCAN-RESULTS" then s.scanResultEvents + 1
        else s.scanResultEvents
      lastScanResultSequence :=
        if mentions event "CTRL-EVENT-SCAN-RESULTS" then s.eventSequence
        else s.lastScanResultSequence } := by
  unfold noteScanResults
  cases mentions event "CTRL-EVENT-SCAN-RESULTS" <;> rfl

theorem noteScanFailed_eq : s.noteScanFailed event =
    { s with
      scanActive := if mentions event "CTRL-EVENT-SCAN-FAILED" then false else s.scanActive
      scanFailedEvents :=
        if mentions event "CTRL-EVENT-SCAN-FAILED" then s.scanFailedEvents + 1
        else s.scanFailedEvents
      lastScanFailedSequence :=
        if mentions event "CTRL-EVENT-SCAN-FAILED" then s.eventSequence
        else s.lastScanFailedSequence } := by
  unfold noteScanFailed
  cases mentions event "CTRL-EVENT-SCAN-FAILED" <;> rfl

theorem noteL2State_eq :
    s.noteL2State event = { s with l2State := (l2StateForEvent event).getD s.l2State } := by
  unfold noteL2State
  cases l2StateForEvent event <;> rfl

/-- The failure reason that `noteConnection` leaves. -/
def reasonAfter : String :=
  if mentions event "CTRL-EVENT-CONNECTED" then ""
  else if mentions event "CTRL-EVENT-DISCONNECTED" then s.failureReason
  else if s.l2State = .failed then failureReasonForEvent event
  else s.failureReason

theorem noteConnection_eq : s.noteConnection event =
    { s with
      failureReason := s.reasonAfter event
      connectEvents :=
        if mentions event "CTRL-EVENT-CONNECTED" then s.connectEvents + 1 else s.connectEvents
      disconnectEvents :=
        if linkStateCall event = some false then s.disconnectEvents + 1 else s.disconnectEvents
      lastSsid :=
        if mentions event "CTRL-EVENT-CONNECTED" then
          replaceBy s.lastSsid (fieldAfter event "id_str=")
        else s.lastSsid
      lastBssid :=
        if mentions event "CTRL-EVENT-CONNECTED" then
          replaceBy s.lastBssid (fieldAfter event "Connection to ")
        else s.lastBssid } := by
  unfold noteConnection reasonAfter linkStateCall
  cases mentions event "CTRL-EVENT-CONNECTED" with
  | true => rfl
  | false =>
    cases mentions event "CTRL-EVENT-DISCONNECTED" with
    | true => rfl
    | false =>
      by_cases hfailed : s.l2State = .failed
      · simp only [if_pos hfailed, Bool.false_eq_true, if_false, reduceCtorEq]
      · simp only [if_neg hfailed, Bool.false_eq_true, if_false, reduceCtorEq]

/-- **Everything an event writes.** -/
theorem updateEvent_eq : s.updateEvent event =
    let l2State := (l2StateForEvent event).getD s.l2State
    let started := mentions event "CTRL-EVENT-SCAN-STARTED"
    let results := mentions event "CTRL-EVENT-SCAN-RESULTS"
    let failed := mentions event "CTRL-EVENT-SCAN-FAILED"
    let connected := mentions event "CTRL-EVENT-CONNECTED"
    { s with
      l2State := l2State
      scanActive := if failed then false else if results then false
        else if started then true else s.scanActive
      failureReason := { s with l2State := l2State }.reasonAfter event
      connectEvents := if connected then s.connectEvents + 1 else s.connectEvents
      disconnectEvents :=
        if linkStateCall event = some false then s.disconnectEvents + 1 else s.disconnectEvents
      scanStartedEvents := if started then s.scanStartedEvents + 1 else s.scanStartedEvents
      scanResultEvents := if results then s.scanResultEvents + 1 else s.scanResultEvents
      scanFailedEvents := if failed then s.scanFailedEvents + 1 else s.scanFailedEvents
      eventSequence := s.nextSequence
      lastScanStartedSequence := if started then s.nextSequence else s.lastScanStartedSequence
      lastScanResultSequence := if results then s.nextSequence else s.lastScanResultSequence
      lastScanFailedSequence := if failed then s.nextSequence else s.lastScanFailedSequence
      lastEvent := event
      lastSsid := if connected then replaceBy s.lastSsid (fieldAfter event "id_str=") else s.lastSsid
      lastBssid :=
        if connected then replaceBy s.lastBssid (fieldAfter event "Connection to ")
        else s.lastBssid } := by
  unfold updateEvent
  rw [noteConnection_eq, noteL2State_eq, noteScanFailed_eq, noteScanResults_eq, noteScanStarted_eq]
  rfl

end WpaEventFact

end NetworkService.Wifi
