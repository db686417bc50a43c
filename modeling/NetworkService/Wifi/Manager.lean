import NetworkService.Types

/-!
# The Wi-Fi manager

`WifiManager` decides from Wi-Fi link events and explicit requests when the DHCP client is
started and stopped.  Its state is read and written in short sections under `lock_`; the DHCP
mechanism (`dhcp_start`, `dhcp_stop`, `dhcp_running`) is called between such sections, never
inside one, and is serialized by `operation_lock_`.

Here is one definition for each section.  A section that decides how its call goes on returns
that decision with the new state.  The daemon always sets the three mechanism functions.
-/

namespace NetworkService.Wifi

structure WifiManagerState where
  l2Connected : Bool := false
  dhcpState : DhcpClientState := .idle
  dhcpRequests : UInt32 := 0
  failureReason : String := ""
  deriving DecidableEq

/-- `dhcp_state_active` -/
@[grind] def dhcpStateActive (state : DhcpClientState) : Bool := state = .starting ∨ state = .running

namespace WifiManagerState

variable (s : WifiManagerState)

/-! ### `on_l2_connected` -/

/-- The lifecycle transition is reserved before the state lock is released, so that another
CONNECTED event does not schedule a second start.  Returns whether a start is to follow. -/
@[grind] def reserveStart : Bool × WifiManagerState :=
  let linked := { s with l2Connected := true, failureReason := "" }
  if dhcpStateActive linked.dhcpState then
    (false, linked)
  else
    (true, { linked with dhcpState := .starting, dhcpRequests := linked.dhcpRequests + 1 })

/-- The link may have been lost while the call waited for the mechanism. -/
@[grind] def confirmStart : Bool × WifiManagerState :=
  if s.l2Connected then (true, s) else (false, { s with dhcpState := .idle })

/-- The outcome of `dhcp_start`; a link lost meanwhile leaves the stop to the call that lost
it. -/
@[grind] def finishStart (outcome : Except String Unit) : WifiManagerState :=
  match outcome with
  | .error error =>
    { s with
      dhcpState := .failed
      failureReason := "dhcp_start_failed" ++ if error = "" then "" else ": " ++ error }
  | .ok _ =>
    if s.l2Connected then { s with dhcpState := .running } else { s with dhcpState := .idle }

/-! ### `on_l2_disconnected` and `stop_dhcp` -/

/-- Returns `should_stop`. -/
@[grind] def loseLink : Bool × WifiManagerState :=
  (dhcpStateActive s.dhcpState,
    { s with l2Connected := false, dhcpState := .idle, failureReason := "" })

/-- Returns `should_stop`.  The link state is left as it is. -/
@[grind] def cancelDhcp : Bool × WifiManagerState :=
  (dhcpStateActive s.dhcpState, { s with dhcpState := .idle, failureReason := "" })

/-! ### Adoption and process reconciliation -/

/-- Import a client that runs already; the link state is left as it is. -/
def adoptDhcpRunning : WifiManagerState := { s with dhcpState := .running, failureReason := "" }

/-- Only a running lifecycle is checked against the process. -/
def watchesProcess : Bool := s.dhcpState = .running

/-- The process was found dead.  A lifecycle that was cancelled meanwhile is left alone.
Returns whether the visible state changed. -/
@[grind] def reportExit : Bool × WifiManagerState :=
  if s.dhcpState = .running then
    (true, { s with dhcpState := .failed, failureReason := "dhcp_process_exited" })
  else
    (false, s)

end WifiManagerState

end NetworkService.Wifi
