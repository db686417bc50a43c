import NetworkService.Library.Execution
import NetworkService.Wifi.Manager

/-!
# Does an explicit stop win?

Two threads call the Wi-Fi manager: the monitor thread delivers CONNECTED and DISCONNECTED
events, the reactor thread issues `stop_dhcp` and `reconcile_dhcp_process`.  A step is one
section under `lock_`, one acquisition of `operation_lock_` or one mechanism call; every
interleaving of these is possible.  The DHCP client may exit at any moment.

`stop_dhcp` leaves `l2_connected` alone, and this is all a start in flight looks at.  So the
stop wins exactly if its state section, or that of a later stop or disconnect, comes after
the last section of the last `on_l2_connected`.
-/

namespace NetworkService.Wifi

open Execution

/-! ### The system -/

inductive Thread
  | monitor
  | reactor
  deriving DecidableEq

/-- Where the monitor thread is. -/
inductive MonitorPoint
  | idle
  | connectBegun
  | startReserved
  | startLocked
  | startConfirmed
  | startReturned (outcome : Except String Unit)
  | disconnectBegun
  | lossPending
  | lossLocked
  deriving DecidableEq

/-- Where the reactor thread is. -/
inductive ReactorPoint
  | idle
  | stopBegun
  | stopPending
  | stopLocked
  | reconcileBegun
  | probePending
  | probeLocked
  | exitFound
  deriving DecidableEq

/-- A call of the DHCP mechanism and what it returned. -/
inductive MechanismCall
  | start (ok : Bool)
  | stop
  | running (alive : Bool)
  deriving DecidableEq

structure System where
  manager : WifiManagerState := {}
  operationLock : Option Thread := none
  monitor : MonitorPoint := .idle
  reactor : ReactorPoint := .idle
  client : Bool := false
  lastCall : Option MechanismCall := none

/-- The manager as the daemon constructs it, or with the running client it adopted. -/
def Initial (s : System) : Prop :=
  s = {} ∨ s = { manager := WifiManagerState.adoptDhcpRunning {}, client := true }

/-- One step of a thread, or the exit of the DHCP client. -/
inductive Event
  | beginConnected
  | reserveStart
  | lockForStart
  | confirmStart
  | start (outcome : Except String Unit)
  | finishStart
  | beginDisconnected
  | loseLink
  | lockForLoss
  | stopAfterLoss
  | beginStop
  | cancelDhcp
  | lockForStop
  | stop
  | beginReconcile
  | watchProcess
  | lockForProbe
  | probe
  | reportExit
  | clientExit

/-- What an event does where it is possible. -/
def step : Event → System → Option System
  | .beginConnected, s =>
    if s.monitor = .idle then some { s with monitor := .connectBegun } else none
  | .reserveStart, s =>
    if s.monitor = .connectBegun then
      some { s with
        manager := s.manager.reserveStart.2
        monitor := if s.manager.reserveStart.1 then .startReserved else .idle }
    else none
  | .lockForStart, s =>
    if s.monitor = .startReserved ∧ s.operationLock = none then
      some { s with operationLock := some .monitor, monitor := .startLocked }
    else none
  | .confirmStart, s =>
    if s.monitor = .startLocked then
      some { s with
        manager := s.manager.confirmStart.2
        operationLock := if s.manager.confirmStart.1 then s.operationLock else none
        monitor := if s.manager.confirmStart.1 then .startConfirmed else .idle }
    else none
  | .start outcome, s =>
    if s.monitor = .startConfirmed then
      some { s with
        monitor := .startReturned outcome
        client := s.client || outcome.isOk
        lastCall := some (.start outcome.isOk) }
    else none
  | .finishStart, s =>
    match s.monitor with
    | .startReturned outcome =>
      some { s with
        manager := s.manager.finishStart outcome
        operationLock := none
        monitor := .idle }
    | _ => none
  | .beginDisconnected, s =>
    if s.monitor = .idle then some { s with monitor := .disconnectBegun } else none
  | .loseLink, s =>
    if s.monitor = .disconnectBegun then
      some { s with
        manager := s.manager.loseLink.2
        monitor := if s.manager.loseLink.1 then .lossPending else .idle }
    else none
  | .lockForLoss, s =>
    if s.monitor = .lossPending ∧ s.operationLock = none then
      some { s with operationLock := some .monitor, monitor := .lossLocked }
    else none
  | .stopAfterLoss, s =>
    if s.monitor = .lossLocked then
      some { s with
        operationLock := none, monitor := .idle, client := false, lastCall := some .stop }
    else none
  | .beginStop, s =>
    if s.reactor = .idle then some { s with reactor := .stopBegun } else none
  | .cancelDhcp, s =>
    if s.reactor = .stopBegun then
      some { s with
        manager := s.manager.cancelDhcp.2
        reactor := if s.manager.cancelDhcp.1 then .stopPending else .idle }
    else none
  | .lockForStop, s =>
    if s.reactor = .stopPending ∧ s.operationLock = none then
      some { s with operationLock := some .reactor, reactor := .stopLocked }
    else none
  | .stop, s =>
    if s.reactor = .stopLocked then
      some { s with
        operationLock := none, reactor := .idle, client := false, lastCall := some .stop }
    else none
  | .beginReconcile, s =>
    if s.reactor = .idle then some { s with reactor := .reconcileBegun } else none
  | .watchProcess, s =>
    if s.reactor = .reconcileBegun then
      some { s with reactor := if s.manager.watchesProcess then .probePending else .idle }
    else none
  | .lockForProbe, s =>
    if s.reactor = .probePending ∧ s.operationLock = none then
      some { s with operationLock := some .reactor, reactor := .probeLocked }
    else none
  | .probe, s =>
    if s.reactor = .probeLocked then
      some { s with
        operationLock := if s.client then none else s.operationLock
        reactor := if s.client then .idle else .exitFound
        lastCall := some (.running s.client) }
    else none
  | .reportExit, s =>
    if s.reactor = .exitFound then
      some { s with
        manager := s.manager.reportExit.2, operationLock := none, reactor := .idle }
    else none
  | .clientExit, s => some { s with client := false }

/-! ### Orders of events -/

/-- A step of an `on_l2_connected` call. -/
@[grind] def Event.ofConnected : Event → Bool
  | .beginConnected | .reserveStart | .lockForStart | .confirmStart | .start _
  | .finishStart => true
  | _ => false

/-- The state section of an `on_l2_disconnected` or a `stop_dhcp` call. -/
@[grind] def Event.cancels : Event → Bool
  | .loseLink | .cancelDhcp => true
  | _ => false

/-- In a history, newest event first: a `stop_dhcp` call began after the last
`on_l2_connected` call began. -/
@[grind] def stopBegunLast : List Event → Bool
  | [] => false
  | .beginStop :: _ => true
  | .beginConnected :: _ => false
  | _ :: history => stopBegunLast history

/-- A stop or disconnect executed its state section after the last step of the last
`on_l2_connected` call. -/
@[grind] def cancelledLast : List Event → Bool
  | [] => false
  | e :: history => e.cancels || (!e.ofConnected && cancelledLast history)

/-! ### Invariants -/

@[grind] def MonitorPoint.holdsLock : MonitorPoint → Bool
  | .startLocked | .startConfirmed | .startReturned _ | .lossLocked => true
  | _ => false

@[grind] def ReactorPoint.holdsLock : ReactorPoint → Bool
  | .stopLocked | .probeLocked | .exitFound => true
  | _ => false

/-- A start is reserved and `dhcp_start` has not been called. -/
@[grind] def MonitorPoint.beforeStart : MonitorPoint → Bool
  | .startReserved | .startLocked | .startConfirmed => true
  | _ => false

/-- Between the first and the last section of `on_l2_connected`. -/
@[grind] def MonitorPoint.connecting : MonitorPoint → Bool
  | .startReserved | .startLocked | .startConfirmed | .startReturned _ => true
  | _ => false

namespace System

variable (s : System)

/-- A `dhcp_stop` is on its way. -/
@[grind] def StopPending : Prop :=
  s.monitor = .lossPending ∨ s.monitor = .lossLocked ∨ s.reactor = .stopPending ∨
    s.reactor = .stopLocked

/-- No client is left running. -/
@[grind] def Quiet : Prop := s.client = false ∧ s.lastCall ≠ some (.start true)

end System

/-- `operation_lock_` is held by the thread that is inside. -/
structure Locked (s : System) : Prop where
  monitor : s.monitor.holdsLock = true → s.operationLock = some .monitor
  reactor : s.reactor.holdsLock = true → s.operationLock = some .reactor

/-- What the phase of the monitor thread says about the manager's state. -/
structure Phased (s : System) : Prop where
  starting : s.manager.dhcpState = .starting → s.monitor.connecting = true
  linked : s.monitor.connecting = true → s.manager.l2Connected = true

/-- Where a lifecycle is not active no client runs, or its stop is on its way. -/
structure Tidy (s : System) : Prop where
  inactive : s.monitor.connecting = false → dhcpStateActive s.manager.dhcpState = false →
    s.Quiet ∨ s.StopPending
  reserved : s.monitor.beforeStart = true → s.Quiet ∨ s.StopPending
  startFailed : ∀ e, s.monitor = .startReturned (.error e) → s.Quiet ∨ s.StopPending
  exitFound : s.reactor = .exitFound → s.Quiet

/-- The state at the end, from the order of the events. -/
structure Ordered (history : List Event) (s : System) : Prop where
  cancelled : cancelledLast history = true → s.manager.dhcpState = .idle
  uncancelled : cancelledLast history = false → s.monitor.connecting = false →
    s.monitor ≠ .connectBegun →
    s.manager.dhcpState = .running ∨ s.manager.dhcpState = .failed ∨
      (stopBegunLast history = true → s.reactor = .stopBegun)

theorem finishStart_cases {s t : System} (he : step .finishStart s = some t) :
    ∃ outcome, s.monitor = .startReturned outcome ∧
      t = { s with
        manager := s.manager.finishStart outcome
        operationLock := none
        monitor := .idle } := by
  simp only [step] at he
  split at he
  · next outcome hpc => exact ⟨outcome, hpc, (Option.some.inj he).symm⟩
  · exact nomatch he

section Step

variable {history : List Event} {e : Event} {s t : System}

/-- A thread that releases the lock held it, so the other one did not. -/
theorem Locked.step (hs : Locked s) (he : step e s = some t) : Locked t := by
  obtain ⟨hmonitor, hreactor⟩ := hs
  cases e
  case finishStart =>
    obtain ⟨outcome, hpc, rfl⟩ := finishStart_cases he
    constructor <;> grind -ring -linarith -lia -ac
  case clientExit =>
    obtain rfl := Option.some.inj he
    exact ⟨hmonitor, hreactor⟩
  all_goals
    simp only [Wifi.step, Option.ite_none_right_eq_some, Option.some.injEq] at he
    obtain ⟨hpc, rfl⟩ := he
    constructor <;> grind -ring -linarith -lia -ac

/-- Only the monitor thread changes the link, and it is in no other call meanwhile. -/
theorem Phased.step (hs : Phased s) (he : step e s = some t) : Phased t := by
  obtain ⟨hstarting, hlinked⟩ := hs
  cases e
  case finishStart =>
    obtain ⟨outcome, hpc, rfl⟩ := finishStart_cases he
    cases outcome <;> constructor <;> grind -ring -linarith -lia -ac
  case clientExit =>
    obtain rfl := Option.some.inj he
    exact ⟨hstarting, hlinked⟩
  all_goals
    simp only [Wifi.step, Option.ite_none_right_eq_some, Option.some.injEq] at he
    obtain ⟨hpc, rfl⟩ := he
    constructor <;> grind -ring -linarith -lia -ac

theorem Tidy.step (hlock : Locked s) (hphase : Phased s) (hs : Tidy s)
    (he : step e s = some t) : Tidy t := by
  obtain ⟨hinactive, hreserved, hfailed, hexit⟩ := hs
  obtain ⟨hmonitor, hreactor⟩ := hlock
  obtain ⟨hstarting, hlinked⟩ := hphase
  cases e
  case start outcome =>
    -- a failed start leaves things as they were reserved; a found exit would hold the lock
    simp only [Wifi.step, Option.ite_none_right_eq_some, Option.some.injEq] at he
    obtain ⟨hpc, rfl⟩ := he
    cases outcome <;> constructor <;> grind -ring -linarith -lia -ac [Except.toBool]
  case finishStart =>
    obtain ⟨outcome, hpc, rfl⟩ := finishStart_cases he
    cases outcome <;> constructor <;> grind -ring -linarith -lia -ac
  case clientExit =>
    obtain rfl := Option.some.inj he
    constructor <;> grind -ring -linarith -lia -ac
  all_goals
    simp only [Wifi.step, Option.ite_none_right_eq_some, Option.some.injEq] at he
    obtain ⟨hpc, rfl⟩ := he
    constructor <;> grind -ring -linarith -lia -ac

theorem Ordered.step (hphase : Phased s) (hs : Ordered history s) (he : step e s = some t) :
    Ordered (e :: history) t := by
  obtain ⟨hcancelled, huncancelled⟩ := hs
  obtain ⟨hstarting, hlinked⟩ := hphase
  cases e
  case finishStart =>
    -- the link is up, so a start that returns leaves the lifecycle running or failed
    obtain ⟨outcome, hpc, rfl⟩ := finishStart_cases he
    cases outcome <;> constructor <;> grind -ring -linarith -lia -ac
  case clientExit =>
    obtain rfl := Option.some.inj he
    constructor <;> grind -ring -linarith -lia -ac
  all_goals
    simp only [Wifi.step, Option.ite_none_right_eq_some, Option.some.injEq] at he
    obtain ⟨hpc, rfl⟩ := he
    constructor <;> grind -ring -linarith -lia -ac

end Step

/-- Everything that is known of an execution. -/
structure Known (history : List Event) (s : System) : Prop where
  locked : Locked s
  phased : Phased s
  tidy : Tidy s
  ordered : Ordered history s

theorem known_of_reaches {history : List Event} {s : System}
    (h : Reaches Initial step history s) : Known history s := by
  refine h.invariant ?_ ?_
  · rintro s (rfl | rfl)
    · exact ⟨⟨by grind, by grind⟩, ⟨by grind, by grind⟩, ⟨by grind, by grind, by grind, by grind⟩,
        ⟨by grind, by grind⟩⟩
    · refine ⟨⟨by grind, by grind⟩, ⟨?_, by grind⟩, ⟨?_, by grind, by grind, by grind⟩,
        ⟨by grind, fun _ _ _ => .inl rfl⟩⟩
      · exact fun hstarting => nomatch hstarting
      · exact fun _ hinactive => nomatch hinactive
  · intro history e s t hs he
    exact ⟨hs.locked.step he, hs.phased.step he, hs.tidy.step hs.locked hs.phased he,
      hs.ordered.step hs.phased he⟩

/-- **When an explicit stop wins.**  Once all calls have returned and a `stop_dhcp` call began
after the last `on_l2_connected` call began, the lifecycle is idle, the last mechanism call is
no successful start and no client is left running exactly if a stop or disconnect executed its
state section after the last `on_l2_connected` call was done. -/
theorem explicit_stop_wins_iff {history : List Event} {s : System}
    (hreach : Reaches Initial step history s) (hmonitor : s.monitor = .idle)
    (hreactor : s.reactor = .idle) (hstop : stopBegunLast history = true) :
    (s.manager.dhcpState = .idle ∧ s.lastCall ≠ some (.start true) ∧ s.client = false) ↔
      cancelledLast history = true := by
  have hknown := known_of_reaches hreach
  have hpending : ¬s.StopPending := by simp [System.StopPending, hmonitor, hreactor]
  have hdone : s.monitor.connecting = false := by rw [hmonitor]; rfl
  constructor
  · rintro ⟨hidle, -, -⟩
    cases hcancelled : cancelledLast history with
    | true => rfl
    | false =>
      rcases hknown.ordered.uncancelled hcancelled hdone (by simp [hmonitor]) with
        hrunning | hfailed | hwaiting
      · exact nomatch hidle.symm.trans hrunning
      · exact nomatch hidle.symm.trans hfailed
      · exact nomatch hreactor.symm.trans (hwaiting hstop)
  · intro hcancelled
    have hidle := hknown.ordered.cancelled hcancelled
    have hinactive : dhcpStateActive s.manager.dhcpState = false := by rw [hidle]; rfl
    rcases hknown.tidy.inactive hdone hinactive with hquiet | hwaiting
    · exact ⟨hidle, hquiet.2, hquiet.1⟩
    · exact absurd hwaiting hpending

/-- A stop that comes after the start has returned. -/
def stopAfterStart : List Event :=
  [.beginConnected, .reserveStart, .lockForStart, .confirmStart, .start (.ok ()), .finishStart,
    .beginStop, .cancelDhcp, .lockForStop, .stop]

theorem explicit_stop_wins_iff_stopAfterStart :
    ∃ s, run step stopAfterStart {} = some s ∧ s.lastCall = some .stop ∧
      ((s.manager.dhcpState = .idle ∧ s.lastCall ≠ some (.start true) ∧ s.client = false) ↔
        cancelledLast stopAfterStart.reverse = true) ∧
      cancelledLast stopAfterStart.reverse = true := by
  refine ⟨_, rfl, rfl, ?_, rfl⟩
  have hreach : Reaches Initial step stopAfterStart.reverse _ := Reaches.of_run (.inl rfl) rfl
  exact explicit_stop_wins_iff hreach rfl rfl rfl

/-- A stop that runs to its end while `on_l2_connected` waits for the mechanism. -/
def stopDuringStart : List Event :=
  [.beginConnected, .reserveStart, .beginStop, .cancelDhcp, .lockForStop, .stop, .lockForStart,
    .confirmStart, .start (.ok ()), .finishStart]

/-- The start goes on after the stop: all calls have returned, the lifecycle is running, and
the last mechanism call is a successful start. -/
theorem stopDuringStart_leaves_client :
    ∃ s, Reaches Initial step stopDuringStart.reverse s ∧ s.monitor = .idle ∧ s.reactor = .idle ∧
      stopBegunLast stopDuringStart.reverse = true ∧ s.manager.dhcpState = .running ∧
      s.lastCall = some (.start true) ∧ s.client = true := by
  have hreach : Reaches Initial step stopDuringStart.reverse _ := Reaches.of_run (.inl rfl) rfl
  exact ⟨_, hreach, rfl, rfl, rfl, rfl, rfl, rfl⟩

end NetworkService.Wifi
