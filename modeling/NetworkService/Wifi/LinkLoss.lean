import NetworkService.ControlPlane.LinkPass
import NetworkService.ControlPlane.RoutePolicy
import NetworkService.Library.Execution
import NetworkService.Wifi.Manager

/-!
# Losing Wi-Fi

The Wi-Fi manager over the control plane, as the daemon wires them: `dhcp_start` is
`start_dhcp` on the Wi-Fi interface, `dhcp_stop` is `stop_dhcp` on it, and `dhcp_running` asks
for the client process.  Calls are made one after the other and every port call succeeds.

The manager forwards a stop only where its own lifecycle is active.  A client whose exit was
noticed leaves the lifecycle failed and the control plane's link managed, and a loss of the
link then withdraws nothing.
-/

namespace NetworkService.Wifi

open Fallible Execution ControlPlane ControlPlane.NetworkControlPlane

variable {W : Type}

/-! ### The composition -/

/-- Manager, control plane and the DHCP client process of Wi-Fi. -/
structure Daemon (W : Type) where
  manager : WifiManagerState
  control : Run W
  client : Bool

/-- What can happen between two ticks, and the tick itself. -/
inductive DaemonEvent (W : Type)
  | connected
  | disconnected
  | stopDhcp
  | clientExit
  | publish (w : W)
  | tick (full : Bool)

namespace Daemon

variable (ops : NetworkControlPlaneOps W) (s : Daemon W)

/-- The Wi-Fi interface the daemon was configured with. -/
abbrev wifiIface : String := s.control.plane.names.wifi

/-- `WifiManager::on_l2_connected` -/
def onL2Connected : Daemon W :=
  let (starts, reserved) := s.manager.reserveStart
  if starts then
    let (confirmed, manager) := reserved.confirmStart
    if confirmed then
      match startDhcp ops s.wifiIface s.control with
      | .ok _ control => ⟨manager.finishStart (.ok ()), control, true⟩
      | .error error control => ⟨manager.finishStart (.error error), control, s.client⟩
    else { s with manager := manager }
  else { s with manager := reserved }

/-- The mechanism part of `on_l2_disconnected` and `stop_dhcp`. -/
def cancelWith (stateSection : WifiManagerState → Bool × WifiManagerState) : Daemon W :=
  let (shouldStop, manager) := stateSection s.manager
  if shouldStop then ⟨manager, after (ControlPlane.stopDhcp ops s.wifiIface) s.control, false⟩
  else { s with manager := manager }

/-- `WifiManager::on_l2_disconnected` -/
def onL2Disconnected : Daemon W := s.cancelWith ops WifiManagerState.loseLink

/-- `WifiManager::stop_dhcp` -/
def stopDhcp : Daemon W := s.cancelWith ops WifiManagerState.cancelDhcp

/-- `WifiManager::reconcile_dhcp_process` -/
def reconcileDhcpProcess : Daemon W :=
  if s.manager.watchesProcess ∧ s.client = false then { s with manager := s.manager.reportExit.2 }
  else s

/-- `NetworkDaemon::reconcile`: the process first, then the full or the fast pass. -/
def reconcile (full : Bool) : Daemon W :=
  let checked := s.reconcileDhcpProcess
  { checked with
    control :=
      if full then after (ControlPlane.reconcile ops) checked.control
      else after (reconcileChanged ops) checked.control }

end Daemon

/-- What an event does. -/
def DaemonEvent.apply (ops : NetworkControlPlaneOps W) : DaemonEvent W → Daemon W → Daemon W
  | .connected, s => s.onL2Connected ops
  | .disconnected, s => s.onL2Disconnected ops
  | .stopDhcp, s => s.stopDhcp ops
  | .clientExit, s => { s with client := false }
  | .publish w, s => { s with control := { s.control with world := w } }
  | .tick full, s => s.reconcile ops full

/-- The daemon after its constructor: nothing runs, or clients that ran already were adopted. -/
def Daemon.Starts (ops : NetworkControlPlaneOps W) (s : Daemon W) : Prop :=
  ∃ (names : IfaceNames) (w : W) (ethAdopted wifiAdopted : Bool),
    let eth := if ethAdopted then after (adoptDhcp ops names.eth) (fresh names w) else fresh names w
    s = if wifiAdopted then
        ⟨WifiManagerState.adoptDhcpRunning {}, after (adoptDhcp ops names.wifi) eth, true⟩
      else ⟨{}, eth, false⟩

/-- An event together with the lifecycle state it found. -/
structure Observed (W : Type) where
  event : DaemonEvent W
  dhcpState : DhcpClientState

/-- An event happens in the lifecycle state that is observed with it. -/
def observe (ops : NetworkControlPlaneOps W) (o : Observed W) (s : Daemon W) : Option (Daemon W) :=
  if s.manager.dhcpState = o.dhcpState then some (o.event.apply ops s) else none

/-- A loss of the link or an explicit stop. -/
def DaemonEvent.loses : DaemonEvent W → Bool
  | .disconnected | .stopDhcp => true
  | _ => false

def DaemonEvent.connects : DaemonEvent W → Bool
  | .connected => true
  | _ => false

/-- A loss or stop happened and no CONNECTED event since, newest event first. -/
def lostLast : List (Observed W) → Bool
  | [] => false
  | o :: history => o.event.loses || (!o.event.connects && lostLast history)

/-- Since the last CONNECTED event a loss or stop found the lifecycle failed. -/
def lostFailed : List (Observed W) → Bool
  | [] => false
  | o :: history =>
    (o.event.loses && o.dhcpState = .failed) || (!o.event.connects && lostFailed history)

/-- Nothing is left of the Wi-Fi link in the control plane. -/
def Withdrawn (p : NetworkControlPlane) : Prop :=
  p.wifi.managedDhcp = false ∧ p.wifi.active = false ∧ p.wifiRoute.active = false

instance (p : NetworkControlPlane) : Decidable (Withdrawn p) :=
  inferInstanceAs (Decidable (_ ∧ _ ∧ _))

/-! ### What the control plane does to its Wi-Fi records -/

section Control

variable {s t : Run W}

/-- The Wi-Fi link stays managed or unmanaged, and a withdrawn link stays withdrawn. -/
structure WifiKept (s t : Run W) : Prop where
  names : t.plane.names = s.plane.names
  managed : t.plane.wifi.managedDhcp = s.plane.wifi.managedDhcp
  withdrawn : Withdrawn s.plane → Withdrawn t.plane

theorem WifiKept.refl (s : Run W) : WifiKept s s := ⟨rfl, rfl, id⟩

theorem WifiKept.trans {u : Run W} (h : WifiKept s t) (h' : WifiKept t u) : WifiKept s u :=
  ⟨h'.names.trans h.names, h'.managed.trans h.managed, h'.withdrawn ∘ h.withdrawn⟩

theorem wifiKept_of_records (h : wifiRecords t = wifiRecords s) : WifiKept s t := by
  simp only [wifiRecords, Prod.mk.injEq] at h
  obtain ⟨hnames, hwifi, hroute, -⟩ := h
  refine ⟨hnames, by rw [hwifi], fun hw => ?_⟩
  unfold Withdrawn
  rw [hwifi, hroute]
  exact hw

theorem wifiKept_of_links (h : t.plane.links = s.plane.links) : WifiKept s t :=
  wifiKept_of_records (congrArg (fun p => (p.names, p.wifi, p.wifiRoute, p.routePolicy)) h :)

theorem wifiKept_of_managed (hnames : t.plane.names = s.plane.names)
    (hmanaged : s.plane.wifi.managedDhcp = true) (ht : t.plane.wifi.managedDhcp = true) :
    WifiKept s t :=
  ⟨hnames, ht.trans hmanaged.symm, fun hw => nomatch hw.1.symm.trans hmanaged⟩

theorem repairEthernet_wifiRecords (ops : NetworkControlPlaneOps W) (live : NetworkSnapshot) :
    wifiRecords (after (repairEthernet ops live) s) = wifiRecords s := by
  have hensure := (wifiRecords_steps ops s.plane.names).ensure
  have hrepair : ∀ ip4 netmask4 gateway4 metric,
      Along (Within s.plane.names (Framing wifiRecords)) (do
        repairIpv4 ops s.plane.names.eth live.eth ip4 netmask4
        repairRoute ops s.plane.names.eth live.eth gateway4 metric) := by
    intro ip4 netmask4 gateway4 metric
    refine Along.bind ?_ fun _ => ?_
    · refine Along.ite (Along.pure _) (Along.ite (Along.pure _) ?_)
      refine Along.bind (Along.require _ _) fun _ => ?_
      exact Along.bind ((wifiRecords_steps ops s.plane.names).call (.applyIpv4 _ _ _) rfl rfl)
        fun r => along_check r
    · exact Along.bind along_getPlane fun p =>
        Along.ite (Along.pure _) (Along.ite (Along.pure _) (hensure _ _))
  exact (Along.ite (hrepair _ _ _ _) (Along.ite (hrepair _ _ _ _) (Along.pure _)) s rfl).2

theorem repairWifi_wifiKept (ops : NetworkControlPlaneOps W) (live : NetworkSnapshot) :
    WifiKept s (after (repairWifi ops live) s) := by
  have hconfig : configOf (after (repairWifi ops live) s) = configOf s :=
    ((configSteps ops s.plane.names).repairs.repairWifi live s rfl).2
  refine ⟨congrArg (·.names) hconfig, congrArg (·.wifi.managedDhcp) hconfig, fun hw => ?_⟩
  have hskip : ¬(s.plane.wifi.active = true ∧ s.plane.wifi.lease.configured = true) := fun hc =>
    nomatch hw.2.1.symm.trans hc.1
  have hrun : repairWifi ops live s = .ok () s := by
    unfold repairWifi
    rw [run_bind, run_getPlane]
    dsimp only
    rw [if_neg hskip]
    rfl
  rw [after_ok hrun]
  exact hw

variable (P : ReliablePorts W)

theorem reconcileLinkLocked_wifiKept :
    wp (reconcileLinkLocked P.toNetworkControlPlaneOps s.plane.names.wifi)
      (fun _ t => WifiKept s t) (fun _ t => WifiKept s t) s := by
  refine wp_reconcileLinkLocked P ?_ ?_ ?_ ?_
  · intro t ht
    exact wifiKept_of_links (by rw [ht])
  · intro hmanaged fact t ht
    rw [linkFor_wifi] at hmanaged
    refine wifiKept_of_managed ?_ hmanaged ?_ <;>
      rw [ht, withdraw_wifi, linkFor_wifi, setLink_of_wifi rfl]
    exact hmanaged
  · intro hmanaged fact t _ ht
    rw [linkFor_wifi] at hmanaged
    obtain ⟨route, hrouted, -⟩ := s.plane.leaseRouted_wifi fact
    refine wifiKept_of_managed ?_ hmanaged ?_ <;> rw [ht, hrouted, linkFor_wifi, setLink_of_wifi rfl]
    exact hmanaged
  · intro e t ht
    exact wifiKept_of_links (by rw [ht])

theorem reconcileLinks_wifiKept :
    wp (reconcileLinks P.toNetworkControlPlaneOps) (fun _ t => WifiKept s t)
      (fun _ t => WifiKept s t) s := by
  unfold reconcileLinks
  rw [wp_bind, wp_getPlane, wp_bind]
  refine wp_mono (wp_of_after (I := fun t => wifiRecords t = wifiRecords s)
    (reconcileLinkLocked_wifiRecords _ s)) (fun _ t ht => ?_) fun _ t ht => wifiKept_of_records ht
  have hkept := wifiKept_of_records ht
  rw [wp_bind, ← hkept.names]
  exact wp_mono (reconcileLinkLocked_wifiKept P) (fun _ _ hu => hkept.trans hu)
    fun _ _ hu => hkept.trans hu

theorem recomputeDnsLocked_wifiKept :
    WifiKept s (after (recomputeDnsLocked P.toNetworkControlPlaneOps) s) :=
  wifiKept_of_links (recomputeDnsLocked_links _ s)

theorem reconcile_wifiKept : WifiKept s (after (ControlPlane.reconcile P.toNetworkControlPlaneOps) s) := by
  refine after_of_wp (I := fun t => WifiKept s t) ?_
  unfold ControlPlane.reconcile repairOwnedStateLocked
  rw [wp_bind]
  refine wp_mono (reconcileLinks_wifiKept P) (fun _ t ht => ?_) fun _ _ h => h
  rw [wp_bind, wp_ite, if_pos (P.wired _), wp_bind]
  refine wp_invoke.mpr ?_
  rw [wp_bind]
  refine wp_mono (wp_of_after (I := fun u => wifiRecords u = wifiRecords t)
    (repairEthernet_wifiRecords _ _)) (fun _ u hu => ?_)
    fun _ _ hu => ht.trans (wifiKept_of_records hu)
  have hu := ht.trans (wifiKept_of_records hu)
  refine wp_mono (wp_of_after (I := fun v => WifiKept u v) (repairWifi_wifiKept _ _))
    (fun _ v hv => ?_) fun _ _ hv => hu.trans hv
  refine wp_mono (wp_of_after (I := fun w => WifiKept v w) (recomputeDnsLocked_wifiKept P))
    (fun _ _ hw => ?_) fun _ _ hw => ?_
  · exact (hu.trans hv).trans hw
  · exact (hu.trans hv).trans hw

theorem reconcileChanged_wifiKept :
    WifiKept s (after (reconcileChanged P.toNetworkControlPlaneOps) s) := by
  refine after_of_wp (I := fun t => WifiKept s t) ?_
  unfold reconcileChanged
  rw [wp_bind, wp_attempt]
  refine wp_mono (reconcileLinks_wifiKept P) (fun changed t ht => ?_) fun _ _ h => h
  dsimp only
  rw [wp_bind, wp_getPlane, wp_ite]
  split
  · rw [wp_bind, wp_attempt]
    refine wp_mono (wp_of_after (I := fun u => WifiKept t u) (recomputeDnsLocked_wifiKept P))
      (fun _ _ hu => ht.trans hu) fun _ _ hu => ht.trans hu
  · exact ht

theorem knownIface_wifi (p : NetworkControlPlane) : p.knownIface p.names.wifi = true :=
  knownIface_iff.mpr (.inr rfl)

/-- With every call succeeding, the client is started and the link is managed. -/
theorem startDhcp_wifi :
    wp (startDhcp P.toNetworkControlPlaneOps s.plane.names.wifi)
      (fun _ t => t.plane.wifi.managedDhcp = true) (fun _ _ => False) s := by
  refine wp_startDhcp P (fun _ t ht => ?_) fun hunknown => ?_
  · rw [withdraw_wifi, reset_of_wifi rfl, setLink_of_wifi rfl] at ht
    exact (congrArg (·.wifi.managedDhcp) ht :)
  · exact nomatch (knownIface_wifi s.plane).symm.trans hunknown

theorem stopDhcp_wifi :
    Withdrawn (after (stopDhcp P.toNetworkControlPlaneOps s.plane.names.wifi) s).plane := by
  refine after_of_wp (I := fun t : Run W => Withdrawn t.plane) (wp_stopDhcp P (fun _ t ht => ?_)
    fun hunknown => ?_)
  · rw [withdraw_wifi, setLink_of_wifi rfl] at ht
    have hroute : t.plane.wifiRoute = s.plane.wifiRoute.withdrawn := (congrArg (·.wifiRoute) ht :)
    have hwifi : t.plane.wifi = {} := (congrArg (·.wifi) ht :)
    refine ⟨by rw [hwifi], by rw [hwifi], ?_⟩
    rw [hroute]
    unfold OwnedRouteState.withdrawn
    split
    · rfl
    · next hinactive => simpa using hinactive
  · exact nomatch (knownIface_wifi s.plane).symm.trans hunknown

end Control

/-! ### The invariant -/

/-- The two machines against each other, with the order of events so far. -/
structure Tracked (history : List (Observed W)) (s : Daemon W) : Prop where
  settled : s.manager.dhcpState ≠ .starting
  managed : s.manager.dhcpState = .running ∨ s.manager.dhcpState = .failed →
    s.control.plane.wifi.managedDhcp = true
  clean : s.manager.dhcpState = .idle → lostFailed history = false → Withdrawn s.control.plane
  dirty : s.manager.dhcpState = .idle → lostFailed history = true →
    s.control.plane.wifi.managedDhcp = true
  lost : lostLast history = true → s.manager.dhcpState = .idle

section Steps

variable (P : ReliablePorts W) {history : List (Observed W)} {s : Daemon W}

theorem onL2Connected_running (hs : Tracked history s) :
    (s.onL2Connected P.toNetworkControlPlaneOps).manager.dhcpState = .running ∧
      (s.onL2Connected P.toNetworkControlPlaneOps).control.plane.wifi.managedDhcp = true := by
  obtain ⟨u, control, hrun, hmanaged⟩ := run_of_wp (startDhcp_wifi P (s := s.control))
  unfold Daemon.onL2Connected Daemon.wifiIface
  rw [hrun]
  cases hstate : s.manager.dhcpState with
  | starting => exact absurd hstate hs.settled
  | running =>
    have hreserve : s.manager.reserveStart =
        (false, { s.manager with l2Connected := true, failureReason := "" }) := by
      simp [WifiManagerState.reserveStart, dhcpStateActive, hstate]
    rw [hreserve]
    exact ⟨hstate, hs.managed (.inl hstate)⟩
  | idle | failed =>
    have hreserve : s.manager.reserveStart.1 = true ∧
        s.manager.reserveStart.2.l2Connected = true := by
      simp [WifiManagerState.reserveStart, dhcpStateActive, hstate]
    simp [hreserve.1, hreserve.2, WifiManagerState.confirmStart, WifiManagerState.finishStart,
      hmanaged]

/-- A failed loss is a loss. -/
theorem lostLast_of_lostFailed (h : lostFailed history = true) : lostLast history = true := by
  induction history with
  | nil => exact h
  | cons o history ih =>
    simp only [lostFailed, lostLast, Bool.or_eq_true, Bool.and_eq_true] at h ⊢
    rcases h with ⟨hloses, -⟩ | ⟨hconnects, hfailed⟩
    · exact .inl hloses
    · exact .inr ⟨hconnects, ih hfailed⟩

/-- A loss or stop: what it does to the link depends on the lifecycle it finds. -/
theorem Tracked.cancelWith (hs : Tracked history s)
    (stateSection : WifiManagerState → Bool × WifiManagerState)
    (hstop : (stateSection s.manager).1 = dhcpStateActive s.manager.dhcpState)
    (hidle : (stateSection s.manager).2.dhcpState = .idle) {o : Observed W}
    (hloses : o.event.loses = true) (hstate : s.manager.dhcpState = o.dhcpState) :
    Tracked (o :: history) (s.cancelWith P.toNetworkControlPlaneOps stateSection) := by
  have hconnects : o.event.connects = false := by
    cases hevent : o.event <;> simp_all [DaemonEvent.loses, DaemonEvent.connects]
  have hmanager : (s.cancelWith P.toNetworkControlPlaneOps stateSection).manager =
      (stateSection s.manager).2 := by
    unfold Daemon.cancelWith
    dsimp only
    split <;> rfl
  have hfailed : lostFailed (o :: history) =
      (decide (s.manager.dhcpState = .failed) || lostFailed history) := by
    simp [lostFailed, hloses, hconnects, hstate]
  have hlink : (lostFailed (o :: history) = false →
        Withdrawn (s.cancelWith P.toNetworkControlPlaneOps stateSection).control.plane) ∧
      (lostFailed (o :: history) = true →
        (s.cancelWith P.toNetworkControlPlaneOps stateSection).control.plane.wifi.managedDhcp =
          true) := by
    rw [hfailed]
    unfold Daemon.cancelWith
    dsimp only
    rw [hstop]
    cases hfound : s.manager.dhcpState with
    | starting => exact absurd hfound hs.settled
    | running =>
      -- a loss since the last CONNECTED event would have left the lifecycle idle
      have hnone : lostFailed history = false := by
        cases hlost : lostFailed history with
        | false => rfl
        | true => exact nomatch hfound.symm.trans (hs.lost (lostLast_of_lostFailed hlost))
      refine ⟨fun _ => stopDhcp_wifi P, fun hyes => ?_⟩
      rw [hnone] at hyes
      exact nomatch hyes
    | failed =>
      refine ⟨fun hno => ?_, fun _ => hs.managed (.inr hfound)⟩
      simp at hno
    | idle =>
      exact ⟨fun hno => hs.clean hfound (by simpa using hno),
        fun hyes => hs.dirty hfound (by simpa using hyes)⟩
  refine ⟨?_, ?_, fun _ => hlink.1, fun _ => hlink.2, fun _ => ?_⟩
  · rw [hmanager, hidle]
    exact fun hstarting => nomatch hstarting
  · rw [hmanager, hidle]
    rintro (hrunning | hfailed)
    · exact nomatch hrunning
    · exact nomatch hfailed
  · rw [hmanager, hidle]

/-- What an event that neither connects nor loses the link leaves as it was. -/
theorem Tracked.kept {t : Daemon W} {o : Observed W} (hs : Tracked history s)
    (hloses : o.event.loses = false) (hconnects : o.event.connects = false)
    (hkept : WifiKept s.control t.control)
    (hstate : t.manager.dhcpState = s.manager.dhcpState ∨
      (s.manager.dhcpState = .running ∧ t.manager.dhcpState = .failed)) :
    Tracked (o :: history) t := by
  have hlost : lostLast (o :: history) = lostLast history := by simp [lostLast, hloses, hconnects]
  have hfailed : lostFailed (o :: history) = lostFailed history := by
    simp [lostFailed, hloses, hconnects]
  rcases hstate with hsame | ⟨hran, hexited⟩
  · refine ⟨?_, ?_, ?_, ?_, ?_⟩
    · rw [hsame]
      exact hs.settled
    · rw [hsame, hkept.managed]
      exact hs.managed
    · rw [hsame, hfailed]
      exact fun hidle hno => hkept.withdrawn (hs.clean hidle hno)
    · rw [hsame, hfailed, hkept.managed]
      exact hs.dirty
    · rw [hsame, hlost]
      exact hs.lost
  · refine ⟨?_, fun _ => ?_, ?_, ?_, ?_⟩
    · rw [hexited]
      exact fun hstarting => nomatch hstarting
    · rw [hkept.managed]
      exact hs.managed (.inl hran)
    · exact fun hidle => nomatch hexited.symm.trans hidle
    · exact fun hidle => nomatch hexited.symm.trans hidle
    · rw [hlost]
      exact fun hyes => nomatch hran.symm.trans (hs.lost hyes)

theorem Tracked.step (hs : Tracked history s) (o : Observed W)
    (hstate : s.manager.dhcpState = o.dhcpState) :
    Tracked (o :: history) (o.event.apply P.toNetworkControlPlaneOps s) := by
  obtain ⟨event, dhcpState⟩ := o
  cases event with
  | connected =>
    obtain ⟨hrunning, hmanaged⟩ := onL2Connected_running P hs
    refine ⟨?_, fun _ => hmanaged, ?_, ?_, fun hlost => nomatch hlost⟩
    · exact fun hstarting => nomatch hrunning.symm.trans hstarting
    · exact fun hidle => nomatch hrunning.symm.trans hidle
    · exact fun hidle => nomatch hrunning.symm.trans hidle
  | disconnected => exact hs.cancelWith P WifiManagerState.loseLink rfl rfl rfl hstate
  | stopDhcp => exact hs.cancelWith P WifiManagerState.cancelDhcp rfl rfl rfl hstate
  | clientExit => exact hs.kept rfl rfl (.refl _) (.inl rfl)
  | publish w => exact hs.kept rfl rfl (wifiKept_of_links rfl) (.inl rfl)
  | tick full =>
    have hcontrol : (s.reconcileDhcpProcess).control = s.control := by
      unfold Daemon.reconcileDhcpProcess
      split <;> rfl
    refine hs.kept rfl rfl ?_ ?_
    · show WifiKept s.control (if full then _ else _)
      rw [hcontrol]
      cases full with
      | true => exact reconcile_wifiKept P
      | false => exact reconcileChanged_wifiKept P
    · show (s.reconcileDhcpProcess).manager.dhcpState = _ ∨ _ ∧
        (s.reconcileDhcpProcess).manager.dhcpState = _
      unfold Daemon.reconcileDhcpProcess
      split
      · next hdead =>
        have hran : s.manager.dhcpState = .running := by
          simpa [WifiManagerState.watchesProcess] using hdead.1
        refine .inr ⟨hran, ?_⟩
        simp [WifiManagerState.reportExit, hran]
      · exact .inl rfl

end Steps

/-! ### Whole runs -/

theorem adoptDhcp_run (P : ReliablePorts W) {s : Run W} {iface : String}
    (hknown : s.plane.knownIface iface = true) :
    adoptDhcp P.toNetworkControlPlaneOps iface s = .ok () { s with plane :=
      let adopted := (s.plane.setLink iface { managedDhcp := true }).setOwnedRoute iface {}
      if iface = adopted.names.eth then { adopted with staticEth := {} } else adopted } := by
  unfold adoptDhcp
  simp [P.wired, hknown]

theorem tracked_of_starts (P : ReliablePorts W) {s : Daemon W}
    (hs : s.Starts P.toNetworkControlPlaneOps) : Tracked [] s := by
  obtain ⟨names, w, ethAdopted, wifiAdopted, hstart⟩ := hs
  -- adopting the Ethernet client leaves the fresh Wi-Fi records alone
  obtain ⟨eth, heth, hnames, hwifi, hroute⟩ : ∃ eth : Run W,
      (if ethAdopted then after (adoptDhcp P.toNetworkControlPlaneOps names.eth) (fresh names w)
        else fresh names w) = eth ∧ eth.plane.names = names ∧ eth.plane.wifi = {} ∧
      eth.plane.wifiRoute = {} := by
    cases ethAdopted with
    | false => exact ⟨_, rfl, rfl, rfl, rfl⟩
    | true =>
      have hrun := adoptDhcp_run P (s := fresh names w) (knownIface_iff.mpr (.inl rfl))
      refine ⟨_, after_ok hrun, ?_, ?_, ?_⟩ <;> simp [fresh, setLink, setOwnedRoute]
  rw [heth] at hstart
  cases wifiAdopted with
  | false =>
    obtain rfl : s = ⟨{}, eth, false⟩ := hstart
    constructor
    case clean => exact fun _ _ => ⟨by rw [hwifi], by rw [hwifi], by rw [hroute]⟩
    case managed =>
      rintro (h | h)
      · cases h
      · cases h
    case dirty =>
      intro _ hlost
      cases hlost
    all_goals
      intro h
      cases h
  | true =>
    have hrun := adoptDhcp_run P (s := eth) (knownIface_wifi eth.plane)
    rw [hnames] at hrun
    have hstart : s = ⟨WifiManagerState.adoptDhcpRunning {}, _, true⟩ :=
      hstart.trans (by rw [if_pos rfl, after_ok hrun])
    subst hstart
    constructor
    case managed =>
      intro _
      rw [← hnames]
      simp [setLink, setOwnedRoute, Ne.symm eth.plane.names.distinct]
    all_goals
      intro h
      cases h

/-- **When losing Wi-Fi withdraws the link.**  After a DISCONNECTED event or an explicit stop,
and until the next CONNECTED event, nothing is left of the Wi-Fi link exactly if none of these
losses since the last CONNECTED event found the lifecycle failed. -/
theorem loss_withdraws_wifi_iff (P : ReliablePorts W) {history : List (Observed W)} {s : Daemon W}
    (hreach : Reaches (Daemon.Starts P.toNetworkControlPlaneOps) (observe P.toNetworkControlPlaneOps)
      history s) (hlost : lostLast history = true) :
    Withdrawn s.control.plane ↔ lostFailed history = false := by
  have htracked : Tracked history s := by
    refine hreach.invariant (fun _ hs => tracked_of_starts P hs) ?_
    intro history o s t hs ho
    simp only [observe, Option.ite_none_right_eq_some, Option.some.injEq] at ho
    obtain ⟨hstate, rfl⟩ := ho
    exact hs.step P o hstate
  have hidle := htracked.lost hlost
  constructor
  · intro hwithdrawn
    cases hfailed : lostFailed history with
    | false => rfl
    | true => exact nomatch hwithdrawn.1.symm.trans (htracked.dirty hidle hfailed)
  · exact htracked.clean hidle

/-! ### Two runs -/

/-- The daemon on a machine that holds one lease file, before anything happened. -/
def quietStart : Daemon (Option DhcpLeaseFact) := ⟨{}, fresh .standard none, false⟩

/-- Wi-Fi comes up, its lease is consumed, the link is lost and a tick passes. -/
def lossWhileRunning : List (Observed (Option DhcpLeaseFact)) :=
  [⟨.connected, .idle⟩, ⟨.publish (some accessPointLease), .running⟩, ⟨.tick false, .running⟩,
    ⟨.disconnected, .running⟩, ⟨.tick true, .idle⟩]

/-- The same, but the client exits and a tick notices it before the link is lost. -/
def lossAfterExit : List (Observed (Option DhcpLeaseFact)) :=
  [⟨.connected, .idle⟩, ⟨.publish (some accessPointLease), .running⟩, ⟨.tick false, .running⟩,
    ⟨.clientExit, .running⟩, ⟨.tick false, .running⟩, ⟨.disconnected, .failed⟩]

theorem quietStart_starts : quietStart.Starts leasePorts.toNetworkControlPlaneOps :=
  ⟨.standard, none, false, false, rfl⟩

theorem loss_withdraws_wifi_iff_lossWhileRunning :
    ∃ s, Reaches (Daemon.Starts leasePorts.toNetworkControlPlaneOps)
        (observe leasePorts.toNetworkControlPlaneOps) lossWhileRunning.reverse s ∧
      (Withdrawn s.control.plane ↔ lostFailed lossWhileRunning.reverse = false) ∧
      lostFailed lossWhileRunning.reverse = false := by
  have hruns : (run (observe leasePorts.toNetworkControlPlaneOps) lossWhileRunning
      quietStart).isSome = true := by decide +kernel
  obtain ⟨s, hs⟩ := Option.isSome_iff_exists.mp hruns
  have hreach : Reaches _ _ lossWhileRunning.reverse s := Reaches.of_run quietStart_starts hs
  exact ⟨s, hreach, loss_withdraws_wifi_iff leasePorts hreach rfl, rfl⟩

/-- The lifecycle is failed when the link is lost, so nothing is stopped: the link stays
managed and active and keeps its default route. -/
theorem lossAfterExit_keeps_wifi :
    ∃ s, Reaches (Daemon.Starts leasePorts.toNetworkControlPlaneOps)
        (observe leasePorts.toNetworkControlPlaneOps) lossAfterExit.reverse s ∧
      lostLast lossAfterExit.reverse = true ∧ s.control.plane.wifi.managedDhcp = true ∧
      s.control.plane.wifi.active = true ∧ s.control.plane.wifiRoute = ⟨true, "192.168.4.1", 20⟩ := by
  have hruns : (run (observe leasePorts.toNetworkControlPlaneOps) lossAfterExit quietStart).any
      (fun s => decide (s.control.plane.wifi.managedDhcp = true ∧ s.control.plane.wifi.active = true ∧
        s.control.plane.wifiRoute = ⟨true, "192.168.4.1", 20⟩)) = true := by decide +kernel
  obtain ⟨s, hs, hlink⟩ := (Option.any_eq_true _ _).mp hruns
  exact ⟨s, Reaches.of_run quietStart_starts hs, rfl, of_decide_eq_true hlink⟩

end NetworkService.Wifi
