import NetworkService.Config.LoadSaved
import NetworkService.Daemon.EthernetTransaction
import NetworkService.Platform.NetworkConfigurator

/-!
# What an accepted static configuration leaves in the file

`eth.set_static` reports the configuration it was asked for.  The configurator has read the address
and the netmask by then, up to a NUL if they hold one, but the gateway and the nameserver go into the
file as the request spelled them: under `WifiOnly` no port looks at them, and an empty gateway keeps
the nameserver out of sight.
-/

namespace NetworkService

namespace Platform

open Config

theorem isBlank_of_isIfaceByte {c : Char} (h : isIfaceByte c = true) : isBlank c = false := by
  cases hblank : isBlank c with
  | false => rfl
  | true =>
    simp only [isBlank, decide_eq_true_eq] at hblank
    rcases hblank with rfl | rfl | rfl | rfl <;> exact absurd h (by decide)

/-- A device name that the configurator takes fits a line of the file. -/
theorem fitsLine_of_isSafeIface {iface : String} (h : isSafeIface iface = true) :
    iface ≠ "" ∧ FitsLine iface := by
  unfold isSafeIface at h
  obtain ⟨hne, -, hall⟩ := of_decide_eq_true h
  refine ⟨hne, fitsLine_of_noBlank fun c hc => ?_⟩
  exact isBlank_of_isIfaceByte (List.all_eq_true.mp hall c hc)

end Platform

namespace Daemon

open Fallible Config ControlPlane ControlPlane.NetworkControlPlane Platform

variable {W : Type} (ops : NetworkControlPlaneOps W)

/-- A static address that was applied has passed the configurator. -/
theorem applyEthernetStatic_wellFormed (hvalidates : ops.Validates)
    (ip4 netmask4 gateway4 dns4 : String) (manualMetric : Int) (s : Run W) :
    wp (applyEthernetStatic ops ip4 netmask4 gateway4 dns4 manualMetric)
      (fun _ _ => (PortCall.applyIpv4 s.plane.names.eth ip4 netmask4).malformed = false)
      (fun _ _ => True) s := by
  unfold applyEthernetStatic
  rw [wp_bind, wp_require]
  split
  · rw [wp_bind, wp_getPlane, wp_bind]
    refine wp_of_framing (clearOwnedRouteLocked_config ops _) (fun _ t _ => ?_) fun _ _ _ => trivial
    rw [wp_bind]
    refine wp_invoke.mpr ?_
    rw [wp_bind]
    refine wp_invoke.mpr ?_
    rw [wp_bind, wp_modifyPlane, wp_bind]
    refine wp_invoke.mpr ?_
    rw [wp_bind, wp_check]
    refine ⟨fun _ hreply => ?_, fun _ _ => trivial⟩
    have hwell : (PortCall.applyIpv4 s.plane.names.eth ip4 netmask4).malformed = false :=
      hvalidates.wellFormed (congrArg Except.isOk hreply)
    rw [wp_bind, wp_modifyPlane, wp_bind]
    refine wp_of_framing (applyRoutesLocked_config ops) (fun _ _ _ => ?_) fun _ _ _ => trivial
    exact wp_of_framing (recomputeDnsLocked_config ops) (fun _ _ _ => hwell) fun _ _ _ => trivial
  · trivial

/-- **An accepted request**: the configuration asked for was applied and is the one in the file. -/
theorem perform_accepted {replies : FileReplies} {configDir : String} {request : EthernetRequest}
    {s : EthernetDaemon W} {config : EthernetConfig}
    (haccepted : (request.perform ops replies configDir s).1 = .ok config) :
    config = s.desired request ∧
      (request.perform ops replies configDir s).2.files =
        { committed := some (serializeEthernetConfig config), staged := none } ∧
      applyEthernetRuntime ops s.control.plane.names.eth config s.control =
        .ok () (request.perform ops replies configDir s).2.control := by
  rcases perform_cases ops replies configDir request s with
    ⟨-, e, hresult⟩ | ⟨-, t, happly, -, hresult⟩ | ⟨-, -, e, hresult⟩
  · rw [hresult] at haccepted
    exact nomatch haccepted
  · rw [hresult] at haccepted ⊢
    obtain rfl := Except.ok.inj haccepted
    exact ⟨rfl, rfl, happly⟩
  · rw [hresult] at haccepted
    exact nomatch haccepted

/-- **When an accepted static configuration is the one that is loaded again.**  It is exactly if
none of the four texts of the request has a newline or a blank at its ends. -/
theorem accepted_static_reloads_iff (hvalidates : ops.Validates) (replies : FileReplies)
    (configDir ip mask gateway dns : String) (s : EthernetDaemon W) {config : EthernetConfig}
    (haccepted : ((EthernetRequest.setStatic ip mask gateway dns).perform ops replies configDir s).1 =
      .ok config) :
    loadEthernetConfig
        ((EthernetRequest.setStatic ip mask gateway dns).perform ops replies configDir s).2.files.committed
        s.control.plane.names.eth = config ↔
      FitsLine ip ∧ FitsLine mask ∧ FitsLine gateway ∧ FitsLine dns := by
  obtain ⟨hconfig, hfiles, happlied⟩ := perform_accepted ops haccepted
  have hwell : (PortCall.applyIpv4 s.control.plane.names.eth ip mask).malformed = false := by
    have hwp := applyEthernetStatic_wellFormed ops hvalidates ip mask gateway
      (if config.dnsEnabled then config.dns4 else "") config.routeMetric s.control
    have happly : applyEthernetStatic ops ip mask gateway
        (if config.dnsEnabled then config.dns4 else "") config.routeMetric s.control =
        .ok () ((EthernetRequest.setStatic ip mask gateway dns).perform ops replies configDir s).2.control := by
      rw [← happlied, hconfig]
      rfl
    unfold wp at hwp
    rw [happly] at hwp
    exact hwp
  have hsafe : isSafeIface s.control.plane.names.eth = true := by
    simp [PortCall.malformed] at hwell
    exact hwell.1.1
  obtain ⟨hnamed, hiface⟩ := fitsLine_of_isSafeIface hsafe
  have hsaveable : Saveable config := by
    rw [hconfig]
    exact ⟨hnamed, hiface, .inl rfl, show (-2147483648 : Int) ≤ 10 by decide,
      show (10 : Int) ≤ 2147483647 by decide⟩
  rw [hfiles, load_serialize_iff hsaveable, hconfig]
  exact ⟨fun h => ⟨h.ip4, h.netmask4, h.gateway4, h.dns4⟩, fun h => ⟨h.1, h.2.1, h.2.2.1, h.2.2.2⟩⟩

theorem accepted_static_reloads_iff_staticRequest :
    let result := staticRequest.perform configuratorPorts {} "" unmanagedDaemon
    loadEthernetConfig result.2.files.committed "eth0" =
      { iface := "eth0", method := "static", ip4 := "192.168.1.50", netmask4 := "255.255.255.0"
        gateway4 := "192.168.1.1", dns4 := "192.168.1.1" } := by
  have haccepted : (staticRequest.perform configuratorPorts {} "" unmanagedDaemon).1 =
      .ok { iface := "eth0", method := "static", ip4 := "192.168.1.50", netmask4 := "255.255.255.0"
            gateway4 := "192.168.1.1", dns4 := "192.168.1.1" } := by decide +kernel
  exact (accepted_static_reloads_iff configuratorPorts configuratorPorts_validates {} "" "192.168.1.50"
    "255.255.255.0" "192.168.1.1" "192.168.1.1" unmanagedDaemon haccepted).mpr (by decide)

/-- Ethernet is left alone and may have no route. -/
def wifiOnlyDaemon : EthernetDaemon Unit :=
  ⟨{}, after (setRoutePolicy configuratorPorts .wifiOnly) (fresh .standard ())⟩

/-- A gateway with a second line in it is accepted as static, and the file says DHCP. -/
theorem accepted_static_loads_as_dhcp :
    let request := EthernetRequest.setStatic "192.168.1.50" "255.255.255.0"
      "192.168.1.1\nmethod=dhcp" ""
    let result := request.perform configuratorPorts {} "" wifiOnlyDaemon
    let accepted : EthernetConfig :=
      { iface := "eth0", method := "static", ip4 := "192.168.1.50", netmask4 := "255.255.255.0"
        gateway4 := "192.168.1.1\nmethod=dhcp", dnsEnabled := false }
    result.1 = .ok accepted ∧
      loadEthernetConfig result.2.files.committed "eth0" =
        { accepted with method := "dhcp", gateway4 := "192.168.1.1" } ∧
      loadEthernetConfig result.2.files.committed "eth0" ≠ accepted := by
  decide +kernel

end Daemon

end NetworkService
