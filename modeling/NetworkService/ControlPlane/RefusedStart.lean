import NetworkService.ControlPlane.Records

/-!
# What a refused DHCP start leaves behind

`start_dhcp` asks the platform last.  By then it has withdrawn the route, cleared the address and
forgotten the records of the interface, and a refusal brings none of that back.
-/

namespace NetworkService.ControlPlane

open Fallible

variable {W : Type} (ops : NetworkControlPlaneOps W) (iface : String)

/-! ### The parts of `start_dhcp` -/

/-- `start_dhcp` up to the point where it turns to the address. -/
def releaseLink : Op W Unit := do
  require ((← getPlane).knownIface iface) "unknown DHCP interface"
  require (ops.available .startDhcp && ops.available .stopDhcp && ops.available .clearLease)
    "DHCP platform ports are unavailable"
  clearOwnedRouteLocked ops iface
  let _ ← invoke ops (.stopDhcp iface)
  let _ ← invoke ops (.clearLease iface)

def clearAddress : Op W Unit :=
  when (ops.available .clearIpv4) do
    let _ ← invoke ops (.clearIpv4 iface)

def forgetLink : Op W Unit := do
  modifyPlane fun p => p.setLink iface {}
  modifyPlane fun p => if iface = p.names.eth then { p with staticEth := {} } else p
  recomputeDnsLocked ops

/-- All of `start_dhcp` before the platform is asked to start. -/
def prepareDhcp : Op W Unit := do
  releaseLink ops iface
  clearAddress ops iface
  forgetLink ops iface

theorem startDhcp_eq : startDhcp ops iface = (do
    prepareDhcp ops iface
    check (← invoke ops (.startDhcp iface))
    modifyPlane fun p => p.setLink iface { p.linkFor iface with managedDhcp := true }) := by
  unfold startDhcp prepareDhcp releaseLink clearAddress forgetLink
  simp only [bind_assoc]
  rfl

/-- The platform is asked to start and refuses. -/
def StartRefused (s : Run W) : Prop :=
  ∃ u e w, prepareDhcp ops iface s = .ok () u ∧ ops.call (.startDhcp iface) u.world = (.error e, w)

/-- How often the address of `iface` was cleared. -/
def addressClears (s : Run W) : ℕ :=
  s.log.countP fun event => event.call = .clearIpv4 iface ∧ event.ok

/-- There is a port to clear addresses, and the platform that `start_dhcp` asks does so. -/
def ClearsAddress (s : Run W) : Prop :=
  ops.available .clearIpv4 = true ∧
    (ops.call (.clearIpv4 iface) (after (releaseLink ops iface) s).world).1.isOk = true

instance (s : Run W) : Decidable (ClearsAddress ops iface s) := inferInstanceAs (Decidable (_ ∧ _))

/-! ### What each part does -/

section Parts

variable {ops iface} {s t : Run W}

/-- A call that is not a clear of this address does not count. -/
theorem addressClears_record (s : Run W) (c : PortCall) (r : c.Reply) (w : W)
    (hc : c ≠ .clearIpv4 iface) : addressClears iface (s.record c r w) = addressClears iface s := by
  unfold addressClears
  rw [record_log, List.countP_cons_of_neg]
  simp only [hc, false_and, decide_false, Bool.false_eq_true, not_false_eq_true]

theorem clearOwnedRouteLocked_keeps (i : String) :
    Along (Framing (addressClears iface)) (clearOwnedRouteLocked ops i) := by
  refine clearOwnedRouteLocked_of_calls (fun c hc s => addressClears_record s c _ _ ?_)
    (fun _ _ _ => rfl) i
  rintro rfl
  cases hc

theorem recomputeDnsLocked_keeps :
    Along (Framing (addressClears iface)) (recomputeDnsLocked ops) := by
  have hsteps : DnsSteps ops (Framing (addressClears (W := W) iface)) := by
    refine ⟨fun c hc s => ?_, fun f hf s => ?_⟩
    · refine addressClears_record s c _ _ ?_
      rintro rfl
      cases hc
    · rfl
  exact hsteps.recomputeDns

/-- Before the address neither the records nor the count are touched. -/
theorem releaseLink_keeps :
    Along (Framing fun s : Run W => (s.plane.config, addressClears iface s))
      (releaseLink ops iface) := by
  have hcall : ∀ c : PortCall, c ≠ .clearIpv4 iface →
      Along (Framing fun s : Run W => (s.plane.config, addressClears iface s)) (invoke ops c) := by
    intro c hc s
    exact Prod.ext rfl (addressClears_record s c _ (ops.call c s.world).2 hc)
  unfold releaseLink
  refine Along.bind along_getPlane fun p => ?_
  refine Along.guard fun _ => Along.guard fun _ => ?_
  refine Along.bind (fun s => ?_) fun _ => ?_
  · exact Prod.ext (clearOwnedRouteLocked_config ops iface s) (clearOwnedRouteLocked_keeps iface s)
  · exact Along.bind (hcall _ nofun) fun _ => Along.bind (hcall _ nofun) fun _ => Along.pure ()

/-- The address is cleared at most once. -/
theorem clearAddress_clears : (after (clearAddress ops iface) s).plane = s.plane ∧
    addressClears iface (after (clearAddress ops iface) s) = addressClears iface s +
      if ops.available .clearIpv4 = true ∧ (ops.call (.clearIpv4 iface) s.world).1.isOk = true
        then 1 else 0 := by
  unfold clearAddress
  cases havail : ops.available .clearIpv4 with
  | false => exact ⟨rfl, by simp [after, when]⟩
  | true =>
    refine ⟨rfl, ?_⟩
    show addressClears iface (s.record (.clearIpv4 iface) (ops.call (.clearIpv4 iface) s.world).1
      (ops.call (.clearIpv4 iface) s.world).2) = _
    unfold addressClears
    rw [record_log]
    cases hok : (ops.call (.clearIpv4 iface) s.world).1.isOk with
    | false =>
      rw [List.countP_cons_of_neg]
      · simp
      · simp [PortCall.succeeded, hok]
    | true =>
      rw [List.countP_cons_of_pos]
      · simp
      · simp [PortCall.succeeded, hok]

/-- The records of the interface are dropped, whatever the DNS pass does. -/
theorem forgetLink_forgets :
    (after (forgetLink ops iface) s).plane.links = (s.plane.reset iface).links ∧
      addressClears iface (after (forgetLink ops iface) s) = addressClears iface s := by
  have hrun : after (forgetLink ops iface) s =
      after (recomputeDnsLocked ops) { s with plane := s.plane.reset iface } := rfl
  rw [hrun]
  exact ⟨recomputeDnsLocked_links ops _, recomputeDnsLocked_keeps _⟩

end Parts

/-! ### The refused start -/

section Refused

variable {ops iface} {s : Run W}

/-- A refused start fails, with the records that were left before the platform was asked. -/
theorem startDhcp_refused (h : StartRefused ops iface s) :
    ∃ u e w, prepareDhcp ops iface s = .ok () u ∧
      startDhcp ops iface s = .error e (u.record (.startDhcp iface) (.error e) w) := by
  obtain ⟨u, e, w, hprepare, hcall⟩ := h
  refine ⟨u, e, w, hprepare, ?_⟩
  rw [startDhcp_eq, run_bind, hprepare]
  simp [hcall, check]

theorem staticEth_reset_eq (p : NetworkControlPlane) (iface : String) :
    (p.reset iface).staticEth = if iface = p.names.eth then {} else p.staticEth := by
  unfold NetworkControlPlane.reset NetworkControlPlane.setLink
  by_cases hi : iface = p.names.eth <;> simp [hi]

/-- **A refused start has not disturbed the interface exactly if there was nothing to disturb**: its
link record was empty already, and with it the static record if it is the Ethernet device, and its
address was not cleared, for want of a port or because the platform refused that too. -/
theorem refused_start_undisturbed_iff (h : StartRefused ops iface s) :
    (addressClears iface (after (startDhcp ops iface) s) = addressClears iface s ∧
      (after (startDhcp ops iface) s).plane.linkFor iface = s.plane.linkFor iface ∧
      (after (startDhcp ops iface) s).plane.staticEth = s.plane.staticEth) ↔
    ¬ClearsAddress ops iface s ∧ s.plane.linkFor iface = {} ∧
      (iface = s.plane.names.eth → s.plane.staticEth = {}) := by
  obtain ⟨u, e, w, hprepare, hrun⟩ := startDhcp_refused h
  obtain ⟨⟨⟩, r, hrelease, hrest⟩ := bind_eq_ok hprepare
  obtain ⟨⟨⟩, c, hclear, hforget⟩ := bind_eq_ok hrest
  have hreleased := @releaseLink_keeps W ops iface s
  have hcleared := @clearAddress_clears W ops iface r
  have hforgot := @forgetLink_forgets W ops iface c
  rw [after_ok hrelease, Framing, Prod.mk.injEq] at hreleased
  rw [after_ok hclear] at hcleared
  rw [after_ok hforget] at hforgot
  obtain ⟨hconfig, hcount⟩ := hreleased
  have hnames : c.plane.names = s.plane.names := by
    rw [hcleared.1]
    exact congrArg (·.names) hconfig
  have hstatic : c.plane.staticEth = s.plane.staticEth := by
    rw [hcleared.1]
    exact congrArg (·.staticEth) hconfig
  have hlink' : u.plane.linkFor iface = {} := by
    have hlinks : u.plane.links.linkFor iface = (c.plane.reset iface).links.linkFor iface := by
      rw [hforgot.1]
    exact hlinks.trans (NetworkControlPlane.linkFor_reset (p := c.plane))
  have hstatic' : u.plane.staticEth =
      if iface = s.plane.names.eth then {} else s.plane.staticEth := by
    have hlinks : u.plane.links.staticEth = (c.plane.reset iface).links.staticEth := by
      rw [hforgot.1]
    rw [← hnames, ← hstatic, ← staticEth_reset_eq]
    exact hlinks
  have hclears : addressClears iface (u.record (.startDhcp iface) (.error e) w) =
      addressClears iface s + if ClearsAddress ops iface s then 1 else 0 := by
    rw [addressClears_record u (.startDhcp iface) (.error e) w nofun, hforgot.2, hcleared.2, hcount]
    simp only [ClearsAddress, after_ok hrelease]
  rw [after_error hrun, hclears, record_plane, hlink', hstatic']
  refine and_congr ?_ (and_congr eq_comm ?_)
  · by_cases hcleared : ClearsAddress ops iface s
    · rw [if_pos hcleared]
      exact iff_of_false (by omega) (not_not_intro hcleared)
    · rw [if_neg hcleared]
      exact iff_of_true rfl hcleared
  · by_cases hi : iface = s.plane.names.eth
    · rw [if_pos hi, forall_prop_of_true hi]
      exact eq_comm
    · rw [if_neg hi]
      exact iff_of_true rfl fun h => absurd h hi

end Refused

/-- A platform on which another DHCP client holds the interface. -/
def conflictingClient : NetworkControlPlaneOps Unit where
  available _ := true
  call
    | .startDhcp _, w => (.error "conflicting DHCP process prevents NetworkService ownership", w)
    | c, w => (c.idleReply, w)

/-- Static Ethernet has been configured there. -/
def configuredRun : Run Unit :=
  after (applyEthernetStatic conflictingClient "192.168.50.20" "255.255.255.0" "192.168.50.1" "1.1.1.1"
    10) (fresh .standard ())

theorem startRefused_conflictingClient : StartRefused conflictingClient "eth0" configuredRun :=
  ⟨_, _, _, rfl, rfl⟩

theorem refused_start_undisturbed_iff_conflictingClient :
    configuredRun.plane.staticEth.active = true ∧
    ((addressClears "eth0" (after (startDhcp conflictingClient "eth0") configuredRun) =
        addressClears "eth0" configuredRun ∧
      (after (startDhcp conflictingClient "eth0") configuredRun).plane.linkFor "eth0" =
        configuredRun.plane.linkFor "eth0" ∧
      (after (startDhcp conflictingClient "eth0") configuredRun).plane.staticEth =
        configuredRun.plane.staticEth) ↔
    ¬ClearsAddress conflictingClient "eth0" configuredRun ∧
      configuredRun.plane.linkFor "eth0" = {} ∧
      ("eth0" = configuredRun.plane.names.eth → configuredRun.plane.staticEth = {})) :=
  ⟨by decide +kernel, refused_start_undisturbed_iff startRefused_conflictingClient⟩

/-- The start is refused because of another client, and the address is cleared all the same. -/
theorem refused_start_clears_address :
    ¬∀ (ops : NetworkControlPlaneOps Unit) (iface : String) (s : Run Unit), StartRefused ops iface s →
      addressClears iface (after (startDhcp ops iface) s) = addressClears iface s ∧
      (after (startDhcp ops iface) s).plane.linkFor iface = s.plane.linkFor iface ∧
      (after (startDhcp ops iface) s).plane.staticEth = s.plane.staticEth := by
  intro h
  have hkept := (h conflictingClient "eth0" configuredRun startRefused_conflictingClient).1
  revert hkept
  decide +kernel

end NetworkService.ControlPlane
