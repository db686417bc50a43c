import NetworkService.ControlPlane.Records
import NetworkService.Platform.ResolverFile

/-!
# Who owns the resolver

The control plane keeps in memory whether the resolver file is its own; the file says so with its
first line, and anybody may replace it.  The resolver ports are those of `NetworkConfigurator` on a
file that somebody else may replace before every call.  In every run memory and file agree wherever
it matters: the file of another owner is replaced only by a nameserver just selected, and from the
first DNS pass on a marked file has an owner that will give it up.
-/

namespace NetworkService.ControlPlane

open Fallible Platform

variable {W : Type}

/-! ### Ports on a shared file -/

/-- A file without the marker. -/
abbrev ForeignFile := { file : ResolverFile // dnsFileOwnedByNetworkService file = false }

/-- What a call found in the resolver file and what it left there. -/
structure FileStep where
  found : ResolverFile
  left : ResolverFile

/-- The machine with its resolver file and every call's view of it, newest first. -/
structure ResolverWorld (W : Type) where
  file : ResolverFile
  rest : W
  steps : List FileStep := []

/-- The configurator on the file that a call finds.  `answer` is what the platform has to say: for
the resolver calls, whether the call fails. -/
def resolverCall : (c : PortCall) → c.Reply → ResolverFile → c.Reply × ResolverFile
  | .setDns dns4, answer, found =>
    match answer with
    | .error e => (.error e, found)
    | .ok () =>
      match setPrimaryDns dns4 with
      | .error e => (.error e, found)
      | .ok file => (.ok (), file)
  | .clearDns, answer, found =>
    match answer with
    | .error e => (.error e, found)
    | .ok () => (.ok (), clearDns found)
  | .snapshot, live, found =>
    ({ live with
        dns4 := (readDnsFact found).dns4
        dnsAvailable := decide ((readDnsFact found).dns4 ≠ "")
        dnsManagedByNetworkService := (readDnsFact found).managedByNetworkService }, found)
  | .startDhcp _, answer, found | .stopDhcp _, answer, found | .readLease _, answer, found
  | .clearLease _, answer, found | .applyIpv4 _ _ _, answer, found | .clearIpv4 _, answer, found
  | .setDefaultRoute _ _ _, answer, found | .clearDefaultRoute _ _ _, answer, found =>
    (answer, found)

/-- The file that a call finds: `replaced` says whether somebody else has written it since the call
before. -/
def ResolverWorld.found (replaced : W → Option ForeignFile) (w : ResolverWorld W) : ResolverFile :=
  match replaced w.rest with
  | some file => file.1
  | none => w.file

/-- The ports of the daemon: `set_dns`, `clear_dns` and `snapshot` are wired to the file, the others
to a platform that may do anything. -/
def NetworkControlPlaneOps.resolving (ops : NetworkControlPlaneOps W)
    (replaced : W → Option ForeignFile) : NetworkControlPlaneOps (ResolverWorld W) where
  available
    | .setDns | .clearDns | .snapshot => true
    | port => ops.available port
  call c w :=
    let answer := ops.call c w.rest
    let outcome := resolverCall c answer.1 (w.found replaced)
    (outcome.1, ⟨outcome.2, answer.2, ⟨w.found replaced, outcome.2⟩ :: w.steps⟩)

/-- What an operation does before its first DNS pass; it stops where the operation ends without one. -/
def Operation.untilDns (ops : NetworkControlPlaneOps W) : Operation → Op W Unit
  | .startDhcp iface => do
    require ((← getPlane).knownIface iface) "unknown DHCP interface"
    require (ops.available .startDhcp && ops.available .stopDhcp && ops.available .clearLease)
      "DHCP platform ports are unavailable"
    clearOwnedRouteLocked ops iface
    let _ ← invoke ops (.stopDhcp iface)
    let _ ← invoke ops (.clearLease iface)
    when (ops.available .clearIpv4) do
      let _ ← invoke ops (.clearIpv4 iface)
    modifyPlane fun p => p.setLink iface {}
    modifyPlane fun p => if iface = p.names.eth then { p with staticEth := {} } else p
  | .stopDhcp iface => do
    require ((← getPlane).knownIface iface) "unknown DHCP interface"
    let _ ← attempt (clearOwnedRouteLocked ops iface)
    when (ops.available .stopDhcp) do
      let _ ← invoke ops (.stopDhcp iface)
    when (ops.available .clearLease) do
      let _ ← invoke ops (.clearLease iface)
    when (ops.available .clearIpv4) do
      let _ ← invoke ops (.clearIpv4 iface)
    modifyPlane fun p => p.setLink iface {}
  | .adoptDhcp _ => throw "no DNS pass"
  | .applyEthernetStatic ip4 netmask4 gateway4 dns4 manualMetric => do
    require (ops.available .applyIpv4 && ops.available .stopDhcp && ops.available .clearLease)
      "static IPv4 platform ports are unavailable"
    let eth := (← getPlane).names.eth
    clearOwnedRouteLocked ops eth
    let _ ← invoke ops (.stopDhcp eth)
    let _ ← invoke ops (.clearLease eth)
    modifyPlane fun p => { p with eth := {}, staticEth := {} }
    check (← invoke ops (.applyIpv4 eth ip4 netmask4))
    modifyPlane fun p =>
      { p with staticEth := ⟨true, ip4, netmask4, gateway4, dns4, manualMetric⟩ }
    applyRoutesLocked ops
  | .reconcile => do
    let _ ← reconcileLinks ops
    repairOwnedStateLocked ops
  | .reconcileChanged => do
    let changed ← reconcileLinks ops
    require (changed.1 || changed.2 || !(← getPlane).dnsOwnershipInitialized) "no DNS pass"
  | .refreshExternalState => repairOwnedStateLocked ops
  | .setRoutePolicy policy => do
    let previous := (← getPlane).routePolicy
    modifyPlane fun p => { p with routePolicy := policy }
    match ← attempt (applyRoutesLocked ops) with
    | .ok () => pure ()
    | .error _ => do
      modifyPlane fun p => { p with routePolicy := previous }
      let _ ← attempt (applyRoutesLocked ops)

/-- The run when the first DNS pass of an operation is over. -/
def Operation.firstDnsPass (ops : NetworkControlPlaneOps W) (op : Operation) (s : Run W) :
    Option (Run W) :=
  match op.untilDns ops s with
  | .ok _ t => some (after (recomputeDnsLocked ops) t)
  | .error _ _ => none

/-- The runs of a control plane with these ports.  Between two operations the platform may change and
somebody else may replace the file.  The number is that of the calls issued when the first DNS pass
was over. -/
inductive ResolverRun (ops : NetworkControlPlaneOps W) (replaced : W → Option ForeignFile) :
    Option Nat → Run (ResolverWorld W) → Prop
  | fresh (names : IfaceNames) (file : ResolverFile) (rest : W) :
      ResolverRun ops replaced none (fresh names ⟨file, rest, []⟩)
  | perform {first : Option Nat} {s : Run (ResolverWorld W)} (op : Operation) :
      ResolverRun ops replaced first s →
      ResolverRun ops replaced
        (first.or ((op.firstDnsPass (ops.resolving replaced) s).map fun t => t.log.length))
        (after (op.perform (ops.resolving replaced)) s)
  | environment {first : Option Nat} {s : Run (ResolverWorld W)} (rest : W) :
      ResolverRun ops replaced first s →
      ResolverRun ops replaced first { s with world := { s.world with rest := rest } }
  | rewritten {first : Option Nat} {s : Run (ResolverWorld W)} (file : ForeignFile) :
      ResolverRun ops replaced first s →
      ResolverRun ops replaced first { s with world := { s.world with file := file.1 } }

/-! ### What is selected -/

/-- The policy switch selects `dns4`, the nameserver of an active link. -/
structure NetworkControlPlane.SelectsDns (p : NetworkControlPlane) (dns4 : String) : Prop where
  decided : ∃ ethLive, p.dnsDecision ethLive = .select dns4
  nonempty : dns4 ≠ ""
  active : (p.staticEth.active = true ∧ dns4 = p.staticEth.dns4) ∨
    (p.eth.active = true ∧ dns4 = p.eth.lease.dns4) ∨
    (p.wifi.active = true ∧ dns4 = p.wifi.lease.dns4)

namespace NetworkControlPlane

variable {p : NetworkControlPlane}

theorem ethDns_active (h : p.ethDnsUsable = true) :
    (p.staticEth.active = true ∧ p.ethDns = p.staticEth.dns4) ∨
      (p.eth.active = true ∧ p.ethDns = p.eth.lease.dns4) := by
  simp only [ethDnsUsable, staticEthRoute, dhcpEthRoute, decide_eq_true_eq] at h
  unfold ethDns
  cases hstatic : p.staticEth.active with
  | true => exact Or.inl ⟨rfl, rfl⟩
  | false =>
    rw [hstatic] at h
    exact Or.inr ⟨(h.1.resolve_left fun hroute => nomatch hroute.1).1, rfl⟩

theorem wifi_active_of_route (h : p.dhcpWifiRoute = true) : p.wifi.active = true := by
  simp only [dhcpWifiRoute, decide_eq_true_eq] at h
  exact h.1

/-- The interface that is selected has an active link. -/
theorem dnsSource_cases {ethLive : Bool} {iface : String} (h : p.dnsSource ethLive = some iface) :
    (iface = p.names.wifi ∧ p.dhcpWifiRoute = true) ∨
      (iface = p.names.eth ∧ p.ethDnsUsable = true) := by
  have hwifi : p.wifiDnsUsable = true → p.dhcpWifiRoute = true := by
    intro husable
    simp only [wifiDnsUsable, decide_eq_true_eq] at husable
    exact husable.1
  unfold dnsSource at h
  cases hpolicy : p.routePolicy
  all_goals
    simp only [hpolicy] at h
    grind

theorem selectsDns_of_decision {ethLive : Bool} {dns4 : String}
    (h : p.dnsDecision ethLive = .select dns4) (hne : dns4 ≠ "") : p.SelectsDns dns4 := by
  refine ⟨⟨ethLive, h⟩, hne, ?_⟩
  rw [dnsDecision_source] at h
  cases hsource : p.dnsSource ethLive with
  | none =>
    rw [hsource] at h
    dsimp only at h
    split at h
    · cases h
    · exact absurd (DnsDecision.select.inj h).symm hne
  | some iface =>
    rw [hsource] at h
    obtain rfl := DnsDecision.select.inj h
    rcases dnsSource_cases hsource with ⟨rfl, hroute⟩ | ⟨rfl, husable⟩
    · have hdns : p.dnsOf p.names.wifi = p.wifiDns := if_neg (Ne.symm p.names.distinct)
      exact Or.inr (Or.inr ⟨wifi_active_of_route hroute, hdns⟩)
    · have hdns : p.dnsOf p.names.eth = p.ethDns := if_pos rfl
      rw [hdns]
      exact (ethDns_active husable).imp_right Or.inl

end NetworkControlPlane

/-! ### The invariant -/

/-- A file that is not the service's is left as it was found, or replaced by a nameserver just
selected. -/
def SparesForeign (x : PortEvent × FileStep) : Prop :=
  dnsFileOwnedByNetworkService x.2.found = false →
    x.2.left = x.2.found ∨
      ∃ dns4, x.1.call = .setDns dns4 ∧ x.2.left = some (resolverText dns4) ∧
        x.1.plane.SelectsDns dns4

/-- A marked file has an owner in memory. -/
def HasOwner (p : NetworkControlPlane) (file : ResolverFile) : Prop :=
  dnsFileOwnedByNetworkService file = true → p.managedDns = true

/-- Once ownership is initialized, a marked file has an owner. -/
def Owns (p : NetworkControlPlane) (file : ResolverFile) : Prop :=
  p.dnsOwnershipInitialized = true → HasOwner p file

/-- Every call of the run with its view of the file, newest first. -/
def Run.fileSteps (s : Run (ResolverWorld W)) : List (PortEvent × FileStep) :=
  s.log.zip s.world.steps

/-- Every call so far spared foreign files and found an owned one only with its owner. -/
structure Lawful (s : Run (ResolverWorld W)) : Prop where
  paired : s.world.steps.length = s.log.length
  spares : ∀ x ∈ s.fileSteps, SparesForeign x
  owned : ∀ x ∈ s.fileSteps, Owns x.1.plane x.2.found

/-- Memory and file agree. -/
structure Owning (s : Run (ResolverWorld W)) : Prop extends Lawful s where
  owner : Owns s.plane s.world.file

variable {ops : NetworkControlPlaneOps W} {replaced : W → Option ForeignFile}

/-- What somebody else leaves needs no owner. -/
theorem Owns.found {s : Run (ResolverWorld W)} (h : Owns s.plane s.world.file) :
    Owns s.plane (s.world.found replaced) := by
  unfold ResolverWorld.found
  cases replaced s.world.rest with
  | none => exact h
  | some file =>
    intro _ howned
    exact absurd howned (by rw [file.2]; decide)

/-- A call that spares a foreign file keeps the history lawful. -/
theorem Lawful.call {s : Run (ResolverWorld W)} (h : Owning s) (c : PortCall)
    (hspares : SparesForeign
      (⟨s.plane, c, c.succeeded ((ops.resolving replaced).call c s.world).1⟩,
        ⟨s.world.found replaced, ((ops.resolving replaced).call c s.world).2.file⟩)) :
    Lawful (after (invoke (ops.resolving replaced) c) s) := by
  refine ⟨congrArg (· + 1) h.paired, ?_, ?_⟩
  · intro x hx
    rcases List.mem_cons.mp hx with rfl | hx
    · exact hspares
    · exact h.spares x hx
  · intro x hx
    rcases List.mem_cons.mp hx with rfl | hx
    · exact h.owner.found
    · exact h.owned x hx

/-- Only the two writers change the file. -/
theorem resolving_file {c : PortCall} (hc : c.writesDns = false) (w : ResolverWorld W) :
    ((ops.resolving replaced).call c w).2.file = w.found replaced := by
  cases c with
  | setDns dns4 => exact nomatch hc
  | clearDns => exact nomatch hc
  | startDhcp | stopDhcp | readLease | clearLease | applyIpv4 | clearIpv4 | setDefaultRoute
  | clearDefaultRoute | snapshot => rfl

theorem Owning.call {s : Run (ResolverWorld W)} (h : Owning s) {c : PortCall}
    (hc : c.writesDns = false) : Owning (after (invoke (ops.resolving replaced) c) s) := by
  have hfile : ((ops.resolving replaced).call c s.world).2.file = s.world.found replaced :=
    resolving_file hc s.world
  refine ⟨Lawful.call h c fun _ => Or.inl hfile, ?_⟩
  show Owns s.plane ((ops.resolving replaced).call c s.world).2.file
  rw [hfile]
  exact h.owner.found

/-- A clear gives an owned file up, if it does anything. -/
theorem resolving_clearDns (w : ResolverWorld W) :
    (((ops.resolving replaced).call .clearDns w).1 = .ok () ∧
        ((ops.resolving replaced).call .clearDns w).2.file = clearDns (w.found replaced)) ∨
      ∃ e, ((ops.resolving replaced).call .clearDns w).1 = .error e ∧
        ((ops.resolving replaced).call .clearDns w).2.file = w.found replaced := by
  dsimp only [NetworkControlPlaneOps.resolving, resolverCall]
  cases (ops.call .clearDns w.rest).1 with
  | ok _ => exact Or.inl ⟨rfl, rfl⟩
  | error e => exact Or.inr ⟨e, rfl, rfl⟩

/-- A write leaves the nameserver under the marker, if it does anything. -/
theorem resolving_setDns (dns4 : String) (w : ResolverWorld W) :
    (((ops.resolving replaced).call (.setDns dns4) w).1 = .ok () ∧
        ((ops.resolving replaced).call (.setDns dns4) w).2.file = some (resolverText dns4)) ∨
      ∃ e, ((ops.resolving replaced).call (.setDns dns4) w).1 = .error e ∧
        ((ops.resolving replaced).call (.setDns dns4) w).2.file = w.found replaced := by
  dsimp only [NetworkControlPlaneOps.resolving, resolverCall]
  cases (ops.call (.setDns dns4) w.rest).1 with
  | error e => exact Or.inr ⟨e, rfl, rfl⟩
  | ok _ =>
    cases hset : setPrimaryDns dns4 with
    | error e => exact Or.inr ⟨e, rfl, rfl⟩
    | ok file => exact Or.inl ⟨rfl, setPrimaryDns_eq_ok hset⟩

theorem resolving_wired :
    (ops.resolving replaced).available .setDns = true ∧
      (ops.resolving replaced).available .clearDns = true ∧
      (ops.resolving replaced).available .snapshot = true :=
  ⟨rfl, rfl, rfl⟩

/-! ### A DNS pass -/

section Pass

variable {s : Run (ResolverWorld W)} (h : Owning s)

include h

/-- Memory learns from the snapshot what the marker says. -/
theorem initializeDnsOwnership_owning :
    wp (initializeDnsOwnership (ops.resolving replaced)) (fun _ t => Owning t) (fun _ => Owning) s := by
  have hlooked : Owning (after (invoke (ops.resolving replaced) .snapshot) s) := h.call rfl
  unfold initializeDnsOwnership
  rw [wp_bind, wp_getPlane, wp_ite]
  split
  · exact h
  · rw [wp_ite, if_pos resolving_wired.2.2, wp_bind, wp_invoke, wp_bind, wp_modifyPlane, wp_pure]
    refine ⟨⟨hlooked.paired, hlooked.spares, hlooked.owned⟩, fun _ howned => ?_⟩
    show (readDnsFact (s.world.found replaced)).managedByNetworkService = true
    rw [readDnsFact_managed]
    exact howned

theorem loadLive_owning (live : Option NetworkSnapshot) :
    wp (loadLive (ops.resolving replaced) live) (fun _ t => Owning t ∧ t.plane = s.plane)
      (fun _ => Owning) s := by
  cases live with
  | none => exact wp_invoke.mpr ⟨h.call rfl, rfl⟩
  | some current => exact ⟨h, rfl⟩

/-- The decision is the one that the records allow. -/
theorem selectDns_owning (live : Option NetworkSnapshot) :
    wp (selectDns (ops.resolving replaced) live)
      (fun choice t => Owning t ∧ ∃ ethLive, choice.1 = t.plane.dnsDecision ethLive)
      (fun _ => Owning) s := by
  unfold selectDns
  rw [wp_bind, wp_getPlane]
  refine wp_split (fun _ => ?_) fun _ => ⟨h, false, rfl⟩
  rw [wp_bind]
  refine wp_mono (loadLive_owning h live) (fun current t ht => ?_) fun _ _ ht => ht
  rw [wp_pure]
  exact ⟨ht.1, current.eth.hasDefaultRoute, by rw [ht.2]⟩

/-- What is given up is not marked any more. -/
theorem releaseDns_owning :
    wp (releaseDns (ops.resolving replaced)) (fun _ => Owning) (fun _ => Owning) s := by
  unfold releaseDns
  rw [wp_bind, wp_getPlane]
  refine wp_split (fun _ => ?_) fun _ => h
  rw [wp_bind, wp_require, if_pos resolving_wired.2.1, wp_bind]
  refine wp_invoke.mpr ?_
  rw [wp_bind, wp_check]
  have hlawful : ∀ file, ((ops.resolving replaced).call .clearDns s.world).2.file = file →
      file = clearDns (s.world.found replaced) ∨ file = s.world.found replaced →
      Lawful (after (invoke (ops.resolving replaced) .clearDns) s) := by
    intro file hleft hfile
    refine Lawful.call h .clearDns fun hforeign => Or.inl ?_
    rcases hfile with hfile | hfile
    · exact hleft.trans (hfile.trans (clearDns_foreign hforeign))
    · exact hleft.trans hfile
  rcases @resolving_clearDns W ops replaced s.world with
    ⟨hreply, hfile⟩ | ⟨e, hreply, hfile⟩
  · have hcleared := hlawful _ hfile (Or.inl rfl)
    refine ⟨fun _ _ => ⟨⟨hcleared.paired, hcleared.spares, hcleared.owned⟩, fun _ howned => ?_⟩,
      fun e' he => ?_⟩
    · have hleft : dnsFileOwnedByNetworkService
          ((ops.resolving replaced).call .clearDns s.world).2.file = true := howned
      rw [hfile, clearDns_unowned] at hleft
      cases hleft
    · rw [hreply] at he
      cases he
  · refine ⟨fun _ hok => ?_, fun _ _ => ⟨hlawful _ hfile (Or.inr rfl), ?_⟩⟩
    · rw [hreply] at hok
      cases hok
    · show Owns s.plane ((ops.resolving replaced).call .clearDns s.world).2.file
      rw [hfile]
      exact h.owner.found

/-- What is written is the nameserver of an active link. -/
theorem setDns_owning {dns4 : String} (hselects : s.plane.SelectsDns dns4) :
    wp (do
      require ((ops.resolving replaced).available .setDns) "DNS configuration port is unavailable"
      check (← invoke (ops.resolving replaced) (.setDns dns4))
      modifyPlane fun p => { p with managedDns := true, lastDns := dns4 })
      (fun _ => Owning) (fun _ => Owning) s := by
  rw [wp_bind, wp_require, if_pos resolving_wired.1, wp_bind]
  refine wp_invoke.mpr ?_
  rw [wp_bind, wp_check]
  rcases @resolving_setDns W ops replaced dns4 s.world with
    ⟨hreply, hfile⟩ | ⟨e, hreply, hfile⟩
  · have hwritten : Lawful (after (invoke (ops.resolving replaced) (.setDns dns4)) s) :=
      Lawful.call h (.setDns dns4) fun _ => Or.inr ⟨dns4, rfl, hfile, hselects⟩
    refine ⟨fun _ _ => ⟨⟨hwritten.paired, hwritten.spares, hwritten.owned⟩, fun _ _ => rfl⟩,
      fun e he => ?_⟩
    rw [hreply] at he
    cases he
  · refine ⟨fun _ hok => ?_, fun _ _ => ⟨Lawful.call h (.setDns dns4) fun _ => Or.inl hfile, ?_⟩⟩
    · rw [hreply] at hok
      cases hok
    · show Owns s.plane ((ops.resolving replaced).call (.setDns dns4) s.world).2.file
      rw [hfile]
      exact h.owner.found

theorem dnsAlreadyApplied_owning (dns4 : String) (live : Option NetworkSnapshot) :
    wp (dnsAlreadyApplied (ops.resolving replaced) dns4 live)
      (fun _ t => Owning t ∧ t.plane = s.plane) (fun _ => Owning) s := by
  unfold dnsAlreadyApplied
  rw [wp_bind, wp_getPlane]
  refine wp_split (fun _ => ?_) fun _ => ⟨h, rfl⟩
  rw [wp_ite, if_pos resolving_wired.2.2, wp_bind]
  exact wp_mono (loadLive_owning h live) (fun _ _ ht => ht) fun _ _ ht => ht

theorem applyDns_owning {ethLive : Bool} {decision : DnsDecision}
    (hdecision : decision = s.plane.dnsDecision ethLive) (live : Option NetworkSnapshot) :
    wp (applyDns (ops.resolving replaced) decision live) (fun _ => Owning) (fun _ => Owning) s := by
  cases decision with
  | preserveExternal => exact releaseDns_owning h
  | select dns4 =>
    refine wp_split (fun _ => releaseDns_owning h) fun hne => ?_
    rw [wp_bind]
    refine wp_mono (dnsAlreadyApplied_owning h dns4 live) (fun applied t ht => ?_) fun _ _ ht => ht
    refine wp_split (fun _ => ht.1) fun _ => setDns_owning ht.1 ?_
    rw [ht.2]
    exact NetworkControlPlane.selectsDns_of_decision hdecision.symm hne

end Pass

theorem recomputeDnsLocked_owning :
    Along (Keeping Owning) (recomputeDnsLocked (ops.resolving replaced)) := by
  intro s h
  refine after_of_wp ?_
  unfold recomputeDnsLocked
  rw [wp_bind]
  refine wp_mono (initializeDnsOwnership_owning h) (fun live t ht => ?_) fun _ _ ht => ht
  rw [wp_bind]
  refine wp_mono (selectDns_owning ht live) (fun choice u hu => ?_) fun _ _ hu => hu
  obtain ⟨hu, ethLive, hdecision⟩ := hu
  exact applyDns_owning hu hdecision choice.2

/-! ### Whole runs -/

/-- Assignments to other records. -/
theorem modifyPlane_owning {f : NetworkControlPlane → NetworkControlPlane}
    (hf : ∀ p, (f p).dnsOwnershipInitialized = p.dnsOwnershipInitialized ∧
      (f p).managedDns = p.managedDns) : Along (Keeping Owning) (modifyPlane f : Op (ResolverWorld W) _) := by
  intro s h
  refine ⟨⟨h.paired, h.spares, h.owned⟩, fun hinit howned => ?_⟩
  have hinit' : (f s.plane).dnsOwnershipInitialized = true := hinit
  rw [(hf s.plane).1] at hinit'
  exact (hf s.plane).2.trans (h.owner hinit' howned)

theorem setOwnedRoute_dns (p : NetworkControlPlane) (iface : String) (route : OwnedRouteState) :
    (p.setOwnedRoute iface route).dnsOwnershipInitialized = p.dnsOwnershipInitialized ∧
      (p.setOwnedRoute iface route).managedDns = p.managedDns := by
  unfold NetworkControlPlane.setOwnedRoute
  split <;> exact ⟨rfl, rfl⟩

theorem edit_dns {f : NetworkControlPlane → NetworkControlPlane} (hf : Edit f)
    (p : NetworkControlPlane) :
    (f p).dnsOwnershipInitialized = p.dnsOwnershipInitialized ∧ (f p).managedDns = p.managedDns := by
  cases hf with
  | link iface g =>
    show (p.setLink iface (g p)).dnsOwnershipInitialized = _ ∧ (p.setLink iface (g p)).managedDns = _
    unfold NetworkControlPlane.setLink
    split <;> exact ⟨rfl, rfl⟩
  | dropStatic iface =>
    show (if iface = p.names.eth then { p with staticEth := {} } else p).dnsOwnershipInitialized = _ ∧
      (if iface = p.names.eth then { p with staticEth := {} } else p).managedDns = _
    split <;> exact ⟨rfl, rfl⟩
  | dropEthernet | static | policy => exact ⟨rfl, rfl⟩

theorem owningSteps (N : IfaceNames) : PassSteps (ops.resolving replaced) N (Keeping Owning) where
  toRouteSteps := routeSteps_of_calls
    (fun c hc s h => h.call (by cases c <;> first | rfl | exact nomatch hc))
    fun iface route => modifyPlane_owning fun p => setOwnedRoute_dns p iface route
  call c hc s hN := ⟨hN, fun h => h.call (by cases c <;> first | rfl | exact nomatch hc)⟩
  edit f hf s hN := ⟨((namesSteps (ops.resolving replaced) N).edit f hf s hN).1,
    modifyPlane_owning (edit_dns hf) s⟩
  recomputeDns s hN := ⟨((namesSteps (ops.resolving replaced) N).passes.recomputeDns s hN).1,
    recomputeDnsLocked_owning s⟩

theorem adoptDhcp_owning (iface : String) :
    Along (Keeping Owning) (adoptDhcp (ops.resolving replaced) iface) := by
  refine Along.bind along_getPlane fun p => Along.bind (Along.require _ _) fun _ => ?_
  refine Along.bind (Along.require _ _) fun _ => ?_
  refine Along.bind (modifyPlane_owning (edit_dns (.link iface _))) fun _ => ?_
  refine Along.bind (modifyPlane_owning fun p => setOwnedRoute_dns p iface {}) fun _ => ?_
  exact modifyPlane_owning (edit_dns (.dropStatic iface))

theorem perform_owning (op : Operation) :
    Along (Keeping Owning) (op.perform (ops.resolving replaced)) := by
  intro s
  cases op with
  | adoptDhcp iface => exact adoptDhcp_owning iface s
  | startDhcp | stopDhcp | applyEthernetStatic | reconcile | reconcileChanged | refreshExternalState
  | setRoutePolicy =>
    exact ((owningSteps s.plane.names).perform _ (fun _ hop => by cases hop) s rfl).2

theorem ResolverRun.owning {first : Option Nat} {s : Run (ResolverWorld W)}
    (hrun : ResolverRun ops replaced first s) : Owning s := by
  induction hrun with
  | fresh names file rest =>
    have hnone : (ControlPlane.fresh names (⟨file, rest, []⟩ : ResolverWorld W)).fileSteps = [] := rfl
    refine ⟨⟨rfl, fun x hx => ?_, fun x hx => ?_⟩, fun hinit => by cases hinit⟩
    all_goals
      rw [hnone] at hx
      cases hx
  | perform op _ ih => exact perform_owning op _ ih
  | environment rest _ ih => exact ⟨⟨ih.paired, ih.spares, ih.owned⟩, ih.owner⟩
  | rewritten file _ ih =>
    refine ⟨⟨ih.paired, ih.spares, ih.owned⟩, fun _ howned => ?_⟩
    exact absurd howned (by rw [file.2]; decide)

/-! ### From the first DNS pass on -/

/-- Ownership has been initialized. -/
abbrev Initialized (s : Run W) : Prop := s.plane.dnsOwnershipInitialized = true

/-- Where ownership is initialized it stays so, and all calls from there on are issued in such a
state. -/
abbrev Onward : Run W → Run W → Prop :=
  Under Initialized (LogGrows fun e => e.plane.dnsOwnershipInitialized = true)

section Onward

variable (ops : NetworkControlPlaneOps W)

theorem call_onward (c : PortCall) : Along Onward (invoke ops c) :=
  fun _ hs => ⟨hs, LogGrows.record hs⟩

theorem modifyPlane_onward {f : NetworkControlPlane → NetworkControlPlane}
    (hf : ∀ p, p.dnsOwnershipInitialized = true → (f p).dnsOwnershipInitialized = true) :
    Along Onward (modifyPlane f : Op W Unit) :=
  fun s hs => ⟨hf s.plane hs, [], rfl, fun _ hmem => absurd hmem List.not_mem_nil⟩

theorem dnsEdit_onward {f : NetworkControlPlane → NetworkControlPlane} (hf : DnsEdit f) :
    Along Onward (modifyPlane f : Op W Unit) := by
  refine modifyPlane_onward fun p hp => ?_
  cases hf with
  | dns managed last => exact hp
  | initializeDns managed last => rfl
  | initializeBlind => rfl

theorem edit_onward {f : NetworkControlPlane → NetworkControlPlane} (hf : Edit f) :
    Along Onward (modifyPlane f : Op W Unit) :=
  modifyPlane_onward fun p hp => (edit_dns hf p).1.trans hp

theorem setOwnedRoute_onward (iface : String) (route : OwnedRouteState) :
    Along Onward (modifyPlane fun p => p.setOwnedRoute iface route : Op W Unit) :=
  modifyPlane_onward fun p hp => (setOwnedRoute_dns p iface route).1.trans hp

theorem dnsSteps_onward : DnsSteps ops Onward where
  call c _ := call_onward ops c
  edit _ hf := dnsEdit_onward hf

theorem onwardSteps (N : IfaceNames) : Steps ops N Onward where
  toRouteSteps := routeSteps_of_calls (fun c _ => call_onward ops c) setOwnedRoute_onward
  call c _ s hN := ⟨hN, call_onward ops c s⟩
  dnsCall c _ s hN := ⟨hN, call_onward ops c s⟩
  dnsEdit f hf s hN := ⟨((namesSteps ops N).dnsEdit f hf s hN).1, dnsEdit_onward hf s⟩
  edit f hf s hN := ⟨((namesSteps ops N).edit f hf s hN).1, edit_onward hf s⟩

theorem applyRoutesLocked_onward : Along Onward (applyRoutesLocked ops) :=
  fun s => ((onwardSteps ops s.plane.names).applyRoutes s rfl).2

theorem recomputeDnsLocked_onward : Along Onward (recomputeDnsLocked ops) :=
  (dnsSteps_onward ops).recomputeDns

theorem perform_onward (op : Operation) : Along Onward (op.perform ops) := by
  intro s
  cases op with
  | adoptDhcp iface =>
    refine Along.bind along_getPlane (fun p => Along.bind (Along.require _ _) fun _ => ?_) s
    refine Along.bind (Along.require _ _) fun _ => ?_
    refine Along.bind (edit_onward (.link iface _)) fun _ => ?_
    refine Along.bind (setOwnedRoute_onward iface {}) fun _ => ?_
    exact edit_onward (.dropStatic iface)
  | startDhcp | stopDhcp | applyEthernetStatic | reconcile | reconcileChanged | refreshExternalState
  | setRoutePolicy =>
    exact ((onwardSteps ops s.plane.names).perform _ (fun _ hop => by cases hop) s rfl).2

/-- **A DNS pass initializes ownership**, whichever way it ends. -/
theorem recomputeDnsLocked_initializes (s : Run W) :
    Initialized (after (recomputeDnsLocked ops) s) := by
  have hrest : ∀ live, Along Onward (do
      let choice ← selectDns ops live
      applyDns ops choice.1 choice.2) := by
    intro live
    refine Along.bind ?_ fun choice => (dnsSteps_onward ops).applyDns _ _
    refine Along.bind along_getPlane fun p => Along.ite ?_ (Along.pure _)
    exact Along.bind ((dnsSteps_onward ops).loadLive live) fun _ => Along.pure _
  have hinit : wp (initializeDnsOwnership ops) (fun _ t => Initialized t) (fun _ _ => False) s := by
    unfold initializeDnsOwnership
    rw [wp_bind, wp_getPlane]
    refine wp_split (fun hinit => hinit) fun _ => wp_split (fun _ => ?_) fun _ => ?_
    · rw [wp_bind]
      exact wp_invoke.mpr rfl
    · exact wp_bind.mpr rfl
  refine after_of_wp (I := Initialized) ?_
  unfold recomputeDnsLocked
  rw [wp_bind]
  refine wp_mono hinit (fun live t ht => wp_of_after (I := Initialized) ?_) fun _ _ h => h.elim
  exact (hrest live t ht).1

/-! ### Operations from the point where their first DNS pass is due -/

section Until

variable {ops} {s t : Run W} {x : Unit}

/-- `stop_dhcp` ends with the pass, whatever becomes of it. -/
theorem stopDhcp_from_untilDns {iface : String}
    (h : (Operation.stopDhcp iface).untilDns ops s = .ok x t) :
    after (stopDhcp ops iface) s = after (recomputeDnsLocked ops) t := by
  obtain ⟨p, v, hp, hguarded⟩ := bind_eq_ok h
  obtain ⟨rfl, rfl⟩ := EStateM.Result.ok.inj hp
  obtain ⟨y, v, hknown, hbefore⟩ := bind_eq_ok hguarded
  rw [run_require] at hknown
  split at hknown
  · next hiface =>
    obtain ⟨-, rfl⟩ := EStateM.Result.ok.inj hknown
    have hpass := after_bind_of_ok
      (f := fun _ => do let _ ← attempt (recomputeDnsLocked ops); pure ()) hbefore
    rw [after_attempt_bind] at hpass
    refine Eq.trans ?_ hpass
    show after (if s.plane.knownIface iface = true then _ else _) s = _
    rw [if_pos hiface]
    simp only [bind_assoc]
  · cases hknown

/-- The incremental pass ends with it too, if it needs one. -/
theorem reconcileChanged_from_untilDns (h : Operation.reconcileChanged.untilDns ops s = .ok x t) :
    after (reconcileChanged ops) s = after (recomputeDnsLocked ops) t := by
  obtain ⟨changed, v, hlinks, hguarded⟩ := bind_eq_ok h
  obtain ⟨p, w, hp, hneeded⟩ := bind_eq_ok hguarded
  obtain ⟨rfl, rfl⟩ := EStateM.Result.ok.inj hp
  rw [run_require] at hneeded
  split at hneeded
  · next hpass =>
    obtain ⟨-, rfl⟩ := EStateM.Result.ok.inj hneeded
    unfold reconcileChanged
    rw [after_bind_of_ok (show attempt (reconcileLinks ops) s = .ok (.ok changed) v by
      unfold attempt; rw [hlinks])]
    show after (if _ then _ else _) v = _
    rw [if_pos hpass]
    unfold after
    rw [run_bind]
    unfold attempt
    cases recomputeDnsLocked ops v <;> rfl
  · cases hneeded

/-- The rest of `set_route_policy`, from the run in which the new policy is recorded. -/
def policyAttempt (ops : NetworkControlPlaneOps W) (previous : RoutePolicy) : Op W Unit := do
  match ← attempt (do applyRoutesLocked ops; recomputeDnsLocked ops) with
  | .ok () => pure ()
  | .error failure => do
    modifyPlane fun p => { p with routePolicy := previous }
    let _ ← attempt (applyRoutesLocked ops)
    let _ ← attempt (recomputeDnsLocked ops)
    throw failure

/-- The routes of the new policy are applied: the pass follows, and the way back if it fails. -/
theorem policyAttempt_applied {previous : RoutePolicy} (h : applyRoutesLocked ops s = .ok x t) :
    Onward (after (recomputeDnsLocked ops) t) (after (policyAttempt ops previous) s) := by
  have hpass : after (attempt (do applyRoutesLocked ops; recomputeDnsLocked ops)) s =
      after (recomputeDnsLocked ops) t := by
    rw [after_attempt, after_bind_of_ok h]
  rw [← hpass]
  refine Along.after_bind (fun outcome => ?_) s
  cases outcome with
  | ok x => exact Along.pure ()
  | error failure =>
    refine Along.bind (edit_onward (.policy previous)) fun _ => ?_
    refine Along.bind (Along.attempt (applyRoutesLocked_onward ops)) fun _ => ?_
    exact Along.bind (Along.attempt (recomputeDnsLocked_onward ops)) fun _ => Along.throw failure

/-- They are not: the first pass is that of the way back. -/
theorem policyAttempt_stopped {previous : RoutePolicy} {e : String} {stopped : Run W}
    (h : applyRoutesLocked ops s = .error e stopped)
    (hback : (do
      modifyPlane fun p => { p with routePolicy := previous }
      let _ ← attempt (applyRoutesLocked ops) : Op W Unit) stopped = .ok x t) :
    after (policyAttempt ops previous) s = after (recomputeDnsLocked ops) t := by
  have hfailed : attempt (do applyRoutesLocked ops; recomputeDnsLocked ops : Op W Unit) s =
      .ok (.error e) stopped := by
    unfold attempt
    rw [run_bind, h]
  have hpass := after_bind_of_ok
    (f := fun _ => (do let _ ← attempt (recomputeDnsLocked ops); throw e : Op W Unit)) hback
  rw [after_attempt_bind] at hpass
  unfold policyAttempt
  rw [after_bind_of_ok hfailed]
  simp only [bind_assoc, pure_bind] at hpass ⊢
  exact hpass

theorem setRoutePolicy_from_untilDns {policy : RoutePolicy}
    (h : (Operation.setRoutePolicy policy).untilDns ops s = .ok x t) :
    Onward (after (recomputeDnsLocked ops) t) (after (setRoutePolicy ops policy) s) := by
  obtain ⟨p, v, hp, hbegun⟩ := bind_eq_ok h
  obtain ⟨rfl, rfl⟩ := EStateM.Result.ok.inj hp
  obtain ⟨y, v, hv, htried⟩ := bind_eq_ok hbegun
  obtain ⟨-, rfl⟩ := EStateM.Result.ok.inj hv
  obtain ⟨outcome, w, hrun, hcontinued⟩ := bind_eq_ok htried
  -- the run in which the routes of the new policy are applied
  generalize hnew : ({ s with plane := { s.plane with routePolicy := policy } } : Run W) = new
    at hrun
  have hperform : after (setRoutePolicy ops policy) s =
      after (policyAttempt ops s.plane.routePolicy) new := by
    rw [← hnew]
    rfl
  rw [hperform]
  unfold attempt at hrun
  cases happlied : applyRoutesLocked ops new with
  | ok z applied =>
    rw [happlied] at hrun
    obtain ⟨rfl, rfl⟩ := EStateM.Result.ok.inj hrun
    obtain ⟨-, rfl⟩ := EStateM.Result.ok.inj hcontinued
    exact policyAttempt_applied happlied
  | error e stopped =>
    rw [happlied] at hrun
    obtain ⟨rfl, rfl⟩ := EStateM.Result.ok.inj hrun
    rw [policyAttempt_stopped happlied hcontinued]
    exact Std.Refl.refl _

end Until

/-- **After its first DNS pass an operation only goes on.** -/
theorem perform_after_firstDnsPass {op : Operation} {s u : Run W}
    (h : op.firstDnsPass ops s = some u) : Onward u (after (op.perform ops) s) := by
  unfold Operation.firstDnsPass at h
  cases huntil : op.untilDns ops s with
  | error e t =>
    rw [huntil] at h
    cases h
  | ok x t =>
    rw [huntil] at h
    obtain rfl := Option.some.inj h
    -- most operations are what comes before the pass, the pass, and a rest
    have hrest : ∀ rest : Unit → Op W Unit, (∀ x, Along Onward (rest x)) →
        op.perform ops = (op.untilDns ops >>= fun _ => recomputeDnsLocked ops >>= rest) →
        Onward (after (recomputeDnsLocked ops) t) (after (op.perform ops) s) := by
      intro rest hgoes hop
      rw [hop, after_bind_of_ok huntil]
      exact Along.after_bind hgoes t
    cases op with
    | adoptDhcp iface => cases huntil
    | startDhcp iface =>
      refine hrest (fun _ => do
        check (← invoke ops (.startDhcp iface))
        modifyPlane fun p => p.setLink iface { p.linkFor iface with managedDhcp := true })
        (fun _ => ?_) ?_
      · refine Along.bind (call_onward ops _) fun r => ?_
        exact Along.bind (along_check r) fun _ => edit_onward (.link iface _)
      · simp only [Operation.perform, startDhcp, Operation.untilDns, bind_assoc]
    | stopDhcp iface =>
      show Onward _ (after (stopDhcp ops iface) s)
      rw [stopDhcp_from_untilDns huntil]
      exact Std.Refl.refl _
    | applyEthernetStatic ip4 netmask4 gateway4 dns4 manualMetric =>
      refine hrest pure (fun _ => Along.pure _) ?_
      simp only [Operation.perform, applyEthernetStatic, Operation.untilDns, bind_assoc, bind_pure]
    | reconcile =>
      refine hrest pure (fun _ => Along.pure _) ?_
      simp only [Operation.perform, reconcile, Operation.untilDns, bind_assoc, bind_pure]
    | reconcileChanged =>
      rw [← reconcileChanged_from_untilDns huntil]
      exact Along.after_bind
        (f := fun result : Bool × Except String Unit => (check result.2 : Op W Unit))
        (fun result => along_check result.2) s
    | refreshExternalState =>
      refine hrest pure (fun _ => Along.pure _) ?_
      simp only [Operation.perform, refreshExternalState, Operation.untilDns, bind_pure]
    | setRoutePolicy policy => exact setRoutePolicy_from_untilDns huntil

end Onward

/-- The first DNS pass was over after `n` calls, and ownership has been initialized ever since. -/
structure InitializedSince (n : Nat) (s : Run W) : Prop where
  now : Initialized s
  since : ∃ added before, s.log = added ++ before ∧ before.length = n ∧
    ∀ e ∈ added, e.plane.dnsOwnershipInitialized = true

theorem InitializedSince.onward {n : Nat} {s t : Run W} (h : InitializedSince n s)
    (hst : Onward s t) : InitializedSince n t := by
  obtain ⟨added, before, hlog, hlength, hadded⟩ := h.since
  obtain ⟨hnow, more, ht, hmore⟩ := hst h.now
  refine ⟨hnow, more ++ added, before, by rw [ht, hlog, List.append_assoc], hlength, ?_⟩
  intro e he
  exact (List.mem_append.mp he).elim (hmore e) (hadded e)

theorem initializedSince_firstDnsPass {ops : NetworkControlPlaneOps W} {op : Operation} {s u : Run W}
    (h : op.firstDnsPass ops s = some u) : InitializedSince u.log.length u := by
  unfold Operation.firstDnsPass at h
  cases huntil : op.untilDns ops s with
  | error e t =>
    rw [huntil] at h
    cases h
  | ok x t =>
    rw [huntil] at h
    obtain rfl := Option.some.inj h
    exact ⟨recomputeDnsLocked_initializes ops t, [], _, rfl, rfl,
      fun e he => absurd he List.not_mem_nil⟩

theorem ResolverRun.initializedSince {first : Option Nat} {s : Run (ResolverWorld W)}
    (hrun : ResolverRun ops replaced first s) {n : Nat} (hfirst : first = some n) :
    InitializedSince n s := by
  induction hrun with
  | fresh names file rest => cases hfirst
  | @perform first s op _ ih =>
    cases hpass : first with
    | some m =>
      rw [hpass] at hfirst
      exact (ih (hpass.trans hfirst)).onward (perform_onward _ op s)
    | none =>
      rw [hpass, Option.none_or] at hfirst
      obtain ⟨u, hu, rfl⟩ := Option.map_eq_some_iff.mp hfirst
      exact (initializedSince_firstDnsPass hu).onward (perform_after_firstDnsPass _ hu)
  | environment rest _ ih => exact ⟨(ih hfirst).now, (ih hfirst).since⟩
  | rewritten file _ ih => exact ⟨(ih hfirst).now, (ih hfirst).since⟩

/-- A call issued since then found an owned file only with its owner. -/
theorem InitializedSince.hasOwner {n : Nat} {s : Run (ResolverWorld W)} (h : InitializedSince n s)
    (howning : Owning s) {x : PortEvent × FileStep}
    (hx : x ∈ s.fileSteps.take (s.log.length - n)) : HasOwner x.1.plane x.2.found := by
  obtain ⟨added, before, hlog, rfl, hadded⟩ := h.since
  have hpair : x ∈ s.fileSteps := List.mem_of_mem_take hx
  refine howning.owned x hpair (hadded x.1 ?_)
  unfold Run.fileSteps List.zip at hx
  rw [List.take_zipWith, hlog, List.length_append, Nat.add_sub_cancel, List.take_left] at hx
  exact (List.of_mem_zip (a := x.1) (b := x.2) hx).1

/-- **The resolver has one owner.**  In every run, whichever calls fail and whenever somebody else
replaces the file, each call that finds a file without the marker leaves it, or writes the
nameserver that the records at that moment select from an active link.  After the first DNS pass
every call finds the marker, and every operation leaves it, only while the control plane manages the
resolver. -/
theorem resolver_has_one_owner (ops : NetworkControlPlaneOps W) (replaced : W → Option ForeignFile)
    {first : Option Nat} {s : Run (ResolverWorld W)} (hrun : ResolverRun ops replaced first s) :
    s.world.steps.length = s.log.length ∧ (∀ x ∈ s.fileSteps, SparesForeign x) ∧
      ∀ n, first = some n →
        (∀ x ∈ s.fileSteps.take (s.log.length - n), HasOwner x.1.plane x.2.found) ∧
          HasOwner s.plane s.world.file := by
  refine ⟨hrun.owning.paired, hrun.owning.spares, ?_⟩
  intro n hfirst
  have hsince := hrun.initializedSince hfirst
  exact ⟨fun x hx => hsince.hasOwner hrun.owning hx, hrun.owning.owner hsince.now⟩

/-- A configurator that cannot empty the file. -/
def readOnlyPorts : NetworkControlPlaneOps Unit where
  available _ := true
  call
    | .clearDns, w => (.error "failed to open /etc/resolv.conf", w)
    | c, w => (c.configuratorReply, w)

/-- The daemon on such a configurator. -/
abbrev readOnlyDaemon : NetworkControlPlaneOps (ResolverWorld Unit) :=
  readOnlyPorts.resolving fun _ => none

/-- The first pass after a restart, on the resolver that an earlier process left. -/
def adoptedResolver : Run (ResolverWorld Unit) :=
  after (Operation.reconcile.perform readOnlyDaemon)
    (fresh .standard ⟨some (resolverText "9.9.9.9"), (), []⟩)

/-- The pass after it. -/
def orphanedResolver : Run (ResolverWorld Unit) :=
  after (Operation.reconcile.perform readOnlyDaemon) adoptedResolver

/-- The first DNS pass is over after three calls. -/
theorem adoptedResolver_firstDnsPass :
    (Operation.reconcile.firstDnsPass readOnlyDaemon
      (fresh .standard ⟨some (resolverText "9.9.9.9"), (), []⟩)).map (fun t => t.log.length) =
        some 3 := by
  decide +kernel

theorem orphanedResolver_run :
    ResolverRun readOnlyPorts (fun _ => none) (some 3) orphanedResolver := by
  have hfresh : ResolverRun readOnlyPorts (fun _ => none) none
      (fresh .standard ⟨some (resolverText "9.9.9.9"), (), []⟩) := .fresh .standard _ ()
  have hrun := ResolverRun.perform .reconcile (.perform .reconcile hfresh)
  rw [adoptedResolver_firstDnsPass] at hrun
  exact hrun

/-- The file cannot be given up, and its owner knows of it. -/
theorem resolver_has_one_owner_orphaned :
    orphanedResolver.world.steps.length = orphanedResolver.log.length ∧
      (∀ x ∈ orphanedResolver.fileSteps, SparesForeign x) ∧
      (∀ x ∈ orphanedResolver.fileSteps.take (orphanedResolver.log.length - 3),
        HasOwner x.1.plane x.2.found) ∧
      dnsFileOwnedByNetworkService orphanedResolver.world.file = true ∧
      orphanedResolver.plane.managedDns = true := by
  obtain ⟨hpaired, hspares, howner⟩ :=
    resolver_has_one_owner readOnlyPorts (fun _ => none) orphanedResolver_run
  obtain ⟨hcalls, hfile⟩ := howner 3 rfl
  have hmarked : dnsFileOwnedByNetworkService orphanedResolver.world.file = true := by decide +kernel
  exact ⟨hpaired, hspares, hcalls, hmarked, hfile hmarked⟩

end NetworkService.ControlPlane
