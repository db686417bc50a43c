import NetworkService.ControlPlane.PolicyChanges
import NetworkService.Daemon.StaticRoundTrip

/-!
# Static configurations that block a policy change

The daemon's requests reach the control plane in any order.  Whatever they brought, the records stay
sound on a platform that only looks at arguments, so a policy change can fail for one reason only:
a static configuration in force whose gateway or nameserver was never looked at.  Such a
configuration gets in through `eth.set_static` while the policy keeps Ethernet out of the routes, or
through the rollback of a failed request to what the file says.
-/

namespace NetworkService.Daemon

open Fallible Config ControlPlane ControlPlane.NetworkControlPlane Platform

variable {W : Type}

/-! ### Runs of the daemon -/

/-- `NetworkDaemon::route_policy_apply` -/
def routePolicyApply (ops : NetworkControlPlaneOps W) (policy : RoutePolicy) : Op W Unit :=
  if policy = .manualMetric then
    throw "manual_metric is not a supported product route policy"
  else
    mapError (orText "failed to apply route policy") (setRoutePolicy ops policy)

/-- What the daemon does with its control plane besides the Ethernet requests: the Wi-Fi manager
starts and stops DHCP, the reactor reconciles and refreshes, and a client changes the policy. -/
inductive DaemonOperation
  | startWifiDhcp
  | stopWifiDhcp
  | reconcile
  | reconcileChanged
  | refreshExternalState
  | routePolicyApply (policy : RoutePolicy)

def DaemonOperation.perform (ops : NetworkControlPlaneOps W) (names : IfaceNames) :
    DaemonOperation → Op W Unit
  | .startWifiDhcp => startDhcp ops names.wifi
  | .stopWifiDhcp => stopDhcp ops names.wifi
  | .reconcile => ControlPlane.reconcile ops
  | .reconcileChanged => do
    let result ← ControlPlane.reconcileChanged ops
    check result.2
  | .refreshExternalState => ControlPlane.refreshExternalState ops
  | .routePolicyApply policy => Daemon.routePolicyApply ops policy

/-- The states that the daemon's operations reach when its Ethernet transactions are those of
`allowed`.  Running DHCP clients are adopted before anything else; platform and configuration file
may change on their own. -/
inductive DaemonReachable (ops : NetworkControlPlaneOps W) (configDir : String)
    (allowed : EthernetDaemon W → EthernetRequest → FileReplies → Prop) : EthernetDaemon W → Prop
  | start (names : IfaceNames) (w : W) (files : ConfigFiles) :
      DaemonReachable ops configDir allowed ⟨files, fresh names w⟩
  | adopt {d : EthernetDaemon W} (iface : String) : DaemonReachable ops configDir allowed d →
      d.control.log = [] →
      DaemonReachable ops configDir allowed { d with control := after (adoptDhcp ops iface) d.control }
  | perform {d : EthernetDaemon W} (op : DaemonOperation) : DaemonReachable ops configDir allowed d →
      DaemonReachable ops configDir allowed
        { d with control := after (op.perform ops d.control.plane.names) d.control }
  | ethernet {d : EthernetDaemon W} (request : EthernetRequest) (replies : FileReplies) :
      DaemonReachable ops configDir allowed d → allowed d request replies →
      DaemonReachable ops configDir allowed (request.perform ops replies configDir d).2
  | environment {d : EthernetDaemon W} (w : W) (files : ConfigFiles) :
      DaemonReachable ops configDir allowed d →
      DaemonReachable ops configDir allowed ⟨files, { d.control with world := w }⟩

/-- The operation of the control plane behind one of the daemon. -/
theorem daemonOperation_after (ops : NetworkControlPlaneOps W) (names : IfaceNames)
    (op : DaemonOperation) (s : Run W) :
    after (op.perform ops names) s = s ∨ ∃ o : Operation,
      (∀ ip4 netmask4 gateway4 dns4 manualMetric,
        o ≠ .applyEthernetStatic ip4 netmask4 gateway4 dns4 manualMetric) ∧
      after (op.perform ops names) s = after (o.perform ops) s := by
  cases op with
  | startWifiDhcp => exact .inr ⟨.startDhcp names.wifi, (fun _ _ _ _ _ h => nomatch h), rfl⟩
  | stopWifiDhcp => exact .inr ⟨.stopDhcp names.wifi, (fun _ _ _ _ _ h => nomatch h), rfl⟩
  | reconcile => exact .inr ⟨.reconcile, (fun _ _ _ _ _ h => nomatch h), rfl⟩
  | reconcileChanged => exact .inr ⟨.reconcileChanged, (fun _ _ _ _ _ h => nomatch h), rfl⟩
  | refreshExternalState =>
    exact .inr ⟨.refreshExternalState, (fun _ _ _ _ _ h => nomatch h), rfl⟩
  | routePolicyApply policy =>
    by_cases hmanual : policy = .manualMetric
    · subst hmanual
      exact .inl rfl
    · refine .inr ⟨.setRoutePolicy policy, (fun _ _ _ _ _ h => nomatch h), ?_⟩
      show after (Daemon.routePolicyApply ops policy) s = after (setRoutePolicy ops policy) s
      unfold Daemon.routePolicyApply
      rw [if_neg hmanual, after_mapError]

/-- The operation that applies a configuration. -/
def runtimeOperation (iface : String) (config : EthernetConfig) : Operation :=
  if config.method = "static" then
    .applyEthernetStatic config.ip4 config.netmask4 config.gateway4
      (if config.dnsEnabled then config.dns4 else "") config.routeMetric
  else .startDhcp iface

theorem applyEthernetRuntime_operation (ops : NetworkControlPlaneOps W) (iface : String)
    (config : EthernetConfig) :
    applyEthernetRuntime ops iface config = (runtimeOperation iface config).perform ops := by
  unfold applyEthernetRuntime runtimeOperation
  split <;> rfl

/-! ### Records in every state -/

/-- What holds of the control plane in every state the daemon reaches. -/
structure Settled (ops : NetworkControlPlaneOps W) (N : IfaceNames) (s : Run W) : Prop where
  names : s.plane.names = N
  sound : Sound ops N s.plane
  consistent : Consistent s.plane

section Reached

variable {ops : NetworkControlPlaneOps W} {N : IfaceNames} {s : Run W}

theorem Settled.perform (h : Settled ops N s) (hchecks : ChecksArguments ops) (op : Operation) :
    Settled ops N (after (op.perform ops) s) := by
  have hedits : ByEdits ops N (fun _ => True) (op.perform ops) :=
    byEdits_perform op fun _ _ _ _ _ _ => trivial
  exact ⟨(hedits s h.names).1, edits_sound hchecks (hedits s h.names).2 h.names h.sound,
    perform_consistent ops h.consistent op⟩

theorem Settled.own (h : Settled ops N s) : Settled ops s.plane.names s := by
  rw [h.names]
  exact h

theorem Settled.runtime (h : Settled ops N s) (hchecks : ChecksArguments ops) (iface : String)
    (config : EthernetConfig) : Settled ops N (after (applyEthernetRuntime ops iface config) s) := by
  rw [applyEthernetRuntime_operation]
  exact h.perform hchecks _

theorem DaemonReachable.settled {configDir : String}
    {allowed : EthernetDaemon W → EthernetRequest → FileReplies → Prop} {d : EthernetDaemon W}
    (hchecks : ChecksArguments ops) (h : DaemonReachable ops configDir allowed d) :
    Settled ops d.control.plane.names d.control := by
  induction h with
  | start names w files =>
    refine ⟨rfl, .fresh names, ?_⟩
    exact ⟨nofun, nofun, nofun, fun _ => rfl⟩
  | adopt iface _ _ ih =>
    have hafter := ih.perform hchecks (.adoptDhcp iface)
    exact hafter.own
  | @perform d op _ ih =>
    rcases daemonOperation_after ops d.control.plane.names op d.control with hsame | ⟨o, -, hsame⟩
    · rw [hsame]
      exact ih
    · have hafter := ih.perform hchecks o
      rw [← hsame] at hafter
      exact hafter.own
  | @ethernet d request replies _ _ ih =>
    rcases perform_cases ops replies configDir request d with
      ⟨-, e, hresult⟩ | ⟨-, t, happly, -, hresult⟩ | ⟨-, -, e, hresult⟩
    · rw [hresult]
      exact ih
    · have hafter := ih.runtime hchecks d.control.plane.names.eth (d.desired request)
      rw [after_ok happly] at hafter
      rw [hresult]
      exact hafter.own
    · have hafter := (ih.runtime hchecks d.control.plane.names.eth (d.desired request)).runtime
        hchecks d.control.plane.names.eth d.previous
      rw [hresult]
      exact hafter.own
  | environment w files _ ih => exact ⟨rfl, ih.sound, ih.consistent⟩

/-! ### The static record -/

/-- The static record that a configuration leads to if its address is taken. -/
def configuredStatic (config : EthernetConfig) : StaticEthernetState :=
  if config.method = "static" then
    ⟨true, config.ip4, config.netmask4, config.gateway4,
      if config.dnsEnabled then config.dns4 else "", config.routeMetric⟩
  else {}

/-- The static record after an apply on the Ethernet device `iface`. -/
def appliedStatic (iface : String) (config : EthernetConfig) : StaticEthernetState :=
  if (PortCall.applyIpv4 iface config.ip4 config.netmask4).malformed then {}
  else configuredStatic config

theorem applyEthernetStatic_record (h : Settled ops N s) (hchecks : ChecksArguments ops)
    (ip4 netmask4 gateway4 dns4 : String) (manualMetric : Int) :
    wp (applyEthernetStatic ops ip4 netmask4 gateway4 dns4 manualMetric)
      (fun _ t => t.plane.staticEth =
        if (PortCall.applyIpv4 N.eth ip4 netmask4).malformed then {}
        else ⟨true, ip4, netmask4, gateway4, dns4, manualMetric⟩)
      (fun _ t => t.plane.staticEth =
        if (PortCall.applyIpv4 N.eth ip4 netmask4).malformed then {}
        else ⟨true, ip4, netmask4, gateway4, dns4, manualMetric⟩) s := by
  unfold applyEthernetStatic
  rw [wp_bind, wp_require, hchecks.wired, hchecks.wired, hchecks.wired,
    if_pos (show (true && true && true) = true from rfl), wp_bind, wp_getPlane, wp_bind, h.names]
  refine wp_mono (clearOwnedRouteLocked_accepted hchecks h.sound (.inl rfl)) (fun _ t _ => ?_)
    fun _ _ h => h.elim
  rw [wp_bind]
  refine wp_invoke.mpr ?_
  rw [wp_bind]
  refine wp_invoke.mpr ?_
  rw [wp_bind, wp_modifyPlane, wp_bind]
  refine wp_invoke.mpr ?_
  have hexact := hchecks.exact (.applyIpv4 N.eth ip4 netmask4)
  rw [wp_bind, wp_check]
  refine ⟨fun _ hreply => ?_, fun e hreply => ?_⟩
  · have hwell : true = !(PortCall.applyIpv4 N.eth ip4 netmask4).malformed :=
      (congrArg Except.isOk hreply).symm.trans (hexact _)
    rw [(Bool.not_eq_true' _).mp hwell.symm, wp_bind, wp_modifyPlane, wp_bind]
    -- the passes that follow keep the record, also when they fail
    refine wp_of_framing (applyRoutesLocked_config ops) (fun _ u hu => ?_) fun _ u hu =>
      congrArg (·.staticEth) hu
    exact wp_of_framing (recomputeDnsLocked_config ops)
      (fun _ v hv => (congrArg (·.staticEth) hv :).trans (congrArg (·.staticEth) hu))
      fun _ v hv => (congrArg (·.staticEth) hv :).trans (congrArg (·.staticEth) hu)
  · have hwell : false = !(PortCall.applyIpv4 N.eth ip4 netmask4).malformed :=
      (congrArg Except.isOk hreply).symm.trans (hexact _)
    rw [(Bool.not_eq_false' _).mp hwell.symm]
    rfl

theorem startDhcp_record (h : Settled ops N s) (hchecks : ChecksArguments ops) :
    wp (startDhcp ops N.eth) (fun _ t => t.plane.staticEth = {})
      (fun _ t => t.plane.staticEth = {}) s := by
  have hknown : s.plane.knownIface N.eth = true := by
    rw [knownIface_iff, h.names]
    exact .inl rfl
  unfold startDhcp
  rw [wp_bind, wp_getPlane, hknown, wp_bind, wp_require, if_pos rfl, wp_bind, wp_require,
    hchecks.wired, hchecks.wired, hchecks.wired,
    if_pos (show (true && true && true) = true from rfl), wp_bind]
  have hk : N.eth = N.eth ∨ N.eth = N.wifi := .inl rfl
  have hclear := wp_and (clearOwnedRouteLocked_accepted hchecks h.sound hk)
    (wp_of_after (I := fun t => t.plane.names = N)
      ((clearOwnedRouteLocked_names ops N.eth s).trans h.names))
  refine wp_mono hclear (fun _ t ht => ?_) fun _ _ h => h.1.elim
  rw [wp_bind]
  refine wp_invoke.mpr ?_
  rw [wp_bind]
  refine wp_invoke.mpr ?_
  rw [wp_bind]
  refine ignoredCall_leaves ops fun u hu => ?_
  have hN : u.plane.names = N := by
    rw [hu]
    exact ht.2
  rw [wp_bind, wp_modifyPlane, wp_bind, wp_modifyPlane, wp_bind]
  have hdropped : (u.plane.reset N.eth).staticEth = {} := staticEth_reset (by rw [hN])
  refine wp_of_framing (recomputeDnsLocked_config ops) (fun _ v hv => ?_) fun _ v hv => ?_
  · have hstatic : v.plane.staticEth = {} := (congrArg (·.staticEth) hv :).trans hdropped
    rw [wp_bind]
    refine wp_invoke.mpr ?_
    rw [wp_bind, wp_check]
    refine ⟨fun _ _ => ?_, fun _ _ => hstatic⟩
    exact setLink_staticEth.trans hstatic
  · exact (congrArg (·.staticEth) hv :).trans hdropped

/-- **What an apply leaves in the static record**, also one that fails. -/
theorem applyEthernetRuntime_record (h : Settled ops N s) (hchecks : ChecksArguments ops)
    (config : EthernetConfig) :
    (after (applyEthernetRuntime ops N.eth config) s).plane.staticEth = appliedStatic N.eth config := by
  unfold applyEthernetRuntime appliedStatic configuredStatic
  split
  · exact after_of_wp (applyEthernetStatic_record h hchecks _ _ _ _ _)
  · have hrecord := after_of_wp (startDhcp_record h hchecks)
    rw [hrecord]
    split <;> rfl

end Reached

/-! ### Transactions -/

/-- The configuration that a transaction leaves in force: the one asked for if the request is
accepted, the one in the file if it is rolled back.  Staging failures leave everything as it was. -/
def settledConfig (ops : NetworkControlPlaneOps W) (configDir : String) (d : EthernetDaemon W)
    (request : EthernetRequest) (replies : FileReplies) : Option EthernetConfig :=
  if StagingFails configDir replies then none
  else match (request.perform ops replies configDir d).1 with
    | .ok config => some config
    | .error _ => some d.previous

/-- The configuration a transaction leaves in force is usable under every policy. -/
def LeavesUsable (ops : NetworkControlPlaneOps W) (configDir : String) (d : EthernetDaemon W)
    (request : EthernetRequest) (replies : FileReplies) : Prop :=
  ∀ config, settledConfig ops configDir d request replies = some config →
    UsableStatic (appliedStatic d.control.plane.names.eth config)

section Transactions

variable {ops : NetworkControlPlaneOps W} {configDir : String}

/-- The static record after a transaction. -/
theorem perform_record (hchecks : ChecksArguments ops) {d : EthernetDaemon W}
    (h : Settled ops d.control.plane.names d.control) (request : EthernetRequest)
    (replies : FileReplies) :
    (request.perform ops replies configDir d).2.control.plane.staticEth =
      match settledConfig ops configDir d request replies with
      | none => d.control.plane.staticEth
      | some config => appliedStatic d.control.plane.names.eth config := by
  unfold settledConfig
  have hdesired := h.runtime hchecks d.control.plane.names.eth (d.desired request)
  rcases perform_cases ops replies configDir request d with
    ⟨hstaging, e, hresult⟩ | ⟨hstaging, t, happly, -, hresult⟩ |
    ⟨hstaging, -, e, hresult⟩
  · rw [hresult, if_pos hstaging]
  · rw [hresult, if_neg hstaging, ← after_ok happly]
    exact applyEthernetRuntime_record h hchecks (d.desired request)
  · rw [hresult, if_neg hstaging]
    exact applyEthernetRuntime_record hdesired hchecks d.previous

/-- In a run whose transactions leave usable configurations the static record stays usable. -/
theorem DaemonReachable.usable (hchecks : ChecksArguments ops) {d : EthernetDaemon W}
    (h : DaemonReachable ops configDir (LeavesUsable ops configDir) d) :
    UsableStatic d.control.plane.staticEth := by
  -- only a static configuration makes a record that was not there
  have hkeep : ∀ (o : Operation) (s : Run W), (∀ ip4 netmask4 gateway4 dns4 manualMetric,
      o ≠ .applyEthernetStatic ip4 netmask4 gateway4 dns4 manualMetric) →
      UsableStatic s.plane.staticEth → UsableStatic (after (o.perform ops) s).plane.staticEth := by
    intro o s ho hs
    refine perform_keeps (I := fun p => UsableStatic p.staticEth)
      (fun p q (hedit : RecordEdit ops s.plane.names (fun _ => False) p q) _ hp => ?_) o
      (fun _ _ _ _ _ heq => absurd heq (ho _ _ _ _ _)) rfl hs
    cases hedit with
    | clearRoute | setRoute =>
      rw [setOwnedRoute_staticEth]
      exact hp
    | link | configured =>
      rw [setLink_staticEth]
      exact hp
    | dropStatic => exact nofun
    | static permitted => exact permitted.elim
    | policy | adoptDns | initializeBlind | releaseDns | setDns => exact hp
  induction h with
  | start names w files => exact nofun
  | adopt iface _ _ ih => exact hkeep (.adoptDhcp iface) _ nofun ih
  | @perform d op _ ih =>
    rcases daemonOperation_after ops d.control.plane.names op d.control with hsame | ⟨o, ho, hsame⟩
    · rw [hsame]
      exact ih
    · rw [hsame]
      exact hkeep o _ ho ih
  | @ethernet d request replies hreach hleaves ih =>
    rw [perform_record hchecks (hreach.settled hchecks) request replies]
    cases hsettled : settledConfig ops configDir d request replies with
    | none => exact ih
    | some config => exact hleaves config hsettled
  | environment w files _ ih => exact ih

/-- **When policy changes cannot get wedged.**  In a state that the daemon reaches, all product
policies are accepted exactly if the static record is usable; and they are accepted in every state
of a run whose Ethernet transactions leave usable configurations in force. -/
theorem policy_changes_accepted_iff (hchecks : ChecksArguments ops) (configDir : String) :
    (∀ d, MarkedResolverFits ops → DaemonReachable ops configDir (fun _ _ _ => True) d →
      ((∀ policy, isProductPolicy policy = true →
          completes (setRoutePolicy ops policy) d.control = true) ↔
        UsableStatic d.control.plane.staticEth)) ∧
    ∀ d, DaemonReachable ops configDir (LeavesUsable ops configDir) d →
      ∀ policy, isProductPolicy policy = true →
        completes (setRoutePolicy ops policy) d.control = true := by
  constructor
  · intro d hmarked hreach
    have h := hreach.settled hchecks
    exact setRoutePolicy_accepts_iff hchecks h.sound h.names hmarked h.consistent
  · intro d hreach policy hproduct
    have h := hreach.settled hchecks
    exact setRoutePolicy_usable hchecks h.sound h.names h.consistent (hreach.usable hchecks) hproduct

end Transactions

/-! ### Two static requests -/

theorem configuratorPorts_checksArguments : ChecksArguments configuratorPorts where
  wired _ := rfl
  exact c _ := c.configuratorReply_succeeded
  leases _ _ _ hread := nomatch hread

theorem policy_changes_accepted_iff_staticRequest :
    completes (setRoutePolicy configuratorPorts .wifiPreferred)
      (staticRequest.perform configuratorPorts {} "" unmanagedDaemon).2.control = true := by
  refine (policy_changes_accepted_iff configuratorPorts_checksArguments "").2
    (staticRequest.perform configuratorPorts {} "" unmanagedDaemon).2
    (.ethernet staticRequest {} (.start .standard () {}) fun config hsettled => ?_) .wifiPreferred rfl
  have hconfig : settledConfig configuratorPorts "" unmanagedDaemon staticRequest {} =
      some (unmanagedDaemon.desired staticRequest) := by decide +kernel
  obtain rfl := Option.some.inj (hconfig.symm.trans hsettled)
  decide +kernel

/-- A gateway that is no address is accepted while only Wi-Fi may have routes, and then Ethernet
cannot be preferred any more. -/
theorem unchecked_gateway_blocks_policy :
    let request := EthernetRequest.setStatic "192.168.1.50" "255.255.255.0" "router" ""
    let result := request.perform configuratorPorts {} "" wifiOnlyDaemon
    ChecksArguments configuratorPorts ∧
      DaemonReachable configuratorPorts "" (fun _ _ _ => True) result.2 ∧
      result.1.isOk = true ∧
      completes (setRoutePolicy configuratorPorts .ethernetPreferred) result.2.control = false := by
  have hpolicy : DaemonReachable configuratorPorts "" (fun _ _ _ => True) wifiOnlyDaemon :=
    .perform (.routePolicyApply .wifiOnly) (.start .standard () {})
  exact ⟨configuratorPorts_checksArguments, .ethernet _ {} hpolicy trivial, by decide +kernel,
    by decide +kernel⟩

end NetworkService.Daemon
