import NetworkService.Config.EthernetConfig
import NetworkService.ControlPlane.Records

/-!
# The Ethernet transaction

`eth.set_static` and `eth.set_dhcp` stage the new configuration file, apply it to the control
plane and commit the file.  If the apply or the commit fails, the configuration of the
committed file is applied again.  That is the Ethernet mode the daemon had before only if the
file describes it: an unmanaged or adopted link, or one whose file says something else, is
taken over by the rollback.
-/

namespace NetworkService.Daemon

open Fallible Config ControlPlane ControlPlane.NetworkControlPlane

variable {W : Type}

/-- `NetworkOperationResult<T>::failure(status, message)` -/
structure OperationFailure where
  status : Int
  message : String
  deriving DecidableEq

/-- The part of the daemon that a transaction works on. -/
structure EthernetDaemon (W : Type) where
  files : ConfigFiles
  control : Run W

section Transaction

variable (ops : NetworkControlPlaneOps W)

def applyEthernetRuntime (iface : String) (config : EthernetConfig) : Op W Unit :=
  if config.method = "static" then
    applyEthernetStatic ops config.ip4 config.netmask4 config.gateway4
      (if config.dnsEnabled then config.dns4 else "") config.routeMetric
  else
    startDhcp ops iface

def failureWithRollback (failure rollbackError : String) : String :=
  if rollbackError = "" then failure else failure ++ "; rollback_failed: " ++ rollbackError

/-- Apply the previous configuration again and report the failure. -/
def rollBack (iface : String) (previous : EthernetConfig) (failure : String) (files : ConfigFiles)
    (control : Run W) : Except OperationFailure EthernetConfig × EthernetDaemon W :=
  match applyEthernetRuntime ops iface previous control with
  | .ok _ control => (.error ⟨500, failureWithRollback failure ""⟩, ⟨files, control⟩)
  | .error e control => (.error ⟨500, failureWithRollback failure e⟩, ⟨files, control⟩)

def applyEthernetTransaction (replies : FileReplies) (configDir iface : String)
    (desired : EthernetConfig) (s : EthernetDaemon W) :
    Except OperationFailure EthernetConfig × EthernetDaemon W :=
  let previous := loadEthernetConfig s.files.committed iface
  match stageEthernetConfig configDir desired replies s.files with
  | (.error error, files) =>
    (.error ⟨500, "failed to stage ethernet config: " ++ error⟩, ⟨files, s.control⟩)
  | (.ok _, files) =>
    match applyEthernetRuntime ops iface desired s.control with
    | .error error control =>
      rollBack ops iface previous
        (if error = "" then "failed to apply ethernet runtime config" else error)
        (discardEthernetConfig files) control
    | .ok _ control =>
      match commitEthernetConfig replies files with
      | (.failed error, files) =>
        rollBack ops iface previous
          (if error = "" then "failed to commit ethernet config" else error)
          (discardEthernetConfig files) control
      | (_, files) => (.ok desired, ⟨files, control⟩)

end Transaction

/-- A request of the Ethernet surface. -/
inductive EthernetRequest
  | setDhcp
  | setStatic (ip mask gateway dns : String)

/-- The configuration a request asks for, starting from the one that is loaded. -/
def EthernetRequest.desired (iface : String) (loaded : EthernetConfig) :
    EthernetRequest → EthernetConfig
  | .setDhcp =>
    { loaded with
      iface := iface, method := "dhcp", ip4 := "", netmask4 := "", gateway4 := "", dns4 := ""
      routeMetric := 10, dnsEnabled := true }
  | .setStatic ip mask gateway dns =>
    { loaded with
      iface := iface, method := "static", ip4 := ip, netmask4 := mask, gateway4 := gateway
      dns4 := dns, routeMetric := 10, dnsEnabled := decide (dns ≠ "") }

/-- `NetworkDaemon::eth_set_dhcp` and `NetworkDaemon::eth_set_static` -/
def EthernetRequest.perform (ops : NetworkControlPlaneOps W) (replies : FileReplies)
    (configDir : String) (request : EthernetRequest) (s : EthernetDaemon W) :
    Except OperationFailure EthernetConfig × EthernetDaemon W :=
  let iface := s.control.plane.names.eth
  applyEthernetTransaction ops replies configDir iface
    (request.desired iface (loadEthernetConfig s.files.committed iface)) s

/-! ### Ethernet modes -/

/-- Who has Ethernet, and with which parameters. -/
inductive EthernetMode
  | unmanaged
  | dhcp
  | static (ip4 netmask4 gateway4 dns4 : String) (metric : Int)
  deriving DecidableEq

/-- The mode the control plane is in. -/
def ethernetMode (p : NetworkControlPlane) : EthernetMode :=
  if p.staticEth.active then
    .static p.staticEth.ip4 p.staticEth.netmask4 p.staticEth.gateway4 p.staticEth.dns4
      p.staticEth.manualMetric
  else if p.eth.managedDhcp then .dhcp
  else .unmanaged

/-- The mode a configuration describes. -/
def configuredMode (config : EthernetConfig) : EthernetMode :=
  if config.method = "static" then
    .static config.ip4 config.netmask4 config.gateway4
      (if config.dnsEnabled then config.dns4 else "") config.routeMetric
  else .dhcp

/-- The calls that take Ethernet over: a DHCP client is started or the address is cleared. -/
def takesOver (iface : String) (c : PortCall) : Bool := c = .startDhcp iface ∨ c = .clearIpv4 iface

/-- The Ethernet mode is as it was, and an unmanaged link was not touched. -/
structure Restored (s t : Run W) : Prop where
  mode : ethernetMode t.plane = ethernetMode s.plane
  untouched : ethernetMode s.plane = .unmanaged →
    callsOf (takesOver s.plane.names.eth) t.log = callsOf (takesOver s.plane.names.eth) s.log

/-- The run in which a rollback begins, if the transaction comes to one. -/
def rollbackStart (ops : NetworkControlPlaneOps W) (replies : FileReplies) (configDir : String)
    (request : EthernetRequest) (s : EthernetDaemon W) : Option (Run W) :=
  let iface := s.control.plane.names.eth
  let desired := request.desired iface (loadEthernetConfig s.files.committed iface)
  match stageEthernetConfig configDir desired replies s.files with
  | (.error _, _) => none
  | (.ok _, files) =>
    match applyEthernetRuntime ops iface desired s.control with
    | .error _ control => some control
    | .ok _ control =>
      match commitEthernetConfig replies files with
      | (.failed _, _) => some control
      | _ => none

/-- How many port calls have failed. -/
def portFailures (s : Run W) : Nat := s.log.countP fun e => !e.ok

/-- Staging fails: there is no directory, or one of its system calls fails. -/
def StagingFails (configDir : String) (replies : FileReplies) : Prop :=
  configDirectory configDir = "" ∨ replies.mkdir ≠ none ∨ replies.create ≠ none ∨
    replies.write ≠ none ∨ replies.fsync ≠ none ∨ replies.close ≠ none

instance (configDir : String) (replies : FileReplies) :
    Decidable (StagingFails configDir replies) := inferInstanceAs (Decidable (_ ∨ _))

theorem stageEthernetConfig_cases (configDir : String) (config : EthernetConfig)
    (replies : FileReplies) (files : ConfigFiles) :
    (StagingFails configDir replies ∧
      ∃ e, stageEthernetConfig configDir config replies files =
        (.error e, { files with staged := none })) ∨
    (¬StagingFails configDir replies ∧ stageEthernetConfig configDir config replies files =
      (.ok (), { files with staged := some (serializeEthernetConfig config) })) := by
  obtain ⟨mkdir, create, write, fsync, close, rename, fsyncDirectory⟩ := replies
  unfold StagingFails stageEthernetConfig
  by_cases hdir : configDirectory configDir = ""
  · exact .inl ⟨.inl hdir, _, by rw [if_pos hdir]⟩
  · rw [if_neg hdir]
    cases mkdir <;> cases create <;> cases write <;> cases fsync <;> cases close <;> simp [hdir]

/-! ### Operations that stop early have a failed call -/

section Counted

variable (ops : NetworkControlPlaneOps W)

theorem portFailures_record {s : Run W} {c : PortCall} {r : c.Reply} {w : W} :
    portFailures (s.record c r w) = portFailures s + if c.succeeded r then 0 else 1 := by
  unfold portFailures
  rw [record_log, List.countP_cons]
  cases c.succeeded r <;> rfl

theorem counted_invoke (c : PortCall) : Counted portFailures (invoke ops c) := by
  intro s
  refine wp_invoke.mpr ?_
  rw [portFailures_record]
  exact Nat.le_add_right _ _

/-- A call whose reply decides whether the operation goes on. -/
theorem counted_check {α : Type} (c : PortCall) (reply : c.Reply → Except String Unit)
    (hreply : ∀ r, (reply r).isOk = c.succeeded r) {f : Unit → Op W α}
    (hf : ∀ u, Counted portFailures (f u)) :
    Counted portFailures (invoke ops c >>= fun r => check (reply r) >>= f) := by
  intro s
  rw [wp_bind]
  refine wp_invoke.mpr (wp_bind.mpr (wp_check.mpr ⟨fun u _ => ?_, fun e herror => ?_⟩))
  · have hle : portFailures s ≤ portFailures (s.record c (ops.call c s.world).1
        (ops.call c s.world).2) := by
      rw [portFailures_record]
      exact Nat.le_add_right _ _
    exact wp_mono (hf u _) (fun _ _ h => Nat.le_trans hle h) fun _ _ h => Nat.lt_of_le_of_lt hle h
  · have hfailed : c.succeeded (ops.call c s.world).1 = false := by
      rw [← hreply, herror]
      rfl
    rw [portFailures_record, hfailed]
    exact Nat.lt_succ_self _

theorem counted_modifyPlane (f : NetworkControlPlane → NetworkControlPlane) :
    Counted portFailures (modifyPlane f : Op W Unit) := fun _ => Nat.le_refl _

theorem counted_getPlane : Counted portFailures (getPlane : Op W _) := fun _ => Nat.le_refl _

variable (hwired : ∀ port, ops.available port = true)

include hwired

theorem counted_clearOwnedRouteLocked (iface : String) :
    Counted portFailures (clearOwnedRouteLocked ops iface) := by
  refine Counted.bind counted_getPlane fun p => Counted.ite ?_ (Counted.pure ())
  refine Counted.bind (Counted.require (hwired _)) fun _ => ?_
  exact counted_check ops (.clearDefaultRoute iface _ _) id (fun _ => rfl)
    fun _ => counted_modifyPlane _

theorem counted_ensureOwnedRouteLocked (iface gateway4 : String) (metric : Int) :
    Counted portFailures (ensureOwnedRouteLocked ops iface gateway4 metric) := by
  have hclear := counted_clearOwnedRouteLocked ops hwired iface
  refine Counted.ite hclear ?_
  refine Counted.bind (Counted.require (hwired _)) fun _ => ?_
  refine Counted.bind counted_getPlane fun p => Counted.bind (Counted.when hclear) fun _ => ?_
  exact counted_check ops (.setDefaultRoute iface gateway4 metric) id (fun _ => rfl)
    fun _ => counted_modifyPlane _

theorem counted_applyRoutesLocked : Counted portFailures (applyRoutesLocked ops) := by
  have hclear := counted_clearOwnedRouteLocked ops hwired
  have hensure := counted_ensureOwnedRouteLocked ops hwired
  refine Counted.bind ?_ fun _ => ?_
  · refine Counted.bind counted_getPlane fun p => ?_
    exact Counted.ite (Counted.mapError (hensure _ _ _))
      (Counted.ite (Counted.mapError (hensure _ _ _)) (hclear _))
  · refine Counted.bind counted_getPlane fun p => ?_
    exact Counted.ite (Counted.mapError (hensure _ _ _)) (hclear _)

theorem counted_applyDns (decision : DnsDecision) (live : Option NetworkSnapshot) :
    Counted portFailures (applyDns ops decision live) := by
  have hrelease : Counted portFailures (releaseDns ops) := by
    refine Counted.bind counted_getPlane fun p => Counted.ite ?_ (Counted.pure ())
    refine Counted.bind (Counted.require (hwired _)) fun _ => ?_
    exact counted_check ops .clearDns id (fun _ => rfl) fun _ => counted_modifyPlane _
  have hlive : Counted portFailures (loadLive ops live) := by
    cases live with
    | none => exact counted_invoke ops .snapshot
    | some current => exact Counted.pure current
  cases decision with
  | preserveExternal => exact hrelease
  | select dns4 =>
    refine Counted.ite hrelease (Counted.bind ?_ fun applied => Counted.ite (Counted.pure ()) ?_)
    · refine Counted.bind counted_getPlane fun p => Counted.ite (Counted.ite ?_ (Counted.pure _))
        (Counted.pure _)
      exact Counted.bind hlive fun _ => Counted.pure _
    · refine Counted.bind (Counted.require (hwired _)) fun _ => ?_
      exact counted_check ops (.setDns dns4) id (fun _ => rfl) fun _ => counted_modifyPlane _

theorem counted_recomputeDnsLocked : Counted portFailures (recomputeDnsLocked ops) := by
  refine Counted.bind ?_ fun live => Counted.bind ?_ fun choice => counted_applyDns ops hwired _ _
  · refine Counted.bind counted_getPlane fun p => Counted.ite (Counted.pure _) (Counted.ite ?_ ?_)
    · refine Counted.bind (counted_invoke ops .snapshot) fun current => ?_
      exact Counted.bind (counted_modifyPlane _) fun _ => Counted.pure _
    · exact Counted.bind (counted_modifyPlane _) fun _ => Counted.pure _
  · refine Counted.bind counted_getPlane fun p => Counted.ite ?_ (Counted.pure _)
    refine Counted.bind ?_ fun _ => Counted.pure _
    cases live with
    | none => exact counted_invoke ops .snapshot
    | some current => exact Counted.pure current

theorem counted_applyEthernetStatic (ip4 netmask4 gateway4 dns4 : String) (manualMetric : Int) :
    Counted portFailures (applyEthernetStatic ops ip4 netmask4 gateway4 dns4 manualMetric) := by
  refine Counted.bind (Counted.require (by simp [hwired])) fun _ => ?_
  refine Counted.bind counted_getPlane fun p => ?_
  refine Counted.bind (counted_clearOwnedRouteLocked ops hwired _) fun _ => ?_
  refine Counted.bind (counted_invoke ops (.stopDhcp _)) fun _ => ?_
  refine Counted.bind (counted_invoke ops (.clearLease _)) fun _ => ?_
  refine Counted.bind (counted_modifyPlane _) fun _ => ?_
  refine counted_check ops (.applyIpv4 _ ip4 netmask4) id (fun _ => rfl) fun _ => ?_
  refine Counted.bind (counted_modifyPlane _) fun _ => ?_
  exact Counted.bind (counted_applyRoutesLocked ops hwired) fun _ =>
    counted_recomputeDnsLocked ops hwired

/-- On a known interface `start_dhcp` too stops only at a failed call. -/
theorem startDhcp_counted {iface : String} {s : Run W} (hknown : s.plane.knownIface iface = true) :
    wp (startDhcp ops iface) (fun _ t => portFailures s ≤ portFailures t)
      (fun _ t => portFailures s < portFailures t) s := by
  unfold startDhcp
  rw [wp_bind, wp_getPlane, hknown]
  refine (Counted.bind (Counted.require rfl) fun _ => ?_ : Counted portFailures _) s
  refine Counted.bind (Counted.require (by simp [hwired])) fun _ => ?_
  refine Counted.bind (counted_clearOwnedRouteLocked ops hwired _) fun _ => ?_
  refine Counted.bind (counted_invoke ops (.stopDhcp _)) fun _ => ?_
  refine Counted.bind (counted_invoke ops (.clearLease _)) fun _ => ?_
  refine Counted.bind (Counted.when ?_) fun _ => ?_
  · exact Counted.bind (counted_invoke ops (.clearIpv4 _)) fun _ => Counted.pure _
  refine Counted.bind (counted_modifyPlane _) fun _ => Counted.bind (counted_modifyPlane _) fun _ => ?_
  refine Counted.bind (counted_recomputeDnsLocked ops hwired) fun _ => ?_
  exact counted_check ops (.startDhcp iface) id (fun _ => rfl) fun _ => counted_modifyPlane _

end Counted

/-! ### What an apply leaves -/

section Mode

variable (ops : NetworkControlPlaneOps W) {s : Run W}

theorem ethernetMode_of_config {p q : NetworkControlPlane} (h : q.config = p.config) :
    ethernetMode q = ethernetMode p := (congrArg ethernetMode h :)

theorem applyEthernetStatic_mode (ip4 netmask4 gateway4 dns4 : String) (manualMetric : Int) :
    wp (applyEthernetStatic ops ip4 netmask4 gateway4 dns4 manualMetric)
      (fun _ t => ethernetMode t.plane = .static ip4 netmask4 gateway4 dns4 manualMetric)
      (fun _ _ => True) s := by
  unfold applyEthernetStatic
  rw [wp_bind, wp_require]
  split
  · rw [wp_bind, wp_getPlane, wp_bind]
    refine wp_of_framing (clearOwnedRouteLocked_config ops _) (fun _ t _ => ?_) fun _ _ _ => trivial
    rw [wp_bind]
    refine wp_invoke.mpr ?_
    rw [wp_bind]
    refine wp_invoke.mpr ?_
    rw [wp_bind, wp_modifyPlane, wp_bind]
    refine wp_invoke.mpr ?_
    rw [wp_bind, wp_check]
    refine ⟨fun _ _ => ?_, fun _ _ => trivial⟩
    rw [wp_bind, wp_modifyPlane, wp_bind]
    refine wp_of_framing (applyRoutesLocked_config ops) (fun _ u hu => ?_) fun _ _ _ => trivial
    refine wp_of_framing (recomputeDnsLocked_config ops) (fun _ v hv => ?_) fun _ _ _ => trivial
    exact ethernetMode_of_config (hv.trans hu)
  · trivial

theorem startDhcp_mode :
    wp (startDhcp ops s.plane.names.eth) (fun _ t => ethernetMode t.plane = .dhcp)
      (fun _ _ => True) s := by
  unfold startDhcp
  rw [wp_bind, wp_getPlane, wp_bind, wp_require]
  split
  · rw [wp_bind, wp_require]
    split
    · rw [wp_bind]
      refine wp_of_framing (clearOwnedRouteLocked_config ops _) (fun _ t ht => ?_)
        fun _ _ _ => trivial
      have hnames : t.plane.names = s.plane.names := congrArg (·.names) ht
      rw [wp_bind]
      refine wp_invoke.mpr ?_
      rw [wp_bind]
      refine wp_invoke.mpr ?_
      rw [wp_bind]
      refine wp_of_framing (Along.when (ignoredCall_config ops (.clearIpv4 _))) (fun _ u hu => ?_)
        fun _ _ _ => trivial
      have hnames' : u.plane.names = s.plane.names := (congrArg (·.names) hu :).trans hnames
      rw [wp_bind, wp_modifyPlane, wp_bind, wp_modifyPlane, wp_bind]
      refine wp_of_framing (recomputeDnsLocked_config ops) (fun _ v hv => ?_) fun _ _ _ => trivial
      rw [wp_bind]
      refine wp_invoke.mpr ?_
      rw [wp_bind, wp_check]
      refine ⟨fun _ _ => ?_, fun _ _ => trivial⟩
      have hreset : v.plane.config = (u.plane.reset s.plane.names.eth).config := hv
      have hnames'' : v.plane.names = s.plane.names :=
        (congrArg (·.names) hreset :).trans (reset_names.trans hnames')
      have hstatic : v.plane.staticEth = {} :=
        (congrArg (·.staticEth) hreset :).trans (staticEth_reset (by rw [hnames']))
      show ethernetMode (v.plane.setLink s.plane.names.eth _) = .dhcp
      rw [← hnames'', setLink_eth]
      simp [ethernetMode, hstatic]
    · trivial
  · trivial

/-- **An apply that comes to its end has put the configured mode in place**; one that does not
has a failed port call. -/
theorem applyEthernetRuntime_mode (hwired : ∀ port, ops.available port = true)
    (config : EthernetConfig) :
    wp (applyEthernetRuntime ops s.plane.names.eth config)
      (fun _ t => ethernetMode t.plane = configuredMode config)
      (fun _ t => portFailures s < portFailures t) s := by
  unfold applyEthernetRuntime configuredMode
  rw [wp_ite]
  split
  · refine wp_mono (wp_and (applyEthernetStatic_mode ops _ _ _ _ _)
      (counted_applyEthernetStatic ops hwired _ _ _ _ _ s)) (fun _ _ h => ?_) fun _ _ h => h.2
    exact h.1
  · exact wp_mono (wp_and (startDhcp_mode ops)
      (startDhcp_counted ops hwired (knownIface_iff.mpr (.inl rfl)))) (fun _ _ h => h.1)
      fun _ _ h => h.2

theorem configuredMode_managed (config : EthernetConfig) : configuredMode config ≠ .unmanaged := by
  unfold configuredMode
  split
  · exact fun h => nomatch h
  · exact fun h => nomatch h

theorem applyEthernetRuntime_names (iface : String) (config : EthernetConfig) (s : Run W) :
    (after (applyEthernetRuntime ops iface config) s).plane.names = s.plane.names := by
  unfold applyEthernetRuntime
  split
  · exact ((namesSteps ops s.plane.names).passes.applyEthernetStatic _ _ _ _ _ s rfl).1
  · exact ((namesSteps ops s.plane.names).passes.startDhcp iface s rfl).1

end Mode

/-! ### How a transaction goes -/

section Outcomes

variable (ops : NetworkControlPlaneOps W)

theorem rollBack_result (iface : String) (previous : EthernetConfig) (failure : String)
    (files : ConfigFiles) (control : Run W) :
    ∃ e, rollBack ops iface previous failure files control =
      (.error e, ⟨files, after (applyEthernetRuntime ops iface previous) control⟩) := by
  unfold rollBack after
  cases applyEthernetRuntime ops iface previous control <;> exact ⟨_, rfl⟩

/-- The configuration a request asks for in this state. -/
abbrev EthernetDaemon.desired (s : EthernetDaemon W) (request : EthernetRequest) : EthernetConfig :=
  request.desired s.control.plane.names.eth
    (loadEthernetConfig s.files.committed s.control.plane.names.eth)

/-- The configuration of the committed file. -/
abbrev EthernetDaemon.previous (s : EthernetDaemon W) : EthernetConfig :=
  loadEthernetConfig s.files.committed s.control.plane.names.eth

/-- **Every way a transaction can go**: staging fails and nothing was applied, the configuration
is applied and committed, or the configuration of the file is applied again. -/
theorem perform_cases (replies : FileReplies) (configDir : String) (request : EthernetRequest)
    (s : EthernetDaemon W) :
    (StagingFails configDir replies ∧ ∃ e, request.perform ops replies configDir s =
      (.error e, ⟨{ s.files with staged := none }, s.control⟩)) ∨
    (¬StagingFails configDir replies ∧ ∃ t,
      applyEthernetRuntime ops s.control.plane.names.eth (s.desired request) s.control = .ok () t ∧
      replies.rename = none ∧
      request.perform ops replies configDir s = (.ok (s.desired request),
        ⟨{ committed := some (serializeEthernetConfig (s.desired request)), staged := none }, t⟩)) ∨
    (¬StagingFails configDir replies ∧
      (completes (applyEthernetRuntime ops s.control.plane.names.eth (s.desired request))
        s.control = false ∨ replies.rename ≠ none) ∧
      ∃ e, request.perform ops replies configDir s =
        (.error e, ⟨{ s.files with staged := none },
          after (applyEthernetRuntime ops s.control.plane.names.eth s.previous)
            (after (applyEthernetRuntime ops s.control.plane.names.eth (s.desired request))
              s.control)⟩)) := by
  unfold EthernetRequest.perform applyEthernetTransaction
  dsimp only
  rcases stageEthernetConfig_cases configDir (s.desired request) replies s.files with
    ⟨hstaging, e, hstage⟩ | ⟨hstaging, hstage⟩
  · rw [hstage]
    exact .inl ⟨hstaging, _, rfl⟩
  rw [hstage]
  dsimp only
  cases happly : applyEthernetRuntime ops s.control.plane.names.eth (s.desired request)
      s.control with
  | error e control =>
    refine .inr (.inr ⟨hstaging, .inl ?_, ?_⟩)
    · unfold completes
      rw [happly]
    · rw [after_error happly]
      exact rollBack_result ops _ _ _ _ _
  | ok u control =>
    dsimp only
    unfold commitEthernetConfig
    cases hrename : replies.rename with
    | some e =>
      refine .inr (.inr ⟨hstaging, .inr (fun h => nomatch h), ?_⟩)
      rw [after_ok happly]
      exact rollBack_result ops _ _ _ _ _
    | none =>
      refine .inr (.inl ⟨hstaging, control, rfl, rfl, ?_⟩)
      cases replies.fsyncDirectory <;> rfl

end Outcomes

/-! ### The rollback -/

section Rollback

variable (ops : NetworkControlPlaneOps W) {replies : FileReplies} {configDir : String}
  {request : EthernetRequest} {s : EthernetDaemon W}

/-- Where staging succeeds and the transaction does not, the rollback begins behind the applied
configuration. -/
theorem rollbackStart_eq (hstaging : ¬StagingFails configDir replies)
    (hwhy : completes (applyEthernetRuntime ops s.control.plane.names.eth (s.desired request))
      s.control = false ∨ replies.rename ≠ none) :
    rollbackStart ops replies configDir request s = some (after
      (applyEthernetRuntime ops s.control.plane.names.eth (s.desired request)) s.control) := by
  unfold rollbackStart
  dsimp only
  rcases stageEthernetConfig_cases configDir (s.desired request) replies s.files with
    ⟨hfails, -⟩ | ⟨-, hstage⟩
  · exact absurd hfails hstaging
  rw [hstage]
  dsimp only
  cases happly : applyEthernetRuntime ops s.control.plane.names.eth (s.desired request)
      s.control with
  | error e control => rw [after_error happly]
  | ok u control =>
    rw [after_ok happly]
    unfold completes at hwhy
    rw [happly] at hwhy
    have hrename : replies.rename ≠ none := hwhy.resolve_left nofun
    unfold commitEthernetConfig
    cases hreply : replies.rename with
    | some e => rfl
    | none => exact absurd hreply hrename

/-- **How a request can fail**: at staging, before anything was applied, or with a rollback
that applies the configuration of the file again. -/
theorem perform_failed {failure : OperationFailure}
    (hfails : (request.perform ops replies configDir s).1 = .error failure) :
    (StagingFails configDir replies ∧
      (request.perform ops replies configDir s).2.control = s.control) ∨
    (¬StagingFails configDir replies ∧ ∃ control,
      rollbackStart ops replies configDir request s = some control ∧
      control.plane.names = s.control.plane.names ∧
      (request.perform ops replies configDir s).2.control =
        after (applyEthernetRuntime ops s.control.plane.names.eth
          (loadEthernetConfig s.files.committed s.control.plane.names.eth)) control) := by
  rcases perform_cases ops replies configDir request s with
    ⟨hstaging, e, hrun⟩ | ⟨-, t, -, -, hrun⟩ | ⟨hstaging, hwhy, e, hrun⟩
  · exact .inl ⟨hstaging, by rw [hrun]⟩
  · rw [hrun] at hfails
    cases hfails
  · exact .inr ⟨hstaging, _, rollbackStart_eq ops hstaging hwhy,
      applyEthernetRuntime_names ops _ _ _, by rw [hrun]⟩

end Rollback

/-- **When a failed Ethernet request restores the previous Ethernet ownership.**  If the
request fails and no port call of its rollback does, the Ethernet mode is the one before the
call, and an unmanaged link was not touched, exactly if staging failed or the configuration
file describes that mode. -/
theorem failed_request_restores_iff (ops : NetworkControlPlaneOps W)
    (hwired : ∀ port, ops.available port = true) (replies : FileReplies) (configDir : String)
    (request : EthernetRequest) (s : EthernetDaemon W) {failure : OperationFailure}
    (hfails : (request.perform ops replies configDir s).1 = .error failure)
    (hrollback : ∀ control, rollbackStart ops replies configDir request s = some control →
      portFailures (request.perform ops replies configDir s).2.control = portFailures control) :
    Restored s.control (request.perform ops replies configDir s).2.control ↔
      StagingFails configDir replies ∨
        configuredMode (loadEthernetConfig s.files.committed s.control.plane.names.eth) =
          ethernetMode s.control.plane := by
  rcases perform_failed ops hfails with ⟨hstaging, hcontrol⟩ | ⟨hstaging, control, hstart, hnames, hcontrol⟩
  · refine ⟨fun _ => .inl hstaging, fun _ => ?_⟩
    rw [hcontrol]
    exact ⟨rfl, fun _ => rfl⟩
  · have hfailures := hrollback control hstart
    rw [hcontrol] at hfailures ⊢
    have hends := applyEthernetRuntime_mode ops hwired (s := control)
      (loadEthernetConfig s.files.committed s.control.plane.names.eth)
    rw [hnames] at hends
    have hmode : ethernetMode (after (applyEthernetRuntime ops s.control.plane.names.eth
        (loadEthernetConfig s.files.committed s.control.plane.names.eth)) control).plane =
        configuredMode (loadEthernetConfig s.files.committed s.control.plane.names.eth) := by
      unfold wp at hends
      unfold after at hfailures ⊢
      cases hrun : applyEthernetRuntime ops s.control.plane.names.eth
          (loadEthernetConfig s.files.committed s.control.plane.names.eth) control with
      | ok u t =>
        rw [hrun] at hends
        exact hends
      | error e t =>
        rw [hrun] at hends hfailures
        exact absurd hfailures (Nat.ne_of_gt hends)
    constructor
    · intro hrestored
      exact .inr (hmode.symm.trans hrestored.mode)
    · rintro (hfailed | hsame)
      · exact absurd hfailed hstaging
      · refine ⟨hmode.trans hsame, fun hunmanaged => ?_⟩
        exact absurd (hsame.trans hunmanaged) (configuredMode_managed _)

/-! ### Two failed requests -/

/-- A platform that does everything asked of it but cannot apply an address. -/
def addressRefused : NetworkControlPlaneOps Unit where
  available _ := true
  call
    | .applyIpv4 _ _ _, w => (.error "failed to apply IPv4 address", w)
    | c, w => (c.idleReply, w)

def staticRequest : EthernetRequest :=
  .setStatic "192.168.1.50" "255.255.255.0" "192.168.1.1" "192.168.1.1"

/-- Ethernet runs a DHCP client and the file says so. -/
def dhcpDaemon : EthernetDaemon Unit :=
  ⟨{ committed := some (serializeEthernetConfig {}) },
    after (startDhcp addressRefused "eth0") (fresh .standard ())⟩

theorem failed_request_restores_iff_dhcpDaemon :
    Restored dhcpDaemon.control
        (staticRequest.perform addressRefused {} "" dhcpDaemon).2.control ∧
      ethernetMode dhcpDaemon.control.plane = .dhcp := by
  have hfails : (staticRequest.perform addressRefused {} "" dhcpDaemon).1 =
      .error ⟨500, "failed to apply IPv4 address"⟩ := by decide +kernel
  have hstart : (rollbackStart addressRefused {} "" staticRequest dhcpDaemon).all (fun control =>
      portFailures (staticRequest.perform addressRefused {} "" dhcpDaemon).2.control =
        portFailures control) = true := by decide +kernel
  refine ⟨(failed_request_restores_iff addressRefused (fun _ => rfl) {} "" staticRequest dhcpDaemon
    hfails fun control hcontrol => ?_).mpr (.inr (by decide +kernel)), by decide +kernel⟩
  rw [hcontrol] at hstart
  simpa using hstart

/-- Ethernet is left to the init scripts and there is no configuration file. -/
def unmanagedDaemon : EthernetDaemon Unit := ⟨{}, fresh .standard ()⟩

/-- The rollback of a refused static address starts a DHCP client on the unmanaged management
link and clears its address. -/
theorem refused_static_takes_over_ethernet :
    let result := staticRequest.perform addressRefused {} "" unmanagedDaemon
    result.1 = .error ⟨500, "failed to apply IPv4 address"⟩ ∧
      (rollbackStart addressRefused {} "" staticRequest unmanagedDaemon).any (fun control =>
        portFailures result.2.control = portFailures control) = true ∧
      ethernetMode unmanagedDaemon.control.plane = .unmanaged ∧
      ethernetMode result.2.control.plane = .dhcp ∧
      callsOf (takesOver "eth0") result.2.control.log = [.startDhcp "eth0", .clearIpv4 "eth0"] := by
  decide +kernel

end NetworkService.Daemon
