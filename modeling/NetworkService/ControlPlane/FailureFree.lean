import NetworkService.Library.Lockstep
import NetworkService.ControlPlane.RoutePolicy

/-!
# Runs without a failed call

A run in which no port call failed cannot be told from a run on a platform whose calls never
fail: replace every failing reply by a successful one, and the run stays what it was.  What is
known of reliable platforms therefore holds of every run that happened to meet no failure.
-/

namespace NetworkService.ControlPlane

open Fallible

variable {W : Type}

/-- A call has failed. -/
def Failed (s : Run W) : Prop := ∃ e ∈ s.log, e.ok = false

instance (s : Run W) : Decidable (Failed s) := inferInstanceAs (Decidable (∃ e ∈ s.log, e.ok = false))

theorem idleReply_succeeded (c : PortCall) : c.succeeded c.idleReply = true := by
  cases c <;> rfl

/-- The platform with its failing calls made to succeed and do nothing. -/
def NetworkControlPlaneOps.forced (ops : NetworkControlPlaneOps W) : NetworkControlPlaneOps W where
  available := ops.available
  call c w := if c.succeeded (ops.call c w).1 then ops.call c w else (c.idleReply, w)

theorem forced_succeeds (ops : NetworkControlPlaneOps W) (c : PortCall) (w : W) :
    c.succeeded (ops.forced.call c w).1 = true := by
  show c.succeeded (if c.succeeded (ops.call c w).1 then ops.call c w else _).1 = true
  split
  · next hok => exact hok
  · exact idleReply_succeeded c

/-- The forced platform, if all its ports are set. -/
def forcedPorts (ops : NetworkControlPlaneOps W) (hwired : ∀ port, ops.available port = true) :
    ReliablePorts W where
  toNetworkControlPlaneOps := ops.forced
  wired := hwired
  succeeds := forced_succeeds ops

/-! ### Function by function -/

section Functions

variable (ops : NetworkControlPlaneOps W)

/-- The member function `m` does the same on the platform and on the forced one, up to failed
calls. -/
abbrev Unforced {α : Type} (m : NetworkControlPlaneOps W → Op W α) : Prop :=
  Agrees Failed (m ops) (m ops.forced)

theorem unforced_invoke (c : PortCall) : Unforced ops fun o => invoke o c := by
  refine ⟨fun s hs => ?_, fun s hs => ?_⟩
  · have hok : c.succeeded (ops.call c s.world).1 = true := by
      cases hok : c.succeeded (ops.call c s.world).1 with
      | true => rfl
      | false => exact absurd ⟨_, List.mem_cons_self, hok⟩ hs
    have hsame : ops.forced.call c s.world = ops.call c s.world := if_pos hok
    show invoke ops.forced c s = invoke ops c s
    rw [run_invoke, run_invoke, hsame]
  · obtain ⟨e, he, hfailed⟩ := hs
    exact ⟨e, List.mem_cons_of_mem _ he, hfailed⟩

theorem unforced_getPlane : Agrees Failed (getPlane : Op W _) getPlane := .refl along_getPlane

theorem unforced_check {α : Type} (r : Except String α) : Agrees Failed (check r : Op W α) (check r) :=
  .refl (along_check r)

theorem unforced_modifyPlane (f : NetworkControlPlane → NetworkControlPlane) :
    Agrees Failed (modifyPlane f : Op W _) (modifyPlane f) := .refl fun _ hs => hs

theorem unforced_call (c : PortCall) : Unforced ops (fun o => do let _ ← invoke o c) :=
  .bind (unforced_invoke ops c) fun _ => .pure ()

theorem unforced_clearOwnedRouteLocked (iface : String) :
    Unforced ops fun o => clearOwnedRouteLocked o iface := by
  refine .bind unforced_getPlane fun p => .ite (.bind (.require _ _) fun _ => ?_) (.pure ())
  refine .bind (unforced_invoke ops _) fun r => .bind (unforced_check r) fun _ => ?_
  exact unforced_modifyPlane _

theorem unforced_ensureOwnedRouteLocked (iface gateway4 : String) (metric : Int) :
    Unforced ops fun o => ensureOwnedRouteLocked o iface gateway4 metric := by
  have hclear := unforced_clearOwnedRouteLocked ops iface
  refine .ite hclear (.bind (.require _ _) fun _ => .bind unforced_getPlane fun p => ?_)
  refine .bind (.when hclear) fun _ => .bind (unforced_invoke ops _) fun r => ?_
  exact .bind (unforced_check r) fun _ => unforced_modifyPlane _

theorem unforced_applyRoutesLocked : Unforced ops applyRoutesLocked := by
  have hclear := unforced_clearOwnedRouteLocked ops
  have hensure := unforced_ensureOwnedRouteLocked ops
  refine .bind (.bind unforced_getPlane fun p => ?_) fun _ => .bind unforced_getPlane fun p => ?_
  · exact .ite (.mapError (hensure _ _ _)) (.ite (.mapError (hensure _ _ _)) (hclear _))
  · exact .ite (.mapError (hensure _ _ _)) (hclear _)

theorem unforced_loadLive (live : Option NetworkSnapshot) :
    Unforced ops fun o => loadLive o live := by
  cases live with
  | none => exact unforced_invoke ops .snapshot
  | some current => exact .pure current

theorem unforced_releaseDns : Unforced ops releaseDns := by
  refine .bind unforced_getPlane fun p => .ite (.bind (.require _ _) fun _ => ?_) (.pure ())
  refine .bind (unforced_invoke ops _) fun r => .bind (unforced_check r) fun _ => ?_
  exact unforced_modifyPlane _

theorem unforced_applyDns (decision : DnsDecision) (live : Option NetworkSnapshot) :
    Unforced ops fun o => applyDns o decision live := by
  cases decision with
  | preserveExternal => exact unforced_releaseDns ops
  | select dns4 =>
    refine .ite (unforced_releaseDns ops) (.bind ?_ fun applied => .ite (.pure ()) ?_)
    · refine .bind unforced_getPlane fun p => .ite (.ite ?_ (.pure _)) (.pure _)
      exact .bind (unforced_loadLive ops live) fun _ => .pure _
    · refine .bind (.require _ _) fun _ => .bind (unforced_invoke ops _) fun r => ?_
      exact .bind (unforced_check r) fun _ => unforced_modifyPlane _

theorem unforced_recomputeDnsLocked : Unforced ops recomputeDnsLocked := by
  refine .bind ?_ fun live => .bind ?_ fun choice => unforced_applyDns ops _ _
  · refine .bind unforced_getPlane fun p => .ite (.pure _) (.ite ?_ ?_)
    · refine .bind (unforced_invoke ops .snapshot) fun current => ?_
      exact .bind (unforced_modifyPlane _) fun _ => .pure _
    · exact .bind (unforced_modifyPlane _) fun _ => .pure _
  · refine .bind unforced_getPlane fun p => .ite ?_ (.pure _)
    exact .bind (unforced_loadLive ops live) fun _ => .pure _

theorem unforced_reconcileLinkLocked (iface : String) :
    Unforced ops fun o => reconcileLinkLocked o iface := by
  have hclear := unforced_clearOwnedRouteLocked ops iface
  have hensure := unforced_ensureOwnedRouteLocked ops iface
  refine .bind unforced_getPlane fun p => .ite (.bind (.require _ _) fun _ => ?_) (.pure _)
  refine .bind (unforced_invoke ops _) fun reply => .bind (unforced_check reply) fun lease => ?_
  cases lease with
  | none => exact .pure _
  | some fact =>
    refine .ite (.pure _) (.ite (.bind ?_ fun _ => .pure _) (.bind ?_ fun _ => .pure _))
    · refine .bind hclear fun _ => .bind (.when ?_) fun _ => unforced_modifyPlane _
      exact .bind (unforced_invoke ops _) unforced_check
    · refine .bind (.require _ _) fun _ => .bind (.require _ _) fun _ => ?_
      refine .bind (unforced_invoke ops _) fun r => .bind (unforced_check r) fun _ => ?_
      refine .bind (.bind unforced_getPlane fun q => .ite (hensure _ _) hclear) fun _ => ?_
      exact unforced_modifyPlane _

theorem unforced_reconcileLinks : Unforced ops reconcileLinks := by
  refine .bind unforced_getPlane fun p => ?_
  refine .bind (unforced_reconcileLinkLocked ops _) fun _ => ?_
  exact .bind (unforced_reconcileLinkLocked ops _) fun _ => .pure _

/-- Address and route of one interface, as both halves of a repair pass treat them. -/
theorem unforced_repair (iface : String) (observed : InterfaceSnapshot)
    (ip4 netmask4 gateway4 : String) (metric : Int) : Unforced ops (fun o => do
      repairIpv4 o iface observed ip4 netmask4
      repairRoute o iface observed gateway4 metric) := by
  refine .bind (.ite (.pure _) (.ite (.pure _) ?_)) fun _ => ?_
  · refine .bind (.require _ _) fun _ => ?_
    exact .bind (unforced_invoke ops _) unforced_check
  · refine .bind unforced_getPlane fun p => .ite (.pure _) (.ite (.pure _) ?_)
    exact unforced_ensureOwnedRouteLocked ops _ _ _

theorem unforced_repairOwnedStateLocked : Unforced ops repairOwnedStateLocked := by
  refine .ite (.bind (unforced_invoke ops .snapshot) fun live => ?_) (.pure _)
  refine .bind (.bind unforced_getPlane fun p => ?_) fun _ => .bind unforced_getPlane fun p => ?_
  · exact .ite (unforced_repair ops _ _ _ _ _ _)
      (.ite (unforced_repair ops _ _ _ _ _ _) (.pure _))
  · exact .ite (unforced_repair ops _ _ _ _ _ _) (.pure _)

theorem unforced_startDhcp (iface : String) : Unforced ops fun o => startDhcp o iface := by
  refine .bind unforced_getPlane fun p => .bind (.require _ _) fun _ => ?_
  refine .bind (.require _ _) fun _ => .bind (unforced_clearOwnedRouteLocked ops _) fun _ => ?_
  refine .bind (unforced_invoke ops _) fun _ => .bind (unforced_invoke ops _) fun _ => ?_
  refine .bind (.when (unforced_call ops _)) fun _ => ?_
  refine .bind (unforced_modifyPlane _) fun _ => .bind (unforced_modifyPlane _) fun _ => ?_
  refine .bind (unforced_recomputeDnsLocked ops) fun _ => ?_
  refine .bind (unforced_invoke ops _) fun r => .bind (unforced_check r) fun _ => ?_
  exact unforced_modifyPlane _

theorem unforced_stopDhcp (iface : String) : Unforced ops fun o => stopDhcp o iface := by
  refine .bind unforced_getPlane fun p => .ite ?_ (.pure _)
  refine .bind (.attempt (unforced_clearOwnedRouteLocked ops _)) fun _ => ?_
  refine .bind (.when (unforced_call ops _)) fun _ => .bind (.when (unforced_call ops _)) fun _ => ?_
  refine .bind (.when (unforced_call ops _)) fun _ => .bind (unforced_modifyPlane _) fun _ => ?_
  exact .bind (.attempt (unforced_recomputeDnsLocked ops)) fun _ => .pure _

theorem unforced_adoptDhcp (iface : String) : Unforced ops fun o => adoptDhcp o iface := by
  refine .bind unforced_getPlane fun p => .bind (.require _ _) fun _ => ?_
  refine .bind (.require _ _) fun _ => .bind (unforced_modifyPlane _) fun _ => ?_
  exact .bind (unforced_modifyPlane _) fun _ => unforced_modifyPlane _

theorem unforced_applyEthernetStatic (ip4 netmask4 gateway4 dns4 : String) (manualMetric : Int) :
    Unforced ops fun o => applyEthernetStatic o ip4 netmask4 gateway4 dns4 manualMetric := by
  refine .bind (.require _ _) fun _ => .bind unforced_getPlane fun p => ?_
  refine .bind (unforced_clearOwnedRouteLocked ops _) fun _ => ?_
  refine .bind (unforced_invoke ops _) fun _ => .bind (unforced_invoke ops _) fun _ => ?_
  refine .bind (unforced_modifyPlane _) fun _ => .bind (unforced_invoke ops _) fun r => ?_
  refine .bind (unforced_check r) fun _ => .bind (unforced_modifyPlane _) fun _ => ?_
  exact .bind (unforced_applyRoutesLocked ops) fun _ => unforced_recomputeDnsLocked ops

theorem unforced_reconcileChanged : Unforced ops reconcileChanged := by
  refine .bind (.attempt (unforced_reconcileLinks ops)) fun links => ?_
  cases links with
  | error e => exact .pure _
  | ok changed =>
    refine .bind unforced_getPlane fun p => .ite ?_ (.pure _)
    exact .bind (.attempt (unforced_recomputeDnsLocked ops)) fun _ => .pure _

theorem unforced_refreshExternalState : Unforced ops refreshExternalState :=
  .bind (unforced_repairOwnedStateLocked ops) fun _ => unforced_recomputeDnsLocked ops

theorem unforced_setRoutePolicy (policy : RoutePolicy) :
    Unforced ops fun o => setRoutePolicy o policy := by
  have hroutes := unforced_applyRoutesLocked ops
  have hdns := unforced_recomputeDnsLocked ops
  refine .bind unforced_getPlane fun p => .bind (unforced_modifyPlane _) fun _ => ?_
  refine .bind (.attempt (.bind hroutes fun _ => hdns)) fun outcome => ?_
  cases outcome with
  | ok _ => exact .pure _
  | error failure =>
    refine .bind (unforced_modifyPlane _) fun _ => .bind (.attempt hroutes) fun _ => ?_
    exact .bind (.attempt hdns) fun _ => .throw failure

/-- **An operation that meets no failure does what it does on the forced platform.** -/
theorem unforced_perform (op : Operation) : Unforced ops op.perform := by
  cases op with
  | startDhcp iface => exact unforced_startDhcp ops iface
  | stopDhcp iface => exact unforced_stopDhcp ops iface
  | adoptDhcp iface => exact unforced_adoptDhcp ops iface
  | applyEthernetStatic ip4 netmask4 gateway4 dns4 manualMetric =>
    exact unforced_applyEthernetStatic ops ip4 netmask4 gateway4 dns4 manualMetric
  | reconcile =>
    exact .bind (unforced_reconcileLinks ops) fun _ => unforced_refreshExternalState ops
  | reconcileChanged =>
    exact .bind (unforced_reconcileChanged ops) fun result => unforced_check result.2
  | refreshExternalState => exact unforced_refreshExternalState ops
  | setRoutePolicy policy => exact unforced_setRoutePolicy ops policy

end Functions

/-! ### Whole runs -/

/-- A run without a failed call is a run of the forced platform. -/
theorem Reachable.forced {ops : NetworkControlPlaneOps W} {allowed : Run W → Operation → Prop}
    {s : Run W} (hs : Reachable ops allowed s) (hfree : ¬Failed s) :
    Reachable ops.forced allowed s := by
  induction hs with
  | fresh names w => exact .fresh names w
  | @perform s op _ hallowed ih =>
    have hagrees := unforced_perform ops op
    have hstart : ¬Failed s := fun hfailed => hfree (hagrees.keeps s hfailed)
    have hrun : op.perform ops.forced s = op.perform ops s := hagrees.same s hfree
    have hsame : after (op.perform ops) s = after (op.perform ops.forced) s := by
      unfold after
      rw [hrun]
    rw [hsame]
    exact .perform op (ih hstart) hallowed
  | environment w _ ih => exact .environment w (ih hfree)

/-- In a run without a failed call both owned routes are the desired ones. -/
theorem Reachable.followsPolicy {ops : NetworkControlPlaneOps W}
    (hwired : ∀ port, ops.available port = true) {s : Run W}
    (hs : Reachable ops SparesStatic s) (hfree : ¬Failed s) : FollowsPolicy s.plane :=
  reliable_followsPolicy (forcedPorts ops hwired) (hs.forced hfree)

end NetworkService.ControlPlane
