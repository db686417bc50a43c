import NetworkService.ControlPlane.Outcomes

/-!
# A platform that does what it is asked

`ReliablePorts` has every port, as the daemon wires them, and every call succeeds; what
`read_lease` and `snapshot` report is still arbitrary.  On such a platform the route and DNS
functions always run to their end, and what they do to the records is a function of the
records.
-/

namespace NetworkService.ControlPlane

open Fallible

/-- Ports that are all set and whose calls all succeed. -/
structure ReliablePorts (W : Type) extends NetworkControlPlaneOps W where
  wired : ∀ port, available port = true
  succeeds : ∀ (c : PortCall) w, c.succeeded (call c w).1 = true

/-- A reliable platform that holds one lease file, the same for both interfaces. -/
def leasePorts : ReliablePorts (Option DhcpLeaseFact) where
  available _ := true
  call
    | .readLease _, lease => (.ok lease, lease)
    | c, lease => (c.idleReply, lease)
  wired _ := rfl
  succeeds c _ := by cases c <;> rfl

variable {W : Type}

theorem ReliablePorts.not_mayFail (P : ReliablePorts W) :
    ¬P.toNetworkControlPlaneOps.MayFail := by
  rintro (⟨port, havail⟩ | ⟨c, w, hfails⟩)
  · exact nomatch (P.wired port).symm.trans havail
  · exact nomatch (P.succeeds c w).symm.trans hfails

/-! ### Weakest preconditions -/

section Wp

variable (P : ReliablePorts W) {s : Run W} {Q : Unit → Run W → Prop}
  {E : String → Run W → Prop}

theorem wp_clearOwnedRouteLocked {iface : String}
    (h : ∀ t : Run W, t.plane = s.plane.withdraw iface → Q () t) :
    wp (clearOwnedRouteLocked P.toNetworkControlPlaneOps iface) Q E s :=
  clearOwnedRouteLocked_leaves _ h fun hfail => absurd hfail P.not_mayFail

/-- One link pass: nothing new, a `deconfig` fact, or a fact to apply. -/
theorem wp_reconcileLinkLocked {iface : String} {Q : Bool → Run W → Prop}
    (hsame : ∀ t : Run W, t.plane = s.plane → Q false t)
    (hdeconfig : (s.plane.linkFor iface).managedDhcp = true → ∀ (fact : DhcpLeaseFact) (t : Run W),
      t.plane = (s.plane.withdraw iface).setLink iface
        { s.plane.linkFor iface with
          active := false, lease := fact, fingerprint := fact.fingerprint } → Q true t)
    (hconfigure : (s.plane.linkFor iface).managedDhcp = true → ∀ (fact : DhcpLeaseFact) (t : Run W),
      fact.configured = true → t.plane = (s.plane.leaseRouted iface fact).setLink iface
        { s.plane.linkFor iface with
          active := true, lease := fact, fingerprint := fact.fingerprint } → Q true t)
    (hE : ∀ e (t : Run W), t.plane = s.plane → E e t) :
    wp (reconcileLinkLocked P.toNetworkControlPlaneOps iface) Q E s :=
  reconcileLinkLocked_leaves _ hsame hdeconfig hconfigure hE fun hfail =>
    absurd hfail P.not_mayFail

theorem wp_startDhcp {iface : String}
    (h : s.plane.knownIface iface = true → ∀ t : Run W, t.plane.links =
      (((s.plane.withdraw iface).reset iface).setLink iface { managedDhcp := true }).links →
      Q () t) (hunknown : s.plane.knownIface iface = false → ∀ e, E e s) :
    wp (startDhcp P.toNetworkControlPlaneOps iface) Q E s :=
  startDhcp_leaves _ h hunknown fun hfail => absurd hfail P.not_mayFail

theorem wp_stopDhcp {iface : String}
    (h : s.plane.knownIface iface = true → ∀ t : Run W,
      t.plane.links = ((s.plane.withdraw iface).setLink iface {}).links → Q () t)
    (hunknown : s.plane.knownIface iface = false → Q () s) :
    wp (stopDhcp P.toNetworkControlPlaneOps iface) Q E s := by
  refine stopDhcp_leaves _ (fun hknown p t hp ht => ?_) hunknown
  obtain rfl := hp.resolve_right fun hfail => P.not_mayFail hfail.1.1
  exact h hknown t ht

end Wp

end NetworkService.ControlPlane
