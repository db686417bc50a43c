import NetworkService.ControlPlane.PolicyRollback
import NetworkService.Platform.ResolverFile

/-!
# A failed policy change and the resolver file

A resolver write that fails may have truncated the file before.  When it makes a policy change fail,
the rollback writes the file again if the service manages the resolver, and otherwise leaves it as
the failed write left it: the records and the routes are undone in every case, the file of another
owner is lost.
-/

namespace NetworkService.ControlPlane

open Fallible NetworkControlPlane Platform

variable {W : Type}

/-! ### The file behind the ports -/

/-- Ports that also show the resolver file: a snapshot tells its nameserver, `set_primary_dns` writes
it from scratch when it succeeds, and calls that are not resolver writes leave it alone. -/
structure FilePorts (W : Type) extends KernelPorts W where
  file : W → ResolverFile
  shows : ∀ w, (view w).resolver = (readDnsFact (file w)).dns4
  writes : ∀ dns4 w, PortCall.succeeded (.setDns dns4) (call (.setDns dns4) w).1 = true →
    file (call (.setDns dns4) w).2 = some (resolverText dns4)
  keeps : ∀ (c : PortCall) w, c.writesDns = false → file (call c w).2 = file w

/-- A resolver write that failed is the only call that can have touched the file. -/
def Spoiled (K : FilePorts W) (found left : ResolverFile) : Prop :=
  left = found ∨ ∃ (c : PortCall) (w : W), c.writesDns = true ∧
    PortCall.succeeded c (K.call c w).1 = false ∧ K.file w = found ∧ left = K.file (K.call c w).2

section File

variable (K : FilePorts W) {s t : Run W}

theorem applyRoutesLocked_file :
    Along (Framing fun t : Run W => K.file t.world) (applyRoutesLocked K.toNetworkControlPlaneOps) := by
  intro s
  have hsteps : RouteSteps K.toNetworkControlPlaneOps s.plane.names
      (Framing fun t : Run W => K.file t.world) :=
    routeSteps_of_calls (fun c hc t => K.keeps c t.world (by cases c <;> first | rfl | exact nomatch hc))
      fun _ _ _ => rfl
  exact (hsteps.applyRoutes s rfl).2

theorem snapshot_file : Along (Framing fun t : Run W => K.file t.world)
    (invoke K.toNetworkControlPlaneOps .snapshot) := fun t => K.keeps .snapshot t.world rfl

theorem loadLive_file (live : Option NetworkSnapshot) :
    Along (Framing fun t : Run W => K.file t.world) (loadLive K.toNetworkControlPlaneOps live) := by
  cases live with
  | some current => exact Along.pure current
  | none => exact snapshot_file K

theorem initializeDnsOwnership_file : Along (Framing fun t : Run W => K.file t.world)
    (initializeDnsOwnership K.toNetworkControlPlaneOps) := by
  refine Along.bind along_getPlane fun p => Along.ite (Along.pure _) (Along.ite ?_ ?_)
  · refine Along.bind (snapshot_file K) fun current => ?_
    exact Along.bind (fun _ => rfl) fun _ => Along.pure _
  · exact Along.bind (fun _ => rfl) fun _ => Along.pure _

theorem selectDns_file (live : Option NetworkSnapshot) :
    Along (Framing fun t : Run W => K.file t.world) (selectDns K.toNetworkControlPlaneOps live) := by
  refine Along.bind along_getPlane fun p => Along.ite ?_ (Along.pure _)
  exact Along.bind (loadLive_file K live) fun _ => Along.pure _

theorem dnsAlreadyApplied_file (dns4 : String) (live : Option NetworkSnapshot) :
    Along (Framing fun t : Run W => K.file t.world)
      (dnsAlreadyApplied K.toNetworkControlPlaneOps dns4 live) := by
  refine Along.bind along_getPlane fun p => Along.ite (Along.ite ?_ (Along.pure _)) (Along.pure _)
  exact Along.bind (loadLive_file K live) fun _ => Along.pure _

theorem releaseDns_spoils (ht : K.file t.world = K.file s.world) :
    wp (releaseDns K.toNetworkControlPlaneOps) (fun _ _ => True)
      (fun _ u => Spoiled K (K.file s.world) (K.file u.world)) t := by
  unfold releaseDns
  rw [wp_bind, wp_getPlane]
  refine wp_split (fun _ => ?_) fun _ => trivial
  rw [wp_bind, wp_require, if_pos (K.wired _), wp_bind]
  refine wp_invoke.mpr ?_
  rw [wp_bind, wp_check]
  exact ⟨fun _ _ => trivial, fun e herror =>
    Or.inr ⟨.clearDns, t.world, rfl, by rw [herror]; rfl, ht, rfl⟩⟩

/-- **A DNS pass that fails** has touched the file at most with its last call. -/
theorem recomputeDnsLocked_spoils :
    wp (recomputeDnsLocked K.toNetworkControlPlaneOps) (fun _ _ => True)
      (fun _ t => Spoiled K (K.file s.world) (K.file t.world)) s := by
  unfold recomputeDnsLocked
  rw [wp_bind]
  refine wp_of_framing (initializeDnsOwnership_file K) (fun live t ht => ?_) fun _ _ h => Or.inl h
  rw [wp_bind]
  refine wp_of_framing (selectDns_file K live) (fun choice u hu => ?_) fun _ _ h =>
    Or.inl (h.trans ht)
  have hfound : K.file u.world = K.file s.world := hu.trans ht
  cases choice.1 with
  | preserveExternal => exact releaseDns_spoils K hfound
  | select dns4 =>
    refine wp_split (fun _ => releaseDns_spoils K hfound) fun _ => ?_
    rw [wp_bind]
    refine wp_of_framing (dnsAlreadyApplied_file K dns4 choice.2) (fun applied v hv => ?_)
      fun _ _ h => Or.inl (h.trans hfound)
    refine wp_split (fun _ => trivial) fun _ => ?_
    rw [wp_bind, wp_require, if_pos (K.wired _), wp_bind]
    refine wp_invoke.mpr ?_
    rw [wp_bind, wp_check]
    exact ⟨fun _ _ => trivial, fun e herror =>
      Or.inr ⟨.setDns dns4, v.world, rfl, by rw [herror]; rfl, hv.trans hfound, rfl⟩⟩

/-- The recorded nameserver has been written if the file did not show it any more, and nothing else
has changed. -/
structure Rewritten (s t : Run W) : Prop where
  records : t.plane = s.plane
  view : (K.viewOf t).besidesResolver = (K.viewOf s).besidesResolver
  file : K.file t.world =
    if s.plane.managedDns = true ∧ (K.viewOf s).resolver ≠ s.plane.lastDns then
      some (resolverText s.plane.lastDns)
    else K.file s.world

/-- **A DNS pass over records that know their target** rewrites a file that has lost it. -/
theorem recomputeDnsLocked_rewrites (hnames : s.plane.names = K.names)
    (hinit : s.plane.dnsOwnershipInitialized = true)
    (hnone : dnsTarget s.plane (K.viewOf s) = none → s.plane.managedDns = false)
    (hsome : ∀ dns4, dnsTarget s.plane (K.viewOf s) = some dns4 →
      s.plane.managedDns = true ∧ s.plane.lastDns = dns4) :
    wp (recomputeDnsLocked K.toNetworkControlPlaneOps) (fun _ t => Rewritten K s t)
      (fun _ t => dnsFailures s < dnsFailures t) s := by
  have hread : ∀ {t : Run W}, Observed K.toKernelPorts s t → K.file t.world = K.file s.world :=
    fun ht => ht.rest K.file fun w => K.keeps .snapshot w rfl
  have hfailures : ∀ {t : Run W}, Observed K.toKernelPorts s t → dnsFailures t = dnsFailures s := by
    intro t ht
    obtain ⟨added, hlog, hadded⟩ := ht.log
    unfold dnsFailures
    rw [hlog, List.countP_append, List.countP_eq_zero.mpr, Nat.zero_add]
    intro e he
    rw [hadded e he]
    exact Bool.false_ne_true
  -- nothing to write
  have hquiet : ∀ {t : Run W}, Observed K.toKernelPorts s t →
      ¬(s.plane.managedDns = true ∧ (K.viewOf s).resolver ≠ s.plane.lastDns) → Rewritten K s t :=
    fun ht hno => ⟨ht.plane, congrArg KernelView.besidesResolver ht.view,
      (hread ht).trans (if_neg hno).symm⟩
  have hrelease : ∀ {t : Run W}, Observed K.toKernelPorts s t → s.plane.managedDns = false →
      wp (releaseDns K.toNetworkControlPlaneOps) (fun _ t => Rewritten K s t)
        (fun _ t => dnsFailures s < dnsFailures t) t :=
    fun ht hunmanaged => wp_releaseDns_unmanaged K.toKernelPorts (by rw [ht.plane]; exact hunmanaged)
      (hquiet ht fun hyes => nomatch hyes.1.symm.trans hunmanaged)
  unfold recomputeDnsLocked initializeDnsOwnership
  rw [wp_bind, wp_bind, wp_getPlane, wp_ite, if_pos hinit, wp_pure, wp_bind]
  refine wp_selectDns_observed K.toKernelPorts hnames fun choice t hchoice hlive ht => ?_
  cases hdecision : choice.1 with
  | preserveExternal =>
    rw [hdecision] at hchoice
    exact hrelease ht (hnone hchoice.symm)
  | select dns4 =>
    rw [hdecision] at hchoice
    refine wp_split (fun hempty => hrelease ht (hnone (hchoice.symm.trans (if_pos hempty)))) fun hne => ?_
    obtain ⟨hmanaged, rfl⟩ := hsome dns4 (hchoice.symm.trans (if_neg hne))
    have hview : K.viewOf t = K.viewOf s := ht.view
    unfold dnsAlreadyApplied
    rw [wp_bind, wp_bind, wp_getPlane, wp_ite, if_pos (by rw [ht.plane]; exact ⟨hmanaged, rfl⟩), wp_ite,
      if_pos (K.wired _), wp_bind]
    refine wp_loadLive_observed K.toKernelPorts (by rw [hview]; exact hlive) fun current u hcurrent hu => ?_
    have hsu := ht.trans K.toKernelPorts hu
    have hresolver : current.dns4 = (K.viewOf s).resolver := by
      rw [(hcurrent current rfl).2, hview]
    rw [wp_pure]
    refine wp_split (fun happlied => hquiet hsu ?_) fun hstale => ?_
    · rintro ⟨-, hdiffers⟩
      exact hdiffers (hresolver.symm.trans (of_decide_eq_true happlied))
    · have hdiffers : (K.viewOf s).resolver ≠ s.plane.lastDns := by
        intro hsame
        exact hstale (decide_eq_true (hresolver.trans hsame))
      rw [wp_bind, wp_require, if_pos (K.wired _), wp_bind]
      refine wp_invoke.mpr ?_
      rw [wp_bind, wp_check]
      refine ⟨fun _ hok => ⟨?_, ?_, ?_⟩, fun e herror => ?_⟩
      · show { u.plane with managedDns := true, lastDns := s.plane.lastDns } = s.plane
        rw [hsu.plane, ← hmanaged]
      · have hset := K.effective (.setDns s.plane.lastDns) u.world (congrArg Except.isOk hok)
        show (K.view (K.call (.setDns s.plane.lastDns) u.world).2).besidesResolver = _
        rw [hset, show K.view u.world = K.viewOf s from hsu.view]
        rfl
      · rw [if_pos ⟨hmanaged, hdiffers⟩]
        exact K.writes s.plane.lastDns u.world (congrArg Except.isOk hok)
      · rw [← hfailures hsu]
        exact dnsFailures_failed rfl (congrArg Except.isOk herror)

variable {K}

/-- **The way back restores the records and what is held of the routes**, and rewrites a managed
file that has lost its nameserver. -/
theorem rollback_restores (hs : Ready K.toKernelPorts s) (h : RoutesApart K.toKernelPorts s t)
    (hdone : completes (applyRoutesLocked K.toNetworkControlPlaneOps) t = true) :
    wp (recomputeDnsLocked K.toNetworkControlPlaneOps)
      (fun _ u => u.plane = s.plane ∧ RoutesHeld K.toKernelPorts u ∧
        K.file u.world =
          if s.plane.managedDns = true ∧ (K.viewOf t).resolver ≠ s.plane.lastDns then
            some (resolverText s.plane.lastDns)
          else K.file t.world)
      (fun _ u => dnsFailures t < dnsFailures u)
      (after (applyRoutesLocked K.toNetworkControlPlaneOps) t) := by
  have happlied := h.applied hs.names
  have hfollows : FollowsPolicy (after (applyRoutesLocked K.toNetworkControlPlaneOps) t).plane := by
    have hwp : wp (applyRoutesLocked K.toNetworkControlPlaneOps) (fun _ u => FollowsPolicy u.plane)
        (fun _ _ => True) t :=
      applyRoutesLocked_leaves (F := True) _ (fun _ => trivial) (fun _ hu _ => hu)
        fun _ _ _ _ _ => trivial
    unfold wp at hwp
    rw [run_of_completes hdone] at hwp
    exact hwp
  have hpart := applyRoutesLocked_dnsPart K.toKernelPorts t
  have hfile := applyRoutesLocked_file K t
  generalize after (applyRoutesLocked K.toNetworkControlPlaneOps) t = a at happlied hfollows hpart hfile
  have hplane := happlied.plane_eq hs hfollows
  have htarget := happlied.dnsTarget_eq hs hplane
  have hresolver : (K.viewOf a).resolver = (K.viewOf t).resolver := congrArg DnsPart.resolver hpart
  have hfailures : dnsFailures a = dnsFailures t := congrArg DnsPart.failures hpart
  have hsettled := hs.settled
  refine wp_mono (recomputeDnsLocked_rewrites K (happlied.names.trans hs.names)
    (by rw [hplane]; exact hs.initialized) (fun hnone => ?_) fun dns4 hsome => ?_)
    (fun _ u hu => ?_) fun _ u hu => ?_
  · rw [hplane]
    exact (dnsSettled_none (htarget.symm.trans hnone)).mp hsettled
  · rw [hplane]
    obtain ⟨hmanaged, hlast, -⟩ := (dnsSettled_some (htarget.symm.trans hsome)).mp hsettled
    exact ⟨hmanaged, hlast⟩
  · obtain ⟨hkept, hview, hwritten⟩ := hu
    refine ⟨hkept.trans hplane, (happlied.of_same hkept hview).held, ?_⟩
    rw [hwritten, hplane, hresolver, show K.file a.world = K.file t.world from hfile]
  · rw [← hfailures]
    exact hu

/-- A managed resolver that is settled shows the recorded nameserver. -/
theorem Ready.resolver {K : KernelPorts W} {s : Run W} (hs : Ready K s)
    (hmanaged : s.plane.managedDns = true) : (K.viewOf s).resolver = s.plane.lastDns := by
  have hsettled := hs.settled
  cases htarget : dnsTarget s.plane (K.viewOf s) with
  | none => exact nomatch hmanaged.symm.trans ((dnsSettled_none htarget).mp hsettled)
  | some dns4 =>
    obtain ⟨-, hlast, hresolver⟩ := (dnsSettled_some htarget).mp hsettled
    exact hresolver.trans hlast.symm

/-- Where no call fails no resolver write does. -/
theorem dnsFailures_of_ok (h : LogGrows (fun c => c.ok = true) s t) : dnsFailures t = dnsFailures s := by
  obtain ⟨added, hlog, hok⟩ := h
  unfold dnsFailures
  rw [hlog, List.countP_append, List.countP_eq_zero.mpr, Nat.zero_add]
  intro e he
  rw [hok e he, Bool.not_true, Bool.and_false]
  exact Bool.false_ne_true

end File

/-- The file as the call that fails leaves it. -/
def fileLeft (K : FilePorts W) (policy : RoutePolicy) (s : Run W) : ResolverFile :=
  K.file (after (policyPass K.toNetworkControlPlaneOps) (attempted policy s)).world

/-- **The file as the attempt leaves it** differs from the one it found only by a failed write. -/
theorem fileLeft_spoiled (K : FilePorts W) {policy : RoutePolicy} {s tried : Run W} {e : String}
    (h : policyPass K.toNetworkControlPlaneOps (attempted policy s) = .error e tried) :
    Spoiled K (K.file s.world) (fileLeft K policy s) := by
  have hwp : wp (policyPass K.toNetworkControlPlaneOps) (fun _ _ => True)
      (fun _ t => Spoiled K (K.file s.world) (K.file t.world)) (attempted policy s) := by
    unfold policyPass
    rw [wp_bind]
    refine wp_of_framing (applyRoutesLocked_file K) (fun _ t ht => ?_) fun _ _ h => Or.inl h
    exact wp_mono (recomputeDnsLocked_spoils K) (fun _ _ h => h) fun _ u hu => ht ▸ hu
  unfold wp at hwp
  rw [h] at hwp
  unfold fileLeft
  rw [after_error h]
  exact hwp

section Back

variable {ops : NetworkControlPlaneOps W} {policy : RoutePolicy} {s tried : Run W} {failure : String}

/-- Both steps of the way back are taken, whatever becomes of the first. -/
theorem after_setRoutePolicy_rejected
    (hforward : policyPass ops (attempted policy s) = .error failure tried) :
    after (setRoutePolicy ops policy) s = after (recomputeDnsLocked ops)
      (after (applyRoutesLocked ops) (policyRolledBack ops policy s)) := by
  have hrun : after (setRoutePolicy ops policy) s = after (do
      let _ ← attempt (applyRoutesLocked ops)
      let _ ← attempt (recomputeDnsLocked ops)
      throw failure : Op W Unit) (policyRolledBack ops policy s) := by
    unfold after
    rw [setRoutePolicy_rejected hforward]
  rw [hrun, after_attempt_bind, after_attempt_bind]
  rfl

/-- When both succeed, the error is still that of the attempt. -/
theorem setRoutePolicy_undone {v : Run W} {x : Unit}
    (hforward : policyPass ops (attempted policy s) = .error failure tried)
    (hroutes : completes (applyRoutesLocked ops) (policyRolledBack ops policy s) = true)
    (hdns : recomputeDnsLocked ops (after (applyRoutesLocked ops) (policyRolledBack ops policy s)) =
      .ok x v) : setRoutePolicy ops policy s = .error failure v := by
  rw [setRoutePolicy_rejected hforward, run_attempt_bind (run_of_completes hroutes),
    run_attempt_bind hdns]
  rfl

end Back

/-- **A failed policy change is rolled back.**  After a run without failed calls and without changes
from outside, whose last operation was a successful `reconcile`: if `set_route_policy` returns
`false` and every call made after the old policy is restored succeeds, then all records are as
before (policy, owned routes and resolver records among them), and so are the default routes
the service installed; the error is that of the attempt.  The resolver file is as the attempt left
it, which is as a failed write did if there was one, or written anew for the recorded nameserver. -/
theorem policy_change_rolled_back (K : FilePorts W) {s u : Run W} (hs : JustReconciled K.toKernelPorts s)
    {policy : RoutePolicy} {e : String}
    (hfail : (Operation.setRoutePolicy policy).perform K.toNetworkControlPlaneOps s = .error e u)
    (hback : LogGrows (fun c => c.ok = true)
      (policyRolledBack K.toNetworkControlPlaneOps policy s) u) :
    u.plane = s.plane ∧
      installedRoutes K.toKernelPorts u = installedRoutes K.toKernelPorts s ∧
      (∃ tried, policyPass K.toNetworkControlPlaneOps (attempted policy s) = .error e tried) ∧
      Spoiled K (K.file s.world) (fileLeft K policy s) ∧
      K.file u.world =
        if s.plane.managedDns = true ∧
            (readDnsFact (fileLeft K policy s)).dns4 ≠ s.plane.lastDns then
          some (resolverText s.plane.lastDns)
        else fileLeft K policy s := by
  let ops := K.toNetworkControlPlaneOps
  have hready := hs.ready
  have hreach : Reachable ops AdoptsAtStart s := hs.smooth.reachable.mono fun _ _ hallowed =>
    hallowed.1
  cases hforward : policyPass ops (attempted policy s) with
  | ok x t => exact nomatch hfail.symm.trans (setRoutePolicy_accepted hforward)
  | error failure tried =>
    have hapart : RoutesApart K.toKernelPorts s (policyRolledBack ops policy s) := by
      refine policyRolledBack_apart hready ?_
      unfold completes
      rw [hforward]
    have hend := (after_error hfail).symm.trans (after_setRoutePolicy_rejected hforward)
    have hrest : LogGrows (fun _ => True)
        (after (applyRoutesLocked ops) (policyRolledBack ops policy s)) u := by
      rw [hend]
      exact recomputeDnsLocked_grows ops _
    have hdone := applyRoutesLocked_completes (K := K.toKernelPorts) hrest hback
    have hrestores := rollback_restores (K := K) hready hapart hdone
    unfold wp at hrestores
    cases hresolved : recomputeDnsLocked ops
        (after (applyRoutesLocked ops) (policyRolledBack ops policy s)) with
    | error e' v =>
      rw [hresolved] at hrestores
      rw [after_error hresolved] at hend
      exact absurd (dnsFailures_of_ok hback) (Nat.ne_of_gt (by rw [hend]; exact hrestores))
    | ok _ v =>
      rw [hresolved] at hrestores
      obtain ⟨hplane, hheld, hfile⟩ := hrestores
      obtain ⟨rfl, rfl⟩ := EStateM.Result.error.inj
        (hfail.symm.trans (setRoutePolicy_undone hforward hdone hresolved))
      have hreach' : Reachable ops AdoptsAtStart u := by
        have hperformed := Reachable.perform (.setRoutePolicy policy) hreach trivial
        rw [after_error hfail] at hperformed
        exact hperformed
      have hnames : u.plane.names = K.names := by
        rw [hplane]
        exact hready.names
      refine ⟨hplane, ?_, ⟨tried, rfl⟩, fileLeft_spoiled K hforward, ?_⟩
      · rw [installedRoutes_eq hnames hheld hreach'.routesOwned,
          installedRoutes_eq hready.names hready.held hreach.routesOwned, hplane]
      · rw [hfile]
        show (if _ ∧ (K.view (policyRolledBack ops policy s).world).resolver ≠ _ then _ else _) = _
        rw [K.shows]
        rfl

/-- All that a failed policy change has to undo. -/
structure Undone (K : FilePorts W) (policy : RoutePolicy) (s u : Run W) (e : String) : Prop where
  records : u.plane = s.plane
  routes : installedRoutes K.toKernelPorts u = installedRoutes K.toKernelPorts s
  resolver : K.file u.world = K.file s.world
  error : ∃ tried, policyPass K.toNetworkControlPlaneOps (attempted policy s) = .error e tried

/-- The failed call leaves the resolver file as it was, or the file is the service's own, exactly as
`set_primary_dns` writes it, and has lost its nameserver. -/
def Restorable (K : FilePorts W) (policy : RoutePolicy) (s : Run W) : Prop :=
  fileLeft K policy s = K.file s.world ∨
    s.plane.managedDns = true ∧ K.file s.world = some (resolverText s.plane.lastDns) ∧
      (readDnsFact (fileLeft K policy s)).dns4 ≠ s.plane.lastDns

/-- **When a failed policy change is undone.**  After a run without failed calls and without changes
from outside, whose last operation was a successful `reconcile`, a `set_route_policy` that returns
`false`, and whose calls after the old policy is restored all succeed, has left everything as it was
exactly if the resolver file could be restored. -/
theorem failed_policy_change_undone (K : FilePorts W) {s u : Run W}
    (hs : JustReconciled K.toKernelPorts s) {policy : RoutePolicy} {e : String}
    (hfail : (Operation.setRoutePolicy policy).perform K.toNetworkControlPlaneOps s = .error e u)
    (hback : LogGrows (fun c => c.ok = true)
      (policyRolledBack K.toNetworkControlPlaneOps policy s) u) :
    Undone K policy s u e ↔ Restorable K policy s := by
  obtain ⟨hplane, hroutes, herror, -, hfile⟩ := policy_change_rolled_back K hs hfail hback
  by_cases hrewritten : s.plane.managedDns = true ∧
      (readDnsFact (fileLeft K policy s)).dns4 ≠ s.plane.lastDns
  · rw [if_pos hrewritten] at hfile
    constructor
    · intro hundone
      exact Or.inr ⟨hrewritten.1, hundone.resolver.symm.trans hfile, hrewritten.2⟩
    · rintro (hspared | ⟨-, htext, -⟩)
      · have hresolver := hs.ready.resolver hrewritten.1
        rw [K.shows, ← hspared] at hresolver
        exact absurd hresolver hrewritten.2
      · exact ⟨hplane, hroutes, hfile.trans htext.symm, herror⟩
  · rw [if_neg hrewritten] at hfile
    constructor
    · intro hundone
      exact Or.inl (hfile.symm.trans hundone.resolver)
    · rintro (hspared | ⟨hmanaged, -, hlost⟩)
      · exact ⟨hplane, hroutes, hfile.trans hspared, herror⟩
      · exact absurd ⟨hmanaged, hlost⟩ hrewritten

/-! ### Runs on a machine with a resolver file -/

/-- The small machine with a resolver file, and how many more writes to it will fail: each truncates
the file and finds no room for the text. -/
structure FileMachine where
  base : Machine := {}
  file : ResolverFile := some []
  failing : Nat := 0

namespace FileMachine

def view (m : FileMachine) : KernelView :=
  { m.base.view with
    resolver := (readDnsFact m.file).dns4, marker := dnsFileOwnedByNetworkService m.file }

def call : (c : PortCall) → FileMachine → c.Reply × FileMachine
  | .setDns dns4, m =>
    if m.failing ≠ 0 then
      (.error "failed to write /etc/resolv.conf",
        { m with file := some [], failing := m.failing - 1 })
    else if (readDnsFact (some (resolverText dns4))).dns4 = dns4 then
      (.ok (), { m with file := some (resolverText dns4) })
    else (.error "invalid DNS IPv4 address", m)
  | .clearDns, m =>
    if dnsFileOwnedByNetworkService m.file then
      if m.failing ≠ 0 then
        (.error "failed to clear /etc/resolv.conf",
          { m with file := some [], failing := m.failing - 1 })
      else (.ok (), { m with file := some [] })
    else (.ok (), m)
  | .snapshot, m =>
    ({ (Machine.call .snapshot m.base).1 with
        dns4 := (readDnsFact m.file).dns4
        dnsManagedByNetworkService := dnsFileOwnedByNetworkService m.file }, m)
  | c, m => ((Machine.call c m.base).1, { m with base := (Machine.call c m.base).2 })

theorem view_call_of_succeeded (m : FileMachine) (c : PortCall)
    (hok : c.succeeded (call c m).1 = true) : (call c m).2.view = m.view.effect c := by
  have hbase : ∀ {v : KernelView}, v = m.base.view.effect c → c.writesDns = false →
      { v with resolver := (readDnsFact m.file).dns4, marker := dnsFileOwnedByNetworkService m.file } =
        m.view.effect c := by
    rintro v rfl hdns
    cases c <;> first | rfl | cases hdns
  cases c with
  | setDns dns4 =>
    unfold call at hok ⊢
    dsimp only at hok ⊢
    split at hok
    · cases hok
    · next hroom =>
      split at hok
      · next hread =>
        rw [if_neg hroom, if_pos hread]
        unfold view KernelView.effect
        rw [hread, dnsFileOwned_resolverText]
      · cases hok
  | clearDns =>
    unfold call at hok ⊢
    dsimp only at hok ⊢
    cases howned : dnsFileOwnedByNetworkService m.file with
    | false => simp [view, KernelView.effect, howned]
    | true =>
      rw [howned, if_pos rfl] at hok
      split at hok
      · cases hok
      · next hroom =>
        rw [if_pos rfl, if_neg hroom]
        unfold view KernelView.effect
        dsimp only
        rw [if_pos howned]
        rfl
  | snapshot => rfl
  | startDhcp | stopDhcp | readLease | clearLease | applyIpv4 | clearIpv4 | setDefaultRoute
  | clearDefaultRoute => exact hbase (m.base.view_call_of_succeeded _ hok) rfl

theorem view_call_of_failed (m : FileMachine) (c : PortCall)
    (hfailed : c.succeeded (call c m).1 = false) (hdns : c.writesDns = false) :
    (call c m).2.view = m.view := by
  cases c with
  | setDns | clearDns => cases hdns
  | snapshot => rfl
  | startDhcp | stopDhcp | readLease | clearLease | applyIpv4 | clearIpv4 | setDefaultRoute
  | clearDefaultRoute =>
    exact congrArg (fun v : KernelView => { v with
      resolver := (readDnsFact m.file).dns4
      marker := dnsFileOwnedByNetworkService m.file }) (m.base.view_call_of_failed _ hfailed)

theorem view_call_of_write (m : FileMachine) (c : PortCall) (hdns : c.writesDns = true) :
    (call c m).2.view.besidesResolver = m.view.besidesResolver := by
  cases c with
  | setDns dns4 =>
    unfold call
    dsimp only
    split
    · rfl
    · split <;> rfl
  | clearDns =>
    unfold call
    dsimp only
    split
    · split <;> rfl
    · rfl
  | _ => cases hdns

end FileMachine

/-- Its ports. -/
def filePorts : FilePorts FileMachine where
  available _ := true
  call := FileMachine.call
  names := .standard
  view := FileMachine.view
  wired _ := rfl
  effective c m := m.view_call_of_succeeded c
  harmless c m := m.view_call_of_failed c
  spoils c m _ := m.view_call_of_write c
  reportsEth m := by
    obtain ⟨hpresent, haddress, hroute, hnone⟩ := m.base.observe_reports "eth0"
    exact ⟨hpresent, haddress, hroute, hnone⟩
  reportsWifi m := by
    obtain ⟨hpresent, haddress, hroute, hnone⟩ := m.base.observe_reports "wlan0"
    exact ⟨hpresent, haddress, hroute, hnone⟩
  reportsDns _ := rfl
  file m := m.file
  shows _ := rfl
  writes dns4 m hok := by
    have hok' : PortCall.succeeded (.setDns dns4) (FileMachine.call (.setDns dns4) m).1 = true := hok
    show (FileMachine.call (.setDns dns4) m).2.file = some (resolverText dns4)
    unfold FileMachine.call at hok' ⊢
    dsimp only at hok' ⊢
    split at hok'
    · cases hok'
    · next hroom =>
      split at hok'
      · next hread => rw [if_neg hroom, if_pos hread]
      · cases hok'
  keeps c m hdns := by cases c <;> first | rfl | cases hdns

abbrev fileOps : NetworkControlPlaneOps FileMachine := filePorts.toNetworkControlPlaneOps

/-- Both clients are started and have got their leases. -/
def bothLeased : Run FileMachine :=
  let wired := after ((Operation.startDhcp "eth0").perform fileOps) (ControlPlane.fresh .standard {})
  let both := after ((Operation.startDhcp "wlan0").perform fileOps) wired
  { both with world := { both.world with base := { both.world.base with
      ethLease := some wiredLease, wifiLease := some accessPointLease } } }

/-- Both links are up with the nameserver of Ethernet in the resolver; the next write will fail. -/
def fullDisk : Run FileMachine :=
  let bound := after (Operation.reconcile.perform fileOps) bothLeased
  { bound with world := { bound.world with failing := 1 } }

theorem fullDisk_justReconciled : JustReconciled filePorts.toKernelPorts fullDisk := by
  have hwired : Smooth filePorts.toKernelPorts (after
      ((Operation.startDhcp "eth0").perform fileOps) (ControlPlane.fresh .standard {})) :=
    .perform _ trivial (fun hop => by cases hop) (.fresh _) (by decide +kernel)
  have hleased : Smooth filePorts.toKernelPorts bothLeased :=
    .environment _ rfl (.perform _ trivial (fun hop => by cases hop) hwired (by decide +kernel))
  exact .environment _ rfl (.reconciled hleased (run_of_completes (by decide +kernel))
    (by decide +kernel))

/-- The routes are moved to prefer Wi-Fi, the write of its nameserver truncates the file, and all is
put back. -/
theorem failed_policy_change_undone_fullDisk :
    let u := after ((Operation.setRoutePolicy .wifiPreferred).perform fileOps) fullDisk
    fileLeft filePorts .wifiPreferred fullDisk = some [] ∧
      ∃ e, Undone filePorts .wifiPreferred fullDisk u e := by
  obtain ⟨e, hfail⟩ := run_of_stopped
    (m := (Operation.setRoutePolicy .wifiPreferred).perform fileOps)
    (s := fullDisk) (by decide +kernel)
  refine ⟨by decide +kernel, e, (failed_policy_change_undone filePorts fullDisk_justReconciled hfail
    ⟨((after ((Operation.setRoutePolicy .wifiPreferred).perform fileOps) fullDisk).log.take 6),
      by decide +kernel, by decide +kernel⟩).mpr (Or.inr ?_)⟩
  exact ⟨by decide +kernel, by decide +kernel, by decide +kernel⟩

/-- Under `WifiOnly` an Ethernet client has got its lease; the resolver file belongs to somebody
else. -/
def wiredUnwanted : Run FileMachine :=
  let only := after ((Operation.setRoutePolicy .wifiOnly).perform fileOps)
    (ControlPlane.fresh .standard { file := some "nameserver 10.0.0.1".toList })
  let wired := after ((Operation.startDhcp "eth0").perform fileOps) only
  { wired with world := { wired.world with base := { wired.world.base with
      ethLease := some wiredLease } } }

/-- Ethernet is up and its nameserver is not wanted; the next write to the file will fail. -/
def foreignFile : Run FileMachine :=
  let bound := after (Operation.reconcile.perform fileOps) wiredUnwanted
  { bound with world := { bound.world with failing := 1 } }

theorem foreignFile_justReconciled : JustReconciled filePorts.toKernelPorts foreignFile := by
  have honly : Smooth filePorts.toKernelPorts (after
      ((Operation.setRoutePolicy .wifiOnly).perform fileOps)
      (ControlPlane.fresh .standard { file := some "nameserver 10.0.0.1".toList })) :=
    .perform _ trivial (fun hop => by cases hop) (.fresh _) (by decide +kernel)
  have hwired : Smooth filePorts.toKernelPorts wiredUnwanted :=
    .environment _ rfl (.perform _ trivial (fun hop => by cases hop) honly (by decide +kernel))
  exact .environment _ rfl (.reconciled hwired (run_of_completes (by decide +kernel))
    (by decide +kernel))

/-- Preferring Ethernet is refused because its nameserver cannot be written.  All calls of the
rollback succeed, and the file of the other owner is gone. -/
theorem refused_policy_truncates_foreign_resolver :
    JustReconciled filePorts.toKernelPorts foreignFile ∧ foreignFile.plane.managedDns = false ∧
      filePorts.file foreignFile.world = some "nameserver 10.0.0.1".toList ∧
      ∃ e u, (Operation.setRoutePolicy .ethernetPreferred).perform fileOps foreignFile =
          .error e u ∧
        LogGrows (fun c => c.ok = true)
          (policyRolledBack fileOps .ethernetPreferred foreignFile) u ∧
        filePorts.file u.world = some [] ∧
        ¬Undone filePorts .ethernetPreferred foreignFile u e := by
  obtain ⟨e, hfail⟩ := run_of_stopped
    (m := (Operation.setRoutePolicy .ethernetPreferred).perform fileOps) (s := foreignFile)
    (by decide +kernel)
  refine ⟨foreignFile_justReconciled, by decide +kernel, by decide +kernel, e, _, hfail, ⟨((after
    ((Operation.setRoutePolicy .ethernetPreferred).perform fileOps) foreignFile).log.take 1),
    by decide +kernel, by decide +kernel⟩, by decide +kernel, fun hundone => ?_⟩
  exact absurd hundone.resolver (by decide +kernel)

end NetworkService.ControlPlane
