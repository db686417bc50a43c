import NetworkService.ControlPlane.IdleLinks

/-!
# Wi-Fi operations and an Ethernet link that others manage

As long as nothing asks the service for Ethernet, the Ethernet records stay idle and own no
route, so no call ever names the device.  The resolver is shared: under `EthernetPreferred` a
pass looks at the live Ethernet route first, and writes a nameserver only if the snapshot it
has just read shows none.

To speak about what a snapshot showed, the ports are wrapped so that every exchange with the
platform is noted, newest first, beside the log.
-/

namespace NetworkService.ControlPlane

open Fallible

variable {W : Type}

/-! ### Noting what the platform replied -/

/-- A call with the reply it got. -/
structure Exchange where
  call : PortCall
  reply : call.Reply

/-- A snapshot in which Ethernet has no default route. -/
def Exchange.ShowsNoEthernetRoute : Exchange → Prop
  | ⟨.snapshot, live⟩ => live.eth.hasDefaultRoute = false
  | _ => False

/-- The same ports, with every exchange noted. -/
def NetworkControlPlaneOps.noted (ops : NetworkControlPlaneOps W) :
    NetworkControlPlaneOps (W × List Exchange) where
  available := ops.available
  call c w := ((ops.call c w.1).1, (ops.call c w.1).2, ⟨c, (ops.call c w.1).1⟩ :: w.2)

/-- The runs of a control plane in which no operation is for Ethernet.  Between two operations
the platform may change on its own; the notes stay. -/
inductive WifiOnlyRun (ops : NetworkControlPlaneOps W) : Run (W × List Exchange) → Prop
  | fresh (names : IfaceNames) (w : W) : WifiOnlyRun ops (fresh names (w, []))
  | perform {s : Run (W × List Exchange)} (op : Operation) :
      WifiOnlyRun ops s → op.Leaves s.plane.names s.plane.names.eth →
      WifiOnlyRun ops (after (op.perform ops.noted) s)
  | environment {s : Run (W × List Exchange)} (w : W) :
      WifiOnlyRun ops s → WifiOnlyRun ops { s with world := (w, s.world.2) }

/-- Every call of the run with what the platform replied, newest first. -/
def Run.exchanges (s : Run (W × List Exchange)) : List (PortEvent × Exchange) :=
  s.log.zip s.world.2

/-- The run got from `s` to `t` by these exchanges. -/
structure Heard (steps : List (PortEvent × Exchange)) (s t : Run (W × List Exchange)) : Prop where
  log : t.log = steps.map Prod.fst ++ s.log
  notes : t.world.2 = steps.map Prod.snd ++ s.world.2
  same : ∀ x ∈ steps, x.2.call = x.1.call

/-- A nameserver is written under `EthernetPreferred` only right after a snapshot in which
Ethernet has no default route. -/
def Guarded (steps : List (PortEvent × Exchange)) : Prop :=
  ∀ later x earlier, steps = later ++ x :: earlier → x.1.call.setsDns = true →
    x.1.plane.routePolicy = .ethernetPreferred →
    ∃ shown rest, earlier = shown :: rest ∧ shown.2.ShowsNoEthernetRoute

theorem Heard.refl (s : Run (W × List Exchange)) : Heard [] s s :=
  ⟨rfl, rfl, fun _ hmem => nomatch hmem⟩

theorem Heard.trans {steps more : List (PortEvent × Exchange)} {s t u : Run (W × List Exchange)}
    (h : Heard steps s t) (h' : Heard more t u) : Heard (more ++ steps) s u := by
  refine ⟨?_, ?_, fun x hx => ?_⟩
  · rw [h'.log, h.log, List.map_append, List.append_assoc]
  · rw [h'.notes, h.notes, List.map_append, List.append_assoc]
  · rcases List.mem_append.mp hx with hmem | hmem
    · exact h'.same x hmem
    · exact h.same x hmem

theorem Heard.invoke (ops : NetworkControlPlaneOps W) (c : PortCall)
    (s : Run (W × List Exchange)) :
    Heard [(⟨s.plane, c, c.succeeded (ops.call c s.world.1).1⟩, ⟨c, (ops.call c s.world.1).1⟩)] s
      (after (invoke ops.noted c) s) := by
  refine ⟨rfl, rfl, fun x hx => ?_⟩
  rw [List.mem_singleton.mp hx]

/-- Calls that write no nameserver need no guard. -/
theorem guarded_of_other {steps : List (PortEvent × Exchange)}
    (h : ∀ x ∈ steps, x.1.call.setsDns = false) : Guarded steps := by
  intro later x earlier hsplit hsets
  have hmem : x ∈ steps := by
    rw [hsplit]
    exact List.mem_append_right _ List.mem_cons_self
  exact nomatch (h x hmem).symm.trans hsets

theorem Guarded.cons {steps : List (PortEvent × Exchange)} {x : PortEvent × Exchange}
    (h : Guarded steps) (hx : x.1.call.setsDns = true →
      x.1.plane.routePolicy = .ethernetPreferred →
      ∃ shown rest, steps = shown :: rest ∧ shown.2.ShowsNoEthernetRoute) :
    Guarded (x :: steps) := by
  intro later y earlier hsplit hsets hpolicy
  cases later with
  | nil =>
    obtain ⟨rfl, rfl⟩ := List.cons.inj hsplit
    exact hx hsets hpolicy
  | cons z later => exact h later y earlier (List.cons.inj hsplit).2 hsets hpolicy

theorem Guarded.append {steps more : List (PortEvent × Exchange)} (h : Guarded steps)
    (h' : Guarded more) : Guarded (more ++ steps) := by
  intro later x earlier hsplit hsets hpolicy
  rcases List.append_eq_append_iff.mp hsplit with ⟨front, rfl, htail⟩ | ⟨back, rfl, htail⟩
  · exact h front x earlier htail hsets hpolicy
  · cases back with
    | nil => exact h [] x earlier (List.nil_append _ ▸ htail.symm) hsets hpolicy
    | cons y back =>
      obtain ⟨rfl, rfl⟩ := List.cons.inj htail
      obtain ⟨shown, rest, rfl, hshown⟩ := h' later x back rfl hsets hpolicy
      exact ⟨shown, rest ++ steps, rfl, hshown⟩

/-- The run grew by guarded exchanges. -/
def GrowsGuarded (s t : Run (W × List Exchange)) : Prop :=
  ∃ steps, Heard steps s t ∧ Guarded steps

instance : Std.Refl (GrowsGuarded (W := W)) :=
  ⟨fun s => ⟨[], Heard.refl s, guarded_of_other fun _ hmem => nomatch hmem⟩⟩

instance : IsTrans (Run (W × List Exchange)) GrowsGuarded := by
  constructor
  rintro s t u ⟨steps, hsteps, hguarded⟩ ⟨more, hmore, hguarded'⟩
  exact ⟨more ++ steps, hsteps.trans hmore, hguarded.append hguarded'⟩

theorem GrowsGuarded.edit (s : Run (W × List Exchange)) (p : NetworkControlPlane) :
    GrowsGuarded s { s with plane := p } :=
  ⟨[], ⟨rfl, rfl, fun _ hmem => nomatch hmem⟩, guarded_of_other fun _ hmem => nomatch hmem⟩

theorem GrowsGuarded.invoke (ops : NetworkControlPlaneOps W) (c : PortCall)
    (hc : c.setsDns = false) (s : Run (W × List Exchange)) :
    GrowsGuarded s (after (ControlPlane.invoke ops.noted c) s) := by
  refine ⟨_, Heard.invoke ops c s, guarded_of_other fun x hx => ?_⟩
  rw [List.mem_singleton.mp hx]
  exact hc

/-! ### A resolver pass while Ethernet is idle -/

/-- What a pass that began in `s` has done before it writes: at most one snapshot, kept as
`live`. -/
def Looked (s t : Run (W × List Exchange)) (live : Option NetworkSnapshot) : Prop :=
  t.plane.links = s.plane.links ∧
    match live with
    | none => Heard [] s t
    | some current => ∃ e, Heard [(e, ⟨.snapshot, current⟩)] s t

section Pass

variable (ops : NetworkControlPlaneOps W) {s t : Run (W × List Exchange)}
  {live : Option NetworkSnapshot}

theorem Looked.invoke (h : Looked s t none) (c : NetworkSnapshot)
    (hc : (ops.call .snapshot t.world.1).1 = c) :
    Looked s (after (ControlPlane.invoke ops.noted .snapshot) t) (some c) := by
  subst hc
  exact ⟨h.1, _, h.2.trans (Heard.invoke ops .snapshot t)⟩

theorem Looked.edit (h : Looked s t live) {p : NetworkControlPlane}
    (hp : p.links = t.plane.links) : Looked s { t with plane := p } live := by
  refine ⟨hp.trans h.1, ?_⟩
  cases live with
  | none => exact ⟨h.2.log, h.2.notes, h.2.same⟩
  | some current =>
    obtain ⟨e, hheard⟩ := h.2
    exact ⟨e, hheard.log, hheard.notes, hheard.same⟩

theorem Looked.grows (h : Looked s t live) : GrowsGuarded s t := by
  cases live with
  | none => exact ⟨[], h.2, guarded_of_other fun _ hmem => nomatch hmem⟩
  | some current =>
    obtain ⟨e, hheard⟩ := h.2
    refine ⟨_, hheard, guarded_of_other fun x hx => ?_⟩
    rw [← hheard.same x hx, List.mem_singleton.mp hx]
    rfl

theorem initializeDnsOwnership_looks {Q : Option NetworkSnapshot → Run (W × List Exchange) → Prop}
    {E : String → Run (W × List Exchange) → Prop}
    (h : ∀ live t, Looked s t live → Q live t) :
    wp (initializeDnsOwnership ops.noted) Q E s := by
  have hstart : Looked s s none := ⟨rfl, Heard.refl s⟩
  unfold initializeDnsOwnership
  rw [wp_bind, wp_getPlane, wp_ite]
  split
  · exact h none s hstart
  · rw [wp_ite]
    split
    · rw [wp_bind]
      refine wp_invoke.mpr ?_
      rw [wp_bind, wp_modifyPlane]
      exact h _ _ ((hstart.invoke ops _ rfl).edit rfl)
    · rw [wp_bind, wp_modifyPlane]
      exact h none _ (hstart.edit rfl)

theorem loadLive_looks (h : Looked s t live) {Q : NetworkSnapshot → Run (W × List Exchange) → Prop}
    {E : String → Run (W × List Exchange) → Prop}
    (hQ : ∀ current u, Looked s u (some current) → (∀ c, live = some c → c = current) →
      Q current u) : wp (loadLive ops.noted live) Q E t := by
  cases live with
  | none => exact wp_invoke.mpr (hQ _ _ (h.invoke ops _ rfl) fun _ hnone => nomatch hnone)
  | some current => exact hQ current t h fun c hc => (Option.some.inj hc).symm

/-- Under `EthernetPreferred` the switch decides by the snapshot of this pass. -/
theorem selectDns_looks (h : Looked s t live) (hidle : s.plane.ethDnsUsable = false)
    {Q : DnsDecision × Option NetworkSnapshot → Run (W × List Exchange) → Prop}
    {E : String → Run (W × List Exchange) → Prop}
    (hQ : ∀ choice u, Looked s u choice.2 →
      (ops.available .snapshot = true → s.plane.routePolicy = .ethernetPreferred →
        ∃ current, choice.2 = some current ∧
          choice.1 = s.plane.dnsDecision current.eth.hasDefaultRoute) → Q choice u) :
    wp (selectDns ops.noted live) Q E t := by
  have hdecision : ∀ ethLive, t.plane.dnsDecision ethLive = s.plane.dnsDecision ethLive :=
    fun ethLive => congrArg (·.dnsDecision ethLive) h.1
  have hconsults : t.plane.consultsLiveEthernet = s.plane.consultsLiveEthernet :=
    congrArg (·.consultsLiveEthernet) h.1
  unfold selectDns
  rw [wp_bind, wp_getPlane, wp_ite]
  split
  · rw [wp_bind]
    refine loadLive_looks ops h fun current u hu _ => hQ _ u hu fun _ _ => ⟨current, rfl, ?_⟩
    exact hdecision _
  · next hnot =>
    refine hQ _ t h fun havail hpolicy => absurd ⟨?_, havail⟩ hnot
    rw [hconsults]
    simp [NetworkControlPlane.consultsLiveEthernet, hpolicy, hidle]

theorem releaseDns_guarded (h : GrowsGuarded s t) :
    GrowsGuarded s (after (releaseDns ops.noted) t) := by
  refine IsTrans.trans _ _ _ h ?_
  refine Along.bind along_getPlane (fun p => Along.ite ?_ (Along.pure ())) t
  refine Along.bind (Along.require _ _) fun _ => ?_
  refine Along.bind (GrowsGuarded.invoke ops .clearDns rfl) fun r => ?_
  exact Along.bind (along_check r) fun _ => along_modifyPlane fun u => GrowsGuarded.edit u _

/-- The write of a selected nameserver comes right after the snapshot that allowed it. -/
theorem setDns_guarded {dns4 : String} (h : Looked s t live)
    (hallowed : s.plane.routePolicy = .ethernetPreferred →
      ∃ current, live = some current ∧ current.eth.hasDefaultRoute = false) :
    GrowsGuarded s (after (ControlPlane.invoke ops.noted (.setDns dns4)) t) := by
  have hpolicy : t.plane.routePolicy = s.plane.routePolicy := congrArg (·.routePolicy) h.1
  have hcall := Heard.invoke ops (.setDns dns4) t
  cases live with
  | none =>
    refine ⟨_, h.2.trans hcall, Guarded.cons (guarded_of_other fun _ hmem => nomatch hmem) ?_⟩
    intro _ hpreferred
    obtain ⟨current, hnone, -⟩ := hallowed (hpolicy.symm.trans hpreferred)
    exact nomatch hnone
  | some current =>
    obtain ⟨e, hheard⟩ := h.2
    have hsnapshot : Guarded [(e, (⟨.snapshot, current⟩ : Exchange))] := by
      refine guarded_of_other fun x hx => ?_
      rw [← hheard.same x hx, List.mem_singleton.mp hx]
      rfl
    refine ⟨_, hheard.trans hcall, Guarded.cons hsnapshot fun _ hpreferred => ?_⟩
    obtain ⟨shown, hsome, hnoroute⟩ := hallowed (hpolicy.symm.trans hpreferred)
    obtain rfl := Option.some.inj hsome
    exact ⟨_, [], rfl, hnoroute⟩

/-- A pass that has a snapshot reads no other. -/
theorem dnsAlreadyApplied_looks (dns4 : String) (h : Looked s t live)
    {Q : Bool → Run (W × List Exchange) → Prop} {E : String → Run (W × List Exchange) → Prop}
    (hQ : ∀ applied u live', Looked s u live' → (∀ c, live = some c → live' = some c) →
      Q applied u) : wp (dnsAlreadyApplied ops.noted dns4 live) Q E t := by
  unfold dnsAlreadyApplied
  rw [wp_bind, wp_getPlane, wp_ite]
  split
  · rw [wp_ite]
    split
    · rw [wp_bind]
      refine loadLive_looks ops h fun current u hu hsame => hQ _ u (some current) hu fun c hc => ?_
      rw [hsame c hc]
    · exact hQ true t live h fun _ hc => hc
  · exact hQ false t live h fun _ hc => hc

theorem applyDns_guarded (decision : DnsDecision) (h : Looked s t live)
    (hallowed : s.plane.routePolicy = .ethernetPreferred → ∀ dns4, decision = .select dns4 →
      dns4 ≠ "" → ∃ current, live = some current ∧ current.eth.hasDefaultRoute = false) :
    GrowsGuarded s (after (applyDns ops.noted decision live) t) := by
  cases decision with
  | preserveExternal => exact releaseDns_guarded ops h.grows
  | select dns4 =>
    unfold applyDns
    dsimp only
    by_cases hnone : dns4 = ""
    · rw [if_pos hnone]
      exact releaseDns_guarded ops h.grows
    rw [if_neg hnone]
    refine after_of_wp (I := GrowsGuarded s) ?_
    rw [wp_bind]
    refine dnsAlreadyApplied_looks ops dns4 h fun applied u live' hu hsame => ?_
    refine wp_split (fun _ => hu.grows) fun _ => ?_
    rw [wp_bind, wp_require]
    split
    · rw [wp_bind]
      refine wp_invoke.mpr ?_
      have hwrite : GrowsGuarded s (after (ControlPlane.invoke ops.noted (.setDns dns4)) u) := by
        refine setDns_guarded ops hu fun hpolicy => ?_
        obtain ⟨current, hcurrent, hnoroute⟩ := hallowed hpolicy dns4 rfl hnone
        exact ⟨current, hsame current hcurrent, hnoroute⟩
      rw [wp_bind, wp_check]
      exact ⟨fun _ _ => IsTrans.trans _ _ _ hwrite (GrowsGuarded.edit _ _), fun _ _ => hwrite⟩
    · exact hu.grows

/-- **A resolver pass while Ethernet is idle** writes a nameserver under `EthernetPreferred`
only after a snapshot without an Ethernet default route. -/
theorem recomputeDnsLocked_guarded (havail : ops.available .snapshot = true)
    (hidle : Idle s.plane s.plane.names.eth) :
    GrowsGuarded s (after (recomputeDnsLocked ops.noted) s) := by
  have hunrouted := hidle.ethernet_unrouted rfl
  have hunusable : s.plane.ethDnsUsable = false := by
    simp [NetworkControlPlane.ethDnsUsable, hunrouted]
  refine after_of_wp (I := GrowsGuarded s) ?_
  unfold recomputeDnsLocked
  rw [wp_bind]
  refine initializeDnsOwnership_looks ops fun live t ht => ?_
  rw [wp_bind]
  refine selectDns_looks ops ht hunusable fun choice u hu hchoice => ?_
  refine wp_of_after (applyDns_guarded ops _ hu fun hpolicy dns4 hselect hsome => ?_)
  obtain ⟨current, hcurrent, hdecision⟩ := hchoice havail hpolicy
  refine ⟨current, hcurrent, ?_⟩
  rw [hdecision] at hselect
  -- with a live route and none of its own, the pass preserves the external resolver
  cases hlive : current.eth.hasDefaultRoute with
  | false => rfl
  | true => simp [NetworkControlPlane.dnsDecision, hpolicy, hunusable, hlive, hunrouted] at hselect

end Pass

/-! ### Whole runs -/

theorem guardedSteps (ops : NetworkControlPlaneOps W) (N : IfaceNames)
    (havail : ops.available .snapshot = true) :
    IdleSteps ops.noted N N.eth false GrowsGuarded where
  call c s _ hdns _ := by
    refine GrowsGuarded.invoke ops c ?_ s
    cases c <;> first | rfl | exact nomatch hdns
  edit f s := GrowsGuarded.edit s _
  recompute s hs := by
    refine recomputeDnsLocked_guarded ops havail ?_
    rw [hs.names]
    exact hs.idle

/-- Nothing has asked for Ethernet. -/
theorem fresh_apart (names : IfaceNames) : Apart names names.eth false { names := names } :=
  ⟨rfl, ⟨by rw [NetworkControlPlane.linkFor_eth], by rw [NetworkControlPlane.linkFor_eth],
    fun _ hactive => nomatch hactive⟩, fun _ => by rw [NetworkControlPlane.ownedRouteFor_eth]⟩

/-- What the steps of such operations follow leads from the constructed control plane to every
state of the run. -/
theorem WifiOnlyRun.of_steps {ops : NetworkControlPlaneOps W}
    (R : IfaceNames → Run (W × List Exchange) → Run (W × List Exchange) → Prop)
    [∀ N, Std.Refl (R N)] [∀ N, IsTrans (Run (W × List Exchange)) (R N)]
    (hsteps : ∀ N : IfaceNames, IdleSteps ops.noted N N.eth false (R N))
    (hworld : ∀ N (s : Run (W × List Exchange)) (w : W),
      R N s { s with world := (w, s.world.2) })
    {s : Run (W × List Exchange)} (hrun : WifiOnlyRun ops s) :
    Apart s.plane.names s.plane.names.eth false s.plane ∧
      ∃ w, R s.plane.names (ControlPlane.fresh s.plane.names (w, [])) s := by
  induction hrun with
  | fresh names w => exact ⟨fresh_apart names, w, Std.Refl.refl (r := R names) _⟩
  | @perform s op _ hop ih =>
    obtain ⟨hapart, w, hR⟩ := ih
    obtain ⟨hapart', hR'⟩ := (hsteps _).perform (Or.inl rfl) op hop s hapart
    rw [hapart'.names]
    exact ⟨hapart', w, IsTrans.trans _ _ _ hR hR'⟩
  | environment w _ ih =>
    obtain ⟨hapart, w', hR⟩ := ih
    exact ⟨hapart, w', IsTrans.trans _ _ _ hR (hworld _ _ w)⟩

/-- **Wi-Fi operations never touch an Ethernet link that others manage.**  No call ever names
the Ethernet device, and a nameserver is written under `EthernetPreferred` only when the
snapshot that the pass has just read shows no Ethernet default route. -/
theorem unmanaged_ethernet_untouched (ops : NetworkControlPlaneOps W)
    {s : Run (W × List Exchange)} (hrun : WifiOnlyRun ops s) :
    (∀ e ∈ s.log, e.call.iface? ≠ some s.plane.names.eth) ∧
      (ops.available .snapshot = true →
        s.world.2.map Exchange.call = s.log.map PortEvent.call ∧ Guarded s.exchanges) := by
  constructor
  · obtain ⟨-, w, added, hlog, hadded⟩ :=
      hrun.of_steps (fun N => LogGrows (PortEvent.Spares N N.eth false))
        (fun N => sparingSteps ops.noted N N.eth false) fun _ s w => ⟨[], rfl, List.forall_mem_nil _⟩
    intro e he hnamed
    rw [hlog] at he
    obtain ⟨hapart, honly⟩ := hadded e ((List.append_nil added) ▸ he)
    -- only a withdrawal could name it, and Ethernet owns no route
    exact Bool.false_ne_true ((hapart.unowned rfl).symm.trans (honly hnamed).2)
  · intro havail
    obtain ⟨-, w, steps, hheard, hguarded⟩ :=
      hrun.of_steps (fun _ => GrowsGuarded) (fun N => guardedSteps ops N havail)
        fun _ s w => ⟨[], ⟨rfl, rfl, List.forall_mem_nil _⟩,
          guarded_of_other (List.forall_mem_nil _)⟩
    have hlog : steps.map Prod.fst = s.log :=
      (hheard.log.trans (List.append_nil _)).symm
    have hnotes : steps.map Prod.snd = s.world.2 :=
      (hheard.notes.trans (List.append_nil _)).symm
    refine ⟨?_, ?_⟩
    · rw [← hlog, ← hnotes, List.map_map, List.map_map]
      exact List.map_congr_left hheard.same
    · show Guarded (s.log.zip s.world.2)
      rw [← List.zip_of_prod hlog hnotes]
      exact hguarded

/-- A platform whose Ethernet link has a default route, and which holds a Wi-Fi lease. -/
def foreignEthernetPorts : NetworkControlPlaneOps Unit where
  available _ := true
  call
    | .snapshot, w => ({ eth := { present := true, hasDefaultRoute := true } }, w)
    | .readLease _, w => (.ok (some accessPointLease), w)
    | c, w => (c.idleReply, w)

/-- Wi-Fi gets its lease beside the protected Ethernet link. -/
def besideEthernet : Run (Unit × List Exchange) :=
  after (Operation.reconcile.perform foreignEthernetPorts.noted)
    (after ((Operation.startDhcp "wlan0").perform foreignEthernetPorts.noted)
      (fresh .standard ((), [])))

theorem unmanaged_ethernet_untouched_besideEthernet :
    (∀ e ∈ besideEthernet.log, e.call.iface? ≠ some besideEthernet.plane.names.eth) ∧
      (foreignEthernetPorts.available .snapshot = true →
        besideEthernet.world.2.map Exchange.call = besideEthernet.log.map PortEvent.call ∧
          Guarded besideEthernet.exchanges) := by
  refine unmanaged_ethernet_untouched foreignEthernetPorts
    (.perform _ (.perform _ (.fresh _ _) ?_) trivial)
  show "wlan0" ≠ "eth0"
  decide

end NetworkService.ControlPlane
