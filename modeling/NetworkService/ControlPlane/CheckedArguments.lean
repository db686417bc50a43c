import NetworkService.ControlPlane.RecordEdits
import NetworkService.ControlPlane.RoutePolicy
import NetworkService.Platform.NetworkConfigurator

/-!
# A platform that only looks at arguments

On a platform that fails exactly on malformed calls, what the control plane has recorded about
routes, leases and the resolver is well formed: the calls that led to a record have succeeded.  The
one record that no call vouches for is the static configuration, of which `apply_ethernet_static`
checks the address and the netmask, and the rest only as far as the current policy uses it.  A
change of policy fails exactly if the part that was not looked at is malformed.
-/

namespace NetworkService.ControlPlane

open Fallible Platform

variable {W : Type}

/-- Text the configurator takes where it is used at all. -/
def BlankOrIpv4 (value : String) : Prop := value = "" ∨ isIpv4 value = true

instance (value : String) : Decidable (BlankOrIpv4 value) := inferInstanceAs (Decidable (_ ∨ _))

/-- A complete platform that fails exactly on malformed calls and hands out proper leases. -/
structure ChecksArguments (ops : NetworkControlPlaneOps W) : Prop where
  wired : ∀ port, ops.available port = true
  exact : ∀ (c : PortCall) (w : W), c.succeeded (ops.call c w).1 = !c.malformed
  leases : ∀ (iface : String) (w : W) (fact : DhcpLeaseFact),
    (ops.call (.readLease iface) w).1 = .ok (some fact) →
      BlankOrIpv4 fact.gateway4 ∧ BlankOrIpv4 fact.dns4

/-- A resolver file that carries our marker names a well-formed server, or none. -/
def MarkedResolverFits (ops : NetworkControlPlaneOps W) : Prop :=
  ∀ w, (ops.call .snapshot w).1.dnsManagedByNetworkService = true →
    BlankOrIpv4 (ops.call .snapshot w).1.dns4

/-- **What a static configuration has to say to be usable under every policy**: no gateway, or a
well-formed one with a well-formed nameserver or none. -/
def UsableStatic (st : StaticEthernetState) : Prop :=
  st.active = true → st.gateway4 = "" ∨ (isIpv4 st.gateway4 = true ∧ BlankOrIpv4 st.dns4)

instance (st : StaticEthernetState) : Decidable (UsableStatic st) :=
  inferInstanceAs (Decidable (_ → _))

/-! ### The records that calls vouch for -/

/-- Recorded routes, leases and nameservers have passed the configurator. -/
structure Sound (ops : NetworkControlPlaneOps W) (N : IfaceNames) (p : NetworkControlPlane) :
    Prop where
  routes : ∀ iface, iface = N.eth ∨ iface = N.wifi → (p.ownedRouteFor iface).active = true →
    (PortCall.clearDefaultRoute iface (p.ownedRouteFor iface).gateway4
      (p.ownedRouteFor iface).metric).malformed = false
  links : ∀ iface, iface = N.eth ∨ iface = N.wifi → (p.linkFor iface).active = true →
    isSafeIface iface = true ∧ BlankOrIpv4 (p.linkFor iface).lease.gateway4 ∧
      BlankOrIpv4 (p.linkFor iface).lease.dns4
  static : p.staticEth.active = true → isSafeIface N.eth = true
  resolver : MarkedResolverFits ops → p.managedDns = true → BlankOrIpv4 p.lastDns

section Sound

variable {ops : NetworkControlPlaneOps W} {N : IfaceNames} {permits : StaticEthernetState → Prop}
  {p q : NetworkControlPlane}

theorem ChecksArguments.wellFormed (h : ChecksArguments ops) {c : PortCall} (hok : Succeeds ops c) :
    c.malformed = false := by
  obtain ⟨w, hok⟩ := hok
  rw [h.exact] at hok
  exact Bool.not_eq_true _ ▸ (by simpa using hok)

theorem Sound.fresh (names : IfaceNames) : Sound ops N { names := names } where
  routes iface _ hactive := by
    unfold NetworkControlPlane.ownedRouteFor at hactive
    split at hactive <;> exact nomatch hactive
  links iface _ hactive := by
    unfold NetworkControlPlane.linkFor at hactive
    split at hactive <;> exact nomatch hactive
  static hactive := nomatch hactive
  resolver _ hmanaged := nomatch hmanaged

theorem Sound.setOwnedRoute (h : Sound ops N p) (hN : p.names = N) {iface : String}
    (hk : iface = N.eth ∨ iface = N.wifi) {route : OwnedRouteState}
    (hroute : route.active = true →
      (PortCall.clearDefaultRoute iface route.gateway4 route.metric).malformed = false) :
    Sound ops N (p.setOwnedRoute iface route) := by
  refine ⟨fun i hi => ?_, fun i hi => ?_, ?_, ?_⟩
  · by_cases hsame : iface = i
    · subst hsame
      rw [NetworkControlPlane.ownedRouteFor_setOwnedRoute]
      exact hroute
    · rw [NetworkControlPlane.ownedRouteFor_setOwnedRoute_ne (by rw [hN]; exact hi)
        (by rw [hN]; exact hk) hsame]
      exact h.routes i hi
  · rw [p.linkFor_setOwnedRoute]
    exact h.links i hi
  · rw [NetworkControlPlane.setOwnedRoute_staticEth]
    exact h.static
  · rw [NetworkControlPlane.setOwnedRoute_managedDns, NetworkControlPlane.setOwnedRoute_lastDns]
    exact h.resolver

theorem Sound.setLink (h : Sound ops N p) (hN : p.names = N) {iface : String}
    (hk : iface = N.eth ∨ iface = N.wifi) {link : LinkState}
    (hlink : link.active = true → isSafeIface iface = true ∧ BlankOrIpv4 link.lease.gateway4 ∧
      BlankOrIpv4 link.lease.dns4) : Sound ops N (p.setLink iface link) := by
  refine ⟨fun i hi => ?_, fun i hi => ?_, ?_, ?_⟩
  · rw [p.ownedRouteFor_setLink]
    exact h.routes i hi
  · by_cases hsame : iface = i
    · subst hsame
      rw [NetworkControlPlane.linkFor_setLink]
      exact hlink
    · rw [NetworkControlPlane.linkFor_setLink_ne (by rw [hN]; exact hi) (by rw [hN]; exact hk) hsame]
      exact h.links i hi
  · rw [NetworkControlPlane.setLink_staticEth]
    exact h.static
  · rw [NetworkControlPlane.setLink_managedDns, NetworkControlPlane.setLink_lastDns]
    exact h.resolver

/-- **Every edit keeps the records sound.** -/
theorem Sound.edit (hchecks : ChecksArguments ops) (hedit : RecordEdit ops N permits p q)
    (hN : p.names = N) (h : Sound ops N p) : Sound ops N q := by
  cases hedit with
  | clearRoute known => exact h.setOwnedRoute hN known fun hactive => nomatch hactive
  | setRoute known set =>
    -- a route command and its undoing are checked alike
    have hwell := hchecks.wellFormed set
    exact h.setOwnedRoute hN known fun _ => hwell
  | link known kept =>
    refine h.setLink hN known fun hactive => ?_
    obtain ⟨hwas, hlease⟩ := kept hactive
    rw [hlease]
    exact h.links _ known hwas
  | configured known read applied =>
    refine h.setLink hN known fun _ => ⟨?_, hchecks.leases _ _ _ read⟩
    have hwell := hchecks.wellFormed applied
    simp [PortCall.malformed] at hwell
    exact hwell.1.1
  | dropStatic => exact ⟨h.routes, h.links, (fun hactive => nomatch hactive), h.resolver⟩
  | static permitted applied =>
    have hwell := hchecks.wellFormed applied
    simp [PortCall.malformed] at hwell
    exact ⟨h.routes, h.links, fun _ => hwell.1.1, h.resolver⟩
  | policy policy => exact ⟨h.routes, h.links, h.static, h.resolver⟩
  | adoptDns w =>
    refine ⟨h.routes, h.links, h.static, fun hmarked hmanaged => ?_⟩
    dsimp only at hmanaged ⊢
    rw [hmanaged]
    exact hmarked w hmanaged
  | initializeBlind => exact ⟨h.routes, h.links, h.static, h.resolver⟩
  | releaseDns => exact ⟨h.routes, h.links, h.static, fun _ hmanaged => nomatch hmanaged⟩
  | setDns set =>
    refine ⟨h.routes, h.links, h.static, fun _ _ => .inr ?_⟩
    have hwell := hchecks.wellFormed set
    simpa [PortCall.malformed] using hwell

theorem edits_sound (hchecks : ChecksArguments ops) {s t : Run W}
    (hedited : Edited ops N permits s t) (hN : s.plane.names = N) (h : Sound ops N s.plane) :
    Sound ops N t.plane :=
  (edits_keep (fun _ _ hedit hN => Sound.edit hchecks hedit hN) hedited hN h).2

end Sound

/-! ### What such a platform accepts -/

section Accepted

variable {ops : NetworkControlPlaneOps W} {N : IfaceNames} {s : Run W}

theorem clearOwnedRouteLocked_accepted (hchecks : ChecksArguments ops)
    (hsound : Sound ops N s.plane) {iface : String} (hk : iface = N.eth ∨ iface = N.wifi) :
    wp (clearOwnedRouteLocked ops iface) (fun _ t => t.plane = s.plane.withdraw iface)
      (fun _ _ => False) s := by
  unfold wp
  rcases clearOwnedRouteLocked_cases ops iface s with
    ⟨hinactive, hrun⟩ | ⟨-, hport, -⟩ | ⟨e, w, hactive, hcall, -⟩ | ⟨w, hactive, -, hrun⟩
  · rw [hrun]
    exact (NetworkControlPlane.withdraw_of_inactive hinactive).symm
  · rw [hchecks.wired] at hport
    exact nomatch hport
  · have hok := hchecks.exact (clearCall iface s) s.world
    rw [hcall, hsound.routes iface hk hactive] at hok
    exact nomatch hok
  · rw [hrun]
    exact (NetworkControlPlane.withdraw_of_active hactive).symm

/-- A well-formed route is set, whatever route was recorded before. -/
theorem ensureOwnedRouteLocked_accepted (hchecks : ChecksArguments ops)
    (hsound : Sound ops N s.plane) {iface gateway4 : String} {metric : Int}
    (hk : iface = N.eth ∨ iface = N.wifi) (hgw : gateway4 ≠ "")
    (hwell : (PortCall.setDefaultRoute iface gateway4 metric).malformed = false) :
    wp (ensureOwnedRouteLocked ops iface gateway4 metric)
      (fun _ t => t.plane = s.plane.setOwnedRoute iface ⟨true, gateway4, metric⟩)
      (fun _ _ => False) s := by
  have hclear := clearOwnedRouteLocked_accepted hchecks hsound hk
  unfold wp at hclear ⊢
  rcases ensureOwnedRouteLocked_cases ops iface s gateway4 metric hgw with
    ⟨hport, -⟩ | ⟨e, t, ht, -⟩ | ⟨t, e, w, -, hcall, -⟩ | ⟨t, w, hfreed, -, hrun⟩
  · rw [hchecks.wired] at hport
    exact nomatch hport
  · rw [ht] at hclear
    exact hclear.elim
  · have hok := hchecks.exact (.setDefaultRoute iface gateway4 metric) t.world
    rw [hcall, hwell] at hok
    exact nomatch hok
  · rw [hrun]
    rcases hfreed with ⟨rfl, -⟩ | ht
    · rfl
    · rw [ht] at hclear
      show t.plane.setOwnedRoute _ _ = _
      rw [hclear]
      exact NetworkControlPlane.setOwnedRoute_withdraw _ _ _

/-- A malformed route is not. -/
theorem ensureOwnedRouteLocked_refused (hchecks : ChecksArguments ops) {iface gateway4 : String}
    {metric : Int} (hgw : gateway4 ≠ "")
    (hmalformed : (PortCall.setDefaultRoute iface gateway4 metric).malformed = true) :
    wp (ensureOwnedRouteLocked ops iface gateway4 metric) (fun _ _ => False) (fun _ _ => True) s := by
  unfold wp
  rcases ensureOwnedRouteLocked_cases ops iface s gateway4 metric hgw with
    ⟨-, hrun⟩ | ⟨e, t, -, hrun⟩ | ⟨t, e, w, -, -, hrun⟩ | ⟨t, w, -, hcall, -⟩
  · rw [hrun]
    trivial
  · rw [hrun]
    trivial
  · rw [hrun]
    trivial
  · have hok := hchecks.exact (.setDefaultRoute iface gateway4 metric) t.world
    rw [hcall, hmalformed] at hok
    exact nomatch hok

/-! #### A DNS pass -/

theorem releaseDns_accepted (hchecks : ChecksArguments ops) :
    wp (releaseDns ops) (fun _ _ => True) (fun _ _ => False) s := by
  unfold releaseDns
  rw [wp_bind, wp_getPlane, wp_ite]
  split
  · rw [wp_bind, wp_require, hchecks.wired, if_pos rfl, wp_bind]
    refine wp_invoke.mpr ?_
    rw [wp_bind, wp_check]
    refine ⟨fun _ _ => trivial, fun e herror => ?_⟩
    have hok := hchecks.exact .clearDns s.world
    rw [PortCall.succeeded, herror] at hok
    exact nomatch hok
  · trivial

/-- Whether the selected nameserver is held already is found out without a failure. -/
theorem wp_dnsAlreadyApplied {dns4 : String} {live : Option NetworkSnapshot}
    {Q : Bool → Run W → Prop} {E : String → Run W → Prop}
    (hQ : ∀ applied (t : Run W), t.plane = s.plane →
      (applied = true → s.plane.managedDns = true ∧ dns4 = s.plane.lastDns) → Q applied t) :
    wp (dnsAlreadyApplied ops dns4 live) Q E s := by
  unfold dnsAlreadyApplied
  rw [wp_bind, wp_getPlane, wp_ite]
  split
  · next hheld =>
    rw [wp_ite]
    split
    · rw [wp_bind]
      cases live with
      | none => exact wp_invoke.mpr (hQ _ _ rfl fun _ => hheld)
      | some current => exact hQ _ s rfl fun _ => hheld
    · exact hQ _ s rfl fun _ => hheld
  · exact hQ _ s rfl fun happlied => nomatch happlied

theorem applyDns_accepted (hchecks : ChecksArguments ops) {decision : DnsDecision}
    {live : Option NetworkSnapshot}
    (hselected : ∀ dns4, decision = .select dns4 → BlankOrIpv4 dns4) :
    wp (applyDns ops decision live) (fun _ _ => True) (fun _ _ => False) s := by
  cases decision with
  | preserveExternal => exact releaseDns_accepted hchecks
  | select dns4 =>
    unfold applyDns
    rw [wp_ite]
    split
    · exact releaseDns_accepted hchecks
    · next hne =>
      rw [wp_bind]
      refine wp_dnsAlreadyApplied fun applied t _ _ => ?_
      rw [wp_ite]
      split
      · trivial
      · rw [wp_bind, wp_require, hchecks.wired, if_pos rfl, wp_bind]
        refine wp_invoke.mpr ?_
        rw [wp_bind, wp_check]
        refine ⟨fun _ _ => trivial, fun e herror => ?_⟩
        have hok := hchecks.exact (.setDns dns4) t.world
        have hwell : (PortCall.setDns dns4).malformed = false := by
          simp [PortCall.malformed, (hselected dns4 rfl).resolve_left hne]
        rw [PortCall.succeeded, herror, hwell] at hok
        exact nomatch hok

theorem applyDns_refused (hchecks : ChecksArguments ops) {dns4 : String}
    {live : Option NetworkSnapshot} (hne : dns4 ≠ "") (hbad : isIpv4 dns4 = false)
    (hheld : s.plane.managedDns = true → dns4 ≠ s.plane.lastDns) :
    wp (applyDns ops (.select dns4) live) (fun _ _ => False) (fun _ _ => True) s := by
  unfold applyDns
  rw [wp_ite, if_neg hne, wp_bind]
  refine wp_dnsAlreadyApplied fun applied t _ happlied => ?_
  rw [wp_ite]
  split
  · next hyes => exact hheld (happlied hyes).1 (happlied hyes).2
  · rw [wp_bind, wp_require, hchecks.wired, if_pos rfl, wp_bind]
    refine wp_invoke.mpr ?_
    rw [wp_bind, wp_check]
    refine ⟨fun _ hreply => ?_, fun _ _ => trivial⟩
    have hok := hchecks.exact (.setDns dns4) t.world
    have hmalformed : (PortCall.setDns dns4).malformed = true := by
      simp [PortCall.malformed, hbad]
    rw [PortCall.succeeded, hreply, hmalformed] at hok
    exact nomatch hok

/-- A DNS pass first settles the ownership, which leaves the selection alone, and then applies a
decision that the records allow. -/
theorem wp_recomputeDnsLocked_choice {Q : Unit → Run W → Prop} {E : String → Run W → Prop}
    (h : ∀ (t : Run W) (ethLive : Bool) (live : Option NetworkSnapshot),
      Edited ops N (fun _ => False) s t → t.plane.links = s.plane.links →
      wp (applyDns ops (s.plane.dnsDecision ethLive) live) Q E t) :
    wp (recomputeDnsLocked ops) Q E s := by
  have hselect : ∀ (t : Run W) (live : Option NetworkSnapshot),
      Edited ops N (fun _ => False) s t → t.plane.links = s.plane.links →
      wp (selectDns ops live >>= fun choice => applyDns ops choice.1 choice.2) Q E t := by
    intro t live hedited hlinks
    have hdecision := fun ethLive => dnsDecision_links hlinks ethLive
    unfold selectDns
    rw [wp_bind, wp_bind, wp_getPlane, wp_ite]
    split
    · rw [wp_bind]
      cases live with
      | none =>
        refine wp_invoke.mpr ?_
        rw [wp_pure, hdecision]
        exact h _ _ _ hedited hlinks
      | some current =>
        show wp (applyDns ops (t.plane.dnsDecision _) _) Q E t
        rw [hdecision]
        exact h t _ _ hedited hlinks
    · rw [wp_pure, hdecision]
      exact h t _ _ hedited hlinks
  unfold recomputeDnsLocked initializeDnsOwnership
  rw [wp_bind, wp_bind, wp_getPlane, wp_ite]
  split
  · exact hselect s none .refl rfl
  · rw [wp_ite]
    split
    · rw [wp_bind]
      refine wp_invoke.mpr ?_
      rw [wp_bind, wp_modifyPlane, wp_pure]
      exact hselect _ _ (.single (.adoptDns s.world)) rfl
    · rw [wp_bind, wp_modifyPlane, wp_pure]
      exact hselect _ _ (.single .initializeBlind) rfl

/-- A pass succeeds if whatever can be selected is well formed. -/
theorem recomputeDnsLocked_accepted (hchecks : ChecksArguments ops)
    (hselected : ∀ ethLive dns4, s.plane.dnsDecision ethLive = .select dns4 → BlankOrIpv4 dns4) :
    wp (recomputeDnsLocked ops) (fun _ _ => True) (fun _ _ => False) s :=
  wp_recomputeDnsLocked_choice (N := s.plane.names) fun _ ethLive _ _ _ =>
    applyDns_accepted hchecks (hselected ethLive)

end Accepted

end NetworkService.ControlPlane
