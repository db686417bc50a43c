import NetworkService.Ipc.FaithfulPayloads

/-!
# A quiet detector

`NetworkStateChangeDetector` compares each snapshot with the one before and reports which categories
differ.  Its list of fields and that of the wire encoder are kept in different layers.  It is silent
exactly if two snapshots agree up to their signal, the Wi-Fi truth of the Ethernet device and the
owner of the resolver file; the encoder prints the signal alone of these.
-/

namespace NetworkService

open Ipc Ipc.Representation
open Server (NetworkStateChangeSet)

/-! ### The detector -/

def interfaceSemanticallyEqual (lhs rhs : InterfaceSnapshot) (includeWifiTruth includeSignalBars : Bool) :
    Bool :=
  lhs.iface = rhs.iface ∧
  lhs.present = rhs.present ∧
  lhs.carrierUp = rhs.carrierUp ∧
  lhs.hasIp = rhs.hasIp ∧
  lhs.ip4 = rhs.ip4 ∧
  lhs.netmask4 = rhs.netmask4 ∧
  lhs.hasDefaultRoute = rhs.hasDefaultRoute ∧
  lhs.gateway4 = rhs.gateway4 ∧
  lhs.routeMetric = rhs.routeMetric ∧
  lhs.enabled = rhs.enabled ∧
  lhs.connected = rhs.connected ∧
  lhs.ipState = rhs.ipState ∧
  (!includeWifiTruth ∨ lhs.wifiL2State = rhs.wifiL2State) ∧
  lhs.ssid = rhs.ssid ∧
  (!includeSignalBars ∨ lhs.signalBars = rhs.signalBars)

structure NetworkStateChangeDetector where
  initialized : Bool := false
  previous : NetworkSnapshot := {}
  deriving DecidableEq

namespace NetworkStateChangeDetector

/-- The first snapshot is the baseline. -/
def observe (detector : NetworkStateChangeDetector) (snapshot : NetworkSnapshot) :
    NetworkStateChangeSet × NetworkStateChangeDetector :=
  let previous := detector.previous
  if detector.initialized = false then ({}, { initialized := true, previous := snapshot })
  else
    ({ eth := !interfaceSemanticallyEqual previous.eth snapshot.eth false false
       wifi := !interfaceSemanticallyEqual previous.wifi snapshot.wifi true true
       route := previous.routePolicy ≠ snapshot.routePolicy ∨
         previous.primaryIface ≠ snapshot.primaryIface ∨
         previous.networkReady ≠ snapshot.networkReady ∨ previous.online ≠ snapshot.online
       dns := previous.dnsPolicy ≠ snapshot.dnsPolicy ∨
         previous.dnsAvailable ≠ snapshot.dnsAvailable ∨ previous.dns4 ≠ snapshot.dns4 },
      { detector with previous := snapshot })

/-- The detector before the snapshot at a position. -/
def before (snapshots : ℕ → NetworkSnapshot) : ℕ → NetworkStateChangeDetector
  | 0 => {}
  | n + 1 => ((before snapshots n).observe (snapshots n)).2

/-- What is reported at a position. -/
def reported (snapshots : ℕ → NetworkSnapshot) (n : ℕ) : NetworkStateChangeSet :=
  ((before snapshots n).observe (snapshots n)).1

end NetworkStateChangeDetector

/-! ### What silence means -/

/-- What the detector looks at. -/
def watched (snapshot : NetworkSnapshot) : NetworkSnapshot :=
  { snapshot with
    eth := { snapshot.eth with wifiL2State := .unknown, signalDbm := 0, signalBars := 0 }
    wifi := { snapshot.wifi with signalDbm := 0 }
    dnsManagedByNetworkService := false }

theorem eth_equal_iff (lhs rhs : InterfaceSnapshot) :
    interfaceSemanticallyEqual lhs rhs false false = true ↔
      { lhs with wifiL2State := .unknown, signalDbm := 0, signalBars := 0 : InterfaceSnapshot } =
        { rhs with wifiL2State := .unknown, signalDbm := 0, signalBars := 0 } := by
  simp [interfaceSemanticallyEqual]

theorem wifi_equal_iff (lhs rhs : InterfaceSnapshot) :
    interfaceSemanticallyEqual lhs rhs true true = true ↔
      { lhs with signalDbm := 0 : InterfaceSnapshot } = { rhs with signalDbm := 0 } := by
  simp [interfaceSemanticallyEqual]

/-- Silence is agreement on what is watched. -/
theorem observe_silent_iff {detector : NetworkStateChangeDetector} (h : detector.initialized = true)
    (snapshot : NetworkSnapshot) :
    (detector.observe snapshot).1.any = false ↔ watched detector.previous = watched snapshot := by
  have heth := eth_equal_iff detector.previous.eth snapshot.eth
  have hwifi := wifi_equal_iff detector.previous.wifi snapshot.wifi
  simp only [NetworkStateChangeDetector.observe, NetworkStateChangeSet.any, watched, h,
    Bool.true_eq_false, if_false, Bool.or_eq_false_iff, Bool.not_eq_false', heth, hwifi,
    decide_eq_false_iff_not, not_or, ne_eq, Decidable.not_not, NetworkSnapshot.mk.injEq]
  constructor
  · intro ⟨⟨⟨he, hw⟩, hroute, hprimary, hready, honline⟩, hpolicy, havailable, hdns⟩
    exact ⟨he, hw, hroute, hpolicy, hprimary, havailable, trivial, hready, honline, hdns⟩
  · intro ⟨he, hw, hroute, hpolicy, hprimary, havailable, _, hready, honline, hdns⟩
    exact ⟨⟨⟨he, hw⟩, hroute, hprimary, hready, honline⟩, hpolicy, havailable, hdns⟩

namespace NetworkStateChangeDetector

variable (snapshots : ℕ → NetworkSnapshot)

theorem before_succ (n : ℕ) :
    before snapshots (n + 1) = { initialized := true, previous := snapshots n } := by
  have hinitialized : ∀ detector : NetworkStateChangeDetector, ∀ snapshot,
      (detector.observe snapshot).2 = { initialized := true, previous := snapshot } := by
    intro detector snapshot
    unfold observe
    cases hinit : detector.initialized with
    | false => rfl
    | true => rw [if_neg nofun]
  exact hinitialized _ _

/-- A silent stretch leaves what is watched unchanged: the induction is on its length. -/
theorem watched_of_silent {i j : ℕ} (hij : i ≤ j)
    (hsilent : ∀ k, i < k → k ≤ j → (reported snapshots k).any = false) :
    watched (snapshots i) = watched (snapshots j) := by
  induction hij with
  | refl => rfl
  | @step j hij ih =>
    have hbefore := ih fun k hik hkj => hsilent k hik (Nat.le_succ_of_le hkj)
    have hlast := hsilent (j + 1) (Nat.lt_succ_of_le hij) (Nat.le_refl _)
    have hstep : watched (before snapshots (j + 1)).previous = watched (snapshots (j + 1)) :=
      (observe_silent_iff (by rw [before_succ]) (snapshots (j + 1))).mp hlast
    rw [before_succ] at hstep
    exact hbefore.trans hstep

end NetworkStateChangeDetector

/-! ### The wire -/

/-- The snapshot with the signal fields of another one. -/
def withSignalsOf (snapshot other : NetworkSnapshot) : NetworkSnapshot :=
  { snapshot with
    eth := { snapshot.eth with signalDbm := other.eth.signalDbm, signalBars := other.eth.signalBars }
    wifi := { snapshot.wifi with signalDbm := other.wifi.signalDbm } }

theorem ifacePayload_ignores (iface : InterfaceSnapshot) (l2 : WifiL2State) :
    ifacePayload { iface with wifiL2State := l2 } = ifacePayload iface :=
  rfl

/-- The encoder prints nothing but the signal that is not watched. -/
theorem snapshotPayload_of_watched {s t : NetworkSnapshot} (h : watched s = watched t) :
    Representation.snapshotPayload (withSignalsOf s t) = Representation.snapshotPayload t := by
  simp only [watched, NetworkSnapshot.mk.injEq] at h
  obtain ⟨heth, hwifi, hroute, -, hprimary, havailable, -, -, honline, hdns⟩ := h
  have heth' : { (withSignalsOf s t).eth with wifiL2State := .unknown : InterfaceSnapshot } =
      { t.eth with wifiL2State := .unknown } := by
    simp only [withSignalsOf, InterfaceSnapshot.mk.injEq] at heth ⊢
    simp only [heth, and_self]
  have hwifi' : (withSignalsOf s t).wifi = t.wifi := by
    have hfields : { s.wifi with signalDbm := t.wifi.signalDbm : InterfaceSnapshot } =
        { t.wifi with signalDbm := t.wifi.signalDbm } := by
      simp only [InterfaceSnapshot.mk.injEq] at hwifi ⊢
      simp only [hwifi, and_self]
    exact hfields
  have hethPayload : ifacePayload (withSignalsOf s t).eth = ifacePayload t.eth := by
    rw [← ifacePayload_ignores _ .unknown, heth', ifacePayload_ignores]
  unfold Representation.snapshotPayload
  rw [hethPayload, hwifi']
  simp only [withSignalsOf, hroute, hprimary, havailable, honline, hdns]

/-- The four categories in the order of the wire. -/
def categoryFlags (changes : NetworkStateChangeSet) : List (String × Bool) :=
  ["eth", "wifi", "route", "dns"].zip [changes.eth, changes.wifi, changes.route, changes.dns]

theorem categories_eq (changes : NetworkStateChangeSet) :
    changes.categories = ((categoryFlags changes).filter Prod.snd).map Prod.fst := by
  obtain ⟨eth, wifi, route, dns⟩ := changes
  cases eth <;> cases wifi <;> cases route <;> cases dns <;> rfl

/-- **A quiet detector.**  Between two positions without a report the wire text of the snapshot
changes in its signal fields at most.  What a report says on the wire are the categories that it
reports, among the four in their order. -/
theorem quiet_means_unchanged_wire (snapshots : ℕ → NetworkSnapshot) :
    (∀ i j, i < j →
      (∀ k, i < k → k ≤ j → (NetworkStateChangeDetector.reported snapshots k).any = false) →
      Representation.snapshotPayload (withSignalsOf (snapshots i) (snapshots j)) =
        Representation.snapshotPayload (snapshots j)) ∧
    ∀ n, Representation.stateChangesPayload (NetworkStateChangeDetector.reported snapshots n) =
      (Document.object [member "changed" (.array
        (((categoryFlags (NetworkStateChangeDetector.reported snapshots n)).filter Prod.snd).map
          fun category => stringOf category.1))]).print := by
  constructor
  · intro i j hij hsilent
    exact snapshotPayload_of_watched
      (NetworkStateChangeDetector.watched_of_silent snapshots (Nat.le_of_lt hij) hsilent)
  · intro n
    rw [stateChangesPayload_eq, stateChangesDocument, categories_eq, List.map_map]
    rfl

end NetworkService
