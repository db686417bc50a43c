import NetworkService.Platform.InterfaceSnapshot

/-!
# The primary interface

`normalize_network_snapshot` turns the facts of a live snapshot into the state of the two links and
chooses the primary interface: of the usable interfaces with a default route the one with the smaller
metric, Ethernet on a tie.  The metric it compares is the one that the loop over the routing table
has left, which is the last one of the interface and not its smallest, and may be that of a route to
half of all addresses, which has the destination of a default route but not its mask.
-/

namespace NetworkService.Daemon

open Platform

/-! ### Normalizing -/

/-- What the Wi-Fi side knows of itself, as far as it enters the snapshot. -/
structure WifiRuntimeFact where
  l2State : WifiL2State := .unknown
  dhcpState : DhcpClientState := .idle
  deriving DecidableEq

def wifiL2Connected (state : WifiL2State) : Bool := state = .connected

def dhcpClientActive (state : DhcpClientState) : Bool := state = .starting ∨ state = .running

def normalizeNetworkSnapshot (snapshot : NetworkSnapshot) (wifiRuntime : WifiRuntimeFact) :
    NetworkSnapshot :=
  let ethIpState := if snapshot.eth.hasIp then IpState.ready else IpState.none
  let eth : InterfaceSnapshot := { snapshot.eth with
    ipState := ethIpState
    connected := snapshot.eth.carrierUp && decide (ethIpState = .ready) }
  -- a link that was up before the first event of the supplicant is adopted
  let compatLiveLink := decide (wifiRuntime.l2State = .unknown) && snapshot.wifi.hasIp
  let l2Connected := wifiL2Connected wifiRuntime.l2State || compatLiveLink
  let wifiIpState :=
    if l2Connected && snapshot.wifi.hasIp then IpState.ready
    else if l2Connected && dhcpClientActive wifiRuntime.dhcpState then IpState.configuring
    else IpState.none
  let wifi : InterfaceSnapshot := { snapshot.wifi with
    wifiL2State := wifiRuntime.l2State
    connected := l2Connected
    ipState := wifiIpState }
  let ethUsable := eth.connected && eth.hasDefaultRoute
  let wifiUsable := wifi.connected && decide (wifi.ipState = .ready) && wifi.hasDefaultRoute
  let primaryIface := if ethUsable then eth.iface else ""
  let primaryIface :=
    if wifiUsable && (!ethUsable || decide (wifi.routeMetric < eth.routeMetric)) then wifi.iface
    else primaryIface
  let networkReady := decide (primaryIface ≠ "") && snapshot.dnsAvailable
  { snapshot with eth, wifi, primaryIface, networkReady, online := networkReady }

/-- The link is connected and its IPv4 is ready. -/
def usable (iface : InterfaceSnapshot) : Bool := iface.connected && decide (iface.ipState = .ready)

/-- When Ethernet is usable: a fact of the live snapshot. -/
def ethUp (eth : InterfaceSnapshot) : Bool := eth.carrierUp && eth.hasIp

/-- When Wi-Fi is usable. -/
def wifiUp (wifi : InterfaceSnapshot) (wifiRuntime : WifiRuntimeFact) : Bool :=
  wifi.hasIp && (wifiL2Connected wifiRuntime.l2State || decide (wifiRuntime.l2State = .unknown))

section Normalized

variable (snapshot : NetworkSnapshot) (wifiRuntime : WifiRuntimeFact)

theorem usable_eth :
    usable (normalizeNetworkSnapshot snapshot wifiRuntime).eth = ethUp snapshot.eth := by
  unfold usable ethUp
  simp only [normalizeNetworkSnapshot]
  cases snapshot.eth.hasIp <;> simp

theorem usable_wifi :
    usable (normalizeNetworkSnapshot snapshot wifiRuntime).wifi =
      wifiUp snapshot.wifi wifiRuntime := by
  unfold usable wifiUp
  simp only [normalizeNetworkSnapshot]
  by_cases hunknown : wifiRuntime.l2State = .unknown <;>
    cases snapshot.wifi.hasIp <;> cases wifiL2Connected wifiRuntime.l2State <;>
    cases dhcpClientActive wifiRuntime.dhcpState <;> simp [hunknown]

theorem primaryIface_normalize :
    (normalizeNetworkSnapshot snapshot wifiRuntime).primaryIface =
      if (wifiUp snapshot.wifi wifiRuntime && snapshot.wifi.hasDefaultRoute) &&
          (!(ethUp snapshot.eth && snapshot.eth.hasDefaultRoute) ||
            decide (snapshot.wifi.routeMetric < snapshot.eth.routeMetric)) then snapshot.wifi.iface
      else if ethUp snapshot.eth && snapshot.eth.hasDefaultRoute then snapshot.eth.iface
      else "" := by
  have heth := usable_eth snapshot wifiRuntime
  have hwifi := usable_wifi snapshot wifiRuntime
  unfold usable at heth hwifi
  rw [← heth, ← hwifi]
  simp only [normalizeNetworkSnapshot]
  cases snapshot.eth.hasIp <;> simp

end Normalized

/-! ### The choice of the kernel -/

/-- A default route is one to every address: destination and mask are zero. -/
def isDefaultRoute (row : RouteRow) : Bool :=
  row.destination = "00000000" ∧ row.mask = some "00000000"

/-- The metrics of an interface's default routes, in the order of the table. -/
def defaultMetrics (rows : List RouteRow) (iface : String) : List Int :=
  (rows.filter fun row => isDefaultRoute row ∧ row.iface = iface).map fun row =>
    Config.atoi row.metric.toList

/-- The metrics of the default routes that an interface offers; an interface that cannot be used
offers none. -/
def offered (rows : List RouteRow) (iface : InterfaceSnapshot) : List Int :=
  if usable iface then defaultMetrics rows iface.iface else []

/-- The primary interface is the one the kernel chooses by the routing table: none if none is
offered, else the owner of the smallest metric that is offered, Ethernet on a tie. -/
structure KernelsChoice (rows : List RouteRow) (snapshot : NetworkSnapshot) : Prop where
  empty_iff : snapshot.primaryIface = "" ↔
    offered rows snapshot.eth = [] ∧ offered rows snapshot.wifi = []
  smallest : snapshot.primaryIface ≠ "" →
    ∃ iface ∈ [snapshot.eth, snapshot.wifi], snapshot.primaryIface = iface.iface ∧
      ∃ metric ∈ offered rows iface,
        (∀ other ∈ offered rows snapshot.eth ++ offered rows snapshot.wifi, metric ≤ other) ∧
        (metric ∈ offered rows snapshot.eth → iface = snapshot.eth)

/-- The facts about the two interfaces, before the routing table is read. -/
structure InterfaceFacts where
  snapshot : NetworkSnapshot
  ethNamed : snapshot.eth.iface ≠ ""
  wifiNamed : snapshot.wifi.iface ≠ ""
  distinct : snapshot.eth.iface ≠ snapshot.wifi.iface
  ethUnrouted : snapshot.eth.hasDefaultRoute = false
  wifiUnrouted : snapshot.wifi.hasDefaultRoute = false

/-- The metric of the last row that the loop takes for an interface that is up. -/
def lastTaken (up : Bool) (rows : List RouteRow) (iface : String) : Option Int :=
  if up then (takenMetrics rows iface).getLast? else none

/-- The smallest metric of the default routes of an interface that is up. -/
def leastDefault (up : Bool) (rows : List RouteRow) (iface : String) : Option Int :=
  if up then (defaultMetrics rows iface).min? else none

/-- The last rows taken rank the two interfaces as their default routes do.  Where both have default
routes, the last rows compare as the smallest of these; where one has rows with the destination zero
but no default route, the other one has a default route and beats it with its last row. -/
structure RanksAlike (ethLast wifiLast ethLeast wifiLeast : Option Int) : Prop where
  both : ∀ ethMetric ∈ ethLast, ∀ wifiMetric ∈ wifiLast, ∀ ethMin ∈ ethLeast, ∀ wifiMin ∈ wifiLeast,
    wifiMetric < ethMetric ↔ wifiMin < ethMin
  eth : ethLeast = none → ∀ ethMetric ∈ ethLast,
    wifiLeast ≠ none ∧ ∀ wifiMetric ∈ wifiLast, wifiMetric < ethMetric
  wifi : wifiLeast = none → ∀ wifiMetric ∈ wifiLast,
    ethLeast ≠ none ∧ ∀ ethMetric ∈ ethLast, ethMetric ≤ wifiMetric

/-- The table and the two interfaces are such that the last rows rank them rightly. -/
def LastsRank (facts : InterfaceFacts) (rows : List RouteRow) (wifiRuntime : WifiRuntimeFact) :
    Prop :=
  RanksAlike (lastTaken (ethUp facts.snapshot.eth) rows facts.snapshot.eth.iface)
    (lastTaken (wifiUp facts.snapshot.wifi wifiRuntime) rows facts.snapshot.wifi.iface)
    (leastDefault (ethUp facts.snapshot.eth) rows facts.snapshot.eth.iface)
    (leastDefault (wifiUp facts.snapshot.wifi wifiRuntime) rows facts.snapshot.wifi.iface)

/-! ### The choice of the daemon -/

theorem KernelsChoice.of_none {rows : List RouteRow} {snapshot : NetworkSnapshot}
    (hnone : offered rows snapshot.eth = [] ∧ offered rows snapshot.wifi = [])
    (hprimary : snapshot.primaryIface = "") : KernelsChoice rows snapshot :=
  ⟨⟨fun _ => hnone, fun _ => hprimary⟩, fun h => absurd hprimary h⟩

/-- Ethernet chosen, with a metric that is the smallest of all. -/
theorem KernelsChoice.of_eth {rows : List RouteRow} {snapshot : NetworkSnapshot} {metric : Int}
    (hprimary : snapshot.primaryIface = snapshot.eth.iface) (hnamed : snapshot.eth.iface ≠ "")
    (hmin : (offered rows snapshot.eth).min? = some metric)
    (hwifi : ∀ other ∈ offered rows snapshot.wifi, metric ≤ other) : KernelsChoice rows snapshot := by
  obtain ⟨hmem, hle⟩ := List.min?_eq_some_iff.mp hmin
  refine ⟨⟨fun h => absurd (hprimary.symm.trans h) hnamed, fun h => ?_⟩, fun _ => ?_⟩
  · rw [h.1] at hmem
    exact absurd hmem List.not_mem_nil
  · refine ⟨snapshot.eth, List.mem_cons_self, hprimary, metric, hmem, fun other hother => ?_,
      fun _ => rfl⟩
    rcases List.mem_append.mp hother with hother | hother
    · exact hle other hother
    · exact hwifi other hother

/-- Wi-Fi chosen, with a metric below those of Ethernet. -/
theorem KernelsChoice.of_wifi {rows : List RouteRow} {snapshot : NetworkSnapshot} {metric : Int}
    (hprimary : snapshot.primaryIface = snapshot.wifi.iface) (hnamed : snapshot.wifi.iface ≠ "")
    (hmin : (offered rows snapshot.wifi).min? = some metric)
    (heth : ∀ other ∈ offered rows snapshot.eth, metric < other) : KernelsChoice rows snapshot := by
  obtain ⟨hmem, hle⟩ := List.min?_eq_some_iff.mp hmin
  refine ⟨⟨fun h => absurd (hprimary.symm.trans h) hnamed, fun h => ?_⟩, fun _ => ?_⟩
  · rw [h.2] at hmem
    exact absurd hmem List.not_mem_nil
  · refine ⟨snapshot.wifi, List.mem_cons_of_mem _ List.mem_cons_self, hprimary, metric, hmem,
      fun other hother => ?_, fun hother => absurd (heth metric hother) (Int.lt_irrefl _)⟩
    rcases List.mem_append.mp hother with hother | hother
    · exact Int.le_of_lt (heth other hother)
    · exact hle other hother

/-- The choice of the kernel between two interfaces that both offer routes. -/
theorem KernelsChoice.compare {rows : List RouteRow} {snapshot : NetworkSnapshot} {ethMin wifiMin : Int}
    (h : KernelsChoice rows snapshot) (hethMin : (offered rows snapshot.eth).min? = some ethMin)
    (hwifiMin : (offered rows snapshot.wifi).min? = some wifiMin)
    (hnamed : snapshot.primaryIface ≠ "") (hdistinct : snapshot.eth.iface ≠ snapshot.wifi.iface) :
    snapshot.primaryIface = snapshot.wifi.iface ↔ wifiMin < ethMin := by
  obtain ⟨hethMem, hethLe⟩ := List.min?_eq_some_iff.mp hethMin
  obtain ⟨hwifiMem, hwifiLe⟩ := List.min?_eq_some_iff.mp hwifiMin
  obtain ⟨iface, hiface, hprimary, metric, hmetric, hle, htie⟩ := h.smallest hnamed
  have hleEth := hle ethMin (List.mem_append_left _ hethMem)
  have hleWifi := hle wifiMin (List.mem_append_right _ hwifiMem)
  rw [hprimary]
  rcases List.mem_cons.mp hiface with rfl | hiface
  · have hmin := hethLe metric hmetric
    exact ⟨fun heq => absurd heq hdistinct, fun hlt => by omega⟩
  · obtain rfl := List.mem_singleton.mp hiface
    have hmin := hwifiLe metric hmetric
    refine ⟨fun _ => ?_, fun _ => rfl⟩
    rcases Int.lt_or_le wifiMin ethMin with hlt | hge
    · exact hlt
    · -- a tie would have gone to Ethernet
      obtain rfl : metric = ethMin := by omega
      exact absurd (congrArg InterfaceSnapshot.iface (htie hethMem)).symm hdistinct

/-- The interface with the smaller of two metrics, as far as they exist. -/
def preferred (eth wifi : String) : Option Int → Option Int → String
  | none, none => ""
  | some _, none => eth
  | none, some _ => wifi
  | some ethMetric, some wifiMetric => if wifiMetric < ethMetric then wifi else eth

/-- The interface that is named offers a default route. -/
theorem KernelsChoice.owner {rows : List RouteRow} {snapshot : NetworkSnapshot}
    (h : KernelsChoice rows snapshot) (hchosen : snapshot.primaryIface ≠ "") :
    (snapshot.primaryIface = snapshot.eth.iface ∧ offered rows snapshot.eth ≠ []) ∨
      (snapshot.primaryIface = snapshot.wifi.iface ∧ offered rows snapshot.wifi ≠ []) := by
  obtain ⟨iface, hiface, hprimary, metric, hmetric, -⟩ := h.smallest hchosen
  rcases List.mem_cons.mp hiface with rfl | hiface
  · exact .inl ⟨hprimary, List.ne_nil_of_mem hmetric⟩
  · obtain rfl := List.mem_singleton.mp hiface
    exact .inr ⟨hprimary, List.ne_nil_of_mem hmetric⟩

/-- The choice of the kernel compares the smallest metrics that are offered. -/
theorem kernelsChoice_iff {rows : List RouteRow} {snapshot : NetworkSnapshot}
    (hethNamed : snapshot.eth.iface ≠ "") (hwifiNamed : snapshot.wifi.iface ≠ "")
    (hdistinct : snapshot.eth.iface ≠ snapshot.wifi.iface) :
    KernelsChoice rows snapshot ↔
      snapshot.primaryIface = preferred snapshot.eth.iface snapshot.wifi.iface
        (offered rows snapshot.eth).min? (offered rows snapshot.wifi).min? := by
  have hoffers : ∀ {metrics : List Int} {metric}, metrics.min? = some metric → metrics ≠ [] := by
    rintro metrics metric hmin rfl
    cases hmin
  cases hethMin : (offered rows snapshot.eth).min? with
  | none =>
    have hethNone := List.min?_eq_none_iff.mp hethMin
    cases hwifiMin : (offered rows snapshot.wifi).min? with
    | none =>
      have hnone : offered rows snapshot.eth = [] ∧ offered rows snapshot.wifi = [] :=
        ⟨hethNone, List.min?_eq_none_iff.mp hwifiMin⟩
      exact ⟨fun h => h.empty_iff.mpr hnone, .of_none hnone⟩
    | some wifiMin =>
      constructor
      · intro h
        rcases h.owner fun hempty => hoffers hwifiMin (h.empty_iff.mp hempty).2 with
          ⟨-, hsome⟩ | ⟨hprimary, -⟩
        · exact absurd hethNone hsome
        · exact hprimary
      · intro hprimary
        refine .of_wifi hprimary hwifiNamed hwifiMin ?_
        rw [hethNone]
        exact fun other hother => absurd hother List.not_mem_nil
  | some ethMin =>
    have hchosen : KernelsChoice rows snapshot → snapshot.primaryIface ≠ "" := fun h hempty =>
      hoffers hethMin (h.empty_iff.mp hempty).1
    cases hwifiMin : (offered rows snapshot.wifi).min? with
    | none =>
      have hwifiNone := List.min?_eq_none_iff.mp hwifiMin
      constructor
      · intro h
        rcases h.owner (hchosen h) with ⟨hprimary, -⟩ | ⟨-, hsome⟩
        · exact hprimary
        · exact absurd hwifiNone hsome
      · intro hprimary
        refine .of_eth hprimary hethNamed hethMin ?_
        rw [hwifiNone]
        exact fun other hother => absurd hother List.not_mem_nil
    | some wifiMin =>
      show _ ↔ _ = if wifiMin < ethMin then snapshot.wifi.iface else snapshot.eth.iface
      have hethLe := (List.min?_eq_some_iff.mp hethMin).2
      have hwifiLe := (List.min?_eq_some_iff.mp hwifiMin).2
      by_cases hlt : wifiMin < ethMin
      · rw [if_pos hlt]
        constructor
        · intro h
          exact (h.compare hethMin hwifiMin (hchosen h) hdistinct).mpr hlt
        · intro hprimary
          exact .of_wifi hprimary hwifiNamed hwifiMin fun other hother =>
            Int.lt_of_lt_of_le hlt (hethLe other hother)
      · rw [if_neg hlt]
        constructor
        · intro h
          rcases h.owner (hchosen h) with ⟨hprimary, -⟩ | ⟨hprimary, -⟩
          · exact hprimary
          · exact absurd ((h.compare hethMin hwifiMin (hchosen h) hdistinct).mp hprimary) hlt
        · intro hprimary
          exact .of_eth hprimary hethNamed hethMin fun other hother =>
            Int.le_trans (Int.not_lt.mp hlt) (hwifiLe other hother)

section Daemon

variable (facts : InterfaceFacts) (routes : Option (List Char)) (wifiRuntime : WifiRuntimeFact)

/-- The snapshot of the daemon. -/
def InterfaceFacts.normalized : NetworkSnapshot :=
  normalizeNetworkSnapshot (populateDefaultRoutes routes facts.snapshot) wifiRuntime

/-- The facts of one interface, with what its rows in the table add. -/
theorem InterfaceFacts.populated :
    Populated (takenMetrics (routeRows routes) facts.snapshot.eth.iface) facts.snapshot.eth
        (populateDefaultRoutes routes facts.snapshot).eth ∧
      Populated (takenMetrics (routeRows routes) facts.snapshot.wifi.iface) facts.snapshot.wifi
        (populateDefaultRoutes routes facts.snapshot).wifi :=
  populated_foldl (routeRows routes) facts.distinct

/-- The table changes neither the names nor whether the interfaces are up. -/
theorem InterfaceFacts.populated_eth :
    (populateDefaultRoutes routes facts.snapshot).eth.iface = facts.snapshot.eth.iface ∧
      ethUp (populateDefaultRoutes routes facts.snapshot).eth = ethUp facts.snapshot.eth := by
  have hothers := (facts.populated routes).1.others
  exact ⟨by rw [hothers], by rw [hothers]; rfl⟩

theorem InterfaceFacts.populated_wifi :
    (populateDefaultRoutes routes facts.snapshot).wifi.iface = facts.snapshot.wifi.iface ∧
      wifiUp (populateDefaultRoutes routes facts.snapshot).wifi wifiRuntime =
        wifiUp facts.snapshot.wifi wifiRuntime := by
  have hothers := (facts.populated routes).2.others
  exact ⟨by rw [hothers], by rw [hothers]; rfl⟩

theorem InterfaceFacts.offered_eth :
    (facts.normalized routes wifiRuntime).eth.iface = facts.snapshot.eth.iface ∧
      offered (routeRows routes) (facts.normalized routes wifiRuntime).eth =
        if ethUp facts.snapshot.eth then defaultMetrics (routeRows routes) facts.snapshot.eth.iface
        else [] := by
  obtain ⟨hname, hup⟩ := facts.populated_eth routes
  have hiface : (facts.normalized routes wifiRuntime).eth.iface = facts.snapshot.eth.iface := hname
  have husable : usable (facts.normalized routes wifiRuntime).eth = ethUp facts.snapshot.eth :=
    (usable_eth _ wifiRuntime).trans hup
  refine ⟨hiface, ?_⟩
  unfold offered
  rw [husable, hiface]

theorem InterfaceFacts.offered_wifi :
    (facts.normalized routes wifiRuntime).wifi.iface = facts.snapshot.wifi.iface ∧
      offered (routeRows routes) (facts.normalized routes wifiRuntime).wifi =
        if wifiUp facts.snapshot.wifi wifiRuntime then
          defaultMetrics (routeRows routes) facts.snapshot.wifi.iface
        else [] := by
  obtain ⟨hname, hup⟩ := facts.populated_wifi routes wifiRuntime
  have hiface : (facts.normalized routes wifiRuntime).wifi.iface = facts.snapshot.wifi.iface := hname
  have husable : usable (facts.normalized routes wifiRuntime).wifi =
      wifiUp facts.snapshot.wifi wifiRuntime := (usable_wifi _ wifiRuntime).trans hup
  refine ⟨hiface, ?_⟩
  unfold offered
  rw [husable, hiface]

/-- What the daemon compares: the last metric of each interface. -/
theorem InterfaceFacts.primaryIface_normalized :
    (facts.normalized routes wifiRuntime).primaryIface =
      preferred facts.snapshot.eth.iface facts.snapshot.wifi.iface
        (lastTaken (ethUp facts.snapshot.eth) (routeRows routes) facts.snapshot.eth.iface)
        (lastTaken (wifiUp facts.snapshot.wifi wifiRuntime) (routeRows routes)
          facts.snapshot.wifi.iface) := by
  obtain ⟨heth, hwifi⟩ := facts.populated routes
  obtain ⟨hethName, hethUp⟩ := facts.populated_eth routes
  obtain ⟨hwifiName, hwifiUp⟩ := facts.populated_wifi routes wifiRuntime
  have hfound : ∀ metrics : List Int, metrics.isEmpty = !metrics.getLast?.isSome := by
    intro metrics
    cases metrics <;> simp
  unfold InterfaceFacts.normalized lastTaken
  rw [primaryIface_normalize, hethUp, hwifiUp, heth.found, hwifi.found, heth.last, hwifi.last,
    facts.ethUnrouted, facts.wifiUnrouted, Bool.false_or, Bool.false_or, hethName, hwifiName,
    hfound, hfound]
  cases ethUp facts.snapshot.eth <;> cases wifiUp facts.snapshot.wifi wifiRuntime <;>
    cases (takenMetrics (routeRows routes) facts.snapshot.eth.iface).getLast? <;>
    cases (takenMetrics (routeRows routes) facts.snapshot.wifi.iface).getLast? <;>
    simp [preferred]

theorem min?_offered (up : Bool) (rows : List RouteRow) (iface : String) :
    (if up then defaultMetrics rows iface else []).min? = leastDefault up rows iface := by
  cases up <;> rfl

/-- A default route is among the rows that the loop takes. -/
theorem lastTaken_of_default {up : Bool} {rows : List RouteRow} {iface : String} {metric : Int}
    (h : leastDefault up rows iface = some metric) : ∃ last, lastTaken up rows iface = some last := by
  cases up with
  | false => cases h
  | true =>
    obtain ⟨row, hrow, -⟩ := List.mem_map.mp (List.min?_eq_some_iff.mp h).1
    obtain ⟨hmem, hdefault⟩ := List.mem_filter.mp hrow
    simp only [isDefaultRoute, decide_eq_true_eq] at hdefault
    have htaken : Config.atoi row.metric.toList ∈ takenMetrics rows iface :=
      List.mem_map.mpr ⟨row, List.mem_filter.mpr ⟨hmem, by simp [hdefault.1.1, hdefault.2]⟩, rfl⟩
    exact ⟨_, List.getLast?_eq_some_getLast (List.ne_nil_of_mem htaken)⟩

/-- Two comparisons name the same interface exactly if they rank the two alike. -/
theorem preferred_eq_iff {eth wifi : String} (heth : eth ≠ "") (hwifi : wifi ≠ "")
    (hdistinct : eth ≠ wifi) {ethLast wifiLast ethLeast wifiLeast : Option Int}
    (hethLast : ∀ metric, ethLeast = some metric → ∃ last, ethLast = some last)
    (hwifiLast : ∀ metric, wifiLeast = some metric → ∃ last, wifiLast = some last) :
    preferred eth wifi ethLast wifiLast = preferred eth wifi ethLeast wifiLeast ↔
      RanksAlike ethLast wifiLast ethLeast wifiLeast := by
  have hranks : RanksAlike ethLast wifiLast ethLeast wifiLeast ↔ _ ∧ _ ∧ _ :=
    ⟨fun h => ⟨h.both, h.eth, h.wifi⟩, fun h => ⟨h.1, h.2.1, h.2.2⟩⟩
  have hnamed : ∀ {c : Prop} [Decidable c], ¬(if c then wifi else eth) = "" := by
    intro c _
    split
    · exact hwifi
    · exact heth
  have hpicks : ∀ {c d : Prop} [Decidable c] [Decidable d],
      ((if c then wifi else eth) = if d then wifi else eth) ↔ (c ↔ d) := by
    intro c d _ _
    by_cases hc : c <;> by_cases hd : d <;> simp [hc, hd, hdistinct, Ne.symm hdistinct]
  have hpicksWifi : ∀ {c : Prop} [Decidable c], (if c then wifi else eth) = wifi ↔ c := by
    intro c _
    simpa using @hpicks c True _ _
  have hpicksEth : ∀ {c : Prop} [Decidable c], (if c then wifi else eth) = eth ↔ ¬c := by
    intro c _
    simpa using @hpicks c False _ _
  rw [hranks]
  cases ethLeast with
  | none =>
    cases wifiLeast with
    | none => cases ethLast <;> cases wifiLast <;> simp [preferred, heth, hwifi, hnamed]
    | some wifiMin =>
      obtain ⟨wifiMetric, rfl⟩ := hwifiLast wifiMin rfl
      cases ethLast <;> simp [preferred, hpicksWifi]
  | some ethMin =>
    obtain ⟨ethMetric, rfl⟩ := hethLast ethMin rfl
    cases wifiLeast with
    | none => cases wifiLast <;> simp [preferred, hpicksEth]
    | some wifiMin =>
      obtain ⟨wifiMetric, rfl⟩ := hwifiLast wifiMin rfl
      simp [preferred, hpicks]

/-- The daemon and the kernel name one interface if the metrics they compare prefer one. -/
theorem InterfaceFacts.kernelsChoice_normalized :
    KernelsChoice (routeRows routes) (facts.normalized routes wifiRuntime) ↔
      preferred facts.snapshot.eth.iface facts.snapshot.wifi.iface
          (lastTaken (ethUp facts.snapshot.eth) (routeRows routes) facts.snapshot.eth.iface)
          (lastTaken (wifiUp facts.snapshot.wifi wifiRuntime) (routeRows routes)
            facts.snapshot.wifi.iface) =
        preferred facts.snapshot.eth.iface facts.snapshot.wifi.iface
          (leastDefault (ethUp facts.snapshot.eth) (routeRows routes) facts.snapshot.eth.iface)
          (leastDefault (wifiUp facts.snapshot.wifi wifiRuntime) (routeRows routes)
            facts.snapshot.wifi.iface) := by
  obtain ⟨hethName, hethOffered⟩ := facts.offered_eth routes wifiRuntime
  obtain ⟨hwifiName, hwifiOffered⟩ := facts.offered_wifi routes wifiRuntime
  rw [kernelsChoice_iff (hethName ▸ facts.ethNamed) (hwifiName ▸ facts.wifiNamed)
      (by rw [hethName, hwifiName]; exact facts.distinct),
    facts.primaryIface_normalized, hethOffered, hwifiOffered, hethName, hwifiName, min?_offered,
    min?_offered]

/-- **The primary interface is the kernel's choice exactly if the last rows with the destination zero
rank the two interfaces as their default routes do.** -/
theorem primary_exact :
    KernelsChoice (routeRows routes) (facts.normalized routes wifiRuntime) ↔
      LastsRank facts (routeRows routes) wifiRuntime := by
  rw [facts.kernelsChoice_normalized]
  exact preferred_eq_iff facts.ethNamed facts.wifiNamed facts.distinct
    (fun _ => lastTaken_of_default) fun _ => lastTaken_of_default

end Daemon

/-- Both interfaces with a carrier, an address and, as far as the supplicant knows, a link. -/
def bothUp : InterfaceFacts where
  snapshot :=
    { eth := { iface := "eth0", carrierUp := true, hasIp := true }
      wifi := { iface := "wlan0", hasIp := true } }
  ethNamed := by decide
  wifiNamed := by decide
  distinct := by decide
  ethUnrouted := rfl
  wifiUnrouted := rfl

/-- Wi-Fi has the default routes with the smallest and the largest metric of the table. -/
def threeDefaultRoutes : List Char :=
  ("Iface\tDestination\tGateway\tFlags\tRefCnt\tUse\tMetric\tMask\n" ++
    "wlan0\t00000000\t0100A8C0\t0003\t0\t0\t5\t00000000\n" ++
    "eth0\t00000000\t0101A8C0\t0003\t0\t0\t10\t00000000\n" ++
    "wlan0\t00000000\t0100A8C0\t0003\t0\t0\t600\t00000000\n").toList

/-- Wi-Fi has a route to the lower half of all addresses, and there is no default route. -/
def halfRoute : List Char :=
  ("Iface\tDestination\tGateway\tFlags\tRefCnt\tUse\tMetric\tMask\n" ++
    "wlan0\t00000000\t0100A8C0\t0003\t0\t0\t5\t00000080\n").toList

/-- The kernel sends by Wi-Fi, the snapshot names Ethernet; and without a default route it names the
interface of a route to half of all addresses. -/
theorem later_route_hides_smaller :
    ¬KernelsChoice (routeRows (some threeDefaultRoutes))
        (bothUp.normalized (some threeDefaultRoutes) { l2State := .connected }) ∧
      ¬KernelsChoice (routeRows (some halfRoute))
        (bothUp.normalized (some halfRoute) { l2State := .connected }) := by
  rw [InterfaceFacts.kernelsChoice_normalized, InterfaceFacts.kernelsChoice_normalized]
  decide +kernel

/-! ### The live snapshot -/

/-- The names of two devices. -/
structure DeviceNames extends IfaceNames where
  ethNamed : eth ≠ ""
  wifiNamed : wifi ≠ ""

theorem DeviceNames.ethName (names : DeviceNames) : ifaceOr names.eth "eth0" = names.eth :=
  if_neg names.ethNamed

theorem DeviceNames.wifiName (names : DeviceNames) : ifaceOr names.wifi "wlan0" = names.wifi :=
  if_neg names.wifiNamed

theorem populateAddress_kept (iface : InterfaceSnapshot) (ifa : IfAddrs) :
    (populateAddress iface ifa).iface = iface.iface ∧
      (populateAddress iface ifa).hasDefaultRoute = iface.hasDefaultRoute := by
  unfold populateAddress
  split
  · exact ⟨rfl, rfl⟩
  · dsimp only
    split
    · exact ⟨rfl, rfl⟩
    · split <;> split <;> exact ⟨rfl, rfl⟩

theorem populateInterfaceAddresses_kept (facts : PlatformFacts) (iface : InterfaceSnapshot) :
    (populateInterfaceAddresses facts iface).iface = iface.iface ∧
      (populateInterfaceAddresses facts iface).hasDefaultRoute = iface.hasDefaultRoute := by
  have hfold : ∀ (ifaddrs : List IfAddrs) (iface : InterfaceSnapshot),
      (ifaddrs.foldl populateAddress iface).iface = iface.iface ∧
        (ifaddrs.foldl populateAddress iface).hasDefaultRoute = iface.hasDefaultRoute := by
    intro ifaddrs
    induction ifaddrs with
    | nil => exact fun _ => ⟨rfl, rfl⟩
    | cons ifa ifaddrs ih =>
      intro iface
      obtain ⟨hname, hroute⟩ := populateAddress_kept iface ifa
      obtain ⟨hnames, hroutes⟩ := ih (populateAddress iface ifa)
      exact ⟨hnames.trans hname, hroutes.trans hroute⟩
  unfold populateInterfaceAddresses
  split
  · exact ⟨rfl, rfl⟩
  · dsimp only
    split
    · exact hfold _ iface
    · exact hfold _ iface

/-- What is read of the interfaces before the routing table. -/
def readFacts (facts : PlatformFacts) (names : DeviceNames) : InterfaceFacts where
  snapshot := readInterfaces facts names.eth names.wifi
  ethNamed := by
    show (populateInterfaceAddresses _ _).iface ≠ ""
    rw [(populateInterfaceAddresses_kept _ _).1]
    show ifaceOr names.eth "eth0" ≠ ""
    rw [names.ethName]
    exact names.ethNamed
  wifiNamed := by
    show (populateInterfaceAddresses _ _).iface ≠ ""
    rw [(populateInterfaceAddresses_kept _ _).1]
    show ifaceOr names.wifi "wlan0" ≠ ""
    rw [names.wifiName]
    exact names.wifiNamed
  distinct := by
    show (populateInterfaceAddresses _ _).iface ≠ (populateInterfaceAddresses _ _).iface
    rw [(populateInterfaceAddresses_kept _ _).1, (populateInterfaceAddresses_kept _ _).1]
    show ifaceOr names.eth "eth0" ≠ ifaceOr names.wifi "wlan0"
    rw [names.ethName, names.wifiName]
    exact names.distinct
  ethUnrouted := (populateInterfaceAddresses_kept _ _).2
  wifiUnrouted := (populateInterfaceAddresses_kept _ _).2

/-- The primary interface of the daemon's own snapshot, which adds the resolver to these facts. -/
theorem primaryIface_live (facts : PlatformFacts) (names : DeviceNames) (wifiRuntime : WifiRuntimeFact) :
    (normalizeNetworkSnapshot (readLiveSnapshot facts names.eth names.wifi) wifiRuntime).primaryIface =
      ((readFacts facts names).normalized facts.routes wifiRuntime).primaryIface := rfl

end NetworkService.Daemon
