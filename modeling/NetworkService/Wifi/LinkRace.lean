import NetworkService.Wifi.ExplicitStop

/-!
# Link events against process checks

The system of `ExplicitStop` without explicit stops: the monitor thread delivers CONNECTED and
DISCONNECTED events, the reactor thread checks the process, starts may fail and the client may exit
at any moment.  The calls of the mechanism are kept, and the lifecycle is compared with them.
-/

namespace NetworkService.Wifi

open Execution

/-! ### The system with its mechanism calls -/

/-- The system and the calls of the mechanism so far, newest first. -/
structure Traced where
  system : System := {}
  calls : List MechanismCall := []

/-- The mechanism call that an event is. -/
@[grind] def mechanismCall (s : System) : Event → Option MechanismCall
  | .start outcome => some (.start outcome.isOk)
  | .stopAfterLoss | .stop => some .stop
  | .probe => some (.running s.client)
  | _ => none

/-- Every event but the beginning of an explicit stop. -/
def raceStep (e : Event) (r : Traced) : Option Traced :=
  match e with
  | .beginStop => none
  | e => (step e r.system).map fun t => ⟨t, (mechanismCall r.system e).toList ++ r.calls⟩

/-- The manager as the daemon constructs it, without a client. -/
def Fresh (r : Traced) : Prop := r = {}

theorem raceStep_cases {e : Event} {r r' : Traced} (h : raceStep e r = some r') :
    e ≠ .beginStop ∧ step e r.system = some r'.system ∧
      r'.calls = (mechanismCall r.system e).toList ++ r.calls := by
  have hmap : ∀ e : Event, (step e r.system).map
        (fun t => (⟨t, (mechanismCall r.system e).toList ++ r.calls⟩ : Traced)) = some r' →
      step e r.system = some r'.system ∧
        r'.calls = (mechanismCall r.system e).toList ++ r.calls := by
    intro e h
    obtain ⟨t, hstep, rfl⟩ := Option.map_eq_some_iff.mp h
    exact ⟨hstep, rfl⟩
  cases e
  case beginStop => cases h
  all_goals exact ⟨nofun, hmap _ h⟩

/-! ### Reading the calls -/

/-- Since the last successful start nothing but probes that found the process alive. -/
@[grind] def aliveSince : List MechanismCall → Bool
  | [] => false
  | .start ok :: _ => ok
  | .stop :: _ => false
  | .running alive :: older => alive && aliveSince older

/-- A successful start has neither been stopped nor been probed dead. -/
@[grind] def openStart : List MechanismCall → Bool
  | [] => false
  | .start ok :: older => ok || openStart older
  | .stop :: _ => false
  | .running alive :: older => alive && openStart older

@[grind] def hasStart : List MechanismCall → Bool
  | [] => false
  | .start _ :: _ => true
  | .stop :: older | .running _ :: older => hasStart older

/-- The last start failed, or a probe found the process dead after it. -/
@[grind] def startLost : List MechanismCall → Bool
  | [] => false
  | .start ok :: _ => !ok
  | .stop :: older => startLost older
  | .running alive :: older => if alive then startLost older else hasStart older

@[grind →] theorem hasStart_of_aliveSince {calls : List MechanismCall} (h : aliveSince calls = true) :
    hasStart calls = true := by
  induction calls with
  | nil => cases h
  | cons call older ih =>
    cases call with
    | start ok => rfl
    | stop => cases h
    | running alive => exact ih (Bool.and_eq_true _ _ ▸ h).2

@[grind →] theorem hasStart_of_startLost {calls : List MechanismCall} (h : startLost calls = true) :
    hasStart calls = true := by
  induction calls with
  | nil => cases h
  | cons call older ih =>
    cases call with
    | start ok => rfl
    | stop => exact ih h
    | running alive =>
      cases alive with
      | true => exact ih h
      | false => exact h

/-! ### The invariant -/

/-- The outcome of a start that has returned and is not written down yet. -/
@[grind] def MonitorPoint.returned : MonitorPoint → Option Bool
  | .startReturned outcome => some outcome.isOk
  | _ => none

@[grind →] theorem MonitorPoint.holdsLock_of_returned {p : MonitorPoint} {ok : Bool}
    (h : p.returned = some ok) : p.holdsLock = true := by
  cases p <;> first | rfl | cases h

@[grind] def MonitorPoint.losing : MonitorPoint → Bool
  | .lossPending | .lossLocked => true
  | _ => false

@[grind] def ReactorPoint.stopping : ReactorPoint → Bool
  | .stopBegun | .stopPending | .stopLocked => true
  | _ => false

/-- Where the threads are says what the state is: no explicit stop, Starting inside a connect until
its last section, Idle while a loss waits for its stop. -/
structure Placed (s : System) : Prop where
  noStop : s.reactor.stopping = false
  starting : s.monitor.connecting = true → s.manager.dhcpState = .starting
  losing : s.monitor.losing = true → s.manager.dhcpState = .idle

/-- The lifecycle agrees with the calls, between calls and inside them. -/
structure Agreeing (s : System) (calls : List MechanismCall) : Prop where
  running : s.manager.dhcpState = .running → s.reactor ≠ .exitFound → aliveSince calls = true
  exitFound : s.reactor = .exitFound → calls.head? = some (.running false) ∧
    (s.manager.dhcpState = .running → aliveSince calls.tail = true)
  closed : s.manager.dhcpState ≠ .running → s.monitor.losing = false → s.monitor.returned = none →
    openStart calls = false
  returned : ∀ ok, s.monitor.returned = some ok → calls.head? = some (.start ok) ∧
    openStart calls.tail = false
  failed : s.manager.dhcpState = .failed → startLost calls = true

theorem Placed.step {e : Event} {s t : System} (hphase : Phased s) (hs : Placed s)
    (hno : e ≠ .beginStop) (he : step e s = some t) : Placed t := by
  obtain ⟨hstarting, hlinked⟩ := hphase
  obtain ⟨hnoStop, hconnecting, hlosing⟩ := hs
  cases e
  case beginStop => exact absurd rfl hno
  case finishStart =>
    obtain ⟨outcome, hpc, rfl⟩ := finishStart_cases he
    cases outcome <;> constructor <;> grind -ring -linarith -lia -ac
  case clientExit =>
    obtain rfl := Option.some.inj he
    exact ⟨hnoStop, hconnecting, hlosing⟩
  all_goals
    simp only [Wifi.step, Option.ite_none_right_eq_some, Option.some.injEq] at he
    obtain ⟨hpc, rfl⟩ := he
    constructor <;> grind -ring -linarith -lia -ac

theorem Agreeing.step {e : Event} {s t : System} {calls : List MechanismCall} (hlock : Locked s)
    (hphase : Phased s) (hplace : Placed s) (hs : Agreeing s calls) (hno : e ≠ .beginStop)
    (he : step e s = some t) : Agreeing t ((mechanismCall s e).toList ++ calls) := by
  obtain ⟨hmonitor, hreactor⟩ := hlock
  obtain ⟨hstarting, hlinked⟩ := hphase
  obtain ⟨hnoStop, hconnecting, hlosing⟩ := hplace
  obtain ⟨hrunning, hexit, hclosed, hreturned, hfailed⟩ := hs
  cases e
  case beginStop => exact absurd rfl hno
  case start outcome =>
    simp only [Wifi.step, Option.ite_none_right_eq_some, Option.some.injEq] at he
    obtain ⟨hpc, rfl⟩ := he
    show Agreeing _ (.start outcome.isOk :: calls)
    have hreturn : (MonitorPoint.startReturned outcome).returned = some outcome.isOk := rfl
    generalize outcome.isOk = ok at hreturn ⊢
    constructor <;> grind -ring -linarith -lia -ac
  case stopAfterLoss =>
    simp only [Wifi.step, Option.ite_none_right_eq_some, Option.some.injEq] at he
    obtain ⟨hpc, rfl⟩ := he
    show Agreeing _ (.stop :: calls)
    constructor <;> grind -ring -linarith -lia -ac
  case stop =>
    simp only [Wifi.step, Option.ite_none_right_eq_some, Option.some.injEq] at he
    obtain ⟨hpc, rfl⟩ := he
    rw [hpc] at hnoStop
    cases hnoStop
  case probe =>
    simp only [Wifi.step, Option.ite_none_right_eq_some, Option.some.injEq] at he
    obtain ⟨hpc, rfl⟩ := he
    show Agreeing _ (.running s.client :: calls)
    cases hclient : s.client <;> constructor <;> grind -ring -linarith -lia -ac
  case finishStart =>
    obtain ⟨outcome, hpc, rfl⟩ := finishStart_cases he
    show Agreeing _ calls
    have hback := hreturned outcome.isOk (by rw [hpc]; rfl)
    cases calls with
    | nil => cases hback.1
    | cons call older =>
      obtain ⟨hhead, htail⟩ := hback
      obtain rfl := Option.some.inj hhead
      have hconnected : s.manager.l2Connected = true := hlinked (by rw [hpc]; rfl)
      have hfree : s.reactor ≠ .exitFound := by
        intro hreport
        have hheld := hreactor (by rw [hreport]; rfl)
        rw [hmonitor (by rw [hpc]; rfl)] at hheld
        cases hheld
      cases outcome with
      | ok u =>
        have hstate : (s.manager.finishStart (.ok u)).dhcpState = .running := by
          unfold WifiManagerState.finishStart
          rw [hconnected]
          rfl
        refine ⟨fun _ _ => rfl, fun h => absurd h hfree, fun h => absurd hstate h, ?_, ?_⟩
        · intro ok hpending
          cases hpending
        · intro h
          cases hstate.symm.trans h
      | error e =>
        refine ⟨?_, fun h => absurd h hfree, fun _ _ _ => htail, ?_, fun _ => rfl⟩
        · intro h
          cases h
        · intro ok hpending
          cases hpending
  case reportExit =>
    simp only [Wifi.step, Option.ite_none_right_eq_some, Option.some.injEq] at he
    obtain ⟨hpc, rfl⟩ := he
    show Agreeing _ calls
    obtain ⟨hhead, hdied⟩ := hexit hpc
    cases calls with
    | nil => cases hhead
    | cons call older =>
      obtain rfl := Option.some.inj hhead
      constructor <;> grind -ring -linarith -lia -ac
  case clientExit =>
    obtain rfl := Option.some.inj he
    exact ⟨hrunning, hexit, hclosed, hreturned, hfailed⟩
  all_goals
    simp only [Wifi.step, Option.ite_none_right_eq_some, Option.some.injEq] at he
    obtain ⟨hpc, rfl⟩ := he
    show Agreeing _ calls
    constructor <;> grind -ring -linarith -lia -ac

/-! ### Every run -/

/-- `dhcp_start` is called, or its outcome is written down. -/
@[grind] def Event.startsClient : Event → Bool
  | .start _ | .finishStart => true
  | _ => false

/-- Where an exit was found and is not reported yet, nothing was started since the probe. -/
def ProbedLast (history : List Event) (s : System) : Prop :=
  s.reactor = .exitFound → ∃ between older, history = between ++ .probe :: older ∧
    ∀ e ∈ between, e.startsClient = false

/-- The probe keeps the lock until its exit is reported. -/
theorem ProbedLast.step {history : List Event} {e : Event} {s t : System} (hlock : Locked s)
    (hs : ProbedLast history s) (he : step e s = some t) : ProbedLast (e :: history) t := by
  obtain ⟨hmonitor, hreactor⟩ := hlock
  intro hfound
  have hkept : s.reactor = .exitFound → e.startsClient = false →
      ∃ between older, e :: history = between ++ .probe :: older ∧
        ∀ e ∈ between, e.startsClient = false := by
    intro hbefore hquiet
    obtain ⟨between, older, rfl, hbetween⟩ := hs hbefore
    exact ⟨e :: between, older, rfl, List.forall_mem_cons.mpr ⟨hquiet, hbetween⟩⟩
  cases e
  case probe => exact ⟨[], history, rfl, nofun⟩
  case finishStart =>
    obtain ⟨outcome, hpc, rfl⟩ := finishStart_cases he
    have hheld := hreactor (by rw [hfound]; rfl)
    rw [hmonitor (by rw [hpc]; rfl)] at hheld
    cases hheld
  case clientExit =>
    obtain rfl := Option.some.inj he
    exact hkept hfound rfl
  all_goals
    simp only [Wifi.step, Option.ite_none_right_eq_some, Option.some.injEq] at he
    obtain ⟨hpc, rfl⟩ := he
    grind -ring -linarith -lia -ac

/-- Everything that is known of a run of the two threads. -/
structure RaceKnown (history : List Event) (r : Traced) : Prop where
  locked : Locked r.system
  phased : Phased r.system
  placed : Placed r.system
  agreeing : Agreeing r.system r.calls
  probed : ProbedLast history r.system

theorem raceKnown_of_reaches {history : List Event} {r : Traced}
    (h : Reaches Fresh raceStep history r) : RaceKnown history r := by
  refine h.invariant ?_ ?_
  · rintro r rfl
    exact ⟨⟨nofun, nofun⟩, ⟨nofun, nofun⟩, ⟨rfl, nofun, nofun⟩,
      ⟨nofun, nofun, fun _ _ _ => rfl, nofun, nofun⟩, nofun⟩
  · intro history e r r' hs he
    obtain ⟨hno, hstep, hcalls⟩ := raceStep_cases he
    refine ⟨hs.locked.step hstep, hs.phased.step hstep, hs.placed.step hs.phased hno hstep, ?_,
      hs.probed.step hs.locked hstep⟩
    rw [hcalls]
    exact hs.agreeing.step hs.locked hs.phased hs.placed hno hstep

/-! ### What the readings of the calls say -/

/-- Every successful start was later stopped or probed dead. -/
def EveryStartEnded (calls : List MechanismCall) : Prop :=
  ∀ newer older, calls = newer ++ .start true :: older →
    MechanismCall.stop ∈ newer ∨ MechanismCall.running false ∈ newer

theorem everyStartEnded_of_not_open {calls : List MechanismCall} (h : openStart calls = false) :
    EveryStartEnded calls := by
  induction calls with
  | nil => exact fun newer _ hcalls => by cases newer <;> cases hcalls
  | cons call calls ih =>
    intro newer older hcalls
    cases newer with
    | nil =>
      obtain ⟨rfl, rfl⟩ := List.cons.inj hcalls
      cases h
    | cons first newer =>
      obtain ⟨rfl, rfl⟩ := List.cons.inj hcalls
      have hrest : openStart (newer ++ .start true :: older) = false →
          MechanismCall.stop ∈ call :: newer ∨ MechanismCall.running false ∈ call :: newer := by
        intro hopen
        rcases ih hopen newer older rfl with hstop | hdied
        · exact .inl (List.mem_cons_of_mem _ hstop)
        · exact .inr (List.mem_cons_of_mem _ hdied)
      cases call with
      | start ok =>
        cases ok with
        | true => cases h
        | false => exact hrest h
      | stop => exact .inl List.mem_cons_self
      | running alive =>
        cases alive with
        | true => exact hrest h
        | false => exact .inr List.mem_cons_self

theorem alive_of_aliveSince {calls : List MechanismCall} (h : aliveSince calls = true) :
    ∃ probes older, calls = probes ++ .start true :: older ∧
      ∀ call ∈ probes, call = .running true := by
  induction calls with
  | nil => cases h
  | cons call calls ih =>
    cases call with
    | start ok =>
      obtain rfl : ok = true := h
      exact ⟨[], calls, rfl, nofun⟩
    | stop => cases h
    | running alive =>
      cases alive with
      | false => cases h
      | true =>
        obtain ⟨probes, older, rfl, hprobes⟩ := ih h
        exact ⟨.running true :: probes, older, rfl, List.forall_mem_cons.mpr ⟨rfl, hprobes⟩⟩

/-- There is a last start. -/
theorem last_of_hasStart {calls : List MechanismCall} (h : hasStart calls = true) :
    ∃ newer ok older, calls = newer ++ .start ok :: older ∧ ∀ ok', .start ok' ∉ newer := by
  induction calls with
  | nil => cases h
  | cons call calls ih =>
    have hrest : hasStart calls = true → (∀ ok', call ≠ .start ok') →
        ∃ newer ok older, call :: calls = newer ++ .start ok :: older ∧
          ∀ ok', .start ok' ∉ newer := by
      intro hstart hcall
      obtain ⟨newer, ok, older, rfl, hnewer⟩ := ih hstart
      refine ⟨call :: newer, ok, older, rfl, fun ok' hmem => ?_⟩
      rcases List.mem_cons.mp hmem with hmem | hmem
      · exact hcall ok' hmem.symm
      · exact hnewer ok' hmem
    cases call with
    | start ok => exact ⟨[], ok, calls, rfl, nofun⟩
    | stop => exact hrest h nofun
    | running alive => exact hrest h nofun

theorem lost_of_startLost {calls : List MechanismCall} (h : startLost calls = true) :
    ∃ newer ok older, calls = newer ++ .start ok :: older ∧ (∀ ok', .start ok' ∉ newer) ∧
      (ok = false ∨ MechanismCall.running false ∈ newer) := by
  induction calls with
  | nil => cases h
  | cons call calls ih =>
    have hrest : startLost calls = true → (∀ ok', call ≠ .start ok') →
        ∃ newer ok older, call :: calls = newer ++ .start ok :: older ∧
          (∀ ok', .start ok' ∉ newer) ∧ (ok = false ∨ MechanismCall.running false ∈ newer) := by
      intro hlost hcall
      obtain ⟨newer, ok, older, rfl, hnewer, hend⟩ := ih hlost
      refine ⟨call :: newer, ok, older, rfl, fun ok' hmem => ?_,
        hend.imp_right (List.mem_cons_of_mem call)⟩
      rcases List.mem_cons.mp hmem with hmem | hmem
      · exact hcall ok' hmem.symm
      · exact hnewer ok' hmem
    cases call with
    | start ok => exact ⟨[], ok, calls, rfl, nofun, .inl (by simpa [startLost] using h)⟩
    | stop => exact hrest h nofun
    | running alive =>
      cases alive with
      | true => exact hrest h nofun
      | false =>
        obtain ⟨newer, ok, older, rfl, hnewer⟩ := last_of_hasStart h
        refine ⟨.running false :: newer, ok, older, rfl, fun ok' hmem => ?_,
          .inr List.mem_cons_self⟩
        rcases List.mem_cons.mp hmem with hmem | hmem
        · cases hmem
        · exact hnewer ok' hmem

/-! ### The lifecycle and the mechanism -/

/-- **The lifecycle agrees with the mechanism** in every run of link events against process checks.
Between calls: Running means that since the last start, which was successful, nothing but probes
happened that found the process alive; Idle that every successful start was later stopped or probed
dead; Failed that the last start failed or a probe after it found the process dead.  No start is
issued before that holds of the starts before it.  And when a check reports an exit, no client was
started since its probe, which found the process dead and is still the last mechanism call. -/
theorem lifecycle_agrees_with_mechanism {history : List Event} {r : Traced}
    (hreach : Reaches Fresh raceStep history r) :
    (r.system.monitor = .idle → r.system.reactor = .idle →
      (r.system.manager.dhcpState = .running → ∃ probes older,
        r.calls = probes ++ .start true :: older ∧ ∀ call ∈ probes, call = .running true) ∧
      (r.system.manager.dhcpState = .idle → EveryStartEnded r.calls) ∧
      (r.system.manager.dhcpState = .failed → ∃ newer ok older,
        r.calls = newer ++ .start ok :: older ∧ (∀ ok', .start ok' ∉ newer) ∧
          (ok = false ∨ MechanismCall.running false ∈ newer))) ∧
    (∀ outcome r', raceStep (.start outcome) r = some r' → EveryStartEnded r.calls) ∧
    (∀ r', raceStep .reportExit r = some r' → r.calls.head? = some (.running false) ∧
      ∃ between older, history = between ++ .probe :: older ∧
        ∀ e ∈ between, e.startsClient = false) := by
  have hknown := raceKnown_of_reaches hreach
  obtain ⟨hrunning, hexit, hclosed, hreturned, hfailed⟩ := hknown.agreeing
  refine ⟨?_, ?_, ?_⟩
  · intro hmonitor hreactor
    refine ⟨fun hstate => ?_, fun hstate => ?_, fun hstate => lost_of_startLost (hfailed hstate)⟩
    · exact alive_of_aliveSince (hrunning hstate (by rw [hreactor]; decide))
    · refine everyStartEnded_of_not_open (hclosed ?_ ?_ ?_)
      · rw [hstate]
        decide
      · rw [hmonitor]
        rfl
      · rw [hmonitor]
        rfl
  · intro outcome r' hstart
    obtain ⟨-, hstep, -⟩ := raceStep_cases hstart
    simp only [Wifi.step, Option.ite_none_right_eq_some] at hstep
    have hstate := hknown.placed.starting (by rw [hstep.1]; rfl)
    refine everyStartEnded_of_not_open (hclosed ?_ ?_ ?_)
    · rw [hstate]
      decide
    · rw [hstep.1]
      rfl
    · rw [hstep.1]
      rfl
  · intro r' hreport
    obtain ⟨-, hstep, -⟩ := raceStep_cases hreport
    simp only [Wifi.step, Option.ite_none_right_eq_some] at hstep
    exact ⟨(hexit hstep.1).1, hknown.probed hstep.1⟩

/-- A client that dies, is found dead and is started again by the next connect. -/
def restartedAfterExit : List Event :=
  [.beginConnected, .reserveStart, .lockForStart, .confirmStart, .start (.ok ()), .finishStart,
    .clientExit, .beginReconcile, .watchProcess, .lockForProbe, .probe, .reportExit,
    .beginConnected, .reserveStart, .lockForStart, .confirmStart, .start (.ok ()), .finishStart]

theorem lifecycle_agrees_with_mechanism_restarted :
    ∃ r, run raceStep restartedAfterExit {} = some r ∧
      ∃ probes older, r.calls = probes ++ .start true :: older ∧
        ∀ call ∈ probes, call = .running true := by
  refine ⟨_, rfl, ?_⟩
  have hreach : Reaches Fresh raceStep restartedAfterExit.reverse _ := Reaches.of_run rfl rfl
  exact ((lifecycle_agrees_with_mechanism hreach).1 rfl rfl).1 rfl

end NetworkService.Wifi
