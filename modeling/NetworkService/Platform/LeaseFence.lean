import NetworkService.Platform.UdhcpcScript

/-!
# Lease facts are fenced by generation

Whatever the order of the commands, a file at a lease path was put there by one run of the script of
that generation and says what that run says: the temporary file belongs to one process while it
lives, and the rename moves it as a whole.  So a late script of another generation can write, but
not where a read of the active generation looks.
-/

namespace NetworkService.Platform

open Disk DhcpLeaseStore

/-! ### Paths do not meet -/

theorem getLast?_append_of_some {l suffix : List Char} {c : Char} (h : suffix.getLast? = some c) :
    (l ++ suffix).getLast? = some c := by
  rw [List.getLast?_append, h, Option.some_or]

theorem pathFor_last (iface generation : String) :
    (pathFor iface generation).getLast? = some 'e' :=
  getLast?_append_of_some (getLast?_append_of_some
    (getLast?_append_of_some (l := '_' :: generation.toList) (by decide)))

theorem generationPathFor_last (iface : String) : (generationPathFor iface).getLast? = some 'n' :=
  getLast?_append_of_some (getLast?_append_of_some (by decide))

theorem toDigits_last (n : ℕ) : ∃ c, c.isDigit = true ∧ (Nat.toDigits 10 n).getLast? = some c := by
  cases hlast : (Nat.toDigits 10 n).getLast? with
  | none => exact absurd (List.getLast?_eq_none_iff.mp hlast) Nat.toDigits_ne_nil
  | some c =>
    exact ⟨c, Nat.isDigit_of_mem_toDigits (by decide) (by decide) (List.mem_of_getLast? hlast), rfl⟩

/-- The name of a temporary file ends with the number of a process. -/
theorem temporary_last (target : Path) (pid : ℕ) :
    ∃ c, c.isDigit = true ∧ (target ++ '.' :: Nat.toDigits 10 pid).getLast? = some c := by
  obtain ⟨c, hdigit, hlast⟩ := toDigits_last pid
  exact ⟨c, hdigit, by rw [List.append_cons, getLast?_append_of_some hlast]⟩

theorem ne_temporary {path : Path} {c : Char} (hpath : path.getLast? = some c)
    (hc : c.isDigit = false) (target : Path) (pid : ℕ) :
    path ≠ target ++ '.' :: Nat.toDigits 10 pid := by
  rintro rfl
  obtain ⟨d, hdigit, hlast⟩ := temporary_last target pid
  rw [hpath] at hlast
  obtain rfl := Option.some.inj hlast
  rw [hc] at hdigit
  cases hdigit

namespace ScriptRun

variable (run : ScriptRun)

/-- A temporary file is neither a lease nor a marker. -/
theorem tmp_ne_of_last {path : Path} {c : Char} (hpath : path.getLast? = some c)
    (hc : c.isDigit = false) : path ≠ run.tmp :=
  ne_temporary hpath hc _ _

theorem lease_ne_tmp (iface generation : String) : pathFor iface generation ≠ run.tmp :=
  run.tmp_ne_of_last (pathFor_last iface generation) (by decide)

theorem marker_ne_tmp (iface : String) : generationPathFor iface ≠ run.tmp :=
  run.tmp_ne_of_last (generationPathFor_last iface) (by decide)

variable {run}

/-- Two processes with one temporary file have one number. -/
theorem pid_of_tmp {run' : ScriptRun} (h : run.tmp = run'.tmp) : run.pid = run'.pid :=
  toDigits_inj (append_separator_inj (not_mem_toDigits (by decide) _)
    (not_mem_toDigits (by decide) _) h).2

end ScriptRun

theorem marker_ne_lease (iface iface' generation : String) :
    generationPathFor iface ≠ pathFor iface' generation := by
  intro h
  have hlast := generationPathFor_last iface
  rw [h, pathFor_last] at hlast
  exact absurd hlast (by decide)

/-! ### One command of a script -/

/-- What a command of a script, or its end, does to the process and to the files. -/
structure ScriptMove (p q : ScriptProcess) (files files' : LeaseFiles) : Prop where
  run : q.run = p.run
  live : q.live = true → p.live = true
  published : p.published = true → q.published = true
  apart : ∀ path, (p.live = true → path ≠ p.run.tmp ∧ path ≠ p.run.lease) →
    files'.now path = files.now path
  lease : ∀ text, files'.now p.run.lease = some text → files.now p.run.lease = some text ∨
    (p.live = true ∧ q.published = true ∧ text = p.run.text)
  staged : q.point = .recheck ∨ q.point = .rename → files'.now q.run.tmp = some q.run.text

/-- Nothing but the point changes. -/
theorem ScriptMove.look {p q : ScriptProcess} {files : LeaseFiles} (hrun : q.run = p.run)
    (hlive : q.live = true → p.live = true) (hpublished : q.published = p.published)
    (hstaged : q.point = .recheck ∨ q.point = .rename → files.now q.run.tmp = some q.run.text) :
    ScriptMove p q files files :=
  ⟨hrun, hlive, fun h => hpublished.trans h, fun _ _ => rfl, fun _ h => Or.inl h, hstaged⟩

/-- A change of its temporary file. -/
theorem ScriptMove.temporary {p q : ScriptProcess} {files files' : LeaseFiles}
    (hapart : Apart p.run.tmp files files') (hrun : q.run = p.run) (hlive : p.live = true)
    (hpublished : q.published = p.published)
    (hstaged : q.point = .recheck ∨ q.point = .rename → files'.now q.run.tmp = some q.run.text) :
    ScriptMove p q files files' := by
  refine ⟨hrun, fun _ => hlive, fun h => hpublished.trans h, fun path hpath => ?_, fun text h => ?_,
    hstaged⟩
  · exact hapart.now path (hpath hlive).1
  · rw [hapart.now p.run.lease (p.run.lease_ne_tmp _ _)] at h
    exact Or.inl h

theorem command_move {p : ScriptProcess} {files : LeaseFiles}
    (hstaged : p.point = .recheck ∨ p.point = .rename → files.now p.run.tmp = some p.run.text) :
    ScriptMove p (p.command files).1 files (p.command files).2 := by
  obtain ⟨run, point, published⟩ := p
  cases point with
  | check =>
    refine ScriptMove.look rfl (fun _ => rfl) rfl fun hpoint => ?_
    simp only [ScriptProcess.command] at hpoint
    split at hpoint <;> simp at hpoint
  | write =>
    exact ScriptMove.temporary (Apart.put _ _ _) rfl rfl rfl fun _ => Files.put_now _
  | recheck =>
    exact ScriptMove.look rfl (fun _ => rfl) rfl fun _ => hstaged (Or.inl rfl)
  | discard =>
    exact ScriptMove.temporary (Apart.remove _ _) rfl rfl rfl fun hpoint => by simp [ScriptProcess.command] at hpoint
  | rename =>
    have hfile := hstaged (Or.inr rfl)
    have hne : run.lease ≠ run.tmp := run.lease_ne_tmp _ _
    have hcommand : (ScriptProcess.mk run .rename published).command files =
        (⟨run, .verify, true⟩, files.rename run.tmp run.lease) := by
      simp only [ScriptProcess.command]
      rw [if_pos (by rw [hfile]; rfl)]
    rw [hcommand]
    refine ⟨rfl, fun _ => rfl, fun _ => rfl, fun path hpath => ?_, fun text h => ?_, nofun⟩
    · exact Files.rename_other _ (hpath rfl).1 (hpath rfl).2
    · rw [Files.rename_target _ hne, hfile] at h
      exact Or.inr ⟨rfl, rfl, (Option.some.inj h).symm⟩
  | verify =>
    refine ScriptMove.look rfl (fun _ => rfl) rfl fun hpoint => ?_
    simp only [ScriptProcess.command] at hpoint
    split at hpoint <;> simp at hpoint
  | remove =>
    refine ⟨rfl, fun _ => rfl, fun h => h, fun path hpath => ?_, fun text h => ?_, nofun⟩
    · exact (Apart.remove run.lease files).now path (hpath rfl).2
    · have hgone : (files.remove run.lease).now run.lease = some text := h
      rw [Files.remove_now] at hgone
      cases hgone
  | exited => exact ScriptMove.look rfl (fun h => h) rfl hstaged

theorem stop_move (p : ScriptProcess) (files : LeaseFiles) (left : Option (List Char)) :
    ScriptMove p (p.stop files left).1 files (p.stop files left).2 := by
  obtain ⟨run, point, published⟩ := p
  cases point with
  | write =>
    cases left with
    | none => exact ScriptMove.look rfl (fun _ => rfl) rfl nofun
    | some text => exact ScriptMove.temporary (Apart.put _ _ _) rfl rfl rfl nofun
  | check | recheck | discard | rename | verify | remove | exited =>
    exact ScriptMove.look rfl nofun rfl nofun

/-! ### The invariant -/

/-- A run of the script of that generation has published this text. -/
def Published (s : LeaseSystem) (run : ScriptRun) : Prop :=
  ∃ p ∈ s.scripts, p.published = true ∧ p.run = run ∧ run.handled = true

/-- The fact comes from a run of the script of the active generation. -/
def FromActive (s : LeaseSystem) (iface : String) (fact : DhcpLeaseFact) : Prop :=
  ∃ run, Published s run ∧ run.iface = iface ∧ s.active iface = .ok (some run.generation.text) ∧
    fact = parseLease iface run.text

/-- What the service has in hand is right. -/
def Answerable (s : LeaseSystem) : ServicePoint → Prop
  | .reading iface active => s.active iface = .ok (some active)
  | .returned iface (.ok (some fact)) => FromActive s iface fact
  | _ => True

/-- Running scripts are different processes, what one has written is still there, and a lease file
is as some run of its script published it. -/
structure Fenced (s : LeaseSystem) : Prop where
  pids : ∀ (i j : ℕ) (p q : ScriptProcess), s.scripts[i]? = some p → s.scripts[j]? = some q → p.live = true → q.live = true →
    p.run.pid = q.run.pid → i = j
  handled : ∀ p ∈ s.scripts, p.live = true → p.run.handled = true
  staged : ∀ p ∈ s.scripts, p.point = .recheck ∨ p.point = .rename →
    s.files.now p.run.tmp = some p.run.text
  leases : ∀ iface generation text, s.files.now (pathFor iface generation) = some text →
    ∃ run, Published s run ∧ run.lease = pathFor iface generation ∧ text = run.text
  markers : ∀ iface text, s.files.now (generationPathFor iface) = some text →
    ∃ generation : Generation, text = generation.text.toList ++ ['\n']
  service : Answerable s s.service

theorem boot_fenced : Fenced .boot where
  pids _ _ _ _ h := by cases h
  handled _ h := by cases h
  staged _ h := by cases h
  leases _ _ _ h := by cases h
  markers _ _ h := by cases h
  service := trivial

/-- Answers stay right as long as the markers stay and no script is forgotten. -/
theorem Answerable.keep {s t : LeaseSystem} {point : ServicePoint} (h : Answerable s point)
    (hmarkers : ∀ iface, t.active iface = s.active iface)
    (hpublished : ∀ run, Published s run → Published t run) : Answerable t point := by
  have hfrom : ∀ iface fact, FromActive s iface fact → FromActive t iface fact := by
    rintro iface fact ⟨run, hrun, hiface, hactive, hfact⟩
    exact ⟨run, hpublished run hrun, hiface, (hmarkers iface).trans hactive, hfact⟩
  cases point with
  | reading iface active => exact (hmarkers iface).trans h
  | returned iface reply =>
    match reply, h with
    | .ok (some fact), h => exact hfrom iface fact h
    | .ok none, _ => trivial
    | .error _, _ => trivial
  | idle | clearingLease | clearingMarker => trivial

theorem live_of_staged {p : ScriptProcess} (h : p.point = .recheck ∨ p.point = .rename) :
    p.live = true := by
  unfold ScriptProcess.live
  rcases h with h | h <;> simp [h]

/-! ### Steps of the scripts -/

section Script

variable {s : LeaseSystem} {i : ℕ} {p q : ScriptProcess} {files : LeaseFiles}

/-- The scripts after a step of script `i`. -/
theorem getElem?_withScript (hi : s.scripts[i]? = some p) (j : ℕ) :
    (s.withScript i (q, files)).scripts[j]? = if i = j then some q else s.scripts[j]? := by
  show (s.scripts.set i q)[j]? = _
  rw [List.getElem?_set]
  have hlt : i < s.scripts.length := (List.getElem?_eq_some_iff.mp hi).1
  simp only [hlt, if_true]

/-- Only the process that moved is new, and it comes from where it was. -/
theorem mem_withScript (hi : s.scripts[i]? = some p) {r : ScriptProcess}
    (hr : r ∈ (s.withScript i (q, files)).scripts) :
    r = q ∨ ∃ j, j ≠ i ∧ s.scripts[j]? = some r := by
  obtain ⟨j, hj⟩ := List.mem_iff_getElem?.mp hr
  rw [getElem?_withScript hi] at hj
  split at hj
  · exact Or.inl (Option.some.inj hj).symm
  · next hne => exact Or.inr ⟨j, Ne.symm hne, hj⟩

theorem published_withScript (hi : s.scripts[i]? = some p) (hmove : ScriptMove p q s.files files)
    {run : ScriptRun} (h : Published s run) : Published (s.withScript i (q, files)) run := by
  obtain ⟨r, hr, hpublished, hrun, hhandled⟩ := h
  obtain ⟨j, hj⟩ := List.mem_iff_getElem?.mp hr
  by_cases hij : i = j
  · subst hij
    obtain rfl : p = r := Option.some.inj (hi.symm.trans hj)
    refine ⟨q, List.mem_iff_getElem?.mpr ⟨i, ?_⟩, hmove.published hpublished, hmove.run.trans hrun,
      hhandled⟩
    rw [getElem?_withScript hi, if_pos rfl]
  · refine ⟨r, List.mem_iff_getElem?.mpr ⟨j, ?_⟩, hpublished, hrun, hhandled⟩
    rw [getElem?_withScript hi, if_neg hij, hj]

/-- **A command of a script keeps the fence.** -/
theorem Fenced.script (h : Fenced s) (hi : s.scripts[i]? = some p)
    (hmove : ScriptMove p q s.files files) : Fenced (s.withScript i (q, files)) := by
  have hmem : p ∈ s.scripts := List.mem_iff_getElem?.mpr ⟨i, hi⟩
  have hmarkers : ∀ iface, files.now (generationPathFor iface) = s.files.now (generationPathFor iface) :=
    fun iface => hmove.apart _ fun _ => ⟨p.run.marker_ne_tmp iface, marker_ne_lease iface _ _⟩
  have hpublished := fun run (hrun : Published s run) => published_withScript hi hmove hrun
  -- what is live now was live before, at the same place and with the same number
  have hbefore : ∀ (j : ℕ) (r : ScriptProcess), (s.withScript i (q, files)).scripts[j]? = some r → r.live = true →
      ∃ r', s.scripts[j]? = some r' ∧ r'.live = true ∧ r'.run = r.run := by
    intro j r hr hlive
    rw [getElem?_withScript hi] at hr
    split at hr
    · next hij =>
      obtain rfl := Option.some.inj hr
      exact ⟨p, hij ▸ hi, hmove.live hlive, hmove.run.symm⟩
    · exact ⟨r, hr, hlive, rfl⟩
  constructor
  · intro j k r r' hr hr' hlive hlive' hpid
    obtain ⟨o, ho, holive, horun⟩ := hbefore j r hr hlive
    obtain ⟨o', ho', holive', horun'⟩ := hbefore k r' hr' hlive'
    exact h.pids j k o o' ho ho' holive holive' (by rw [horun, horun', hpid])
  · intro r hr hlive
    obtain ⟨j, hj⟩ := List.mem_iff_getElem?.mp hr
    obtain ⟨o, ho, holive, horun⟩ := hbefore j r hj hlive
    rw [← horun]
    exact h.handled o (List.mem_iff_getElem?.mpr ⟨j, ho⟩) holive
  · intro r hr hpoint
    rcases mem_withScript hi hr with rfl | ⟨j, hji, hj⟩
    · exact hmove.staged hpoint
    · -- another live script has another temporary file
      have hrmem : r ∈ s.scripts := List.mem_iff_getElem?.mpr ⟨j, hj⟩
      refine (hmove.apart _ fun hplive => ⟨fun htmp => hji ?_, ?_⟩).trans (h.staged r hrmem hpoint)
      · exact h.pids j i r p hj hi (live_of_staged hpoint) hplive (ScriptRun.pid_of_tmp htmp)
      · exact Ne.symm (r.run.lease_ne_tmp _ _)
  · intro iface generation text htext
    have hold : s.files.now (pathFor iface generation) = some text →
        ∃ run, Published (s.withScript i (q, files)) run ∧ run.lease = pathFor iface generation ∧
          text = run.text := by
      intro hheld
      obtain ⟨run, hrun, hlease, hsame⟩ := h.leases iface generation text hheld
      exact ⟨run, hpublished run hrun, hlease, hsame⟩
    by_cases hpath : pathFor iface generation = p.run.lease
    · rw [show (s.withScript i (q, files)).files = files from rfl, hpath] at htext
      rcases hmove.lease text htext with hheld | ⟨hlive, hqpublished, hsame⟩
      · exact hold (by rw [hpath]; exact hheld)
      · refine ⟨p.run, ⟨q, ?_, hqpublished, hmove.run, h.handled p hmem hlive⟩, hpath.symm, hsame⟩
        refine List.mem_iff_getElem?.mpr ⟨i, ?_⟩
        rw [getElem?_withScript hi, if_pos rfl]
    · have hkept := hmove.apart (pathFor iface generation) fun _ => ⟨p.run.lease_ne_tmp _ _, hpath⟩
      exact hold (hkept.symm.trans htext)
  · intro iface text htext
    exact h.markers iface text ((hmarkers iface).symm.trans htext)
  · exact h.service.keep (fun iface => congrArg (activeGeneration iface) (hmarkers iface)) hpublished

theorem Fenced.spawn (h : Fenced s) {run : ScriptRun}
    (hpid : ∀ p ∈ s.scripts, p.live = true → p.run.pid ≠ run.pid) :
    Fenced { s with scripts := s.scripts ++ [.start run] } := by
  have hget : ∀ (j : ℕ) (r : ScriptProcess), (s.scripts ++ [ScriptProcess.start run])[j]? = some r →
      s.scripts[j]? = some r ∨ (j = s.scripts.length ∧ r = .start run) := by
    intro j r hj
    rcases Nat.lt_trichotomy j s.scripts.length with hlt | rfl | hgt
    · rw [List.getElem?_append_left hlt] at hj
      exact Or.inl hj
    · rw [List.getElem?_append_right (Nat.le_refl _), Nat.sub_self] at hj
      exact Or.inr ⟨rfl, (Option.some.inj hj).symm⟩
    · rw [List.getElem?_append_right (Nat.le_of_lt hgt),
        List.getElem?_eq_none (by simp; omega)] at hj
      cases hj
  have hpublished : ∀ r, Published s r →
      Published { s with scripts := s.scripts ++ [.start run] } r := by
    rintro r ⟨p, hp, hrest⟩
    exact ⟨p, List.mem_append_left _ hp, hrest⟩
  constructor
  · intro j k r r' hr hr' hlive hlive' hsame
    rcases hget j r hr with hj | ⟨rfl, rfl⟩ <;> rcases hget k r' hr' with hk | ⟨rfl, rfl⟩
    · exact h.pids j k r r' hj hk hlive hlive' hsame
    · exact absurd hsame (hpid r (List.mem_iff_getElem?.mpr ⟨j, hj⟩) hlive)
    · exact absurd hsame.symm (hpid r' (List.mem_iff_getElem?.mpr ⟨k, hk⟩) hlive')
    · rfl
  · intro p hp hlive
    rcases List.mem_append.mp hp with hp | hp
    · exact h.handled p hp hlive
    · obtain rfl := List.mem_singleton.mp hp
      unfold ScriptProcess.live ScriptProcess.start at hlive
      cases hhandled : run.handled with
      | true => exact hhandled
      | false => simp [hhandled] at hlive
  · intro p hp hpoint
    rcases List.mem_append.mp hp with hp | hp
    · exact h.staged p hp hpoint
    · obtain rfl := List.mem_singleton.mp hp
      unfold ScriptProcess.start at hpoint
      split at hpoint <;> simp at hpoint
  · intro iface generation text htext
    obtain ⟨r, hr, hrest⟩ := h.leases iface generation text htext
    exact ⟨r, hpublished r hr, hrest⟩
  · exact h.markers
  · exact h.service.keep (fun _ => rfl) hpublished

end Script

/-! ### Steps of the service -/

section Service

variable {s : LeaseSystem}

theorem newline_not_mem_generation (generation : Generation) : '\n' ∉ generation.text.toList := by
  have hdigits : ∀ n, '\n' ∉ Nat.toDigits 10 n := not_mem_toDigits (by decide)
  rw [generation_toList]
  simp [hdigits]

/-- The marker of a generation is read back. -/
theorem activeGeneration_marker {iface active : String} {generation : Generation}
    (h : activeGeneration iface (some (generation.text.toList ++ ['\n'])) = .ok (some active)) :
    active = generation.text := by
  have hall : ∀ c ∈ generation.text.toList, decide (c ≠ '\n') = true := by
    rintro c hc
    refine decide_eq_true fun heq => newline_not_mem_generation generation ?_
    rw [← heq]
    exact hc
  have hline : (generation.text.toList ++ ['\n']).takeWhile (· ≠ '\n') = generation.text.toList := by
    rw [List.takeWhile_append_of_pos hall, List.takeWhile_cons_of_neg (by decide), List.append_nil]
  unfold activeGeneration at h
  dsimp only at h
  rw [hline, String.ofList_toList] at h
  split at h
  · cases h
  · split at h
    · cases h
    · exact (Option.some.inj (Except.ok.inj h)).symm

/-- The service goes on to something that it may do here. -/
theorem Fenced.serve (h : Fenced s) {point : ServicePoint} (hpoint : Answerable s point) :
    Fenced { s with service := point } :=
  ⟨h.pids, h.handled, h.staged, h.leases, h.markers, hpoint.keep (fun _ => rfl) fun _ hrun => hrun⟩

/-- The service changes markers, or takes leases away. -/
theorem Fenced.rewrite (h : Fenced s) {files : LeaseFiles} {point : ServicePoint}
    (htmp : ∀ run : ScriptRun, files.now run.tmp = s.files.now run.tmp)
    (hleases : ∀ iface generation text, files.now (pathFor iface generation) = some text →
      s.files.now (pathFor iface generation) = some text)
    (hmarkers : ∀ iface text, files.now (generationPathFor iface) = some text →
      ∃ generation : Generation, text = generation.text.toList ++ ['\n'])
    (hpoint : ∀ t, Answerable t point) : Fenced { s with files := files, service := point } := by
  refine ⟨h.pids, h.handled, fun p hp hstaged => ?_, fun iface generation text htext => ?_, hmarkers,
    hpoint _⟩
  · exact (htmp p.run).trans (h.staged p hp hstaged)
  · exact h.leases iface generation text (hleases iface generation text htext)

/-- The temporary file of `activate_generation`. -/
theorem activation_last (path : Path) (pid : ℕ) :
    (path ++ '.' :: (Nat.toDigits 10 pid ++ ".tmp".toList)).getLast? = some 'p' :=
  getLast?_append_of_some (getLast?_append_of_some (l := '.' :: Nat.toDigits 10 pid) (by decide))

theorem Fenced.activate (h : Fenced s) {iface : String} {generation : Generation} {pid : ℕ}
    {files : LeaseFiles} (hfiles : activateGeneration s.files iface generation.text pid = .ok files) :
    Fenced { s with files := files, service := .idle } := by
  unfold activateGeneration at hfiles
  split at hfiles
  · cases hfiles
  obtain rfl := Except.ok.inj hfiles
  generalize htmpPath : generationPathFor iface ++ '.' :: (Nat.toDigits 10 pid ++ ".tmp".toList) = tmp
  have hlast : tmp.getLast? = some 'p' := by
    rw [← htmpPath]
    exact activation_last _ _
  have hother : ∀ path : Path, path ≠ tmp → path ≠ generationPathFor iface →
      ((s.files.put tmp (generation.text.toList ++ ['\n'])).rename tmp
        (generationPathFor iface)).now path = s.files.now path := by
    intro path htmp hmarker
    rw [Files.rename_other _ htmp hmarker]
    exact (Apart.put tmp s.files _).now path htmp
  have hne : ∀ {path : Path} {c : Char}, path.getLast? = some c → c ≠ 'p' → path ≠ tmp := by
    rintro path c hpath hc rfl
    exact hc (Option.some.inj (hpath.symm.trans hlast))
  refine h.rewrite (fun run => ?_) (fun iface' generation' text htext => ?_)
    (fun iface' text htext => ?_) fun _ => trivial
  · obtain ⟨c, hdigit, hpath⟩ := temporary_last run.lease run.pid
    refine hother _ (hne hpath ?_) (Ne.symm (run.marker_ne_tmp iface))
    rintro rfl
    exact absurd hdigit (by decide)
  · rw [hother _ (hne (pathFor_last _ _) (by decide)) (Ne.symm (marker_ne_lease _ _ _))] at htext
    exact htext
  · have hmarkerTmp := hne (generationPathFor_last iface') (by decide)
    by_cases hiface : iface' = iface
    · subst hiface
      rw [Files.rename_target _ hmarkerTmp, Files.put_now] at htext
      exact ⟨generation, (Option.some.inj htext).symm⟩
    · rw [hother _ hmarkerTmp fun hpath => hiface (generationPathFor_inj hpath)] at htext
      exact h.markers iface' text htext

theorem Fenced.remove (h : Fenced s) {path : Path} {point : ServicePoint}
    (hpath : ∀ run : ScriptRun, run.tmp ≠ path) (hpoint : ∀ t, Answerable t point) :
    Fenced { s with files := s.files.remove path, service := point } := by
  have hheld : ∀ p text, (s.files.remove path).now p = some text → s.files.now p = some text := by
    intro p text htext
    by_cases hp : p = path
    · rw [hp, Files.remove_now] at htext
      cases htext
    · rw [(Apart.remove path s.files).now p hp] at htext
      exact htext
  refine h.rewrite (fun run => (Apart.remove path s.files).now _ (hpath run))
    (fun _ _ text htext => hheld _ text htext) (fun iface text htext => ?_) hpoint
  exact h.markers iface text (hheld _ text htext)

/-- **A read of the active generation finds a run of its script.** -/
theorem Fenced.answer (h : Fenced s) {iface active : String} {fact : DhcpLeaseFact}
    (hactive : s.active iface = .ok (some active))
    (hread : readLease iface active (s.files.now (pathFor iface active)) = .ok (some fact)) :
    FromActive s iface fact := by
  obtain ⟨text, hfile, hfact⟩ := readLease_eq_some hread
  obtain ⟨run, hrun, hlease, rfl⟩ := h.leases iface active text hfile
  cases hmarker : s.files.now (generationPathFor iface) with
  | none =>
    unfold LeaseSystem.active activeGeneration at hactive
    rw [hmarker] at hactive
    split at hactive <;> cases hactive
  | some marker =>
    obtain ⟨generation, rfl⟩ := h.markers iface marker hmarker
    have hnamed := hactive
    unfold LeaseSystem.active at hnamed
    rw [hmarker] at hnamed
    obtain rfl := activeGeneration_marker hnamed
    obtain ⟨hiface, hgeneration⟩ := pathFor_inj hlease
    refine ⟨run, hrun, hiface, ?_, hfact⟩
    rw [hgeneration]
    exact hactive

end Service

/-! ### Every order of steps -/

theorem step_fenced {s t : LeaseSystem} (h : Fenced s) (e : LeaseStep)
    (hstep : LeaseSystem.step e s = some t) : Fenced t := by
  cases e with
  | spawn run =>
    simp only [LeaseSystem.step] at hstep
    split at hstep
    · cases hstep
    · next hpid =>
      obtain rfl := Option.some.inj hstep
      refine h.spawn fun p hp hlive hsame => hpid ?_
      exact List.any_eq_true.mpr ⟨p, hp, by rw [hlive, hsame]; simp⟩
  | command i =>
    obtain ⟨p, hp, rfl⟩ := Option.map_eq_some_iff.mp hstep
    exact h.script hp (command_move (h.staged p (List.mem_iff_getElem?.mpr ⟨i, hp⟩)))
  | stop i left =>
    obtain ⟨p, hp, rfl⟩ := Option.map_eq_some_iff.mp hstep
    exact h.script hp (stop_move p s.files left)
  | activate iface generation pid =>
    simp only [LeaseSystem.step] at hstep
    split at hstep
    · split at hstep
      · cases hstep
      · next hfiles =>
        obtain rfl := Option.some.inj hstep
        exact h.activate hfiles
    · cases hstep
  | read iface =>
    simp only [LeaseSystem.step] at hstep
    split at hstep
    · split at hstep
      · obtain rfl := Option.some.inj hstep
        exact h.serve trivial
      · obtain rfl := Option.some.inj hstep
        exact h.serve trivial
      · next hactive =>
        obtain rfl := Option.some.inj hstep
        exact h.serve hactive
    · cases hstep
  | readLease =>
    simp only [LeaseSystem.step] at hstep
    split at hstep
    · next iface active hreading =>
      obtain rfl := Option.some.inj hstep
      have hactive : s.active iface = .ok (some active) := by
        have hservice := h.service
        rw [hreading] at hservice
        exact hservice
      refine h.serve ?_
      cases hread : readLease iface active (s.files.now (pathFor iface active)) with
      | error e => trivial
      | ok found =>
        cases found with
        | none => trivial
        | some fact => exact h.answer hactive hread
    · cases hstep
  | clear iface =>
    simp only [LeaseSystem.step] at hstep
    split at hstep
    · split at hstep
      · obtain rfl := Option.some.inj hstep
        exact h.serve trivial
      · obtain rfl := Option.some.inj hstep
        exact h.serve trivial
    · cases hstep
  | unlinkLease =>
    simp only [LeaseSystem.step] at hstep
    split at hstep
    · obtain rfl := Option.some.inj hstep
      exact h.remove (fun run => Ne.symm (run.lease_ne_tmp _ _)) fun _ => trivial
    · cases hstep
  | unlinkMarker =>
    simp only [LeaseSystem.step] at hstep
    split at hstep
    · obtain rfl := Option.some.inj hstep
      exact h.remove (fun run => Ne.symm (run.marker_ne_tmp _)) fun _ => trivial
    · cases hstep

theorem reaches_fenced {history : List LeaseStep} {s : LeaseSystem}
    (h : Execution.Reaches (· = LeaseSystem.boot) LeaseSystem.step history s) : Fenced s := by
  refine h.invariant (I := fun _ s => Fenced s) ?_ fun _ e s t hs hstep => step_fenced hs e hstep
  rintro _ rfl
  exact boot_fenced

/-- `udhcpc` prints addresses: none of its values has a second line. -/
def ScriptRun.OneLine (run : ScriptRun) : Prop :=
  '\n' ∉ run.ip.toList ∧ '\n' ∉ run.subnet.toList ∧ '\n' ∉ run.router.toList ∧
    '\n' ∉ run.dns.toList

/-- What a run reports. -/
def ScriptRun.fact (run : ScriptRun) : DhcpLeaseFact where
  event := parseEvent run.event
  iface := run.iface
  generation := run.generation.text
  ip4 := run.ip
  netmask4 := run.subnet
  gateway4 := firstToken run.router
  dns4 := firstToken run.dns

/-- Values of one line arrive as they are. -/
theorem parseLease_text {run : ScriptRun} (hhandled : run.handled = true) (h : run.OneLine) :
    parseLease run.iface run.text = run.fact := by
  have hevent : '\n' ∉ run.event.toList := by
    simp only [ScriptRun.handled, decide_eq_true_eq] at hhandled
    rcases hhandled with hevent | hevent | hevent <;> rw [hevent] <;> decide
  exact parseLease_entries run.iface (newline_not_mem_generation _) hevent h.1 h.2.1 h.2.2.1 h.2.2.2

/-- **Lease facts are fenced by generation.**  However the commands of all scripts and the file
operations of the service are ordered, a fact that a read returns was published by a run of the
script of the generation active for that interface, and it says what that run printed: nothing of
another run is mixed in. -/
theorem lease_facts_fenced {history : List LeaseStep} {s : LeaseSystem}
    (h : Execution.Reaches (· = LeaseSystem.boot) LeaseSystem.step history s) {iface : String}
    {fact : DhcpLeaseFact} (hread : s.service = .returned iface (.ok (some fact))) :
    ∃ run, Published s run ∧ run.iface = iface ∧
      s.active iface = .ok (some run.generation.text) ∧ fact = parseLease iface run.text ∧
      (run.OneLine → fact = run.fact) := by
  have hservice := (reaches_fenced h).service
  rw [hread] at hservice
  obtain ⟨run, hrun, rfl, hactive, hfact⟩ := hservice
  refine ⟨run, hrun, rfl, hactive, hfact, fun hline => ?_⟩
  obtain ⟨_, _, _, _, hhandled⟩ := hrun
  rw [hfact, parseLease_text hhandled hline]

/-! ### A first lease -/

def boundRun : ScriptRun where
  iface := "wlan0"
  generation := ⟨41, 7, 0⟩
  pid := 99
  event := "bound"
  ip := "192.168.4.20"
  subnet := "255.255.255.0"
  router := "192.168.4.1 192.168.4.2"
  dns := "192.168.4.1"

/-- A client is started, its script reports a lease, and the service reads it. -/
def boundSteps : List LeaseStep :=
  [.activate "wlan0" ⟨41, 7, 0⟩ 41, .spawn boundRun, .command 0, .command 0, .command 0, .command 0,
    .command 0, .read "wlan0", .readLease]

def boundLease : LeaseSystem :=
  (Execution.run LeaseSystem.step boundSteps .boot).get (by decide +kernel)

theorem boundLease_reached :
    Execution.Reaches (· = LeaseSystem.boot) LeaseSystem.step boundSteps.reverse boundLease :=
  .of_run rfl (Option.some_get _).symm

theorem boundLease_returned :
    boundLease.service = .returned "wlan0" (.ok (some boundRun.fact)) := by decide +kernel

theorem lease_facts_fenced_bound :
    ∃ run, Published boundLease run ∧ run.iface = "wlan0" ∧
      boundLease.active "wlan0" = .ok (some run.generation.text) ∧
      boundRun.fact = parseLease "wlan0" run.text ∧ (run.OneLine → boundRun.fact = run.fact) :=
  lease_facts_fenced boundLease_reached boundLease_returned

end NetworkService.Platform
