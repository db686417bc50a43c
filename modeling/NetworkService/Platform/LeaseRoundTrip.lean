import Mathlib.Logic.Function.Iterate
import NetworkService.Platform.LeaseFence

/-!
# The lease file round-trips

`write_fact` prints six lines from a shell, `read` takes them apart again, and `fingerprint` puts
what is left of them into one text that is compared with the next.  Between the script and the store
there is only the convention `key=value`, so what the one prints is followed here until it is a
fact again, for any generation that may be active.
-/

namespace NetworkService.Platform

open Disk DhcpLeaseStore

/-! ### The first word of a value -/

/-- The first of the pieces between white space that is not empty. -/
def firstWord (value : String) : String := String.ofList ((words value.toList).headD [])

theorem splitOnP_head {α : Type} (p : α → Bool) (l : List α) :
    ∃ rest, l.splitOnP p = l.takeWhile (!p ·) :: rest := by
  induction l with
  | nil => exact ⟨[], rfl⟩
  | cons a l ih =>
    obtain ⟨rest, hrest⟩ := ih
    rw [List.splitOnP_cons_eq_if_modifyHead, hrest]
    cases hp : p a with
    | true => exact ⟨l.takeWhile (!p ·) :: rest, by simp [hp]⟩
    | false => exact ⟨rest, by simp [hp]⟩

theorem headD_pieces {α : Type} [DecidableEq α] (p : α → Bool) (l : List α) :
    ((l.splitOnP p).filter (· ≠ [])).headD [] = (l.dropWhile p).takeWhile (!p ·) := by
  induction l with
  | nil => rfl
  | cons a l ih =>
    cases hp : p a with
    | true =>
      rw [List.splitOnP_cons_eq_if_modifyHead, if_pos hp, List.dropWhile_cons_of_pos hp, ← ih]
      rfl
    | false =>
      obtain ⟨rest, hrest⟩ := splitOnP_head p (a :: l)
      have hword : (a :: l).takeWhile (!p ·) = a :: l.takeWhile (!p ·) := by simp [hp]
      rw [hrest, hword, List.dropWhile_cons_of_neg (by simp [hp]), hword]
      rfl

/-- `input >> out` takes the first word. -/
theorem firstToken_eq (value : String) : firstToken value = firstWord value := by
  rw [firstToken, firstWord, words, headD_pieces]

/-! ### One run of the script -/

/-- The generated script in one process: its argument, and the values in its environment, empty
where `udhcpc` has put none. -/
structure FactScript where
  iface : String
  generation : String
  pid : ℕ
  event : String
  ip : String
  subnet : String
  router : String
  dns : String

namespace FactScript

def lease (script : FactScript) : Path := pathFor script.iface script.generation

def tmp (script : FactScript) : Path := script.lease ++ '.' :: Nat.toDigits 10 script.pid

/-- What the six `printf` write. -/
def text (script : FactScript) : List Char :=
  [("generation", script.generation), ("event", script.event), ("ip", script.ip),
    ("subnet", script.subnet), ("router", script.router), ("dns", script.dns)].flatMap factLine

def isCurrent (script : FactScript) (files : LeaseFiles) : Bool :=
  match files.now (generationPathFor script.iface) with
  | none => false
  | some marker =>
    '\n' ∈ marker ∧ String.ofList (marker.takeWhile (· ≠ '\n')) = script.generation

/-- `write_fact` with nobody else at the files.  It completes if it does not exit on the way. -/
def writeFact (script : FactScript) (files : LeaseFiles) : Bool × LeaseFiles :=
  if !script.isCurrent files then (false, files)
  else
    let printed := files.put script.tmp script.text
    if !script.isCurrent printed then (false, printed.remove script.tmp)
    else
      let published := printed.rename script.tmp script.lease
      if script.isCurrent published then (true, published)
      else (true, published.remove script.lease)

/-- None of the values has a second line. -/
def OneLine (script : FactScript) : Prop :=
  '\n' ∉ script.ip.toList ∧ '\n' ∉ script.subnet.toList ∧ '\n' ∉ script.router.toList ∧
    '\n' ∉ script.dns.toList

theorem isCurrent_congr (script : FactScript) {files files' : LeaseFiles}
    (h : files'.now (generationPathFor script.iface) =
      files.now (generationPathFor script.iface)) :
    script.isCurrent files' = script.isCurrent files := by
  unfold isCurrent
  rw [h]

section Run

variable {script : FactScript} {files : LeaseFiles}

theorem lease_ne_tmp : script.lease ≠ script.tmp :=
  ne_temporary (pathFor_last _ _) (by decide) _ _

theorem marker_ne_tmp : generationPathFor script.iface ≠ script.tmp :=
  ne_temporary (generationPathFor_last _) (by decide) _ _

/-- The script writes to two paths, and the marker is at neither. -/
theorem put_marker :
    (files.put script.tmp script.text).now (generationPathFor script.iface) =
      files.now (generationPathFor script.iface) :=
  (Apart.put script.tmp files script.text).now _ marker_ne_tmp

theorem rename_marker :
    ((files.put script.tmp script.text).rename script.tmp script.lease).now
        (generationPathFor script.iface) = files.now (generationPathFor script.iface) := by
  have hlease : generationPathFor script.iface ≠ script.lease := marker_ne_lease _ _ _
  rw [Files.rename_other _ marker_ne_tmp hlease, put_marker]

theorem writeFact_current (h : script.isCurrent files = true) :
    script.writeFact files =
      (true, (files.put script.tmp script.text).rename script.tmp script.lease) := by
  have hprinted : script.isCurrent (files.put script.tmp script.text) = true :=
    (script.isCurrent_congr put_marker).trans h
  have hpublished : script.isCurrent
      ((files.put script.tmp script.text).rename script.tmp script.lease) = true :=
    (script.isCurrent_congr rename_marker).trans h
  simp [writeFact, h, hprinted, hpublished]

/-- It completes exactly when it finds its generation. -/
theorem writeFact_completes_iff :
    (script.writeFact files).1 = true ↔ script.isCurrent files = true := by
  constructor
  · intro hcompletes
    cases hcurrent : script.isCurrent files with
    | true => rfl
    | false => simp [writeFact, hcurrent] at hcompletes
  · intro hcurrent
    rw [writeFact_current hcurrent]

/-- After `activate_generation` it does. -/
theorem writeFact_activated {files' : LeaseFiles} {pid : ℕ}
    (h : activateGeneration files script.iface script.generation pid = .ok files') :
    (script.writeFact files').1 = true := by
  unfold activateGeneration at h
  split at h
  · cases h
  · next hsafe =>
    obtain rfl := Except.ok.inj h
    have hmarker : ((files.put (generationPathFor script.iface ++
        '.' :: (Nat.toDigits 10 pid ++ ".tmp".toList)) (script.generation.toList ++ ['\n'])).rename
        (generationPathFor script.iface ++ '.' :: (Nat.toDigits 10 pid ++ ".tmp".toList))
        (generationPathFor script.iface)).now (generationPathFor script.iface) =
          some (script.generation.toList ++ ['\n']) := by
      rw [Files.rename_target, Files.put_now]
      intro hsame
      have hlength := congrArg List.length hsame
      simp at hlength
    have hgeneration : ∀ c ∈ script.generation.toList, decide (c ≠ '\n') = true := by
      intro c hc
      have hbytes : isSafeGeneration script.generation = true := by
        cases hg : isSafeGeneration script.generation with
        | true => rfl
        | false => simp [hg] at hsafe
      simp only [isSafeGeneration, decide_eq_true_eq] at hbytes
      refine decide_eq_true fun heq => ?_
      have hbyte := List.all_eq_true.mp hbytes.2.2 c hc
      rw [heq] at hbyte
      exact absurd hbyte (by decide)
    rw [writeFact_completes_iff, isCurrent, hmarker]
    simp only [List.mem_append, List.mem_singleton, or_true, true_and, decide_eq_true_eq]
    rw [List.takeWhile_append_of_pos hgeneration, List.takeWhile_cons_of_neg (by decide),
      List.append_nil, String.ofList_toList]

end Run

end FactScript

/-- The script of a started client is one of these. -/
def ScriptRun.script (run : ScriptRun) : FactScript :=
  ⟨run.iface, run.generation.text, run.pid, run.event, run.ip, run.subnet, run.router, run.dns⟩

/-- Commands that nothing interrupts are `write_fact`. -/
theorem commands_writeFact {run : ScriptRun} (hhandled : run.handled = true) (files : LeaseFiles) :
    (fun s : ScriptProcess × LeaseFiles => s.1.command s.2)^[6] (.start run, files) =
      (⟨run, .exited, (run.script.writeFact files).1⟩, (run.script.writeFact files).2) := by
  have hsame : ∀ files, run.isCurrent files = run.script.isCurrent files := fun _ => rfl
  have hstart : ScriptProcess.start run = ⟨run, .check, false⟩ := by
    rw [ScriptProcess.start, if_pos hhandled]
  have hstaged : ((files.put run.tmp run.text).now run.tmp).isSome = true := by
    rw [Files.put_now]
    rfl
  cases hcurrent : run.script.isCurrent files with
  | false =>
    simp [Function.iterate_succ, hstart, ScriptProcess.command, hsame, hcurrent,
      FactScript.writeFact]
  | true =>
    have hprinted : run.script.isCurrent (files.put run.tmp run.text) = true :=
      (run.script.isCurrent_congr FactScript.put_marker).trans hcurrent
    have hpublished : run.script.isCurrent
        ((files.put run.tmp run.text).rename run.tmp run.lease) = true :=
      (run.script.isCurrent_congr FactScript.rename_marker).trans hcurrent
    rw [FactScript.writeFact_current hcurrent]
    simp only [Function.iterate_succ, Function.iterate_zero, Function.comp_apply, id_eq, hstart,
      ScriptProcess.command, hsame, hcurrent, hprinted, hpublished, hstaged, if_true]
    rfl

/-! ### Reading it back -/

/-- The argument with which `udhcpc` calls the script. -/
def eventText : DhcpLeaseEvent → String
  | .none => ""
  | .bound => "bound"
  | .renew => "renew"
  | .deconfig => "deconfig"

theorem parseEvent_eventText (event : DhcpLeaseEvent) : parseEvent (eventText event) = event := by
  cases event <;> decide

theorem newline_not_mem_eventText (event : DhcpLeaseEvent) : '\n' ∉ (eventText event).toList := by
  cases event <;> decide

theorem isSafeGeneration_of_active {iface generation : String} {marker : Option (List Char)}
    (h : activeGeneration iface marker = .ok (some generation)) :
    isSafeGeneration generation = true := by
  unfold activeGeneration at h
  split at h
  · cases h
  · cases marker with
    | none => cases h
    | some text =>
      dsimp only at h
      split at h
      · cases h
      · next hsafe =>
        obtain rfl := Option.some.inj (Except.ok.inj h)
        simpa using hsafe

theorem read_writeFact {script : FactScript} {event : DhcpLeaseEvent} {files : LeaseFiles}
    (hevent : script.event = eventText event) (hreported : event ≠ .none)
    (hline : script.OneLine)
    (hactive : activeGeneration script.iface (files.now (generationPathFor script.iface)) =
      .ok (some script.generation))
    (hcompletes : (script.writeFact files).1 = true) :
    DhcpLeaseStore.read (script.writeFact files).2.now script.iface =
      if (event = .bound ∨ event = .renew) ∧ (script.ip = "" ∨ script.subnet = "") then
        .error "configured DHCP lease is missing ip/subnet"
      else
        .ok (some ⟨event, script.iface, script.generation, script.ip, script.subnet,
          firstWord script.router, firstWord script.dns⟩) := by
  have hcurrent := FactScript.writeFact_completes_iff.mp hcompletes
  have hnewline : '\n' ∉ script.generation.toList := by
    have hsafe := isSafeGeneration_of_active hactive
    simp only [isSafeGeneration, decide_eq_true_eq] at hsafe
    intro hmem
    exact absurd (List.all_eq_true.mp hsafe.2.2 _ hmem) (by decide)
  have hfile : ((files.put script.tmp script.text).rename script.tmp script.lease).now
      (pathFor script.iface script.generation) = some script.text :=
    (Files.rename_target _ FactScript.lease_ne_tmp).trans (Files.put_now _)
  have hparsed := parseLease_entries script.iface hnewline
    (hevent ▸ newline_not_mem_eventText event) hline.1 hline.2.1 hline.2.2.1 hline.2.2.2
  rw [hevent, parseEvent_eventText, ← hevent, firstToken_eq, firstToken_eq] at hparsed
  rw [FactScript.writeFact_current hcurrent]
  unfold DhcpLeaseStore.read
  rw [FactScript.rename_marker, hactive]
  dsimp only
  rw [hfile]
  unfold readLease FactScript.text
  simp only [hparsed]
  rw [if_neg (not_not_intro rfl), if_neg hreported]
  simp only [DhcpLeaseFact.configured, decide_eq_true_eq]

/-! ### Fingerprints -/

/-- No field of the fact has the separator in it. -/
def Unseparated (fact : DhcpLeaseFact) : Prop :=
  ∀ field ∈ [fact.iface, fact.generation, fact.ip4, fact.netmask4, fact.gateway4, fact.dns4],
    '\x1f' ∉ field.toList

instance (fact : DhcpLeaseFact) : Decidable (Unseparated fact) :=
  inferInstanceAs (Decidable (∀ field ∈ [fact.iface, fact.generation, fact.ip4, fact.netmask4,
    fact.gateway4, fact.dns4], '\x1f' ∉ field.toList))

theorem fingerprint_toList (fact : DhcpLeaseFact) :
    fact.fingerprint.toList =
      (((((Nat.toDigits 10 fact.event.code ++ '\x1f' :: fact.iface.toList) ++
        '\x1f' :: fact.generation.toList) ++ '\x1f' :: fact.ip4.toList) ++
        '\x1f' :: fact.netmask4.toList) ++ '\x1f' :: fact.gateway4.toList) ++
        '\x1f' :: fact.dns4.toList := by
  unfold DhcpLeaseFact.fingerprint
  simp only [String.toList_append, Nat.toString_eq_repr, Nat.toList_repr,
    show "\x1f".toList = ['\x1f'] by decide, List.append_assoc, List.cons_append, List.nil_append]

theorem code_inj {event event' : DhcpLeaseEvent} (h : event.code = event'.code) :
    event = event' := by
  cases event <;> cases event' <;> first | rfl | cases h

/-- Without separators in the fields the last one cuts off the last field, and so on. -/
theorem fingerprint_inj {fact fact' : DhcpLeaseFact} (h : Unseparated fact)
    (h' : Unseparated fact') (heq : fact.fingerprint = fact'.fingerprint) : fact = fact' := by
  simp only [Unseparated, List.forall_mem_cons] at h h'
  obtain ⟨hiface, hgeneration, hip, hmask, hgw, hdns, -⟩ := h
  obtain ⟨hiface', hgeneration', hip', hmask', hgw', hdns', -⟩ := h'
  have hlists := congrArg String.toList heq
  rw [fingerprint_toList, fingerprint_toList] at hlists
  obtain ⟨hrest, edns⟩ := append_separator_inj hdns hdns' hlists
  obtain ⟨hrest, egw⟩ := append_separator_inj hgw hgw' hrest
  obtain ⟨hrest, emask⟩ := append_separator_inj hmask hmask' hrest
  obtain ⟨hrest, eip⟩ := append_separator_inj hip hip' hrest
  obtain ⟨hrest, egeneration⟩ := append_separator_inj hgeneration hgeneration' hrest
  obtain ⟨hcode, eiface⟩ := append_separator_inj hiface hiface' hrest
  obtain ⟨event, iface, generation, ip4, netmask4, gateway4, dns4⟩ := fact
  obtain rfl := code_inj (toDigits_inj hcode)
  obtain rfl := String.toList_injective eiface
  obtain rfl := String.toList_injective egeneration
  obtain rfl := String.toList_injective eip
  obtain rfl := String.toList_injective emask
  obtain rfl := String.toList_injective egw
  obtain rfl := String.toList_injective edns
  rfl

/-! ### The round trip -/

/-- **The lease file round-trips.**  What a completed `write_fact` of the active generation printed
is read back: the values as they were, of router and nameserver the first word, and only a lease
without its address is refused.  Of facts without the separator the fingerprint forgets nothing. -/
theorem leaseFile_roundTrip :
    (∀ (script : FactScript) (event : DhcpLeaseEvent) (files : LeaseFiles),
      script.event = eventText event → event ≠ .none → script.OneLine →
      activeGeneration script.iface (files.now (generationPathFor script.iface)) =
        .ok (some script.generation) →
      (script.writeFact files).1 = true →
      DhcpLeaseStore.read (script.writeFact files).2.now script.iface =
        if (event = .bound ∨ event = .renew) ∧ (script.ip = "" ∨ script.subnet = "") then
          .error "configured DHCP lease is missing ip/subnet"
        else
          .ok (some ⟨event, script.iface, script.generation, script.ip, script.subnet,
            firstWord script.router, firstWord script.dns⟩)) ∧
    ∀ fact fact' : DhcpLeaseFact, Unseparated fact → Unseparated fact' →
      (fact.fingerprint = fact'.fingerprint ↔ fact = fact') := by
  refine ⟨fun script event files hevent hreported hline hactive hcompletes => ?_,
    fun fact fact' h h' => ⟨fingerprint_inj h h', fun heq => heq ▸ rfl⟩⟩
  exact read_writeFact hevent hreported hline hactive hcompletes

/-- The marker that starting the client of `boundRun` leaves. -/
def boundMarker : LeaseFiles :=
  ⟨fun path => if path = generationPathFor "wlan0" then some "41_7_0\n".toList else none, []⟩

theorem leaseFile_roundTrip_bound :
    DhcpLeaseStore.read (boundRun.script.writeFact boundMarker).2.now "wlan0" =
        .ok (some ⟨.bound, "wlan0", "41_7_0", "192.168.4.20", "255.255.255.0", "192.168.4.1",
          "192.168.4.1"⟩) ∧
      (boundRun.fact.fingerprint = { boundRun.fact with ip4 := "192.168.4.21" }.fingerprint ↔
        boundRun.fact = { boundRun.fact with ip4 := "192.168.4.21" }) := by
  refine ⟨(leaseFile_roundTrip.1 boundRun.script .bound boundMarker rfl nofun ?_ ?_ ?_).trans ?_,
    leaseFile_roundTrip.2 _ _ ?_ ?_⟩
  · exact ⟨by decide, by decide, by decide, by decide⟩
  all_goals decide +kernel

end NetworkService.Platform
