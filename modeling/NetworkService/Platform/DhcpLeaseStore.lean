import NetworkService.Platform.ResolverFile

/-!
# The lease store

What the DHCP client reports is a text file of `key=value` lines in a directory that everybody can
write to.  Each started client has a generation; its lease file is named after it, and a marker file
names the generation that is active for the interface.  `read` looks at the marker first and takes
the lease of that generation only, if the text says so itself.
-/

namespace NetworkService.Platform

abbrev Path := List Char

/-! ### Names -/

/-- `next_generation`: the process, its clock and a counter. -/
structure Generation where
  pid : ℕ
  ticks : ℕ
  sequence : ℕ
  deriving DecidableEq

def Generation.text (generation : Generation) : String :=
  toString generation.pid ++ "_" ++ toString generation.ticks ++ "_" ++ toString generation.sequence

/-- `is_safe_generation` -/
def isSafeGeneration (value : String) : Bool :=
  value ≠ "" ∧ value.toList.length ≤ 80 ∧ value.toList.all isIfaceByte

namespace DhcpLeaseStore

def pathFor (iface generation : String) : Path :=
  "/tmp/network_service_dhcp_".toList ++
    (iface.toList ++ '_' :: (generation.toList ++ ".lease".toList))

def generationPathFor (iface : String) : Path :=
  "/tmp/network_service_dhcp_".toList ++ (iface.toList ++ ".generation".toList)

/-! ### Parsing -/

/-- `input >> out` on the whole text. -/
def firstToken (value : String) : String :=
  String.ofList ((value.toList.dropWhile Config.isSpace).takeWhile (!Config.isSpace ·))

def parseEvent (value : String) : DhcpLeaseEvent :=
  if value = "bound" then .bound
  else if value = "renew" then .renew
  else if value = "deconfig" then .deconfig
  else .none

/-- One recognised key, besides the fact the text of the event; others are ignored. -/
def assign (state : DhcpLeaseFact × String) (key value : String) : DhcpLeaseFact × String :=
  if key = "generation" then ({ state.1 with generation := value }, state.2)
  else if key = "event" then (state.1, value)
  else if key = "ip" then ({ state.1 with ip4 := value }, state.2)
  else if key = "subnet" then ({ state.1 with netmask4 := value }, state.2)
  else if key = "router" then ({ state.1 with gateway4 := firstToken value }, state.2)
  else if key = "dns" then ({ state.1 with dns4 := firstToken value }, state.2)
  else state

/-- A line is cut at its first `=`; a line without one is skipped. -/
def readLine (state : DhcpLeaseFact × String) (line : List Char) : DhcpLeaseFact × String :=
  match line.dropWhile (· ≠ '=') with
  | [] => state
  | _ :: value => assign state (String.ofList (line.takeWhile (· ≠ '='))) (String.ofList value)

/-! ### The operations -/

/-- `active_generation` on what the marker file holds. -/
def activeGeneration (iface : String) (marker : Option (List Char)) :
    Except String (Option String) :=
  if !isSafeIface iface then .error "invalid DHCP lease iface"
  else
    match marker with
    | none => .ok none
    | some text =>
      let generation := String.ofList (text.takeWhile (· ≠ '\n'))
      if !isSafeGeneration generation then .error "invalid DHCP generation marker"
      else .ok (some generation)

/-- The loop of `read`; the event is parsed after it. -/
def parseLease (iface : String) (text : List Char) : DhcpLeaseFact :=
  let parsed := (text.splitOn '\n').foldl readLine ({ iface := iface }, "")
  { parsed.1 with event := parseEvent parsed.2 }

/-- The second half of `read`, on what the lease file of the active generation holds. -/
def readLease (iface active : String) (file : Option (List Char)) :
    Except String (Option DhcpLeaseFact) :=
  match file with
  | none => .ok none
  | some text =>
    let fact := parseLease iface text
    if fact.generation ≠ active then .ok none
    else if fact.event = .none then .error "invalid DHCP lease event"
    else if fact.configured ∧ (fact.ip4 = "" ∨ fact.netmask4 = "") then
      .error "configured DHCP lease is missing ip/subnet"
    else .ok (some fact)

/-- `read`: the marker first, then the lease that it names. -/
def read (files : Path → Option (List Char)) (iface : String) :
    Except String (Option DhcpLeaseFact) :=
  match activeGeneration iface (files (generationPathFor iface)) with
  | .error e => .error e
  | .ok none => .ok none
  | .ok (some active) => readLease iface active (files (pathFor iface active))

/-! ### What a line says -/

/-- `printf 'key=%s\n'` -/
def factLine (entry : String × String) : List Char :=
  entry.1.toList ++ '=' :: (entry.2.toList ++ ['\n'])

theorem readLine_entry (state : DhcpLeaseFact × String) {key value : String}
    (hequals : '=' ∉ key.toList) :
    readLine state (key.toList ++ '=' :: value.toList) = assign state key value := by
  have hall : ∀ c ∈ key.toList, decide (c ≠ '=') = true := by
    intro c hc
    exact decide_eq_true fun heq => hequals (heq ▸ hc)
  unfold readLine
  rw [List.dropWhile_append_of_pos hall, List.takeWhile_append_of_pos hall,
    List.dropWhile_cons_of_neg (by decide), List.takeWhile_cons_of_neg (by decide), List.append_nil]
  dsimp only
  rw [String.ofList_toList, String.ofList_toList]

/-- **Values of one line are read as they were printed.** -/
theorem foldl_readLine_entries (entries : List (String × String))
    (hfit : ∀ entry ∈ entries, '=' ∉ entry.1.toList ∧ '\n' ∉ entry.1.toList ∧
      '\n' ∉ entry.2.toList) (state : DhcpLeaseFact × String) :
    ((entries.flatMap factLine).splitOn '\n').foldl readLine state =
      entries.foldl (fun state entry => assign state entry.1 entry.2) state := by
  induction entries generalizing state with
  | nil => rfl
  | cons entry entries ih =>
    obtain ⟨hequals, hkey, hvalue⟩ := hfit entry List.mem_cons_self
    have hline : '\n' ∉ entry.1.toList ++ '=' :: entry.2.toList := by
      intro hmem
      rcases List.mem_append.mp hmem with hmem | hmem
      · exact hkey hmem
      · rcases List.mem_cons.mp hmem with heq | hmem
        · exact absurd heq (by decide)
        · exact hvalue hmem
    have hcut : factLine entry ++ entries.flatMap factLine =
        (entry.1.toList ++ '=' :: entry.2.toList) ++ '\n' :: entries.flatMap factLine := by
      simp only [factLine, List.append_assoc, List.cons_append, List.nil_append]
    rw [List.flatMap_cons, hcut, List.splitOn_append_cons_self_of_not_mem hline, List.foldl_cons,
      List.foldl_cons, readLine_entry state hequals]
    exact ih (fun e he => hfit e (List.mem_cons_of_mem _ he)) _

/-- The lines that `write_fact` prints are parsed into what it was given. -/
theorem parseLease_entries (iface : String) {generation event ip subnet router dns : String}
    (hgeneration : '\n' ∉ generation.toList) (hevent : '\n' ∉ event.toList)
    (hip : '\n' ∉ ip.toList) (hsubnet : '\n' ∉ subnet.toList) (hrouter : '\n' ∉ router.toList)
    (hdns : '\n' ∉ dns.toList) :
    parseLease iface ([("generation", generation), ("event", event), ("ip", ip),
        ("subnet", subnet), ("router", router), ("dns", dns)].flatMap factLine) =
      { event := parseEvent event, iface := iface, generation := generation, ip4 := ip
        netmask4 := subnet, gateway4 := firstToken router, dns4 := firstToken dns } := by
  unfold parseLease
  rw [foldl_readLine_entries]
  · simp [assign]
  · simp only [List.forall_mem_cons]
    have hkeys : ∀ key ∈ ["generation", "event", "ip", "subnet", "router", "dns"],
        '=' ∉ key.toList ∧ '\n' ∉ key.toList := by decide
    simp only [List.forall_mem_cons] at hkeys
    obtain ⟨h1, h2, h3, h4, h5, h6, -⟩ := hkeys
    exact ⟨⟨h1.1, h1.2, hgeneration⟩, ⟨h2.1, h2.2, hevent⟩, ⟨h3.1, h3.2, hip⟩,
      ⟨h4.1, h4.2, hsubnet⟩, ⟨h5.1, h5.2, hrouter⟩, ⟨h6.1, h6.2, hdns⟩, nofun⟩

/-- A fact that is reported is what the file says. -/
theorem readLease_eq_some {iface active : String} {file : Option (List Char)} {fact : DhcpLeaseFact}
    (h : readLease iface active file = .ok (some fact)) :
    ∃ text, file = some text ∧ fact = parseLease iface text := by
  cases file with
  | none => cases h
  | some text =>
    refine ⟨text, rfl, ?_⟩
    unfold readLease at h
    dsimp only at h
    split at h
    · cases h
    · split at h
      · cases h
      · split at h
        · cases h
        · exact (Option.some.inj (Except.ok.inj h)).symm

/-! ### Names do not meet -/

/-- What follows the last separator is determined. -/
theorem append_separator_inj {separator : Char} {l l' d d' : List Char} (hd : separator ∉ d)
    (hd' : separator ∉ d') (h : l ++ separator :: d = l' ++ separator :: d') : l = l' ∧ d = d' := by
  have hcut : ∀ {l d : List Char}, separator ∉ d →
      (l ++ separator :: d).reverse.takeWhile (· ≠ separator) = d.reverse := by
    intro l d hd
    have hall : ∀ c ∈ d.reverse, decide (c ≠ separator) = true := by
      rintro c hc
      refine decide_eq_true fun heq => hd ?_
      rw [← heq]
      exact List.mem_reverse.mp hc
    rw [List.reverse_append, List.reverse_cons, List.append_assoc, List.takeWhile_append_of_pos hall,
      List.singleton_append, List.takeWhile_cons_of_neg (by simp), List.append_nil]
  have hsuffix : d = d' := by
    have hreverse := congrArg (fun l => l.reverse.takeWhile (· ≠ separator)) h
    simp only [hcut hd, hcut hd'] at hreverse
    exact List.reverse_inj.mp hreverse
  subst hsuffix
  exact ⟨List.append_cancel_right h, rfl⟩

theorem toDigits_inj {n m : ℕ} (h : Nat.toDigits 10 n = Nat.toDigits 10 m) : n = m := by
  have hvalue := congrArg (fun digits => Nat.ofDigitChars 10 digits 0) h
  simpa only [Nat.ofDigitChars_ten_toDigits] using hvalue

theorem not_mem_toDigits {separator : Char} (h : separator.isDigit = false) (n : ℕ) :
    separator ∉ Nat.toDigits 10 n := by
  intro hmem
  rw [Nat.isDigit_of_mem_toDigits (by decide) (by decide) hmem] at h
  cases h

theorem generation_toList (generation : Generation) :
    generation.text.toList = (Nat.toDigits 10 generation.pid ++ '_' ::
      Nat.toDigits 10 generation.ticks) ++ '_' :: Nat.toDigits 10 generation.sequence := by
  simp only [Generation.text, String.toList_append, Nat.toString_eq_repr, Nat.toList_repr,
    show "_".toList = ['_'] by decide, List.append_assoc, List.cons_append, List.nil_append]

theorem pathFor_generation (iface : String) (generation : Generation) :
    pathFor iface generation.text = "/tmp/network_service_dhcp_".toList ++
      ((((iface.toList ++ '_' :: Nat.toDigits 10 generation.pid) ++ '_' ::
        Nat.toDigits 10 generation.ticks) ++ '_' :: Nat.toDigits 10 generation.sequence) ++
          ".lease".toList) := by
  unfold pathFor
  rw [generation_toList]
  simp only [List.append_assoc, List.cons_append]

/-- **A lease path belongs to one generation of one interface.** -/
theorem pathFor_inj {iface iface' : String} {generation generation' : Generation}
    (h : pathFor iface generation.text = pathFor iface' generation'.text) :
    iface = iface' ∧ generation = generation' := by
  have hdigits : ∀ n, '_' ∉ Nat.toDigits 10 n := not_mem_toDigits (by decide)
  rw [pathFor_generation, pathFor_generation] at h
  have hname := List.append_cancel_right (List.append_cancel_left h)
  obtain ⟨hrest, hsequence⟩ := append_separator_inj (hdigits _) (hdigits _) hname
  obtain ⟨hrest, hticks⟩ := append_separator_inj (hdigits _) (hdigits _) hrest
  obtain ⟨hiface, hpid⟩ := append_separator_inj (hdigits _) (hdigits _) hrest
  obtain ⟨pid, ticks, sequence⟩ := generation
  obtain ⟨pid', ticks', sequence'⟩ := generation'
  obtain rfl : pid = pid' := toDigits_inj hpid
  obtain rfl : ticks = ticks' := toDigits_inj hticks
  obtain rfl : sequence = sequence' := toDigits_inj hsequence
  exact ⟨String.toList_injective hiface, rfl⟩

theorem generationPathFor_inj {iface iface' : String}
    (h : generationPathFor iface = generationPathFor iface') : iface = iface' :=
  String.toList_injective (List.append_cancel_right (List.append_cancel_left h))

end DhcpLeaseStore

end NetworkService.Platform
