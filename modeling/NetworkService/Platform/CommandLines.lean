import Mathlib.Data.List.TakeWhile
import NetworkService.Platform.ShellCommands

/-!
# Commands cannot be injected

A device name passes `is_safe_iface` as a whole, an address passes `inet_pton` up to its first NUL,
and the paths of the DHCP client pass nothing but are quoted.  Each of these is enough for the way
in which the value is written, so the shell finds the intended words.
-/

namespace NetworkService.Platform

/-! ### Arguments -/

/-- Text that `inet_pton` may accept: digits and dots, no longer than the longest address. -/
def DottedDecimal (text : List Char) : Prop :=
  text ≠ [] ∧ text.length ≤ 15 ∧ ∀ c ∈ text, c.isDigit = true ∨ c = '.'

theorem isPlain_of_isIfaceByte {c : Char} (h : isIfaceByte c = true) :
    Shell.isPlain c = true ∧ c ≠ '\x00' := by
  have hall : ('\x00' :: Shell.specials).all (fun special => !isIfaceByte special) = true := by decide
  have hmem : c ∉ '\x00' :: Shell.specials := by
    intro hmem
    have hother := List.all_eq_true.mp hall c hmem
    rw [h] at hother
    cases hother
  exact ⟨decide_eq_true fun hspecial => hmem (List.mem_cons_of_mem _ hspecial),
    fun heq => hmem (heq ▸ List.mem_cons_self)⟩

/-- An argument without quotes: a word of the bytes that device names are made of. -/
structure IsArgument (bound : ℕ) (text : List Char) : Prop where
  ne_nil : text ≠ []
  bytes : ∀ c ∈ text, isIfaceByte c = true
  length : text.length ≤ bound

namespace IsArgument

variable {bound : ℕ} {text : List Char}

theorem renders (h : IsArgument bound text) : Shell.Renders text text :=
  Shell.renders_plain h.ne_nil
    (List.all_eq_true.mpr fun c hc => (isPlain_of_isIfaceByte (h.bytes c hc)).1)

theorem no_nul (h : IsArgument bound text) : '\x00' ∉ text :=
  fun hmem => (isPlain_of_isIfaceByte (h.bytes _ hmem)).2 rfl

theorem of_isSafeIface {iface : String} (h : isSafeIface iface = true) :
    IsArgument 15 iface.toList := by
  simp only [isSafeIface, decide_eq_true_eq] at h
  obtain ⟨hne, hlength, hbytes⟩ := h
  refine ⟨fun hnil => hne ?_, List.all_eq_true.mp hbytes, hlength⟩
  exact String.toList_injective (hnil.trans rfl)

theorem of_dottedDecimal (h : DottedDecimal text) : IsArgument 15 text := by
  obtain ⟨hne, hlength, hbytes⟩ := h
  refine ⟨hne, fun c hc => ?_, hlength⟩
  rcases hbytes c hc with hdigit | rfl
  · simp only [Char.isDigit, Bool.and_eq_true, decide_eq_true_eq] at hdigit
    simp only [isIfaceByte, decide_eq_true_eq]
    exact .inr (.inr (.inl hdigit))
  · decide

theorem of_metric {metric : Int} (h : 0 ≤ metric) (h' : metric ≤ 65535) :
    IsArgument 5 (toString metric).toList := by
  obtain ⟨n, rfl⟩ := Int.eq_ofNat_of_zero_le h
  have htext : (toString (n : Int)).toList = Nat.toDigits 10 n := by
    simp [Int.toString_eq_repr, Int.repr_eq_if]
  rw [htext]
  refine ⟨Nat.toDigits_ne_nil, fun c hc => ?_, ?_⟩
  · have hdigit := Nat.isDigit_of_mem_toDigits (by decide) (by decide) hc
    simp only [Char.isDigit, Bool.and_eq_true, decide_eq_true_eq] at hdigit
    simp only [isIfaceByte, decide_eq_true_eq]
    exact .inr (.inr (.inl hdigit))
  · refine (Nat.length_toDigits_le_iff (by decide) (by decide)).mpr ?_
    omega

end IsArgument

theorem cString_of_isSafeIface {iface : String} (h : isSafeIface iface = true) :
    cString iface = iface.toList := by
  have hargument := IsArgument.of_isSafeIface h
  refine List.takeWhile_eq_self_iff.mpr fun c hc => decide_eq_true fun heq => ?_
  exact hargument.no_nul (heq ▸ hc)

/-- A word that is written in the source. -/
theorem isArgument_literal {bound : ℕ} {text : List Char}
    (h : (text ≠ [] ∧ text.all isIfaceByte = true ∧ text.length ≤ bound)) : IsArgument bound text :=
  ⟨h.1, List.all_eq_true.mp h.2.1, h.2.2⟩

/-! ### Commands of arguments -/

/-- Neither a buffer nor a NUL cuts the command line, and the shell finds the intended command in
it and nothing else. -/
structure Intends (intended : Shell.Command) (call : SystemCall) : Prop where
  whole : call.command = call.written
  parsed : Shell.simpleCommand call.command = some intended

theorem takeWhile_no_nul {text : List Char} (h : '\x00' ∉ text) :
    text.takeWhile (· ≠ '\x00') = text :=
  List.takeWhile_eq_self_iff.mpr fun _ hc => decide_eq_true fun heq => h (heq ▸ hc)

theorem intends_text {written : List Char} {intended : Shell.Command} (hnul : '\x00' ∉ written)
    (hparsed : Shell.simpleCommand written = some intended) :
    Intends intended (systemText written) := by
  have hcommand : (systemText written).command = written := takeWhile_no_nul hnul
  exact ⟨hcommand, by rw [hcommand]; exact hparsed⟩

theorem intends_buffer {written : List Char} {intended : Shell.Command} {size : ℕ}
    (hnul : '\x00' ∉ written) (hlength : written.length < size)
    (hparsed : Shell.simpleCommand written = some intended) :
    Intends intended (systemBuffer size written) := by
  have hcommand : (systemBuffer size written).command = written := by
    unfold systemBuffer SystemCall.command
    dsimp only
    rw [List.take_of_length_le (by omega), takeWhile_no_nul hnul, takeWhile_no_nul hnul]
  exact ⟨hcommand, by rw [hcommand]; exact hparsed⟩

/-- A line of arguments is one command, and has no NUL. -/
theorem simpleCommand_arguments {first : List Char} {rest : List (List Char)}
    (h : ∀ text ∈ first :: rest, IsArgument 15 text) (hfirst : first ∉ Shell.reserved) :
    '\x00' ∉ Shell.line (first :: rest) ∧
      Shell.simpleCommand (Shell.line (first :: rest)) = some ⟨first :: rest, false⟩ := by
  refine ⟨Shell.not_mem_line (by decide) fun text htext => (h text htext).no_nul, ?_⟩
  refine Shell.simpleCommand_line (List.forall₂_same.mpr fun text htext => ?_) hfirst
  exact (h text htext).renders

theorem intends_line_text {first : List Char} {rest : List (List Char)} {written : List Char}
    (hwritten : written = Shell.line (first :: rest))
    (h : ∀ text ∈ first :: rest, IsArgument 15 text) (hfirst : first ∉ Shell.reserved) :
    Intends ⟨first :: rest, false⟩ (systemText written) := by
  obtain ⟨hnul, hparsed⟩ := simpleCommand_arguments h hfirst
  subst hwritten
  exact intends_text hnul hparsed

/-- Nine arguments of an address's length and the blanks between them fit the buffers. -/
theorem intends_line_buffer {first : List Char} {rest : List (List Char)} {written : List Char}
    (hwritten : written = Shell.line (first :: rest))
    (h : ∀ text ∈ first :: rest, IsArgument 15 text) (hfirst : first ∉ Shell.reserved)
    (hcount : (first :: rest).length ≤ 9) :
    Intends ⟨first :: rest, false⟩ (systemBuffer 256 written) := by
  obtain ⟨hnul, hparsed⟩ := simpleCommand_arguments h hfirst
  subst hwritten
  refine intends_buffer hnul ?_ hparsed
  have hle := Shell.length_line_le fun text htext => (h text htext).length
  omega

/-! ### The functions -/

theorem runCommand_calls {system : List Char → Int} {call made : SystemCall}
    (h : made ∈ (runCommand system call).calls) : made = call := List.mem_singleton.mp h

theorem start_calls {system : List Char → Int} {replies : UdhcpcProcess.StartReplies}
    {iface : String} {call : SystemCall}
    (h : call ∈ (UdhcpcProcess.start system replies iface).calls) :
    isSafeIface iface = true ∧
      call = systemText (UdhcpcProcess.startCommand iface replies.generation.text) := by
  unfold UdhcpcProcess.start at h
  split at h
  · cases h
  next hsafe =>
  refine ⟨by simpa using hsafe, ?_⟩
  split at h
  · cases h
  · cases h
  · split at h
    · cases h
    · cases h
    · dsimp only at h
      split at h
      · exact runCommand_calls h
      · split at h
        · exact runCommand_calls h
        · exact List.mem_singleton.mp h

/-- The paths that are quoted have no NUL, for a device name and a generation have none. -/
theorem paths_no_nul {iface : String} (hsafe : isSafeIface iface = true) (generation : Generation) :
    '\x00' ∉ UdhcpcProcess.pidfileFor iface ∧
      '\x00' ∉ UdhcpcProcess.eventScriptPath iface generation.text := by
  have hiface := (IsArgument.of_isSafeIface hsafe).no_nul
  have hgeneration : '\x00' ∉ generation.text.toList := by
    have hdigits : ∀ n, '\x00' ∉ Nat.toDigits 10 n := DhcpLeaseStore.not_mem_toDigits (by decide)
    have hseparator : '\x00' ≠ '_' := by decide
    rw [DhcpLeaseStore.generation_toList]
    simp only [List.mem_append, List.mem_cons, hdigits, hseparator, or_self, not_false_iff]
  have hliterals : '\x00' ∉ "/tmp/smart_hmi_udhcpc_".toList ∧ '\x00' ∉ ".pid".toList ∧
      '\x00' ∉ "/tmp/network_service_udhcpc_".toList ∧ '\x00' ∉ "_".toList ∧
      '\x00' ∉ ".script".toList := by decide
  obtain ⟨hpid, hpidEnd, hpath, hbetween, hpathEnd⟩ := hliterals
  unfold UdhcpcProcess.pidfileFor UdhcpcProcess.eventScriptPath
  simp only [List.mem_append, not_or]
  exact ⟨⟨⟨hpid, hiface⟩, hpidEnd⟩, ⟨⟨⟨hpath, hiface⟩, hbetween⟩, hgeneration⟩, hpathEnd⟩

theorem shellQuote_eq (value : List Char) : UdhcpcProcess.shellQuote value = Shell.quote value := by
  unfold UdhcpcProcess.shellQuote
  rfl

theorem quote_no_nul {value : List Char} (h : '\x00' ∉ value) : '\x00' ∉ Shell.quote value := by
  have hchar : ∀ c ∈ value, '\x00' ∉ Shell.quoteChar c := by
    intro c hc hmem
    unfold Shell.quoteChar at hmem
    split at hmem
    · exact absurd hmem (by decide)
    · rw [List.mem_singleton] at hmem
      exact h (hmem ▸ hc)
  unfold Shell.quote
  simp only [List.mem_cons, List.mem_append, List.mem_flatMap, List.not_mem_nil, or_false]
  rintro (heq | ⟨c, hc, hmem⟩ | heq)
  · exact absurd heq (by decide)
  · exact hchar c hc hmem
  · exact absurd heq (by decide)

section Functions

variable {host : Host} (hpton : ∀ text, host.inetPton text = true → DottedDecimal text)

include hpton

theorem isArgument_of_isIpv4 {value : String} (h : host.isIpv4 value = true) :
    IsArgument 15 (cString value) := by
  simp only [Host.isIpv4, decide_eq_true_eq] at h
  exact .of_dottedDecimal (hpton _ h.2)

theorem applyIpv4_intends (iface ip4 netmask4 : String) (call : SystemCall)
    (hcall : call ∈ (NetworkConfigurator.applyIpv4 host iface ip4 netmask4).calls) :
    Intends (CommandRequest.applyIpv4 iface ip4 netmask4).intended call := by
  unfold NetworkConfigurator.applyIpv4 at hcall
  split at hcall
  · cases hcall
  next hvalid =>
  simp only [Bool.not_eq_true', not_or, Bool.not_eq_false] at hvalid
  obtain ⟨hiface, hip, hmask⟩ := hvalid
  obtain rfl := runCommand_calls hcall
  have hname := IsArgument.of_isSafeIface hiface
  rw [← cString_of_isSafeIface hiface] at hname
  refine intends_line_buffer rfl ?_ (by decide) (by simp)
  simp only [List.forall_mem_cons]
  exact ⟨isArgument_literal (by decide), hname, isArgument_of_isIpv4 hpton hip,
    isArgument_literal (by decide), isArgument_of_isIpv4 hpton hmask,
    isArgument_literal (by decide), nofun⟩

/-- The two route commands differ in one word. -/
theorem route_intends {verb : String} (hverb : verb = "add" ∨ verb = "del") {iface gateway4 : String}
    {metric : Int} (hiface : isSafeIface iface = true) (hgw : host.isIpv4 gateway4 = true)
    (hnonneg : 0 ≤ metric) (hle : metric ≤ 65535) {written : List Char}
    (hwritten : written = Shell.line ["route".toList, verb.toList, "default".toList, "gw".toList,
      cString gateway4, "dev".toList, cString iface, "metric".toList, (toString metric).toList]) :
    Intends ⟨["route".toList, verb.toList, "default".toList, "gw".toList, cString gateway4,
      "dev".toList, cString iface, "metric".toList, (toString metric).toList], false⟩
      (systemBuffer 256 written) := by
  have hname := IsArgument.of_isSafeIface hiface
  rw [← cString_of_isSafeIface hiface] at hname
  have hmetric := IsArgument.of_metric hnonneg hle
  have hword : IsArgument 15 verb.toList := by
    rcases hverb with rfl | rfl
    · exact isArgument_literal (by decide)
    · exact isArgument_literal (by decide)
  refine intends_line_buffer hwritten ?_ (by decide) (by simp)
  simp only [List.forall_mem_cons]
  exact ⟨isArgument_literal (by decide), hword, isArgument_literal (by decide),
    isArgument_literal (by decide), isArgument_of_isIpv4 hpton hgw, isArgument_literal (by decide),
    hname, isArgument_literal (by decide),
    ⟨hmetric.ne_nil, hmetric.bytes, Nat.le_trans hmetric.length (by decide)⟩, nofun⟩

theorem setDefaultRoute_intends (iface gateway4 : String) (metric : Int) (call : SystemCall)
    (hcall : call ∈ (NetworkConfigurator.setDefaultRoute host iface gateway4 metric).calls) :
    Intends (CommandRequest.setDefaultRoute iface gateway4 metric).intended call := by
  unfold NetworkConfigurator.setDefaultRoute at hcall
  split at hcall
  · cases hcall
  next hvalid =>
  simp only [Bool.not_eq_true', not_or, Bool.not_eq_false, Int.not_lt] at hvalid
  obtain ⟨hiface, hgw, hnonneg, hle⟩ := hvalid
  split at hcall
  · cases hcall
  · obtain rfl := runCommand_calls hcall
    exact route_intends hpton (.inl rfl) hiface hgw hnonneg hle rfl

theorem clearDefaultRoute_intends (iface gateway4 : String) (metric : Int) (call : SystemCall)
    (hcall : call ∈ (NetworkConfigurator.clearDefaultRoute host iface gateway4 metric).calls) :
    Intends (CommandRequest.clearDefaultRoute iface gateway4 metric).intended call := by
  unfold NetworkConfigurator.clearDefaultRoute at hcall
  split at hcall
  · cases hcall
  next hvalid =>
  simp only [Bool.not_eq_true', not_or, Bool.not_eq_false, Int.not_lt] at hvalid
  obtain ⟨hiface, hgw, hnonneg, hle⟩ := hvalid
  split at hcall
  · cases hcall
  · obtain rfl := runCommand_calls hcall
    exact route_intends hpton (.inr rfl) hiface hgw hnonneg hle rfl

end Functions

/-- `ifconfig`, the device and one word. -/
theorem ifconfig_intends {iface : String} (last : String) (hiface : isSafeIface iface = true)
    (hlast : last.toList ≠ [] ∧ last.toList.all isIfaceByte = true ∧ last.toList.length ≤ 15)
    {written : List Char}
    (hwritten : written = Shell.line ["ifconfig".toList, iface.toList, last.toList]) :
    Intends ⟨["ifconfig".toList, cString iface, last.toList], false⟩ (systemText written) := by
  rw [cString_of_isSafeIface hiface]
  refine intends_line_text hwritten ?_ (by decide)
  simp only [List.forall_mem_cons]
  exact ⟨isArgument_literal (by decide), .of_isSafeIface hiface, isArgument_literal hlast, nofun⟩

theorem clearIpv4_intends (host : Host) (iface : String) (call : SystemCall)
    (hcall : call ∈ (NetworkConfigurator.clearIpv4 host iface).calls) :
    Intends (CommandRequest.clearIpv4 iface).intended call := by
  unfold NetworkConfigurator.clearIpv4 at hcall
  split at hcall
  · cases hcall
  · next hsafe =>
    obtain rfl := runCommand_calls hcall
    exact ifconfig_intends "0.0.0.0" (by simpa using hsafe) (by decide) rfl

theorem wifiEnsureInterfaceUp_intends (system : List Char → Int) (iface : String)
    (call : SystemCall) (hcall : call ∈ (wifiEnsureInterfaceUp system iface).calls) :
    Intends (CommandRequest.wifiEnsureInterfaceUp iface).intended call := by
  unfold wifiEnsureInterfaceUp at hcall
  split at hcall
  · cases hcall
  · next hsafe =>
    obtain rfl := runCommand_calls hcall
    exact ifconfig_intends "up" (by simpa using hsafe) (by decide) rfl

theorem wifiSetEnabled_intends (system : List Char → Int) (iface : String) (enabled : Bool)
    (call : SystemCall) (hcall : call ∈ (wifiSetEnabled system iface enabled).calls) :
    Intends (CommandRequest.wifiSetEnabled iface enabled).intended call := by
  unfold wifiSetEnabled at hcall
  split at hcall
  · cases hcall
  next hsafe =>
  cases enabled with
  | true => exact wifiEnsureInterfaceUp_intends system iface call hcall
  | false =>
    obtain rfl := runCommand_calls hcall
    exact ifconfig_intends "down" (by simpa using hsafe) (by decide) rfl

/-- The client's words are arguments too, but for the two paths, which are quoted. -/
theorem startDhcp_intends (system : List Char → Int) (iface : String)
    (replies : UdhcpcProcess.StartReplies) (call : SystemCall)
    (hcall : call ∈ (UdhcpcProcess.start system replies iface).calls) :
    Intends (CommandRequest.startDhcp iface replies).intended call := by
  obtain ⟨hiface, rfl⟩ := start_calls hcall
  obtain ⟨hpidfile, hscript⟩ := paths_no_nul hiface replies.generation
  have hname := IsArgument.of_isSafeIface hiface
  have hliteral : ∀ {text : List Char}, (text ≠ [] ∧ text.all isIfaceByte = true ∧
      text.length ≤ 15) → Shell.Renders text text ∧ '\x00' ∉ text :=
    fun h => ⟨(isArgument_literal h).renders, (isArgument_literal h).no_nul⟩
  have hcommand : UdhcpcProcess.startCommand iface replies.generation.text =
      Shell.line ["udhcpc".toList, "-f".toList, "-i".toList, iface.toList, "-t".toList, "15".toList,
        "-n".toList, "-p".toList, Shell.quote (UdhcpcProcess.pidfileFor iface), "-s".toList,
        Shell.quote (UdhcpcProcess.eventScriptPath iface replies.generation.text)] ++ [' ', '&'] := by
    unfold UdhcpcProcess.startCommand
    rw [shellQuote_eq, shellQuote_eq]
    simp only [Shell.line_cons_cons, Shell.line_singleton, List.append_assoc, List.cons_append]
    rfl
  rw [hcommand]
  refine intends_text ?_ ?_
  · intro hmem
    rcases List.mem_append.mp hmem with hline | hlast
    · refine Shell.not_mem_line (by decide) ?_ hline
      simp only [List.forall_mem_cons]
      exact ⟨(hliteral (by decide)).2, (hliteral (by decide)).2, (hliteral (by decide)).2,
        hname.no_nul, (hliteral (by decide)).2, (hliteral (by decide)).2, (hliteral (by decide)).2,
        (hliteral (by decide)).2, quote_no_nul hpidfile, (hliteral (by decide)).2,
        quote_no_nul hscript, nofun⟩
    · exact absurd hlast (by decide)
  · simp only [CommandRequest.intended, cString_of_isSafeIface hiface]
    refine Shell.simpleCommand_background ?_ (by decide)
    exact .cons (hliteral (by decide)).1 <| .cons (hliteral (by decide)).1 <|
      .cons (hliteral (by decide)).1 <| .cons hname.renders <| .cons (hliteral (by decide)).1 <|
      .cons (hliteral (by decide)).1 <| .cons (hliteral (by decide)).1 <|
      .cons (hliteral (by decide)).1 <| .cons (Shell.renders_quote _) <|
      .cons (hliteral (by decide)).1 <| .cons (Shell.renders_quote _) .nil

/-- **Commands cannot be injected.**  Whatever texts the functions are called with, every command
line that they give to `system` arrives whole, and the shell cuts it into the intended words, runs
them as one command, and finds nothing else in it. -/
theorem commands_not_injectable (host : Host)
    (hpton : ∀ text, host.inetPton text = true → DottedDecimal text) (request : CommandRequest)
    (call : SystemCall) (hcall : call ∈ (request.perform host).calls) :
    call.command = call.written ∧
      Shell.simpleCommand call.command = some request.intended := by
  have hintends : Intends request.intended call := by
    cases request with
    | applyIpv4 iface ip4 netmask4 => exact applyIpv4_intends hpton iface ip4 netmask4 call hcall
    | clearIpv4 iface => exact clearIpv4_intends host iface call hcall
    | setDefaultRoute iface gateway4 metric =>
      exact setDefaultRoute_intends hpton iface gateway4 metric call hcall
    | clearDefaultRoute iface gateway4 metric =>
      exact clearDefaultRoute_intends hpton iface gateway4 metric call hcall
    | startDhcp iface replies => exact startDhcp_intends host.system iface replies call hcall
    | wifiEnsureInterfaceUp iface => exact wifiEnsureInterfaceUp_intends host.system iface call hcall
    | wifiSetEnabled iface enabled =>
      exact wifiSetEnabled_intends host.system iface enabled call hcall
  exact ⟨hintends.whole, hintends.parsed⟩

/-! ### `inet_pton` -/

/-- A number up to 255 has three digits at most, for it does not begin with a zero. -/
theorem isOctet_length {digits : List Char} (h : isOctet digits = true) :
    1 ≤ digits.length ∧ digits.length ≤ 3 := by
  simp only [isOctet, decide_eq_true_eq] at h
  obtain ⟨hne, hdigits, hzero, hvalue⟩ := h
  refine ⟨List.length_pos_iff.mpr hne, ?_⟩
  cases digits with
  | nil => exact absurd rfl hne
  | cons c rest =>
    rw [List.all_cons, Bool.and_eq_true] at hdigits
    by_cases hc : c = '0'
    · rw [hzero (by rw [hc]; rfl)]
      decide
    -- the first digit counts as often as the length says
    have hfirst : 1 ≤ c.toNat - '0'.toNat := by
      have hdigit := hdigits.1
      simp only [Char.isDigit, Bool.and_eq_true, decide_eq_true_eq] at hdigit
      have hne : c.toNat ≠ '0'.toNat := fun heq => hc (Char.toNat_inj.mp heq)
      have hle : '0'.toNat ≤ c.toNat := hdigit.1
      omega
    rw [Nat.ofDigitChars_cons, Nat.ofDigitChars_eq_ofDigitChars_zero, Nat.mul_zero,
      Nat.zero_add] at hvalue
    have hpow : 10 ^ rest.length ≤ 255 := by
      have hmul := Nat.mul_le_mul_left (10 ^ rest.length) hfirst
      omega
    have hlength : rest.length < 3 := by
      refine (Nat.pow_lt_pow_iff_right (show 1 < 10 by decide)).mp ?_
      omega
    rw [List.length_cons]
    omega

theorem inetPton_dottedDecimal {text : List Char} (h : inetPton text = true) :
    DottedDecimal text := by
  simp only [inetPton, decide_eq_true_eq] at h
  obtain ⟨hfour, hall⟩ := h
  have hjoin : text = ['.'].intercalate (text.splitOn '.') := (List.intercalate_splitOn '.').symm
  generalize text.splitOn '.' = parts at hfour hall hjoin
  obtain ⟨a, b, c, d, rfl⟩ := List.length_eq_four.mp hfour
  simp only [List.all_cons, List.all_nil, Bool.and_true, Bool.and_eq_true] at hall
  obtain ⟨ha, hb, hc, hd⟩ := hall
  have hlength : ['.'].intercalate [a, b, c, d] = a ++ '.' :: (b ++ '.' :: (c ++ '.' :: d)) := by
    simp [List.intercalate, List.intersperse]
  have hdigits : ∀ {part : List Char}, isOctet part = true → ∀ ch ∈ part, ch.isDigit = true := by
    intro part hpart
    simp only [isOctet, decide_eq_true_eq] at hpart
    exact List.all_eq_true.mp hpart.2.1
  rw [hjoin, hlength]
  refine ⟨?_, ?_, ?_⟩
  · simp
  · have hla := isOctet_length ha
    have hlb := isOctet_length hb
    have hlc := isOctet_length hc
    have hld := isOctet_length hd
    simp only [List.length_append, List.length_cons]
    omega
  · intro ch hch
    simp only [List.mem_append, List.mem_cons] at hch
    rcases hch with hch | rfl | hch | rfl | hch | rfl | hch
    · exact .inl (hdigits ha ch hch)
    · exact .inr rfl
    · exact .inl (hdigits hb ch hch)
    · exact .inr rfl
    · exact .inl (hdigits hc ch hch)
    · exact .inr rfl
    · exact .inl (hdigits hd ch hch)

/-- A host on which every command succeeds and no route exists. -/
def idleHost : Host where
  inetPton := Platform.inetPton
  system _ := 0
  routeExists _ _ _ := false

/-- An address with a NUL and a command behind it: the command does not get through. -/
theorem commands_not_injectable_nul :
    Shell.simpleCommand "ifconfig eth0 10.0.0.2 netmask 255.0.0.0 up".toList =
      some (CommandRequest.applyIpv4 "eth0" "10.0.0.2\x00; reboot" "255.0.0.0").intended := by
  have hcall : (⟨"ifconfig eth0 10.0.0.2 netmask 255.0.0.0 up".toList,
      "ifconfig eth0 10.0.0.2 netmask 255.0.0.0 up".toList⟩ : SystemCall) ∈
      ((CommandRequest.applyIpv4 "eth0" "10.0.0.2\x00; reboot" "255.0.0.0").perform idleHost).calls := by
    decide +kernel
  have hwhole := commands_not_injectable idleHost (fun _ => inetPton_dottedDecimal) _ _ hcall
  rw [hwhole.1] at hwhole
  exact hwhole.2

end NetworkService.Platform
