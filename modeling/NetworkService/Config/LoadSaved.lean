import Mathlib.Data.List.DropRight
import NetworkService.Config.EthernetConfig

/-!
# What the configuration file keeps

The file has one line for each field and no way to escape a byte.  `load_ethernet_config` cuts it at
the newlines and trims every value, so a field comes back as it was saved exactly if it is a piece of
one line without blanks at its ends: whatever is loaded is of this kind, and what is of this kind is
loaded again.
-/

namespace NetworkService.Config

/-! ### Trimming -/

theorem trim_eq (value : List Char) : trim value = (value.dropWhile isBlank).rdropWhile isBlank := rfl

theorem mem_of_mem_trim {c : Char} {value : List Char} (h : c ∈ trim value) : c ∈ value := by
  rw [trim_eq] at h
  exact (List.dropWhile_suffix _).subset ((List.rdropWhile_prefix isBlank _).subset h)

/-- What is trimmed begins with no blank, also after its end was cut. -/
theorem dropWhile_trim (value : List Char) : (trim value).dropWhile isBlank = trim value := by
  rw [trim_eq, List.dropWhile_eq_self_iff]
  intro hlength hblank
  have hprefix := List.rdropWhile_prefix isBlank (value.dropWhile isBlank)
  have hfirst := hprefix.getElem hlength
  have hkept := List.dropWhile_eq_self_iff.mp (List.dropWhile_idempotent isBlank value)
    (Nat.lt_of_lt_of_le hlength hprefix.length_le)
  rw [← hfirst] at hkept
  exact hkept hblank

theorem trim_trim (value : List Char) : trim (trim value) = trim value := by
  show ((trim value).dropWhile isBlank).rdropWhile isBlank = trim value
  rw [dropWhile_trim, trim_eq, List.rdropWhile_idempotent]

theorem isBlank_head_trim {c : Char} {value : List Char} (h : c ∈ (trim value).head?) :
    isBlank c = false := by
  have hkept := dropWhile_trim value
  cases hvalue : trim value with
  | nil => rw [hvalue] at h; cases h
  | cons d rest =>
    rw [hvalue] at h hkept
    obtain rfl : d = c := Option.some.inj h
    exact Bool.eq_false_iff.mpr (List.dropWhile_eq_self_iff.mp hkept (Nat.succ_pos _))

theorem isBlank_last_trim {c : Char} {value : List Char} (h : c ∈ (trim value).getLast?) :
    isBlank c = false := by
  rw [trim_eq] at h
  obtain ⟨hne, rfl⟩ := List.mem_getLast?_eq_getLast h
  exact Bool.eq_false_iff.mpr (List.rdropWhile_last_not _ _ hne)

/-- What has no blank at its ends stays as it is. -/
theorem trim_eq_self {value : List Char} (hhead : ∀ c ∈ value.head?, isBlank c = false)
    (hlast : ∀ c ∈ value.getLast?, isBlank c = false) : trim value = value := by
  have hfront : value.dropWhile isBlank = value := by
    cases value with
    | nil => rfl
    | cons c value => exact List.dropWhile_cons_of_neg (by rw [hhead c rfl]; decide)
  rw [trim_eq, hfront, List.rdropWhile_eq_self_iff]
  exact fun hne => Bool.eq_false_iff.mp (hlast _ (List.getLast_mem_getLast? hne))

/-! ### Values of one line -/

/-- A value that a line of the file can hold: no newline and no blank at its ends. -/
def FitsLine (value : String) : Prop := '\n' ∉ value.toList ∧ trim value.toList = value.toList

instance (value : String) : Decidable (FitsLine value) := inferInstanceAs (Decidable (_ ∧ _))

theorem fitsLine_empty : FitsLine "" := by decide

/-- **Whatever comes off a line fits one.** -/
theorem fitsLine_trim {value : List Char} (h : '\n' ∉ value) :
    FitsLine (String.ofList (trim value)) := by
  unfold FitsLine
  rw [String.toList_ofList]
  exact ⟨fun hmem => h (mem_of_mem_trim hmem), trim_trim value⟩

theorem newline_not_mem_lines {text line : List Char} (h : line ∈ text.splitOn '\n') :
    '\n' ∉ line := by
  induction text generalizing line with
  | nil =>
    rw [List.splitOn_nil, List.mem_singleton] at h
    rw [h]
    exact List.not_mem_nil
  | cons c text ih =>
    rw [List.splitOn_cons_eq_if_modifyHead] at h
    split at h
    · rcases List.mem_cons.mp h with rfl | h
      · exact List.not_mem_nil
      · exact ih h
    · next hc =>
      have hne : '\n' ≠ c := fun heq => hc (by rw [heq]; exact beq_self_eq_true _)
      cases hlines : text.splitOn '\n' with
      | nil => exact absurd hlines (List.splitOn_ne_nil _ _)
      | cons first rest =>
        rw [hlines] at h
        rcases List.mem_cons.mp h with rfl | h
        · intro hmem
          rcases List.mem_cons.mp hmem with heq | hmem
          · exact hne heq
          · exact ih (by rw [hlines]; exact List.mem_cons_self) hmem
        · exact ih (by rw [hlines]; exact List.mem_cons_of_mem _ h)

/-- The addresses of a configuration fit their lines. -/
structure AddressesFit (config : EthernetConfig) : Prop where
  ip4 : FitsLine config.ip4
  netmask4 : FitsLine config.netmask4
  gateway4 : FitsLine config.gateway4
  dns4 : FitsLine config.dns4

/-- A choice between two configurations whose addresses fit. -/
theorem AddressesFit.ite {c : Prop} [Decidable c] {a b : EthernetConfig} (ha : AddressesFit a)
    (hb : AddressesFit b) : AddressesFit (if c then a else b) := by
  split
  · exact ha
  · exact hb

theorem AddressesFit.assign {config : EthernetConfig} (h : AddressesFit config) (key : String)
    {value : String} (hvalue : FitsLine value) :
    AddressesFit (Config.assign config key value) := by
  obtain ⟨hip, hmask, hgateway, hdns⟩ := h
  unfold Config.assign
  -- the keys in the order of the source
  refine .ite ⟨hip, hmask, hgateway, hdns⟩ (.ite ⟨hip, hmask, hgateway, hdns⟩ ?_)
  refine .ite ⟨hvalue, hmask, hgateway, hdns⟩ (.ite ⟨hip, hvalue, hgateway, hdns⟩ ?_)
  refine .ite ⟨hip, hmask, hvalue, hdns⟩ (.ite ⟨hip, hmask, hgateway, hvalue⟩ ?_)
  exact .ite ⟨hip, hmask, hgateway, hdns⟩ (.ite ⟨hip, hmask, hgateway, hdns⟩
    ⟨hip, hmask, hgateway, hdns⟩)

theorem AddressesFit.loadLine {config : EthernetConfig} (h : AddressesFit config)
    {line : List Char} (hline : '\n' ∉ line) : AddressesFit (loadLine config line) := by
  unfold Config.loadLine
  split
  · exact h
  · next value hrest =>
    refine h.assign _ (fitsLine_trim fun hmem => hline ?_)
    exact (List.dropWhile_suffix (· ≠ '=')).subset (hrest ▸ List.mem_cons_of_mem _ hmem)

/-- **The addresses that are loaded fit their lines**, whatever the file says. -/
theorem loaded_addressesFit (file : Option String) (iface : String) :
    AddressesFit (loadEthernetConfig file iface) := by
  cases file with
  | none => exact ⟨fitsLine_empty, fitsLine_empty, fitsLine_empty, fitsLine_empty⟩
  | some text =>
    have hlines : ∀ (lines : List (List Char)) (config : EthernetConfig),
        (∀ line ∈ lines, '\n' ∉ line) → AddressesFit config →
        AddressesFit (lines.foldl Config.loadLine config) := by
      intro lines
      induction lines with
      | nil => exact fun config _ h => h
      | cons line lines ih =>
        intro config hall h
        exact ih _ (fun l hl => hall l (List.mem_cons_of_mem _ hl))
          (h.loadLine (hall line List.mem_cons_self))
    have hfold := hlines (text.toList.splitOn '\n') { iface := defaultIface iface }
      (fun line => newline_not_mem_lines)
      ⟨fitsLine_empty, fitsLine_empty, fitsLine_empty, fitsLine_empty⟩
    unfold loadEthernetConfig
    dsimp only
    generalize (text.toList.splitOn '\n').foldl Config.loadLine _ = config at hfold ⊢
    have hnamed : AddressesFit
        (if config.iface = "" then { config with iface := defaultIface iface } else config) :=
      .ite ⟨hfold.ip4, hfold.netmask4, hfold.gateway4, hfold.dns4⟩ hfold
    exact .ite ⟨hnamed.ip4, hnamed.netmask4, hnamed.gateway4, hnamed.dns4⟩ hnamed

/-! ### Reading a saved configuration -/

/-- The lines of a saved configuration, as keys and values. -/
def savedEntries (config : EthernetConfig) : List (String × String) :=
  [("iface", config.iface), ("method", config.method), ("ip4", config.ip4),
    ("netmask4", config.netmask4), ("gateway4", config.gateway4), ("dns4", config.dns4),
    ("route_metric", toString config.routeMetric),
    ("dns_enabled", if config.dnsEnabled then "1" else "0")]

def entryLine (entry : String × String) : List Char := entry.1.toList ++ '=' :: entry.2.toList

theorem serializeEthernetConfig_entries (config : EthernetConfig) :
    (serializeEthernetConfig config).toList =
      (savedEntries config).flatMap fun entry => entryLine entry ++ ['\n'] := by
  unfold serializeEthernetConfig savedEntries entryLine
  rw [show "iface=" = "iface" ++ "=" by decide, show "method=" = "method" ++ "=" by decide,
    show "ip4=" = "ip4" ++ "=" by decide, show "netmask4=" = "netmask4" ++ "=" by decide,
    show "gateway4=" = "gateway4" ++ "=" by decide, show "dns4=" = "dns4" ++ "=" by decide,
    show "route_metric=" = "route_metric" ++ "=" by decide,
    show "dns_enabled=" = "dns_enabled" ++ "=" by decide]
  simp only [String.toList_append, List.flatMap_cons, List.flatMap_nil, List.append_assoc,
    List.append_nil, List.cons_append, show "=".toList = ['='] by decide,
    show "\n".toList = ['\n'] by decide, List.nil_append]

theorem loadLine_entryLine (config : EthernetConfig) {key value : String} (hequals : '=' ∉ key.toList)
    (hkey : FitsLine key) (hvalue : FitsLine value) :
    loadLine config (entryLine (key, value)) = assign config key value := by
  have hall : ∀ c ∈ key.toList, decide (c ≠ '=') = true := by
    intro c hc
    exact decide_eq_true fun heq => hequals (heq ▸ hc)
  unfold loadLine entryLine
  rw [List.dropWhile_append_of_pos hall, List.takeWhile_append_of_pos hall,
    List.dropWhile_cons_of_neg (by decide), List.takeWhile_cons_of_neg (by decide), List.append_nil]
  dsimp only
  rw [hkey.2, hvalue.2, String.ofList_toList, String.ofList_toList]

/-- **Entries that fit their lines are assigned as they are.** -/
theorem foldl_loadLine_entries (entries : List (String × String))
    (hfit : ∀ entry ∈ entries, '=' ∉ entry.1.toList ∧ FitsLine entry.1 ∧ FitsLine entry.2)
    (config : EthernetConfig) :
    ((entries.flatMap fun entry => entryLine entry ++ ['\n']).splitOn '\n').foldl loadLine config =
      entries.foldl (fun config entry => assign config entry.1 entry.2) config := by
  induction entries generalizing config with
  | nil => rfl
  | cons entry entries ih =>
    obtain ⟨hequals, hkey, hvalue⟩ := hfit entry List.mem_cons_self
    have hline : '\n' ∉ entryLine entry := by
      intro hmem
      rcases List.mem_append.mp hmem with hmem | hmem
      · exact hkey.1 hmem
      · rcases List.mem_cons.mp hmem with heq | hmem
        · exact absurd heq (by decide)
        · exact hvalue.1 hmem
    rw [List.flatMap_cons, List.append_assoc, List.singleton_append,
      List.splitOn_append_cons_self_of_not_mem hline, List.foldl_cons, List.foldl_cons,
      loadLine_entryLine config hequals hkey hvalue]
    exact ih (fun e he => hfit e (List.mem_cons_of_mem _ he)) _

/-! ### The metric -/

theorem decimal_toDigits (n : Nat) : decimal (Nat.toDigits 10 n) = n := by
  show Nat.ofDigitChars 10 (Nat.toDigits 10 n) 0 = n
  exact Nat.ofDigitChars_ten_toDigits

theorem clampInt_of_int32 {value : Int} (hlow : -2147483648 ≤ value) (hhigh : value ≤ 2147483647) :
    clampInt value = value := by
  unfold clampInt
  omega

theorem isSpace_of_isDigit {c : Char} (h : c.isDigit = true) : isSpace c = false := by
  rw [Char.isDigit_iff_toNat, show '0'.toNat = 48 from rfl] at h
  have hne : ∀ d : Char, d.toNat < 48 → ¬c = d := by
    rintro d hd rfl
    omega
  unfold isSpace
  simp [hne]

theorem isBlank_of_isDigit {c : Char} (h : c.isDigit = true) : isBlank c = false := by
  have hspace := isSpace_of_isDigit h
  unfold isSpace at hspace
  unfold isBlank
  simp at hspace ⊢
  exact ⟨hspace.1, hspace.2.1, hspace.2.2.2.2.2, hspace.2.2.1⟩

theorem fitsLine_of_noBlank {value : String} (h : ∀ c ∈ value.toList, isBlank c = false) :
    FitsLine value := by
  have hdrop : ∀ l : List Char, (∀ c ∈ l, isBlank c = false) → l.dropWhile isBlank = l := by
    intro l hl
    cases l with
    | nil => rfl
    | cons c l => exact List.dropWhile_cons_of_neg (by rw [hl c List.mem_cons_self]; decide)
  refine ⟨fun hmem => absurd (h _ hmem) (by decide), ?_⟩
  show ((value.toList.dropWhile isBlank).reverse.dropWhile isBlank).reverse = value.toList
  rw [hdrop _ h, hdrop _ fun c hc => h c (List.mem_reverse.mp hc), List.reverse_reverse]

/-- The digits of a metric, read back. -/
theorem decimal_takeWhile_toDigits (n : Nat) :
    decimal ((Nat.toDigits 10 n).takeWhile Char.isDigit) = n := by
  rw [List.takeWhile_eq_self_iff.mpr fun c hc =>
    Nat.isDigit_of_mem_toDigits (by decide) (by decide) hc]
  exact decimal_toDigits n

theorem atoi_toDigits (n : Nat) : atoi (Nat.toDigits 10 n) = clampInt n := by
  have hdigits : ∀ c ∈ Nat.toDigits 10 n, c.isDigit = true := fun c hc =>
    Nat.isDigit_of_mem_toDigits (by decide) (by decide) hc
  have hvalue := decimal_takeWhile_toDigits n
  unfold atoi
  cases htext : Nat.toDigits 10 n with
  | nil => exact absurd htext Nat.toDigits_ne_nil
  | cons c text =>
    rw [htext] at hdigits hvalue
    have hc := hdigits c List.mem_cons_self
    rw [List.dropWhile_cons_of_neg (by rw [isSpace_of_isDigit hc]; decide)]
    split
    · next hminus =>
      rw [(List.cons.inj hminus).1] at hc
      exact absurd hc (by decide)
    · next hplus =>
      rw [(List.cons.inj hplus).1] at hc
      exact absurd hc (by decide)
    · rw [hvalue]

/-- **`atoi` reads back the metric that was printed**, as far as an `int` reaches. -/
theorem atoi_toString {metric : Int} (hlow : -2147483648 ≤ metric) (hhigh : metric ≤ 2147483647) :
    atoi (toString metric).toList = metric := by
  rw [Int.toString_eq_repr, Int.repr_eq_if]
  split
  · next hsign =>
    rw [Nat.toList_repr, atoi_toDigits, Int.toNat_of_nonneg hsign]
    exact clampInt_of_int32 hlow hhigh
  · next hsign =>
    rw [String.toList_append, Nat.toList_repr]
    show clampInt (-(decimal ((Nat.toDigits 10 (-metric).toNat).takeWhile Char.isDigit) : Int)) = _
    rw [decimal_takeWhile_toDigits, Int.toNat_of_nonneg (by omega), Int.neg_neg]
    exact clampInt_of_int32 hlow hhigh

theorem noBlank_toString (value : Int) : ∀ c ∈ (toString value).toList, isBlank c = false := by
  have hdigits : ∀ (n : Nat), ∀ c ∈ Nat.toDigits 10 n, isBlank c = false := fun n c hc =>
    isBlank_of_isDigit (Nat.isDigit_of_mem_toDigits (by decide) (by decide) hc)
  intro c hc
  rw [Int.toString_eq_repr, Int.repr_eq_if] at hc
  split at hc
  · rw [Nat.toList_repr] at hc
    exact hdigits _ c hc
  · rw [String.toList_append, Nat.toList_repr] at hc
    rcases List.mem_append.mp hc with hc | hc
    · obtain rfl := List.mem_singleton.mp hc
      decide
    · exact hdigits _ c hc

theorem fitsLine_metric (metric : Int) : FitsLine (toString metric) :=
  fitsLine_of_noBlank (noBlank_toString metric)

/-! ### The round trip -/

/-- A configuration that says what it can: its method is one of the two, its metric is an `int`,
and its interface has a name that fits a line. -/
structure Saveable (config : EthernetConfig) : Prop where
  named : config.iface ≠ ""
  iface : FitsLine config.iface
  method : config.method = "static" ∨ config.method = "dhcp"
  low : -2147483648 ≤ config.routeMetric
  high : config.routeMetric ≤ 2147483647

/-- **A saved configuration is loaded as it was exactly if its addresses fit their lines.** -/
theorem load_serialize_iff {config : EthernetConfig} (h : Saveable config) (iface : String) :
    loadEthernetConfig (some (serializeEthernetConfig config)) iface = config ↔
      AddressesFit config := by
  refine ⟨fun hload => hload ▸ loaded_addressesFit _ _, fun hfit => ?_⟩
  have hmethod : FitsLine config.method := by
    rcases h.method with hm | hm <;> rw [hm] <;> decide
  have hflag : FitsLine (if config.dnsEnabled then "1" else "0") := by
    split <;> decide
  have hentries : ∀ entry ∈ savedEntries config,
      '=' ∉ entry.1.toList ∧ FitsLine entry.1 ∧ FitsLine entry.2 := by
    unfold savedEntries
    simp only [List.forall_mem_cons, List.not_mem_nil, false_imp_iff, implies_true, and_true]
    refine ⟨?_, ?_, ?_, ?_, ?_, ?_, ?_, ?_⟩
    · exact ⟨by decide, by decide, h.iface⟩
    · exact ⟨by decide, by decide, hmethod⟩
    · exact ⟨by decide, by decide, hfit.ip4⟩
    · exact ⟨by decide, by decide, hfit.netmask4⟩
    · exact ⟨by decide, by decide, hfit.gateway4⟩
    · exact ⟨by decide, by decide, hfit.dns4⟩
    · exact ⟨by decide, by decide, fitsLine_metric _⟩
    · exact ⟨by decide, by decide, hflag⟩
  have hassigned : (savedEntries config).foldl (fun c entry => assign c entry.1 entry.2)
      { iface := defaultIface iface } = config := by
    have hmetric := atoi_toString h.low h.high
    rw [Int.toString_eq_repr] at hmetric
    simp [savedEntries, assign, hmetric]
  unfold loadEthernetConfig
  dsimp only
  rw [serializeEthernetConfig_entries, foldl_loadLine_entries _ hentries, hassigned,
    if_neg h.named]
  rcases h.method with hm | hm
  · rw [if_neg (by rw [hm]; decide)]
  · rw [if_pos (by rw [hm]; decide), ← hm]

end NetworkService.Config
