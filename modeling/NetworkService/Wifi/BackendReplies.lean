import Mathlib.Data.List.GetD
import NetworkService.Config.LoadSaved
import NetworkService.Ipc.Representation
import NetworkService.Wifi.EventMonitor
import NetworkService.Wifi.SupplicantProfiles

/-!
# What the backend reads off a reply

wpa_supplicant answers SCAN_RESULTS and LIST_NETWORKS with a header line and one line for each
record, whose fields stand between tabs.  The backend trims a line before it cuts it at the tabs, so
the blanks at the ends of the first and the last field are gone, and with an empty field its tab; and
it looks for the words of a flag list with a search that does not see the brackets around them.  A
`char` is a character here, so the texts of bytes are those whose characters are below 256.
-/

namespace NetworkService.Wifi.BackendReplies

open Config Ipc Search

/-! ### The parsers -/

/-- The lines behind the header, trimmed; the header is the first line that is not blank. -/
def replyRows (output : String) : List (List Char) :=
  (((output.toList.splitOn '\n').map trim).filter (· ≠ [])).tail

def splitTabLine (line : List Char) : List String := (line.splitOn '\t').map String.ofList

def readScanRow (line : List Char) : Option WifiApRecord :=
  match splitTabLine line with
  | bssid :: frequency :: signal :: flags :: ssid :: _ =>
    some { bssid, frequency := atoi frequency.toList, signalDbm := atoi signal.toList, flags, ssid }
  | _ => none

def parseScanResults (output : String) : List WifiApRecord :=
  (replyRows output).filterMap readScanRow

def parseSavedFlags (flags : String) (record : WifiSavedNetwork) : WifiSavedNetwork :=
  { record with
    isCurrent := mentions flags "CURRENT"
    isDisabled := mentions flags "DISABLED"
    isTempDisabled := mentions flags "TEMP-DISABLED"
    autoconnect := !mentions flags "DISABLED" }

/-- A row without a third or a fourth field has an empty one there. -/
def readSavedNetwork (line : List Char) : Option WifiSavedNetwork :=
  match splitTabLine line with
  | networkId :: ssid :: rest =>
    (parseNetworkId networkId).map fun networkId =>
      parseSavedFlags (rest.getD 1 "")
        { networkId, ssid, bssid := rest.getD 0 "", flags := rest.getD 1 "" }
  | _ => none

def parseSavedNetworks (output : String) : List WifiSavedNetwork :=
  (replyRows output).filterMap readSavedNetwork

/-- The look-up of a profile by its name reads the ids and names of these records. -/
theorem parseSavedNetworks_names (output : String) :
    (Wifi.parseSavedNetworks output).map (fun profile => ((profile.1 : Int), profile.2)) =
      (parseSavedNetworks output).map fun record => (record.networkId, record.ssid) := by
  show ((replyRows output).filterMap Wifi.readSavedNetwork).map _ =
    ((replyRows output).filterMap readSavedNetwork).map _
  rw [List.map_filterMap, List.map_filterMap]
  congr 1
  funext line
  unfold Wifi.readSavedNetwork readSavedNetwork splitTabLine
  rcases line.splitOn '\t' with _ | ⟨networkId, _ | ⟨ssid, rest⟩⟩
  · rfl
  · rfl
  · simp only [List.map_cons]
    cases parseNetworkId (String.ofList networkId) <;> rfl

/-! ### Replies -/

/-- A header: one line that is not blank. -/
structure HeaderLine where
  line : List Char
  oneLine : '\n' ∉ line
  visible : trim line ≠ []

/-- A field of a row. -/
def IsField (field : String) : Prop := '\t' ∉ field.toList ∧ '\n' ∉ field.toList

instance (field : String) : Decidable (IsField field) := inferInstanceAs (Decidable (_ ∧ _))

def replyText (header : HeaderLine) (rows : List (List Char)) : String :=
  String.ofList (header.line ++ '\n' :: rows.flatMap (· ++ ['\n']))

def tabbed (fields : List String) : List Char := ['\t'].intercalate (fields.map String.toList)

theorem splitOn_rows (rows : List (List Char)) (hrows : ∀ row ∈ rows, '\n' ∉ row) :
    (rows.flatMap (· ++ ['\n'])).splitOn '\n' = rows ++ [[]] := by
  induction rows with
  | nil => rfl
  | cons row rows ih =>
    rw [List.flatMap_cons, List.append_assoc, List.singleton_append,
      List.splitOn_append_cons_self_of_not_mem (hrows row List.mem_cons_self),
      ih fun r hr => hrows r (List.mem_cons_of_mem _ hr), List.cons_append]

theorem replyRows_replyText (header : HeaderLine) {rows : List (List Char)}
    (hrows : ∀ row ∈ rows, '\n' ∉ row) :
    replyRows (replyText header rows) = (rows.map trim).filter (· ≠ []) := by
  unfold replyRows replyText
  rw [String.toList_ofList, List.splitOn_append_cons_self_of_not_mem header.oneLine,
    splitOn_rows rows hrows, List.map_cons, List.filter_cons_of_pos (by simp [header.visible]),
    List.tail_cons, List.map_append, List.filter_append]
  exact List.append_nil _

/-- **Row by row**: a reader that takes nothing from an empty row reads the trimmed rows. -/
theorem filterMap_replyRows {Record : Type} {read : List Char → Option Record}
    (hnil : read [] = none) (header : HeaderLine) {rows : List (List Char)}
    (hrows : ∀ row ∈ rows, '\n' ∉ row) :
    (replyRows (replyText header rows)).filterMap read = rows.filterMap fun row => read (trim row) := by
  rw [replyRows_replyText header hrows, List.filterMap_filter, List.filterMap_map]
  congr 1
  funext row
  show (if decide (trim row ≠ []) = true then read (trim row) else none) = read (trim row)
  split
  · rfl
  · next hempty =>
    rw [show trim row = [] by simpa using hempty, hnil]

theorem newline_not_mem_tabbed {fields : List String} (h : ∀ field ∈ fields, '\n' ∉ field.toList) :
    '\n' ∉ tabbed fields := by
  unfold tabbed
  intro hmem
  induction fields with
  | nil => exact List.not_mem_nil hmem
  | cons field fields ih =>
    cases fields with
    | nil => exact h field List.mem_cons_self (by simpa using hmem)
    | cons next fields =>
      rw [List.map_cons, List.map_cons, List.intercalate_cons_cons, ← List.map_cons] at hmem
      rcases List.mem_append.mp hmem with hmem | hmem
      · rcases List.mem_append.mp hmem with hmem | hmem
        · exact h field List.mem_cons_self hmem
        · exact absurd (List.mem_singleton.mp hmem) (by decide)
      · exact ih (fun f hf => h f (List.mem_cons_of_mem _ hf)) hmem

theorem splitTabLine_tabbed {fields : List String} (hne : fields ≠ [])
    (h : ∀ field ∈ fields, '\t' ∉ field.toList) : splitTabLine (tabbed fields) = fields := by
  unfold splitTabLine tabbed
  rw [List.splitOn_intercalate '\t' (by simpa using h) (by simpa using hne), List.map_map]
  exact (List.map_congr_left fun field _ => String.ofList_toList).trans (List.map_id _)

theorem length_splitOn (line : List Char) (sep : Char) :
    (line.splitOn sep).length = line.count sep + 1 := by
  induction line with
  | nil => rfl
  | cons c line ih =>
    rw [List.splitOn_cons_eq_if_modifyHead, List.count_cons]
    split
    · rw [List.length_cons, ih]
    · rw [List.length_modifyHead, ih]

/-- What begins with no blank is trimmed at its end only, and there no further than to its last
character that is no blank. -/
theorem trim_append {front back : List Char} (hhead : ∃ c ∈ front.head?, isBlank c = false)
    (hvisible : ∃ c ∈ back, isBlank c = false) : trim (front ++ back) = front ++ back.rdropWhile isBlank := by
  obtain ⟨first, hfirst, hfirstBlank⟩ := hhead
  obtain ⟨c, hc, hcBlank⟩ := hvisible
  obtain ⟨rest, rfl⟩ := List.head?_eq_some_iff.mp hfirst
  rw [trim_eq, List.cons_append, List.dropWhile_cons_of_neg (by rw [hfirstBlank]; decide),
    ← List.cons_append]
  unfold List.rdropWhile
  rw [List.reverse_append, List.dropWhile_append, if_neg, List.reverse_append, List.reverse_reverse]
  intro hempty
  rw [List.isEmpty_iff, List.dropWhile_eq_nil_iff] at hempty
  exact absurd (hempty c (List.mem_reverse.mpr hc)) (by rw [hcBlank]; decide)

theorem trim_append_blank {front back : List Char} (hback : ∀ c ∈ back, isBlank c = true) :
    trim (front ++ back) = trim front := by
  cases hfront : (front.dropWhile isBlank).isEmpty with
  | true =>
    rw [trim_eq, trim_eq, List.dropWhile_append, if_pos hfront, List.dropWhile_eq_nil_iff.mpr hback,
      List.isEmpty_iff.mp hfront]
  | false =>
    rw [trim_eq, trim_eq, List.dropWhile_append, if_neg (by rw [hfront]; decide)]
    unfold List.rdropWhile
    rw [List.reverse_append, List.dropWhile_append, if_pos]
    rw [List.isEmpty_iff, List.dropWhile_eq_nil_iff]
    exact fun c hc => hback c (List.mem_reverse.mp hc)

theorem count_trim_le (line : List Char) (c : Char) : (trim line).count c ≤ line.count c := by
  rw [trim_eq]
  exact ((List.rdropWhile_prefix isBlank _).sublist.trans (List.dropWhile_sublist isBlank)).count_le c

/-! ### Scan results -/

/-- An access point as wpa_supplicant reports it: its texts are fields, its numbers fit an `int`. -/
structure AccessPoint extends WifiApRecord where
  bssidField : IsField bssid
  flagsField : IsField flags
  ssidField : IsField ssid
  frequencyLow : -2147483648 ≤ frequency
  frequencyHigh : frequency ≤ 2147483647
  signalLow : -2147483648 ≤ signalDbm
  signalHigh : signalDbm ≤ 2147483647

namespace AccessPoint

def fields (ap : AccessPoint) : List String :=
  [ap.bssid, toString ap.frequency, toString ap.signalDbm, ap.flags, ap.ssid]

/-- The ends of the line are no blanks. -/
structure Kept (ap : AccessPoint) : Prop where
  first : ∃ c ∈ ap.bssid.toList.head?, isBlank c = false
  last : ∃ c ∈ ap.ssid.toList.getLast?, isBlank c = false

theorem isField_number (value : Int) : IsField (toString value) := by
  have hblank := noBlank_toString value
  exact ⟨fun hmem => absurd (hblank _ hmem) (by decide), fun hmem => absurd (hblank _ hmem) (by decide)⟩

theorem isField_fields (ap : AccessPoint) : ∀ field ∈ ap.fields, IsField field := by
  unfold fields
  simp only [List.forall_mem_cons, List.not_mem_nil, false_imp_iff, implies_true, and_true]
  exact ⟨ap.bssidField, isField_number _, isField_number _, ap.flagsField, ap.ssidField⟩

theorem splitTabLine_fields (ap : AccessPoint) : splitTabLine (tabbed ap.fields) = ap.fields :=
  splitTabLine_tabbed (List.cons_ne_nil _ _) fun field hfield => (ap.isField_fields field hfield).1

theorem readScanRow_fields (ap : AccessPoint) :
    readScanRow (tabbed ap.fields) = some ap.toWifiApRecord := by
  unfold readScanRow
  rw [ap.splitTabLine_fields]
  unfold fields
  dsimp only
  rw [atoi_toString ap.frequencyLow ap.frequencyHigh, atoi_toString ap.signalLow ap.signalHigh]

theorem trim_fields {ap : AccessPoint} (h : ap.Kept) : trim (tabbed ap.fields) = tabbed ap.fields := by
  obtain ⟨⟨first, hfirst, hfirstBlank⟩, last, hlast, hlastBlank⟩ := h
  have hline : tabbed ap.fields = ap.bssid.toList ++ '\t' :: (toString ap.frequency).toList ++
      '\t' :: (toString ap.signalDbm).toList ++ '\t' :: ap.flags.toList ++ '\t' :: ap.ssid.toList := by
    simp [tabbed, fields, List.intercalate_cons_cons]
  refine trim_eq_self (fun c hc => ?_) fun c hc => ?_
  · obtain ⟨rest, hbssid⟩ : ∃ rest, ap.bssid.toList = first :: rest := List.head?_eq_some_iff.mp hfirst
    rw [hline, hbssid] at hc
    obtain rfl : first = c := Option.some.inj hc
    exact hfirstBlank
  · rw [hline, List.getLast?_append, List.getLast?_cons, hlast] at hc
    obtain rfl : last = c := Option.some.inj hc
    exact hlastBlank

/-- A row that is read as the record lost nothing to trimming: it has its four tabs, and with no
blank at its ends there is text before the first and behind the last. -/
theorem kept_of_readScanRow {ap : AccessPoint}
    (h : readScanRow (trim (tabbed ap.fields)) = some ap.toWifiApRecord) : ap.Kept := by
  have htabs := count_trim_le (tabbed ap.fields) '\t'
  have hlength : (splitTabLine (tabbed ap.fields)).length = 5 :=
    congrArg List.length ap.splitTabLine_fields
  unfold splitTabLine at hlength
  rw [List.length_map, length_splitOn] at hlength
  have hpieces := length_splitOn (trim (tabbed ap.fields)) '\t'
  have hline : List.intercalate ['\t'] ((trim (tabbed ap.fields)).splitOn '\t') =
      trim (tabbed ap.fields) := List.intercalate_splitOn '\t'
  unfold readScanRow splitTabLine at h
  generalize (trim (tabbed ap.fields)).splitOn '\t' = pieces at h hpieces hline
  match pieces with
  | bssid :: frequency :: signal :: flags :: ssid :: rest =>
    obtain rfl : rest = [] := List.eq_nil_of_length_eq_zero (by
      simp only [List.length_cons] at hpieces
      omega)
    simp only [List.map_cons, Option.some.injEq] at h
    have hline : trim (tabbed ap.fields) = bssid ++ '\t' :: frequency ++ '\t' :: signal ++
        '\t' :: flags ++ '\t' :: ssid := by
      rw [← hline]
      simp [List.intercalate_cons_cons]
    refine ⟨?_, ?_⟩
    · rw [← h, String.toList_ofList]
      cases bssid with
      | nil => exact absurd (isBlank_head_trim (c := '\t') (by rw [hline]; rfl)) (by decide)
      | cons c bssid => exact ⟨c, rfl, isBlank_head_trim (by rw [hline]; rfl)⟩
    · rw [← h, String.toList_ofList]
      cases hlast : ssid.getLast? with
      | none =>
        rw [List.getLast?_eq_none_iff] at hlast
        have htab : '\t' ∈ (trim (tabbed ap.fields)).getLast? := by
          rw [hline, hlast, List.getLast?_append]
          rfl
        exact absurd (isBlank_last_trim htab) (by decide)
      | some c =>
        have hc : c ∈ (trim (tabbed ap.fields)).getLast? := by
          rw [hline, List.getLast?_append, List.getLast?_cons, hlast]
          rfl
        exact ⟨c, rfl, isBlank_last_trim hc⟩
  | [] | [_] | [_, _] | [_, _, _] | [_, _, _, _] => cases h

end AccessPoint

/-- The reply to SCAN_RESULTS. -/
def scanResultsReply (header : HeaderLine) (aps : List AccessPoint) : String :=
  replyText header (aps.map fun ap => tabbed ap.fields)

/-- **Scan results are read back exactly if no line has a blank at its ends**: of every access point
the address is not empty and begins with no blank, the name is not empty and ends with none. -/
theorem parseScanResults_exact (header : HeaderLine) (aps : List AccessPoint) :
    parseScanResults (scanResultsReply header aps) = aps.map AccessPoint.toWifiApRecord ↔
      ∀ ap ∈ aps, ap.Kept := by
  have hrows : ∀ row ∈ aps.map fun ap => tabbed ap.fields, '\n' ∉ row := by
    intro row hrow
    obtain ⟨ap, -, rfl⟩ := List.mem_map.mp hrow
    exact newline_not_mem_tabbed fun field hfield => (ap.isField_fields field hfield).2
  unfold parseScanResults scanResultsReply
  rw [filterMap_replyRows rfl header hrows, List.filterMap_map,
    List.filterMap_eq_map_iff_forall_eq_some]
  simp only [Function.comp_apply]
  refine forall₂_congr fun ap _ => ⟨AccessPoint.kept_of_readScanRow, fun hkept => ?_⟩
  rw [AccessPoint.trim_fields hkept, ap.readScanRow_fields]

def scanHeader : HeaderLine where
  line := "bssid / frequency / signal level / flags / ssid".toList
  oneLine := by decide
  visible := by decide

/-- A network that hides its name. -/
def hiddenNetwork : AccessPoint where
  bssid := "02:00:00:00:01:00"
  frequency := 2412
  signalDbm := -40
  flags := "[WPA2-PSK-CCMP][ESS]"
  ssid := ""
  bssidField := by decide
  flagsField := by decide
  ssidField := by decide
  frequencyLow := by decide
  frequencyHigh := by decide
  signalLow := by decide
  signalHigh := by decide

/-- The hidden network is not among the records. -/
theorem parseScanResults_loses_hidden :
    parseScanResults (scanResultsReply scanHeader [hiddenNetwork]) ≠
      [hiddenNetwork].map AccessPoint.toWifiApRecord := by
  decide +kernel

/-! ### Saved networks -/

/-- The words that the daemon looks for in a list of flags. -/
def flagWords : List String := ["CURRENT", "DISABLED", "TEMP-DISABLED"]

/-- A saved network as wpa_supplicant lists it, with the words of its flags. -/
structure SavedEntry where
  networkId : ℕ
  ssid : String
  bssid : String
  tokens : List String
  networkIdMax : networkId ≤ 4096
  ssidField : IsField ssid
  bssidField : IsField bssid
  tokensPlain : ∀ token ∈ tokens, IsField token ∧ '[' ∉ token.toList ∧ ']' ∉ token.toList

/-- What is read off the flags of a saved network. -/
structure SavedReading where
  networkId : Int
  isCurrent : Bool
  isDisabled : Bool
  isTempDisabled : Bool
  autoconnect : Bool
  deriving DecidableEq

def readingOf (record : WifiSavedNetwork) : SavedReading where
  networkId := record.networkId
  isCurrent := record.isCurrent
  isDisabled := record.isDisabled
  isTempDisabled := record.isTempDisabled
  autoconnect := record.autoconnect

namespace SavedEntry

def flags (entry : SavedEntry) : String :=
  String.ofList (entry.tokens.flatMap fun token => '[' :: token.toList ++ [']'])

def fields (entry : SavedEntry) : List String :=
  [toString entry.networkId, entry.ssid, entry.bssid, entry.flags]

/-- What the words of the flags say. -/
def reading (entry : SavedEntry) : SavedReading where
  networkId := entry.networkId
  isCurrent := decide ("CURRENT" ∈ entry.tokens)
  isDisabled := decide ("DISABLED" ∈ entry.tokens)
  isTempDisabled := decide ("TEMP-DISABLED" ∈ entry.tokens)
  autoconnect := decide ("DISABLED" ∉ entry.tokens)

/-- Something stands behind the id, and a word of interest that stands inside a token is itself one
of the tokens. -/
structure ReadRight (entry : SavedEntry) : Prop where
  visible : ∃ c ∈ entry.ssid.toList ++ entry.bssid.toList ++ entry.flags.toList, isBlank c = false
  unshadowed : ∀ word ∈ flagWords, (∃ token ∈ entry.tokens, word.toList <:+: token.toList) →
    word ∈ entry.tokens

theorem mentions_flags (entry : SavedEntry) {word : String} (hne : word.toList ≠ [])
    (hopen : '[' ∉ word.toList) (hclose : ']' ∉ word.toList) :
    mentions entry.flags word = true ↔ ∃ token ∈ entry.tokens, word.toList <:+: token.toList := by
  unfold mentions flags
  rw [decide_eq_true_iff, String.toList_ofList]
  induction entry.tokens with
  | nil => simpa using hne
  | cons token tokens ih =>
    rw [List.flatMap_cons, List.append_assoc, List.cons_append, List.singleton_append,
      ← List.nil_append ('[' :: _), infix_append_cons_iff hopen, infix_append_cons_iff hclose, ih]
    simp only [List.mem_cons, exists_eq_or_imp, List.infix_nil, hne, false_or]

theorem isField_flags (entry : SavedEntry) : IsField entry.flags := by
  have hmem : ∀ c, c ≠ '[' → c ≠ ']' → (∀ token ∈ entry.tokens, c ∉ token.toList) →
      c ∉ entry.flags.toList := by
    intro c hopen hclose hplain hc
    unfold flags at hc
    rw [String.toList_ofList, List.mem_flatMap] at hc
    obtain ⟨token, htoken, hc⟩ := hc
    rcases List.mem_cons.mp hc with hc | hc
    · exact hopen hc
    · rcases List.mem_append.mp hc with hc | hc
      · exact hplain token htoken hc
      · exact hclose (List.mem_singleton.mp hc)
  exact ⟨hmem _ (by decide) (by decide) fun token h => (entry.tokensPlain token h).1.1,
    hmem _ (by decide) (by decide) fun token h => (entry.tokensPlain token h).1.2⟩

theorem isField_fields (entry : SavedEntry) : ∀ field ∈ entry.fields, IsField field := by
  unfold fields
  simp only [List.forall_mem_cons, List.not_mem_nil, false_imp_iff, implies_true, and_true]
  exact ⟨AccessPoint.isField_number entry.networkId, entry.ssidField, entry.bssidField,
    entry.isField_flags⟩

/-- The line behind the id. -/
def body (entry : SavedEntry) : List Char :=
  entry.ssid.toList ++ '\t' :: entry.bssid.toList ++ '\t' :: entry.flags.toList

theorem tabbed_fields (entry : SavedEntry) :
    tabbed entry.fields = (toString entry.networkId).toList ++ '\t' :: entry.body := by
  simp [tabbed, fields, body, List.intercalate_cons_cons]

theorem splitOn_body (entry : SavedEntry) :
    entry.body.splitOn '\t' = [entry.ssid.toList, entry.bssid.toList, entry.flags.toList] := by
  unfold body
  rw [List.append_assoc, List.cons_append,
    List.splitOn_append_cons_self_of_not_mem entry.ssidField.1,
    List.splitOn_append_cons_self_of_not_mem entry.bssidField.1,
    List.splitOn_eq_singleton entry.isField_flags.1]

/-- The flags are found where they were, also when they are empty and their tab was trimmed. -/
theorem flags_rdropWhile (entry : SavedEntry) :
    ((entry.body.rdropWhile isBlank).splitOn '\t').getD 2 [] = entry.flags.toList := by
  rcases List.eq_nil_or_concat entry.tokens with hnone | ⟨tokens, token, htokens⟩
  · have hflags : entry.flags.toList = [] := by
      unfold flags
      rw [hnone, String.toList_ofList]
      rfl
    have hbody : entry.body.rdropWhile isBlank =
        (entry.ssid.toList ++ '\t' :: entry.bssid.toList).rdropWhile isBlank := by
      unfold body
      rw [hflags]
      exact List.rdropWhile_concat_pos isBlank _ _ rfl
    have hcount := (List.rdropWhile_prefix isBlank
      (entry.ssid.toList ++ '\t' :: entry.bssid.toList)).sublist.count_le '\t'
    rw [List.count_append, List.count_cons_self, List.count_eq_zero.mpr entry.ssidField.1,
      List.count_eq_zero.mpr entry.bssidField.1] at hcount
    rw [hbody, hflags, List.getD_eq_default]
    rw [length_splitOn]
    omega
  · have hflags : entry.flags.toList =
        (tokens.flatMap fun token => '[' :: token.toList ++ [']']) ++ '[' :: token.toList ++ [']'] := by
      simp [flags, htokens]
    have hbody : entry.body.rdropWhile isBlank = entry.body := by
      unfold body
      rw [hflags, ← List.cons_append, ← List.append_assoc]
      exact List.rdropWhile_concat_neg isBlank _ _ (by decide)
    rw [hbody, entry.splitOn_body]
    rfl

theorem first_digit (networkId : ℕ) :
    ∃ c ∈ (toString networkId).toList.head?, c.isDigit = true := by
  show ∃ c ∈ (Nat.repr networkId).toList.head?, c.isDigit = true
  rw [Nat.toList_repr]
  cases htext : Nat.toDigits 10 networkId with
  | nil => exact absurd htext Nat.toDigits_ne_nil
  | cons c text =>
    exact ⟨c, rfl, Nat.isDigit_of_mem_toDigits (b := 10) (by decide) (by decide)
      (htext ▸ List.mem_cons_self)⟩

theorem parseNetworkId_toString {networkId : ℕ} (h : networkId ≤ 4096) :
    parseNetworkId (toString networkId) = some networkId := by
  obtain ⟨c, hc, hdigit⟩ := first_digit networkId
  have hvalue := decimal_takeWhile_toDigits networkId
  have hrepr : (toString networkId).toList = Nat.toDigits 10 networkId := Nat.toList_repr
  unfold parseNetworkId digitsOf
  rw [hrepr] at hc ⊢
  obtain ⟨text, htext⟩ := List.head?_eq_some_iff.mp hc
  rw [htext] at hvalue ⊢
  rw [List.dropWhile_cons_of_neg (by rw [isSpace_of_isDigit hdigit]; decide)]
  split
  · next hminus =>
    rw [(List.cons.inj hminus).1] at hdigit
    exact absurd hdigit (by decide)
  · next hplus =>
    rw [(List.cons.inj hplus).1] at hdigit
    exact absurd hdigit (by decide)
  · have hne : (c :: text).takeWhile Char.isDigit ≠ [] := by
      rw [List.takeWhile_cons_of_pos hdigit]
      exact List.cons_ne_nil _ _
    rw [hvalue, if_pos ⟨hne, h⟩]

/-- A row with something behind the id gives a record of that id and those flags. -/
theorem readSavedNetwork_visible {entry : SavedEntry}
    (hvisible : ∃ c ∈ entry.ssid.toList ++ entry.bssid.toList ++ entry.flags.toList,
      isBlank c = false) :
    ∃ record : WifiSavedNetwork, readSavedNetwork (trim (tabbed entry.fields)) =
      some (parseSavedFlags entry.flags record) ∧ record.networkId = entry.networkId := by
  obtain ⟨c, hc, hcBlank⟩ := hvisible
  obtain ⟨first, hfirst, hdigit⟩ := first_digit entry.networkId
  obtain ⟨text, htext⟩ := List.head?_eq_some_iff.mp hfirst
  have hbody : ∃ c ∈ entry.body, isBlank c = false := by
    refine ⟨c, ?_, hcBlank⟩
    unfold body
    simp only [List.append_assoc, List.mem_append, List.mem_cons] at hc ⊢
    rcases hc with hc | hc | hc
    · exact .inl hc
    · exact .inr (.inl (.inr hc))
    · exact .inr (.inr (.inr hc))
  have hline : trim (tabbed entry.fields) =
      (toString entry.networkId).toList ++ '\t' :: entry.body.rdropWhile isBlank := by
    rw [entry.tabbed_fields, ← List.singleton_append, ← List.append_assoc,
      trim_append ⟨first, by rw [htext]; rfl, isBlank_of_isDigit hdigit⟩ hbody, List.append_assoc]
    rfl
  have htab : '\t' ∉ (toString entry.networkId).toList :=
    (AccessPoint.isField_number entry.networkId).1
  have hflags := entry.flags_rdropWhile
  unfold readSavedNetwork splitTabLine
  rw [hline, List.splitOn_append_cons_self_of_not_mem htab]
  cases hpieces : (entry.body.rdropWhile isBlank).splitOn '\t' with
  | nil => exact absurd hpieces (List.splitOn_ne_nil _ _)
  | cons ssid pieces =>
    rw [hpieces, List.getD_cons_succ] at hflags
    have hgot : (pieces.map String.ofList).getD 1 "" = entry.flags := by
      rw [show "" = String.ofList [] from rfl, List.getD_map, hflags, String.ofList_toList]
    simp only [List.map_cons, String.ofList_toList, parseNetworkId_toString entry.networkIdMax, hgot]
    exact ⟨_, rfl, rfl⟩

theorem readSavedNetwork_invisible {entry : SavedEntry}
    (hblank : ∀ c ∈ entry.ssid.toList ++ entry.bssid.toList ++ entry.flags.toList,
      isBlank c = true) : readSavedNetwork (trim (tabbed entry.fields)) = none := by
  have hbody : ∀ c ∈ '\t' :: entry.body, isBlank c = true := by
    unfold body
    simp only [List.append_assoc, List.mem_append, List.mem_cons] at hblank ⊢
    rintro c (rfl | hc | (rfl | hc) | rfl | hc)
    · rfl
    · exact hblank c (.inl hc)
    · rfl
    · exact hblank c (.inr (.inl hc))
    · rfl
    · exact hblank c (.inr (.inr hc))
  have htab : '\t' ∉ trim (toString entry.networkId).toList := fun hmem =>
    (AccessPoint.isField_number entry.networkId).1 (mem_of_mem_trim hmem)
  unfold readSavedNetwork splitTabLine
  rw [entry.tabbed_fields, trim_append_blank hbody, List.splitOn_eq_singleton htab]
  rfl

/-- A word of interest is found exactly if it is a token, unless another token has it inside. -/
theorem mentions_flags_eq (entry : SavedEntry) {word : String} (hword : word ∈ flagWords) :
    mentions entry.flags word = decide (word ∈ entry.tokens) ↔
      ((∃ token ∈ entry.tokens, word.toList <:+: token.toList) → word ∈ entry.tokens) := by
  have hplain : ∀ word ∈ flagWords,
      word.toList ≠ [] ∧ '[' ∉ word.toList ∧ ']' ∉ word.toList := by decide
  obtain ⟨hne, hopen, hclose⟩ := hplain word hword
  have hmentions := entry.mentions_flags hne hopen hclose
  rw [Bool.eq_iff_iff, hmentions, decide_eq_true_iff]
  exact ⟨fun h => h.mp, fun h => ⟨h, fun hmem => ⟨word, hmem, List.infix_rfl⟩⟩⟩

theorem reading_parseSavedFlags (entry : SavedEntry) {record : WifiSavedNetwork}
    (hid : record.networkId = entry.networkId) :
    readingOf (parseSavedFlags entry.flags record) = entry.reading ↔
      ∀ word ∈ flagWords, (∃ token ∈ entry.tokens, word.toList <:+: token.toList) →
        word ∈ entry.tokens := by
  have hwords : (∀ word ∈ flagWords, mentions entry.flags word = decide (word ∈ entry.tokens)) ↔
      ∀ word ∈ flagWords, (∃ token ∈ entry.tokens, word.toList <:+: token.toList) →
        word ∈ entry.tokens := forall₂_congr fun word hword => entry.mentions_flags_eq hword
  rw [← hwords]
  unfold readingOf parseSavedFlags reading flagWords
  simp only [SavedReading.mk.injEq, List.forall_mem_cons, List.not_mem_nil, false_imp_iff,
    implies_true, and_true]
  constructor
  · rintro ⟨-, hcurrent, hdisabled, htemp, -⟩
    exact ⟨hcurrent, hdisabled, htemp⟩
  · rintro ⟨hcurrent, hdisabled, htemp⟩
    exact ⟨hid, hcurrent, hdisabled, htemp, by rw [hdisabled, decide_not]⟩

/-- **One row** gives the record of its network exactly if it is not lost and no token hides what
another says. -/
theorem readSavedNetwork_iff (entry : SavedEntry) :
    (readSavedNetwork (trim (tabbed entry.fields))).map readingOf = some entry.reading ↔
      entry.ReadRight := by
  by_cases hvisible : ∃ c ∈ entry.ssid.toList ++ entry.bssid.toList ++ entry.flags.toList,
      isBlank c = false
  · obtain ⟨record, hread, hid⟩ := readSavedNetwork_visible hvisible
    rw [hread, Option.map_some, Option.some.injEq, entry.reading_parseSavedFlags hid]
    exact ⟨fun h => ⟨hvisible, h⟩, ReadRight.unshadowed⟩
  · have hnone : readSavedNetwork (trim (tabbed entry.fields)) = none := by
      refine readSavedNetwork_invisible fun c hc => ?_
      cases hblank : isBlank c with
      | true => rfl
      | false => exact absurd ⟨c, hc, hblank⟩ hvisible
    rw [hnone]
    exact ⟨fun h => absurd h (Option.some_ne_none _).symm, fun h => absurd h.visible hvisible⟩

end SavedEntry

/-- The reply to LIST_NETWORKS. -/
def savedNetworksReply (header : HeaderLine) (entries : List SavedEntry) : String :=
  replyText header (entries.map fun entry => tabbed entry.fields)

/-- **The saved networks are read as their flags say exactly if every row has something behind its
id and, of the three words the daemon looks for, none stands inside a token without being one.** -/
theorem parseSavedNetworks_exact (header : HeaderLine) (entries : List SavedEntry) :
    (parseSavedNetworks (savedNetworksReply header entries)).map readingOf =
      entries.map SavedEntry.reading ↔ ∀ entry ∈ entries, entry.ReadRight := by
  have hrows : ∀ row ∈ entries.map fun entry => tabbed entry.fields, '\n' ∉ row := by
    intro row hrow
    obtain ⟨entry, -, rfl⟩ := List.mem_map.mp hrow
    exact newline_not_mem_tabbed fun field hfield => (entry.isField_fields field hfield).2
  unfold parseSavedNetworks savedNetworksReply
  rw [filterMap_replyRows rfl header hrows, List.filterMap_map, List.map_filterMap,
    List.filterMap_eq_map_iff_forall_eq_some]
  simp only [Function.comp_apply]
  exact forall₂_congr fun entry _ => entry.readSavedNetwork_iff

def savedHeader : HeaderLine where
  line := "network id / ssid / bssid / flags".toList
  oneLine := by decide
  visible := by decide

/-- A network that wpa_supplicant has disabled for a while. -/
def restingNetwork : SavedEntry where
  networkId := 3
  ssid := "office"
  bssid := "any"
  tokens := ["TEMP-DISABLED"]
  networkIdMax := by decide
  ssidField := by decide
  bssidField := by decide
  tokensPlain := by decide

/-- The network that is disabled for a while is read as disabled, without autoconnect. -/
theorem parseSavedNetworks_temp_disabled :
    (parseSavedNetworks (savedNetworksReply savedHeader [restingNetwork])).map readingOf ≠
      [restingNetwork].map SavedEntry.reading := by
  decide +kernel

end NetworkService.Wifi.BackendReplies
