import NetworkService.Config.EthernetConfig
import NetworkService.Platform.NetworkConfigurator

/-!
# The resolver file

`/etc/resolv.conf` belongs to the service as long as its first line is the marker.  The marker is
looked for twice: by `clear_dns`, which leaves the file of another owner alone, and by the snapshot,
from which the control plane learns whether a resolver of an earlier process is still its own.
-/

namespace NetworkService.Platform

/-- `/etc/resolv.conf`, if it can be opened. -/
abbrev ResolverFile := Option (List Char)

def kDnsOwnerMarker : List Char := "# managed-by-network-service".toList

/-- `dns_file_owned_by_network_service`; the first `getline` of an empty file leaves `first` empty. -/
def dnsFileOwnedByNetworkService : ResolverFile → Bool
  | none => false
  | some text => text.takeWhile (· ≠ '\n') = kDnsOwnerMarker

/-- What `set_primary_dns` writes. -/
def resolverText (dns4 : String) : List Char :=
  kDnsOwnerMarker ++ '\n' :: ("nameserver ".toList ++ dns4.toList ++ ['\n'])

/-- `set_primary_dns` where the file can be written. -/
def setPrimaryDns (dns4 : String) : Except String ResolverFile :=
  if !isIpv4 dns4 then .error "invalid DNS IPv4 address" else .ok (some (resolverText dns4))

/-- `clear_dns` where the file can be truncated. -/
def clearDns (file : ResolverFile) : ResolverFile :=
  if !dnsFileOwnedByNetworkService file then file else some []

/-! ### The fact of a snapshot -/

structure DnsFileFact where
  dns4 : String := ""
  managedByNetworkService : Bool := false
  deriving DecidableEq

/-- What `iss >> word` delivers in turn. -/
def words (line : List Char) : List (List Char) :=
  (line.splitOnP Config.isSpace).filter (· ≠ [])

/-- One turn of the loop of `read_dns_fact`; the flag is `first_line`. -/
def readDnsLine (state : DnsFileFact × Bool) (line : List Char) : DnsFileFact × Bool :=
  let fact :=
    if state.2 then { state.1 with managedByNetworkService := decide (line = kDnsOwnerMarker) }
    else state.1
  if fact.dns4 ≠ "" then (fact, false)
  else
    match words line with
    | key :: value :: _ =>
      if key = "nameserver".toList then ({ fact with dns4 := String.ofList value }, false)
      else (fact, false)
    | _ => (fact, false)

/-- `read_dns_fact`.  The empty piece after a final newline, which `getline` does not deliver, is
neither the marker nor a nameserver. -/
def readDnsFact : ResolverFile → DnsFileFact
  | none => {}
  | some text => ((text.splitOn '\n').foldl readDnsLine ({}, true)).1

theorem readDnsLine_later (fact : DnsFileFact) (line : List Char) :
    (readDnsLine (fact, false) line).2 = false ∧
      (readDnsLine (fact, false) line).1.managedByNetworkService = fact.managedByNetworkService := by
  unfold readDnsLine
  simp only [Bool.false_eq_true, if_false]
  split
  · exact ⟨rfl, rfl⟩
  · split
    · split <;> exact ⟨rfl, rfl⟩
    · exact ⟨rfl, rfl⟩

theorem readDnsLine_first (line : List Char) :
    (readDnsLine ({}, true) line).2 = false ∧
      (readDnsLine ({}, true) line).1.managedByNetworkService = decide (line = kDnsOwnerMarker) := by
  unfold readDnsLine
  simp only [if_true, ne_eq, not_true_eq_false, if_false]
  split
  · split <;> exact ⟨rfl, rfl⟩
  · exact ⟨rfl, rfl⟩

/-- Only the first line decides: the induction is on the lines after it. -/
theorem readDnsLines_managed (lines : List (List Char)) (state : DnsFileFact × Bool)
    (h : state.2 = false) :
    (lines.foldl readDnsLine state).1.managedByNetworkService = state.1.managedByNetworkService := by
  induction lines generalizing state with
  | nil => rfl
  | cons line lines ih =>
    obtain ⟨fact, first⟩ := state
    obtain rfl : first = false := h
    obtain ⟨hflag, hmanaged⟩ := readDnsLine_later fact line
    rw [List.foldl_cons, ih _ hflag, hmanaged]

theorem head_splitOn_newline (text : List Char) :
    ∃ lines, text.splitOn '\n' = text.takeWhile (· ≠ '\n') :: lines := by
  induction text with
  | nil => exact ⟨[], List.splitOn_nil _⟩
  | cons c text ih =>
    obtain ⟨lines, hlines⟩ := ih
    rw [List.splitOn_cons_eq_if_modifyHead, hlines]
    by_cases hc : c = '\n'
    · rw [if_pos (beq_iff_eq.mpr hc), List.takeWhile_cons_of_neg (by simp [hc])]
      exact ⟨_, rfl⟩
    · rw [if_neg (by simpa using hc), List.takeWhile_cons_of_pos (by simpa using hc)]
      exact ⟨lines, rfl⟩

/-- **The two readers of the marker agree.** -/
theorem readDnsFact_managed (file : ResolverFile) :
    (readDnsFact file).managedByNetworkService = dnsFileOwnedByNetworkService file := by
  cases file with
  | none => rfl
  | some text =>
    obtain ⟨lines, hlines⟩ := head_splitOn_newline text
    obtain ⟨hflag, hmanaged⟩ := readDnsLine_first (text.takeWhile (· ≠ '\n'))
    show ((text.splitOn '\n').foldl readDnsLine ({}, true)).1.managedByNetworkService =
      decide (text.takeWhile (· ≠ '\n') = kDnsOwnerMarker)
    rw [hlines, List.foldl_cons, readDnsLines_managed lines _ hflag, hmanaged]

/-! ### What the two writers leave -/

theorem setPrimaryDns_eq_ok {dns4 : String} {file : ResolverFile} (h : setPrimaryDns dns4 = .ok file) :
    file = some (resolverText dns4) := by
  unfold setPrimaryDns at h
  split at h
  · cases h
  · exact (Except.ok.inj h).symm

/-- What `set_primary_dns` writes is the service's own. -/
theorem dnsFileOwned_resolverText (dns4 : String) :
    dnsFileOwnedByNetworkService (some (resolverText dns4)) = true := by
  have hline : (kDnsOwnerMarker.all fun c => decide (c ≠ '\n')) = true := by decide +kernel
  show decide ((resolverText dns4).takeWhile (· ≠ '\n') = kDnsOwnerMarker) = true
  unfold resolverText
  rw [List.takeWhile_append_of_pos (List.all_eq_true.mp hline),
    List.takeWhile_cons_of_neg (by decide), List.append_nil]
  exact decide_eq_true rfl

theorem clearDns_unowned (file : ResolverFile) : dnsFileOwnedByNetworkService (clearDns file) = false := by
  unfold clearDns
  cases howned : dnsFileOwnedByNetworkService file with
  | false => exact howned
  | true =>
    show dnsFileOwnedByNetworkService (some []) = false
    decide

/-- The file of another owner is left alone. -/
theorem clearDns_foreign {file : ResolverFile} (h : dnsFileOwnedByNetworkService file = false) :
    clearDns file = file := by
  unfold clearDns
  rw [h]
  rfl

end NetworkService.Platform
