import NetworkService.Types

/-!
# The persisted Ethernet configuration

One text file of `key=value` lines.  A new configuration is staged next to it and renamed onto
it; the rename is the logical commit point.  What the system calls of one transaction answer is
given from outside, so every failure can be looked at.
-/

namespace NetworkService.Config

/-! ### Loading -/

/-- The blanks that `trim` removes. -/
def isBlank (c : Char) : Bool := c = ' ' ∨ c = '\t' ∨ c = '\r' ∨ c = '\n'

def trim (value : List Char) : List Char :=
  ((value.dropWhile isBlank).reverse.dropWhile isBlank).reverse

/-- The white space that `atoi` skips. -/
def isSpace (c : Char) : Bool :=
  c = ' ' ∨ c = '\t' ∨ c = '\n' ∨ c = '\x0b' ∨ c = '\x0c' ∨ c = '\r'

/-- The number that a run of decimal digits denotes, from the left. -/
def decimal (digits : List Char) : ℕ :=
  digits.foldl (fun value c => 10 * value + (c.toNat - '0'.toNat)) 0

/-- A 32-bit `int`; numbers beyond it, for which `atoi` promises nothing, stop at its ends. -/
def clampInt (value : Int) : Int := max (-2147483648) (min value 2147483647)

def atoi (text : List Char) : Int :=
  match text.dropWhile isSpace with
  | '-' :: rest => clampInt (-(decimal (rest.takeWhile Char.isDigit) : Int))
  | '+' :: rest => clampInt (decimal (rest.takeWhile Char.isDigit))
  | rest => clampInt (decimal (rest.takeWhile Char.isDigit))

/-- One recognised key; others are ignored. -/
def assign (config : EthernetConfig) (key value : String) : EthernetConfig :=
  if key = "iface" then { config with iface := value }
  else if key = "method" then { config with method := value }
  else if key = "ip4" then { config with ip4 := value }
  else if key = "netmask4" then { config with netmask4 := value }
  else if key = "gateway4" then { config with gateway4 := value }
  else if key = "dns4" then { config with dns4 := value }
  else if key = "route_metric" then { config with routeMetric := atoi value.toList }
  else if key = "dns_enabled" then { config with dnsEnabled := decide (value ≠ "0") }
  else config

/-- A line is cut at its first `=`; a line without one is skipped. -/
def loadLine (config : EthernetConfig) (line : List Char) : EthernetConfig :=
  match line.dropWhile (· ≠ '=') with
  | [] => config
  | _ :: value =>
    assign config (String.ofList (trim (line.takeWhile (· ≠ '='))))
      (String.ofList (trim value))

/-- The interface a configuration falls back to. -/
def defaultIface (iface : String) : String := if iface = "" then "eth0" else iface

/-- `load_ethernet_config`; `file` is the text at the committed path, if it can be opened.  The
empty piece after a final newline, which `getline` does not deliver, has no `=`. -/
def loadEthernetConfig (file : Option String) (iface : String) : EthernetConfig :=
  let initial : EthernetConfig := { iface := defaultIface iface }
  match file with
  | none => initial
  | some text =>
    let config := (text.toList.splitOn '\n').foldl loadLine initial
    let named := if config.iface = "" then { config with iface := defaultIface iface } else config
    if named.method ≠ "static" then { named with method := "dhcp" } else named

/-! ### Staging and committing -/

def serializeEthernetConfig (config : EthernetConfig) : String :=
  "iface=" ++ config.iface ++ "\n" ++
  "method=" ++ config.method ++ "\n" ++
  "ip4=" ++ config.ip4 ++ "\n" ++
  "netmask4=" ++ config.netmask4 ++ "\n" ++
  "gateway4=" ++ config.gateway4 ++ "\n" ++
  "dns4=" ++ config.dns4 ++ "\n" ++
  "route_metric=" ++ toString config.routeMetric ++ "\n" ++
  "dns_enabled=" ++ (if config.dnsEnabled then "1" else "0") ++ "\n"

/-- What the system calls of a transaction answer: nothing on success, the text of the error
otherwise.  An existing directory is a success of `mkdir`. -/
structure FileReplies where
  mkdir : Option String := none
  create : Option String := none
  write : Option String := none
  fsync : Option String := none
  close : Option String := none
  rename : Option String := none
  fsyncDirectory : Option String := none

/-- The committed file and the staged one of the transaction in progress. -/
structure ConfigFiles where
  committed : Option String := none
  staged : Option String := none
  deriving DecidableEq

/-- `config_directory` -/
def configDirectory (configDir : String) : String :=
  let dir := if configDir = "" then "/dnake/data" else configDir
  match dir.toList.reverse with
  | '/' :: rest => String.ofList rest.reverse
  | _ => dir

/-- `stage_ethernet_config`.  A staged file that could not be written completely is unlinked. -/
def stageEthernetConfig (configDir : String) (config : EthernetConfig) (replies : FileReplies)
    (files : ConfigFiles) : Except String Unit × ConfigFiles :=
  let unstaged := { files with staged := none }
  if configDirectory configDir = "" then
    (.error "ethernet config directory is empty", unstaged)
  else match replies.mkdir, replies.create, replies.write, replies.fsync, replies.close with
    | some e, _, _, _, _ => (.error ("failed to create ethernet config directory: " ++ e), unstaged)
    | _, some e, _, _, _ => (.error ("failed to create staged ethernet config: " ++ e), unstaged)
    | _, _, some e, _, _ => (.error ("failed to write staged ethernet config: " ++ e), unstaged)
    | _, _, _, some e, _ => (.error ("failed to fsync staged ethernet config: " ++ e), unstaged)
    | _, _, _, _, some e => (.error ("failed to close staged ethernet config: " ++ e), unstaged)
    | none, none, none, none, none =>
      (.ok (), { files with staged := some (serializeEthernetConfig config) })

/-- `EthernetConfigCommitResult`, with the error text that goes with it. -/
inductive EthernetConfigCommitResult
  | failed (error : String)
  | committedDurable
  | committedDurabilityUncertain (error : String)
  deriving DecidableEq

/-- `commit_ethernet_config` -/
def commitEthernetConfig (replies : FileReplies) (files : ConfigFiles) :
    EthernetConfigCommitResult × ConfigFiles :=
  match files.staged with
  | none => (.failed "ethernet config stage is invalid", files)
  | some text =>
    match replies.rename with
    | some e => (.failed ("failed to commit ethernet config: " ++ e), files)
    | none =>
      let files := { committed := some text, staged := none }
      match replies.fsyncDirectory with
      | some e =>
        (.committedDurabilityUncertain
          ("ethernet config committed but directory fsync failed: " ++ e), files)
      | none => (.committedDurable, files)

/-- `discard_ethernet_config` -/
def discardEthernetConfig (files : ConfigFiles) : ConfigFiles := { files with staged := none }

end NetworkService.Config
