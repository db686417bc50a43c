import NetworkService.Config.EthernetConfig
import NetworkService.Platform.NetworkConfigurator
import NetworkService.Wifi.ProfilePolicy

/-!
# The supplicant behind the profile policy

The daemon hands `WifiProfilePolicy` the functions of the Wi-Fi backend, which talk to wpa_supplicant
over its control socket.  What the socket and the shell answer comes from outside and may depend on
all that happened before.  The state is the log of what was done, newest step first.
-/

namespace NetworkService.Wifi

open Fallible Platform

/-! ### Commands and replies -/

/-- A command of the control socket. -/
inductive WpaCommand
  | addNetwork
  | setNetwork (networkId : ℕ) (field value : String)
  | enableNetwork (networkId : ℕ)
  | disableNetwork (networkId : ℕ)
  | selectNetwork (networkId : ℕ)
  | removeNetwork (networkId : ℕ)
  | disableAll
  | saveConfig
  | listNetworks
  deriving DecidableEq

def WpaCommand.text : WpaCommand → String
  | addNetwork => "ADD_NETWORK"
  | setNetwork networkId field value =>
    "SET_NETWORK " ++ toString networkId ++ " " ++ field ++ " " ++ value
  | enableNetwork networkId => "ENABLE_NETWORK " ++ toString networkId
  | disableNetwork networkId => "DISABLE_NETWORK " ++ toString networkId
  | selectNetwork networkId => "SELECT_NETWORK " ++ toString networkId
  | removeNetwork networkId => "REMOVE_NETWORK " ++ toString networkId
  | disableAll => "DISABLE_NETWORK all"
  | saveConfig => "SAVE_CONFIG"
  | listNetworks => "LIST_NETWORKS"

/-- What was done, and how it ended. -/
inductive BackendStep
  | interfaceUp (outcome : Except String Unit)
  | quote (value : String) (outcome : Except String String)
  | request (command : WpaCommand) (reply : Except String String)

abbrev BackendLog := List BackendStep

/-- What the shell and the control socket answer: an exit status; a reply, or the error text of a
request that failed or timed out. -/
structure BackendWorld where
  system : BackendLog → String → Int
  request : BackendLog → String → Except String String

/-- `trim` of the backend -/
def trimReply (reply : String) : String := String.ofList (Config.trim reply.toList)

def digitsOf (text : List Char) : List Char := text.takeWhile Char.isDigit

/-- `strtol` needs a digit; ids beyond 4096 and negative ones are refused. -/
def parseNetworkId (value : String) : Option ℕ :=
  match value.toList.dropWhile Config.isSpace with
  | '-' :: rest =>
    if digitsOf rest ≠ [] ∧ Config.decimal (digitsOf rest) = 0 then some 0 else none
  | '+' :: rest =>
    if digitsOf rest ≠ [] ∧ Config.decimal (digitsOf rest) ≤ 4096 then
      some (Config.decimal (digitsOf rest))
    else none
  | rest =>
    if digitsOf rest ≠ [] ∧ Config.decimal (digitsOf rest) ≤ 4096 then
      some (Config.decimal (digitsOf rest))
    else none

def quotedChar (ch : Char) : List Char :=
  if ch = '\\' ∨ ch = '"' then ['\\', ch] else [ch]

def wpaQuote (value : String) : Except String String :=
  if value.toList.any fun ch => ch = '\x00' ∨ ch = '\n' ∨ ch = '\x0d' then
    .error "wpa value contains unsupported control characters"
  else .ok ("\"" ++ String.ofList (value.toList.flatMap quotedChar) ++ "\"")

/-! ### The functions of the backend -/

section Backend

variable (world : BackendWorld) (iface : String)

/-- A step goes to the log and ends as its outcome says. -/
def note {α : Type} (step : BackendStep) (outcome : Except String α) : EStateM String BackendLog α :=
  fun log =>
    match outcome with
    | .ok a => .ok a (step :: log)
    | .error e => .error e (step :: log)

/-- `run_command` -/
def runCommand (log : BackendLog) (cmd : String) : Except String Unit :=
  if world.system log cmd ≠ 0 then
    .error ("command failed rc=" ++ toString (world.system log cmd) ++ ": " ++ cmd)
  else .ok ()

def interfaceUp (log : BackendLog) : Except String Unit :=
  if isSafeIface iface then runCommand world log ("ifconfig " ++ iface ++ " up")
  else .error "invalid wifi iface"

def wifiEnsureInterfaceUp : EStateM String BackendLog Unit := fun log =>
  note (.interfaceUp (interfaceUp world iface log)) (interfaceUp world iface log) log

def quoteValue (value : String) : EStateM String BackendLog String :=
  note (.quote value (wpaQuote value)) (wpaQuote value)

def wpaRequest (command : WpaCommand) : EStateM String BackendLog String := fun log =>
  if isSafeIface iface then
    note (.request command (world.request log command.text)) (world.request log command.text) log
  else .error "invalid wifi iface" log

def wpaOk (command : WpaCommand) : EStateM String BackendLog Unit := do
  let reply ← wpaRequest world iface command
  if trimReply reply = "OK" then pure ()
  else throw ("wpa_supplicant returned: " ++ trimReply reply)

def wpaAddNetwork : EStateM String BackendLog ℕ := do
  let reply ← wpaRequest world iface .addNetwork
  match parseNetworkId (trimReply reply) with
  | some networkId => pure networkId
  | none => throw ("invalid ADD_NETWORK result: " ++ trimReply reply)

/-- What `wifi_create_profile` does with the id that ADD_NETWORK gave. -/
def configureProfile (networkId : ℕ) (ssid password : String) : EStateM String BackendLog Unit := do
  let quotedSsid ← quoteValue ssid
  wpaOk world iface (.setNetwork networkId "ssid" quotedSsid)
  if password = "" then wpaOk world iface (.setNetwork networkId "key_mgmt" "NONE")
  else do
    let quotedPsk ← quoteValue password
    wpaOk world iface (.setNetwork networkId "psk" quotedPsk)

/-- Until the id is returned, a failure removes the profile again. -/
def wifiCreateProfile (ssid password : String) : EStateM String BackendLog ℕ := do
  require (isSafeIface iface) "invalid wifi iface"
  require (ssid ≠ "") "ssid is required"
  let networkId ← wpaAddNetwork world iface
  match ← attempt (configureProfile world iface networkId ssid password) with
  | .ok _ => pure networkId
  | .error failure => do
    let _ ← attempt (wpaOk world iface (.removeNetwork networkId))
    throw failure

/-- A profile of LIST_NETWORKS; the further fields of its line are not needed here. -/
def readSavedNetwork (line : List Char) : Option (ℕ × String) :=
  match line.splitOn '\t' with
  | networkId :: ssid :: _ => (parseNetworkId (String.ofList networkId)).map (·, String.ofList ssid)
  | _ => none

/-- The first line that is not blank is the header. -/
def parseSavedNetworks (output : String) : List (ℕ × String) :=
  (((output.toList.splitOn '\n').map Config.trim).filter (· ≠ [])).tail.filterMap readSavedNetwork

def wifiFindProfile (ssid : String) : EStateM String BackendLog ℕ := do
  require (isSafeIface iface) "invalid wifi iface"
  require (ssid ≠ "") "ssid is required"
  let reply ← wpaRequest world iface .listNetworks
  match (parseSavedNetworks reply).find? (·.2 = ssid) with
  | some record => pure record.1
  | none => throw ("saved network not found: " ++ ssid)

/-- A command about one profile. -/
def profileCommand (command : ℕ → WpaCommand) (networkId : ℕ) : EStateM String BackendLog Unit := do
  require (networkId ≤ 4096) "invalid Wi-Fi profile id"
  wpaOk world iface (command networkId)

/-- The ports that the daemon hands to the policy. -/
def profileOps : WifiProfilePolicyOps BackendLog where
  ensureInterfaceUp := some (wifiEnsureInterfaceUp world iface)
  createProfile := some (wifiCreateProfile world iface)
  findProfile := some (wifiFindProfile world iface)
  disableAllProfiles := some (wpaOk world iface .disableAll)
  setProfileEnabled := some fun networkId enabled =>
    profileCommand world iface (if enabled then .enableNetwork else .disableNetwork) networkId
  selectProfile := some (profileCommand world iface .selectNetwork)
  removeProfile := some (profileCommand world iface .removeNetwork)
  saveProfiles := some (wpaOk world iface .saveConfig)

/-- The error text of a failure is that of a 500 answer. -/
def wifiConnect (ssid password : String) : EStateM String BackendLog Unit :=
  connectNew (profileOps world iface) ssid password

end Backend

end NetworkService.Wifi
