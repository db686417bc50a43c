import NetworkService.Library.Shell
import NetworkService.Platform.DhcpLeaseStore

/-!
# The commands that the service runs

Addresses, routes, device states and the DHCP client are changed by command lines that are given to
`system`.  Device names and addresses in them come from requests and from configuration files, so a
command line has to be cut by the shell into the words that were meant.  Three ways of writing it
meet here: a format and a buffer of 256 bytes, a concatenation, and a stream with quoted paths.
-/

namespace NetworkService.Platform

/-! ### Writing a command line -/

/-- A call of `system`: what was written, and the text that was made of it. -/
structure SystemCall where
  written : List Char
  cmd : List Char
  deriving DecidableEq

/-- The shell gets `cmd.c_str()`. -/
def SystemCall.command (call : SystemCall) : List Char := call.cmd.takeWhile (· ≠ '\x00')

/-- What `snprintf` writes; each conversion takes the next argument. -/
def printf : List Char → List (List Char) → List Char
  | '%' :: _ :: format, arg :: args => arg ++ printf format args
  | c :: format, args => c :: printf format args
  | [], _ => []

/-- `snprintf` to a buffer of `size` bytes, which is then taken as a text. -/
def systemBuffer (size : ℕ) (written : List Char) : SystemCall :=
  ⟨written, (written.take (size - 1)).takeWhile (· ≠ '\x00')⟩

def systemText (written : List Char) : SystemCall := ⟨written, written⟩

/-- What a function did: its calls of `system`, and what it returned. -/
structure Outcome where
  calls : List SystemCall
  result : Except String Unit

/-- `run_command`, with the return code of `system`. -/
def runCommand (system : List Char → Int) (call : SystemCall) : Outcome :=
  ⟨[call],
    if system call.command = 0 then .ok ()
    else .error (String.ofList
      (("command failed rc=" ++ toString (system call.command) ++ ": ").toList ++ call.cmd))⟩

/-- What the functions learn from outside: `inet_pton` on a C string, the return codes of `system`,
and `exact_default_route_exists`. -/
structure Host where
  inetPton : List Char → Bool
  system : List Char → Int
  routeExists : String → String → Int → Bool

/-- `is_ipv4` -/
def Host.isIpv4 (host : Host) (value : String) : Bool := value ≠ "" ∧ host.inetPton (cString value)

/-! ### `NetworkConfigurator` -/

namespace NetworkConfigurator

variable (host : Host)

def applyIpv4 (iface ip4 netmask4 : String) : Outcome :=
  if !isSafeIface iface ∨ !host.isIpv4 ip4 ∨ !host.isIpv4 netmask4 then
    ⟨[], .error "invalid IPv4 interface configuration"⟩
  else
    runCommand host.system (systemBuffer 256 (printf "ifconfig %s %s netmask %s up".toList
      [cString iface, cString ip4, cString netmask4]))

def clearIpv4 (iface : String) : Outcome :=
  if !isSafeIface iface then ⟨[], .error "invalid interface"⟩
  else runCommand host.system (systemText ("ifconfig ".toList ++ iface.toList ++ " 0.0.0.0".toList))

def setDefaultRoute (iface gateway4 : String) (metric : Int) : Outcome :=
  if !isSafeIface iface ∨ !host.isIpv4 gateway4 ∨ metric < 0 ∨ 65535 < metric then
    ⟨[], .error "invalid default route configuration"⟩
  else if host.routeExists iface gateway4 metric then ⟨[], .ok ()⟩
  else
    runCommand host.system (systemBuffer 256 (printf
      "route add default gw %s dev %s metric %d".toList
      [cString gateway4, cString iface, (toString metric).toList]))

def clearDefaultRoute (iface gateway4 : String) (metric : Int) : Outcome :=
  if !isSafeIface iface ∨ !host.isIpv4 gateway4 ∨ metric < 0 ∨ 65535 < metric then
    ⟨[], .error "invalid default route identity"⟩
  else if !host.routeExists iface gateway4 metric then ⟨[], .ok ()⟩
  else
    runCommand host.system (systemBuffer 256 (printf
      "route del default gw %s dev %s metric %d".toList
      [cString gateway4, cString iface, (toString metric).toList]))

end NetworkConfigurator

/-! ### `UdhcpcProcess` -/

namespace UdhcpcProcess

inductive UdhcpcOwnershipState
  | absent
  | ownedRunning
  | staleArtifacts
  | conflictingProcess
  deriving DecidableEq

def pidfileFor (iface : String) : List Char :=
  "/tmp/smart_hmi_udhcpc_".toList ++ iface.toList ++ ".pid".toList

def eventScriptPath (iface generation : String) : List Char :=
  "/tmp/network_service_udhcpc_".toList ++ iface.toList ++ "_".toList ++ generation.toList ++
    ".script".toList

def shellQuote (value : List Char) : List Char :=
  "'".toList ++ value.flatMap (fun ch => if ch = '\'' then "'\\''".toList else [ch]) ++ "'".toList

/-- What `start` finds and what its file operations give; the generation is that of
`next_generation`. -/
structure StartReplies where
  probe : Except String UdhcpcOwnershipState
  generation : Generation
  activated : Except String Unit
  scripted : Except String Unit
  running : Bool

def startCommand (iface generation : String) : List Char :=
  "udhcpc -f -i ".toList ++ iface.toList ++ " -t 15 -n -p ".toList ++
    shellQuote (pidfileFor iface) ++ " -s ".toList ++
    shellQuote (eventScriptPath iface generation) ++ " &".toList

/-- `start`; what it does to files and processes on the way runs no command. -/
def start (system : List Char → Int) (replies : StartReplies) (iface : String) : Outcome :=
  if !isSafeIface iface then ⟨[], .error "invalid DHCP iface"⟩
  else
    match replies.probe with
    | .error e => ⟨[], .error e⟩
    | .ok .conflictingProcess =>
      ⟨[], .error "conflicting DHCP process prevents NetworkService ownership"⟩
    | .ok _ =>
      match replies.activated, replies.scripted with
      | .error e, _ => ⟨[], .error e⟩
      | .ok (), .error e => ⟨[], .error e⟩
      | .ok (), .ok () =>
        let launched := runCommand system (systemText (startCommand iface replies.generation.text))
        match launched.result with
        | .error _ => launched
        | .ok () =>
          if replies.running then launched
          else ⟨launched.calls, .error "udhcpc did not remain running"⟩

end UdhcpcProcess

/-! ### The Wi-Fi device -/

def wifiEnsureInterfaceUp (system : List Char → Int) (iface : String) : Outcome :=
  if !isSafeIface iface then ⟨[], .error "invalid wifi iface"⟩
  else runCommand system (systemText ("ifconfig ".toList ++ iface.toList ++ " up".toList))

/-- The requests to the supplicant on the way run no command, and their outcome is ignored. -/
def wifiSetEnabled (system : List Char → Int) (iface : String) (enabled : Bool) : Outcome :=
  if !isSafeIface iface then ⟨[], .error "invalid wifi iface"⟩
  else if enabled then wifiEnsureInterfaceUp system iface
  else runCommand system (systemText ("ifconfig ".toList ++ iface.toList ++ " down".toList))

/-! ### All of them -/

/-- A call of one of these functions. -/
inductive CommandRequest
  | applyIpv4 (iface ip4 netmask4 : String)
  | clearIpv4 (iface : String)
  | setDefaultRoute (iface gateway4 : String) (metric : Int)
  | clearDefaultRoute (iface gateway4 : String) (metric : Int)
  | startDhcp (iface : String) (replies : UdhcpcProcess.StartReplies)
  | wifiEnsureInterfaceUp (iface : String)
  | wifiSetEnabled (iface : String) (enabled : Bool)

namespace CommandRequest

def perform (host : Host) : CommandRequest → Outcome
  | applyIpv4 iface ip4 netmask4 => NetworkConfigurator.applyIpv4 host iface ip4 netmask4
  | clearIpv4 iface => NetworkConfigurator.clearIpv4 host iface
  | setDefaultRoute iface gateway4 metric =>
    NetworkConfigurator.setDefaultRoute host iface gateway4 metric
  | clearDefaultRoute iface gateway4 metric =>
    NetworkConfigurator.clearDefaultRoute host iface gateway4 metric
  | startDhcp iface replies => UdhcpcProcess.start host.system replies iface
  | wifiEnsureInterfaceUp iface => Platform.wifiEnsureInterfaceUp host.system iface
  | wifiSetEnabled iface enabled => Platform.wifiSetEnabled host.system iface enabled

/-- The command that is meant, with the values of the caller up to a NUL. -/
def intended : CommandRequest → Shell.Command
  | applyIpv4 iface ip4 netmask4 =>
    ⟨["ifconfig".toList, cString iface, cString ip4, "netmask".toList, cString netmask4,
      "up".toList], false⟩
  | clearIpv4 iface => ⟨["ifconfig".toList, cString iface, "0.0.0.0".toList], false⟩
  | setDefaultRoute iface gateway4 metric =>
    ⟨["route".toList, "add".toList, "default".toList, "gw".toList, cString gateway4, "dev".toList,
      cString iface, "metric".toList, (toString metric).toList], false⟩
  | clearDefaultRoute iface gateway4 metric =>
    ⟨["route".toList, "del".toList, "default".toList, "gw".toList, cString gateway4, "dev".toList,
      cString iface, "metric".toList, (toString metric).toList], false⟩
  | startDhcp iface replies =>
    ⟨["udhcpc".toList, "-f".toList, "-i".toList, cString iface, "-t".toList, "15".toList,
      "-n".toList, "-p".toList, UdhcpcProcess.pidfileFor iface, "-s".toList,
      UdhcpcProcess.eventScriptPath iface replies.generation.text], true⟩
  | wifiEnsureInterfaceUp iface => ⟨["ifconfig".toList, cString iface, "up".toList], false⟩
  | wifiSetEnabled iface enabled =>
    ⟨["ifconfig".toList, cString iface, (if enabled then "up" else "down").toList], false⟩

end CommandRequest

end NetworkService.Platform
