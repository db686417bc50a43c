import NetworkService.Wifi.EventMonitor

/-!
# The scan lifecycle

`WifiScanLifecycle` owns at most one physical scan.  It has no thread: `start` notes the number of the
last recorded event and issues the scan, `poll` looks at four numbers of the event monitor and at the
clock.  What the clock, the start function and the results function answer is given from outside.

Both functions read the monitor once.  What the monitor thread records while one of them runs is
recorded, for all that the lifecycle can see, right after it.
-/

namespace NetworkService.Wifi

inductive WifiScanState
  | idle
  | scanning
  | ready
  | failed
  deriving DecidableEq

structure WifiScanEventMarkers where
  sequence : UInt64 := 0
  startedSequence : UInt64 := 0
  completedSequence : UInt64 := 0
  failedSequence : UInt64 := 0
  deriving DecidableEq

/-- The markers that the daemon takes from the monitor. -/
def scanMarkers (events : WpaEventFact) : WifiScanEventMarkers :=
  { sequence := events.eventSequence
    startedSequence := events.lastScanStartedSequence
    completedSequence := events.lastScanResultSequence
    failedSequence := events.lastScanFailedSequence }

/-- What `results_fn` returns; an error that is not empty makes it a failure. -/
structure ScanResults (Record : Type) where
  records : List Record := []
  error : String := ""

structure WifiScanStatus (Record : Type) where
  scanId : UInt64 := 0
  state : WifiScanState := .idle
  error : String := ""
  records : List Record := []
  deriving DecidableEq

structure WifiScanLifecycle (Record : Type) where
  scanId : UInt64 := 0
  state : WifiScanState := .idle
  error : String := ""
  records : List Record := []
  baseline : WifiScanEventMarkers := {}
  deadline : Int := 0
  deriving DecidableEq

/-- The timeout that the constructor takes, in milliseconds. -/
def scanTimeout (timeout : Int) : Int := if 0 < timeout then timeout else 5000

variable {Record : Type}

namespace WifiScanLifecycle

variable (l : WifiScanLifecycle Record)

def fail (error : String) : WifiScanLifecycle Record :=
  { l with state := .failed, error := if error = "" then "scan_failed" else error, records := [] }

def status : WifiScanStatus Record :=
  { scanId := l.scanId, state := l.state, error := l.error, records := l.records }

/-- The number zero is left out when the id wraps. -/
def nextScanId : UInt64 := if l.scanId + 1 = 0 then l.scanId + 1 + 1 else l.scanId + 1

/-- `start`, and whether it called the physical start function. -/
def start (timeout : Int) (events : WifiScanEventMarkers) (now : Int) (reply : Except String Unit) :
    Bool × WifiScanLifecycle Record :=
  if l.state = .scanning then (false, l)
  else
    let begun := { l with
      scanId := l.nextScanId
      state := .scanning
      error := ""
      records := []
      baseline := events
      deadline := now + scanTimeout timeout }
    match reply with
    | .ok _ => (true, begun)
    | .error error => (true, begun.fail (if error = "" then "scan_start_failed" else error))

/-- A scan of this generation has started. -/
def currentScanStarted (current : WifiScanEventMarkers) : Bool :=
  l.baseline.sequence < current.startedSequence

def poll (current : WifiScanEventMarkers) (now : Int) (results : ScanResults Record) :
    WifiScanLifecycle Record :=
  if l.state ≠ .scanning then l
  else if l.currentScanStarted current ∧ current.startedSequence < current.failedSequence ∧
      current.completedSequence < current.failedSequence then l.fail "scan_failed"
  else if l.currentScanStarted current ∧ current.startedSequence < current.completedSequence then
    if results.error ≠ "" then l.fail ("scan_results_failed: " ++ results.error)
    else { l with records := results.records, state := .ready, error := "" }
  else if l.deadline ≤ now then l.fail "timeout"
  else l

end WifiScanLifecycle

/-! ### Monitor and lifecycle -/

/-- The monitor and the lifecycle, with the number of physical starts and the texts of the events
that were recorded since the current start, newest first. -/
structure ScanSystem (Record : Type) where
  monitor : WpaEventFact := {}
  lifecycle : WifiScanLifecycle Record := {}
  physicalStarts : ℕ := 0
  sinceStart : List String := []

inductive ScanAction (Record : Type)
  | monitor (op : MonitorOperation)
  | start (now : Int) (reply : Except String Unit)
  | poll (now : Int) (results : ScanResults Record)

namespace ScanSystem

variable (s : ScanSystem Record)

/-- The event that an operation of the monitor records. -/
def recorded : MonitorOperation → List String
  | .event text => [text]
  | .attached _ | .channelLost => []

def record (op : MonitorOperation) : ScanSystem Record :=
  { s with monitor := op.perform s.monitor, sinceStart := recorded op ++ s.sinceStart }

def start (timeout now : Int) (reply : Except String Unit) : ScanSystem Record :=
  let started := s.lifecycle.start timeout (scanMarkers s.monitor) now reply
  { s with
    lifecycle := started.2
    physicalStarts := if started.1 then s.physicalStarts + 1 else s.physicalStarts
    sinceStart := if started.1 then [] else s.sinceStart }

def poll (now : Int) (results : ScanResults Record) : ScanSystem Record :=
  { s with lifecycle := s.lifecycle.poll (scanMarkers s.monitor) now results }

def perform (timeout : Int) (action : ScanAction Record) : ScanSystem Record :=
  match action with
  | .monitor op => s.record op
  | .start now reply => s.start timeout now reply
  | .poll now results => s.poll now results

/-- The system after a list of actions, oldest first. -/
def run (timeout : Int) (actions : List (ScanAction Record)) : ScanSystem Record :=
  actions.foldl (fun s action => s.perform timeout action) {}

end ScanSystem

end NetworkService.Wifi
