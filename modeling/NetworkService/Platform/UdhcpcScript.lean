import NetworkService.Library.Disk
import NetworkService.Library.Execution
import NetworkService.Platform.DhcpLeaseStore

/-!
# Event scripts beside the service

`udhcpc` runs the generated script once for every event, each time as a process of its own, also
after the service has stopped the client.  The service calls its lease store from one thread.  Here
every command of every script and every file operation of the service is one step, and any of them
may come next.
-/

namespace NetworkService.Platform

open Disk DhcpLeaseStore

abbrev LeaseFiles := Files Path (List Char)

/-! ### The script -/

/-- One run of the script of a generation: its process, its argument and what `udhcpc` puts in its
environment. -/
structure ScriptRun where
  iface : String
  generation : Generation
  pid : ℕ
  event : String
  ip : String
  subnet : String
  router : String
  dns : String
  deriving DecidableEq

namespace ScriptRun

/-- `lease` -/
def lease (run : ScriptRun) : Path := pathFor run.iface run.generation.text

/-- `tmp`, with the process for `$$` -/
def tmp (run : ScriptRun) : Path := run.lease ++ '.' :: Nat.toDigits 10 run.pid

/-- The lines that `write_fact` prints. -/
def entries (run : ScriptRun) : List (String × String) :=
  [("generation", run.generation.text), ("event", run.event), ("ip", run.ip),
    ("subnet", run.subnet), ("router", run.router), ("dns", run.dns)]

def text (run : ScriptRun) : List Char := run.entries.flatMap factLine

/-- The arguments for which `case` calls `write_fact`. -/
def handled (run : ScriptRun) : Bool :=
  run.event = "deconfig" ∨ run.event = "bound" ∨ run.event = "renew"

/-- `is_current`: the marker can be read, its first line ends, and it names this generation. -/
def isCurrent (run : ScriptRun) (files : LeaseFiles) : Bool :=
  match files.now (generationPathFor run.iface) with
  | none => false
  | some marker =>
    '\n' ∈ marker ∧ String.ofList (marker.takeWhile (· ≠ '\n')) = run.generation.text

end ScriptRun

/-- The command that a script comes to next. -/
inductive ScriptPoint
  | check
  | write
  | recheck
  | discard
  | rename
  | verify
  | remove
  | exited
  deriving DecidableEq

/-- A script process.  `published` remembers whether its file has become the lease. -/
structure ScriptProcess where
  run : ScriptRun
  point : ScriptPoint
  published : Bool := false
  deriving DecidableEq

namespace ScriptProcess

def start (run : ScriptRun) : ScriptProcess := ⟨run, if run.handled then .check else .exited, false⟩

def live (process : ScriptProcess) : Bool := process.point ≠ .exited

/-- One command of `write_fact`. -/
def command (process : ScriptProcess) (files : LeaseFiles) : ScriptProcess × LeaseFiles :=
  match process.point with
  | .check =>
    ({ process with point := if process.run.isCurrent files then .write else .exited }, files)
  | .write => ({ process with point := .recheck }, files.put process.run.tmp process.run.text)
  | .recheck =>
    ({ process with point := if process.run.isCurrent files then .rename else .discard }, files)
  | .discard => ({ process with point := .exited }, files.remove process.run.tmp)
  | .rename =>
    if (files.now process.run.tmp).isSome then
      ({ process with point := .verify, published := true },
        files.rename process.run.tmp process.run.lease)
    else ({ process with point := .exited }, files)
  | .verify =>
    ({ process with point := if process.run.isCurrent files then .exited else .remove }, files)
  | .remove => ({ process with point := .exited }, files.remove process.run.lease)
  | .exited => (process, files)

/-- A command fails, or the process is killed; an interrupted write leaves what it had written. -/
def stop (process : ScriptProcess) (files : LeaseFiles) (left : Option (List Char)) :
    ScriptProcess × LeaseFiles :=
  ({ process with point := .exited },
    match process.point, left with
    | .write, some text => files.put process.run.tmp text
    | _, _ => files)

end ScriptProcess

/-! ### The service -/

/-- What the service is doing with the store. -/
inductive ServicePoint
  | idle
  | reading (iface active : String)
  | returned (iface : String) (reply : Except String (Option DhcpLeaseFact))
  | clearingLease (iface generation : String)
  | clearingMarker (iface : String)
  deriving DecidableEq

/-- No call of the store is going on. -/
def ServicePoint.free : ServicePoint → Bool
  | idle | returned _ _ => true
  | reading _ _ | clearingLease _ _ | clearingMarker _ => false

/-- `activate_generation` where the files can be written; the process is that of the service. -/
def activateGeneration (files : LeaseFiles) (iface generation : String) (pid : ℕ) :
    Except String LeaseFiles :=
  if !isSafeIface iface || !isSafeGeneration generation then .error "invalid DHCP lease generation"
  else
    let path := generationPathFor iface
    let tmp := path ++ '.' :: (Nat.toDigits 10 pid ++ ".tmp".toList)
    .ok ((files.put tmp (generation.toList ++ ['\n'])).rename tmp path)

/-! ### The system -/

structure LeaseSystem where
  files : LeaseFiles
  scripts : List ScriptProcess
  service : ServicePoint

inductive LeaseStep
  | spawn (run : ScriptRun)
  | command (i : ℕ)
  | stop (i : ℕ) (left : Option (List Char))
  | activate (iface : String) (generation : Generation) (pid : ℕ)
  | read (iface : String)
  | readLease
  | clear (iface : String)
  | unlinkLease
  | unlinkMarker

namespace LeaseSystem

/-- An empty directory and nobody to write to it. -/
def boot : LeaseSystem := ⟨⟨fun _ => none, []⟩, [], .idle⟩

/-- The marker of an interface as the service reads it. -/
def active (s : LeaseSystem) (iface : String) : Except String (Option String) :=
  activeGeneration iface (s.files.now (generationPathFor iface))

/-- Script `i` has done something. -/
def withScript (s : LeaseSystem) (i : ℕ) (outcome : ScriptProcess × LeaseFiles) : LeaseSystem :=
  { s with scripts := s.scripts.set i outcome.1, files := outcome.2 }

def step : LeaseStep → LeaseSystem → Option LeaseSystem
  | .spawn run, s =>
    -- the processes of two running scripts differ
    if s.scripts.any fun process => process.live && process.run.pid == run.pid then none
    else some { s with scripts := s.scripts ++ [.start run] }
  | .command i, s => s.scripts[i]?.map fun process => s.withScript i (process.command s.files)
  | .stop i left, s => s.scripts[i]?.map fun process => s.withScript i (process.stop s.files left)
  | .activate iface generation pid, s =>
    if s.service.free then
      match activateGeneration s.files iface generation.text pid with
      | .error _ => none
      | .ok files => some { s with files := files, service := .idle }
    else none
  | .read iface, s =>
    if s.service.free then
      match s.active iface with
      | .error e => some { s with service := .returned iface (.error e) }
      | .ok none => some { s with service := .returned iface (.ok none) }
      | .ok (some active) => some { s with service := .reading iface active }
    else none
  | .readLease, s =>
    match s.service with
    | .reading iface active =>
      some { s with
        service := .returned iface (readLease iface active (s.files.now (pathFor iface active))) }
    | _ => none
  | .clear iface, s =>
    if s.service.free && isSafeIface iface then
      match s.active iface with
      | .ok (some generation) => some { s with service := .clearingLease iface generation }
      | _ => some { s with service := .clearingMarker iface }
    else none
  | .unlinkLease, s =>
    match s.service with
    | .clearingLease iface generation =>
      some { s with
        files := s.files.remove (pathFor iface generation), service := .clearingMarker iface }
    | _ => none
  | .unlinkMarker, s =>
    match s.service with
    | .clearingMarker iface =>
      some { s with files := s.files.remove (generationPathFor iface), service := .idle }
    | _ => none

/-- A read that nothing interrupts is `DhcpLeaseStore::read`. -/
theorem read_uninterrupted {s : LeaseSystem} (hfree : s.service.free = true) (iface : String) :
    (∃ t, step (.read iface) s = some t ∧
      t.service = .returned iface (DhcpLeaseStore.read s.files.now iface)) ∨
    ∃ t u, step (.read iface) s = some t ∧ step .readLease t = some u ∧
      u.service = .returned iface (DhcpLeaseStore.read s.files.now iface) := by
  simp only [step, hfree, if_true, DhcpLeaseStore.read]
  unfold active
  cases activeGeneration iface (s.files.now (generationPathFor iface)) with
  | error e => exact Or.inl ⟨_, rfl, rfl⟩
  | ok marker =>
    cases marker with
    | none => exact Or.inl ⟨_, rfl, rfl⟩
    | some active => exact Or.inr ⟨_, _, rfl, rfl, rfl⟩

end LeaseSystem

end NetworkService.Platform
