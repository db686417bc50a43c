import NetworkService.Config.EthernetConfig
import NetworkService.Library.Disk

/-!
# The configuration file, system call by system call

`stage_ethernet_config` writes a complete file under a name of its own, `commit_ethernet_config`
renames it onto the committed path, `discard_ethernet_config` unlinks it.  Here they work on a disk,
and what each system call answers is given from outside: `none` is success, a text the error it
reports.
-/

namespace NetworkService.Config.StagedFile

open Disk

/-- What `write` answers. -/
inductive WriteReply
  /-- `count + 1` bytes were taken, or all that were left. -/
  | wrote (count : ℕ)
  /-- `EINTR` -/
  | interrupted
  /-- Another error, or no byte taken. -/
  | failed (error : String)
  deriving DecidableEq

/-- What the system calls of one transaction answer.  After the listed writes the kernel takes all
that is left. -/
structure SystemReplies where
  openConfig : Option String := none
  mkdir : Option String := none
  openStage : Option String := none
  writes : List WriteReply := []
  fsync : Option String := none
  close : Option String := none
  unlink : Option String := none
  rename : Option String := none
  openDirectory : Option String := none
  fsyncDirectory : Option String := none
  deriving DecidableEq

abbrev ConfigDisk := Files String String

/-! ### System calls -/

/-- `mkdir`; an existing directory is a success. -/
def ensureDir (dir : String) (reply : Option String) : Except String Unit :=
  if dir = "" then .error "ethernet config directory is empty"
  else match reply with
    | none => .ok ()
    | some e => .error ("failed to create ethernet config directory: " ++ e)

/-- `open` with `O_CREAT | O_EXCL`: a file that exists is an error. -/
def openStage (path : String) (reply : Option String) (disk : ConfigDisk) :
    Except String Unit × ConfigDisk :=
  match disk.now path, reply with
  | none, none => (.ok (), disk.put path "")
  | none, some e => (.error ("failed to create staged ethernet config: " ++ e), disk)
  | some _, _ => (.error "failed to create staged ethernet config: File exists", disk)

/-- The first bytes of a text. -/
def written (data : String) (offset : ℕ) : String := String.ofList (data.toList.take offset)

/-- `write_all` -/
def writeAll (path data : String) : ℕ → List WriteReply → ConfigDisk →
    Except String Unit × ConfigDisk
  | _, [], disk => (.ok (), disk.put path data)
  | offset, reply :: replies, disk =>
    if offset < data.toList.length then
      match reply with
      | .wrote count =>
        writeAll path data (offset + count + 1) replies
          (disk.put path (written data (offset + count + 1)))
      | .interrupted => writeAll path data offset replies disk
      | .failed e => (.error e, disk)
    else (.ok (), disk)

/-- `unlink`, whose error is ignored. -/
def unlink (path : String) (reply : Option String) (disk : ConfigDisk) : ConfigDisk :=
  match reply with
  | none => disk.remove path
  | some _ => disk

/-! ### Staging, committing, discarding -/

/-- `EthernetConfigStage` -/
structure EthernetConfigStage where
  tempPath : String := ""
  finalPath : String := ""
  directory : String := ""
  valid : Bool := false
  deriving DecidableEq

def ethernetConfigPath (configDir : String) : String :=
  configDirectory configDir ++ "/smart_hmi_ethernet.conf"

/-- The name of a staged file: process id and sequence number make it the stage's own. -/
def stagePath (configDir : String) (pid sequence : ℕ) : String :=
  ethernetConfigPath configDir ++ "." ++ toString pid ++ "." ++ toString sequence ++ ".stage"

/-- `discard_ethernet_config` -/
def discardEthernetConfig (stage : EthernetConfigStage) (replies : SystemReplies)
    (disk : ConfigDisk) : ConfigDisk :=
  if stage.valid ∧ stage.tempPath ≠ "" then unlink stage.tempPath replies.unlink disk else disk

/-- What happens to the staged file between `open` and the end of `close`. -/
def fillStage (tmp data : String) (replies : SystemReplies) (disk : ConfigDisk) :
    Except String Unit × ConfigDisk :=
  match writeAll tmp data 0 replies.writes disk with
  | (.error e, disk) => (.error ("failed to write staged ethernet config: " ++ e), disk)
  | (.ok _, disk) =>
    match replies.fsync, replies.close with
    | some e, _ => (.error ("failed to fsync staged ethernet config: " ++ e), disk)
    | none, some e => (.error ("failed to close staged ethernet config: " ++ e), disk)
    | none, none => (.ok (), disk)

/-- `stage_ethernet_config`, for a stage that holds nothing yet. -/
def stageEthernetConfig (configDir : String) (pid sequence : ℕ) (config : EthernetConfig)
    (replies : SystemReplies) (disk : ConfigDisk) :
    Except String EthernetConfigStage × ConfigDisk :=
  let dir := configDirectory configDir
  match ensureDir dir replies.mkdir with
  | .error e => (.error e, disk)
  | .ok _ =>
    let tmp := stagePath configDir pid sequence
    match openStage tmp replies.openStage disk with
    | (.error e, disk) => (.error e, disk)
    | (.ok _, disk) =>
      match fillStage tmp (serializeEthernetConfig config) replies disk with
      | (.error e, disk) => (.error e, unlink tmp replies.unlink disk)
      | (.ok _, disk) => (.ok ⟨tmp, ethernetConfigPath configDir, dir, true⟩, disk)

/-- `commit_ethernet_config`, with the stage it leaves behind. -/
def commitEthernetConfig (stage : EthernetConfigStage) (replies : SystemReplies)
    (disk : ConfigDisk) : EthernetConfigCommitResult × EthernetConfigStage × ConfigDisk :=
  if ¬stage.valid ∨ stage.tempPath = "" ∨ stage.finalPath = "" ∨ stage.directory = "" then
    (.failed "ethernet config stage is invalid", stage, disk)
  else match replies.rename with
    | some e => (.failed ("failed to commit ethernet config: " ++ e), stage, disk)
    | none =>
      let disk := disk.rename stage.tempPath stage.finalPath
      match replies.openDirectory, replies.fsyncDirectory with
      | none, none => (.committedDurable, {}, disk)
      | some e, _ | none, some e =>
        (.committedDurabilityUncertain
          ("ethernet config committed but directory fsync failed: " ++ e), {}, disk)

/-- `load_ethernet_config`: a file that cannot be opened is as good as none. -/
def loadEthernetConfig (configDir iface : String) (replies : SystemReplies) (disk : ConfigDisk) :
    EthernetConfig :=
  match replies.openConfig with
  | none => Config.loadEthernetConfig (disk.now (ethernetConfigPath configDir)) iface
  | some _ => Config.loadEthernetConfig none iface

/-! ### Names -/

theorem stagePath_ne (configDir : String) (pid sequence : ℕ) :
    ethernetConfigPath configDir ≠ stagePath configDir pid sequence := by
  intro h
  have hlength := congrArg (fun path => path.toList.length) h
  simp only [stagePath, String.toList_append, List.length_append] at hlength
  have hdot : ".".toList.length = 1 := by decide
  omega

theorem stagePath_ne_empty (configDir : String) (pid sequence : ℕ) :
    stagePath configDir pid sequence ≠ "" := by
  intro h
  have hlength := congrArg (fun path => path.toList.length) h
  simp only [stagePath, String.toList_append, List.length_append] at hlength
  have hdot : ".".toList.length = 1 := by decide
  have hempty : "".toList.length = 0 := by decide
  omega

theorem ethernetConfigPath_ne_empty (configDir : String) : ethernetConfigPath configDir ≠ "" := by
  intro h
  have hlength := congrArg (fun path => path.toList.length) h
  simp only [ethernetConfigPath, String.toList_append, List.length_append] at hlength
  have hname : "/smart_hmi_ethernet.conf".toList.length = 24 := by decide
  have hempty : "".toList.length = 0 := by decide
  omega

/-! ### What the functions do to the disk -/

section Disks

/-- A written-out file is complete, and only the staged path was touched. -/
theorem writeAll_spec (path data : String) (offset : ℕ) (replies : List WriteReply)
    (disk : ConfigDisk) (hstart : disk.now path = some (written data offset)) :
    Apart path disk (writeAll path data offset replies disk).2 ∧
      ((writeAll path data offset replies disk).1 = .ok () →
        (writeAll path data offset replies disk).2.now path = some data) := by
  induction replies generalizing offset disk with
  | nil => exact ⟨.put path disk data, fun _ => disk.put_now⟩
  | cons reply replies ih =>
    unfold writeAll
    by_cases hleft : offset < data.toList.length
    · rw [if_pos hleft]
      cases reply with
      | wrote count =>
        have hrest := ih (offset + count + 1) (disk.put path (written data (offset + count + 1)))
          disk.put_now
        exact ⟨(Apart.put path disk _).trans hrest.1, hrest.2⟩
      | interrupted => exact ih offset disk hstart
      | failed e => exact ⟨.refl path disk, fun hok => nomatch hok⟩
    · rw [if_neg hleft]
      refine ⟨.refl path disk, fun _ => ?_⟩
      rw [hstart, written, List.take_of_length_le (Nat.not_lt.mp hleft), String.ofList_toList]

theorem unlink_apart (path : String) (reply : Option String) (disk : ConfigDisk) :
    Apart path disk (unlink path reply disk) := by
  cases reply with
  | none => exact .remove path disk
  | some e => exact .refl path disk

theorem fillStage_spec (replies : SystemReplies) (tmp data : String) (disk : ConfigDisk) (hempty : disk.now tmp = some "") :
    Apart tmp disk (fillStage tmp data replies disk).2 ∧
      ((fillStage tmp data replies disk).1 = .ok () →
        (fillStage tmp data replies disk).2.now tmp = some data) := by
  obtain ⟨hapart, hcomplete⟩ := writeAll_spec tmp data 0 replies.writes disk hempty
  unfold fillStage
  cases hwrite : writeAll tmp data 0 replies.writes disk with
  | mk result disk' =>
    rw [hwrite] at hapart hcomplete
    cases result with
    | error e => exact ⟨hapart, fun hok => nomatch hok⟩
    | ok u =>
      cases replies.fsync with
      | some e => exact ⟨hapart, fun hok => nomatch hok⟩
      | none =>
        cases replies.close with
        | some e => exact ⟨hapart, fun hok => nomatch hok⟩
        | none => exact ⟨hapart, fun _ => hcomplete rfl⟩

/-- The staged file of a transaction is complete, new and the only file that staging touched. -/
structure Staged (disk disk' : ConfigDisk) (tmp text : String) : Prop where
  apart : Apart tmp disk disk'
  fresh : disk.now tmp = none
  complete : disk'.now tmp = some text

/-- **How staging goes**: it fails, and if the staged file could be unlinked nothing is left of it;
or there is a valid stage with a complete file. -/
theorem stageEthernetConfig_spec (configDir : String) (pid sequence : ℕ) (config : EthernetConfig)
    (replies : SystemReplies) (disk : ConfigDisk) :
    (∃ e disk', stageEthernetConfig configDir pid sequence config replies disk = (.error e, disk') ∧
      Apart (stagePath configDir pid sequence) disk disk' ∧
      (replies.unlink = none →
        disk'.now (stagePath configDir pid sequence) = disk.now (stagePath configDir pid sequence))) ∨
    (∃ disk', configDirectory configDir ≠ "" ∧
      stageEthernetConfig configDir pid sequence config replies disk =
        (.ok ⟨stagePath configDir pid sequence, ethernetConfigPath configDir,
          configDirectory configDir, true⟩, disk') ∧
      Staged disk disk' (stagePath configDir pid sequence) (serializeEthernetConfig config)) := by
  unfold stageEthernetConfig ensureDir
  dsimp only
  by_cases hdir : configDirectory configDir = ""
  · rw [if_pos hdir]
    exact .inl ⟨_, disk, rfl, .refl _ _, fun _ => rfl⟩
  rw [if_neg hdir]
  cases replies.mkdir with
  | some e => exact .inl ⟨_, disk, rfl, .refl _ _, fun _ => rfl⟩
  | none =>
    unfold openStage
    cases hfresh : disk.now (stagePath configDir pid sequence) with
    | some text => exact .inl ⟨_, disk, rfl, .refl _ _, fun _ => hfresh⟩
    | none =>
      cases replies.openStage with
      | some e => exact .inl ⟨_, disk, rfl, .refl _ _, fun _ => hfresh⟩
      | none =>
        obtain ⟨hapart, hcomplete⟩ := fillStage_spec replies
          (stagePath configDir pid sequence) (serializeEthernetConfig config)
          (disk.put (stagePath configDir pid sequence) "") disk.put_now
        have hopened := Apart.put (stagePath configDir pid sequence) disk ""
        dsimp only
        cases hfill : fillStage (stagePath configDir pid sequence) (serializeEthernetConfig config)
            replies (disk.put (stagePath configDir pid sequence) "") with
        | mk result disk' =>
          rw [hfill] at hapart hcomplete
          cases result with
          | error e =>
            refine .inl ⟨_, _, rfl, (hopened.trans hapart).trans (unlink_apart _ _ _), fun hunlink => ?_⟩
            rw [hunlink]
            exact disk'.remove_now
          | ok u => exact .inr ⟨disk', hdir, rfl, hopened.trans hapart, hfresh, hcomplete rfl⟩

/-- **How a commit goes**: `rename` fails and nothing has changed, or the staged file is at the
committed path, whatever becomes of the directory. -/
theorem commitEthernetConfig_spec (stage : EthernetConfigStage) (replies : SystemReplies)
    (disk : ConfigDisk) (hvalid : stage.valid = true) (htemp : stage.tempPath ≠ "")
    (hfinal : stage.finalPath ≠ "") (hdir : stage.directory ≠ "") :
    (∃ e, commitEthernetConfig stage replies disk = (.failed e, stage, disk)) ∨
    commitEthernetConfig stage replies disk =
      (.committedDurable, {}, disk.rename stage.tempPath stage.finalPath) ∨
    ∃ e, commitEthernetConfig stage replies disk =
      (.committedDurabilityUncertain e, {}, disk.rename stage.tempPath stage.finalPath) := by
  have hstage : ¬(¬stage.valid = true ∨ stage.tempPath = "" ∨ stage.finalPath = "" ∨
      stage.directory = "") := by
    rintro (h | h | h | h)
    · exact h hvalid
    · exact htemp h
    · exact hfinal h
    · exact hdir h
  unfold commitEthernetConfig
  rw [if_neg hstage]
  cases replies.rename with
  | some e => exact .inl ⟨_, rfl⟩
  | none =>
    cases replies.openDirectory with
    | some e => exact .inr (.inr ⟨_, rfl⟩)
    | none =>
      cases replies.fsyncDirectory with
      | some e => exact .inr (.inr ⟨_, rfl⟩)
      | none => exact .inr (.inl rfl)

/-- Discarding what was staged leaves nothing behind if the file can be unlinked. -/
theorem Staged.discard {disk disk' : ConfigDisk} {text : String} (stage : EthernetConfigStage)
    (replies : SystemReplies) (h : Staged disk disk' stage.tempPath text) (hvalid : stage.valid = true)
    (hpath : stage.tempPath ≠ "") :
    Apart stage.tempPath disk (discardEthernetConfig stage replies disk') ∧
      (replies.unlink = none → (discardEthernetConfig stage replies disk').now stage.tempPath =
        disk.now stage.tempPath) := by
  unfold discardEthernetConfig
  rw [if_pos ⟨hvalid, hpath⟩]
  refine ⟨h.apart.trans (unlink_apart _ _ _), fun hunlink => ?_⟩
  rw [hunlink, h.fresh]
  exact disk'.remove_now

end Disks

end NetworkService.Config.StagedFile
