import NetworkService.Config.StagedFile
import NetworkService.Daemon.EthernetTransaction

/-!
# The Ethernet transaction on a disk

The transaction of `EthernetTransaction`, with the files on a disk and every system call answered
from outside.  Whatever fails, the committed file and what was applied last belong together: after a
success both are the new configuration, after a failure the file is the old one and the last apply
was for what it says.  The committed path never shows anything but the old or the new file.
-/

namespace NetworkService.Daemon

open Disk Fallible ControlPlane Config
open Config.StagedFile (SystemReplies ConfigDisk EthernetConfigStage Staged ethernetConfigPath
  stagePath)

variable {W : Type}

/-- The daemon with its disk, and the calls of `apply_ethernet_runtime` so far, newest first, with
what they returned. -/
structure DiskDaemon (W : Type) where
  disk : ConfigDisk
  control : Run W
  applies : List (EthernetConfig × Bool) := []

section Transaction

variable (ops : NetworkControlPlaneOps W)

/-- `apply_ethernet_runtime`, noted. -/
def applyNoted (iface : String) (config : EthernetConfig) (d : DiskDaemon W) :
    Except String Unit × DiskDaemon W :=
  match applyEthernetRuntime ops iface config d.control with
  | .ok _ control => (.ok (), { d with control := control, applies := (config, true) :: d.applies })
  | .error e control =>
    (.error e, { d with control := control, applies := (config, false) :: d.applies })

def rollBackNoted (iface : String) (previous : EthernetConfig) (failure : String)
    (d : DiskDaemon W) : Except OperationFailure EthernetConfig × DiskDaemon W :=
  match applyNoted ops iface previous d with
  | (.ok _, d) => (.error ⟨500, failureWithRollback failure ""⟩, d)
  | (.error e, d) => (.error ⟨500, failureWithRollback failure e⟩, d)

/-- `apply_ethernet_transaction`; `sequence` is the number its stage draws. -/
def transactOnDisk (replies : SystemReplies) (configDir iface : String) (pid sequence : ℕ)
    (desired : EthernetConfig) (d : DiskDaemon W) :
    Except OperationFailure EthernetConfig × DiskDaemon W :=
  let previous := StagedFile.loadEthernetConfig configDir iface replies d.disk
  match StagedFile.stageEthernetConfig configDir pid sequence desired replies d.disk with
  | (.error error, disk) =>
    (.error ⟨500, "failed to stage ethernet config: " ++ error⟩, { d with disk := disk })
  | (.ok stage, disk) =>
    match applyNoted ops iface desired { d with disk := disk } with
    | (.error error, d) =>
      rollBackNoted ops iface previous
        (if error = "" then "failed to apply ethernet runtime config" else error)
        { d with disk := StagedFile.discardEthernetConfig stage replies d.disk }
    | (.ok _, d) =>
      match StagedFile.commitEthernetConfig stage replies d.disk with
      | (.failed error, stage, disk) =>
        rollBackNoted ops iface previous
          (if error = "" then "failed to commit ethernet config" else error)
          { d with disk := StagedFile.discardEthernetConfig stage replies disk }
      | (_, _, disk) => (.ok desired, { d with disk := disk })

end Transaction

/-! ### What each part does -/

section Parts

variable (ops : NetworkControlPlaneOps W) (iface : String)

theorem applyNoted_spec (config : EthernetConfig) (d : DiskDaemon W) :
    (applyNoted ops iface config d).2.disk = d.disk ∧
      (applyNoted ops iface config d).2.control =
        after (applyEthernetRuntime ops iface config) d.control ∧
      (applyNoted ops iface config d).2.applies =
        (config, completes (applyEthernetRuntime ops iface config) d.control) :: d.applies := by
  unfold applyNoted after completes
  cases applyEthernetRuntime ops iface config d.control <;> exact ⟨rfl, rfl, rfl⟩

/-- Applying does not look at the disk. -/
theorem applyNoted_disk (config : EthernetConfig) (d : DiskDaemon W) (disk : ConfigDisk) :
    applyNoted ops iface config { d with disk := disk } =
      ((applyNoted ops iface config d).1, { (applyNoted ops iface config d).2 with disk := disk }) := by
  unfold applyNoted
  dsimp only
  cases applyEthernetRuntime ops iface config d.control <;> rfl

/-- A rollback reports a failure, applies the previous configuration and leaves the disk alone. -/
theorem rollBackNoted_spec (previous : EthernetConfig) (failure : String) (d : DiskDaemon W) :
    (∃ e, (rollBackNoted ops iface previous failure d).1 = .error e) ∧
      (rollBackNoted ops iface previous failure d).2 = (applyNoted ops iface previous d).2 := by
  unfold rollBackNoted
  cases applyNoted ops iface previous d with
  | mk result d' => cases result <;> exact ⟨⟨_, rfl⟩, rfl⟩

end Parts

/-! ### File and runtime -/

/-- Where a transaction may leave the disk and the runtime; `staged` says whether staging
succeeded, `unlinks` that the staged file can be unlinked. -/
inductive Agreed (ops : NetworkControlPlaneOps W) (iface path tmp : String)
    (previous desired : EthernetConfig) (staged : Bool) (unlinks : Prop) (d : DiskDaemon W) :
    Except OperationFailure EthernetConfig × DiskDaemon W → Prop
  | notStaged {failure : OperationFailure} {disk : ConfigDisk} (staging : staged = false)
      (apart : Apart tmp d.disk disk) (gone : unlinks → disk.now tmp = d.disk.now tmp) :
      Agreed ops iface path tmp previous desired staged unlinks d
        (.error failure, { d with disk := disk })
  | rolledBack {failure : OperationFailure} {tried : DiskDaemon W} (staging : staged = true)
      (apart : Apart tmp d.disk tried.disk) (gone : unlinks → tried.disk.now tmp = d.disk.now tmp) :
      Agreed ops iface path tmp previous desired staged unlinks d
        (.error failure, (applyNoted ops iface previous tried).2)
  | committed {disk : ConfigDisk} (staging : staged = true)
      (stage : Staged d.disk disk tmp (serializeEthernetConfig desired))
      (applied : completes (applyEthernetRuntime ops iface desired) d.control = true) :
      Agreed ops iface path tmp previous desired staged unlinks d (.ok desired,
        { (applyNoted ops iface desired d).2 with disk := disk.rename tmp path })

/-- Rolling back with the staged file gone. -/
theorem rollBackNoted_agreed (ops : NetworkControlPlaneOps W) (iface path : String) {tmp : String}
    (previous desired : EthernetConfig) {unlinks : Prop} (failure : String) (d tried : DiskDaemon W)
    {left : ConfigDisk} (apart : Apart tmp d.disk left)
    (gone : unlinks → left.now tmp = d.disk.now tmp) :
    Agreed ops iface path tmp previous desired true unlinks d
      (rollBackNoted ops iface previous failure { tried with disk := left }) := by
  obtain ⟨⟨e, herror⟩, hrest⟩ :=
    rollBackNoted_spec ops iface previous failure { tried with disk := left }
  rw [show rollBackNoted ops iface previous failure _ = (.error e, _) from Prod.ext herror hrest]
  exact .rolledBack rfl apart gone

section Outcomes

variable {ops : NetworkControlPlaneOps W} {iface path tmp : String}
  {previous desired : EthernetConfig} {staged : Bool} {unlinks : Prop} {d : DiskDaemon W}
  {result : Except OperationFailure EthernetConfig × DiskDaemon W}

theorem Agreed.of_ok (h : Agreed ops iface path tmp previous desired staged unlinks d result)
    (hpath : path ≠ tmp) {config : EthernetConfig} (hresult : result.1 = .ok config) :
    config = desired ∧ result.2.disk.now path = some (serializeEthernetConfig desired) ∧
      result.2.applies = (desired, true) :: d.applies ∧
      applyEthernetRuntime ops iface desired d.control = .ok () result.2.control := by
  cases h with
  | notStaged _ _ _ => exact nomatch hresult
  | rolledBack _ _ _ => exact nomatch hresult
  | @committed disk _ hstage happlied =>
    obtain ⟨-, hcontrol, happlies⟩ := applyNoted_spec ops iface desired d
    refine ⟨(Except.ok.inj hresult).symm, ?_, ?_, ?_⟩
    · exact (disk.rename_target hpath).trans hstage.complete
    · exact happlies.trans (by rw [happlied])
    · exact (run_of_completes happlied).trans (congrArg (EStateM.Result.ok ()) hcontrol.symm)

theorem Agreed.of_error (h : Agreed ops iface path tmp previous desired staged unlinks d result)
    (hpath : path ≠ tmp) {failure : OperationFailure} (hresult : result.1 = .error failure) :
    result.2.disk.now path = d.disk.now path ∧
      (staged = true → ∃ completed, result.2.applies.head? = some (previous, completed)) ∧
      (staged = false → result.2.applies = d.applies ∧ result.2.control = d.control) := by
  cases h with
  | notStaged hstaged hapart _ =>
    refine ⟨hapart.now path hpath, fun h => ?_, fun _ => ⟨rfl, rfl⟩⟩
    exact nomatch hstaged.symm.trans h
  | @rolledBack _ tried hstaged hapart _ =>
    obtain ⟨hdisk, -, happlies⟩ := applyNoted_spec ops iface previous tried
    refine ⟨?_, fun _ => ⟨_, congrArg List.head? happlies⟩, fun h => ?_⟩
    · exact (congrArg (fun disk => disk.now path) hdisk).trans (hapart.now path hpath)
    · exact nomatch hstaged.symm.trans h
  | committed _ _ _ => exact nomatch hresult

/-- No file but the committed one has changed. -/
theorem Agreed.others (h : Agreed ops iface path tmp previous desired staged unlinks d result)
    (hunlinks : unlinks) {other : String} (hother : other ≠ path) :
    result.2.disk.now other = d.disk.now other := by
  have hleft : ∀ disk : ConfigDisk, Apart tmp d.disk disk → disk.now tmp = d.disk.now tmp →
      disk.now other = d.disk.now other := by
    intro disk hapart hgone
    by_cases htmp : other = tmp
    · rw [htmp, hgone]
    · exact hapart.now other htmp
  cases h with
  | notStaged _ hapart hgone => exact hleft _ hapart (hgone hunlinks)
  | @rolledBack _ tried _ hapart hgone =>
    rw [(applyNoted_spec ops iface previous tried).1]
    exact hleft _ hapart (hgone hunlinks)
  | @committed disk _ hstage _ =>
    show (disk.rename tmp path).now other = d.disk.now other
    by_cases htmp : other = tmp
    · rw [htmp, disk.rename_source, hstage.fresh]
    · rw [disk.rename_other htmp hother, hstage.apart.now other htmp]

/-- The committed path on the way. -/
theorem Agreed.past (h : Agreed ops iface path tmp previous desired staged unlinks d result)
    (hpath : path ≠ tmp) :
    ∃ added, result.2.disk.past = added ++ d.disk.past ∧
      ∀ held ∈ added, held path = d.disk.now path := by
  have hleft : ∀ disk : ConfigDisk, Apart tmp d.disk disk →
      ∃ added, disk.past = added ++ d.disk.past ∧ ∀ held ∈ added, held path = d.disk.now path := by
    intro disk hapart
    obtain ⟨added, hpast, hheld⟩ := hapart.past
    exact ⟨added, hpast, fun held hmem => hheld held hmem path hpath⟩
  cases h with
  | notStaged _ hapart _ => exact hleft _ hapart
  | @rolledBack _ tried _ hapart _ =>
    rw [(applyNoted_spec ops iface previous tried).1]
    exact hleft _ hapart
  | @committed disk _ hstage _ =>
    obtain ⟨added, hpast, hheld⟩ := hleft disk hstage.apart
    refine ⟨disk.now :: added, congrArg (disk.now :: ·) hpast, fun held hmem => ?_⟩
    rcases List.mem_cons.mp hmem with rfl | hmem
    · exact hstage.apart.now path hpath
    · exact hheld held hmem

end Outcomes

section Agreement

variable (ops : NetworkControlPlaneOps W) (replies : SystemReplies) (configDir iface : String)
  (pid sequence : ℕ) (desired : EthernetConfig) (d : DiskDaemon W)

/-- **Every way a transaction can go on a disk.** -/
theorem transactOnDisk_agreed :
    Agreed ops iface (ethernetConfigPath configDir) (stagePath configDir pid sequence)
      (StagedFile.loadEthernetConfig configDir iface replies d.disk) desired
      (StagedFile.stageEthernetConfig configDir pid sequence desired replies d.disk).1.isOk
      (replies.unlink = none) d
      (transactOnDisk ops replies configDir iface pid sequence desired d) := by
  unfold transactOnDisk
  dsimp only
  rcases StagedFile.stageEthernetConfig_spec configDir pid sequence desired replies d.disk with
    ⟨e, disk, hstage, hapart, hgone⟩ | ⟨disk, hdir, hstage, hstaged⟩
  · rw [hstage]
    exact .notStaged rfl hapart hgone
  rw [hstage, show (Except.ok _, disk).1.isOk = true from rfl]
  dsimp only
  rw [applyNoted_disk]
  -- what is left when the staged file is discarded
  obtain ⟨hapart, hgone⟩ := Staged.discard
    ⟨stagePath configDir pid sequence, ethernetConfigPath configDir, configDirectory configDir, true⟩
    replies hstaged rfl (StagedFile.stagePath_ne_empty configDir pid sequence)
  dsimp only at hapart hgone
  have hback := fun failure tried => rollBackNoted_agreed ops iface (ethernetConfigPath configDir)
    (StagedFile.loadEthernetConfig configDir iface replies d.disk) desired failure d tried hapart hgone
  cases happly : applyNoted ops iface desired d with
  | mk result d' =>
    cases result with
    | error e =>
      dsimp only
      exact hback _ d'
    | ok u =>
      have hcompletes : completes (applyEthernetRuntime ops iface desired) d.control = true := by
        unfold completes
        unfold applyNoted at happly
        cases hrun : applyEthernetRuntime ops iface desired d.control with
        | ok u' control => rfl
        | error e control =>
          rw [hrun] at happly
          exact nomatch happly
      have hcommitted : Agreed ops iface (ethernetConfigPath configDir)
          (stagePath configDir pid sequence)
          (StagedFile.loadEthernetConfig configDir iface replies d.disk) desired true
          (replies.unlink = none) d (.ok desired, { d' with
            disk := disk.rename (stagePath configDir pid sequence) (ethernetConfigPath configDir) }) := by
        have hagreed : ∀ result, result = applyNoted ops iface desired d →
            Agreed ops iface (ethernetConfigPath configDir) (stagePath configDir pid sequence)
              (StagedFile.loadEthernetConfig configDir iface replies d.disk) desired true
              (replies.unlink = none) d (.ok desired, { result.2 with
                disk := disk.rename (stagePath configDir pid sequence)
                  (ethernetConfigPath configDir) }) := by
          rintro result rfl
          exact .committed rfl hstaged hcompletes
        exact hagreed _ happly.symm
      rcases StagedFile.commitEthernetConfig_spec ⟨stagePath configDir pid sequence,
          ethernetConfigPath configDir, configDirectory configDir, true⟩ replies disk rfl
          (StagedFile.stagePath_ne_empty configDir pid sequence)
          (StagedFile.ethernetConfigPath_ne_empty configDir) hdir with
        ⟨e, hcommit⟩ | hcommit | ⟨e, hcommit⟩
      · dsimp only
        rw [hcommit]
        dsimp only
        exact hback _ d'
      · dsimp only
        rw [hcommit]
        exact hcommitted
      · dsimp only
        rw [hcommit]
        exact hcommitted

end Agreement

/-- **Ethernet configuration and runtime never split**, whatever any system call and any port
answers: after a success the file is the serialization of the desired configuration and the one apply
was for it and went through, after a failure the file is the one before and the last apply, if one
was made, was for the configuration it held.  A staged file that can be unlinked does not remain, and
at every earlier point of the transaction the committed path held the old or the new file. -/
theorem config_and_runtime_agree (ops : NetworkControlPlaneOps W) (replies : SystemReplies)
    (configDir iface : String) (pid sequence : ℕ) (desired : EthernetConfig) (d : DiskDaemon W) :
    let path := ethernetConfigPath configDir
    let previous := StagedFile.loadEthernetConfig configDir iface replies d.disk
    let staging := StagedFile.stageEthernetConfig configDir pid sequence desired replies d.disk
    let result := transactOnDisk ops replies configDir iface pid sequence desired d
    (∀ config, result.1 = .ok config →
      config = desired ∧ result.2.disk.now path = some (serializeEthernetConfig desired) ∧
      result.2.applies = (desired, true) :: d.applies ∧
      applyEthernetRuntime ops iface desired d.control = .ok () result.2.control) ∧
    (∀ failure, result.1 = .error failure →
      result.2.disk.now path = d.disk.now path ∧
      (staging.1.isOk = true → ∃ completed, result.2.applies.head? = some (previous, completed)) ∧
      (staging.1.isOk = false → result.2.applies = d.applies ∧ result.2.control = d.control)) ∧
    (replies.unlink = none → ∀ other, other ≠ path →
      result.2.disk.now other = d.disk.now other) ∧
    ∃ added, result.2.disk.past = added ++ d.disk.past ∧ ∀ held ∈ added,
      held path = d.disk.now path ∨ held path = some (serializeEthernetConfig desired) := by
  intro path previous staging result
  have hpath := StagedFile.stagePath_ne configDir pid sequence
  have hagreed : Agreed ops iface path (stagePath configDir pid sequence) previous desired
      staging.1.isOk (replies.unlink = none) d result :=
    transactOnDisk_agreed ops replies configDir iface pid sequence desired d
  obtain ⟨added, hpast, hheld⟩ := hagreed.past hpath
  exact ⟨fun _ => hagreed.of_ok hpath, fun _ => hagreed.of_error hpath,
    fun hunlinks _ => hagreed.others hunlinks,
    added, hpast, fun held hmem => .inl (hheld held hmem)⟩

end NetworkService.Daemon
