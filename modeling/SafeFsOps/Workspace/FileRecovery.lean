import SafeFsOps.OperationJournal.FileRollback
import SafeFsOps.OperationJournal.RecoveryRetries
import SafeFsOps.Workspace.FailureEvidence

/-!
# Recovering a file

The other half of rolling a file back (`FileRollback.lean`): a workspace finds the batch
that a write or a deletion left behind, puts it up for recovery, plans from its records,
and carries the plan out. It can be killed in the middle of it, and another one begins
anew, with what is on record by then. `Retraceable` is what all of them keep.

> `file_rollback`: after a write or a deletion that was cut short anywhere, and any
> recoveries that were, the file is as the mutation left it or as it was before; and a
> recovery that returns leaves it as it was before.
-/

namespace SafeFsOps

open Program

variable {c : Caller} {m : FileMutation Disk (List OsAnswer)} {d₀ : Disk} {b : String}

/-! ## The plan -/

section Plan

variable {C : Coordinator Disk (List OsAnswer)} {ctx : RecoveryContext} {w : World Disk}

/-- What the recovery records of a file's batch say of moves: nothing. -/
theorem plain_records (h : Retraceable c m d₀ b w) (hctx : readRecoveryContext w.journal b = .ok ctx)
    {r : RecoveryRow Payload} (hr : r ∈ ctx.recoveryRecords) : ∀ d, r.payload.details? = some d → d.Plain := by
  obtain ⟨-, -, hrecords⟩ := readRecoveryContext_eq_ok hctx
  rw [hrecords, JournalDb.listRecoveryRecords, mem_listRows] at hr
  exact (h.records.recoveries r hr.1 (of_decide_eq_true hr.2)).details

/-- No record is found in payloads that have none. -/
theorem findSome_details {β : Type} {f : RecoveryDetails → Option β} {records : List (RecoveryRow Payload)}
    (hplain : ∀ r ∈ records, ∀ d, r.payload.details? = some d → f d = none) :
    records.reverse.findSome? (fun r => r.payload.details?.bind f) = none := by
  rw [List.findSome?_eq_none_iff]
  intro r hr
  cases hd : r.payload.details? with
  | none => rfl
  | some d => exact hplain r (List.mem_reverse.1 hr) d hd

/-- A file's mutation is planned for by the planner of files alone. -/
theorem recoveryActionPlans_file (h : Retraceable c m d₀ b w) (hctx : readRecoveryContext w.journal b = .ok ctx)
    (hintent : m.intent.OfFile m.path) :
    recoveryActionPlans C ctx = .ret (fileRecoveryActionPlans ctx) := by
  obtain ⟨hrow, hlist, -⟩ := readRecoveryContext_eq_ok hctx
  obtain ⟨r, hr, hpayload, -⟩ := h.batch.row
  rw [hr] at hrow
  cases hrow
  have hchecked : ∀ x ∈ ctx.checkpoints,
      x.checkpointType ≠ "rename_record" ∧ x.checkpointType ≠ "captured_directory" ∧ x.checkpointType ≠ "tree_backup" := by
    intro x hx
    rw [hlist, JournalDb.listCheckpoints, mem_listRows] at hx
    exact (h.records.checkpoints x hx.1 (of_decide_eq_true hx.2)).ofFile
  have hrecursive : ctx.recursiveFailure = none :=
    findSome_details (f := RecoveryDetails.recursive) fun r hr d hd => (plain_records h hctx hr d hd).recursive
  have hmanual : ∀ operation, ctx.latestManualAction operation = none := by
    intro operation
    unfold RecoveryContext.latestManualAction
    rw [List.findSome?_eq_none_iff]
    intro r hr
    cases hd : r.payload.details? with
    | none => simp only [Payload.manualInterventionAction?, hd, Option.bind_none, Option.filter_none]
    | some d =>
      have hnone := (plain_records h hctx (List.mem_reverse.1 hr) d hd).manualInterventionAction
      simp only [Payload.manualInterventionAction?, hd, Option.bind_some, hnone, Option.filter_none]
  have hcaptured : latestCapturedDirectory ctx = none := by
    refine Option.or_eq_none_iff.2 ⟨List.findSome?_eq_none_iff.2 fun x hx => ?_,
      findSome_details (f := RecoveryDetails.capturedDirectoryRestore) fun r hr d hd =>
        (plain_records h hctx hr d hd).capturedDirectoryRestore⟩
    split
    · exact if_neg (hchecked x (List.mem_reverse.1 hx)).2.1
    · rfl
  have hrename : latestRenameRecord ctx = none := by
    refine Option.or_eq_none_iff.2 ⟨List.findSome?_eq_none_iff.2 fun x hx => ?_, findSome_details
      (f := RecoveryDetails.renameRecord) fun r hr d hd => (plain_records h hctx hr d hd).renameRecord⟩
    split
    · exact if_neg (hchecked x (List.mem_reverse.1 hx)).1
    · rfl
  have htree : latestTreeBackup ctx = none := by
    refine List.find?_eq_none.2 fun x hx hfound => ?_
    exact (hchecked x (List.mem_reverse.1 hx)).2.2 (of_decide_eq_true hfound).1
  -- what is left to the other planners is the intent, which is one of a file
  have hoperation := hintent.1
  have hplans : capturedDirectoryRecoveryActionPlans C ctx = .ret [] ∧ renameRecoveryActionPlans ctx = [] ∧
      recursiveMkdirRecoveryActionPlans ctx = [] ∧ treeBackupRecoveryActionPlans ctx = [] := by
    unfold capturedDirectoryRecoveryActionPlans unprovenCapturePlans renameRecoveryActionPlans
      recursiveMkdirRecoveryActionPlans directMkdirCleanupPlan treeBackupRecoveryActionPlans
      missingTreeRestoreProofPlans
    rw [hcaptured, hrename, hrecursive, hmanual, hmanual, hpayload, htree]
    cases hi : m.intent with
    | writeText | writeBytes | deleteFile =>
      refine ⟨rfl, rfl, rfl, ?_⟩
      cases ctx.batch.resourceKey <;> rfl
    | makeDirectory | makeDirectoryNoop | renameNoReplace | captureDirectory | backupTree | restoreTreeBackup
    | snapshotBundle =>
      rw [hi] at hoperation
      simp [Intent.operation] at hoperation
  unfold recoveryActionPlans
  rw [hplans.1, hplans.2.1, hplans.2.2.1, hplans.2.2.2]
  simp only [Program.bind_eq, Program.bind, List.append_nil]
  rfl

end Plan

/-! ## What is recorded -/

section Notes

variable {φ ω α : Type} {T : Testimony} {h : LeaseHolder} {a : String}

theorem AllRead.note {p : Op φ ω α} (hp : AllRead p) : AllNote T b p := by
  refine eachStep_mono (fun w w' hsame => ?_) hp
  rw [hsame]
  exact Notes.refl w

theorem note_startRecoveryStep : AllNote T b (startRecoveryStep h b : Op φ ω (RecoveryRow Payload)) := by
  refine note_journalWrite fun db ctx r db' hw => ⟨.startRecovery b ⟨some "recovery callback started",
    some (.recoveryStarted b), none⟩, rfl, fun _ => admits_none rfl rfl, trivial, ?_⟩
  obtain ⟨⟨row, record, db₁⟩, hstart, heq⟩ := map_eq_ok.1 hw
  cases heq
  simp only [JournalWrite.run, hstart, Except.map]

theorem note_recordRecoverySucceededStep {payload : Payload} (hsaid : T.Admits payload) :
    AllNote T b (recordRecoverySucceededStep h b a payload : Op φ ω (RecoveryRow Payload)) := by
  refine note_journalWrite fun db ctx r db' hw => ⟨.recordRecoverySucceeded b (some a)
    ⟨some "recovery callback succeeded", some payload, none⟩, rfl, fun _ => hsaid, trivial, ?_⟩
  simp only [JournalWrite.run, hw, Except.map]

theorem note_recordRecoveryFailedStep {payload : Payload} (hsaid : T.Admits payload) :
    AllNote T b (recordRecoveryFailedStep h b a payload : Op φ ω (RecoveryRow Payload)) := by
  refine note_journalWrite fun db ctx r db' hw => ⟨.recordRecoveryFailed b (some a) ⟨some "recovery callback failed",
    some payload, none⟩, rfl, fun _ => hsaid, trivial, ?_⟩
  simp only [JournalWrite.run, hw, Except.map]

theorem note_planActionStep {batchId : String} {plan : ActionPlan} (hid : plan.actionId ≠ "") :
    AllNote T b (planActionStep h batchId a plan : Op φ ω (RecoveryActionRow Payload)) := by
  refine note_journalWrite fun db ctx r db' hw => ⟨.recordRecoveryActionPlanned batchId a plan.actionType
    plan.resourceKey (some plan.payload) (some plan.actionId) none, rfl, trivial, fun hempty => absurd hempty hid, ?_⟩
  simp only [JournalWrite.run, hw, Except.map]

theorem note_transitionActionStep {batchId id : String} {status : RecoveryActionStatus} {reason : Option String}
    {payload : Payload} :
    AllNote T b (transitionActionStep h batchId a id status reason payload : Op φ ω (RecoveryActionRow Payload)) := by
  refine note_journalWrite fun db ctx r db' hw => ⟨.transitionRecoveryAction batchId a id status reason
    (some payload) none, rfl, trivial, trivial, ?_⟩
  simp only [JournalWrite.run, hw, Except.map]

theorem note_recordAbandonedSucceededStep {batch : BatchRow Payload} :
    AllNote T b (recordAbandonedSucceededStep h batch : Op φ ω Unit) := by
  refine note_journalWrite fun db ctx r db' hw => ⟨.recordAbandonedSucceededBatchRecoveryDesired batch, rfl, trivial,
    trivial, ?_⟩
  obtain ⟨db₁, hrecord, heq⟩ := map_eq_ok.1 hw
  cases heq
  simp only [JournalWrite.run, hrecord]

end Notes

section Reads

variable {φ ω : Type} {h : LeaseHolder}

theorem read_requireCurrent (h : LeaseHolder) : AllRead (requireCurrent h : Op φ ω Unit) := read_databaseRead _

theorem read_atOperationTime (h : LeaseHolder) : AllRead (atOperationTime h : Op φ ω LeaseHolder) :=
  eachStep_call fun _ _ => rfl

theorem read_requireRecoveryAuthority (batchId a : String) :
    AllRead (requireRecoveryAuthority h batchId a : Op φ ω Unit) :=
  read_bind (read_requireCurrent h) fun _ => read_databaseRead _

theorem read_requireRecoveryActionAuthority (ctx : RecoveryContext) (attempt : RecoveryRow Payload)
    (action : RecoveryActionRow Payload) :
    AllRead (requireRecoveryActionAuthority h ctx attempt action : Op φ ω Unit) := by
  refine read_bind (read_requireRecoveryAuthority _ _) fun _ => ?_
  split
  · trivial
  · exact read_bind (read_requireRecoveryAuthority _ _) fun _ => read_bind (read_requireRecoveryAuthority _ _)
      fun _ => read_databaseRead _

end Reads

/-! ## Restoring the file -/

section Restoring

variable {C : Coordinator Disk (List OsAnswer)} {h : LeaseHolder} {ctx : RecoveryContext} {w w' : World Disk}
  {A : Sample (List OsAnswer) → World Disk → Prop} {α : Type}

/-- What a recovery comes to: the batch can still be traced back, and where it returns, the file is as it was. -/
def Restores (c : Caller) (m : FileMutation Disk (List OsAnswer)) (d₀ : Disk) (b : String) (r : Except OperationError α)
    (w : World Disk) : Prop :=
  Retraceable c m d₀ b w ∧ ∀ a, r = .ok a → SameFile (w.fs.lookup m.path) (d₀.lookup m.path)

/-- Only the journal and the one file matter. -/
theorem Retraceable.congr (hw : Retraceable c m d₀ b w) (hjournal : w'.journal = w.journal)
    (hfile : w'.fs.lookup m.path = w.fs.lookup m.path) : Retraceable c m d₀ b w' where
  batch := hjournal ▸ hw.batch
  kept := hjournal ▸ hw.kept
  file := by
    unfold FileMutation.Leaves
    rw [hfile]
    exact hw.file
  records := by
    rw [hjournal]
    refine hw.records.mono (fun _ _ hc => hc) (fun f hf s hs hsame => ?_) fun _ hd => hd
    rw [hfile]
    exact hf s hs hsame

/-- A file that is as it was misleads nobody. -/
theorem Retraceable.restored (hw : Retraceable c m d₀ b w) (hjournal : w'.journal = w.journal)
    (hsame : SameFile (w'.fs.lookup m.path) (d₀.lookup m.path)) : Retraceable c m d₀ b w' where
  batch := hjournal ▸ hw.batch
  kept := hjournal ▸ hw.kept
  file := Or.inr hsame
  records := by
    rw [hjournal]
    exact hw.records.mono (fun _ _ hc => hc) (fun _ _ _ _ _ => hsame) fun _ hd => hd

/-- Records of a recovery, which leave the disk alone. -/
theorem along_recorded {p : Op Disk (List OsAnswer) α} (hw : Retraceable c m d₀ b w)
    (hp : AllNote (seenBefore d₀ m.path (Truthful d₀ w.fs m.path)) b p) :
    Along A (fun _ w' => Retraceable c m d₀ b w') (fun _ w' => Retraceable c m d₀ b w' ∧ w'.fs = w.fs) p w :=
  along_mono (fun _ _ hn => hw.notes hn) (fun _ _ hn => ⟨hw.notes hn, hn.fs⟩) (along_note hp w)

variable {backup : FileBackup} {current : ResourceSnapshot}

/-- The restore itself. -/
theorem along_restoreCall (hw : Retraceable c m d₀ b w) (hbacks : Backs d₀ m.path backup)
    (hpath : backup.path = m.path) (hcurrent : current.path = m.path) {allowOverwrite : Bool} :
    Along A (fun _ w' => Retraceable c m d₀ b w')
      (fun r w' => Restores c m d₀ b r w' ∧ ∀ e, r = .error e → ∃ f, e = .filesystem f)
      (fsCall fun o fs => C.onDisk.ops.restoreBackup o fs backup (some current) allowOverwrite) w := by
  refine along_call fun i _ => ?_
  have hexpected : ∀ e, some current = some e → e.path = backup.path := by
    intro e he
    cases he
    rw [hcurrent, hpath]
  have hleaves : backup.Leaves w.fs (C.onDisk.ops.restoreBackup i.os w.fs backup (some current) allowOverwrite).2 :=
    restoreBackup_leaves
  have hbrings : ∀ {d : Disk}, backup.Matches (d.lookup backup.path) →
      SameFile (d.lookup m.path) (d₀.lookup m.path) := by
    intro d hd
    rw [hpath] at hd
    exact sameFile_of_matches hd hbacks.contents
  have hnext : Retraceable c m d₀ b
      { w with fs := (C.onDisk.ops.restoreBackup i.os w.fs backup (some current) allowOverwrite).2 } := by
    rcases hleaves with hsame | hmatch
    · rw [hpath] at hsame
      exact hw.congr rfl hsame
    · exact hw.restored rfl (hbrings hmatch)
  refine ⟨hnext, ⟨hnext, fun s hs => hbrings (restoreBackup_onDisk hexpected (mapError_eq_ok.1 hs))⟩, fun e he => ?_⟩
  obtain ⟨f, -, rfl⟩ := mapError_eq_error.1 he
  exact ⟨f, rfl⟩

/-- Its handler, which takes some refusals for a case of manual intervention, and skips nothing. -/
theorem along_restoreBackupHandler (hw : Retraceable c m d₀ b w) (hbacks : Backs d₀ m.path backup)
    (hpath : backup.path = m.path) (hcurrent : current.path = m.path) {authority : Op Disk (List OsAnswer) Unit}
    (hread : AllRead authority) (hraises : RaisesOnly RunnerInput NotSkipped authority) {path : Path}
    {allowOverwrite : Bool} :
    Along RunnerInput (fun _ w' => Retraceable c m d₀ b w')
      (fun r w' => Restores c m d₀ b r w' ∧ ∀ e, r = .error e → NotSkipped e)
      (restoreBackupHandler C.onDisk authority (.restoreBackup path backup current allowOverwrite)) w := by
  refine along_seq (along_raises hraises (along_read hread hw)) (fun _ w₁ h₁ => ?_)
    fun e w₁ h₁ => ⟨⟨by rw [h₁.1]; exact hw, fun _ hr => by cases hr⟩, h₁.2⟩
  obtain ⟨rfl, -⟩ := h₁
  refine along_bind (along_onRaise (along_mono (fun _ _ hr => hr) (fun r w₂ h₂ => ?_)
    (along_restoreCall hw hbacks hpath hcurrent)))
  cases r with
  | ok s => exact ⟨⟨h₂.1.1, fun _ _ => h₂.1.2 s rfl⟩, fun _ he => by cases he⟩
  | error e =>
    refine ⟨⟨h₂.1.1, fun _ hr => by cases hr⟩, fun e' he' => ?_⟩
    obtain ⟨f, rfl⟩ := h₂.2 e rfl
    cases he'
    unfold restoreBackupRaises
    split
    · split
      · exact fun _ _ => OperationError.noConfusion
      · exact fun _ _ => OperationError.noConfusion
    · next hno => exact absurd rfl (hno f)

/-- Between two checks of its authority, with its lease kept. -/
theorem along_authorizedHandler {handler : Op Disk (List OsAnswer) Unit} {attempt : RecoveryRow Payload}
    {action : RecoveryActionRow Payload} (hw : Retraceable c m d₀ b w)
    (hhandler : ∀ w, Retraceable c m d₀ b w → Along RunnerInput (fun _ w' => Retraceable c m d₀ b w')
      (fun r w' => Restores c m d₀ b r w' ∧ ∀ e, r = .error e → NotSkipped e) handler w) :
    Along RunnerInput (fun _ w' => Retraceable c m d₀ b w')
      (fun r w' => Restores c m d₀ b r w' ∧ ∀ e, r = .error e → NotSkipped e)
      (runHandler C h ctx attempt action handler) w := by
  -- a check that fails ends it, and skips nothing
  have hcheck : ∀ {p : Op Disk (List OsAnswer) Unit} {w : World Disk}, AllRead p → RaisesOnly RunnerInput NotSkipped p →
      Retraceable c m d₀ b w → Along RunnerInput (fun _ w' => Retraceable c m d₀ b w')
        (fun r w' => w' = w ∧ ∀ e, r = .error e → NotSkipped e) p w :=
    fun hread hraises hw => along_raises hraises (along_read hread hw)
  have hbody : ∀ w, Retraceable c m d₀ b w → Along RunnerInput (fun _ w' => Retraceable c m d₀ b w')
      (fun r w' => Restores c m d₀ b r w' ∧ ∀ e, r = .error e → NotSkipped e) (do
        requireRecoveryActionAuthority h ctx attempt action
        handler
        requireRecoveryActionAuthority h ctx attempt action) w := by
    intro w hw
    refine along_seq (hcheck (read_requireRecoveryActionAuthority _ _ _) (raises_actionAuthority _ _ _) hw)
      (fun _ w₁ h₁ => ?_) fun e w₁ h₁ => ⟨⟨by rw [h₁.1]; exact hw, fun _ hr => by cases hr⟩, h₁.2⟩
    obtain ⟨rfl, -⟩ := h₁
    refine along_seq (hhandler w₁ hw) (fun _ w₂ h₂ => ?_) fun e w₂ h₂ => ⟨⟨h₂.1.1, fun _ hr => by cases hr⟩, h₂.2⟩
    refine along_mono (fun _ _ hr => hr) (fun r w₃ h₃ => ?_)
      (hcheck (read_requireRecoveryActionAuthority _ _ _) (raises_actionAuthority _ _ _) h₂.1.1)
    obtain ⟨rfl, hnot⟩ := h₃
    exact ⟨⟨h₂.1.1, fun _ _ => h₂.1.2 _ rfl⟩, hnot⟩
  refine along_seq (hcheck (read_databaseRead _) (raises_attemptActive _ _) hw) (fun _ w₁ h₁ => ?_)
    fun e w₁ h₁ => ⟨⟨by rw [h₁.1]; exact hw, fun _ hr => by cases hr⟩, h₁.2⟩
  obtain ⟨rfl, -⟩ := h₁
  show Along _ _ _ (maintainOperationLease C h _) w₁
  unfold maintainOperationLease maintainLease
  split
  · exact hbody w₁ hw
  split
  · exact hbody w₁ hw
  refine along_seq (along_raises raises_heartbeatOnce (along_recorded hw (note_heartbeatOnce h))) (fun _ w₂ h₂ => ?_)
    fun e w₂ h₂ => ⟨⟨h₂.1.1, fun _ hr => by cases hr⟩, h₂.2⟩
  refine along_seq (hbody w₂ h₂.1.1) (fun _ w₃ h₃ => ?_) fun e w₃ h₃ => ⟨⟨h₃.1.1, fun _ hr => by cases hr⟩, h₃.2⟩
  refine along_seq (hcheck (read_databaseRead _) (raises_notSkipped_read fun _ _ _ he => by cases he) h₃.1.1)
    (fun _ w₄ h₄ => ?_) fun e w₄ h₄ => ⟨⟨by rw [h₄.1]; exact h₃.1.1, fun _ hr => by cases hr⟩, h₄.2⟩
  obtain ⟨rfl, -⟩ := h₄
  exact ⟨⟨h₃.1.1, fun _ _ => h₃.1.2 _ rfl⟩, fun _ he => by cases he⟩

/-- What follows the handler: an action that failed ends the recovery. -/
theorem along_finishRestore {batchId a : String} {action : RecoveryActionRow Payload}
    {result : Except OperationError Unit}
    (hw : Restores c m d₀ b result w) (hnot : ∀ e, result = .error e → NotSkipped e) :
    Along A (fun _ w' => Retraceable c m d₀ b w') (Restores c m d₀ b) (finishAction h batchId a action result) w := by
  have htransition : ∀ {id : String} {status : RecoveryActionStatus} {reason : Option String} {payload : Payload}
      {h : LeaseHolder} {w : World Disk}, Retraceable c m d₀ b w → Along A (fun _ w' => Retraceable c m d₀ b w')
        (fun _ w' => Retraceable c m d₀ b w' ∧ w'.fs = w.fs)
        (transitionActionStep h batchId a id status reason payload) w :=
    fun hw => along_recorded hw note_transitionActionStep
  cases result with
  | ok u =>
    refine along_seq (along_read (read_atOperationTime h) hw.1) (fun h' w₁ h₁ => ?_)
      fun e w₁ h₁ => ⟨by rw [h₁]; exact hw.1, fun _ hr => by cases hr⟩
    subst h₁
    refine along_seq (along_read (read_requireCurrent h') hw.1) (fun _ w₂ h₂ => ?_)
      fun e w₂ h₂ => ⟨by rw [h₂]; exact hw.1, fun _ hr => by cases hr⟩
    subst h₂
    exact along_mono (fun _ _ hr => hr) (fun _ w₃ h₃ => ⟨h₃.1, fun _ _ => by rw [h₃.2]; exact hw.2 u rfl⟩)
      (htransition hw.1)
  | error e =>
    have hraised : ∀ {e : OperationError} {w : World Disk}, Retraceable c m d₀ b w →
        Restores (α := RecoveryActionRow Payload) c m d₀ b (.error e) w := fun hw => ⟨hw, fun _ hr => by cases hr⟩
    have hrecorded : ∀ {id : String} {status : RecoveryActionStatus} {reason : Option String} {payload : Payload}
        {e : OperationError}, Along A (fun _ w' => Retraceable c m d₀ b w') (Restores c m d₀ b) (do
          let _ ← transitionActionStep h batchId a id status reason payload
          .raise e : Op Disk (List OsAnswer) (RecoveryActionRow Payload)) w :=
      along_seq (htransition hw.1) (fun _ _ h₁ => hraised h₁.1) fun _ _ h₁ => hraised h₁.1
    show Along _ _ _ (actionRaised h batchId a action e) w
    unfold actionRaised
    split
    · exact absurd rfl (hnot _ rfl _ _)
    · exact hrecorded
    all_goals first
      | exact hraised hw.1
      | exact hrecorded

/-! ### The one action -/

/-- The record of a restore that was planned, the only one of its attempt. -/
structure RestorePlanned (m : FileMutation Disk (List OsAnswer)) (d₀ : Disk) (b a : String)
    (x : RecoveryActionRow Payload) (db : JournalDb Payload) : Prop where
  rows : db.attemptActions b a = [x]
  attempt : x.recoveryAttemptId = a
  status : x.status = .planned
  actionType : x.actionType = restoreBackupAction
  payload : ∃ path backup current allowOverwrite, x.payload = .restoreBackup path backup current allowOverwrite ∧
    Backs d₀ m.path backup ∧ backup.path = m.path ∧ current.path = m.path

variable {a : String} {x : RecoveryActionRow Payload} {attempt : RecoveryRow Payload}

/-- The record that it is attempted is one of the same action. -/
theorem along_markAttempting (hw : ActionsKept w.journal) (hx : RestorePlanned m d₀ b a x w.journal)
    {reason : Option String} {payload : Payload} :
    Along A (fun _ _ => True) (fun r _ => ∀ y, r = .ok y → y.actionId = x.actionId ∧ y.recoveryAttemptId = a ∧
      y.actionType = x.actionType) (transitionActionStep h b a x.actionId .attempting reason payload) w := by
  refine along_journalWrite trivial (fun _ _ _ _ _ hr => by cases hr) (fun _ _ _ _ _ _ hr => by cases hr)
    fun i y db _ _ hrun => ⟨trivial, fun y' hy => ?_⟩
  cases hy
  obtain ⟨-, hnext, -⟩ := recordRecoveryAction_next (fun hplanned => by cases hplanned) hrun
  obtain ⟨-, hya, hys, hyid, -⟩ := recordRecoveryAction_row hrun
  rw [if_neg (by decide)] at hyid
  refine ⟨hyid, hya, ?_⟩
  rcases hnext with ⟨hplanned, -⟩ | ⟨e, he, hfollows⟩
  · rw [hys] at hplanned
    cases hplanned
  · -- what it follows is the last record of the action, which is the only one
    have hlast : w.journal.lastAction b a x.actionId = some x := by
      rw [JournalDb.lastAction, hx.rows, lastRecord, List.reverse_singleton, List.find?_cons, decide_eq_true rfl]
    rw [hya, hyid, Option.getD_some, hw.latest, hw.lastAction hlast] at he
    cases he
    exact hfollows.2.1

/-- **The action** is the restore of the planned backup. -/
theorem along_restoreAction (hb : ctx.batch.batchId = b) (ha : attempt.recoveryId = a)
    (hctx : ctx.recoveryActions = [x]) (hw : Retraceable c m d₀ b w) (hx : RestorePlanned m d₀ b a x w.journal) :
    Along RunnerInput (fun _ w' => Retraceable c m d₀ b w') (Restores c m d₀ b)
      (runRecoveryAction C.onDisk h ctx attempt x) w := by
  subst hb ha
  have hfails : ∀ {e : OperationError} {w : World Disk}, Retraceable c m d₀ ctx.batch.batchId w →
      Restores (α := RecoveryActionRow Payload) c m d₀ ctx.batch.batchId (.error e) w :=
    fun hw => ⟨hw, fun _ hr => by cases hr⟩
  unfold runRecoveryAction
  rw [if_neg (by rw [hx.status]; decide)]
  refine along_seq (along_read (read_atOperationTime h) hw) (fun entry w₁ h₁ => ?_) fun e w₁ h₁ => hfails (h₁ ▸ hw)
  subst h₁
  refine along_seq (along_read (read_requireCurrent entry) hw) (fun _ w₂ h₂ => ?_) fun e w₂ h₂ => hfails (h₂ ▸ hw)
  subst h₂
  rw [if_pos hx.status]
  refine along_seq (along_mono (fun _ _ hr => hr.1) (fun _ _ hr => hr)
    (along_and (along_recorded hw note_transitionActionStep) (along_markAttempting hw.kept hx)))
    (fun current w₃ h₃ => ?_) fun e w₃ h₃ => hfails h₃.1.1
  obtain ⟨hid, hattempt, htype⟩ := h₃.2 current rfl
  have hsource : actionPayloadSource ctx current = x := by
    simp [actionPayloadSource, hctx, hid, hattempt, hx.attempt, hx.status]
  obtain ⟨path, backup, current', allowOverwrite, hpayload, hbacks, hpath, hcurrent⟩ := hx.payload
  show Along _ _ _ (performAction C.onDisk h ctx attempt current (actionPayloadSource ctx current)) w₃
  rw [hsource]
  unfold performAction
  rw [htype, hx.actionType, if_neg (by decide)]
  simp only [recoveryActionHandler, if_pos]
  refine along_outcome_seq (along_authorizedHandler h₃.1.1 fun w hw => ?_) fun result w₄ h₄ =>
    along_finishRestore h₄.1 h₄.2
  rw [hpayload]
  exact along_restoreBackupHandler hw hbacks hpath hcurrent (read_requireRecoveryActionAuthority _ _ _)
    (raises_actionAuthority _ _ _)

/-- A planned action is recorded as it was planned. -/
theorem recordRecoveryActionPlanned_row {db db' : JournalDb Payload} {plan : ActionPlan} {ctx : WriteContext}
    {r : RecoveryActionRow Payload} (hid : plan.actionId ≠ "")
    (hrun : recordRecoveryActionPlanned db b a plan.actionType plan.resourceKey (some plan.payload) (some plan.actionId)
      none ctx = .ok (r, db')) :
    r.recoveryAttemptId = a ∧ r.status = .planned ∧ r.actionType = plan.actionType ∧ r.payload = plan.payload ∧
      db'.attemptActions b a = db.attemptActions b a ++ [r] := by
  simp only [recordRecoveryActionPlanned, bind_eq_ok] at hrun
  obtain ⟨_, -, hrecord⟩ := hrun
  have hgiven : (some plan.actionId).getD "" ≠ "" := hid
  obtain ⟨happend, -, -⟩ := recordRecoveryAction_next (fun _ hempty => absurd hempty hgiven) hrecord
  obtain ⟨hrb, hra, hrs, -, -⟩ := recordRecoveryAction_row hrecord
  have hrow : r.actionType = plan.actionType ∧ r.payload = plan.payload := by
    simp only [recordRecoveryAction, bind_eq_ok, pure_eq_ok, Prod.mk.injEq] at hrecord
    obtain ⟨_, -, _, -, ⟨row, d⟩, -, x, -, existing, hprepare, _, -, actions, -, rfl, -⟩ := hrecord
    simp only [prepareRecoveryActionWrite, if_pos, bind_eq_ok, pure_eq_ok] at hprepare
    obtain ⟨_, -, _, -, rfl⟩ := hprepare
    exact ⟨rfl, rfl⟩
  refine ⟨hra, hrs, hrow.1, hrow.2, ?_⟩
  rw [JournalDb.attemptActions, happend, List.filter_append, List.filter_singleton, hrb, hra]
  simp only [and_self, decide_true, cond_true]
  rfl

/-- A restore is the first action of its attempt. -/
theorem along_planAction (hw : Retraceable c m d₀ b w) (hnone : w.journal.attemptActions b a = []) {plan : ActionPlan}
    (hid : plan.actionId ≠ "") (htype : plan.actionType = restoreBackupAction) {path : Path} {backup : FileBackup}
    {current : ResourceSnapshot} {allowOverwrite : Bool}
    (hpayload : plan.payload = .restoreBackup path backup current allowOverwrite) (hbacks : Backs d₀ m.path backup)
    (hpath : backup.path = m.path) (hcurrent : current.path = m.path) :
    Along A (fun _ w' => Retraceable c m d₀ b w')
      (fun r w' => Retraceable c m d₀ b w' ∧ ∀ x, r = .ok x → RestorePlanned m d₀ b a x w'.journal)
      (planActionStep h b a plan) w := by
  have hrow : Along A (fun _ _ => True) (fun r w' => ∀ x, r = .ok x → RestorePlanned m d₀ b a x w'.journal)
      (planActionStep h b a plan) w := by
    refine along_journalWrite trivial (fun _ _ _ _ _ hr => by cases hr) (fun _ _ _ _ _ _ hr => by cases hr)
      fun i x db _ _ hrun => ⟨trivial, fun x' hx => ?_⟩
    cases hx
    obtain ⟨hattempt, hstatus, hxtype, hxpayload, hrows⟩ := recordRecoveryActionPlanned_row hid hrun
    rw [hnone] at hrows
    exact ⟨hrows, hattempt, hstatus, hxtype.trans htype, path, backup, current, allowOverwrite,
      hxpayload.trans hpayload, hbacks, hpath, hcurrent⟩
  exact along_mono (fun _ _ hr => hr.1) (fun _ _ hr => ⟨hr.1.1, hr.2⟩)
    (along_and (along_recorded hw (note_planActionStep hid)) hrow)

/-- What is planned for a new attempt: nothing, where the file is as it was, or one restore. -/
def PlannedFor (m : FileMutation Disk (List OsAnswer)) (d₀ : Disk) (b a : String)
    (actions : List (RecoveryActionRow Payload)) (w : World Disk) : Prop :=
  actions = [] ∧ SameFile (w.fs.lookup m.path) (d₀.lookup m.path) ∨
    ∃ x, actions = [x] ∧ RestorePlanned m d₀ b a x w.journal

/-- The planner of files has an answer to each of its batches. -/
theorem fileRecoveryProof_isSome (hw : Retraceable c m d₀ b w) (hctx : readRecoveryContext w.journal b = .ok ctx)
    (hintent : m.intent.OfFile m.path) : ∃ proof, fileRecoveryProof ctx = some proof := by
  obtain ⟨r, hr, hpayload, hkey⟩ := hw.batch.row
  obtain ⟨hrow, -, -⟩ := readRecoveryContext_eq_ok hctx
  rw [hr] at hrow
  cases hrow
  rw [fileRecoveryProof_eq hpayload hkey, fileRecoveryProofFromRecords_eq hintent]
  split
  · split <;> exact ⟨_, rfl⟩
  · split
    · exact ⟨_, rfl⟩
    · split <;> exact ⟨_, rfl⟩

/-- What raised restores nothing, and need not. -/
theorem restores_error {α : Type} (hw : Retraceable c m d₀ b w) {e : OperationError} :
    Restores (α := α) c m d₀ b (.error e) w := ⟨hw, fun _ hr => by cases hr⟩

/-- A read answers with what it read. -/
theorem along_answers {α : Type} {read : Sample (List OsAnswer) → World Disk → Except OperationError α}
    {R : World Disk → World Disk → Prop} (hR : R w w) :
    Along A R (fun r w' => w' = w ∧ ∀ x, r = .ok x → ∃ i, read i w = .ok x) (databaseRead read) w :=
  along_databaseRead hR (fun _ _ _ _ => ⟨rfl, fun _ hx => by cases hx⟩) fun i _ _ => ⟨rfl, fun _ hx => ⟨i, hx⟩⟩

/-- **The plan** of a new attempt. -/
theorem along_planRestore (hw : Retraceable c m d₀ b w) (hctx : readRecoveryContext w.journal b = .ok ctx)
    (hb : ctx.batch.batchId = b) (hintent : m.intent.OfFile m.path) (hnone : w.journal.attemptActions b a = []) :
    Along A (fun _ w' => Retraceable c m d₀ b w')
      (fun r w' => Retraceable c m d₀ b w' ∧ ∀ ctx', r = .ok ctx' → ctx'.batch = ctx.batch ∧
        PlannedFor m d₀ b a ctx'.recoveryActions w')
      (planRecoveryActions C.onDisk h { ctx with recoveryActions := [] } a) w := by
  subst hb
  have hfails : ∀ {e : OperationError} {w : World Disk}, Retraceable c m d₀ ctx.batch.batchId w →
      Retraceable c m d₀ ctx.batch.batchId w ∧
      ∀ ctx' : RecoveryContext, Except.error e = .ok ctx' → ctx'.batch = ctx.batch ∧
        PlannedFor m d₀ ctx.batch.batchId a ctx'.recoveryActions w := fun hw => ⟨hw, fun _ hr => by cases hr⟩
  unfold planRecoveryActions
  dsimp only
  split
  · next id key payload hmanual =>
    have hid := fileRollbackManualIntervention_id hmanual
    exact along_seq (along_recorded hw (note_bind (note_planActionStep hid) fun _ =>
      note_bind note_transitionActionStep fun _ => note_ret _)) (fun _ _ h₁ => hfails h₁.1) fun _ _ h₁ => hfails h₁.1
  · next hmanual =>
    have hplans : recoveryActionPlans C.onDisk { ctx with recoveryActions := [] } =
        .ret (fileRecoveryActionPlans ctx) :=
      (show _ = recoveryActionPlans C.onDisk ctx from rfl).trans (recoveryActionPlans_file hw hctx hintent)
    rw [hplans]
    obtain ⟨proof, hproof⟩ := fileRecoveryProof_isSome hw hctx hintent
    cases proof with
    | manual id key payload =>
      have hsome : fileRollbackManualIntervention ctx = some (id, key, payload) := by
        rw [fileRollbackManualIntervention, hproof]
      have hnot : fileRollbackManualIntervention ctx = none := hmanual
      rw [hsome] at hnot
      cases hnot
    | noop id key =>
      rw [fileRecoveryActionPlans, hproof]
      exact ⟨hw, fun ctx' hr => by cases hr; exact ⟨rfl, Or.inl ⟨rfl, plan_noop hw hctx hintent hproof⟩⟩⟩
    | restore id key path backup current =>
      obtain ⟨hbacks, hpath, hcurrent, rfl⟩ := plan_restore hw hctx hintent hproof
      have hid : "restore-backup:self:" ++ m.resourceKey ≠ "" := by
        intro hempty
        have hlist := congrArg String.toList hempty
        rw [String.toList_append] at hlist
        cases hlist
      rw [fileRecoveryActionPlans, hproof]
      let plan : ActionPlan := ⟨"restore-backup:self:" ++ m.resourceKey, restoreBackupAction, some key,
        .restoreBackup path backup current false⟩
      have hplan : Along A (fun _ w' => Retraceable c m d₀ ctx.batch.batchId w')
          (fun r w' => Retraceable c m d₀ ctx.batch.batchId w' ∧
            ∀ x, r = .ok x → RestorePlanned m d₀ ctx.batch.batchId a x w'.journal)
          (planActionStep h ctx.batch.batchId a plan) w :=
        along_planAction hw hnone hid rfl rfl hbacks hpath hcurrent
      -- the one plan is new, for nothing is planned yet
      show Along A _ _ (Program.bind
        (.forEach [plan] fun p => planActionStep h ctx.batch.batchId a p >>= fun _ => .ret ()) fun _ =>
          listActions ctx.batch.batchId a >>= fun actions => .ret { ctx with recoveryActions := actions }) w
      have hrecorded : Along A (fun _ w' => Retraceable c m d₀ ctx.batch.batchId w')
          (fun r w' => Retraceable c m d₀ ctx.batch.batchId w' ∧
            ∀ u, r = .ok u → ∃ x, RestorePlanned m d₀ ctx.batch.batchId a x w'.journal)
          (planActionStep h ctx.batch.batchId a plan >>= fun _ => .ret ()) w :=
        along_seq hplan (fun x _ h₁ => ⟨h₁.1, fun _ _ => ⟨x, h₁.2 x rfl⟩⟩) fun _ _ h₁ => ⟨h₁.1, fun _ hr => by cases hr⟩
      refine along_seq (Q := fun r w' => Retraceable c m d₀ ctx.batch.batchId w' ∧
          ∀ u, r = .ok u → ∃ x, RestorePlanned m d₀ ctx.batch.batchId a x w'.journal)
        (along_seq hrecorded (fun _ _ h₁ => h₁) fun _ _ h₁ => ⟨h₁.1, fun _ hr => by cases hr⟩) (fun u w₁ h₁ => ?_)
        fun _ _ h₁ => hfails h₁.1
      obtain ⟨x, hx⟩ := h₁.2 u rfl
      refine along_seq (along_answers h₁.1) (fun l w₂ h₂ => ?_) fun _ w₂ h₂ => hfails (h₂.1 ▸ h₁.1)
      obtain ⟨rfl, hread⟩ := h₂
      obtain ⟨i, hi⟩ := hread l rfl
      have hlist : l = [x] := by
        cases hi
        rw [h₁.1.kept.numbered.listRecoveryActions, hx.rows]
      rw [hlist]
      exact ⟨h₁.1, fun ctx' hr => by cases hr; exact ⟨rfl, Or.inr ⟨x, rfl, hx⟩⟩⟩

/-- The last records of one record. -/
theorem latestActions_singleton (hx : x.recoveryAttemptId = a) : latestActions [x] a = [x] := by
  simp [latestActions, hx]

/-- **The callback** of an attempt that has no actions yet. -/
theorem along_runRecoveryActions (hw : Retraceable c m d₀ b w) (hctx : readRecoveryContext w.journal b = .ok ctx)
    (hintent : m.intent.OfFile m.path)
    (hnone : ∀ attempt, ctx.recoveryAttempt = some attempt → w.journal.attemptActions b attempt.recoveryId = []) :
    Along RunnerInput (fun _ w' => Retraceable c m d₀ b w') (Restores c m d₀ b)
      (runRecoveryActions C.onDisk h ctx) w := by
  have hb := readRecoveryContext_batchId hctx
  unfold runRecoveryActions
  split
  · exact restores_error hw
  · next attempt hattempt =>
    have hnone := hnone attempt hattempt
    refine along_seq (along_read (read_requireCurrent h) hw) (fun _ w₁ h₁ => ?_) fun _ w₁ h₁ => restores_error (h₁ ▸ hw)
    subst h₁
    refine along_seq (along_answers hw) (fun l w₂ h₂ => ?_) fun _ w₂ h₂ => restores_error (h₂.1 ▸ hw)
    obtain ⟨rfl, hread⟩ := h₂
    obtain ⟨i, hi⟩ := hread l rfl
    have hlist : l = [] := by
      cases hi
      rw [hw.kept.numbered.listRecoveryActions, hb, hnone]
    rw [hlist]
    refine along_seq (along_planRestore hw hctx hb hintent hnone) (fun ctx' w₃ h₃ => ?_)
      fun _ _ h₃ => restores_error h₃.1
    obtain ⟨hbatch, hplanned⟩ := h₃.2 ctx' rfl
    rcases hplanned with ⟨hactions, hsame⟩ | ⟨x, hactions, hx⟩
    · rw [hactions]
      exact ⟨h₃.1, fun _ _ => hsame⟩
    · -- the one action, once the attempt is still the batch's
      rw [hactions, latestActions_singleton hx.attempt]
      refine along_seq (Q := Restores c m d₀ b) ?_ (fun _ _ h₄ => h₄) fun _ _ h₄ => h₄
      refine along_seq (along_read (read_requireRecoveryAuthority _ _) h₃.1) (fun _ w₄ h₄ => ?_)
        fun _ w₄ h₄ => restores_error (h₄ ▸ h₃.1)
      subst h₄
      exact along_seq (along_restoreAction (hbatch ▸ hb) rfl hactions h₃.1 hx)
        (fun x _ h₅ => ⟨h₅.1, fun _ _ => h₅.2 x rfl⟩) fun _ _ h₅ => restores_error h₅.1

end Restoring

/-! ## An attempt, and a batch -/

section Attempts

variable {C : Coordinator Disk (List OsAnswer)} {W : Workspace Disk (List OsAnswer)} {h : LeaseHolder}
  {ctx : RecoveryContext} {w : World Disk} {A : Sample (List OsAnswer) → World Disk → Prop} {a : String}

/-- The end of an attempt, whose record says nothing of the file. -/
theorem along_finishRestored {result : Except OperationError Unit} (hw : Restores c m d₀ b result w) :
    Along A (fun _ w' => Retraceable c m d₀ b w') (Restores c m d₀ b) (finishRecovery h ctx b a result) w := by
  cases result with
  | error e =>
    exact along_seq (along_recorded hw.1 (eachStep_outcome (note_recordRecoveryFailedStep (admits_none rfl rfl))))
      (fun _ _ h₁ => restores_error h₁.1) fun _ _ h₁ => restores_error h₁.1
  | ok u =>
    refine along_seq (along_recorded hw.1 (note_recordRecoverySucceededStep (admits_none rfl rfl))) (fun _ w₁ h₁ => ?_)
      fun _ _ h₁ => restores_error h₁.1
    refine along_seq (along_read (read_databaseRead _) h₁.1) (fun found w₂ h₂ => ?_)
      fun _ w₂ h₂ => restores_error (h₂ ▸ h₁.1)
    subst h₂
    cases found with
    | none => exact restores_error h₁.1
    | some batch => exact ⟨h₁.1, fun _ _ => by rw [h₁.2]; exact hw.2 u rfl⟩

/-- The runner of a replay. -/
theorem along_replayRunner (hW : W.coordinator = C.onDisk) {lease : LeaseRecord} (hw : Retraceable c m d₀ b w)
    (hctx : readRecoveryContext w.journal b = .ok ctx) (hintent : m.intent.OfFile m.path)
    (hnone : ∀ attempt, ctx.recoveryAttempt = some attempt → w.journal.attemptActions b attempt.recoveryId = []) :
    Along RunnerInput (fun _ w' => Retraceable c m d₀ b w') (Restores c m d₀ b) (replayRunner W lease ctx) w := by
  refine along_seq (along_read (read_atOperationTime _) hw) (fun h' w₁ h₁ => ?_) fun _ w₁ h₁ => restores_error (h₁ ▸ hw)
  subst h₁
  rw [hW]
  exact along_runRecoveryActions hw hctx hintent hnone

/-- An attempt that has no actions yet. -/
theorem along_attemptRestores (hW : W.coordinator = C.onDisk) {lease : LeaseRecord} (hw : Retraceable c m d₀ b w)
    (hintent : m.intent.OfFile m.path) (hnone : w.journal.attemptActions b a = []) :
    Along RunnerInput (fun _ w' => Retraceable c m d₀ b w') (Restores c m d₀ b)
      (runAttempt h b a (replayRunner W lease)) w := by
  refine along_seq (along_answers hw) (fun ctx w₁ h₁ => ?_) fun _ w₁ h₁ => restores_error (by rw [h₁.1]; exact hw)
  obtain ⟨rfl, hread⟩ := h₁
  obtain ⟨_, hread⟩ := hread ctx rfl
  have hctx := mapError_eq_ok.1 hread
  refine along_seq (along_answers hw) (fun u w₂ h₂ => ?_) fun _ w₂ h₂ => restores_error (by rw [h₂.1]; exact hw)
  obtain ⟨rfl, hactive⟩ := h₂
  obtain ⟨_, hactive⟩ := hactive u rfl
  obtain ⟨r, hactive, -⟩ := map_eq_ok.1 (mapError_eq_ok.1 hactive)
  simp only [checkActiveRecoveryAttempt, bind_eq_ok] at hactive
  obtain ⟨_, -, _, -, hactive⟩ := hactive
  -- the attempt of the context is this one
  have hnone : ∀ attempt, ctx.recoveryAttempt = some attempt → w₂.journal.attemptActions b attempt.recoveryId = [] := by
    intro attempt hattempt
    rw [attempt_of_active hw.kept.numbered hctx hattempt hactive]
    exact hnone
  refine along_outcome_seq (Q := Restores c m d₀ b) ?_ fun result w₃ h₃ => along_finishRestored h₃
  refine along_seq (along_read (read_requireRecoveryAuthority _ _) hw) (fun _ w₃ h₃ => ?_)
    fun _ w₃ h₃ => restores_error (h₃ ▸ hw)
  subst h₃
  exact along_replayRunner hW hw hctx hintent hnone

/-- An attempt that could not be started. -/
theorem along_startRaised {α : Type} {R : World Disk → World Disk → Prop}
    {Q : Except OperationError α → World Disk → Prop} (hR : R w w) (hQ : ∀ e, Q (.error e) w)
    (batch : BatchRow Payload) (e : OperationError) :
    Along A R Q (startRecoveryRaised batch e : Op Disk (List OsAnswer) α) w := by
  unfold startRecoveryRaised
  split
  · exact hQ _
  · refine along_seq (along_read (read_databaseRead _) hR) (fun _ w₁ h₁ => ?_) fun _ w₁ h₁ => ?_
    · subst h₁
      exact hQ _
    · subst h₁
      exact hQ _
  · exact hQ _

/-- An attempt that is started has no actions. -/
theorem along_startAttempt (hw : Retraceable c m d₀ b w) {batch : BatchRow Payload} :
    Along A (fun _ w' => Retraceable c m d₀ b w')
      (fun r w' => Retraceable c m d₀ b w' ∧ ∀ started, r = .ok started →
        w'.journal.attemptActions b started.recoveryId = [])
      ((startRecoveryStep h b).onRaise (startRecoveryRaised batch)) w := by
  have hnone : Along A (fun _ _ => True) (fun r w' => ∀ started, r = .ok started →
      w'.journal.attemptActions b started.recoveryId = [])
        (startRecoveryStep h b : Op Disk (List OsAnswer) (RecoveryRow Payload)) w := by
    refine along_journalWrite trivial (fun _ _ _ _ _ hr => by cases hr) (fun _ _ _ _ _ _ hr => by cases hr)
      fun i record db _ _ hrun => ⟨trivial, fun started hstarted => ?_⟩
    cases hstarted
    obtain ⟨⟨row, r, db'⟩, hstart, heq⟩ := map_eq_ok.1 hrun
    cases heq
    exact (startRecovery_actions hw.kept hstart).2
  refine along_onRaise (along_mono (fun _ _ hr => hr.1) (fun r w₁ h₁ => ?_)
    (along_and (along_recorded hw note_startRecoveryStep) hnone))
  cases r with
  | ok started => exact ⟨h₁.1.1, h₁.2⟩
  | error e => exact along_startRaised h₁.1.1 (fun _ => ⟨h₁.1.1, fun _ hr => by cases hr⟩) batch e

/-- **The recovery of the batch.** -/
theorem along_recoveryRestores (hW : W.coordinator = C.onDisk) {lease : LeaseRecord} (hw : Retraceable c m d₀ b w)
    (hintent : m.intent.OfFile m.path) :
    Along RunnerInput (fun _ w' => Retraceable c m d₀ b w') (Restores c m d₀ b)
      (recoverBatch h b (replayRunner W lease)) w := by
  refine along_seq (along_read (read_atOperationTime h) hw) (fun entry w₁ h₁ => ?_)
    fun _ w₁ h₁ => restores_error (h₁ ▸ hw)
  subst h₁
  refine along_seq (along_read (read_requireCurrent entry) hw) (fun _ w₂ h₂ => ?_)
    fun _ w₂ h₂ => restores_error (h₂ ▸ hw)
  subst h₂
  refine along_seq (along_read (read_databaseRead _) hw) (fun found w₃ h₃ => ?_) fun _ w₃ h₃ => restores_error (h₃ ▸ hw)
  subst h₃
  cases found with
  | none => exact restores_error hw
  | some batch =>
    dsimp only
    split
    · exact restores_error hw
    · exact along_seq (along_startAttempt hw)
        (fun started w₄ h₄ => along_attemptRestores hW h₄.1 hintent (h₄.2 started rfl))
        fun _ _ h₄ => restores_error h₄.1

/-! ### Putting the batch up -/

/-- What a replay says it saw is the disk. -/
theorem along_replayFailure {R : World Disk → World Disk → Prop} (hR : R w w) {batch : BatchRow Payload} :
    Along A R (fun r w' => w' = w ∧ ∀ found, r = .ok found → ∀ f, found = some f →
      ∃ p, ∀ s, f.snapshot = some s → s = w.fs.snapshotAt p) (replayFailure C.onDisk batch) w := by
  unfold replayFailure
  split
  · exact ⟨rfl, fun found hfound f hf => by subst hf; cases hfound⟩
  · next path _ =>
    have hlook : Along A R (fun r w' => w' = w ∧ ∀ s, r = .ok s → s = w.fs.snapshotAt path)
        (fsRead fun o fs => C.onDisk.ops.snapshot o fs path) w :=
      along_call fun i _ => ⟨hR, rfl, fun s hs => snapshot_onDisk (mapError_eq_ok.1 hs)⟩
    refine along_outcome_seq hlook fun seen w₁ h₁ => ?_
    obtain ⟨rfl, hsnapshot⟩ := h₁
    cases seen with
    | ok s' =>
      refine ⟨rfl, fun found hfound f hf => ⟨path, fun s hs => ?_⟩⟩
      subst hf
      cases hfound
      cases hs
      exact hsnapshot s' rfl
    | error e =>
      refine ⟨rfl, fun found hfound f hf => ⟨path, fun s hs => ?_⟩⟩
      subst hf
      cases hfound
      cases hs

/-- So it misleads nobody. -/
theorem admits_replay (hm : m.TakesNewInode) (hw : Retraceable c m d₀ b w) {failure : Option FailurePayload}
    (hseen : ∀ f, failure = some f → ∃ p, ∀ s, f.snapshot = some s → s = w.fs.snapshotAt p) {id runId : String}
    {phase : BatchPhase} :
    (seenBefore d₀ m.path (Truthful d₀ w.fs m.path)).Admits (.replay id runId phase failure) where
  failure f hf := by
    obtain ⟨p, hp⟩ := hseen f hf
    exact truthful_seen (hw.file.imp_left fun hleft => hleft.sameOrOther hm) hp
  details d hd := by cases hd

theorem along_markForReplay (hm : m.TakesNewInode) (hw : Retraceable c m d₀ b w) {batch : BatchRow Payload} :
    Along A (fun _ w' => Retraceable c m d₀ b w') (fun _ w' => Retraceable c m d₀ b w')
      (markForReplay C.onDisk h batch) w := by
  have hnote : ∀ {p : Op Disk (List OsAnswer) Unit},
      AllNote (seenBefore d₀ m.path (Truthful d₀ w.fs m.path)) b p →
      Along A (fun _ w' => Retraceable c m d₀ b w') (fun _ w' => Retraceable c m d₀ b w') p w :=
    fun hp => along_mono (fun _ _ hr => hr) (fun _ _ hr => hr.1) (along_recorded hw hp)
  unfold markForReplay
  dsimp only
  split
  · refine along_seq (along_replayFailure hw) (fun found w₁ h₁ => ?_) fun _ w₁ h₁ => by rw [h₁.1]; exact hw
    obtain ⟨rfl, hseen⟩ := h₁
    exact hnote (note_bind (note_recordInterruptedStep fun _ => admits_replay hm hw (hseen found rfl))
      fun _ => note_ret _)
  · refine along_seq (along_replayFailure hw) (fun found w₁ h₁ => ?_) fun _ w₁ h₁ => by rw [h₁.1]; exact hw
    obtain ⟨rfl, hseen⟩ := h₁
    exact hnote (note_bind (note_recordRecoveryDesiredStep fun _ => admits_replay hm hw (hseen found rfl))
      fun _ => note_ret _)
  · exact hnote (note_bind (note_recordRecoveryDesiredStep fun _ => admits_none rfl rfl) fun _ => note_ret _)
  · exact hnote (note_bind (note_recordRecoveryDesiredStep fun _ => admits_none rfl rfl) fun _ => note_ret _)
  · exact hnote note_recordAbandonedSucceededStep
  · exact hw

/-- **A round of the replay** for the batch. -/
theorem along_replayRestores (hm : m.TakesNewInode) (hintent : m.intent.OfFile m.path)
    (hW : W.coordinator = C.onDisk) {batch : BatchRow Payload} (hbatch : batch.batchId = b)
    (hw : Retraceable c m d₀ b w) :
    Along RunnerInput (fun _ w' => Retraceable c m d₀ b w') (Restores c m d₀ b) (recoverReplayBatch W h batch) w := by
  have hprepare : Along RunnerInput (fun _ w' => Retraceable c m d₀ b w')
      (fun r w' => Retraceable c m d₀ b w' ∧ ∀ row, r = .ok row → row.batchId = b)
      (prepareReplayBatch W.coordinator h batch) w := by
    rw [hW]
    refine along_seq (along_markForReplay hm hw) (fun _ w₁ hw₁ => ?_) fun _ _ hw₁ => ⟨hw₁, fun _ hr => by cases hr⟩
    refine along_seq (along_answers hw₁) (fun updated w₂ h₂ => ?_)
      fun _ w₂ h₂ => ⟨by rw [h₂.1]; exact hw₁, fun _ hr => by cases hr⟩
    obtain ⟨rfl, hrow⟩ := h₂
    obtain ⟨_, hrow⟩ := hrow updated rfl
    cases updated with
    | none => exact ⟨hw₁, fun _ hr => by cases hr⟩
    | some row =>
      refine ⟨hw₁, fun row' hr => ?_⟩
      cases hr
      have hkey : row.batchId = batch.batchId := findRow_key (Except.ok.inj hrow)
      exact hkey.trans hbatch
  refine along_seq hprepare (fun row w₁ h₁ => ?_) fun _ _ h₁ => restores_error h₁.1
  rw [h₁.2 row rfl]
  exact along_recoveryRestores hW h₁.1 hintent

end Attempts

/-! ## What others do -/

section Others

variable {w w' : World Disk} {call : JournalCall Payload}

/-- A call that spares the batch leaves it where it can be found. -/
theorem BatchOf.others {k key : String} {intent : Intent} {db : JournalDb Payload} (hbatch : BatchOf k intent key b db)
    (hspares : call.Spares b) : BatchOf k intent key b (db.step call) := by
  obtain ⟨r, hr, hpayload, hkey⟩ := hbatch.row
  obtain ⟨r', hr', hc, -⟩ := (grows_step db call).row b r hr
  refine ⟨?_, r', hr', (BatchRow.column_eq (f := BatchRow.payload) (fun _ => rfl) hc).trans hpayload,
    (BatchRow.column_eq (f := BatchRow.resourceKey) (fun _ => rfl) hc).trans hkey⟩
  cases call with
  | write x ctx =>
    simp only [JournalDb.step]
    split
    · next db' hrun =>
      cases hx : x.batch with
      | some b' => exact ((run_advances hx hrun).key k).trans hbatch.underKey
      | none =>
        cases x with
        | createBatch req id =>
          simp only [JournalWrite.run, map_eq_ok, Prod.exists, exists_eq_right] at hrun
          obtain ⟨row, hcreate⟩ := hrun
          obtain ⟨-, ⟨rfl, -⟩ | ⟨rfl, -⟩⟩ := createBatch_ok hcreate
          · exact hbatch.underKey
          · obtain ⟨found, hfound, hid⟩ := Option.map_eq_some_iff.1 hbatch.underKey
            rw [JournalDb.batchRowByIdempotencyKey, findRow_append_one]
            rw [JournalDb.batchRowByIdempotencyKey] at hfound
            rw [hfound, Option.some_or, Option.map_some, hid]
        | _ => cases hx
    · exact hbatch.underKey
  | _ => exact hbatch.underKey

/-- **Others**, who spare the batch and the file. -/
theorem Retraceable.others (hw : Retraceable c m d₀ b w) (hspares : call.Spares b)
    (hnew : call.DrawsNewActionId w.journal) (hjournal : w'.journal = w.journal.step call)
    (hfile : w'.fs.lookup m.path = w.fs.lookup m.path) : Retraceable c m d₀ b w' := by
  have hupheld : ∀ {T : Testimony}, T.Upheld b w.journal → T.Upheld b (w.journal.step call) := by
    intro T hT
    cases call with
    | write x ctx =>
      simp only [JournalDb.step]
      split
      · next db' hrun => exact upholds_run hT (says_of_spares hspares) hrun
      · exact hT
    | _ => exact ⟨hT.checkpoints, hT.recoveries, hT.status⟩
  have hstep : Retraceable c m d₀ b { w with journal := w.journal.step call } :=
    ⟨hw.batch.others hspares, actionsKept_step w.journal call hnew hw.kept, hw.file, hupheld hw.records⟩
  exact hstep.congr hjournal hfile

end Others

/-! ## Start to end -/

/-- What may come after a mutation was cut short: recoveries of its batch, each cut short
anywhere or not, and in between whatever spares the batch and the file. -/
inductive Aftermath (path : Path) (b : String) (w : World Disk) : World Disk → Prop
  | start : Aftermath path b w w
  | recovery {w₁ : World Disk} (C : Coordinator Disk (List OsAnswer)) (W : Workspace Disk (List OsAnswer))
      (h : LeaseHolder) (batch : BatchRow Payload) (inputs : List (Sample (List OsAnswer))) :
      Aftermath path b w w₁ → W.coordinator = C.onDisk → batch.batchId = b →
      Meets RunnerInput (recoverReplayBatch W h batch) w₁ inputs →
      Aftermath path b w ((recoverReplayBatch W h batch).exec w₁ inputs).2
  | others {w₁ w₂ : World Disk} (call : JournalCall Payload) :
      Aftermath path b w w₁ → call.Spares b → call.DrawsNewActionId w₁.journal →
      w₂.journal = w₁.journal.step call → w₂.fs.lookup path = w₁.fs.lookup path → Aftermath path b w w₂

section Whole

variable {w w₁ : World Disk}

/-- A journal that a run reaches, with nothing under the key. -/
theorem Reached.fresh (hw : Reached w) (hkey : w.journal.batchRowByIdempotencyKey c.idempotencyKey = none) :
    Fresh c w.journal := by
  refine ⟨hkey, hw.kept, ?_⟩
  obtain ⟨run, -, hrun⟩ := hw
  rw [hrun]
  exact after_invariant recordsHaveBatch_step run _ fun _ _ T => by cases T <;> rfl

/-- What can be traced back stays so. -/
theorem Aftermath.retraceable (hm : m.TakesNewInode) (hintent : m.intent.OfFile m.path)
    (hw : Retraceable c m d₀ b w) (h : Aftermath m.path b w w₁) : Retraceable c m d₀ b w₁ := by
  induction h with
  | start => exact hw
  | recovery C W h batch inputs _ hW hbatch hmeets ih =>
    exact along_holds (along_replayRestores hm hintent hW hbatch ih) ih inputs hmeets
  | others call _ hspares hnew hjournal hfile ih => exact ih.others hspares hnew hjournal hfile

/-- **Rolling a file back, from start to end.** A write or a deletion that is stopped
anywhere, in the middle of a system call or of a transaction, either leaves nothing at all
or a batch. Whatever comes after that, the file is as the request leaves it, or as it was
before; and when a recovery of the batch returns, it is as it was before. -/
theorem file_rollback (C : Coordinator Disk (List OsAnswer)) (c : Caller) (r : MutationRequest)
    (m : FileMutation Disk (List OsAnswer)) (w : World Disk) (inputs : List (Sample (List OsAnswer)))
    (hm : r.fileMutation C.onDisk = some m) (hw : Reached w)
    (hkey : w.journal.batchRowByIdempotencyKey c.idempotencyKey = none) :
    let w₁ := ((runMutation C.onDisk c r).exec w inputs).2
    (w₁.journal.batchRowByIdempotencyKey c.idempotencyKey = none → w₁.fs.lookup m.path = w.fs.lookup m.path) ∧
    ∀ row w₂, w₁.journal.batchRowByIdempotencyKey c.idempotencyKey = some row → Aftermath m.path row.batchId w₁ w₂ →
      (r.Leaves (w.fs.lookup m.path) (w₂.fs.lookup m.path) ∨
        SameFile (w₂.fs.lookup m.path) (w.fs.lookup m.path)) ∧
      ∀ (C' : Coordinator Disk (List OsAnswer)) (W : Workspace Disk (List OsAnswer)) (h : LeaseHolder)
        (batch : BatchRow Payload) (inputs' : List (Sample (List OsAnswer))) recovered rest w₃,
        W.coordinator = C'.onDisk → batch.batchId = row.batchId →
        Meets RunnerInput (recoverReplayBatch W h batch) w₂ inputs' →
        (recoverReplayBatch W h batch).exec w₂ inputs' = (some (.ok recovered, rest), w₃) →
        SameFile (w₃.fs.lookup m.path) (w.fs.lookup m.path) := by
  have hnew := fileMutation_takesNewInode hm
  have hintent := (fileMutation_ofFile hm).1
  have hbegun := along_holds (along_runMutation hm (hw.fresh hkey)) (Or.inl ⟨hkey, rfl⟩) inputs (meets_true _ _ _)
  dsimp only
  rcases hbegun with ⟨hnone, hsame⟩ | ⟨b, htrace⟩
  · refine ⟨fun _ => hsame, fun row w₂ hrow => ?_⟩
    rw [hnone] at hrow
    cases hrow
  · have hunder := htrace.batch.underKey
    refine ⟨fun hnone => ?_, fun row w₂ hrow hafter => ?_⟩
    · rw [hnone] at hunder
      cases hunder
    · rw [hrow, Option.map_some] at hunder
      obtain rfl : row.batchId = b := Option.some.inj hunder
      have htrace₂ := hafter.retraceable hnew hintent htrace
      refine ⟨htrace₂.file.imp_left fun hleaves => fileMutation_leaves hm hleaves, ?_⟩
      intro C' W h batch inputs' recovered rest w₃ hW hbatch hmeets hrun
      exact (along_finishes (along_replayRestores hnew hintent hW hbatch htrace₂) hmeets hrun).2 recovered rfl

end Whole

/-! ## A deletion that is taken back -/

private def cutOff : DateTime := .soon 5
private def longAfter : DateTime := .soon 100
private def atLast : DateTime := .soon 200

private def firstHolder : LeaseHolder :=
  ⟨leaseFromRow "lease" ⟨"a", "t1", 1, cutOff, cutOff, longAfter⟩ true true, some cutOff⟩
private def nextHolder : LeaseHolder :=
  ⟨leaseFromRow "lease" ⟨"b", "t2", 2, longAfter, longAfter, .soon 195⟩ true true, none⟩
private def lastHolder : LeaseHolder :=
  ⟨leaseFromRow "lease" ⟨"c", "t3", 3, atLast, atLast, .soon 295⟩ true true, none⟩

/-- What a coordinator on disk has of its own: nothing that answers. -/
private def filesOnly : Coordinator Disk (List OsAnswer) := .inert

/-- The root directory, with one file in it. -/
private def oneFile : Disk :=
  (Disk.mk 1 18 ∅).put [] ⟨2, .directory 0, 493, 0, 0⟩ |>.put ["f"] ⟨7, .file [1, 2], 420, 3, 3⟩

private def deleter : Caller where
  toLeaseHolder := firstHolder
  owner := "a"
  runId := "run"
  idempotencyKey := "key"
  operationRunId := none
  operationPhaseId := none
  claimScope := none

private def deletersLease : JournalCall Payload := .lease (.acquire "lease" "a" 95 none "t1" cutOff)
private def takeover : JournalCall Payload := .lease (.acquire "lease" "b" 95 none "t2" longAfter)
private def nextTakeover : JournalCall Payload := .lease (.acquire "lease" "c" 95 none "t3" atLast)

private def withFile : World Disk :=
  { World.init oneFile with
    journal := after JournalDb.step (JournalDb.init Payload) [deletersLease]
    claims := [⟨"file:/f", "a", none, some ⟨some "c", some "lease", some "a",
      some (leaseTokenDigest firstHolder.lease), some 1, some "run", ""⟩, cutOff, cutOff⟩] }

private def osAnswering (n : Nat) : List OsAnswer :=
  (List.range 40).map fun k => ⟨none, 100 * n + k, toString n ++ "-" ++ toString k, 50 + n, 0⟩

/-- So many steps that do not fail, and draw ids of their own. -/
private def stepsOf (n first : Nat) (now : DateTime) (id : String) : List (Sample (List OsAnswer)) :=
  (List.range n).map fun k => ⟨now, id ++ "h" ++ toString k, id ++ toString k, none, osAnswering (first + k)⟩

private theorem stepsOf_meet {α : Type} {p : Op Disk (List OsAnswer) α} {w : World Disk}
    {inputs : List (Sample (List OsAnswer))}
    (h : Meets (fun i w => (∀ r ∈ w.journal.recoveryActions, r.actionId ≠ i.handoffId) ∧ i.fault = none) p w inputs) :
    Meets RunnerInput p w inputs := by
  refine meets_mono (fun i w hi => ⟨hi.1, fun reason code hf => ?_⟩) h
  rw [hi.2] at hf
  cases hf

/-- The file is deleted, and the process is killed before it can say so. -/
private def cutDelete : World Disk :=
  ((runMutation filesOnly.onDisk deleter (.deleteFile ["f"] "file:/f" false)).exec withFile
    (stepsOf 15 1 cutOff "d")).2

private def leftBatch : BatchRow Payload :=
  (cutDelete.journal.batchRowByIdempotencyKey "key").get (by decide +kernel)

private def takenOver : World Disk := { cutDelete with journal := cutDelete.journal.step takeover }

private def rollingBack (h : LeaseHolder) (batch : BatchRow Payload) : Op Disk (List OsAnswer) (BatchRow Payload) :=
  recoverReplayBatch ⟨filesOnly.onDisk, h.lease.owner, "lease", 95, none⟩ h batch

/-- The recovery is killed before its restore. -/
private def cutRecovery : World Disk :=
  ((rollingBack nextHolder leftBatch).exec takenOver (stepsOf 30 100 longAfter "r")).2

private def foundBatch : BatchRow Payload :=
  (cutRecovery.journal.batchRowByIdempotencyKey "key").get (by decide +kernel)

private def takenAgain : World Disk := { cutRecovery with journal := cutRecovery.journal.step nextTakeover }

private theorem returns_of_toBool {α : Type}
    (run : Option (Except OperationError α × List (Sample (List OsAnswer))) × World Disk)
    (h : run.1.any (fun r => r.1.toBool) = true) : ∃ a rest, run = (some (.ok a, rest), run.2) := by
  obtain ⟨r, w⟩ := run
  obtain ⟨⟨x, rest⟩, rfl, hx⟩ := (Option.any_eq_true _ _).1 h
  cases x with
  | error e => cases hx
  | ok a => exact ⟨a, rest, rfl⟩

/-- Killed after the file is gone, and its recovery killed before the file is back: the next
recovery returns, and the file is what it was. -/
theorem file_rollback_deleted : cutDelete.fs.lookup ["f"] = none ∧ takenAgain.fs.lookup ["f"] = none ∧
    ∃ row rest w,
      (rollingBack lastHolder foundBatch).exec takenAgain (stepsOf 60 200 atLast "s") = (some (.ok row, rest), w) ∧
      SameFile (w.fs.lookup ["f"]) (oneFile.lookup ["f"]) := by
  have hreached : Reached withFile := ⟨[deletersLease], ⟨trivial, trivial⟩, rfl⟩
  obtain ⟨-, hrolled⟩ := file_rollback filesOnly deleter (.deleteFile ["f"] "file:/f" false) _ withFile
    (stepsOf 15 1 cutOff "d") rfl hreached rfl
  have htaken : Aftermath ["f"] leftBatch.batchId cutDelete takenOver :=
    .others takeover .start trivial trivial rfl rfl
  have hcut : Aftermath ["f"] leftBatch.batchId cutDelete cutRecovery :=
    .recovery filesOnly _ nextHolder leftBatch _ htaken rfl rfl (stepsOf_meet (by decide +kernel))
  have hafter : Aftermath ["f"] leftBatch.batchId cutDelete takenAgain :=
    .others nextTakeover hcut trivial trivial rfl rfl
  obtain ⟨row, rest, hrun⟩ := returns_of_toBool
    ((rollingBack lastHolder foundBatch).exec takenAgain (stepsOf 60 200 atLast "s")) (by decide +kernel)
  have hsame : foundBatch.batchId = leftBatch.batchId := by decide +kernel
  refine ⟨by decide +kernel, by decide +kernel, row, rest, _, hrun, ?_⟩
  exact (hrolled leftBatch takenAgain (Option.some_get _).symm hafter).2 filesOnly _ lastHolder foundBatch _ row rest _
    rfl hsame (stepsOf_meet (by decide +kernel)) hrun

end SafeFsOps
