import SafeFsOps.OperationJournal.BatchLife
import SafeFsOps.OperationJournal.Evidence
import SafeFsOps.OperationJournal.OnDisk
import SafeFsOps.OperationJournal.RecoveryHandlers
import SafeFsOps.OperationJournal.StepRules

/-!
# Rolling a file back

A write or a deletion that fails, or whose process is killed, leaves a journal and a
disk, and the recovery has nothing but these. The argument that this is enough has one
invariant, `Retraceable`: the file is as it was or another inode, the checkpoints of
what was there before tell the truth, and no failure on record misleads: where what was
seen then is what was there at first, the file is as it was.

- `along_runMutation`: at every point of a mutation its batch is retraceable.
- `plan_noop`, `plan_restore`: so a plan to do nothing is right, and a backup that is to
  be restored is one of the original file.
-/

namespace SafeFsOps

open Program

/-- Two files of the same kind, content and permissions, or none at all. -/
def SameFile (left right : Option Inode) : Prop :=
  left.map (fun i => (i.node, i.permissions)) = right.map fun i => (i.node, i.permissions)

/-- What a request leaves of its file: what was there, the whole new file, or nothing. -/
def MutationRequest.Leaves (before after : Option Inode) : MutationRequest → Prop
  | writeTextFile _ content _ newline => after = before ∨
      ∃ i, after = some i ∧ WholeFile (normalizeNewlines content newline).toUTF8.toList (before.map Inode.permissions) i
  | writeBytesFile _ content _ permissions .. => after = before ∨
      ∃ i, after = some i ∧ WholeFile content (permissions.or (before.map Inode.permissions)) i
  | deleteFile .. => after = before ∨ after = none
  | _ => True

/-- A backup of what was at the path. -/
structure Backs (d₀ : Disk) (path : Path) (b : FileBackup) : Prop where
  snapshot : b.snapshot = d₀.snapshotAt path
  contents : b.Matches (d₀.lookup path)

/-- A checkpoint of the mutation of a file: what was there before is told as it was. -/
structure ToldBefore (d₀ : Disk) (path : Path) (type : String) (payload : Payload) : Prop where
  before : type = "before" → payload = .snapshot (d₀.snapshotAt path) none
  backup : type = "backup" → ∃ b, payload = .backup b ∧ Backs d₀ path b
  ofFile : type ≠ "rename_record" ∧ type ≠ "captured_directory" ∧ type ≠ "tree_backup"

/-- Details of the mutation of a file: of no move, and of no step of a recursive one. -/
structure RecoveryDetails.Plain (d : RecoveryDetails) : Prop where
  renameRecord : d.renameRecord = none
  capturedDirectoryRestore : d.capturedDirectoryRestore = none
  manualInterventionAction : d.manualInterventionAction = none
  recursive : d.recursive = none

/-- What the records of a mutation may say: what was there before, and no failures but those of `F`. -/
def seenBefore (d₀ : Disk) (path : Path) (F : FailurePayload → Prop) : Testimony :=
  ⟨ToldBefore d₀ path, F, RecoveryDetails.Plain⟩

/-- A failure that does not mislead: if what was seen then is what was there at first, the file is as it was. -/
def Truthful (d₀ d : Disk) (path : Path) (f : FailurePayload) : Prop :=
  ∀ s, f.snapshot = some s → sameSnapshot (d₀.snapshotAt path) s path = true →
    SameFile (d.lookup path) (d₀.lookup path)

/-- What the mutation leaves of its file: what was there, or what one call of it makes of that. -/
def FileMutation.Leaves (m : FileMutation Disk (List OsAnswer)) (d₀ d : Disk) : Prop :=
  d.lookup m.path = d₀.lookup m.path ∨
    ∃ o d₁, d₁.lookup m.path = d₀.lookup m.path ∧ d.lookup m.path = (m.mutate o d₁).2.lookup m.path

/-- A mutation that changes the file of an inode never: the new one has an inode of its own. -/
def FileMutation.TakesNewInode (m : FileMutation Disk (List OsAnswer)) : Prop :=
  ∀ o d, SameOrOther d (m.mutate o d).2 m.path

/-- The batch of a mutation: under its caller's key, with its intent. -/
structure BatchOf (idempotencyKey : String) (intent : Intent) (key b : String) (db : JournalDb Payload) : Prop where
  underKey : (db.batchRowByIdempotencyKey idempotencyKey).map BatchRow.batchId = some b
  row : ∃ r, db.batchRow b = some r ∧ r.payload = .intent intent ∧ r.resourceKey = some key

/-- The batch of a mutation, begun on disk `d₀`, whose records and disk can be relied on to
bring the file back. -/
structure Retraceable (c : Caller) (m : FileMutation Disk (List OsAnswer)) (d₀ : Disk) (b : String) (w : World Disk) :
    Prop where
  batch : BatchOf c.idempotencyKey m.intent m.resourceKey b w.journal
  kept : ActionsKept w.journal
  file : m.Leaves d₀ w.fs ∨ SameFile (w.fs.lookup m.path) (d₀.lookup m.path)
  records : (seenBefore d₀ m.path (Truthful d₀ w.fs m.path)).Upheld b w.journal

/-! ## Planning -/

section Planning

variable {c : Caller} {m : FileMutation Disk (List OsAnswer)} {intent : Intent} {key b : String} {d₀ : Disk}
  {path : Path} {w : World Disk} {ctx : RecoveryContext}

/-- A checkpoint of another type tells nothing of these. -/
theorem ToldBefore.other {type : String} {payload : Payload}
    (h : type ∉ ["before", "backup", "rename_record", "captured_directory", "tree_backup"]) : ToldBefore d₀ path type payload := by
  simp only [List.mem_cons, List.not_mem_nil, or_false, not_or] at h
  exact ⟨fun htype => absurd htype h.1, fun htype => absurd htype h.2.1, h.2.2⟩

/-- Details that agree in these. -/
theorem RecoveryDetails.Plain.congr {d d' : RecoveryDetails} (h : d.Plain) (hr : d'.renameRecord = d.renameRecord)
    (hc : d'.capturedDirectoryRestore = d.capturedDirectoryRestore)
    (hm : d'.manualInterventionAction = d.manualInterventionAction) (hg : d'.recursive = d.recursive) : d'.Plain :=
  ⟨hr.trans h.renameRecord, hc.trans h.capturedDirectoryRestore, hm.trans h.manualInterventionAction,
    hg.trans h.recursive⟩

theorem SameFile.symm {left right : Option Inode} (h : SameFile left right) : SameFile right left := Eq.symm h

theorem FileMutation.Leaves.sameOrOther {d : Disk} (hm : m.TakesNewInode) (h : m.Leaves d₀ d) :
    SameOrOther d₀ d m.path := by
  rcases h with h | ⟨o, d₁, h₁, h⟩
  · exact Or.inl h
  · have hchange := hm o d₁
    unfold SameOrOther at hchange ⊢
    rw [h, ← h₁]
    exact hchange

/-- Two backups of one file are of equal files. -/
theorem sameFile_of_matches {backup : FileBackup} {left right : Option Inode} (hl : backup.Matches left)
    (hr : backup.Matches right) : SameFile left right := by
  have hcontent : ∀ {i j : Inode}, i.node.fileType = .file → j.node.fileType = .file →
      i.node.contentHash = j.node.contentHash → i.node = j.node := by
    intro i j hi hj h
    cases hin : i.node <;> rw [hin] at hi h <;> cases hi
    cases hjn : j.node <;> rw [hjn] at hj h <;> cases hj
    simp only [Node.contentHash, contentDigest, Option.some.injEq, ContentDigest.mk.injEq] at h
    rw [h]
  cases backup with
  | missing s => rw [show left = none from hl, show right = none from hr]; rfl
  | file contentPath hash size permissions s =>
    obtain ⟨i, rfl, hi, hih, -, hip⟩ := hl
    obtain ⟨j, rfl, hj, hjh, -, hjp⟩ := hr
    unfold SameFile
    rw [Option.map_some, Option.map_some, hcontent hi hj (hih.trans hjh.symm), hip, hjp]

/-- What the context says is what the journal says. -/
theorem readRecoveryContext_eq_ok {db : JournalDb Payload} (h : readRecoveryContext db b = .ok ctx) :
    db.batchRow b = some ctx.batch ∧ ctx.checkpoints = db.listCheckpoints b ∧
      ctx.recoveryRecords = db.listRecoveryRecords b := by
  unfold readRecoveryContext at h
  split at h
  · cases h
  · next records hrecords =>
    simp only [bind_eq_ok, pure_eq_ok] at h
    obtain ⟨_, -, rfl⟩ := h
    obtain ⟨row, hrow, rfl⟩ := Option.map_eq_some_iff.1 hrecords
    exact ⟨hrow, rfl, rfl⟩

/-- The latest failure is one on record. -/
theorem latestFailure_upheld {T : Testimony} {db : JournalDb Payload} {f : FailurePayload}
    (hctx : readRecoveryContext db b = .ok ctx) (hT : T.Upheld b db) (hf : ctx.latestFailure = some f) : T.failure f := by
  obtain ⟨hrow, -, hrecords⟩ := readRecoveryContext_eq_ok hctx
  unfold RecoveryContext.latestFailure at hf
  rcases Option.or_eq_some_iff.1 hf with hstatus | ⟨-, hrecord⟩
  · exact (hT.status ctx.batch hrow).failure f hstatus
  · obtain ⟨r, hr, hrf⟩ := List.exists_of_findSome?_eq_some hrecord
    rw [List.mem_reverse, hrecords, JournalDb.listRecoveryRecords, mem_listRows] at hr
    exact (hT.recoveries r hr.1 (of_decide_eq_true hr.2)).failure f hrf

/-- A checkpoint that is found is one on record, of its type and path. -/
theorem latestCheckpoint_upheld {T : Testimony} {db : JournalDb Payload} {type : String} {c : CheckpointRow Payload}
    (hctx : readRecoveryContext db b = .ok ctx) (hT : T.Upheld b db)
    (hc : latestCheckpoint ctx.checkpoints type key path = some c) :
    T.checkpoint type c.payload ∧ c.payload.path? = some path := by
  obtain ⟨-, hlist, -⟩ := readRecoveryContext_eq_ok hctx
  unfold latestCheckpoint at hc
  have hmem := List.mem_of_find?_eq_some hc
  have hp := List.find?_some hc
  rw [decide_eq_true_eq] at hp
  rw [List.mem_reverse, hlist, JournalDb.listCheckpoints, mem_listRows] at hmem
  have hcheck := hT.checkpoints c hmem.1 (of_decide_eq_true hmem.2)
  rw [hp.1] at hcheck
  exact ⟨hcheck, hp.2.2⟩

/-- A backup that can be used is one that was recorded. -/
theorem backupOf_eq_some {c : CheckpointRow Payload} {backup : FileBackup} (h : backupOf c path = some backup) :
    c.payload = .backup backup ∧ backup.path = path := by
  unfold backupOf at h
  split at h
  · next s hc =>
    split at h
    · next hs =>
      cases h
      exact ⟨hc, hs.1⟩
    · cases h
  · next hc =>
    split at h
    · next hs =>
      cases h
      exact ⟨hc, hs.1⟩
    · cases h
  · cases h

/-- A snapshot of the disk as it is that shows what was there at first. -/
theorem sameFile_of_seen {d : Disk} (hfile : SameOrOther d₀ d path ∨ SameFile (d.lookup path) (d₀.lookup path)) {p : Path}
    (hsame : sameSnapshot (d₀.snapshotAt path) (d.snapshotAt p) path = true) :
    SameFile (d.lookup path) (d₀.lookup path) := by
  rcases hfile with hfile | hfile
  · unfold sameSnapshot at hsame
    simp only [Bool.decide_and, Bool.and_eq_true, decide_eq_true_eq] at hsame
    obtain rfl : p = path := Disk.snapshotAt_path.symm.trans hsame.2.1
    rw [hfile.eq_of_inode hsame.2.2.2.2.2.2.2.2.2.symm]
    rfl
  · exact hfile

/-- A failure with nothing seen, and one that was seen on the disk as it is. -/
theorem truthful_blind {d : Disk} {f : FailurePayload} (hf : f.snapshot = none) : Truthful d₀ d path f := by
  intro s hs
  rw [hf] at hs
  cases hs

theorem truthful_seen {d : Disk} {f : FailurePayload} {p : Path}
    (hfile : SameOrOther d₀ d path ∨ SameFile (d.lookup path) (d₀.lookup path))
    (hf : ∀ s, f.snapshot = some s → s = d.snapshotAt p) : Truthful d₀ d path f := by
  intro s hs hsame
  rw [hf s hs] at hsame
  exact sameFile_of_seen hfile hsame

/-- The intents that the planner of file recoveries takes up. -/
def Intent.OfFile (intent : Intent) (path : Path) : Prop :=
  intent.operation ∈ [OperationType.writeBytes, .writeText, .deleteFile] ∧ intent.path? = some path

/-- What the planner finds in the records of a file's mutation. -/
theorem fileRecoveryProofFromRecords_eq {checkpoints : List (CheckpointRow Payload)} {failure : Option FailurePayload}
    (hintent : intent.OfFile path) : fileRecoveryProofFromRecords (.intent intent) checkpoints (some key) failure =
      match (latestCheckpoint checkpoints "backup" key path).bind fun c => backupOf c path with
      | none =>
        if beforeMutationNoop checkpoints key path failure then
          some (.noop ("noop:" ++ ("restore-backup:self:" ++ key)) key)
        else some (.manual ("manual:" ++ ("restore-backup:self:" ++ key)) key
          (.fileRollback path none "missing_backup_proof" (failure.bind FailurePayload.stage)))
      | some backup =>
        match expectedCurrent checkpoints key path failure with
        | some current => some (.restore ("restore-backup:self:" ++ key) key path backup current)
        | none =>
          if noSideEffectNoop checkpoints key path backup failure then
            some (.noop ("noop:" ++ ("restore-backup:self:" ++ key)) key)
          else some (.manual ("manual:" ++ ("restore-backup:self:" ++ key)) key (.fileRollback path (some backup)
            "missing_expected_current_proof" (failure.bind FailurePayload.stage))) := by
  have hguard : (guard (intent.operation ∈ [OperationType.writeBytes, .writeText, .deleteFile]) : Option Unit) =
      some () := if_pos hintent.1
  unfold fileRecoveryProofFromRecords
  rw [Payload.intent?, Option.bind_eq_bind, Option.bind_some, hguard, hintent.2]
  rfl

/-- What the planner finds, where the batch is one of a file. -/
theorem fileRecoveryProof_eq (hrow : ctx.batch.payload = .intent intent) (hkey : ctx.batch.resourceKey = some key) :
    fileRecoveryProof ctx =
      fileRecoveryProofFromRecords (.intent intent) ctx.checkpoints (some key) ctx.latestFailure := by
  rw [fileRecoveryProof, hrow, hkey]

/-- The backup the planner uses. -/
theorem plannedBackup_backs {T : Testimony} {db : JournalDb Payload} {backup : FileBackup}
    (hctx : readRecoveryContext db b = .ok ctx) (hT : T.Upheld b db)
    (hbackup : ((latestCheckpoint ctx.checkpoints "backup" key path).bind fun c => backupOf c path) = some backup) :
    T.checkpoint "backup" (.backup backup) ∧ backup.path = path := by
  obtain ⟨c, hc, hof⟩ := Option.bind_eq_some_iff.1 hbackup
  obtain ⟨hcheck, -⟩ := latestCheckpoint_upheld hctx hT hc
  obtain ⟨hpayload, hpath⟩ := backupOf_eq_some hof
  exact ⟨hpayload ▸ hcheck, hpath⟩

/-- A plan to do nothing is made only where there is nothing to do. -/
theorem plan_noop (h : Retraceable c m d₀ b w) (hctx : readRecoveryContext w.journal b = .ok ctx)
    (hintent : m.intent.OfFile m.path) {actionId k : String} (hplan : fileRecoveryProof ctx = some (.noop actionId k)) :
    SameFile (w.fs.lookup m.path) (d₀.lookup m.path) := by
  obtain ⟨r, hr, hpayload, hkey⟩ := h.batch.row
  obtain ⟨hbatch, -, -⟩ := readRecoveryContext_eq_ok hctx
  rw [hr] at hbatch
  cases hbatch
  rw [fileRecoveryProof_eq hpayload hkey, fileRecoveryProofFromRecords_eq hintent] at hplan
  -- the checkpoint is one of the disk as it was, and the failure does not mislead
  have hseen : ∀ s, failureSnapshot ctx.latestFailure = some s → sameSnapshot (d₀.snapshotAt m.path) s m.path = true →
      SameFile (w.fs.lookup m.path) (d₀.lookup m.path) := by
    intro s hs hsame
    obtain ⟨f, hf, hfs⟩ := Option.bind_eq_some_iff.1 hs
    exact latestFailure_upheld hctx h.records hf s hfs hsame
  have hbefore : ∀ c s, latestCheckpoint ctx.checkpoints "before" m.resourceKey m.path = some c → c.payload.snapshot? = some s →
      s = d₀.snapshotAt m.path := by
    intro c s hc hs
    obtain ⟨hcheck, -⟩ := latestCheckpoint_upheld hctx h.records hc
    rw [hcheck.before rfl] at hs
    exact (Option.some.inj hs).symm
  split at hplan
  · split at hplan
    · next hnoop =>
      unfold beforeMutationNoop at hnoop
      rw [Bool.and_eq_true] at hnoop
      split at hnoop
      · next c s hc hs =>
        obtain ⟨s', hs', hsame⟩ := (Option.any_eq_true _ _).1 hnoop.2
        rw [hbefore c s' hc hs'] at hsame
        exact hseen s hs hsame
      · cases hnoop.2
    · cases hplan
  · next backup hbackup =>
    split at hplan
    · cases hplan
    · split at hplan
      · next hnoop =>
        unfold noSideEffectNoop at hnoop
        split at hnoop
        · cases hnoop
        · next s hs =>
          rw [Bool.and_eq_true, Bool.or_eq_true] at hnoop
          rcases hnoop.2 with hsame | hsame
          · obtain ⟨s', hs', hsame⟩ := (Option.any_eq_true _ _).1 hsame
            obtain ⟨c, hc, hcs⟩ := Option.bind_eq_some_iff.1 hs'
            rw [hbefore c s' hc hcs] at hsame
            exact hseen s hs hsame
          · obtain ⟨hcheck, -⟩ := plannedBackup_backs hctx h.records hbackup
            obtain ⟨b', hb', hbacks⟩ := hcheck.backup rfl
            cases hb'
            rw [hbacks.snapshot] at hsame
            exact hseen s hs hsame
      · cases hplan

/-- Where the expectation of a restore comes from: the `after` checkpoint; a sight of what the
mutation was to leave; or, of a failed preparation, what was seen at the failure. -/
theorem expectedCurrent_source {checkpoints : List (CheckpointRow Payload)} {failure : Option FailurePayload}
    {s : ResourceSnapshot} (h : expectedCurrent checkpoints key path failure = some s) :
    (∃ c, latestCheckpoint checkpoints "after" key path = some c ∧ c.payload.snapshot? = some s) ∨
      (∃ c, latestCheckpoint checkpoints "expected_after" key path = some c ∧
        matchesExpectedAfter s c.payload path = true) ∨
      isBeforeMutation failure = true ∧ failureSnapshot failure = some s ∧ s.path = path := by
  simp only [expectedCurrent] at h
  cases hafter : (latestCheckpoint checkpoints "after" key path).bind fun c => c.payload.snapshot? with
  | some after =>
    rw [hafter] at h
    cases h
    exact Or.inl (Option.bind_eq_some_iff.1 hafter)
  | none =>
    rw [hafter] at h
    have hproven : ∀ s : ResourceSnapshot, ((latestCheckpoint checkpoints "expected_after" key path).map
        CheckpointRow.payload).any (fun e => matchesExpectedAfter s e path) = true →
        ∃ c, latestCheckpoint checkpoints "expected_after" key path = some c ∧
          matchesExpectedAfter s c.payload path = true := by
      intro s hany
      obtain ⟨e, he, hmatches⟩ := (Option.any_eq_true _ _).1 hany
      obtain ⟨c, hc, rfl⟩ := Option.map_eq_some_iff.1 he
      exact ⟨c, hc, hmatches⟩
    rcases Option.or_eq_some_iff.1 h with hfailure | ⟨-, hrest⟩
    · exact Or.inr (Or.inl (hproven s (Option.filter_eq_some_iff.1 hfailure).2))
    · rcases Option.or_eq_some_iff.1 hrest with hcheckpoint | ⟨-, hprepare⟩
      · exact Or.inr (Or.inl (hproven s (Option.filter_eq_some_iff.1 hcheckpoint).2))
      · split at hprepare
        · next hbefore =>
          obtain ⟨hs, hpath⟩ := Option.filter_eq_some_iff.1 hprepare
          exact Or.inr (Or.inr ⟨hbefore, hs, of_decide_eq_true hpath⟩)
        · cases hprepare

/-- It is said of the file's own path. -/
theorem expectedCurrent_path {checkpoints : List (CheckpointRow Payload)} {failure : Option FailurePayload}
    {s : ResourceSnapshot} (h : expectedCurrent checkpoints key path failure = some s) : s.path = path := by
  rcases expectedCurrent_source h with ⟨c, hc, hcs⟩ | ⟨c, -, hmatches⟩ | ⟨-, -, hpath⟩
  · unfold latestCheckpoint at hc
    have hp := List.find?_some hc
    rw [decide_eq_true_eq] at hp
    cases hpayload : c.payload <;> rw [hpayload] at hcs hp <;> cases hcs
    exact Option.some.inj hp.2.2
  · unfold matchesExpectedAfter at hmatches
    split at hmatches
    · simp only [Bool.decide_and, Bool.and_eq_true, decide_eq_true_eq] at hmatches
      exact hmatches.1
    · cases hmatches
  · exact hpath

/-- A backup that is to be restored is one of the file as it was. -/
theorem plan_restore (h : Retraceable c m d₀ b w) (hctx : readRecoveryContext w.journal b = .ok ctx)
    (hintent : m.intent.OfFile m.path) {actionId k : String} {p : Path} {backup : FileBackup} {current : ResourceSnapshot}
    (hplan : fileRecoveryProof ctx = some (.restore actionId k p backup current)) :
    Backs d₀ m.path backup ∧ backup.path = m.path ∧ current.path = m.path ∧
      "restore-backup:self:" ++ m.resourceKey = actionId := by
  obtain ⟨r, hr, hpayload, hkey⟩ := h.batch.row
  obtain ⟨hbatch, -, -⟩ := readRecoveryContext_eq_ok hctx
  rw [hr] at hbatch
  cases hbatch
  rw [fileRecoveryProof_eq hpayload hkey, fileRecoveryProofFromRecords_eq hintent] at hplan
  split at hplan
  · split at hplan <;> cases hplan
  · next backup' hbackup =>
    split at hplan
    · next current' hcurrent =>
      cases hplan
      obtain ⟨hcheck, hpath⟩ := plannedBackup_backs hctx h.records hbackup
      obtain ⟨b', hb', hbacks⟩ := hcheck.backup rfl
      cases hb'
      exact ⟨hbacks, hpath, expectedCurrent_path hcurrent, rfl⟩
    · split at hplan <;> cases hplan

end Planning

/-! ## Mutations -/

section Unfailed

variable {c : Caller} {m : FileMutation Disk (List OsAnswer)} {b : String} {d₀ : Disk} {w w' : World Disk} {α : Type}
  {A : Sample (List OsAnswer) → World Disk → Prop}

/-- A mutation that has recorded no failure yet. -/
structure Unfailed (c : Caller) (m : FileMutation Disk (List OsAnswer)) (d₀ : Disk) (b : String) (w : World Disk) :
    Prop where
  batch : BatchOf c.idempotencyKey m.intent m.resourceKey b w.journal
  kept : ActionsKept w.journal
  file : m.Leaves d₀ w.fs
  records : (seenBefore d₀ m.path fun _ => False).Upheld b w.journal

/-- The same, with the file as it was. -/
structure Untouched (c : Caller) (m : FileMutation Disk (List OsAnswer)) (d₀ : Disk) (b : String) (w : World Disk) :
    Prop extends Unfailed c m d₀ b w where
  same : w.fs.lookup m.path = d₀.lookup m.path

theorem Unfailed.retraceable (h : Unfailed c m d₀ b w) : Retraceable c m d₀ b w :=
  ⟨h.batch, h.kept, Or.inl h.file, h.records.mono (fun _ _ hc => hc) (fun _ hf => hf.elim) fun _ hd => hd⟩

/-- The batch of a mutation stays. -/
theorem BatchOf.notes {T : Testimony} (h : BatchOf c.idempotencyKey m.intent m.resourceKey b w.journal)
    (hn : Notes T b w w') : BatchOf c.idempotencyKey m.intent m.resourceKey b w'.journal := by
  obtain ⟨r, hr, hpayload, hkey⟩ := h.row
  obtain ⟨r', hr', hc, -⟩ := hn.grows.row b r hr
  exact ⟨(hn.key _).trans h.underKey, r',
    hr', (BatchRow.column_eq (f := BatchRow.payload) (fun _ => rfl) hc).trans hpayload,
    (BatchRow.column_eq (f := BatchRow.resourceKey) (fun _ => rfl) hc).trans hkey⟩

theorem Retraceable.notes (h : Retraceable c m d₀ b w)
    (hn : Notes (seenBefore d₀ m.path (Truthful d₀ w.fs m.path)) b w w') : Retraceable c m d₀ b w' where
  batch := h.batch.notes hn
  kept := hn.kept h.kept
  file := by rw [hn.fs]; exact h.file
  records := by rw [hn.fs]; exact hn.upholds h.records

theorem Unfailed.notes (h : Unfailed c m d₀ b w)
    (hn : Notes (seenBefore d₀ m.path fun _ => False) b w w') : Unfailed c m d₀ b w' where
  batch := h.batch.notes hn
  kept := hn.kept h.kept
  file := by rw [hn.fs]; exact h.file
  records := hn.upholds h.records

theorem Untouched.notes (h : Untouched c m d₀ b w)
    (hn : Notes (seenBefore d₀ m.path fun _ => False) b w w') : Untouched c m d₀ b w' where
  toUnfailed := h.toUnfailed.notes hn
  same := by rw [hn.fs]; exact h.same

/-- Records of failures that do not mislead. -/
theorem along_retraceable {p : Op Disk (List OsAnswer) α} (h : Retraceable c m d₀ b w)
    (hp : AllNote (seenBefore d₀ m.path (Truthful d₀ w.fs m.path)) b p) :
    Along A (fun _ w' => Retraceable c m d₀ b w') (fun _ w' => Retraceable c m d₀ b w') p w :=
  along_mono (fun _ _ hn => h.notes hn) (fun _ _ hn => h.notes hn) (along_note hp w)

/-- Other records, while the file is as it was. -/
theorem along_untouched {p : Op Disk (List OsAnswer) α} (h : Untouched c m d₀ b w)
    (hp : AllNote (seenBefore d₀ m.path fun _ => False) b p) :
    Along A (fun _ w' => Retraceable c m d₀ b w')
      (fun _ w' => Untouched c m d₀ b w' ∧ w'.fs = w.fs) p w :=
  along_mono (fun _ _ hn => (h.notes hn).toUnfailed.retraceable) (fun _ _ hn => ⟨h.notes hn, hn.fs⟩) (along_note hp w)

/-- What holds in a kept lease: `I` up to the body, and `J` from then on. -/
theorem along_maintained {T : Testimony} {C : Coordinator Disk (List OsAnswer)} {holder : LeaseHolder}
    {I J G : World Disk → Prop} {body : Op Disk (List OsAnswer) α} (hI : ∀ w w', I w → Notes T b w w' → I w')
    (hJ : ∀ w w', J w → Notes T b w w' → J w') (hIJ : ∀ w, I w → J w) (hJG : ∀ w, J w → G w)
    (hbody : ∀ w, I w → Along A (fun _ w' => G w') (fun _ w' => J w') body w) (hw : I w) :
    Along A (fun _ w' => G w') (fun _ w' => J w') (maintainOperationLease C holder body) w := by
  have hnote : ∀ {β : Type} {p : Op Disk (List OsAnswer) β} {K : World Disk → Prop} {w : World Disk},
      (∀ w w', K w → Notes T b w w' → K w') → (∀ w, K w → G w) → AllNote T b p → K w →
      Along A (fun _ w' => G w') (fun _ w' => K w') p w :=
    fun hK hKG hp hKw => along_mono (fun _ _ hn => hKG _ (hK _ _ hKw hn)) (fun _ _ hn => hK _ _ hKw hn) (along_note hp _)
  unfold maintainOperationLease
  split
  · exact hbody w hw
  · unfold maintainLease
    split
    · exact hbody w hw
    · refine along_seq (hnote hI (fun w h => hJG w (hIJ w h)) (note_heartbeatOnce holder) hw) (fun _ w₁ h₁ => ?_)
        fun _ w₁ h₁ => hIJ w₁ h₁
      refine along_seq (hbody w₁ h₁) (fun a w₂ h₂ => ?_) fun _ w₂ h₂ => h₂
      refine along_seq (hnote hJ hJG (note_databaseRead _) h₂) (fun _ w₃ h₃ => ?_) fun _ w₃ h₃ => h₃
      exact h₃

end Unfailed

section Yields

variable {φ ω α : Type} {Y : α → Prop} {p : Op φ ω α}

/-- What is kept under a lease yields what its body does. -/
theorem yields_maintain {C : Coordinator φ ω} {holder : LeaseHolder} (h : Yields Y p) :
    Yields Y (maintainOperationLease C holder p) := by
  unfold maintainOperationLease
  split
  · exact h
  · unfold maintainLease
    split
    · exact h
    · refine yields_bind fun _ => yields_seq (fun a ha => ?_) h
      exact yields_bind (f := fun _ => .ret a) fun _ => ha

end Yields

section Mutations

variable {C : Coordinator Disk (List OsAnswer)} {c : Caller} {m : FileMutation Disk (List OsAnswer)} {b op : String}
  {d₀ d : Disk} {w : World Disk} {A : Sample (List OsAnswer) → World Disk → Prop}

/-- The records of a failed mutation: what is seen then is the disk as it is. -/
theorem along_recordMutationFailure (hm : m.TakesNewInode) (h : Unfailed c m d₀ b w) {batchId : String}
    {before : ResourceSnapshot} {recovery : RecoveryDetails} (hplain : recovery.Plain) {stage : Option String}
    {e : OperationError} :
    Along A (fun _ w' => Retraceable c m d₀ b w')
      (fun _ w' => Retraceable c m d₀ b w')
      (recordMutationFailure C.onDisk c batchId m.path m.resourceKey before recovery stage e) w := by
  have hlook : Along A (fun _ w' => Retraceable c m d₀ b w')
      (fun r w' => w' = w ∧ ∀ s, r = .ok s → s = w.fs.snapshotAt m.path)
      (fsRead fun o fs => C.onDisk.ops.snapshot o fs m.path) w := by
    refine along_call fun i _ => ⟨h.retraceable, rfl, fun s hs => ?_⟩
    exact snapshot_onDisk (mapError_eq_ok.1 hs)
  refine along_outcome_seq hlook fun seen w' hseen => ?_
  obtain ⟨rfl, hsnapshot⟩ := hseen
  cases seen with
  | error e' =>
    refine along_retraceable h.retraceable (note_recordFailure (fun f hf => ?_) (hplain.congr rfl rfl rfl rfl))
    cases hf
    exact truthful_blind rfl
  | ok s =>
    have hs : s = w'.fs.snapshotAt m.path := hsnapshot s rfl
    have hfailure : ∀ f : FailurePayload, f.snapshot = some s → Truthful d₀ w'.fs m.path f := by
      intro f hfs
      refine truthful_seen (p := m.path) (Or.inl (h.file.sameOrOther hm)) fun s' hs' => ?_
      rw [hfs] at hs'
      cases hs'
      exact hs
    refine along_retraceable h.retraceable (note_unlessLeaseLost (note_recordCheckpointStep fun _ => ?_) ?_ ?_)
    · exact ToldBefore.other (by decide)
    · refine note_bind (note_recordLeaseLostStep fun _ => ⟨fun f hf => ?_, fun d hd => ?_⟩) fun _ => note_ret _
      · cases hf
        exact hfailure _ rfl
      · cases hd
        exact hplain.congr rfl rfl rfl rfl
    · refine note_recordFailure (fun f hf => ?_) (hplain.congr rfl rfl rfl rfl)
      cases hf
      exact hfailure _ rfl

/-- The plan of a backup is one of the file. -/
theorem along_plannedBackup (h : Untouched c m d₀ b w) {contentPath : Path} :
    Along A (fun _ w' => Retraceable c m d₀ b w')
      (fun r w' => w' = w ∧ ∀ backup, r = .ok backup → Backs d₀ m.path backup)
      (plannedBackup C.onDisk m.path (d₀.snapshotAt m.path) contentPath) w := by
  unfold plannedBackup
  -- nothing is there to back up, or a file whose permissions are read first
  split
  · next hmissing =>
    refine ⟨rfl, fun backup hbackup => ?_⟩
    cases hbackup
    exact ⟨rfl, Disk.snapshotAt_missing hmissing⟩
  · have hpermissions : Along A (fun _ w' => Retraceable c m d₀ b w')
        (fun r w' => w' = w ∧ ∀ permissions, r = .ok permissions → ∃ i, d₀.lookup m.path = some i ∧
          i.node.fileType = .file ∧ i.permissions = permissions)
        (validatedBackupPermissions C.onDisk m.path (d₀.snapshotAt m.path)) w := by
      unfold validatedBackupPermissions
      split
      · exact ⟨rfl, fun _ hr => by cases hr⟩
      -- the look finds what was there before: nobody has touched it
      · have hlook : Along A (fun _ w' => Retraceable c m d₀ b w')
            (fun r w' => w' = w ∧ ∀ stat, r = .ok stat → ∃ i, d₀.lookup m.path = some i ∧
              stat.fileType = i.node.fileType ∧ stat.permissions = i.permissions)
            ((fsRead fun o fs => C.onDisk.ops.lstat o fs m.path).onRaise fun _ => .raise (.valueError
              ("backup rollback proof refused because file metadata could not be captured: " ++ pathText m.path))) w := by
          have hstat : Along A (fun _ w' => Retraceable c m d₀ b w')
              (fun r w' => w' = w ∧ ∀ stat, r = .ok stat → ∃ i, d₀.lookup m.path = some i ∧
                stat.fileType = i.node.fileType ∧ stat.permissions = i.permissions)
              (fsRead fun o fs => C.onDisk.ops.lstat o fs m.path) w := by
            refine along_call fun i _ => ⟨h.toUnfailed.retraceable, rfl, fun stat hs => ?_⟩
            rw [← h.same]
            exact lstat_onDisk (mapError_eq_ok.1 hs)
          refine along_onRaise (along_mono (fun _ _ hw => hw) (fun r w' hr => ?_) hstat)
          cases r with
          | ok stat => exact hr
          | error e => exact ⟨hr.1, fun _ hs => by cases hs⟩
        refine along_seq hlook (fun stat w' hstat => ?_) fun e w' hw => ⟨hw.1, fun _ hr => by cases hr⟩
        obtain ⟨rfl, hstat⟩ := hstat
        obtain ⟨i, hi, htype, hperm⟩ := hstat stat rfl
        split
        · exact ⟨rfl, fun _ hr => by cases hr⟩
        next hfile =>
        split
        · exact ⟨rfl, fun _ hr => by cases hr⟩
        · refine ⟨rfl, fun permissions hr => ?_⟩
          cases hr
          exact ⟨i, hi, htype.symm.trans (Decidable.not_not.1 hfile), hperm.symm⟩
    refine along_seq hpermissions (fun permissions w' hp => ?_) fun e w' hw => ⟨hw.1, fun _ hr => by cases hr⟩
    obtain ⟨rfl, hp⟩ := hp
    obtain ⟨i, hi, hfile, hperm⟩ := hp permissions rfl
    refine ⟨rfl, fun backup hr => ?_⟩
    cases hr
    rw [Disk.snapshotAt_of_lookup hi]
    exact ⟨(Disk.snapshotAt_of_lookup hi).symm, i, hi, hfile, rfl, rfl, hperm⟩

/-- The preparation leaves the file alone, and its checkpoints tell what was there. -/
theorem along_prepareMutationCheckpoints (h : Untouched c m d₀ b w) {batchId : String} :
    Along A (fun _ w' => Retraceable c m d₀ b w')
      (fun _ w' => Untouched c m d₀ b w')
      (prepareMutationCheckpoints C.onDisk c batchId op m (d₀.snapshotAt m.path)) w := by
  -- a part that only takes notes leaves the file alone
  have hnote : ∀ {α : Type} {p : Op Disk (List OsAnswer) α} {w : World Disk},
      Untouched c m d₀ b w → AllNote (seenBefore d₀ m.path fun _ => False) b p →
      Along A (fun _ w' => Retraceable c m d₀ b w')
        (fun _ w' => Untouched c m d₀ b w') p w :=
    fun hw hp => along_mono (fun _ _ hr => hr) (fun _ _ hq => hq.1) (along_untouched hw hp)
  refine along_seq (hnote h (note_recordCheckpointStep fun _ =>
    ⟨fun _ => rfl, fun htype => absurd htype (by decide), by decide⟩)) (fun _ w₁ h₁ => ?_) fun _ _ h₁ => h₁
  split
  · exact h₁
  refine along_seq (along_plannedBackup h₁) (fun backup w₂ h₂ => ?_) fun e w₂ h₂ => h₂.1 ▸ h₁
  obtain ⟨rfl, hbacks⟩ := h₂
  refine along_seq (hnote h₁ (note_recordCheckpointStep fun _ => .other (by decide))) (fun checkpoint w₃ h₃ => ?_)
    fun _ _ h₃ => h₃
  have hcleanup : AllNote (seenBefore d₀ m.path fun _ => False) b
      (planBackupCleanup c batchId m.resourceKey checkpoint backup : Op Disk (List OsAnswer) Unit) := by
    cases backup with
    | missing s => exact note_ret _
    | file contentPath hash size permissions s =>
      exact note_bind note_recordArtifactCleanupPlannedStep fun _ => note_ret _
  refine along_seq (hnote h₃ hcleanup) (fun _ w₄ h₄ => ?_) fun _ _ h₄ => h₄
  -- the capture stores content, and does not touch the file either
  have hcapture : Along A (fun _ w' => Retraceable c m d₀ b w')
      (fun _ w' => Untouched c m d₀ b w')
      (captureBackupArtifact C.onDisk m.path (d₀.snapshotAt m.path)
        (backupContentPath C.onDisk batchId op m.path)) w₄ := by
    unfold captureBackupArtifact
    split
    · exact h₄
    · refine along_call fun i _ => ?_
      have hsame : (C.onDisk.ops.captureBackup i.os w₄.fs m.path (d₀.snapshotAt m.path)
          (backupContentPath C.onDisk batchId op m.path)).2.lookup m.path = d₀.lookup m.path :=
        captureBackup_onDisk.trans h₄.same
      have hnext : Untouched c m d₀ b
          { w₄ with fs := (C.onDisk.ops.captureBackup i.os w₄.fs m.path (d₀.snapshotAt m.path)
            (backupContentPath C.onDisk batchId op m.path)).2 } := ⟨⟨h₄.batch, h₄.kept, Or.inl hsame, h₄.records⟩, hsame⟩
      exact ⟨hnext.toUnfailed.retraceable, hnext⟩
  refine along_seq hcapture (fun captured w₅ h₅ => ?_) fun _ _ h₅ => h₅
  split
  · exact h₅
  refine along_seq (hnote h₅ (note_recordCheckpointStep fun _ =>
    ⟨fun htype => absurd htype (by decide), fun _ => ⟨backup, rfl, hbacks backup rfl⟩, by decide⟩)) (fun _ w₆ h₆ => ?_)
    fun _ _ h₆ => h₆
  exact along_seq (hnote h₆ (note_recordCheckpointStep fun _ => .other (by decide))) (fun _ w₇ h₇ => h₇)
    fun _ _ h₇ => h₇

/-- It fills the details of the mutation in, and these stay plain. -/
theorem yields_prepareMutationCheckpoints (hplain : m.recovery.Plain) {batchId : String} {before : ResourceSnapshot} :
    Yields RecoveryDetails.Plain (prepareMutationCheckpoints C c batchId op m before) := by
  refine yields_bind fun _ => ?_
  split
  · exact hplain
  refine yields_bind fun backup => yields_bind fun checkpoint => yields_bind fun _ => yields_bind fun captured => ?_
  split
  · exact trivial
  · refine yields_bind fun _ => yields_bind fun _ => ?_
    exact hplain.congr rfl rfl rfl rfl

/-- The records after a change. -/
theorem note_finishFileMutation {batchId : String} {before : ResourceSnapshot} {recovery : RecoveryDetails}
    (hplain : recovery.Plain) :
    AllNote (seenBefore d₀ m.path (Truthful d₀ d m.path)) b (finishFileMutation C c batchId op m before recovery) := by
  have hfailed : ∀ {α : Type} {p : Op Disk (List OsAnswer) α} {after : Option ResourceSnapshot} {stage : String},
      AllNote (seenBefore d₀ m.path (Truthful d₀ d m.path)) b p →
      AllNote (seenBefore d₀ m.path (Truthful d₀ d m.path)) b (recordAndRaise p
        (recordPostMutationFailure C c batchId m.path m.resourceKey before after recovery stage)) := by
    intro α p after stage hp
    refine eachStep_onRaise (fun e => note_bind ?_ fun _ => note_raise e) hp
    exact note_recordPostMutationFailure (fun _ hf => truthful_blind hf) fun _ _ _ => hplain.congr rfl rfl rfl rfl
  refine note_bind (hfailed (note_fsRead _)) fun after => ?_
  refine note_bind (hfailed (note_recordCheckpointStep fun _ => .other (by decide))) fun _ => ?_
  exact note_bind (hfailed (note_markSucceededStep fun _ => admits_none rfl rfl)) fun _ => note_ret _

/-- **A mutation** that is begun can be traced back from each of its points. -/
theorem along_startedFileMutation (hm : m.TakesNewInode) (hplain : m.recovery.Plain)
    (h : Untouched c m w.fs b w) {batchId : String} :
    Along A (fun _ w' => Retraceable c m w.fs b w')
      (fun _ w' => Retraceable c m w.fs b w')
      (startedFileMutation C.onDisk c m batchId op) w := by
  -- a part that fails is recorded as failed
  have hrecorded : ∀ {α : Type} {p : Op Disk (List OsAnswer) α} {Q : Except OperationError α → World Disk → Prop}
      {record : OperationError → Op Disk (List OsAnswer) Unit} {w₁ : World Disk},
      Along A (fun _ w' => Retraceable c m w.fs b w') Q p w₁ →
      (∀ e w', Q (.error e) w' → Along A (fun _ w' => Retraceable c m w.fs b w')
        (fun _ w' => Retraceable c m w.fs b w') (record e) w') →
      Along A (fun _ w' => Retraceable c m w.fs b w')
        (fun r w' => (∀ a, r = .ok a → Q (.ok a) w') ∧ ∀ e, r = .error e → Retraceable c m w.fs b w')
        (recordAndRaise p record) w₁ := by
    intro α p Q record w₁ hp hrecord
    refine along_onRaise (along_mono (fun _ _ hr => hr) (fun r w' hr => ?_) hp)
    cases r with
    | ok a => exact ⟨fun _ heq => heq ▸ hr, fun _ he => by cases he⟩
    | error e =>
      exact along_seq (hrecord e w' hr) (fun _ _ h' => ⟨fun _ ha => (by cases ha), fun _ _ => h'⟩)
        fun _ _ h' => ⟨fun _ ha => (by cases ha), fun _ _ => h'⟩
  have hlook : Along A (fun _ w' => Retraceable c m w.fs b w')
      (fun r w' => w' = w ∧ ∀ s, r = .ok s → s = w.fs.snapshotAt m.path)
      (fsRead fun o fs => C.onDisk.ops.snapshot o fs m.path) w :=
    along_call fun i _ => ⟨h.toUnfailed.retraceable, rfl, fun s hs => snapshot_onDisk (mapError_eq_ok.1 hs)⟩
  refine along_seq (hrecorded hlook fun e w' hw' => ?_) (fun before w₁ h₁ => ?_) fun e _ h₁ => h₁.2 e rfl
  · rw [hw'.1]
    exact along_retraceable h.toUnfailed.retraceable (note_recordBeforeSnapshotFailure (fun _ hf => truthful_blind hf)
      fun _ _ => hplain.congr rfl rfl rfl rfl)
  obtain ⟨rfl, hbefore⟩ := h₁.1 before rfl
  rw [hbefore before rfl]
  have hprepare : Along A (fun _ w' => Retraceable c m w₁.fs b w')
      (fun r w' => Untouched c m w₁.fs b w' ∧ ∀ recovery, r = .ok recovery → recovery.Plain)
      (maintainOperationLease C.onDisk c.toLeaseHolder
        (prepareMutationCheckpoints C.onDisk c batchId op m (w₁.fs.snapshotAt m.path))) w₁ :=
    along_yields (yields_maintain (yields_prepareMutationCheckpoints hplain))
      (along_maintained (I := Untouched c m w₁.fs b) (J := Untouched c m w₁.fs b) (fun _ _ hu hn => hu.notes hn)
        (fun _ _ hu hn => hu.notes hn) (fun _ hu => hu) (fun _ hu => hu.toUnfailed.retraceable)
        (fun _ hu => along_prepareMutationCheckpoints hu) h)
  refine along_seq (hrecorded hprepare fun e w' hw' => along_recordMutationFailure hm hw'.1.toUnfailed hplain)
    (fun recovery w₂ h₂ => ?_) fun e _ h₂ => h₂.2 e rfl
  obtain ⟨hw₂, hprepared⟩ := h₂.1 recovery rfl
  have hrecovery : recovery.Plain := hprepared recovery rfl
  refine along_seq (hrecorded (along_untouched hw₂ note_requireAuthority)
    fun e w' hw' => along_recordMutationFailure hm hw'.1.toUnfailed hrecovery) (fun _ w₃ h₃ => ?_)
    fun e _ h₃ => h₃.2 e rfl
  have hinvoke : Along A (fun _ w' => Retraceable c m w₁.fs b w')
      (fun _ w' => Unfailed c m w₁.fs b w')
      (maintainOperationLease C.onDisk c.toLeaseHolder (invoke c m.mutate)) w₃ := by
    refine along_maintained (I := Untouched c m w₁.fs b) (fun _ _ hu hn => hu.notes hn)
      (fun _ _ hu hn => hu.notes hn) (fun _ hu => hu.toUnfailed) (fun _ hu => hu.retraceable) (fun w' hu => ?_) (h₃.1 _ rfl).1
    refine along_call fun i _ => ?_
    have hnext : Unfailed c m w₁.fs b
        { w' with fs := (m.mutate i.os w'.fs).2, history := w'.history ++ [.invoked c.idempotencyKey] } :=
      ⟨hu.batch, hu.kept, Or.inr ⟨i.os, w'.fs, hu.same, rfl⟩, hu.records⟩
    exact ⟨hnext.retraceable, hnext⟩
  have hraised : Along A (fun _ w' => Retraceable c m w₁.fs b w')
      (fun r w' => (∀ a, r = .ok a → Unfailed c m w₁.fs b w') ∧ ∀ e, r = .error e → Retraceable c m w₁.fs b w')
      ((maintainOperationLease C.onDisk c.toLeaseHolder (invoke c m.mutate)).onRaise fun e => do
        recordMutationFailure C.onDisk c batchId m.path m.resourceKey (w₁.fs.snapshotAt m.path) recovery none e
        .raise (mutationRaises batchId e)) w₃ := by
    refine along_onRaise (along_mono (fun _ _ hr => hr) (fun r w' hr => ?_) hinvoke)
    cases r with
    | ok a => exact ⟨fun _ _ => hr, fun _ he => by cases he⟩
    | error e =>
      exact along_seq (along_recordMutationFailure hm hr hrecovery) (fun _ _ h' => ⟨fun _ ha => (by cases ha), fun _ _ => h'⟩)
        fun _ _ h' => ⟨fun _ ha => (by cases ha), fun _ _ => h'⟩
  refine along_seq hraised (fun _ w₄ h₄ => ?_) fun e _ h₄ => h₄.2 e rfl
  exact along_retraceable (h₄.1 _ rfl).retraceable (note_finishFileMutation hrecovery)

end Mutations

/-! ## Calls -/

section Calls

variable {C : Coordinator Disk (List OsAnswer)} {c : Caller} {m : FileMutation Disk (List OsAnswer)} {d₀ : Disk}
  {w : World Disk} {A : Sample (List OsAnswer) → World Disk → Prop}

/-- Where the call of a mutation stands: it has no batch and changed nothing, or its batch can be traced back. -/
def Begun (c : Caller) (m : FileMutation Disk (List OsAnswer)) (d₀ : Disk) (w : World Disk) : Prop :=
  w.journal.batchRowByIdempotencyKey c.idempotencyKey = none ∧ w.fs.lookup m.path = d₀.lookup m.path ∨
    ∃ b, Retraceable c m d₀ b w

/-- The journal a call begins with: nothing is under its key. -/
structure Fresh (c : Caller) (db : JournalDb Payload) : Prop where
  key : db.batchRowByIdempotencyKey c.idempotencyKey = none
  kept : ActionsKept db
  records : RecordsHaveBatch db

/-- A new batch has no records. -/
theorem untouched_of_createBatch (h : Fresh c w.journal) {ctx : WriteContext} {row : BatchRow Payload}
    {db : JournalDb Payload}
    (hcreate : createBatch w.journal (c.batchRequest m.resourceKey m.intent) none ctx = .ok (row, db)) :
    row.phase = .planned ∧ Untouched c m w.fs row.batchId { w with journal := db } := by
  have hrun : (JournalWrite.createBatch (c.batchRequest m.resourceKey m.intent) none).run w.journal ctx = .ok db := by
    simp only [JournalWrite.run, hcreate, Except.map]
  have hkept : ActionsKept db := by
    have hstep := actionsKept_step w.journal
      (.write (.createBatch (c.batchRequest m.resourceKey m.intent) none) ctx) trivial h.kept
    simpa only [JournalDb.step, hrun] using hstep
  obtain ⟨-, ⟨-, hold⟩ | ⟨hdb, hrow, hkey, hid⟩⟩ := createBatch_ok hcreate
  · rw [show w.journal.batchRowByIdempotencyKey (c.batchRequest m.resourceKey m.intent).idempotencyKey = none from h.key]
      at hold
    cases hold
  have hnew : db.batchRow row.batchId = some row := by
    rw [JournalDb.batchRow, hdb, findRow_append_one, if_pos rfl]
    exact Option.or_eq_some_iff.2 (Or.inr ⟨hid, rfl⟩)
  have hnone : ∀ T, w.journal.recordsOf row.batchId T = [] := h.records row.batchId hid
  subst hdb
  refine ⟨by rw [hrow]; rfl, ⟨⟨?_, ⟨row, hnew, by rw [hrow]; rfl, by rw [hrow]; rfl⟩⟩, hkept, Or.inl rfl, ?_⟩, rfl⟩
  · rw [JournalDb.batchRowByIdempotencyKey, findRow_append_one, if_pos (by rw [hrow]; rfl)]
    rw [show findRow BatchRow.idempotencyKey w.journal.batches c.idempotencyKey = none from h.key]
    rfl
  · refine ⟨fun x hx hb => ?_, fun x hx hb => ?_, fun row' hrow' => ?_⟩
    · exact (List.filter_eq_nil_iff.1 (hnone .checkpoints) x hx (decide_eq_true hb)).elim
    · exact (List.filter_eq_nil_iff.1 (hnone .recoveries) x hx (decide_eq_true hb)).elim
    · rw [hnew] at hrow'
      cases hrow'
      rw [hrow]
      exact admits_none rfl rfl

/-- What is started is the batch that was asked for. -/
theorem yields_start {batchId what : String} {operationType : OperationType} {batch : BatchRow Payload} :
    Yields (fun started => started.1.batchId = batchId)
      ((startBatchOperationStep c batchId operationType m.resourceKey m.intent).onRaise
        (startConflict c batch m.resourceKey what) : Op Disk (List OsAnswer) (BatchRow Payload × OperationRow Payload)) := by
  refine yields_onRaise (fun e => ?_) (yields_call fun i w started hstarted => ?_)
  · unfold startConflict
    split
    · exact yields_bind fun _ => yields_bind (f := fun _ => .raise _) fun _ => trivial
    · exact trivial
  · split at hstarted
    · cases hstarted
    · split at hstarted
      · next hact =>
        cases hstarted
        dsimp only at hact
        split at hact
        · next batch operation db hstart =>
          cases hact
          obtain ⟨-, -, -, hrow, -⟩ := startBatchOperation_advances hstart
          exact findRow_key hrow
        · cases hact
      · cases hstarted

/-- The start of a batch that was just made: it may be refused, and what is recorded then
tells nothing of the file. -/
theorem along_openBatch (h : Fresh c w.journal) {operationType : OperationType} {what : String} :
    Along A (fun _ w' => Begun c m w.fs w')
      (fun r w' => Begun c m w.fs w' ∧ ∀ batch operation, r = .ok (some (batch, operation)) →
        w'.fs = w.fs ∧ Untouched c m w.fs batch.batchId w')
      (openBatch c m.intent operationType m.resourceKey what) w := by
  have hbegun : Begun c m w.fs w := Or.inl ⟨h.key, rfl⟩
  refine along_bind (along_journalWrite hbegun (fun _ _ _ _ => ⟨hbegun, fun _ _ hr => by cases hr⟩)
    (fun _ _ _ _ _ => ⟨hbegun, fun _ _ hr => by cases hr⟩) fun i row db _ _ hcreate => ?_)
  obtain ⟨hplanned, hnew⟩ := untouched_of_createBatch h hcreate
  refine ⟨Or.inr ⟨row.batchId, hnew.toUnfailed.retraceable⟩, ?_⟩
  dsimp only
  rw [if_neg (by rw [hplanned]; decide), if_neg (by rw [hplanned]; decide)]
  have hnote : ∀ {α : Type} {p : Op Disk (List OsAnswer) α},
      AllNote (seenBefore w.fs m.path fun _ => False) row.batchId p →
      Along A (fun _ w' => Begun c m w.fs w') (fun _ w' => w'.fs = w.fs ∧ Untouched c m w.fs row.batchId w') p
        { w with journal := db } :=
    fun hp => along_mono (fun _ _ hr => Or.inr ⟨_, hr⟩) (fun _ _ hq => ⟨hq.2, hq.1⟩) (along_untouched hnew hp)
  refine along_seq (along_yields yields_start (hnote (eachStep_onRaise (fun e => ?_) note_startBatchOperationStep)))
    (fun started w₁ h₁ => ?_) fun _ w₁ h₁ =>
      ⟨Or.inr ⟨_, h₁.1.2.toUnfailed.retraceable⟩, fun _ _ hr => by cases hr⟩
  · unfold startConflict
    split
    · exact note_bind (note_getBatch _) fun _ => note_bind note_recordInterruptedIfTakenOver fun _ => note_raise _
    · exact note_raise _
  · refine ⟨Or.inr ⟨_, h₁.1.2.toUnfailed.retraceable⟩, fun batch operation hr => ?_⟩
    cases hr
    rw [show batch.batchId = row.batchId from h₁.2 _ rfl]
    exact h₁.1

/-- A call of `_run_file_mutation`. -/
theorem along_runFileMutation (hm : m.TakesNewInode) (hplain : m.recovery.Plain) (h : Fresh c w.journal) :
    Along A (fun _ w' => Begun c m w.fs w') (fun _ w' => Begun c m w.fs w') (runFileMutation C.onDisk c m) w := by
  have hbegun : Begun c m w.fs w := Or.inl ⟨h.key, rfl⟩
  have hpreflight : AllRead (preflight C.onDisk m.preflightOperation : Op Disk (List OsAnswer) Unit) := by
    unfold preflight
    split
    · exact eachStep_ofExcept _
    · trivial
  refine along_seq (along_read hpreflight hbegun) (fun _ w₁ h₁ => ?_) fun _ w₁ h₁ => by rw [h₁]; exact hbegun
  subst h₁
  refine along_seq (along_read (read_requireAuthority c m.resourceKey) hbegun) (fun _ w₂ h₂ => ?_)
    fun _ w₂ h₂ => by rw [h₂]; exact hbegun
  subst h₂
  refine along_seq (along_openBatch h) (fun opened w₃ h₃ => ?_) fun _ w₃ h₃ => h₃.1
  split
  · exact h₃.1
  · next batch operation =>
    obtain ⟨hfs, hnew⟩ := h₃.2 batch operation rfl
    rw [← hfs] at hnew ⊢
    exact along_mono (fun _ _ hr => Or.inr ⟨_, hr⟩) (fun _ _ hr => Or.inr ⟨_, hr⟩)
      (along_startedFileMutation hm hplain hnew)

/-- The mutation of its file that a request comes to: what `writeTextFile`, `writeBytesFile` and `deleteFile` run. -/
def MutationRequest.fileMutation (C : Coordinator Disk (List OsAnswer)) :
    MutationRequest → Option (FileMutation Disk (List OsAnswer))
  | writeTextFile path content key newline =>
    let desired := (normalizedText content newline).toUTF8.toList
    some
      { path := path
        resourceKey := key
        operationType := .writeText
        preflightOperation := some "write_text"
        intent := .writeText path key newline desired.length (contentDigest desired)
        recovery := { RecoveryDetails.empty with desired := some (desiredFile desired) }
        mutate := fun o fs => C.ops.writeText o fs path content newline }
  | writeBytesFile path content key permissions maxBytes allowLarge =>
    some
      { path := path
        resourceKey := key
        operationType := .writeBytes
        preflightOperation := some "write_text"
        intent := .writeBytes path key content.length (contentDigest content) permissions
          (maxBytes.getD C.writeBytesMaxBytes) (allowLarge.getD C.writeBytesLargePolicyAllow)
        recovery := { RecoveryDetails.empty with desired := some (desiredFile content) }
        mutate := fun o fs => C.ops.writeBytes o fs path content permissions }
  | deleteFile path key missingOk =>
    some
      { path := path
        resourceKey := key
        operationType := .deleteFile
        preflightOperation := some "delete_file"
        intent := .deleteFile path key missingOk
        recovery := { RecoveryDetails.empty with desired := some ⟨false, .missing, none, none⟩ }
        mutate := fun o fs => C.ops.deleteFile o fs path missingOk }
  | _ => none

variable {r : MutationRequest}

/-- A request that is not refused is that mutation. -/
theorem along_fileRequest {R : World Disk → World Disk → Prop} {Q : Except OperationError Unit → World Disk → Prop}
    (hm : r.fileMutation C = some m) (hQ : ∀ e, Q (.error e) w) (hrun : Along A R Q (runFileMutation C c m) w) :
    Along A R Q (runMutation C c r) w := by
  cases r with
  | writeTextFile | deleteFile =>
    cases hm
    exact along_ofExcept_seq (fun e _ => hQ e) fun _ _ => hrun
  | writeBytesFile =>
    cases hm
    exact along_ofExcept_seq (fun e _ => hQ e) fun _ _ => along_ite (p := .raise _) (hQ _) hrun
  | makeDirectory | recordDirectoryNoop | renameNoReplace | captureDirectory => cases hm

/-- The mutation of a file, as the planner of recoveries sees it. -/
theorem fileMutation_ofFile (hm : r.fileMutation C = some m) : m.intent.OfFile m.path ∧ m.recovery.Plain := by
  cases r with
  | writeTextFile | writeBytesFile | deleteFile =>
    cases hm
    exact ⟨⟨by simp [Intent.operation], rfl⟩, rfl, rfl, rfl, rfl⟩
  | makeDirectory | recordDirectoryNoop | renameNoReplace | captureDirectory => cases hm

theorem fileMutation_takesNewInode (hm : r.fileMutation C.onDisk = some m) : m.TakesNewInode := by
  intro o d
  cases r with
  | writeTextFile =>
    cases hm
    exact writeText_onDisk (C := C)
  | writeBytesFile =>
    cases hm
    exact writeBytes_onDisk (C := C)
  | deleteFile =>
    cases hm
    exact deleteFile_onDisk (C := C)
  | makeDirectory | recordDirectoryNoop | renameNoReplace | captureDirectory => cases hm

/-- What a request leaves is told from what one call of its mutation leaves. -/
theorem fileMutation_leaves (hm : r.fileMutation C.onDisk = some m) {d : Disk} (h : m.Leaves d₀ d) :
    r.Leaves (d₀.lookup m.path) (d.lookup m.path) := by
  rcases h with h | ⟨o, d₁, h₁, h⟩
  · rw [h]
    cases r with
    | writeTextFile | writeBytesFile | deleteFile => exact Or.inl rfl
    | makeDirectory | recordDirectoryNoop | renameNoReplace | captureDirectory => trivial
  · rw [h, ← h₁]
    cases r with
    | writeTextFile =>
      cases hm
      exact writeText_fills (C := C)
    | writeBytesFile =>
      cases hm
      exact writeBytes_fills (C := C)
    | deleteFile =>
      cases hm
      exact deleteFile_leaves (C := C)
    | makeDirectory | recordDirectoryNoop | renameNoReplace | captureDirectory => trivial

/-- **A write or a deletion** can be traced back from each of its points, killed or not. -/
theorem along_runMutation (hm : r.fileMutation C.onDisk = some m) (h : Fresh c w.journal) :
    Along A (fun _ w' => Begun c m w.fs w') (fun _ w' => Begun c m w.fs w') (runMutation C.onDisk c r) w :=
  along_fileRequest hm (fun _ => Or.inl ⟨h.key, rfl⟩)
    (along_runFileMutation (fileMutation_takesNewInode hm) (fileMutation_ofFile hm).2 h)

end Calls

end SafeFsOps
