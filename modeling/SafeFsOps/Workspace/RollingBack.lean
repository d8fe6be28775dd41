import SafeFsOps.OperationJournal.Marking
import SafeFsOps.Workspace.RollbackSteps
import SafeFsOps.Workspace.Transaction

/-!
# The rollback of a body that raised

`run_automatic_transaction_rollback` first marks every eligible batch of the
instance and then recovers them one by one, newest first. Batches that only read,
a snapshot bundle or a tree backup that succeeded, are left out. The second loop
keeps the batches apart: what fails on one is noted, and the next is tried. The
first does not: a mark that is refused ends the whole rollback.

> `rollback_isolation`: where the database answers while batches are marked, and
> the database and the disk while it is asked what can be undone, every eligible
> batch is attempted exactly if each of them could be marked when the rollback
> began. A rollback reported as successful has recovered every batch that was
> started, but for those that only read, exactly if none was recovering then.

Whether a batch can be marked is a matter of its own row and the lease
(`Markable`). A batch that is still attempting under the very lease of the
transaction never can, and such a batch is what a rename leaves that could not
take its snapshots (`rollback_isolation_refused`).
-/

namespace SafeFsOps

open Program

variable {φ ω α β : Type} {T : Transaction φ ω} {h : LeaseHolder}

/-! ## A database and a disk that answer -/

/-- The paths that are looked at for a capture of which the journal holds nothing. -/
def observedPaths (ctx : RecoveryContext) (source quarantine : Path) (key : String) : List Path :=
  match (resourceKeyForCapture ctx key).bind fun key => latestDirectoryBefore ctx key source with
  | none => []
  | some (_, none) => [source]
  | some (_, some _) => [source, quarantine]

/-- The paths that are looked at to see whether the batch can be undone: those of a
capture, unless the journal says what became of it. -/
def inspectedPaths (w : World φ) (b : BatchRow Payload) : List Path :=
  let checkpoints := w.journal.listCheckpoints b.batchId
  let records := w.journal.listRecoveryRecords b.batchId
  let ctx := recordsSoFar b checkpoints records
  match b.payload with
  | .intent (.captureDirectory source quarantine key _ _) =>
    if captureOnRecord b checkpoints records || ctx.recursiveFailure.isSome then []
    else observedPaths ctx source quarantine key
  | _ => []

/-- The database answers, and the ids it is given are new. -/
structure Answers (i : Sample ω) (w : World φ) : Prop where
  database : i.fault = none
  ids : FreshIds w.journal i.handoffId i.generated

instance (i : Sample ω) (w : World φ) : Decidable (Answers i w) :=
  decidable_of_iff (i.fault = none ∧ FreshIds w.journal i.handoffId i.generated)
    ⟨fun h => ⟨h.1, h.2⟩, fun h => ⟨h.1, h.2⟩⟩

/-- The database answers, and the disk shows what is at the paths that are looked at for the batch. -/
structure Shows (C : Coordinator φ ω) (b : BatchRow Payload) (i : Sample ω) (w : World φ) : Prop where
  database : i.fault = none
  disk : ∀ path ∈ inspectedPaths w b, ∃ safety, C.ops.inspectPath i.os w.fs path = .ok safety

section Checks

variable {C : Coordinator φ ω} {b : BatchRow Payload} {w : World φ} {A : α → Prop} {B : β → Prop}

/-- Where the database and the disk answer, the program looks at the world and comes to a value in `A`. -/
def LooksAt (C : Coordinator φ ω) (b : BatchRow Payload) (A : α → Prop) (p : Op φ ω α) (w : World φ) : Prop :=
  Along (Shows C b) (fun _ _ => True) (fun r w' => w' = w ∧ ∃ a, r = .ok a ∧ A a) p w

theorem looks_ret {a : α} (ha : A a) : LooksAt C b A (.ret a) w := ⟨rfl, a, rfl, ha⟩

theorem looks_answer (a : α) : LooksAt C b (fun _ => True) (.ret a) w := looks_ret trivial

theorem looks_bind {p : Op φ ω α} {f : α → Op φ ω β} (hp : LooksAt C b A p w)
    (hf : ∀ a, A a → LooksAt C b B (f a) w) : LooksAt C b B (p >>= f) w := by
  refine along_seq hp (fun a w' h => ?_) fun e w' h => ?_
  · obtain ⟨rfl, a', heq, ha⟩ := h
    cases heq
    exact hf a ha
  · obtain ⟨-, a, heq, -⟩ := h
    cases heq

theorem looks_read {read : Sample ω → World φ → Except OperationError α} {a : α} (hread : ∀ i, read i w = .ok a)
    (ha : A a) : LooksAt C b A (databaseRead read) w := by
  refine along_databaseRead trivial (fun i e hi hf => ?_) fun i _ _ => ⟨rfl, a, hread i, ha⟩
  rw [hi.database] at hf
  cases hf

/-- What is not inspected may fail: the answer is an outcome. -/
theorem looks_outcome (read : ω → φ → Except FilesystemError α) :
    LooksAt C b (fun _ => True) (fsRead read).outcome w :=
  along_outcome (along_call fun _ _ => ⟨trivial, rfl, _, rfl, trivial⟩)

theorem looks_inspect {path : Path} (hpath : path ∈ inspectedPaths w b) :
    LooksAt C b (fun _ => True) (fsRead fun o fs => C.ops.inspectPath o fs path) w := by
  refine along_call fun i hi => ⟨trivial, rfl, ?_⟩
  obtain ⟨safety, hsafety⟩ := hi.disk path hpath
  exact ⟨safety, by simp only [hsafety]; rfl, trivial⟩

theorem looks_quarantineHolds {quarantine : Path} (hpath : quarantine ∈ inspectedPaths w b)
    (identity : DirectoryIdentity) (token : String) :
    LooksAt C b (fun _ => True) (quarantineHolds C quarantine identity token) w := by
  refine looks_bind (looks_inspect hpath) fun safety _ => ?_
  split
  · exact looks_answer _
  · refine looks_bind (looks_outcome _) fun stat _ => ?_
    split
    · exact looks_answer _
    · exact looks_bind (looks_outcome _) fun _ _ => looks_answer _

theorem looks_observedPlan {ctx : RecoveryContext} {source quarantine : Path} {key : String}
    (hpaths : ∀ path ∈ observedPaths ctx source quarantine key, path ∈ inspectedPaths w b) :
    LooksAt C b (fun _ => True) (observedCapturedDirectoryPlan C ctx source quarantine key) w := by
  unfold observedCapturedDirectoryPlan
  unfold observedPaths at hpaths
  split
  · exact looks_answer _
  · next key' hkey =>
    rw [hkey, Option.bind_some] at hpaths
    split
    · exact looks_answer _
    · next identity token hbefore =>
      rw [hbefore] at hpaths
      cases token with
      | none =>
        refine looks_bind (looks_inspect (hpaths source (by simp))) fun safety _ => ?_
        split
        · next heq => cases heq
        · exact looks_answer _
      | some token =>
        refine looks_bind (looks_inspect (hpaths source (by simp))) fun safety _ => ?_
        split
        · refine looks_bind (looks_quarantineHolds (hpaths quarantine (by simp)) _ _) fun holds _ => ?_
          split <;> exact looks_answer _
        · exact looks_answer _

/-- The plans for a capture of which the journal holds nothing. -/
theorem looks_capturePlans (operations : List (OperationRow Payload)) {source quarantine : Path} {key key' : String}
    {cleanup : CapturedDirectoryCleanup}
    (hpayload : b.payload = .intent (.captureDirectory source quarantine key key' cleanup))
    (hrecord : captureOnRecord b (w.journal.listCheckpoints b.batchId) (w.journal.listRecoveryRecords b.batchId) = false) :
    LooksAt C b (fun _ => True) (capturedDirectoryRecoveryActionPlans C
      ⟨⟨b, operations, w.journal.listCheckpoints b.batchId⟩, w.journal.listRecoveryRecords b.batchId, none, [], []⟩) w := by
  set ctx := recordsSoFar b (w.journal.listCheckpoints b.batchId) (w.journal.listRecoveryRecords b.batchId) with hctx
  obtain ⟨hcaptured, hmanual⟩ : latestCapturedDirectory ctx = none ∧ ctx.latestManualAction .captureDirectory = none := by
    simpa [captureOnRecord, ← hctx] using hrecord
  unfold capturedDirectoryRecoveryActionPlans
  split
  · exact looks_answer _
  · exact looks_answer _
  · next hrecursive =>
    have hinspected : inspectedPaths w b = observedPaths ctx source quarantine key := by
      simp only [inspectedPaths, hpayload]
      rw [hrecord, ← hctx, show ctx.recursiveFailure = none from hrecursive]
      rfl
    unfold unprovenCapturePlans
    split
    · exact looks_answer _
    · next source' quarantine' key'' _ _ _ heq =>
      rw [hpayload] at heq
      cases heq
      refine looks_bind (looks_observedPlan fun path hpath => hinspected ▸ hpath) fun observed _ => ?_
      cases observed <;> exact looks_answer _
    · exact looks_answer _

theorem looks_hasCaptureProof {source quarantine : Path} {key key' : String} {cleanup : CapturedDirectoryCleanup}
    (hpayload : b.payload = .intent (.captureDirectory source quarantine key key' cleanup)) :
    LooksAt C b (fun _ => True) (hasCaptureProof C b (w.journal.listCheckpoints b.batchId)) w := by
  unfold hasCaptureProof
  split
  · exact looks_answer _
  · refine looks_bind (looks_read (A := fun records => records = w.journal.listRecoveryRecords b.batchId)
      (fun _ => rfl) rfl) ?_
    rintro _ rfl
    split
    · exact looks_answer _
    · next hrecord =>
      refine looks_bind (looks_read (A := fun _ => True) (fun _ => rfl) trivial) fun operations _ => ?_
      refine looks_bind (looks_read (A := fun records => records = w.journal.listRecoveryRecords b.batchId)
        (fun _ => rfl) rfl) ?_
      rintro _ rfl
      exact looks_bind (looks_capturePlans operations hpayload (Bool.not_eq_true _ ▸ hrecord)) fun _ _ => looks_answer _

/-- **A check that is answered** raises nothing, and changes nothing. -/
theorem looks_isUnsupportedBatch : LooksAt C b (fun _ => True) (isUnsupportedBatch C b) w := by
  have hrecords : LooksAt C b (fun _ => True) (listRecoveryRecordsOf b.batchId) w :=
    looks_read (fun _ => rfl) trivial
  have hsupports : LooksAt C b (fun _ => True) (supportsAutomaticRollback C b) w := by
    unfold supportsAutomaticRollback
    split
    · exact looks_answer _
    · refine looks_bind (looks_read (A := fun checkpoints => checkpoints = w.journal.listCheckpoints b.batchId)
        (fun _ => rfl) rfl) ?_
      rintro _ rfl
      split
      · unfold hasRecursiveMkdirProof
        split
        · exact looks_answer _
        · split
          · exact looks_answer _
          · exact looks_bind hrecords fun _ _ => looks_answer _
      · exact looks_answer _
      · unfold hasRenameProof
        split
        · exact looks_answer _
        · exact looks_bind hrecords fun _ _ => looks_answer _
      · next hpayload => exact looks_hasCaptureProof hpayload
      · refine looks_bind (A := fun _ => True) ?_ fun _ _ => looks_answer _
        unfold latestFailurePayload
        split
        · exact looks_answer _
        · exact looks_bind hrecords fun _ _ => looks_answer _
  unfold isUnsupportedBatch
  split
  · exact looks_answer _
  · exact looks_answer _
  · exact looks_answer _
  · exact looks_answer _
  · exact looks_bind hsupports fun _ _ => looks_answer _

end Checks

/-! ## Marking -/

/-- What a rollback asks of a batch it takes up: that it can be marked, unless it is marked already. -/
def Ready (leases : LeaseTable) (lease : LeaseRecord) (now : DateTime) (b : BatchRow Payload) : Prop :=
  isReadOnlyBatch b = false → b.phase ∈ [BatchPhase.attempting, .failed, .recoveryFailed, .succeeded] →
    Markable leases lease now b

/-- A step of the first loop on one batch: the leases and all other batches stay as they are. -/
def MarksOnly (b : BatchRow Payload) (w w' : World φ) : Prop :=
  w'.journal.leases = w.journal.leases ∧ ∀ id, id ≠ b.batchId → w'.journal.batchRow id = w.journal.batchRow id

theorem MarksOnly.refl {b : BatchRow Payload} {w : World φ} : MarksOnly b w w := ⟨rfl, fun _ _ => rfl⟩

section Marking

variable {lease : LeaseRecord} {t : DateTime}

theorem raised_iff {e : OperationError} {p : Prop} (hp : ¬ p) : (∃ a : α, Except.error e = Except.ok a) ↔ p :=
  ⟨fun ⟨_, ha⟩ => (by cases ha), fun h => absurd h hp⟩

/-- What a step of the first loop comes to: it raises exactly if the batch could not be marked. -/
def MarkOutcome (lease : LeaseRecord) (t : DateTime) (b : BatchRow Payload) (w : World φ) (r : Except OperationError α)
    (w' : World φ) : Prop :=
  MarksOnly b w w' ∧ ((∃ o, r = .ok o) ↔ Ready w.journal.leases lease t b)

/-- A mark and the reading back of it, given when the mark is accepted. -/
theorem along_mark {b : BatchRow Payload} {w : World φ} (hrow : w.journal.batchRow b.batchId = some b)
    {write : JournalDb Payload → WriteContext → Except JournalError (RecoveryRow Payload × JournalDb Payload)}
    {P : List BatchPhase} (hwrite : ∀ ctx a db', write w.journal ctx = .ok (a, db') →
      Advances ctx.lease P b.batchId w.journal db')
    (hiff : ∀ ctx, ctx.lease = lease → ctx.now = t → FreshIds w.journal ctx.handoffId ctx.generated →
      ((∃ r, write w.journal ctx = .ok r) ↔ Ready w.journal.leases lease t b)) :
    Along Answers (fun _ _ => True) (MarkOutcome lease t b w)
      (journalWrite ⟨lease, some t⟩ write >>= fun _ => readMarked b.batchId : Op φ ω (BatchRow Payload)) w := by
  have hcontext : ∀ i : Sample ω, Answers i w → ((∃ r, write w.journal ((⟨lease, some t⟩ : LeaseHolder).context i) =
      .ok r) ↔ Ready w.journal.leases lease t b) := fun i hi => hiff _ rfl rfl hi.ids
  refine along_bind (along_journalWrite trivial (fun i e hi hf => ?_) (fun i e hi _ he => ?_) fun i a db hi _ ha => ?_)
  · rw [hi.database] at hf
    cases hf
  · refine ⟨MarksOnly.refl, raised_iff fun hready => ?_⟩
    obtain ⟨r, hr⟩ := (hcontext i hi).2 hready
    rw [he] at hr
    cases hr
  · have hready : Ready w.journal.leases lease t b := (hcontext i hi).1 ⟨_, ha⟩
    have hadv := hwrite _ a db ha
    obtain ⟨row, hrow', -⟩ := hadv.row b hrow
    have hmarks : MarksOnly b w { w with journal := db } := ⟨hadv.leases, hadv.other⟩
    refine ⟨trivial, along_bind (along_databaseRead trivial (fun i e hi hf => ?_) fun i _ _ => ?_)⟩
    · rw [hi.database] at hf
      cases hf
    · dsimp only
      rw [hrow']
      exact ⟨hmarks, fun _ => hready, fun _ => ⟨row, rfl⟩⟩

/-- One batch of the first loop. -/
theorem along_eligibleBatch {b : BatchRow Payload} {w : World φ} (hrow : w.journal.batchRow b.batchId = some b) :
    Along Answers (fun _ _ => True) (MarkOutcome lease t b w) (eligibleBatch T ⟨lease, some t⟩ b) w := by
  -- a mark that succeeds is what makes the batch eligible
  have hmarked : ∀ {p : Op φ ω (BatchRow Payload)}, Along Answers (fun _ _ => True)
      (MarkOutcome lease t b w) p w →
        Along Answers (fun _ _ => True) (MarkOutcome lease t b w) (some <$> p) w := by
    intro p hp
    refine along_seq hp (fun row w' h => ⟨h.1, fun _ => h.2.1 ⟨row, rfl⟩, fun _ => ⟨some row, rfl⟩⟩) fun e w' h => ?_
    refine ⟨h.1, raised_iff fun hready => ?_⟩
    obtain ⟨o, ho⟩ := h.2.2 hready
    cases ho
  unfold eligibleBatch
  cases hread : isReadOnlyBatch b with
  | true => exact ⟨MarksOnly.refl, fun _ hno => absurd (hread.symm.trans hno) Bool.noConfusion, fun _ => ⟨none, rfl⟩⟩
  | false => ?_
  rw [if_neg Bool.false_ne_true]
  have hnothing : ∀ o : Option (BatchRow Payload),
      b.phase ∉ [BatchPhase.attempting, .failed, .recoveryFailed, .succeeded] →
        Along Answers (fun _ _ => True) (MarkOutcome lease t b w) (.ret o : Op φ ω _) w :=
    fun o hp => ⟨MarksOnly.refl, fun _ _ hin => absurd hin hp, fun _ => ⟨o, rfl⟩⟩
  -- ended batches are marked by one call, interrupted ones by another
  have hdesired : b.phase ∈ [BatchPhase.failed, .recoveryFailed, .succeeded] →
      Along Answers (fun _ _ => True) (MarkOutcome lease t b w) (markRollback T ⟨lease, some t⟩ b) w := by
    intro hp
    refine along_mark hrow (P := [.recoveryDesired]) (fun ctx a db' ha => (recordRecoveryPhase_advances ha).2) ?_
    rintro ctx rfl rfl hfresh
    refine (recordRecoveryDesired_succeeds hrow hp rfl hfresh).trans ⟨fun hm _ _ => hm, fun hr => hr hread ?_⟩
    exact List.mem_cons_of_mem _ hp
  have hinterrupted : b.phase = .attempting →
      Along Answers (fun _ _ => True) (MarkOutcome lease t b w) (markInterrupted T ⟨lease, some t⟩ b) w := by
    intro hp
    refine along_mark hrow (P := [.recoveryDesired]) (fun ctx a db' ha => (recordInterrupted_advances ha).2) ?_
    rintro ctx rfl rfl hfresh
    refine (recordInterrupted_succeeds hrow hp rfl hfresh).trans ⟨fun hm _ _ => hm, fun hr => hr hread ?_⟩
    rw [hp]
    exact List.mem_cons_self
  cases hp : b.phase with
  | recoveryDesired => exact hnothing _ (by rw [hp]; decide)
  | attempting => exact hmarked (hinterrupted hp)
  | recoveryFailed => exact hmarked (hdesired (by rw [hp]; decide))
  | failed => exact hmarked (hdesired (by rw [hp]; decide))
  | succeeded => exact hmarked (hdesired (by rw [hp]; decide))
  | planned => exact hnothing _ (by rw [hp]; decide)
  | recovering => exact hnothing _ (by rw [hp]; decide)
  | recoverySucceeded => exact hnothing _ (by rw [hp]; decide)

/-- **The first loop** comes to its end exactly if every batch is ready when it starts. -/
theorem along_eligibleBatches (batches : List (BatchRow Payload)) :
    ∀ w : World φ, (batches.map BatchRow.batchId).Nodup → (∀ b ∈ batches, w.journal.batchRow b.batchId = some b) →
      Along Answers (fun _ _ => True)
        (fun r _ => (∃ os, r = .ok os) ↔ ∀ b ∈ batches, Ready w.journal.leases lease t b)
        (.mapEach batches (eligibleBatch T ⟨lease, some t⟩)) w := by
  induction batches with
  | nil => exact fun w _ _ => ⟨fun _ b hb => absurd hb List.not_mem_nil, fun _ => ⟨[], rfl⟩⟩
  | cons b rest ih =>
    intro w hids hrows
    rw [List.map_cons, List.nodup_cons] at hids
    refine along_seq (along_eligibleBatch (hrows b List.mem_cons_self)) (fun o w₁ h₁ => ?_) fun e w₁ h₁ => ?_
    · obtain ⟨⟨hleases, hother⟩, hready⟩ := h₁
      have hrest := ih w₁ hids.2 fun b' hb' => by
        have hne : b'.batchId ≠ b.batchId := fun heq => hids.1 (heq ▸ List.mem_map.2 ⟨b', hb', rfl⟩)
        rw [hother _ hne]
        exact hrows b' (List.mem_cons_of_mem _ hb')
      have hb : Ready w.journal.leases lease t b := hready.1 ⟨o, rfl⟩
      rw [hleases] at hrest
      refine along_seq hrest (fun os w₂ h₂ => ⟨fun _ => ?_, fun _ => ⟨_, rfl⟩⟩) fun e w₂ h₂ => raised_iff fun hall => ?_
      · intro b' hb'
        rcases List.mem_cons.1 hb' with rfl | hb'
        · exact hb
        · exact h₂.1 ⟨os, rfl⟩ b' hb'
      · obtain ⟨os, hos⟩ := h₂.2 fun b' hb' => hall b' (List.mem_cons_of_mem _ hb')
        cases hos
    · refine raised_iff fun hall => ?_
      obtain ⟨o, ho⟩ := h₁.2.2 (hall b List.mem_cons_self)
      cases ho

end Marking

/-! ## The whole rollback -/

/-- The rollback of every eligible batch was run to an outcome, one after the other, newest first. -/
def AttemptsAll (T : Transaction φ ω) (h : LeaseHolder) (w : World φ) (inputs rest : List (Sample ω)) (w' : World φ) :
    Prop :=
  ∃ rows mid w₁ outs, (selectBatches T (eligibleBatch T h)).exec w inputs = (some (.ok rows, mid), w₁) ∧
    rows.map BatchRow.created =
      (newestFirst ((ownBatches T w.journal).filter rollsBackEligible)).map BatchRow.created ∧
    RanEach (rollbackBatch T h) rows w₁ mid outs w' rest

/-- Every batch of the instance that was ever started, and does not only read, is recovered. -/
def AllRecovered (T : Transaction φ ω) (w w' : World φ) : Prop :=
  ∀ b ∈ w.journal.batches, belongsTo T b = true → isReadOnlyBatch b = false → b.phase ≠ .planned →
    IsRecovered b.batchId w'

/-- What is left as it was and not recovered was recovering. -/
theorem allRecovered_iff {w w' : World φ} (hr : RolledBack T rollsBackEligible w w') :
    AllRecovered T w w' ↔ ∀ b ∈ w.journal.batches, belongsTo T b = true → isReadOnlyBatch b = false →
      b.phase ≠ .recovering := by
  have hwanted : ∀ b : BatchRow Payload, isReadOnlyBatch b = false → rollsBackEligible b = eligiblePhase b.phase :=
    fun b hread => by simp [rollsBackEligible, hread]
  constructor
  · intro hall b hb hown hread hphase
    obtain ⟨row, hrow, hrecovered⟩ := hall b hb hown hread (by rw [hphase]; exact BatchPhase.noConfusion)
    have hleft := hr b (mem_ownBatches.2 ⟨hb, hown⟩)
    rw [hwanted b hread, hphase, if_neg (by decide), hrow] at hleft
    cases hleft
    rw [hphase] at hrecovered
    cases hrecovered
  · intro hnone b hb hown hread hplanned
    have hleft := hr b (mem_ownBatches.2 ⟨hb, hown⟩)
    rw [hwanted b hread] at hleft
    cases hphase : b.phase with
    | planned => exact absurd hphase hplanned
    | recovering => exact absurd hphase (hnone b hb hown hread)
    | recoverySucceeded =>
      rw [hphase, if_neg (by decide)] at hleft
      exact ⟨b, hleft, hphase⟩
    | _ =>
      rw [hphase, if_pos (by decide)] at hleft
      exact hleft

section Selection

variable {lease : LeaseRecord} {t : DateTime}

/-- The first loop, with the list of the instance's batches before it. -/
theorem along_selectEligible {w : World φ} (hw : DistinctBatches w.journal) :
    Along Answers (fun _ _ => True)
      (fun r _ => (∃ rows, r = .ok rows) ↔
        ∀ b ∈ w.journal.batches, belongsTo T b = true → Ready w.journal.leases lease t b)
      (selectBatches T (eligibleBatch T ⟨lease, some t⟩)) w := by
  have hread : Along Answers (fun _ _ => True) (fun r w' => w' = w ∧ r = .ok (ownBatches T w.journal))
      (listOwnBatches T) w := by
    refine along_bind (along_databaseRead trivial (fun i e hi hf => ?_) fun i _ _ => ⟨rfl, rfl⟩)
    rw [hi.database] at hf
    cases hf
  have hall : (∀ b ∈ ownBatches T w.journal, Ready w.journal.leases lease t b) ↔
      ∀ b ∈ w.journal.batches, belongsTo T b = true → Ready w.journal.leases lease t b := by
    simp only [mem_ownBatches, and_imp]
  refine along_seq hread (fun batches w' h => ?_) fun e w' h => by cases h.2
  obtain ⟨rfl, hbatches⟩ := h
  obtain rfl := Except.ok.inj hbatches
  refine along_seq (along_eligibleBatches (ownBatches T w'.journal) w' (ownBatches_nodup hw) fun b hb =>
    hw.row_of_mem (mem_ownBatches.1 hb).1) (fun os w₁ h₁ => ⟨fun _ => hall.1 (h₁.1 ⟨os, rfl⟩), fun _ => ⟨_, rfl⟩⟩) fun e w₁ h₁ => ?_
  refine raised_iff fun hready => ?_
  obtain ⟨os, hos⟩ := h₁.2 (hall.2 hready)
  cases hos

end Selection

/-- In each round of the second loop, what is asked before the recovery is answered. -/
def ChecksAnswered (T : Transaction φ ω) (h : LeaseHolder) : List (BatchRow Payload) → World φ → List (Sample ω) → Prop
  | [], _, _ => True
  | b :: rest, w, inputs =>
    (isUnsupportedBatch T.workspace.coordinator b).Meets (Shows T.workspace.coordinator b) w inputs ∧
    ∀ out mid w', (rollbackBatch T h b).exec w inputs = (some (.ok out, mid), w') → ChecksAnswered T h rest w' mid

/-- The marks and the checks of a rollback are answered; a recovery may fail in any way. -/
def Answered (T : Transaction φ ω) (h : LeaseHolder) (w : World φ) (inputs : List (Sample ω)) : Prop :=
  (selectBatches T (eligibleBatch T h)).Meets Answers w inputs ∧
    ∀ rows mid w₁, (selectBatches T (eligibleBatch T h)).exec w inputs = (some (.ok rows, mid), w₁) →
      ChecksAnswered T h rows w₁ mid

/-- Only captures are looked at on the disk. -/
theorem inspectedPaths_eq_nil {w : World φ} {b : BatchRow Payload} (h : batchOperation b ≠ some .captureDirectory) :
    inspectedPaths w b = [] := by
  unfold inspectedPaths
  dsimp only
  split
  · next hpayload =>
    refine absurd ?_ h
    rw [batchOperation, hpayload]
    rfl
  · rfl

/-- The checks are answered where no capture was selected and no input fails. -/
theorem checksAnswered_of_inputs : ∀ {rows : List (BatchRow Payload)} {w : World φ} {inputs : List (Sample ω)},
    (∀ b ∈ rows, batchOperation b ≠ some .captureDirectory) → (∀ i ∈ inputs, i.fault = none) →
      ChecksAnswered T h rows w inputs
  | [], _, _, _, _ => trivial
  | b :: rows, w, inputs, hrows, hinputs => by
    refine ⟨meets_of_inputs _ _ _ fun i hi w => ⟨hinputs i hi, fun path hpath => ?_⟩, fun out mid w' hrun => ?_⟩
    · rw [inspectedPaths_eq_nil (hrows b List.mem_cons_self)] at hpath
      cases hpath
    · exact checksAnswered_of_inputs (fun b' hb' => hrows b' (List.mem_cons_of_mem _ hb'))
        fun i hi => hinputs i (exec_rest hrun i hi)

/-- One batch of the second loop raises only where a check of it is not answered. -/
theorem rollbackBatch_answers {b : BatchRow Payload} {w w' : World φ} {inputs rest : List (Sample ω)} {e : OperationError}
    (hm : (isUnsupportedBatch T.workspace.coordinator b).Meets (Shows T.workspace.coordinator b) w inputs) :
    (rollbackBatch T h b).exec w inputs ≠ (some (.error e, rest), w') := by
  intro hrun
  rw [rollbackBatch, Program.bind_eq, exec_bind] at hrun
  split at hrun
  · next unsupported mid w₁ hcheck =>
    have hnever : RaisesOnly (fun _ _ => True) (fun _ => False) (if unsupported = true
        then .ret ⟨[(b.batchId, .safeWorkspace (unsupportedMessage b))], []⟩
        else (rollbackSupported T h b).outcome >>= fun result => .ret (rollbackResult b result) :
          Op φ ω RollbackOutcome) := by
      split
      · trivial
      · have hret : ∀ result, RaisesOnly (fun _ _ => True) (fun _ => False)
            (.ret (rollbackResult b result) : Op φ ω RollbackOutcome) := fun _ => trivial
        exact raises_bind hret (raises_outcome _)
    exact exec_raises hnever (meets_true _ _ _) hrun
  · next e' mid w₁ hcheck =>
    obtain ⟨-, answer, heq, -⟩ := along_finishes looks_isUnsupportedBatch hm hcheck
    cases heq
  · cases hrun

/-- The second loop, where the checks are answered, comes to its end if it is not cut off. -/
theorem rollbackLoop_answers : ∀ {rows : List (BatchRow Payload)} {w w' : World φ} {inputs rest : List (Sample ω)}
    {e : OperationError}, ChecksAnswered T h rows w inputs →
      (Program.mapEach rows (rollbackBatch T h)).exec w inputs ≠ (some (.error e, rest), w')
  | [], _, _, _, _, _, _ => fun hrun => by cases hrun
  | b :: rows, w, w', inputs, rest, e, hc => by
    intro hrun
    rw [Program.mapEach, exec_bind] at hrun
    split at hrun
    · next out mid w₁ hb =>
      rw [exec_bind] at hrun
      split at hrun
      · cases hrun
      · next e' mid' w₂ hrows => exact rollbackLoop_answers (hc.2 out mid w₁ hb) hrows
      · cases hrun
    · next e' mid w₁ hb => exact rollbackBatch_answers hc.1 hb
    · cases hrun

/-- The two loops of a rollback that finished: the second was run to its end exactly if all batches were ready. -/
theorem attemptsAll_iff {lease : LeaseRecord} {t : DateTime} {w w' : World φ} {inputs rest : List (Sample ω)}
    {r : Except OperationError RollbackOutcome} (hw : DistinctBatches w.journal)
    (hanswered : Answered T ⟨lease, some t⟩ w inputs)
    (hrun : (selectBatches T (eligibleBatch T ⟨lease, some t⟩) >>= rollbackBatches T ⟨lease, some t⟩).exec w inputs =
      (some (r, rest), w')) :
    AttemptsAll T ⟨lease, some t⟩ w inputs rest w' ↔
      ∀ b ∈ w.journal.batches, belongsTo T b = true → Ready w.journal.leases lease t b := by
  obtain ⟨hselect, hchecks⟩ := hanswered
  cases hsel : (selectBatches T (eligibleBatch T ⟨lease, some t⟩)).exec w inputs with
  | mk o w₁ =>
    rw [Program.bind_eq, exec_bind, hsel] at hrun
    rcases o with _ | ⟨e | rows, mid⟩
    · cases hrun
    · -- a mark was refused
      have hready := along_finishes (along_selectEligible hw) hselect hsel
      refine ⟨?_, fun hall => ?_⟩
      · rintro ⟨rows, mid', w₂, outs, hsel', -⟩
        rw [hsel] at hsel'
        cases hsel'
      · obtain ⟨rows, hrows⟩ := hready.2 hall
        cases hrows
    · have hready := along_finishes (along_selectEligible hw) hselect hsel
      have hrows := (along_finishes (along_selectBatches (T := T) selects_eligibleBatch hw) hselect hsel).2 rows rfl
      refine ⟨fun _ => hready.1 ⟨rows, rfl⟩, fun _ => ?_⟩
      have hrest : (rollbackBatches T ⟨lease, some t⟩ rows).exec w₁ mid = (some (r, rest), w') := hrun
      rw [rollbackBatches, Program.bind_eq, exec_bind] at hrest
      split at hrest
      · next outs mid' w₂ hmap =>
        cases hrest
        exact ⟨rows, mid, w₁, outs, hsel, hrows.1, ranEach_of_mapEach hmap⟩
      · next e mid' w₂ hmap => exact absurd hmap (rollbackLoop_answers (hchecks rows mid w₁ hsel))
      · cases hrest

/-- No step fails with the error that reports artifacts left behind, which is the rollback's own. -/
def PlainFaults (i : Sample ω) (_ : World φ) : Prop := ∀ m, i.fault ≠ some (.artifactCleanup m)

/-- **Failure isolation.** Where the marks and the checks are answered, every
eligible batch is attempted, newest first, exactly if all of them were ready to be
marked when the rollback began; and where it is reported successful, every batch
is recovered exactly if none was recovering then. -/
theorem rollback_isolation (T : Transaction φ ω) (hT : T.rollback = .automatic) (lease : LeaseRecord) (t : DateTime)
    (w w' : World φ) (inputs rest : List (Sample ω)) (r : Except OperationError Bool) (hw : DistinctBatches w.journal)
    (hanswered : Answered T ⟨lease, some t⟩ w inputs)
    (hfaults : (runAutomaticRollback T ⟨lease, some t⟩).Meets PlainFaults w inputs)
    (hrun : (runAutomaticRollback T ⟨lease, some t⟩).exec w inputs = (some (r, rest), w')) :
    (AttemptsAll T ⟨lease, some t⟩ w inputs rest w' ↔
        ∀ b ∈ w.journal.batches, belongsTo T b = true → Ready w.journal.leases lease t b) ∧
      (r = .ok true →
        (AllRecovered T w w' ↔ ∀ b ∈ w.journal.batches, belongsTo T b = true → isReadOnlyBatch b = false →
          b.phase ≠ .recovering)) := by
  have hrollback : runAutomaticRollback T ⟨lease, some t⟩ =
      (selectBatches T (eligibleBatch T ⟨lease, some t⟩) >>= rollbackBatches T ⟨lease, some t⟩) >>= fun outcome =>
        .ret outcome.failures.isEmpty := by
    rw [runAutomaticRollback, hT]
    exact (Program.bind_assoc _).symm
  rw [hrollback] at hrun hfaults
  obtain ⟨hfaults, -⟩ := meets_bind hfaults
  refine ⟨?_, fun hr => ?_⟩
  · rw [Program.bind_eq, exec_bind] at hrun
    split at hrun
    · next hpair => cases hrun; exact attemptsAll_iff hw hanswered hpair
    · next hpair => cases hrun; exact attemptsAll_iff hw hanswered hpair
    · cases hrun
  · rw [hr] at hrun
    obtain ⟨outcome, mid, w₁, hpair, hret⟩ := exec_bind_ok hrun
    cases hout : outcome.failures.isEmpty with
    | false =>
      rw [hout] at hret
      cases hret
    | true =>
      rw [hout] at hret
      cases hret
      have hplain : NoCleanupFault (PlainFaults (φ := φ) (ω := ω)) := fun i w hi m => hi m
      have hback := along_finishes (along_selectThenRollback (T := T) selects_eligibleBatch hw) hfaults hpair
      exact allRecovered_iff (hback.2 outcome rfl ⟨List.isEmpty_iff.1 hout, Or.inl hplain⟩)

/-! ## A batch left attempting, run -/

private def dusk : DateTime := .soon 100

/-- A transaction on a directory and two files, at a fixed time. -/
private def mixed : Transaction Unit Unit where
  workspace := ⟨.inert, "owner", "lease", 1000, none⟩
  name := "tx"
  resources := ⟨[⟨"directory:/d", "directory", none⟩, ⟨"file:/a", "file", none⟩, ⟨"file:/b", "file", none⟩], by decide⟩
  runId := "run"
  rollback := .automatic
  now := some dusk
  instanceId := "i"

/-- The lease as the transaction gets it. -/
private def mixedLease : LeaseRecord := ⟨"lease", "owner", "0", 1, dusk, dusk, .soon 1100, true⟩

private def noopCall : TransactionRequest := .mutate (.recordDirectoryNoop ["d"] "directory:/d") ⟨none, ⟨none, none⟩, none⟩

private def renameCall : TransactionRequest :=
  .mutate (.renameNoReplace ["a"] ["b"] "file:/a" "file:/b") ⟨none, ⟨none, none⟩, none⟩

/-- The second call raises, and the body with it. -/
private def noopThenRename : TransactionBody := .call noopCall fun _ => .call renameCall fun _ => .fail "rename failed"

private def onlyNoop : TransactionBody := .call noopCall fun _ => .fail "directory not there"

private def ticks : List (Sample Unit) :=
  (List.range 40).map fun n => ⟨dusk, toString n ++ "h", toString n, none, ()⟩

/-- The transaction on a new database, up to the end of its body. -/
private def bodyEnds (body : TransactionBody) : World Unit :=
  ((enterTransaction mixed >>= runBody mixed body).exec (World.init ()) ticks).2

/-- The rename leaves its batch attempting, and no batch is rolled back. -/
theorem rollback_isolation_refused : ∃ s e rest, (enterTransaction mixed >>= runBody mixed noopThenRename).exec
      (World.init ()) ticks = (some (.ok (s, some e), rest), bodyEnds noopThenRename) ∧ s.lease = mixedLease ∧
    ∃ e' rest' w', (runAutomaticRollback mixed ⟨mixedLease, some dusk⟩).exec (bodyEnds noopThenRename) ticks =
        (some (.error e', rest'), w') ∧
      ¬ AttemptsAll mixed ⟨mixedLease, some dusk⟩ (bodyEnds noopThenRename) ticks rest' w' := by
  refine ⟨_, _, _, rfl, rfl, _, _, _, rfl, ?_⟩
  rintro ⟨rows, mid, w₁, outs, hselect, -⟩
  have hraises : ∃ e mid' w₂, (selectBatches mixed (eligibleBatch mixed ⟨mixedLease, some dusk⟩)).exec
      (bodyEnds noopThenRename) ticks = (some (.error e, mid'), w₂) := ⟨_, _, _, rfl⟩
  obtain ⟨e, mid', w₂, hraises⟩ := hraises
  rw [hraises] at hselect
  cases hselect

/-- Without the rename, the other batch is attempted. -/
theorem rollback_isolation_noop : ∃ r rest w', (runAutomaticRollback mixed ⟨mixedLease, some dusk⟩).exec
      (bodyEnds onlyNoop) ticks = (some (r, rest), w') ∧
    AttemptsAll mixed ⟨mixedLease, some dusk⟩ (bodyEnds onlyNoop) ticks rest w' := by
  have hfaults : ∀ i ∈ ticks, i.fault = none := by decide
  have hrows : ∀ rows mid w₁, (selectBatches mixed (eligibleBatch mixed ⟨mixedLease, some dusk⟩)).exec
      (bodyEnds onlyNoop) ticks = (some (.ok rows, mid), w₁) → ∀ b ∈ rows, batchOperation b ≠ some .captureDirectory := by
    intro rows mid w₁ hselect
    have hone : ∀ b ∈ ((selectBatches mixed (eligibleBatch mixed ⟨mixedLease, some dusk⟩)).exec (bodyEnds onlyNoop)
        ticks).1.elim [] (fun r => r.1.toOption.getD []), batchOperation b ≠ some .captureDirectory := by decide +kernel
    rw [hselect] at hone
    exact hone
  refine ⟨_, _, _, rfl, (rollback_isolation mixed rfl mixedLease dusk _ _ _ _ _ ?_ ⟨?_, ?_⟩ ?_ rfl).1.2 ?_⟩
  · unfold DistinctBatches
    decide +kernel
  · decide +kernel
  · intro rows mid w₁ hselect
    exact checksAnswered_of_inputs (hrows rows mid w₁ hselect) fun i hi => hfaults i (exec_rest hselect i hi)
  · refine meets_of_inputs _ _ _ fun i hi w m => ?_
    rw [hfaults i hi]
    simp
  · have hphases : ∀ b ∈ (bodyEnds onlyNoop).journal.batches,
        b.phase ∉ [BatchPhase.attempting, .failed, .recoveryFailed, .succeeded] := by decide +kernel
    exact fun b hb _ _ hin => absurd hin (hphases b hb)

end SafeFsOps
