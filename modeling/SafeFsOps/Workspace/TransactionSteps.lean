import SafeFsOps.OperationJournal.TreeMutationSteps
import SafeFsOps.Workspace.CleanupSteps
import SafeFsOps.Workspace.Transaction

/-!
# The steps of a transaction

Whatever a transaction does, with any body and killed anywhere, its batches only
grow: they are never deleted, keep the columns they were created with, and once
started are never planned again; and no operation run is lost, or taken back to
`active`. `Growing` says so of a program, here for the parts of a transaction, up to
its body (`growing_runBody`). What comes after the rollback moves no batch at all
(`move_commitPlain`, `move_commitLinked`).
-/

namespace SafeFsOps

open Program

variable {φ ω α β : Type} {T : Transaction φ ω}

/-! ## Growing -/

/-- In every run of the program, what was in the journal stays, and new batches have links in `Λ`. -/
def Growing (Λ : Option String → Option String → Prop) (p : Op φ ω α) : Prop :=
  ∀ w, Along (fun _ _ => True) (fun w w' : World φ => Continues Λ w.journal w'.journal)
    (fun _ w' => Continues Λ w.journal w'.journal) p w

section Growing

variable {Λ Λ' : Option String → Option String → Prop}

theorem growing_each {p : Op φ ω α} (hp : EachStep (fun w w' : World φ => Continues Λ w.journal w'.journal) p) :
    Growing Λ p := fun _ => along_eachStep (fun _ _ hstep h => ⟨hstep, h.trans hstep⟩) hp Continues.refl

theorem Growing.mono {p : Op φ ω α} (hΛ : ∀ run phase, Λ run phase → Λ' run phase) (hp : Growing Λ p) :
    Growing Λ' p := fun w => along_mono (fun _ _ h => h.mono hΛ) (fun _ _ h => h.mono hΛ) (hp w)

theorem growing_ret (a : α) : Growing Λ (.ret a : Op φ ω α) := fun _ => Continues.refl

theorem growing_raise (e : OperationError) : Growing Λ (.raise e : Op φ ω α) := fun _ => Continues.refl

theorem growing_bind {p : Op φ ω α} {f : α → Op φ ω β} (hp : Growing Λ p) (hf : ∀ a, Growing Λ (f a)) :
    Growing Λ (p >>= f) := by
  intro w
  refine along_seq (hp w) (fun a w₁ h₁ => ?_) fun _ _ h => h
  exact along_mono (fun _ _ h => h) (fun _ _ h₂ => h₁.trans h₂) (hf a w₁)

theorem growing_outcome {p : Op φ ω α} (hp : Growing Λ p) : Growing Λ p.outcome := fun w => along_outcome (hp w)

theorem AllQuiet.growing {K : JournalWrite Payload → Prop} {L : LeaseRecord} {p : Op φ ω α} (h : AllQuiet K L p)
    (hK : ∀ req id, K (.createBatch req id) → Λ req.operationRunId req.operationPhaseId) : Growing Λ p :=
  growing_each (eachStep_mono (fun _ _ hq => hq.continues hK) h)

theorem AllMove.growing {S : String → Prop} {P : List BatchPhase} {p : Op φ ω α} (h : AllMove S P p)
    (hP : .planned ∉ P) : Growing Λ p :=
  growing_each (eachStep_mono (fun _ _ hm => Continues.of_moves hm.journal hP hm.operations) h)

/-- A mutation makes batches with its own links. -/
theorem AllMutate.growing {c : Caller} {p : Op φ ω α} (h : AllMutate c p) (hc : Λ c.operationRunId c.operationPhaseId) :
    Growing Λ p :=
  growing_each (eachStep_mono (fun _ _ hm => hm.continues hc) h)

end Growing

/-! ## Claims and leases -/

section Claims

variable {S : String → Prop} {P : List BatchPhase}

theorem move_claimWrite {h : LeaseHolder}
    {write : LeaseTable → ClaimTable → DateTime → Except ClaimError (α × ClaimTable)} :
    AllMove S P (claimWrite h write : Op φ ω α) := by
  refine move_transaction fun i w a w' hact => ?_
  split at hact
  · cases hact
    exact ⟨rfl, .refl⟩
  · cases hact

theorem move_upsertClaimStep (h : LeaseHolder) (resourceKey kind : String) :
    AllMove S P (upsertClaimStep T h resourceKey kind) := by
  refine move_transaction fun i w a w' hact => ?_
  dsimp only at hact
  split at hact
  · cases hact
    exact ⟨rfl, .refl⟩
  · cases hact

theorem move_claimDirectoryResource (s : TransactionState) (resourceKey : String) (now : Option DateTime) :
    AllMove S P (claimDirectoryResource T s resourceKey now) := by
  unfold claimDirectoryResource
  split
  · exact move_ret _
  · exact move_bind (move_upsertClaimStep _ _ _) fun _ => move_ret _

theorem move_claimResources (resources : List ResourceHandle) :
    ∀ s : TransactionState, AllMove S P (claimResources T s resources) := by
  induction resources with
  | nil => exact fun s => move_ret _
  | cons r rest ih =>
    intro s
    refine move_bind (eachStep_outcome (move_upsertClaimStep _ _ _)) fun claimed => ?_
    cases claimed with
    | error e => exact move_ret _
    | ok claim => exact ih (s.remember claim)

theorem move_releaseTransactionClaim (h : LeaseHolder) (claim : ClaimRecord) :
    AllMove S P (releaseTransactionClaim T h claim) := by
  refine move_bind (eachStep_onRaise (fun e => ?_) move_claimWrite) fun released => ?_
  · split
    · exact move_claimWrite
    · exact move_raise e
  · split
    · exact move_ret ()
    · refine move_bind (move_read _) fun current => ?_
      split
      · exact move_ret ()
      · exact move_raise _

theorem move_cleanupHolder (lease : LeaseRecord) : AllMove S P (cleanupHolder lease : Op φ ω LeaseHolder) :=
  eachStep_call fun _ _ => .refl

theorem move_stopLeaseHeartbeat : AllMove S P (stopLeaseHeartbeat T) := by
  unfold stopLeaseHeartbeat
  split
  · exact move_ret ()
  · exact move_read _

theorem move_releaseHeldLease (h : LeaseHolder) : AllMove S P (releaseHeldLease h : Op φ ω Bool) :=
  touch_releaseHeldLease.move

/-- Giving up the claims and the lease moves no batch. -/
theorem move_cleanupTransaction (s : TransactionState) : AllMove S P (cleanupTransaction T s) := by
  refine move_bind (move_cleanupHolder _) fun h => ?_
  refine move_bind (eachStep_outcome move_stopLeaseHeartbeat) fun stopped => ?_
  cases stopped with
  | error e =>
    show AllMove S P (if e.isLeaseLost then _ else _)
    split
    · exact move_ret _
    · exact move_raise e
  | ok _ =>
    have hclaims : AllMove S P (Program.forEach s.claims.reverse (releaseTransactionClaim T h)) :=
      eachStep_forEach fun claim _ => move_releaseTransactionClaim h claim
    refine move_bind (eachStep_outcome hclaims) fun released => ?_
    cases released with
    | ok _ => exact move_bind (move_releaseHeldLease h) fun _ => move_ret _
    | error e =>
      show AllMove S P (claimsNotReleased h e)
      unfold claimsNotReleased
      split
      · exact move_bind (move_releaseHeldLease h) fun _ => move_ret _
      · exact move_bind (move_releaseHeldLease h) fun _ => move_ret _
      · split
        · exact move_ret _
        · exact move_raise _

theorem move_startLeaseHeartbeat (lease : LeaseRecord) : AllMove S P (startLeaseHeartbeat T lease) := by
  unfold startLeaseHeartbeat
  split
  · exact move_ret ()
  · refine move_bind touch_heartbeatLease.move fun renewed => ?_
    cases renewed with
    | some lease => exact move_ret ()
    | none => exact move_raise _

theorem move_enterTransaction : AllMove S P (enterTransaction T) := by
  unfold enterTransaction
  split
  · exact move_raise _
  · refine move_bind (touch_acquireLease _).move fun lease => ?_
    split
    · exact move_raise _
    · refine move_bind (move_startLeaseHeartbeat lease) fun _ => ?_
      refine move_bind (move_claimResources _ _) fun (s, refused) => ?_
      cases refused with
      | some e => exact move_bind (move_cleanupTransaction s) fun _ => move_raise _
      | none =>
        have hmark : AllMove S P (markEntered T lease) := eachStep_call fun _ _ => ⟨Moves.refl, .refl⟩
        exact move_bind hmark fun _ => move_ret s

end Claims

/-! ## The body -/

theorem move_resolveLinks {S : String → Prop} {P : List BatchPhase} (s : TransactionState) (given : OperationLinks) :
    AllMove S P (resolveLinks T s given) := by
  unfold resolveLinks
  split
  · refine move_bind ?_ fun _ => move_ret _
    unfold validateExplicitLinks
    split
    · exact move_ret ()
    · exact move_raise _
    · exact move_bind (move_read _) fun _ => eachStep_ofExcept _
    · exact move_bind (move_read _) fun _ => move_bind (eachStep_ofExcept _) fun _ =>
        move_bind (move_read _) fun _ => eachStep_ofExcept _
  · exact move_ret _

theorem move_operationRunWrite {S : String → Prop} {P : List BatchPhase} {h : LeaseHolder}
    {write : JournalDb Payload → WriteContext → Except JournalError (α × JournalDb Payload)}
    (hwrite : ∀ db ctx a db', write db ctx = .ok (a, db') → OnlyOperationRuns db db' ∧ ∃ d, OperationsMove d db db') :
    AllMove S P (journalWrite h write : Op φ ω α) :=
  (quiet_operationRunWrite (L := h.lease) hwrite).touch.move

theorem move_ensureImplicitRun {S : String → Prop} {P : List BatchPhase} (s : TransactionState) (h : LeaseHolder) :
    AllMove S P (ensureImplicitRun T s h) := by
  unfold ensureImplicitRun
  split
  · exact move_ret _
  · exact move_operationRunWrite fun _ _ _ _ h => ⟨createOperationRun_only h, true, createOperationRun_moves h⟩

theorem move_ensureImplicitPhase {S : String → Prop} {P : List BatchPhase} (s : TransactionState) (h : LeaseHolder)
    (operationRunId : String) : AllMove S P (ensureImplicitPhase T s h operationRunId) := by
  unfold ensureImplicitPhase
  split
  · exact move_ret _
  · exact move_operationRunWrite fun _ _ _ _ h => ⟨createOperationPhase_only h, true, createOperationPhase_moves h⟩

theorem move_ensureImplicitOperation {S : String → Prop} {P : List BatchPhase} (s : TransactionState)
    (now : Option DateTime) : AllMove S P (ensureImplicitOperation T s now) := by
  refine move_bind (eachStep_outcome (move_ensureImplicitRun s _)) fun run => ?_
  cases run with
  | error e => exact move_ret _
  | ok run =>
    refine move_bind (eachStep_outcome (move_ensureImplicitPhase _ _ _)) fun phase => ?_
    cases phase with
    | error e => exact move_ret _
    | ok phase => exact move_ret _

theorem move_claimQuarantine {S : String → Prop} {P : List BatchPhase} (s : TransactionState) (m : MutationRequest)
    (now : Option DateTime) : AllMove S P (claimQuarantine T s m now) := by
  unfold claimQuarantine
  split
  · exact move_claimDirectoryResource _ _ _
  · exact move_ret _

/-- What moves no batch grows. -/
theorem AllMove.still {Λ : Option String → Option String → Prop} {p : Op φ ω α} (hp : AllMove (fun _ => True) [] p) :
    Growing Λ p := hp.growing (by simp)

theorem growing_runKeyed (s : TransactionState) (operation : String) (r : ResourceHandle) (links : OperationLinks)
    (o : CallOptions) {run : Caller → Op φ ω Unit} (hrun : ∀ c, AllMutate c (run c)) :
    Growing (fun _ _ => True) (runKeyed T s operation r links o run) :=
  growing_bind (growing_outcome ((hrun _).growing trivial)) fun _ => growing_ret _

theorem growing_runMutate (s : TransactionState) (m : MutationRequest) (o : CallOptions) :
    Growing (fun _ _ => True) (runMutate T s m o) := by
  unfold runMutate
  split
  · exact growing_ret _
  · refine growing_bind (growing_outcome (move_resolveLinks _ _).still) fun resolved => ?_
    cases resolved with
    | error e => exact growing_ret _
    | ok r =>
      refine growing_bind (growing_outcome (move_claimQuarantine _ _ _).still) fun claimed => ?_
      cases claimed with
      | error e => exact growing_ret _
      | ok s' => exact growing_runKeyed _ _ _ _ _ fun _ => mutates_runMutation m

theorem growing_runTree (s : TransactionState) (m : TreeRequest) (o : CallOptions) :
    Growing (fun _ _ => True) (runTree T s m o) := by
  unfold runTree
  split
  · exact growing_ret _
  · refine growing_bind (growing_outcome (move_resolveLinks _ _).still) fun resolved => ?_
    cases resolved with
    | error e => exact growing_ret _
    | ok r =>
      cases m with
      | backupTree path relativePaths key storePath =>
        exact growing_runKeyed _ _ _ _ _ fun _ => mutates_backupTree _ _ _ _
      | restoreTreeBackup path backup destinationRoot key storePath policy =>
        exact growing_runKeyed _ _ _ _ _ fun _ => mutates_restoreTreeBackup _ _ _ _ _
      | snapshotBundle path paths includeChildren hashPolicy smallFileMaxBytes key =>
        have hread : AllQuiet (fun _ => False) s.lease (fsRead fun os fs => T.workspace.coordinator.ops.snapshotBundle os fs
          (paths.getD path.toList) includeChildren hashPolicy smallFileMaxBytes : Op φ ω SnapshotBundle) := quiet_fsRead _
        refine growing_bind (growing_outcome (hread.growing fun _ _ h => h.elim)) fun taken => ?_
        cases taken with
        | error e => exact growing_ret _
        | ok bundle => exact growing_runKeyed _ _ _ _ _ fun _ => mutates_snapshotBundle _ _

theorem growing_runRequest (s : TransactionState) (r : TransactionRequest) :
    Growing (fun _ _ => True) (runRequest T s r) := by
  cases r with
  | mutate m o => exact growing_runMutate s m o
  | tree m o => exact growing_runTree s m o
  | ensureImplicitOperation now =>
    exact growing_bind (move_ensureImplicitOperation s now).still fun _ => growing_ret _
  | claimDirectory key now =>
    refine growing_bind (growing_outcome (move_claimDirectoryResource s key now).still) fun claimed => ?_
    cases claimed with
    | error e => exact growing_ret _
    | ok s' => exact growing_ret _
  | makeDirectoryPath path key idempotencyKey links parents existOk recursive now =>
    have hmake : AllMutate (T.caller s idempotencyKey links now) (makeDirectory T.workspace.coordinator
      (T.caller s idempotencyKey links now) path key parents existOk recursive) :=
      mutates_runMutation (.makeDirectory path key parents existOk recursive)
    exact growing_bind (growing_outcome (hmake.growing trivial)) fun _ => growing_ret _

theorem growing_runBody : ∀ (body : TransactionBody) (s : TransactionState),
    Growing (fun _ _ => True) (runBody T body s)
  | .finish, _ => growing_ret _
  | .fail _, _ => growing_ret _
  | .call request next, s =>
    growing_bind (growing_runRequest s request) fun (s', answer) => growing_runBody (next answer) s'

/-! ## Statuses, and the end -/

section End

variable {S : String → Prop} {P : List BatchPhase} {h : LeaseHolder}

theorem move_orDiagnostic {update diagnostic : Op φ ω Unit} (hu : AllMove S P update) (hd : AllMove S P diagnostic) :
    AllMove S P (orDiagnostic update diagnostic) := by
  refine eachStep_onRaise (fun e => ?_) hu
  split
  · exact hd
  · exact hd
  · exact move_bind (eachStep_outcome hd) fun _ => move_raise _

theorem move_markTouchedPhases (s : TransactionState) (status : String) :
    AllMove S P (markTouchedPhases h s status : Op φ ω Unit) := by
  have hrows : AllMove S P (touchedPhases s : Op φ ω _) :=
    move_bind (eachStep_mapEach fun id _ => move_read _) fun _ => move_ret _
  refine move_bind hrows fun phases => eachStep_forEach fun phase _ => move_orDiagnostic ?_ ?_
  · exact move_bind (move_operationRunWrite fun _ _ _ _ h => ⟨updatePhase_only h, false, updatePhase_moves h⟩) fun _ => move_ret ()
  · exact move_bind (move_operationRunWrite fun _ _ _ _ h => ⟨phaseDiagnostic_only h, true, phaseDiagnostic_moves h⟩) fun _ => move_ret ()

theorem move_markTouchedRuns (s : TransactionState) (status : String) :
    AllMove S P (markTouchedRuns h s status : Op φ ω Unit) := by
  have hrows : AllMove S P (touchedRuns s : Op φ ω _) :=
    move_bind (eachStep_mapEach fun id _ => move_read _) fun _ => move_ret _
  refine move_bind hrows fun runs => eachStep_forEach fun run _ => move_orDiagnostic ?_ ?_
  · exact move_bind (move_operationRunWrite fun _ _ _ _ h => ⟨updateRun_only h, false, updateRun_moves h⟩) fun _ => move_ret ()
  · exact move_bind (move_operationRunWrite fun _ _ _ _ h => ⟨runDiagnostic_only h, true, runDiagnostic_moves h⟩) fun _ => move_ret ()

theorem move_markRunsFailed (s : TransactionState) : AllMove S P (markRunsFailed h s : Op φ ω Unit) := by
  unfold markRunsFailed
  split
  · exact move_ret ()
  · exact move_markTouchedRuns s _

theorem move_markFinalizationFailed (s : TransactionState) : AllMove S P (markFinalizationFailed s : Op φ ω Unit) :=
  move_bind (move_cleanupHolder _) fun _ => move_bind (eachStep_outcome (move_markTouchedPhases s _)) fun _ =>
    move_bind (eachStep_outcome (move_markTouchedRuns s _)) fun _ => move_ret ()

theorem succeedPhases_moves {ctx : WriteContext} : ∀ {phases : List (OperationPhaseRow Payload)}
    {db db' : JournalDb Payload}, succeedPhases ctx db phases = .ok db' →
      db'.batches = db.batches ∧ OperationsKept db db'
  | [], db, db', h => by
    cases h
    exact ⟨rfl, .refl⟩
  | phase :: rest, db, db', h => by
    simp only [succeedPhases, bind_eq_ok] at h
    obtain ⟨⟨_, db₁⟩, hphase, h⟩ := h
    obtain ⟨hbatches, hkept⟩ := succeedPhases_moves h
    exact ⟨by rw [hbatches, updatePhaseInConnection_only hphase],
      (updatePhaseInConnection_moves hphase).kept.trans hkept⟩

theorem succeedRuns_moves {ctx : WriteContext} : ∀ {runs : List (OperationRunRow Payload)}
    {db db' : JournalDb Payload}, succeedRuns ctx db runs = .ok db' → db'.batches = db.batches ∧ OperationsKept db db'
  | [], db, db', h => by
    cases h
    exact ⟨rfl, .refl⟩
  | run :: rest, db, db', h => by
    simp only [succeedRuns, bind_eq_ok] at h
    obtain ⟨⟨_, db₁⟩, hrun, h⟩ := h
    obtain ⟨hbatches, hkept⟩ := succeedRuns_moves h
    exact ⟨by rw [hbatches, updateRunInConnection_only hrun], (updateRunInConnection_moves hrun).kept.trans hkept⟩

theorem finalizeInConnection_moves {s : TransactionState} {phases : List (OperationPhaseRow Payload)}
    {runs : List (OperationRunRow Payload)} {ctx : WriteContext} {w w' : World φ}
    (h : finalizeInConnection T s phases runs ctx w = .ok w') :
    w'.journal.batches = w.journal.batches ∧ OperationsKept w.journal w'.journal := by
  simp only [finalizeInConnection, bind_eq_ok, pure_eq_ok, mapError_eq_ok] at h
  obtain ⟨_, -, db₁, hphases, claims, -, db₂, hruns, _, -, rfl⟩ := h
  obtain ⟨hb₁, hk₁⟩ := succeedPhases_moves hphases
  obtain ⟨hb₂, hk₂⟩ := succeedRuns_moves hruns
  have hkept := hk₁.trans hk₂
  exact ⟨hb₂.trans hb₁, hkept.runs, hkept.phases, hkept.distinct⟩

theorem move_finalizeTransaction (s : TransactionState) : AllMove S P (finalizeTransaction T s) := by
  have hfinal : ∀ (h : LeaseHolder) (phases : List (OperationPhaseRow Payload))
      (runs : List (OperationRunRow Payload)), AllMove S P
        (transaction fun (i : Sample ω) w =>
          (finalizeInConnection T s phases runs (h.context i) w).map fun w' => ((), w')) := by
    intro h phases runs
    refine move_transaction fun i w a w' hact => ?_
    obtain ⟨w₁, hw₁, heq⟩ := map_eq_ok.1 hact
    cases heq
    exact finalizeInConnection_moves hw₁
  refine move_bind move_stopLeaseHeartbeat fun _ => move_bind (move_cleanupHolder _) fun h => ?_
  split
  · exact move_bind (move_ret _) fun phases => move_bind (move_ret _) fun runs => hfinal h phases runs
  · refine move_bind (move_bind (eachStep_mapEach fun id _ => move_read _) fun _ => move_ret _) fun phases => ?_
    refine move_bind (move_bind (eachStep_mapEach fun id _ => move_read _) fun _ => move_ret _) fun runs => ?_
    exact hfinal h phases runs

theorem move_abandonTransaction : AllMove S P (abandonTransaction T) := by
  refine eachStep_onRaise (fun e => ?_) move_stopLeaseHeartbeat
  split
  · exact move_ret ()
  · exact move_raise e

theorem move_cleanupCommittedArtifacts (lease : LeaseRecord) : AllMove (fun _ => True) P (cleanupCommittedArtifacts T lease) := by
  refine move_bind (move_bind (move_read _) fun _ => move_ret _) fun batches => ?_
  split
  · exact move_ret _
  · refine move_bind (touch_cleanupArtifactsForBatches _ _ _ fun _ _ => trivial).move fun debts => ?_
    split
    · exact move_ret _
    · exact move_ret _

/-- Leaving without an operation run moves no batch. -/
theorem move_commitPlain (s : TransactionState) : AllMove (fun _ => True) P (commitPlain T s) := by
  refine move_bind (move_cleanupCommittedArtifacts _) fun artifacts => ?_
  refine move_bind (eachStep_outcome (move_cleanupTransaction s)) fun cleaned => ?_
  split
  · exact move_raise _
  · exact move_raise _
  · exact move_raise _
  · exact move_ret ()

/-- Leaving with one does neither. -/
theorem move_commitLinked (s : TransactionState) : AllMove (fun _ => True) P (commitLinked T s) := by
  have hfinal : AllMove (fun _ => True) P (finalizeLinked T s) := by
    refine move_bind (move_cleanupCommittedArtifacts _) fun artifacts => ?_
    split
    · exact move_raise _
    · exact move_finalizeTransaction s
  refine eachStep_onRaise (fun e => ?_) hfinal
  exact move_bind (move_markFinalizationFailed s) fun _ => move_bind (move_cleanupTransaction s) fun _ => move_raise _

end End

end SafeFsOps
