import SafeFsOps.OperationJournal.BatchMoves

/-!
# The steps of a mutation

A mutation is quiet (`Quiet`) but for the start of its batch and its invocation, which
go on record. So in every run of it, whatever it meets and wherever it is killed, the
journal moves on by writes of its own kind under its caller's lease:

> `mutates_runMutation`: every step of a mutation is such a move.
> `Mutates.continues`: a batch it makes has the links of its caller, batches and
> operation runs that were there stay.

`Continues Λ` is what is left when the writes are forgotten, for any program that makes
batches with links in `Λ` only.
-/

namespace SafeFsOps

open Program
open JournalWrite (OfMutation OfStarted)

variable {φ ω α β : Type} {C : Coordinator φ ω} {c : Caller}

/-! ## Mutations -/

/-- A quiet step, but for the record of mutations. -/
def Mutates (c : Caller) (w w' : World φ) : Prop := Quiet (OfMutation c) c.lease { w with history := w'.history } w'

theorem Quiet.mutates {w w' : World φ} (h : Quiet (OfMutation c) c.lease w w') : Mutates c w w' := by
  unfold Mutates
  rw [h.history]
  exact h

/-- Every step of the program is one of a mutation. -/
def AllMutate (c : Caller) (p : Op φ ω α) : Prop := EachStep (Mutates c) p

theorem AllQuiet.mutate {p : Op φ ω α} (h : AllQuiet (OfMutation c) c.lease p) : AllMutate c p :=
  eachStep_mono (fun _ _ hq => hq.mutates) h

/-- Quiet steps first. -/
theorem mutates_after {p : Op φ ω α} {f : α → Op φ ω β} (hp : AllQuiet (OfMutation c) c.lease p)
    (hf : ∀ a, AllMutate c (f a)) : AllMutate c (p >>= f) := eachStep_bind hf hp.mutate

/-- Quiet steps last. -/
theorem mutates_before {p : Op φ ω α} {f : α → Op φ ω β} (hp : AllMutate c p)
    (hf : ∀ a, AllQuiet (OfMutation c) c.lease (f a)) : AllMutate c (p >>= f) :=
  eachStep_bind (fun a => (hf a).mutate) hp

theorem mutates_onRaise {p : Op φ ω α} {handler : OperationError → Op φ ω α} (hp : AllMutate c p)
    (hh : ∀ e, AllQuiet (OfMutation c) c.lease (handler e)) : AllMutate c (p.onRaise handler) :=
  eachStep_onRaise (fun e => (hh e).mutate) hp

theorem mutates_startBatchOperationStep (batchId : String) (operationType : OperationType) (resourceKey : String)
    (intent : Intent) : AllMutate c (startBatchOperationStep c batchId operationType resourceKey intent :
      Op φ ω (BatchRow Payload × OperationRow Payload)) := by
  refine eachStep_call fun i w => ?_
  split
  · exact (Quiet.refl w).mutates
  · split
    · next a w' hact =>
      dsimp only at hact
      split at hact
      · next batch operation db hstart =>
        cases hact
        let x : JournalWrite Payload :=
          .startBatchOperation batchId operationType.text (some resourceKey) (some (.intent intent)) none none
        have hrun : x.run w.journal (c.context i) = .ok db := by
          show (startBatchOperation ..).map _ = _
          rw [hstart]
          rfl
        refine Quiet.call (c := .write x (c.context i)) ⟨rfl, trivial⟩ ?_ (run_operationsKept hrun)
        simp only [JournalDb.step, hrun]
      · cases hact
    · exact (Quiet.refl w).mutates

theorem mutates_invoke (act : ω → φ → Except FilesystemError α × φ) : AllMutate c (invoke c act) :=
  eachStep_call fun _ _ => Quiet.disk _ _

theorem mutates_maintain {body : Op φ ω α} (hb : AllMutate c body) :
    AllMutate c (maintainOperationLease C c.toLeaseHolder body) := by
  unfold maintainOperationLease maintainLease
  split
  · exact hb
  · split
    · exact hb
    · refine mutates_after (quiet_heartbeatOnce _) fun _ => mutates_before hb fun _ => ?_
      exact quiet_bind (quiet_databaseRead _) fun _ => quiet_pure _

theorem mutates_openBatch (intent : Intent) (operationType : OperationType) (resourceKey what : String) :
    AllMutate c (openBatch c intent operationType resourceKey what :
      Op φ ω (Option (BatchRow Payload × OperationRow Payload))) := by
  refine mutates_after (quiet_createBatchStep _ _) fun batch => ?_
  split
  · exact trivial
  · split
    · exact (quiet_bind (quiet_recordInterruptedIfTakenOver (fun _ _ => trivial) _ _) fun _ => quiet_raise _).mutate
    · refine mutates_before (mutates_onRaise (mutates_startBatchOperationStep _ _ _ _) fun e => ?_) fun _ => quiet_pure _
      refine quiet_ite (quiet_bind (quiet_databaseRead _) fun current => ?_) (quiet_raise e)
      exact quiet_bind (quiet_recordInterruptedIfTakenOver (fun _ _ => trivial) _ _) fun _ => quiet_raise _

theorem mutates_startedFileMutation (m : FileMutation φ ω) (batchId operationId : String) :
    AllMutate c (startedFileMutation C c m batchId operationId) := by
  refine mutates_after (quiet_recordAndRaise (quiet_fsRead _) fun _ => ?_) fun before => ?_
  · exact quiet_recordFailure OfStarted.mutation _ _ _ _ _
  refine mutates_after (quiet_recordAndRaise (quiet_maintain (quiet_prepareMutationCheckpoints OfStarted.mutation _ _ _))
    fun _ => quiet_recordMutationFailure OfStarted.mutation _ _ _ _ _ _) fun recovery => ?_
  refine mutates_after (quiet_recordAndRaise (quiet_requireAuthority _)
    fun _ => quiet_recordMutationFailure OfStarted.mutation _ _ _ _ _ _) fun _ => ?_
  refine mutates_before (mutates_onRaise (mutates_maintain (mutates_invoke _)) fun e => ?_)
    fun _ => quiet_finishFileMutation OfStarted.mutation _ _ _ _
  exact quiet_bind (quiet_recordMutationFailure OfStarted.mutation _ _ _ _ _ _) fun _ => quiet_raise _

theorem mutates_authorizedMove {move : Op φ ω α} (resourceKey destinationKey : String) (hm : AllMutate c move) :
    AllMutate c (authorizedMove C c resourceKey destinationKey move) := by
  refine mutates_after (quiet_requireAuthority _) fun _ => mutates_after (quiet_requireAuthority _) fun _ => ?_
  refine mutates_maintain (mutates_after (quiet_requireAuthority _) fun _ => ?_)
  exact mutates_after (quiet_requireAuthority _) fun _ => hm

theorem mutates_startedRenameMutation (m : RenameMutation) (batchId operationId : String) :
    AllMutate c (startedRenameMutation C c m batchId operationId) := by
  refine mutates_after (quiet_fsRead _) fun before => ?_
  refine mutates_after (quiet_recordCheckpointStep (fun _ _ _ _ _ _ => trivial) _ _ _ _) fun _ => ?_
  refine mutates_after (quiet_fsRead _) fun destination => ?_
  refine mutates_after (quiet_recordCheckpointStep (fun _ _ _ _ _ _ => trivial) _ _ _ _) fun _ => ?_
  refine mutates_before (mutates_onRaise (mutates_authorizedMove _ _ (mutates_invoke _)) fun e => ?_) fun record =>
    quiet_recordAndRaise (quiet_recordRename OfStarted.mutation _ _ _) fun _ => quiet_recordPostMutationFailure OfStarted.mutation _ _ _ _ _ _ _
  exact quiet_bind (quiet_snapshotOrNone _) fun _ => quiet_bind (quiet_snapshotOrNone _) fun _ =>
    quiet_bind (quiet_recordMoveFailure OfStarted.mutation _ _ _ _ _ _ _) fun _ => quiet_raise _

theorem mutates_startedCaptureMutation (m : CaptureMutation) (batchId operationId : String) :
    AllMutate c (startedCaptureMutation C c m batchId operationId) := by
  refine mutates_after (quiet_fsRead _) fun before => ?_
  refine mutates_after (quiet_snapshotDirectoryCaptureToken _ _ _) fun token => ?_
  refine mutates_after (quiet_recordCheckpointStep (fun _ _ _ _ _ _ => trivial) _ _ _ _) fun _ => ?_
  refine mutates_before (mutates_onRaise (mutates_authorizedMove _ _ (mutates_invoke _)) fun e => ?_) fun captured =>
    quiet_recordAndRaise (quiet_recordCapture OfStarted.mutation _ _ _) fun _ => quiet_recordPostMutationFailure OfStarted.mutation _ _ _ _ _ _ _
  exact quiet_bind (quiet_snapshotOrNone _) fun _ => quiet_bind (quiet_snapshotOrNone _) fun _ =>
    quiet_bind (quiet_ambiguousCaptureRecovery _ _ _ _ _ _) fun _ =>
      quiet_bind (quiet_recordMoveFailure OfStarted.mutation _ _ _ _ _ _ _) fun _ => quiet_raise _

/-- What follows the opening of a batch. -/
theorem mutates_opened {intent : Intent} {operationType : OperationType} {resourceKey what : String}
    {f : Option (BatchRow Payload × OperationRow Payload) → Op φ ω α} (hnone : AllMutate c (f none))
    (hsome : ∀ batch operation, AllMutate c (f (some (batch, operation)))) :
    AllMutate c (openBatch c intent operationType resourceKey what >>= f) := by
  refine eachStep_bind (fun opened => ?_) (mutates_openBatch intent operationType resourceKey what)
  cases opened with
  | none => exact hnone
  | some opened => exact hsome opened.1 opened.2

theorem mutates_runFileMutation (m : FileMutation φ ω) : AllMutate c (runFileMutation C c m) := by
  refine mutates_after ?_ fun _ => mutates_after (quiet_requireAuthority _) fun _ =>
    mutates_opened trivial fun batch operation => mutates_startedFileMutation _ _ _
  cases m.preflightOperation with
  | some operation => exact quiet_ofExcept _
  | none => exact quiet_ret _

/-- **Every step of a mutation** is quiet but for the record, whatever the request. -/
theorem mutates_runMutation (r : MutationRequest) : AllMutate c (runMutation C c r) := by
  cases r with
  | writeTextFile path content key newline =>
    exact mutates_after (quiet_ofExcept _) fun _ => mutates_runFileMutation _
  | writeBytesFile path content key permissions maxBytes allowLarge =>
    refine mutates_after (quiet_ofExcept _) fun _ => ?_
    dsimp only
    split
    · exact trivial
    · exact mutates_runFileMutation _
  | deleteFile path key missingOk => exact mutates_after (quiet_ofExcept _) fun _ => mutates_runFileMutation _
  | makeDirectory path key parents existOk recursive =>
    refine mutates_after (quiet_ofExcept _) fun _ => ?_
    split
    · exact trivial
    · exact mutates_runFileMutation _
  | recordDirectoryNoop path key => exact mutates_after (quiet_ofExcept _) fun _ => mutates_runFileMutation _
  | renameNoReplace source destination key destinationKey =>
    refine mutates_after (quiet_ofExcept _) fun _ => mutates_after (quiet_ofExcept _) fun _ => ?_
    refine mutates_after (quiet_requireAuthority _) fun _ => mutates_after (quiet_requireAuthority _) fun _ => ?_
    refine mutates_after (quiet_requireAuthority _) fun _ => mutates_after (quiet_requireAuthority _) fun _ => ?_
    exact mutates_opened trivial fun batch operation => mutates_startedRenameMutation _ _ _
  | captureDirectory source quarantine key destinationKey =>
    refine mutates_after (quiet_ofExcept _) fun _ => ?_
    cases destinationKey with
    | none => exact trivial
    | some destinationKey =>
      refine mutates_after (quiet_ofExcept _) fun _ => mutates_after (quiet_requireAuthority _) fun _ => ?_
      refine mutates_after (quiet_requireAuthority _) fun _ => mutates_after (quiet_requireAuthority _) fun _ => ?_
      exact mutates_opened trivial fun batch operation => mutates_startedCaptureMutation _ _ _

/-! ## What was there stays -/

/-- Batches and operation runs that were there stay, and new batches have links in `Λ`. -/
structure Continues (Λ : Option String → Option String → Prop) (db db' : JournalDb Payload) : Prop where
  grows : Grows db db'
  operations : OperationsKept db db'
  linked : ∀ id b, db.batchRow id = none → db'.batchRow id = some b → Λ b.operationRunId b.operationPhaseId

namespace Continues

variable {Λ Λ' : Option String → Option String → Prop} {db db₁ db₂ : JournalDb Payload}

protected theorem refl : Continues Λ db db where
  grows := Grows.refl
  operations := .refl
  linked id b hnone hb := by
    rw [hnone] at hb
    cases hb

theorem mono (hΛ : ∀ run phase, Λ run phase → Λ' run phase) (h : Continues Λ db db₁) : Continues Λ' db db₁ :=
  ⟨h.grows, h.operations, fun id b hnone hb => hΛ _ _ (h.linked id b hnone hb)⟩

protected theorem trans (h₁ : Continues Λ db db₁) (h₂ : Continues Λ db₁ db₂) : Continues Λ db db₂ where
  grows := h₁.grows.trans h₂.grows
  operations := h₁.operations.trans h₂.operations
  linked := by
    intro id b hnone hb
    cases hb₁ : db₁.batchRow id with
    | none => exact h₂.linked id b hb₁ hb
    | some b₁ =>
      obtain ⟨b', hb', hc, -⟩ := h₂.grows.row id b₁ hb₁
      obtain rfl : b' = b := Option.some.inj (hb'.symm.trans hb)
      rw [BatchRow.column_eq (f := BatchRow.operationRunId) (fun _ => rfl) hc,
        BatchRow.column_eq (f := BatchRow.operationPhaseId) (fun _ => rfl) hc]
      exact h₁.linked id b₁ hnone hb₁

/-- No batch is new. -/
theorem of_moves {S : String → Prop} {P : List BatchPhase} (h : Moves S P db db₁) (hP : .planned ∉ P)
    (hkept : OperationsKept db db₁) : Continues Λ db db₁ := by
  refine ⟨h.grows hP, hkept, fun id b hnone hb => ?_⟩
  rw [h.absent hnone] at hb
  cases hb

end Continues

section Calls

variable {K : JournalWrite Payload → Prop} {L : LeaseRecord} {Λ : Option String → Option String → Prop}

/-- A new batch has the links it was asked for. -/
theorem linked_step {db : JournalDb Payload} {x : JournalCall Payload} (hx : x.Under K L)
    (hK : ∀ req id, K (.createBatch req id) → Λ req.operationRunId req.operationPhaseId) {id : String}
    {b : BatchRow Payload} (hnone : db.batchRow id = none) (hb : (db.step x).batchRow id = some b) :
    Λ b.operationRunId b.operationPhaseId := by
  have hsame : ∀ {db' : JournalDb Payload}, db'.batches = db.batches → db'.batchRow id = some b → False := by
    intro db' hbatches hrow
    rw [JournalDb.batchRow, hbatches] at hrow
    rw [JournalDb.batchRow, hrow] at hnone
    cases hnone
  cases x with
  | lease c => exact (hsame rfl hb).elim
  | operationRuns runs phases => exact (hsame rfl hb).elim
  | write y ctx =>
    cases hrun : y.run db ctx with
    | error e =>
      simp only [JournalDb.step, hrun] at hb
      exact (hsame rfl hb).elim
    | ok db' =>
      simp only [JournalDb.step, hrun] at hb
      cases hy : y.batch with
      | some b' =>
        have hmoves : Moves (fun id => id = b') y.phases db db' := (run_advances hy hrun).moves rfl fun _ hp => hp
        rw [hmoves.absent hnone] at hb
        cases hb
      | none =>
        cases y <;> simp only [JournalWrite.batch, reduceCtorEq] at hy
        case createBatch req given =>
          simp only [JournalWrite.run, map_eq_ok, Prod.exists, exists_eq_right] at hrun
          obtain ⟨row, hrun⟩ := hrun
          obtain ⟨-, ⟨rfl, -⟩ | ⟨rfl, rfl, -, -⟩⟩ := createBatch_ok hrun
          · exact (hsame rfl hb).elim
          · rw [JournalDb.batchRow, findRow_append_one,
              show findRow BatchRow.batchId db.batches id = none from hnone, Option.none_or] at hb
            split at hb
            · cases hb
              exact hK req given hx.2
            · cases hb

theorem continues_after {calls : List (JournalCall Payload)} {db : JournalDb Payload}
    (hcalls : ∀ x ∈ calls, x.Under K L) (hK : ∀ req id, K (.createBatch req id) → Λ req.operationRunId req.operationPhaseId)
    (hkept : OperationsKept db (after JournalDb.step db calls)) : Continues Λ db (after JournalDb.step db calls) := by
  refine ⟨grows_after calls db, hkept, fun id b hnone hb => ?_⟩
  clear hkept
  induction calls generalizing db with
  | nil =>
    rw [after_nil, hnone] at hb
    cases hb
  | cons x calls ih =>
    rw [after_cons] at hb
    cases hstep : (db.step x).batchRow id with
    | none => exact ih (fun y hy => hcalls y (List.mem_cons_of_mem _ hy)) hstep hb
    | some b₁ =>
      -- later calls leave the columns alone that the batch was created with
      obtain ⟨b', hb', hc, -⟩ := (grows_after calls (db.step x)).row id b₁ hstep
      obtain rfl : b' = b := Option.some.inj (hb'.symm.trans hb)
      rw [BatchRow.column_eq (f := BatchRow.operationRunId) (fun _ => rfl) hc,
        BatchRow.column_eq (f := BatchRow.operationPhaseId) (fun _ => rfl) hc]
      exact linked_step (hcalls x List.mem_cons_self) hK hnone hstep

theorem Quiet.continues {w w' : World φ} (h : Quiet K L w w')
    (hK : ∀ req id, K (.createBatch req id) → Λ req.operationRunId req.operationPhaseId) :
    Continues Λ w.journal w'.journal := by
  obtain ⟨calls, hcalls, hj⟩ := h.journal
  have hkept := h.operations
  rw [hj] at hkept ⊢
  exact continues_after hcalls hK hkept

theorem Mutates.continues {w w' : World φ} (h : Mutates c w w') (hc : Λ c.operationRunId c.operationPhaseId) :
    Continues Λ w.journal w'.journal := by
  refine Quiet.continues (w := { w with history := w'.history }) h fun req id hreq => ?_
  rw [hreq.1, hreq.2]
  exact hc

end Calls

end SafeFsOps
