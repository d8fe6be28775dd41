import SafeFsOps.Runs
import SafeFsOps.WorkspaceState.LeaseFencing
import SafeFsOps.OperationJournal.Actions

/-!
# The journal as a state machine

A run of the journal is a list of calls, by anyone and in any order: the calls
on `LeaseStore`, every write of the journal under whatever lease record and
clock sample its caller has, and arbitrary changes to the tables of operation
runs, which the journal's batches only read. `step` is one call: a transaction
that raises leaves the database as it was.
-/

namespace SafeFsOps

variable {π : Type}

/-- A write of the journal with its own arguments. -/
inductive JournalWrite (π : Type) where
  | createBatch (req : BatchRequest π) (batchId : Option String)
  | appendOperation (batchId operationType : String) (resourceKey : Option String) (payload : Option π)
      (operationId : Option String)
  | startBatchOperation (batchId operationType : String) (resourceKey : Option String) (payload : Option π)
      (operationId : Option String) (statusPayload : Option π)
  | recordCheckpoint (batchId resourceKey checkpointType : String) (payload : Option π)
      (operationId checkpointId recoveryAttemptId : Option String)
  | markAttempting (batchId : String) (payload : Option π)
  | markSucceeded (batchId : String) (result : Option π)
  | markFailed (batchId error : String) (observedState : Option π)
  | recordRecoveryDesired (batchId : String) (note : RecoveryNote π)
  | startRecovery (batchId : String) (note : RecoveryNote π)
  | recordRecoverySucceeded (batchId : String) (recoveryAttemptId : Option String) (note : RecoveryNote π)
  | recordRecoveryFailed (batchId : String) (recoveryAttemptId : Option String) (note : RecoveryNote π)
  | recordInterruptedRecoveryDesired (batchId : String) (resourceKey : Option String) (note : RecoveryNote π)
  | recordLeaseLostRecoveryDesired (batchId : String) (resourceKey : Option String) (note : RecoveryNote π)
  | recordAbandonedSucceededBatchRecoveryDesired (batch : BatchRow π)
  | recordRecoveryActionPlanned (batchId recoveryAttemptId actionType : String) (resourceKey : Option String)
      (payload : Option π) (actionId actionRecordId : Option String)
  | transitionRecoveryAction (batchId recoveryAttemptId actionId : String) (status : RecoveryActionStatus)
      (reason : Option String) (payload : Option π) (actionRecordId : Option String)
  | recordArtifactCleanupPlanned (batchId artifactId : String) (trigger : ArtifactCleanupTrigger)
      (resourceKey : Option String) (payload : Option π) (cleanupRecordId : Option String)
  | transitionArtifactCleanup (batchId artifactId : String) (status : ArtifactCleanupStatus)
      (reason : Option String) (payload : Option π) (cleanupRecordId : Option String)

namespace JournalWrite

/-- The batch a write names; creating a batch names none. -/
def batch : JournalWrite π → Option String
  | createBatch .. => none
  | appendOperation b .. | startBatchOperation b .. | recordCheckpoint b .. | markAttempting b .. => some b
  | markSucceeded b .. | markFailed b .. | recordRecoveryDesired b .. | startRecovery b .. => some b
  | recordRecoverySucceeded b .. | recordRecoveryFailed b .. => some b
  | recordInterruptedRecoveryDesired b .. | recordLeaseLostRecoveryDesired b .. => some b
  | recordAbandonedSucceededBatchRecoveryDesired row => some row.batchId
  | recordRecoveryActionPlanned b .. | transitionRecoveryAction b .. => some b
  | recordArtifactCleanupPlanned b .. | transitionArtifactCleanup b .. => some b

/-- The recovery attempt a write claims to be part of, or to complete. -/
def attempt : JournalWrite π → Option String
  | recordCheckpoint _ _ _ _ _ _ attemptId => attemptId
  | recordRecoverySucceeded _ attemptId _ | recordRecoveryFailed _ attemptId _ => attemptId
  | recordRecoveryActionPlanned _ attemptId .. | transitionRecoveryAction _ attemptId .. => some attemptId
  | _ => none

variable [JournalPayload π] [DecidableEq π]

/-- The body of the write's transaction, its answer left out. -/
def run (db : JournalDb π) (ctx : WriteContext) : JournalWrite π → Except JournalError (JournalDb π)
  | createBatch req batchId => (SafeFsOps.createBatch db req batchId ctx).map Prod.snd
  | appendOperation b op key payload id =>
    (SafeFsOps.appendOperation db b op key payload id ctx).map Prod.snd
  | startBatchOperation b op key payload id status =>
    (SafeFsOps.startBatchOperation db b op key payload id status ctx).map fun r => r.2.2
  | recordCheckpoint b key type payload op id attempt =>
    (SafeFsOps.recordCheckpoint db b key type payload op id attempt ctx).map Prod.snd
  | markAttempting b payload => (SafeFsOps.markAttempting db b payload ctx).map Prod.snd
  | markSucceeded b result => (SafeFsOps.markSucceeded db b result ctx).map Prod.snd
  | markFailed b error observed => (SafeFsOps.markFailed db b error observed ctx).map Prod.snd
  | recordRecoveryDesired b note => (SafeFsOps.recordRecoveryDesired db b note ctx).map Prod.snd
  | startRecovery b note => (SafeFsOps.startRecovery db b note ctx).map fun r => r.2.2
  | recordRecoverySucceeded b attempt note =>
    (SafeFsOps.recordRecoverySucceeded db b attempt note ctx).map Prod.snd
  | recordRecoveryFailed b attempt note =>
    (SafeFsOps.recordRecoveryFailed db b attempt note ctx).map Prod.snd
  | recordInterruptedRecoveryDesired b key note =>
    (SafeFsOps.recordInterruptedRecoveryDesired db b key note ctx).map Prod.snd
  | recordLeaseLostRecoveryDesired b key note =>
    (SafeFsOps.recordLeaseLostRecoveryDesired db b key note ctx).map Prod.snd
  | recordAbandonedSucceededBatchRecoveryDesired row =>
    SafeFsOps.recordAbandonedSucceededBatchRecoveryDesired db row ctx
  | recordRecoveryActionPlanned b attempt type key payload action record =>
    (SafeFsOps.recordRecoveryActionPlanned db b attempt type key payload action record ctx).map Prod.snd
  | transitionRecoveryAction b attempt action status reason payload record =>
    (SafeFsOps.transitionRecoveryAction db b attempt action status reason payload record ctx).map Prod.snd
  | recordArtifactCleanupPlanned b artifact trigger key payload record =>
    (SafeFsOps.recordArtifactCleanupPlanned db b artifact trigger key payload record ctx).map Prod.snd
  | transitionArtifactCleanup b artifact status reason payload record =>
    (SafeFsOps.transitionArtifactCleanup db b artifact status reason payload record ctx).map Prod.snd

end JournalWrite

/-- What a call on `LeaseStore` leaves of the table. -/
def LeaseCall.run (t : LeaseTable) : LeaseCall → LeaseTable
  | .acquire name owner ttl token generated now =>
    match SafeFsOps.acquire t name owner ttl token generated now with
    | .ok (_, t') => t'
    | .error _ => t
  | .heartbeat lease ttl now =>
    match SafeFsOps.heartbeat t lease ttl now with
    | .ok (_, t') => t'
    | .error _ => t
  | .release lease generated now => (releaseLease t lease generated now).2

/-- A call on the database of leases and journal. -/
inductive JournalCall (π : Type) where
  | lease (c : LeaseCall)
  | operationRuns (runs : List (OperationRunRow π)) (phases : List (OperationPhaseRow π))
  | write (w : JournalWrite π) (ctx : WriteContext)

/-- One call; a transaction that raises changes nothing. -/
def JournalDb.step [JournalPayload π] [DecidableEq π] (db : JournalDb π) : JournalCall π → JournalDb π
  | .lease c => { db with leases := c.run db.leases }
  | .operationRuns runs phases => { db with operationRuns := runs, operationPhases := phases }
  | .write w ctx =>
    match w.run db ctx with
    | .ok db' => db'
    | .error _ => db

/-! ## Leases only move on -/

/-- A lease row never goes away and its fencing token never falls. -/
theorem LeaseCall.run_fencing (t : LeaseTable) (c : LeaseCall) (name : String) (row : LeaseRow)
    (h : t name = some row) :
    ∃ row', c.run t name = some row' ∧ row.fencingToken ≤ row'.fencingToken := by
  -- a row put over the old one of its name, not below it
  have keep : ∀ {n : String} {old new : LeaseRow}, t n = some old → old.fencingToken ≤ new.fencingToken →
      ∃ row', t.set n new name = some row' ∧ row.fencingToken ≤ row'.fencingToken := by
    intro n old new hold hle
    by_cases hn : name = n
    · subst hn
      rw [h] at hold
      cases hold
      exact ⟨new, LeaseTable.set_self _ _ _, hle⟩
    · exact ⟨row, by rw [LeaseTable.set_ne _ _ hn]; exact h, Nat.le_refl _⟩
  cases c with
  | acquire n owner ttl token generated now =>
    simp only [LeaseCall.run]
    cases hacq : SafeFsOps.acquire t n owner ttl token generated now with
    | error e => exact ⟨row, h, Nat.le_refl _⟩
    | ok answer =>
      obtain ⟨lease, t'⟩ := answer
      cases hg : lease.acquired with
      | false =>
        obtain ⟨rfl, -⟩ := acquire_refused hacq hg
        exact ⟨row, h, Nat.le_refl _⟩
      | true =>
        obtain ⟨new, -, rfl, -, -, -, hrow⟩ := acquire_acquired hacq hg
        rcases hrow with ⟨hnone, -⟩ | ⟨old, hold, -, hnext⟩
        -- a name without a row is not this one
        · have hn : name ≠ n := by
            intro hn
            rw [← hn, h] at hnone
            cases hnone
          exact ⟨row, (LeaseTable.set_ne t new hn).trans h, Nat.le_refl _⟩
        · exact keep hold (by omega)
  | heartbeat lease ttl now =>
    simp only [LeaseCall.run]
    cases hbeat : SafeFsOps.heartbeat t lease ttl now with
    | error e => exact ⟨row, h, Nat.le_refl _⟩
    | ok answer =>
      obtain ⟨answer, t'⟩ := answer
      cases answer with
      | none =>
        obtain ⟨-, rfl⟩ := heartbeat_none hbeat
        exact ⟨row, h, Nat.le_refl _⟩
      | some renewed =>
        obtain ⟨old, new, hold, -, rfl, -, -, hf, -⟩ := heartbeat_some hbeat
        exact keep (rowMatches_eq_some.1 hold).1 (by omega)
  | release lease generated now =>
    simp only [LeaseCall.run]
    cases hrel : releaseLease t lease generated now with
    | mk released t' =>
    cases released with
    | false =>
      obtain ⟨-, rfl⟩ := releaseLease_false hrel
      exact ⟨row, h, Nat.le_refl _⟩
    | true =>
      obtain ⟨old, hold, rfl⟩ := releaseLease_true hrel
      exact keep (rowMatches_eq_some.1 hold).1 (Nat.le_refl _)

end SafeFsOps
