import SafeFsOps.OperationJournal.Writes
import SafeFsOps.OperationJournal.OperationRuns

/-!
# The status of a run and of a phase

Runs and phases are written by three modules of the source: by updates, which want
the very lease the run was created under, by terminal diagnostics, for which a newer
one will do, and by creations; batches are linked to them as they are created, and
read their status then. `OperationCall` puts these calls next to those on leases and
to all other writes of the journal, in any order and by anyone.

> `operation_status_machine`: a status only moves along `StatusEdge`, in a row that
> keeps all else but its time stamp; `failed` and `finalization_failed` are for good; a
> call that is rejected changes nothing; and a batch has the links it was created with,
> to a run and a phase that were active then and belong to each other and to the batch.
-/

namespace SafeFsOps

variable {π : Type}

/-! ## The calls -/

/-- A write to the tables of runs and phases, with its own arguments. -/
inductive OperationWrite (π : Type) where
  | createOperationRun (runId owner status : String) (payload : Option π) (operationRunId : Option String)
  | createOperationPhase (operationRunId phaseName status : String) (phaseOrder : Nat) (payload : Option π)
      (operationPhaseId : Option String)
  | updateOperationRunStatus (operationRunId status : String)
  | updateOperationPhaseStatus (operationPhaseId status : String)
  | recordOperationRunTerminalDiagnostic (operationRunId status : String)
  | recordOperationPhaseTerminalDiagnostic (operationPhaseId status : String)

/-- `require_terminal_diagnostic_status`. -/
def requireTerminalDiagnosticStatus (status kind : String) : Except JournalError Unit :=
  require (status ∈ ["failed", "finalization_failed"])
    (.valueError (kind ++ " terminal diagnostic status must be 'failed' or 'finalization_failed'"))

namespace OperationWrite

/-- A terminal diagnostic rather than an update. -/
def isDiagnostic : OperationWrite π → Bool
  | recordOperationRunTerminalDiagnostic .. | recordOperationPhaseTerminalDiagnostic .. => true
  | _ => false

/-- The method of `JournalOperationRunMixin`, its answer left out. -/
def run [JournalPayload π] [DecidableEq π] (db : JournalDb π) (ctx : WriteContext) :
    OperationWrite π → Except JournalError (JournalDb π)
  | createOperationRun runId owner status payload id =>
    (SafeFsOps.createOperationRun db runId owner status (payloadToJson payload) id ctx).map Prod.snd
  | createOperationPhase runId name status order payload id =>
    (SafeFsOps.createOperationPhase db runId name status order (payloadToJson payload) id ctx).map Prod.snd
  | updateOperationRunStatus id status => do
    validateRequired "operation_run_id" id
    validateRequired "status" status
    (SafeFsOps.updateOperationRunStatus db id status ctx).map Prod.snd
  | updateOperationPhaseStatus id status => do
    validateRequired "operation_phase_id" id
    validateRequired "status" status
    (SafeFsOps.updateOperationPhaseStatus db id status ctx).map Prod.snd
  | recordOperationRunTerminalDiagnostic id status => do
    requireTerminalDiagnosticStatus status "operation run"
    (SafeFsOps.recordOperationRunTerminalDiagnostic db id status ctx).map Prod.snd
  | recordOperationPhaseTerminalDiagnostic id status => do
    requireTerminalDiagnosticStatus status "operation phase"
    (SafeFsOps.recordOperationPhaseTerminalDiagnostic db id status ctx).map Prod.snd

end OperationWrite

/-- A call on the database of leases, runs, phases and batches. -/
inductive OperationCall (π : Type) where
  | lease (c : LeaseCall)
  | operation (o : OperationWrite π) (ctx : WriteContext)
  | write (w : JournalWrite π) (ctx : WriteContext)

/-- The call is a terminal diagnostic. -/
def OperationCall.isDiagnostic : OperationCall π → Bool
  | .operation o _ => o.isDiagnostic
  | _ => false

/-- What the call's transaction leaves, or what it raises. -/
def OperationCall.run [JournalPayload π] [DecidableEq π] (db : JournalDb π) :
    OperationCall π → Except JournalError (JournalDb π)
  | .lease c => .ok { db with leases := c.run db.leases }
  | .operation o ctx => o.run db ctx
  | .write w ctx => w.run db ctx

/-- One call; a transaction that raises changes nothing. -/
def JournalDb.operate [JournalPayload π] [DecidableEq π] (db : JournalDb π) (c : OperationCall π) : JournalDb π :=
  match c.run db with
  | .ok db' => db'
  | .error _ => db

/-! ## The edges -/

/-- Where a status can go, and whether a terminal diagnostic takes it there. -/
inductive StatusEdge : Bool → String → String → Prop where
  | succeeded : StatusEdge false "active" "succeeded"
  | failed (diagnostic : Bool) : StatusEdge diagnostic "active" "failed"
  | finalizationFailed (diagnostic : Bool) : StatusEdge diagnostic "active" "finalization_failed"
  | afterSuccess : StatusEdge true "succeeded" "finalization_failed"

/-- Nothing leads on from a failure. -/
theorem StatusEdge.not_failure {d : Bool} {s s' : String} (h : StatusEdge d s s') :
    s ∉ ["failed", "finalization_failed"] := by
  cases h <;> decide

/-- The run is as it was, or its status has moved, and nothing else but the time stamp. -/
def OperationRunRow.Moves (d : Bool) (r r' : OperationRunRow π) : Prop :=
  r' = r ∨ StatusEdge d r.status r'.status ∧ r' = { r with status := r'.status, updatedAt := r'.updatedAt }

/-- The phase is as it was, or its status has moved, and nothing else but the time stamp. -/
def OperationPhaseRow.Moves (d : Bool) (r r' : OperationPhaseRow π) : Prop :=
  r' = r ∨ StatusEdge d r.status r'.status ∧ r' = { r with status := r'.status, updatedAt := r'.updatedAt }

theorem edge_of_update {s s' kind : String} {u : Unit} (h : requireOperationStatusTransition s s' kind = .ok u) :
    s = s' ∨ StatusEdge false s s' := by
  rw [requireOperationStatusTransition, require_eq_ok] at h
  rcases h with h | ⟨rfl, h⟩
  · exact Or.inl h
  · refine Or.inr ?_
    rcases List.mem_cons.1 h with rfl | h
    · exact .succeeded
    · rcases List.mem_cons.1 h with rfl | h
      · exact .failed false
      · rw [List.mem_singleton.1 h]
        exact .finalizationFailed false

theorem edge_of_diagnostic {s s' kind : String} {u : Unit}
    (h : requireTerminalDiagnosticTransition s s' kind = .ok u) : s = s' ∨ StatusEdge true s s' := by
  rw [requireTerminalDiagnosticTransition, require_eq_ok] at h
  rcases h with h | ⟨rfl, rfl⟩ | ⟨rfl, h⟩
  · exact Or.inl h
  · exact Or.inr (.failed true)
  · refine Or.inr ?_
    rcases List.mem_cons.1 h with rfl | h
    · exact .finalizationFailed true
    · rw [List.mem_singleton.1 h]
      exact .afterSuccess

/-! ## What one call does to runs and phases -/

/-- Every run and phase of `db` is there in `db'`, at most moved along an edge. -/
structure StatusesMove (d : Bool) (db db' : JournalDb π) : Prop where
  runs : RowsKept OperationRunRow.operationRunId (OperationRunRow.Moves d) db.operationRuns db'.operationRuns
  phases : RowsKept OperationPhaseRow.operationPhaseId (OperationPhaseRow.Moves d) db.operationPhases
    db'.operationPhases

section Statuses

variable {d : Bool} {db db' : JournalDb π} {ctx : WriteContext} {id status : String}

theorem OperationRunRow.Moves.refl (r : OperationRunRow π) : r.Moves d r := Or.inl rfl
theorem OperationPhaseRow.Moves.refl (r : OperationPhaseRow π) : r.Moves d r := Or.inl rfl

theorem StatusesMove.of_eq (hruns : db'.operationRuns = db.operationRuns)
    (hphases : db'.operationPhases = db.operationPhases) : StatusesMove d db db' where
  runs := by
    rw [hruns]
    exact RowsKept.refl OperationRunRow.Moves.refl
  phases := by
    rw [hphases]
    exact RowsKept.refl OperationPhaseRow.Moves.refl

/-- A phase's id is its primary key. -/
def DistinctPhases (db : JournalDb π) : Prop := (db.operationPhases.map OperationPhaseRow.operationPhaseId).Nodup

/-- Statuses move, and ids stay distinct. -/
structure OperationsMove (d : Bool) (db db' : JournalDb π) : Prop extends StatusesMove d db db' where
  distinct : DistinctPhases db → DistinctPhases db'

theorem OperationsMove.of_eq (hruns : db'.operationRuns = db.operationRuns)
    (hphases : db'.operationPhases = db.operationPhases) : OperationsMove d db db' := by
  refine ⟨StatusesMove.of_eq hruns hphases, fun h => ?_⟩
  unfold DistinctPhases
  rw [hphases]
  exact h

theorem setRunStatus_moves {row : OperationRunRow π} {now : DateTime} (hrow : db.operationRunRow id = some row)
    (hedge : row.status = status ∨ StatusEdge d row.status status) :
    OperationsMove d db (db.setRunStatus row status now).2 := by
  have hid : row.operationRunId = id := findRow_key hrow
  unfold JournalDb.setRunStatus
  split
  · exact OperationsMove.of_eq rfl rfl
  · next hne =>
    refine ⟨⟨?_, RowsKept.refl OperationPhaseRow.Moves.refl⟩, fun h => h⟩
    refine RowsKept.update OperationRunRow.Moves.refl (fun _ => rfl) fun r hr => Or.inr ⟨?_, rfl⟩
    have heq : r = row := by
      rw [hid] at hr
      exact Option.some.inj (hr.symm.trans hrow)
    rw [heq]
    exact hedge.resolve_left hne

theorem setPhaseStatus_moves {row : OperationPhaseRow π} {now : DateTime}
    (hrow : db.operationPhaseRow id = some row) (hedge : row.status = status ∨ StatusEdge d row.status status) :
    OperationsMove d db (db.setPhaseStatus row status now).2 := by
  have hid : row.operationPhaseId = id := findRow_key hrow
  unfold JournalDb.setPhaseStatus
  split
  · exact OperationsMove.of_eq rfl rfl
  · next hne =>
    refine ⟨⟨RowsKept.refl OperationRunRow.Moves.refl, ?_⟩, fun h => ?_⟩
    · refine RowsKept.update OperationPhaseRow.Moves.refl (fun _ => rfl) fun r hr => Or.inr ⟨?_, rfl⟩
      have heq : r = row := by
        rw [hid] at hr
        exact Option.some.inj (hr.symm.trans hrow)
      rw [heq]
      exact hedge.resolve_left hne
    · unfold DistinctPhases
      have hkeys : (updateRow OperationPhaseRow.operationPhaseId db.operationPhases row.operationPhaseId
          fun r => { r with status := status, updatedAt := now }).map OperationPhaseRow.operationPhaseId =
            db.operationPhases.map OperationPhaseRow.operationPhaseId := by
        refine map_key_updateRow ?_ _ _
        exact fun _ => rfl
      rw [hkeys]
      exact h

theorem requireRunForWrite_row {lease : LeaseRecord} {row : OperationRunRow π}
    (h : requireOperationRunForWrite db id lease = .ok row) : db.operationRunRow id = some row := by
  unfold requireOperationRunForWrite at h
  cases hrow : db.operationRunRow id with
  | none => rw [hrow] at h; cases h
  | some r =>
    simp only [hrow, bind_eq_ok, pure_eq_ok] at h
    obtain ⟨_, -, _, -, rfl⟩ := h
    rfl

theorem requireRunForDiagnostic_row {lease : LeaseRecord} {row : OperationRunRow π}
    (h : requireOperationRunForTerminalDiagnostic db id lease = .ok row) : db.operationRunRow id = some row := by
  unfold requireOperationRunForTerminalDiagnostic at h
  cases hrow : db.operationRunRow id with
  | none => rw [hrow] at h; cases h
  | some r =>
    simp only [hrow, bind_eq_ok, pure_eq_ok] at h
    obtain ⟨_, -, _, -, rfl⟩ := h
    rfl

theorem updateRunInConnection_moves {row : OperationRunRow π}
    (h : updateOperationRunStatusInConnection db id status ctx = .ok (row, db')) : OperationsMove false db db' := by
  simp only [updateOperationRunStatusInConnection, bind_eq_ok, pure_eq_ok] at h
  obtain ⟨old, hold, _, htransition, h⟩ := h
  have hdb : (db.setRunStatus old status ctx.now).2 = db' := congrArg Prod.snd h
  rw [← hdb]
  exact setRunStatus_moves (requireRunForWrite_row hold) (edge_of_update htransition)

theorem updatePhaseInConnection_moves {row : OperationPhaseRow π}
    (h : updateOperationPhaseStatusInConnection db id status ctx = .ok (row, db')) : OperationsMove false db db' := by
  unfold updateOperationPhaseStatusInConnection at h
  cases hold : db.operationPhaseRow id with
  | none => rw [hold] at h; cases h
  | some old =>
    simp only [hold, bind_eq_ok, pure_eq_ok] at h
    obtain ⟨_, -, _, htransition, h⟩ := h
    have hdb : (db.setPhaseStatus old status ctx.now).2 = db' := congrArg Prod.snd h
    rw [← hdb]
    exact setPhaseStatus_moves hold (edge_of_update htransition)

theorem updateRun_moves {row : OperationRunRow π} (h : updateOperationRunStatus db id status ctx = .ok (row, db')) :
    OperationsMove false db db' := by
  simp only [updateOperationRunStatus, bind_eq_ok] at h
  obtain ⟨_, -, h⟩ := h
  exact updateRunInConnection_moves h

theorem updatePhase_moves {row : OperationPhaseRow π}
    (h : updateOperationPhaseStatus db id status ctx = .ok (row, db')) : OperationsMove false db db' := by
  simp only [updateOperationPhaseStatus, bind_eq_ok] at h
  obtain ⟨_, -, h⟩ := h
  exact updatePhaseInConnection_moves h

theorem runDiagnostic_moves {row : OperationRunRow π}
    (h : recordOperationRunTerminalDiagnostic db id status ctx = .ok (row, db')) : OperationsMove true db db' := by
  simp only [recordOperationRunTerminalDiagnostic, bind_eq_ok, pure_eq_ok] at h
  obtain ⟨_, -, old, hold, _, htransition, h⟩ := h
  have hdb : (db.setRunStatus old status ctx.now).2 = db' := congrArg Prod.snd h
  rw [← hdb]
  exact setRunStatus_moves (requireRunForDiagnostic_row hold) (edge_of_diagnostic htransition)

theorem phaseDiagnostic_moves {row : OperationPhaseRow π}
    (h : recordOperationPhaseTerminalDiagnostic db id status ctx = .ok (row, db')) : OperationsMove true db db' := by
  simp only [recordOperationPhaseTerminalDiagnostic, bind_eq_ok] at h
  obtain ⟨_, -, h⟩ := h
  cases hold : db.operationPhaseRow id with
  | none => rw [hold] at h; cases h
  | some old =>
    simp only [hold, bind_eq_ok, pure_eq_ok] at h
    obtain ⟨_, -, _, htransition, h⟩ := h
    have hdb : (db.setPhaseStatus old status ctx.now).2 = db' := congrArg Prod.snd h
    rw [← hdb]
    exact setPhaseStatus_moves hold (edge_of_diagnostic htransition)

variable [DecidableEq π]

theorem createOperationRun_moves {runId owner : String} {payload : π} {given : Option String}
    {row : OperationRunRow π} (h : createOperationRun db runId owner status payload given ctx = .ok (row, db')) :
    OperationsMove d db db' := by
  simp only [createOperationRun, bind_eq_ok] at h
  obtain ⟨_, -, _, -, _, -, _, -, h⟩ := h
  split at h
  · simp only [bind_eq_ok, pure_eq_ok, Prod.mk.injEq] at h
    obtain ⟨_, -, -, rfl⟩ := h
    exact OperationsMove.of_eq rfl rfl
  · simp only [bind_eq_ok, pure_eq_ok, Prod.mk.injEq] at h
    obtain ⟨_, -, -, rfl⟩ := h
    exact ⟨⟨RowsKept.append_one OperationRunRow.Moves.refl _, RowsKept.refl OperationPhaseRow.Moves.refl⟩, fun h => h⟩

theorem createOperationPhase_moves {name : String} {order : Nat} {payload : π} {given : Option String}
    {row : OperationPhaseRow π} (h : createOperationPhase db id name status order payload given ctx = .ok (row, db')) :
    OperationsMove d db db' := by
  simp only [createOperationPhase, bind_eq_ok] at h
  obtain ⟨_, -, _, -, _, -, _, -, _, -, h⟩ := h
  split at h
  · simp only [bind_eq_ok, pure_eq_ok, Prod.mk.injEq] at h
    obtain ⟨_, -, -, rfl⟩ := h
    exact OperationsMove.of_eq rfl rfl
  · simp only [bind_eq_ok, pure_eq_ok, Prod.mk.injEq] at h
    obtain ⟨_, hfree, -, rfl⟩ := h
    refine ⟨⟨RowsKept.refl OperationRunRow.Moves.refl, RowsKept.append_one OperationPhaseRow.Moves.refl _⟩, fun h => ?_⟩
    exact nodup_append_one h (requireFreePhaseId_ok hfree)

variable [JournalPayload π]

/-- Every write to runs and phases moves statuses along the edges only. -/
theorem OperationWrite.run_moves {o : OperationWrite π} (h : o.run db ctx = .ok db') :
    OperationsMove o.isDiagnostic db db' := by
  cases o <;> simp only [OperationWrite.run, bind_eq_ok, map_eq_ok, Prod.exists, exists_eq_right] at h
  case createOperationRun =>
    obtain ⟨_, h⟩ := h
    exact createOperationRun_moves h
  case createOperationPhase =>
    obtain ⟨_, h⟩ := h
    exact createOperationPhase_moves h
  case updateOperationRunStatus =>
    obtain ⟨_, -, _, -, _, h⟩ := h
    exact updateRun_moves h
  case updateOperationPhaseStatus =>
    obtain ⟨_, -, _, -, _, h⟩ := h
    exact updatePhase_moves h
  case recordOperationRunTerminalDiagnostic =>
    obtain ⟨_, -, _, h⟩ := h
    exact runDiagnostic_moves h
  case recordOperationPhaseTerminalDiagnostic =>
    obtain ⟨_, -, _, h⟩ := h
    exact phaseDiagnostic_moves h

/-- They leave leases and batches alone. -/
theorem OperationWrite.run_only {o : OperationWrite π} (h : o.run db ctx = .ok db') :
    OnlyOperationRuns db db' := by
  cases o <;> simp only [OperationWrite.run, bind_eq_ok, map_eq_ok, Prod.exists, exists_eq_right] at h
  case createOperationRun =>
    obtain ⟨_, h⟩ := h
    exact createOperationRun_only h
  case createOperationPhase =>
    obtain ⟨_, h⟩ := h
    exact createOperationPhase_only h
  case updateOperationRunStatus =>
    obtain ⟨_, -, _, -, _, h⟩ := h
    exact updateRun_only h
  case updateOperationPhaseStatus =>
    obtain ⟨_, -, _, -, _, h⟩ := h
    exact updatePhase_only h
  case recordOperationRunTerminalDiagnostic =>
    obtain ⟨_, -, _, h⟩ := h
    exact runDiagnostic_only h
  case recordOperationPhaseTerminalDiagnostic =>
    obtain ⟨_, -, _, h⟩ := h
    exact phaseDiagnostic_only h

end Statuses

/-! ## Rows over many writes -/

/-- The statuses a run or a phase ends with. -/
def terminalStatuses : List String := ["succeeded", "failed", "finalization_failed"]

/-- Where a status may be after any number of writes: nothing leads back to `active`. -/
def StatusLeads (s s' : String) : Prop := s' = s ∨ s ∈ ["active", "succeeded"] ∧ s' ∈ terminalStatuses

theorem StatusLeads.trans {s s' s'' : String} (h : StatusLeads s s') (h' : StatusLeads s' s'') : StatusLeads s s'' := by
  rcases h' with rfl | ⟨hs', hend⟩
  · exact h
  · rcases h with rfl | ⟨hs, -⟩
    · exact Or.inr ⟨hs', hend⟩
    · exact Or.inr ⟨hs, hend⟩

theorem StatusEdge.leads {d : Bool} {s s' : String} (h : StatusEdge d s s') : StatusLeads s s' := by
  refine Or.inr ?_
  cases h <;> decide

/-- An end leads to an end. -/
theorem StatusLeads.terminal {s s' : String} (h : StatusLeads s s') (hs : s ∈ terminalStatuses) : s' ∈ terminalStatuses := by
  rcases h with rfl | ⟨-, hend⟩
  · exact hs
  · exact hend

/-- The run is the one it was: its status has moved on, if anything. -/
def OperationRunRow.Kept (r r' : OperationRunRow π) : Prop :=
  StatusLeads r.status r'.status ∧ r' = { r with status := r'.status, updatedAt := r'.updatedAt }

/-- The phase is the one it was. -/
def OperationPhaseRow.Kept (r r' : OperationPhaseRow π) : Prop :=
  StatusLeads r.status r'.status ∧ r' = { r with status := r'.status, updatedAt := r'.updatedAt }

/-- Every run and phase of `db` is there in `db'`, and is the one it was. -/
structure OperationsKept (db db' : JournalDb π) : Prop where
  runs : RowsKept OperationRunRow.operationRunId OperationRunRow.Kept db.operationRuns db'.operationRuns
  phases : RowsKept OperationPhaseRow.operationPhaseId OperationPhaseRow.Kept db.operationPhases db'.operationPhases
  distinct : DistinctPhases db → DistinctPhases db'

section OperationsKept

variable {d : Bool} {db db₁ db₂ : JournalDb π}

theorem OperationRunRow.Kept.trans {r r' r'' : OperationRunRow π} (h : r.Kept r') (h' : r'.Kept r'') : r.Kept r'' := by
  refine ⟨h.1.trans h'.1, ?_⟩
  rw [h'.2, h.2]

theorem OperationPhaseRow.Kept.trans {r r' r'' : OperationPhaseRow π} (h : r.Kept r') (h' : r'.Kept r'') :
    r.Kept r'' := by
  refine ⟨h.1.trans h'.1, ?_⟩
  rw [h'.2, h.2]

theorem OperationsKept.of_eq (hruns : db₁.operationRuns = db.operationRuns)
    (hphases : db₁.operationPhases = db.operationPhases) : OperationsKept db db₁ := by
  refine ⟨?_, ?_, fun h => ?_⟩
  · rw [hruns]
    exact RowsKept.refl fun _ => ⟨Or.inl rfl, rfl⟩
  · rw [hphases]
    exact RowsKept.refl fun _ => ⟨Or.inl rfl, rfl⟩
  · unfold DistinctPhases
    rw [hphases]
    exact h

theorem OperationsKept.refl : OperationsKept db db := OperationsKept.of_eq rfl rfl

theorem OperationsKept.trans (h : OperationsKept db db₁) (h' : OperationsKept db₁ db₂) : OperationsKept db db₂ where
  runs := h.runs.trans OperationRunRow.Kept.trans h'.runs
  phases := h.phases.trans OperationPhaseRow.Kept.trans h'.phases
  distinct hdb := h'.distinct (h.distinct hdb)

theorem OperationsMove.kept (h : OperationsMove d db db₁) : OperationsKept db db₁ where
  distinct := h.distinct
  runs := by
    refine h.runs.imp fun r r' hmoves => ?_
    rcases hmoves with rfl | ⟨hedge, heq⟩
    · exact ⟨Or.inl rfl, rfl⟩
    · exact ⟨hedge.leads, heq⟩
  phases := by
    refine h.phases.imp fun r r' hmoves => ?_
    rcases hmoves with rfl | ⟨hedge, heq⟩
    · exact ⟨Or.inl rfl, rfl⟩
    · exact ⟨hedge.leads, heq⟩

end OperationsKept

/-! ## Links -/

/-- The run and the phase a batch is linked to are there and active, and belong to the
batch and to each other; a phase is linked only together with its run. -/
def ActiveLinks (db : JournalDb π) (batch : BatchRow π) : Prop :=
  (batch.operationRunId = none → batch.operationPhaseId = none) ∧
  ∀ runId, batch.operationRunId = some runId →
    (∃ run, db.operationRunRow runId = some run ∧ run.runId = batch.runId ∧ run.owner = batch.owner ∧
      run.status = "active") ∧
    ∀ phaseId, batch.operationPhaseId = some phaseId →
      ∃ phase, db.operationPhaseRow phaseId = some phase ∧ phase.operationRunId = runId ∧ phase.status = "active"

section Links

variable {db db' : JournalDb π} {ctx : WriteContext}

theorem requireLinkedRow_ok {ρ : Type} {row : Option ρ} {kind id : String} {r : ρ}
    (h : requireLinkedRow row kind id = .ok r) : row = some r := by
  unfold requireLinkedRow at h
  cases row with
  | none => cases h
  | some r' =>
    cases h
    rfl

theorem requireValidBatchOperationLinks_ok {req : BatchRequest π} {batch : BatchRow π} {u : Unit}
    (hrun : batch.operationRunId = req.operationRunId) (hphase : batch.operationPhaseId = req.operationPhaseId)
    (hid : batch.runId = req.runId) (howner : batch.owner = req.owner)
    (h : requireValidBatchOperationLinks db req = .ok u) : ActiveLinks db batch := by
  unfold requireValidBatchOperationLinks at h
  rw [ActiveLinks, hrun, hphase, hid, howner]
  cases hr : req.operationRunId with
  | none =>
    simp only [hr, require_eq_ok] at h
    exact ⟨fun _ => h, fun runId heq => by cases heq⟩
  | some runId =>
    simp only [hr, bind_eq_ok, require_eq_ok, requireActiveOperationLinkStatus] at h
    obtain ⟨run, hfound, _, hrunId, _, hrunOwner, _, hactive, h⟩ := h
    refine ⟨fun heq => (by cases heq), fun runId' heq => ?_⟩
    cases heq
    refine ⟨⟨run, requireLinkedRow_ok hfound, hrunId, hrunOwner, hactive⟩, ?_⟩
    intro phaseId hp
    simp only [hp, bind_eq_ok, require_eq_ok] at h
    obtain ⟨phase, hphaseFound, _, hbelongs, hphaseActive⟩ := h
    exact ⟨phase, requireLinkedRow_ok hphaseFound, hbelongs, hphaseActive⟩

theorem ActiveLinks.congr {batch batch' : BatchRow π} (hc : batch'.created = batch.created)
    (h : ActiveLinks db batch) : ActiveLinks db batch' := by
  rw [ActiveLinks, BatchRow.column_eq (f := BatchRow.operationRunId) (fun _ => rfl) hc,
    BatchRow.column_eq (f := BatchRow.operationPhaseId) (fun _ => rfl) hc,
    BatchRow.column_eq (f := BatchRow.runId) (fun _ => rfl) hc,
    BatchRow.column_eq (f := BatchRow.owner) (fun _ => rfl) hc]
  exact h

variable [JournalPayload π] [DecidableEq π]

/-- A batch that is created is linked to what is active as it is created. -/
theorem createBatch_links {req : BatchRequest π} {batchId : Option String} {row : BatchRow π}
    (h : createBatch db req batchId ctx = .ok (row, db')) :
    db' = db ∨ db' = { db with batches := db.batches ++ [row] } ∧ db.batchRow row.batchId = none ∧
      ActiveLinks db row := by
  obtain ⟨-, ⟨rfl, -⟩ | ⟨rfl, rfl, hkey, hfree⟩⟩ := createBatch_ok h
  · exact Or.inl rfl
  · refine Or.inr ⟨rfl, hfree, ?_⟩
    simp only [createBatch, hkey, bind_eq_ok] at h
    obtain ⟨_, -, _, -, _, -, _, -, _, hlinks, -⟩ := h
    exact requireValidBatchOperationLinks_ok rfl rfl rfl rfl hlinks

end Links

/-! ## What one call keeps -/

section Kept

variable {db db' : JournalDb π} {ctx : WriteContext}

/-- A failed row of `db` is the same row in `db'`. -/
structure FailuresStand (db db' : JournalDb π) : Prop where
  runs : RowsKept OperationRunRow.operationRunId
    (fun r r' => r.status ∈ ["failed", "finalization_failed"] → r' = r) db.operationRuns db'.operationRuns
  phases : RowsKept OperationPhaseRow.operationPhaseId
    (fun r r' => r.status ∈ ["failed", "finalization_failed"] → r' = r) db.operationPhases db'.operationPhases

theorem FailuresStand.refl (db : JournalDb π) : FailuresStand db db where
  runs := RowsKept.refl fun _ _ => rfl
  phases := RowsKept.refl fun _ _ => rfl

theorem FailuresStand.trans {a b c : JournalDb π} (h : FailuresStand a b) (h' : FailuresStand b c) :
    FailuresStand a c where
  runs := h.runs.trans (fun hab hbc hr => by rw [hbc (hab hr ▸ hr), hab hr]) h'.runs
  phases := h.phases.trans (fun hab hbc hr => by rw [hbc (hab hr ▸ hr), hab hr]) h'.phases

/-- No edge leads on from a failure. -/
theorem StatusesMove.failuresStand {d : Bool} (h : StatusesMove d db db') : FailuresStand db db' where
  runs := h.runs.imp fun _ _ hmoves hr => hmoves.resolve_right fun hedge => hedge.1.not_failure hr
  phases := h.phases.imp fun _ _ hmoves hr => hmoves.resolve_right fun hedge => hedge.1.not_failure hr

/-- A batch before and after: the columns written once, its links among them, are the same. -/
def BatchRow.SameCreation (r r' : BatchRow π) : Prop := r'.created = r.created

theorem BatchRow.SameCreation.refl (r : BatchRow π) : r.SameCreation r := rfl

theorem BatchRow.SameCreation.trans {r r' r'' : BatchRow π} (h : r.SameCreation r') (h' : r'.SameCreation r'') :
    r.SameCreation r'' := Eq.trans h' h

/-- The batches of `db` are those of `db'` as they were created, and new ones of `db'`
have active links. -/
structure BatchesKept (db db' : JournalDb π) : Prop where
  kept : RowsKept BatchRow.batchId BatchRow.SameCreation db.batches db'.batches
  linked : ∀ b row, db.batchRow b = none → db'.batchRow b = some row → ActiveLinks db row

theorem BatchesKept.of_eq (h : db'.batches = db.batches) : BatchesKept db db' where
  kept := by
    rw [h]
    exact RowsKept.refl BatchRow.SameCreation.refl
  linked := by
    intro b row hnone hrow
    rw [JournalDb.batchRow, h] at hrow
    rw [JournalDb.batchRow, hrow] at hnone
    cases hnone

theorem Advances.batchesKept {L : LeaseRecord} {P : List BatchPhase} {b : String} (h : Advances L P b db db') :
    BatchesKept db db' where
  kept := by
    intro b' r hr
    by_cases hb : b' = b
    · subst hb
      obtain ⟨r', hr', hc, -⟩ := h.row r hr
      exact ⟨r', hr', hc⟩
    · exact ⟨r, (h.other b' hb).trans hr, rfl⟩
  linked := by
    intro b' row hnone hrow
    by_cases hb : b' = b
    · subst hb
      rw [h.absent hnone] at hrow
      cases hrow
    · rw [h.other b' hb, hnone] at hrow
      cases hrow

/-- The records of a batch are not runs or phases. -/
theorem Writes.operationRuns {W : Bool} {K : List RecordTable} {b : String} {last : Option RecordTable}
    (h : Writes ctx W K b db last db') :
    db'.operationRuns = db.operationRuns ∧ db'.operationPhases = db.operationPhases := by
  induction h with
  | refl => exact ⟨rfl, rfl⟩
  | update _ _ _ _ ih => exact ih
  | insert T _ _ _ _ _ _ ih => cases T <;> exact ih

variable [JournalPayload π] [DecidableEq π] {w : JournalWrite π}

/-- The writes of the journal leave runs and phases alone. -/
theorem run_operationRuns (h : w.run db ctx = .ok db') :
    db'.operationRuns = db.operationRuns ∧ db'.operationPhases = db.operationPhases := by
  cases hb : w.batch with
  | none =>
    obtain ⟨-, rfl | ⟨_, _, rfl, -⟩⟩ := run_create hb h
    · exact ⟨rfl, rfl⟩
    · exact ⟨rfl, rfl⟩
  | some b =>
    rcases run_writes hb h with hw | rfl
    · exact hw.operationRuns
    · exact ⟨rfl, rfl⟩

theorem run_operationsKept (h : w.run db ctx = .ok db') : OperationsKept db db' :=
  OperationsKept.of_eq (run_operationRuns h).1 (run_operationRuns h).2

theorem run_batchesKept (h : w.run db ctx = .ok db') : BatchesKept db db' := by
  cases hb : w.batch with
  | some b => exact (run_advances hb h).batchesKept
  | none =>
    cases w <;> simp only [JournalWrite.batch, reduceCtorEq] at hb
    case createBatch req given =>
      simp only [JournalWrite.run, map_eq_ok, Prod.exists, exists_eq_right] at h
      obtain ⟨row, h⟩ := h
      obtain rfl | ⟨rfl, -, hlinks⟩ := createBatch_links h
      · exact BatchesKept.of_eq rfl
      · refine ⟨RowsKept.append_one BatchRow.SameCreation.refl row, fun b r hnone hr => ?_⟩
        rw [JournalDb.batchRow, findRow_append_one, show findRow BatchRow.batchId db.batches b = none from hnone] at hr
        by_cases hrow : row.batchId = b
        · rw [if_pos hrow] at hr
          cases hr
          exact hlinks
        · rw [if_neg hrow] at hr
          cases hr

/-- One call moves statuses along the edges only. -/
theorem operate_moves (db : JournalDb π) (c : OperationCall π) :
    StatusesMove c.isDiagnostic db (db.operate c) := by
  rw [JournalDb.operate]
  cases hrun : c.run db with
  | error e => exact StatusesMove.of_eq rfl rfl
  | ok db' =>
    cases c with
    | lease c =>
      cases hrun
      exact StatusesMove.of_eq rfl rfl
    | operation o ctx => exact (OperationWrite.run_moves hrun).toStatusesMove
    | write w ctx =>
      obtain ⟨hruns, hphases⟩ := run_operationRuns (w := w) hrun
      exact StatusesMove.of_eq hruns hphases

theorem operate_batchesKept (db : JournalDb π) (c : OperationCall π) : BatchesKept db (db.operate c) := by
  rw [JournalDb.operate]
  cases hrun : c.run db with
  | error e => exact BatchesKept.of_eq rfl
  | ok db' =>
    cases c with
    | lease c =>
      cases hrun
      exact BatchesKept.of_eq rfl
    | operation o ctx =>
      have honly : db' = { db with operationRuns := db'.operationRuns, operationPhases := db'.operationPhases } :=
        OperationWrite.run_only hrun
      have hbatches : db'.batches = db.batches := by rw [honly]
      exact BatchesKept.of_eq hbatches
    | write w ctx => exact run_batchesKept (w := w) hrun

end Kept

/-! ## Runs of calls -/

section Machine

variable [JournalPayload π] [DecidableEq π]

/-- A run or phase that failed is the same row after all later calls. -/
theorem failuresStand_after (db : JournalDb π) (calls : List (OperationCall π)) :
    FailuresStand db (after JournalDb.operate db calls) :=
  after_relates FailuresStand.refl FailuresStand.trans (fun a c => (operate_moves a c).failuresStand) calls db

/-- A batch keeps the columns it was created with. -/
theorem batches_after (db : JournalDb π) (calls : List (OperationCall π)) :
    RowsKept BatchRow.batchId BatchRow.SameCreation db.batches (after JournalDb.operate db calls).batches := by
  refine after_relates (R := fun a b => RowsKept BatchRow.batchId BatchRow.SameCreation a.batches b.batches)
    ?_ ?_ ?_ calls db
  · intro a
    exact RowsKept.refl BatchRow.SameCreation.refl
  · intro a b c hab hbc
    exact hab.trans BatchRow.SameCreation.trans hbc
  · intro a c
    exact (operate_batchesKept a c).kept

/-- Every batch was created by one of the calls, with links that were active then. -/
theorem linked_at_creation (calls : List (OperationCall π)) {b : String} {batch : BatchRow π}
    (h : (after JournalDb.operate (JournalDb.init π) calls).batchRow b = some batch) :
    ∃ before creation later, calls = before ++ creation :: later ∧
      (after JournalDb.operate (JournalDb.init π) before).batchRow b = none ∧
      (after JournalDb.operate (JournalDb.init π) (before ++ [creation])).batchRow b ≠ none ∧
      ActiveLinks (after JournalDb.operate (JournalDb.init π) before) batch := by
  induction calls using List.reverseRecOn generalizing batch with
  | nil => cases h
  | append_singleton calls c ih =>
    have hthere : (after JournalDb.operate (JournalDb.init π) (calls ++ [c])).batchRow b ≠ none := by
      rw [h]
      exact Option.some_ne_none batch
    rw [after_append, after_cons, after_nil] at h
    have hstep := operate_batchesKept (after JournalDb.operate (JournalDb.init π) calls) c
    cases hrow : (after JournalDb.operate (JournalDb.init π) calls).batchRow b with
    | none => exact ⟨calls, c, [], rfl, hrow, hthere, hstep.linked b batch hrow h⟩
    | some row =>
      obtain ⟨before, creation, later, hcalls, hnone, hmade, hlinks⟩ := ih hrow
      obtain ⟨row', hrow', hc⟩ := hstep.kept b row hrow
      have heq : row' = batch := Option.some.inj (hrow'.symm.trans h)
      refine ⟨before, creation, later ++ [c], ?_, hnone, hmade, hlinks.congr (heq ▸ hc)⟩
      rw [hcalls, List.append_assoc, List.cons_append]

/-- In every run of calls on leases, runs, phases and batches: one call moves the status of
a run or phase along `StatusEdge` or leaves the row alone; a call that is rejected changes
nothing; rows that failed stay as they are whatever follows; and a batch keeps the links it
was created with, to a run and a phase that belong together and were active just before the
call that created it. -/
theorem operation_status_machine (calls : List (OperationCall π)) :
    let db := after JournalDb.operate (JournalDb.init π) calls
    (∀ c : OperationCall π, StatusesMove c.isDiagnostic db (db.operate c)) ∧
    (∀ (c : OperationCall π) e, c.run db = .error e → db.operate c = db) ∧
    (∀ later, FailuresStand db (after JournalDb.operate db later) ∧
      RowsKept BatchRow.batchId BatchRow.SameCreation db.batches (after JournalDb.operate db later).batches) ∧
    ∀ b batch, db.batchRow b = some batch → ∃ before creation later, calls = before ++ creation :: later ∧
      (after JournalDb.operate (JournalDb.init π) before).batchRow b = none ∧
      (after JournalDb.operate (JournalDb.init π) (before ++ [creation])).batchRow b ≠ none ∧
      ActiveLinks (after JournalDb.operate (JournalDb.init π) before) batch := by
  intro db
  refine ⟨operate_moves db, ?_, fun later => ⟨failuresStand_after db later, batches_after db later⟩, ?_⟩
  · intro c e hrun
    rw [JournalDb.operate, hrun]
  · intro b batch hrow
    exact linked_at_creation calls hrow

end Machine

end SafeFsOps
