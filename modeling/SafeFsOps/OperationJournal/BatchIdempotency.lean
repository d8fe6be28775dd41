import SafeFsOps.Json
import SafeFsOps.OperationJournal.Writes

/-!
# Creating a batch twice

`create_batch` of `operation_journal/journal_batch.py` as its callers call it, with a
mapping for a payload: it is encoded by `_payload_to_json` before the transaction, and
the stored text is what a replay is compared with. So whether two requests are the same
is decided on texts, after any number of other calls, under any later lease of the name.

Three things have to come together:

- `PayloadMapping.text_eq_iff`: two payloads have one text exactly if they are the same JSON
  object, up to the order of members.
- `creations_kept`: what a batch was created with stays in its row, whoever writes to
  it later, and no row goes away.
- `after_distinctKeys`: a key names one row.

> `batch_creation_idempotent`: a replay of the same request answers with the stored row,
> any other request under the key is refused, and the journal is as it was.
-/

namespace SafeFsOps

/-! ## Requests with a mapping for a payload -/

/-- A payload as callers give it: the members of a `dict`, whose keys are distinct, and
those of the dicts in it. -/
structure PayloadMapping where
  members : List (String × Json)
  wellFormed : (Json.obj members).WellFormed

namespace PayloadMapping

/-- `{}`. -/
def empty : PayloadMapping := ⟨[], List.nodup_nil, trivial⟩

/-- The JSON object of a payload, that of an absent one being empty. -/
def object (payload : Option PayloadMapping) : Json := .obj (payload.getD empty).members

/-- `_payload_to_json`. -/
def text (payload : Option PayloadMapping) : String := String.ofList (object payload).dumps

theorem object_wellFormed (payload : Option PayloadMapping) : (object payload).WellFormed :=
  (payload.getD empty).wellFormed

/-- Encoding is neither too coarse nor too fine. -/
theorem text_eq_iff {p q : Option PayloadMapping} : text p = text q ↔ (object p).Same (object q) := by
  rw [← Json.dumps_eq_iff (object_wellFormed p)]
  unfold text
  rw [String.ofList_inj]

/-- An absent payload is stored as the journal's own empty one. -/
example : text none = JournalPayload.empty := by decide +kernel

end PayloadMapping

/-- The request as the transaction sees it, its payload encoded. -/
def BatchRequest.encoded (req : BatchRequest PayloadMapping) : BatchRequest String where
  idempotencyKey := req.idempotencyKey
  owner := req.owner
  runId := req.runId
  operationRunId := req.operationRunId
  operationPhaseId := req.operationPhaseId
  resourceKey := req.resourceKey
  claimOwner := req.claimOwner
  claimScope := req.claimScope
  payload := some (PayloadMapping.text req.payload)

/-- Two requests for one batch: every part agrees, payloads as JSON objects. -/
structure BatchRequest.Same (a b : BatchRequest PayloadMapping) : Prop where
  idempotencyKey : a.idempotencyKey = b.idempotencyKey
  owner : a.owner = b.owner
  runId : a.runId = b.runId
  operationRunId : a.operationRunId = b.operationRunId
  operationPhaseId : a.operationPhaseId = b.operationPhaseId
  resourceKey : a.resourceKey = b.resourceKey
  claimOwner : a.claimOwner = b.claimOwner
  claimScope : a.claimScope = b.claimScope
  payload : (PayloadMapping.object a.payload).Same (PayloadMapping.object b.payload)

/-- The fields `create_batch` wants non-empty. -/
structure BatchRequest.Complete {π : Type} (req : BatchRequest π) : Prop where
  idempotencyKey : req.idempotencyKey ≠ ""
  owner : req.owner ≠ ""
  runId : req.runId ≠ ""

/-- The row has the columns the request gives it. -/
structure BatchRow.Holds (row : BatchRow String) (req : BatchRequest PayloadMapping) : Prop where
  complete : req.Complete
  idempotencyKey : row.idempotencyKey = req.idempotencyKey
  owner : row.owner = req.owner
  runId : row.runId = req.runId
  operationRunId : row.operationRunId = req.operationRunId
  operationPhaseId : row.operationPhaseId = req.operationPhaseId
  resourceKey : row.resourceKey = req.resourceKey
  claimOwner : row.claimOwner = req.claimOwner
  claimScope : row.claimScope = req.claimScope
  payload : row.payload = PayloadMapping.text req.payload

/-- A row holds two requests only if they are the same. -/
theorem BatchRow.Holds.same {row : BatchRow String} {a b : BatchRequest PayloadMapping} (ha : row.Holds a)
    (hb : row.Holds b) : a.Same b where
  idempotencyKey := ha.idempotencyKey.symm.trans hb.idempotencyKey
  owner := ha.owner.symm.trans hb.owner
  runId := ha.runId.symm.trans hb.runId
  operationRunId := ha.operationRunId.symm.trans hb.operationRunId
  operationPhaseId := ha.operationPhaseId.symm.trans hb.operationPhaseId
  resourceKey := ha.resourceKey.symm.trans hb.resourceKey
  claimOwner := ha.claimOwner.symm.trans hb.claimOwner
  claimScope := ha.claimScope.symm.trans hb.claimScope
  payload := PayloadMapping.text_eq_iff.1 (ha.payload.symm.trans hb.payload)

/-- A row that holds a request holds every request that is the same. -/
theorem BatchRow.Holds.of_same {row : BatchRow String} {a b : BatchRequest PayloadMapping} (hb : row.Holds b)
    (h : a.Same b) : row.Holds a where
  complete := ⟨h.idempotencyKey ▸ hb.complete.idempotencyKey, h.owner ▸ hb.complete.owner,
    h.runId ▸ hb.complete.runId⟩
  idempotencyKey := hb.idempotencyKey.trans h.idempotencyKey.symm
  owner := hb.owner.trans h.owner.symm
  runId := hb.runId.trans h.runId.symm
  operationRunId := hb.operationRunId.trans h.operationRunId.symm
  operationPhaseId := hb.operationPhaseId.trans h.operationPhaseId.symm
  resourceKey := hb.resourceKey.trans h.resourceKey.symm
  claimOwner := hb.claimOwner.trans h.claimOwner.symm
  claimScope := hb.claimScope.trans h.claimScope.symm
  payload := hb.payload.trans (PayloadMapping.text_eq_iff.2 h.payload).symm

/-- What a row holds it was created with. -/
theorem BatchRow.Holds.of_created {row row' : BatchRow String} {req : BatchRequest PayloadMapping} (h : row.Holds req)
    (hc : row'.created = row.created) : row'.Holds req where
  complete := h.complete
  idempotencyKey := (column_eq created_idempotencyKey hc).trans h.idempotencyKey
  owner := (column_eq (f := BatchRow.owner) (fun _ => rfl) hc).trans h.owner
  runId := (column_eq (f := BatchRow.runId) (fun _ => rfl) hc).trans h.runId
  operationRunId := (column_eq (f := BatchRow.operationRunId) (fun _ => rfl) hc).trans h.operationRunId
  operationPhaseId := (column_eq (f := BatchRow.operationPhaseId) (fun _ => rfl) hc).trans h.operationPhaseId
  resourceKey := (column_eq (f := BatchRow.resourceKey) (fun _ => rfl) hc).trans h.resourceKey
  claimOwner := (column_eq (f := BatchRow.claimOwner) (fun _ => rfl) hc).trans h.claimOwner
  claimScope := (column_eq (f := BatchRow.claimScope) (fun _ => rfl) hc).trans h.claimScope
  payload := (column_eq (f := BatchRow.payload) (fun _ => rfl) hc).trans h.payload

/-! ## What batches were created with -/

section Creations

variable {π : Type}

/-- The batches as they were created, in the order of their creation. -/
def JournalDb.creations (db : JournalDb π) : List (BatchRow π) := db.batches.map BatchRow.created

/-- `idempotency_key TEXT NOT NULL UNIQUE`. -/
def DistinctKeys (db : JournalDb π) : Prop := (db.batches.map BatchRow.idempotencyKey).Nodup

theorem distinctKeys_iff (db : JournalDb π) :
    DistinctKeys db ↔ (db.creations.map BatchRow.idempotencyKey).Nodup := by
  unfold DistinctKeys JournalDb.creations
  rw [List.map_map]
  rfl

/-- Updating columns and inserting records leaves what batches were created with. -/
theorem Writes.creations {ctx : WriteContext} {W : Bool} {K : List RecordTable} {b : String} {db d : JournalDb π}
    {last : Option RecordTable} (h : Writes ctx W K b db last d) : d.creations = db.creations := by
  induction h with
  | refl => rfl
  | update f _ hf _ ih =>
    rw [← ih, JournalDb.creations, JournalDb.creations, JournalDb.updateBatch, updateRow, List.map_map]
    refine List.map_congr_left fun r _ => ?_
    show (if r.batchId = b then f r else r).created = r.created
    split
    · exact hf r
    · rfl
  | insert T r _ _ _ _ _ ih => rw [JournalDb.creations, JournalDb.batches_setRows, ← ih, JournalDb.creations]

variable [JournalPayload π] [DecidableEq π]

/-- A call leaves the creations, or appends one under a new key. -/
theorem step_creations (db : JournalDb π) (c : JournalCall π) : (db.step c).creations = db.creations ∨
    ∃ row : BatchRow π, (db.step c).creations = db.creations ++ [row.created] ∧
      db.batchRowByIdempotencyKey row.idempotencyKey = none := by
  cases c with
  | lease c => exact Or.inl rfl
  | operationRuns runs phases => exact Or.inl rfl
  | write w ctx =>
    cases hrun : w.run db ctx with
    | error e =>
      refine Or.inl ?_
      rw [JournalDb.step, hrun]
    | ok db' =>
      rw [JournalDb.step, hrun]
      cases hb : w.batch with
      | some b =>
        rcases run_writes hb hrun with h | rfl
        · exact Or.inl h.creations
        · exact Or.inl rfl
      | none =>
        obtain ⟨-, rfl | ⟨req, batchId, rfl, hkey, -⟩⟩ := run_create hb hrun
        · exact Or.inl rfl
        · refine Or.inr ⟨newBatchRow db req batchId ctx, ?_, hkey⟩
          show (db.batches ++ [newBatchRow db req batchId ctx]).map BatchRow.created = _
          rw [List.map_append]
          rfl

/-- No batch goes away, and none forgets its creation. -/
theorem creations_kept (calls : List (JournalCall π)) (db : JournalDb π) :
    db.creations <+: (after JournalDb.step db calls).creations := by
  refine after_relates (R := fun d d' : JournalDb π => d.creations <+: d'.creations) (fun d => List.prefix_rfl)
    (fun h h' => h.trans h') ?_ calls db
  intro d c
  rcases step_creations d c with h | ⟨row, h, -⟩
  · exact h ▸ List.prefix_rfl
  · rw [h]
    exact List.prefix_append _ _

/-- There is never more than one batch under a key. -/
theorem after_distinctKeys (calls : List (JournalCall π)) {db : JournalDb π} (h : DistinctKeys db) :
    DistinctKeys (after JournalDb.step db calls) := by
  refine after_invariant ?_ calls db h
  intro d c hd
  rw [distinctKeys_iff]
  rcases step_creations d c with hc | ⟨row, hc, hnew⟩
  · rw [hc, ← distinctKeys_iff]
    exact hd
  · have happend := nodup_append_one (r := row) hd hnew
    rw [hc, List.map_append, JournalDb.creations, List.map_map]
    rw [List.map_append] at happend
    exact happend

/-- A row is there later, as it was created. -/
theorem row_later (calls : List (JournalCall π)) {db : JournalDb π} {row : BatchRow π} (h : row ∈ db.batches) :
    ∃ row' ∈ (after JournalDb.step db calls).batches, row'.created = row.created := by
  have hmem : row.created ∈ (after JournalDb.step db calls).creations :=
    (creations_kept calls db).subset (List.mem_map_of_mem h)
  obtain ⟨row', hrow', heq⟩ := List.mem_map.1 hmem
  exact ⟨row', hrow', heq⟩

end Creations

/-! ## A replay -/

/-- `create_batch`, its payload encoded first. -/
def createBatchOf (db : JournalDb String) (req : BatchRequest PayloadMapping) (batchId : Option String)
    (ctx : WriteContext) : Except JournalError (BatchRow String × JournalDb String) :=
  createBatch db req.encoded batchId ctx

section Replay

variable {db : JournalDb String} {row : BatchRow String} {req : BatchRequest PayloadMapping} {ctx : WriteContext}
  {batchId : Option String}

/-- The comparison of a replay finds no difference exactly if the row holds the request. -/
theorem idempotencyMismatches_eq_nil (hc : req.Complete) (hk : row.idempotencyKey = req.idempotencyKey) :
    idempotencyMismatches row req.encoded = [] ↔ row.Holds req := by
  have hone (p : Prop) [Decidable p] (s : String) : (if p then [] else [s]) = ([] : List String) ↔ p := by
    by_cases hp : p
    · rw [if_pos hp]
      exact ⟨fun _ => hp, fun _ => rfl⟩
    · rw [if_neg hp]
      exact ⟨fun h => (by cases h), fun h => absurd h hp⟩
  simp only [idempotencyMismatches, List.append_eq_nil_iff, hone]
  constructor
  · intro ⟨⟨⟨⟨⟨⟨⟨h₁, h₂⟩, h₃⟩, h₄⟩, h₅⟩, h₆⟩, h₇⟩, h₈⟩
    exact ⟨hc, hk, h₁, h₂, h₃, h₄, h₅, h₆, h₇, h₈⟩
  · intro h
    exact ⟨⟨⟨⟨⟨⟨⟨h.owner, h.runId⟩, h.operationRunId⟩, h.operationPhaseId⟩, h.resourceKey⟩, h.claimOwner⟩,
      h.claimScope⟩, h.payload⟩

/-- The row of a new batch holds its request. -/
theorem newBatchRow_holds (hc : req.Complete) : (newBatchRow db req.encoded batchId ctx).Holds req :=
  ⟨hc, rfl, rfl, rfl, rfl, rfl, rfl, rfl, rfl, rfl⟩

/-- A creation that succeeds has a complete request. -/
theorem createBatchOf_complete {answer : BatchRow String × JournalDb String}
    (h : createBatchOf db req batchId ctx = .ok answer) : req.Complete := by
  simp only [createBatchOf, createBatch, validateRequired, bind_eq_ok, require_eq_ok] at h
  obtain ⟨_, hkey, _, howner, _, hrun, -⟩ := h
  exact ⟨hkey, howner, hrun⟩

/-- A complete request under a key that is there goes as far as the comparison. -/
theorem createBatchOf_replay (hc : req.Complete) (hcurrent : leaseIsCurrent db.leases ctx.lease ctx.now = true)
    (hfound : db.batchRowByIdempotencyKey req.idempotencyKey = some row) :
    createBatchOf db req batchId ctx = (requireMatchingIdempotentBatch row req.encoded ctx).map fun _ => (row, db) := by
  have hfound' : db.batchRowByIdempotencyKey req.encoded.idempotencyKey = some row := hfound
  have hkey : validateRequired "idempotency_key" req.encoded.idempotencyKey = .ok () := if_pos hc.idempotencyKey
  have howner : validateRequired "owner" req.encoded.owner = .ok () := if_pos hc.owner
  have hrun : validateRequired "run_id" req.encoded.runId = .ok () := if_pos hc.runId
  have hlease : requireCurrentLease db ctx = .ok () := if_pos hcurrent
  rw [createBatchOf, createBatch, hkey, howner, hrun, hlease, hfound']
  rfl

/-- The comparison under a lease of the row's name. -/
theorem requireMatchingIdempotentBatch_eq (hc : req.Complete) (hk : row.idempotencyKey = req.idempotencyKey)
    (hname : row.leaseName = ctx.lease.name) :
    (row.Holds req → requireMatchingIdempotentBatch row req.encoded ctx = .ok ()) ∧
    (¬ row.Holds req → ∃ message, requireMatchingIdempotentBatch row req.encoded ctx =
      .error (.batchIdempotencyMismatch message)) := by
  rw [← idempotencyMismatches_eq_nil hc hk]
  constructor
  · intro h
    rw [requireMatchingIdempotentBatch, require, if_pos hname, require, if_pos h]
    rfl
  · intro h
    rw [requireMatchingIdempotentBatch, require, if_pos hname, require, if_neg h]
    exact ⟨_, rfl⟩

/-- A call under a key that is there: the stored row if it holds the request, else an error. -/
theorem createBatchOf_existing (batchId : Option String) (hdb : DistinctKeys db) (hrow : row ∈ db.batches)
    (hcurrent : leaseIsCurrent db.leases ctx.lease ctx.now = true) (hname : ctx.lease.name = row.leaseName)
    (hkey : req.idempotencyKey = row.idempotencyKey) :
    (row.Holds req → createBatchOf db req batchId ctx = .ok (row, db)) ∧
    (¬ row.Holds req → ∃ e, createBatchOf db req batchId ctx = .error e ∧
      (req.Complete → ∃ message, e = .batchIdempotencyMismatch message)) := by
  have hfound : db.batchRowByIdempotencyKey req.idempotencyKey = some row := by
    rw [hkey]
    exact findRow_of_mem hdb hrow
  constructor
  · intro h
    have hmatch := (requireMatchingIdempotentBatch_eq h.complete hkey.symm hname.symm).1 h
    rw [createBatchOf_replay h.complete hcurrent hfound, hmatch]
    rfl
  · intro h
    by_cases hc : req.Complete
    · obtain ⟨message, hmatch⟩ := (requireMatchingIdempotentBatch_eq hc hkey.symm hname.symm).2 h
      refine ⟨.batchIdempotencyMismatch message, ?_, fun _ => ⟨message, rfl⟩⟩
      rw [createBatchOf_replay hc hcurrent hfound, hmatch]
      rfl
    · cases hcreate : createBatchOf db req batchId ctx with
      | error e => exact ⟨e, rfl, fun h => absurd h hc⟩
      | ok answer => exact absurd (createBatchOf_complete hcreate) hc

/-- A call that succeeds answers with a row of the journal it leaves, which holds its request. -/
theorem createBatchOf_ok {db' : JournalDb String} (hdb : DistinctKeys db)
    (h : createBatchOf db req batchId ctx = .ok (row, db')) :
    row ∈ db'.batches ∧ row.leaseName = ctx.lease.name ∧ row.Holds req := by
  have hc := createBatchOf_complete h
  obtain ⟨hcurrent, ⟨rfl, hrow⟩ | ⟨rfl, rfl, -, -⟩⟩ := createBatch_ok h
  · have hkey : req.idempotencyKey = row.idempotencyKey := (findRow_key hrow).symm
    have hmem : row ∈ db'.batches := findRow_mem hrow
    have hname : row.leaseName = ctx.lease.name := by
      rw [createBatchOf_replay hc hcurrent hrow, map_eq_ok] at h
      obtain ⟨_, hmatch, -⟩ := h
      simp only [requireMatchingIdempotentBatch, bind_eq_ok, require_eq_ok] at hmatch
      exact hmatch.choose_spec.1
    refine ⟨hmem, hname, by_contra fun hnot => ?_⟩
    obtain ⟨e, he, -⟩ := (createBatchOf_existing batchId hdb hmem hcurrent hname.symm hkey).2 hnot
    rw [h] at he
    cases he
  · exact ⟨List.mem_append_right _ List.mem_cons_self, rfl, newBatchRow_holds hc⟩

/-- A call under a key that is there changes nothing, whatever it answers. -/
theorem step_existing (hdb : DistinctKeys db) (hrow : row ∈ db.batches)
    (hkey : req.idempotencyKey = row.idempotencyKey) :
    db.step (.write (.createBatch req.encoded batchId) ctx) = db := by
  have hfound : db.batchRowByIdempotencyKey req.encoded.idempotencyKey = some row := by
    show findRow BatchRow.idempotencyKey db.batches req.idempotencyKey = some row
    rw [hkey]
    exact findRow_of_mem hdb hrow
  cases hcreate : createBatch db req.encoded batchId ctx with
  | error e => simp only [JournalDb.step, JournalWrite.run, hcreate, Except.map]
  | ok answer =>
    obtain ⟨row', db'⟩ := answer
    obtain ⟨-, ⟨heq, -⟩ | ⟨-, -, hnone, -⟩⟩ := createBatch_ok hcreate
    · simp only [JournalDb.step, JournalWrite.run, hcreate, Except.map]
      exact heq
    · rw [hfound] at hnone
      cases hnone

end Replay

/-- `create_batch` is idempotent. A call that succeeds answers with a row that holds its request and is
bound to its lease's name. After any further calls on leases and journal, by anyone, there is one batch
at most under any key; the row is there with what it was created with, in whatever phase; and a call
under its key leaves the journal as it is. If it comes under a current lease of the name, it answers
with the row where its request is the same, and is refused as a mismatch where it is another. -/
theorem batch_creation_idempotent {db : JournalDb String} (hdb : DistinctKeys db) :
    (∀ (req : BatchRequest PayloadMapping) (batchId : Option String) (ctx : WriteContext) (row : BatchRow String)
      (db' : JournalDb String), createBatchOf db req batchId ctx = .ok (row, db') →
      row ∈ db'.batches ∧ row.leaseName = ctx.lease.name ∧ row.Holds req ∧ DistinctKeys db') ∧
    ∀ calls : List (JournalCall String),
      DistinctKeys (after JournalDb.step db calls) ∧
      ∀ row ∈ db.batches, ∃ row' ∈ (after JournalDb.step db calls).batches, row'.created = row.created ∧
        ∀ (req : BatchRequest PayloadMapping) (batchId : Option String) (ctx : WriteContext),
          req.idempotencyKey = row.idempotencyKey →
          (after JournalDb.step db calls).step (.write (.createBatch req.encoded batchId) ctx) =
            after JournalDb.step db calls ∧
          (leaseIsCurrent (after JournalDb.step db calls).leases ctx.lease ctx.now = true →
            ctx.lease.name = row.leaseName → ∀ first : BatchRequest PayloadMapping, row.Holds first →
            (req.Same first → createBatchOf (after JournalDb.step db calls) req batchId ctx =
              .ok (row', after JournalDb.step db calls)) ∧
            (¬ req.Same first → ∃ e, createBatchOf (after JournalDb.step db calls) req batchId ctx = .error e ∧
              (req.Complete → ∃ message, e = .batchIdempotencyMismatch message))) := by
  constructor
  · intro req batchId ctx row db' h
    obtain ⟨hmem, hname, hholds⟩ := createBatchOf_ok hdb h
    refine ⟨hmem, hname, hholds, ?_⟩
    have hstep : db.step (.write (.createBatch req.encoded batchId) ctx) = db' := by
      have h' : createBatch db req.encoded batchId ctx = .ok (row, db') := h
      simp only [JournalDb.step, JournalWrite.run, h', Except.map]
    rw [← hstep]
    exact after_distinctKeys [.write (.createBatch req.encoded batchId) ctx] hdb
  · intro calls
    have hlater := after_distinctKeys calls hdb
    refine ⟨hlater, fun row hrow => ?_⟩
    obtain ⟨row', hrow', hcreated⟩ := row_later calls hrow
    refine ⟨row', hrow', hcreated, fun req batchId ctx hkey => ?_⟩
    have hkey' : req.idempotencyKey = row'.idempotencyKey :=
      hkey.trans (BatchRow.column_eq BatchRow.created_idempotencyKey hcreated).symm
    refine ⟨step_existing hlater hrow' hkey', fun hcurrent hname first hfirst => ?_⟩
    have hname' : ctx.lease.name = row'.leaseName :=
      hname.trans (BatchRow.column_eq BatchRow.created_leaseName hcreated).symm
    have hfirst' : row'.Holds first := hfirst.of_created hcreated
    have hcall := createBatchOf_existing batchId hlater hrow' hcurrent hname' hkey'
    exact ⟨fun hsame => hcall.1 (hfirst'.of_same hsame), fun hnot => hcall.2 fun h => hnot (h.same hfirst')⟩

/-! A first lease creates a batch with a nested payload, and a second one replays the call. -/

private def firstShift : LeaseRecord := leaseFromRow "lease" ⟨"a", "t1", 1, .soon 5, .soon 5, .soon 100⟩
  true true
private def secondShift : LeaseRecord :=
  leaseFromRow "lease" ⟨"b", "t2", 2, .soon 100, .soon 100, .soon 200⟩ true true

/-- `{"paths": ["a", "b"], "size": 3}`, its members in either order. -/
private def twoPaths (flipped : Bool) : PayloadMapping where
  members :=
    let paths := ("paths", Json.arr [.str "a", .str "b"])
    let size := ("size", Json.int 3)
    if flipped then [size, paths] else [paths, size]
  wellFormed := by
    have hpaths : (Json.arr [.str "a", .str "b"]).WellFormed := ⟨trivial, trivial, trivial⟩
    cases flipped
    · exact ⟨by decide, hpaths, trivial, trivial⟩
    · exact ⟨by decide, trivial, hpaths, trivial⟩

private def pathsRequest (flipped : Bool) : BatchRequest PayloadMapping :=
  ⟨"key", "owner", "run", none, none, some "files", none, none, some (twoPaths flipped)⟩

private def withBatch : JournalDb String :=
  after JournalDb.step (JournalDb.init String) [.lease (.acquire "lease" "a" 95 none "t1" (.soon 5)),
    .write (.createBatch (pathsRequest false).encoded none) ⟨firstShift, .soon 5, "h", "batch"⟩]

/-- The second worker's replay, with the members of its payload in another order, is answered. -/
theorem batch_creation_idempotent_reordered : ∃ row, createBatchOf
    (after JournalDb.step withBatch [.lease (.acquire "lease" "b" 100 none "t2" ⟨100, by decide⟩)])
    (pathsRequest true) none ⟨secondShift, ⟨100, by decide⟩, "h", "other"⟩ =
      .ok (row, after JournalDb.step withBatch [.lease (.acquire "lease" "b" 100 none "t2" ⟨100, by decide⟩)]) := by
  have hdb : DistinctKeys withBatch := after_distinctKeys _ List.nodup_nil
  have hrow : newBatchRow (JournalDb.init String) (pathsRequest false).encoded none
      ⟨firstShift, ⟨5, by decide⟩, "h", "batch"⟩ ∈ withBatch.batches := by decide +kernel
  have hcurrent : leaseIsCurrent (after JournalDb.step withBatch
      [.lease (.acquire "lease" "b" 100 none "t2" ⟨100, by decide⟩)]).leases secondShift ⟨100, by decide⟩ = true := by
    decide +kernel
  have hheld : (newBatchRow (JournalDb.init String) (pathsRequest false).encoded none
      ⟨firstShift, ⟨5, by decide⟩, "h", "batch"⟩).Holds (pathsRequest false) :=
    newBatchRow_holds ⟨by decide, by decide, by decide⟩
  have hsame : (pathsRequest true).Same (pathsRequest false) :=
    ⟨rfl, rfl, rfl, rfl, rfl, rfl, rfl, rfl, PayloadMapping.text_eq_iff.1 (by decide +kernel)⟩
  obtain ⟨row, -, -, hreplay⟩ := ((batch_creation_idempotent hdb).2
    [.lease (.acquire "lease" "b" 100 none "t2" ⟨100, by decide⟩)]).2 _ hrow
  obtain ⟨-, hanswer⟩ := hreplay (pathsRequest true) none ⟨secondShift, ⟨100, by decide⟩, "h", "other"⟩ rfl
  exact ⟨row, (hanswer hcurrent rfl _ hheld).1 hsame⟩

end SafeFsOps
