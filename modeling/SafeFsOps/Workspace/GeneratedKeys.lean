import SafeFsOps.OperationJournal.BatchIdempotency

/-!
# Generated idempotency keys

A mutation without a key of its own is given one: `next_idempotency_key` of
`workspace_transaction_utils.py` numbers the mutations of a transaction,
`SafePhase._next_idempotency_key` those of a phase of an operation, and a recursive mkdir
adds its steps. The key joins strings the caller chose, and a name with a run id may well
come back in another transaction.

What keeps different work apart is the journal: `create_batch` compares the claim scope,
which is the instance of the transaction, and the phase.

> `generated_keys`: the keys of one transaction, and of one phase, are all different; keys
> of names without a colon agree only between transactions of one name and run id; and a
> batch is never taken for that of other work.
-/

namespace SafeFsOps.GeneratedKeys

variable {π : Type}

/-! ## Keys -/

/-- The public methods that take a key. -/
inductive MutationMethod where
  | writeText | writeBytes | deleteFile | makeDirectory | snapshotBundle | renameNoReplace | captureDirectory
  | backupTree | restoreTreeBackup
deriving DecidableEq

/-- The method's name, as it stands in a key. -/
def MutationMethod.name : MutationMethod → String
  | writeText => "write_text"
  | writeBytes => "write_bytes"
  | deleteFile => "delete_file"
  | makeDirectory => "make_directory"
  | snapshotBundle => "snapshot_bundle"
  | renameNoReplace => "rename_no_replace"
  | captureDirectory => "capture_directory"
  | backupTree => "backup_tree"
  | restoreTreeBackup => "restore_tree_backup"

/-- A phase of an operation, and its record. -/
structure PhaseIdentity where
  phaseName : String
  operationPhaseId : String
deriving DecidableEq

/-- What numbers mutations: a transaction, or a phase of the operation that has one. -/
structure Issuer where
  name : String
  runId : String
  instanceId : String
  phase : Option PhaseIdentity
deriving DecidableEq

/-- `claim_scope`. -/
def Issuer.claimScope (i : Issuer) : String := "transaction-instance:" ++ i.instanceId

/-- A step of a recursive mkdir, with the digest of its resource. -/
structure MkdirStep where
  stepIndex : Nat
  stepCount : Nat
  resourceDigest : String
deriving DecidableEq

/-- A key that was given out; `label` is `resource.label or resource.resource_key`. -/
structure Issue where
  issuer : Issuer
  number : Nat
  method : MutationMethod
  label : String
  step : Option MkdirStep
deriving DecidableEq

/-- `{name}:{run_id}:`, and the name of the phase. -/
def Issuer.front (i : Issuer) : String :=
  match i.phase with
  | none => i.name ++ ":" ++ i.runId ++ ":"
  | some p => i.name ++ ":" ++ i.runId ++ ":" ++ p.phaseName ++ ":"

/-- What `_step_idempotency_key` adds. -/
def MkdirStep.suffix (s : MkdirStep) : String :=
  ":recursive:" ++ toString s.stepIndex ++ "-of-" ++ toString s.stepCount ++ ":" ++ s.resourceDigest

/-- `next_idempotency_key`, and `_next_idempotency_key` of a phase. -/
def Issue.key (u : Issue) : String :=
  u.issuer.front ++ toString u.number ++ ":" ++ u.method.name ++ ":" ++ u.label ++
    (u.step.map MkdirStep.suffix).getD ""

/-! ## Keys given out, and the journal -/

/-- The transactions and phases there are, how many mutations each has numbered, the keys
no batch was asked for yet, those one was, and the journal. -/
structure KeyBook (π : Type) where
  opened : List Issuer
  counter : Issuer → Nat
  pending : List Issue
  used : List Issue
  journal : JournalDb π

inductive KeyEvent (π : Type) where
  /-- A transaction is made, or a phase of an operation entered. -/
  | enter (issuer : Issuer)
  /-- A mutation without a key; a recursive mkdir comes with the digests of its steps. -/
  | mutate (issuer : Issuer) (method : MutationMethod) (label : String) (steps : List String)
  /-- The mutation at that place among those waiting comes to its `create_batch`. -/
  | create (place : Nat) (req : BatchRequest π) (batchId : Option String) (ctx : WriteContext)
  /-- Anything else that is done with the journal. -/
  | other (call : JournalCall π)

/-- Two phases of one operation: `phase` wants another name, and the record of a phase is
found under its name. -/
def Issuer.isSibling (i j : Issuer) : Bool :=
  match i.phase, j.phase with
  | some p, some q => i.name = j.name ∧ i.runId = j.runId ∧ p.phaseName ≠ q.phaseName ∧
      p.operationPhaseId ≠ q.operationPhaseId
  | _, _ => false

/-- An instance id is drawn at random, so it is that of no transaction and of no batch;
only phases of one operation share it. -/
def KeyBook.mayEnter (s : KeyBook π) (i : Issuer) : Bool :=
  s.opened.all (fun j => j.instanceId ≠ i.instanceId || j.isSibling i) &&
    (s.opened.any (fun j => j.instanceId = i.instanceId) ||
      s.journal.batches.all fun row => row.claimScope ≠ some i.claimScope)

/-- The keys of a mutation. -/
def issues (i : Issuer) (number : Nat) (method : MutationMethod) (label : String) (steps : List String) :
    List Issue :=
  if steps = [] then [⟨i, number, method, label, none⟩]
  else (steps.zipIdx 1).map fun s => ⟨i, number, method, label, some ⟨s.2, steps.length, s.1⟩⟩

/-- What a mutation asks `create_batch` for. -/
def Issue.request (u : Issue) (req : BatchRequest π) : BatchRequest π :=
  { req with
    idempotencyKey := u.key
    runId := u.issuer.runId
    operationPhaseId := (u.issuer.phase.map PhaseIdentity.operationPhaseId).or req.operationPhaseId
    claimScope := some u.issuer.claimScope }

/-- A batch created under the scope of one of the transactions. -/
def KeyBook.isOwn (s : KeyBook π) : JournalCall π → Bool
  | .write (.createBatch req _) _ => s.opened.any fun i => req.claimScope = some i.claimScope
  | _ => false

section Events

variable [JournalPayload π] [DecidableEq π]

/-- What the journal is after a `create_batch`. -/
def created (db : JournalDb π) (req : BatchRequest π) (batchId : Option String) (ctx : WriteContext) : JournalDb π :=
  match createBatch db req batchId ctx with
  | .ok (_, db') => db'
  | .error _ => db

/-- One event. What cannot happen is passed over, and so are batches other than by
generated keys that bear the scope of one of the transactions. -/
def KeyBook.step (s : KeyBook π) : KeyEvent π → KeyBook π
  | .enter i => if s.mayEnter i then { s with opened := i :: s.opened } else s
  | .mutate i method label steps =>
    if i ∈ s.opened then
      { s with
        counter := fun j => if j = i then s.counter i + 1 else s.counter j
        pending := s.pending ++ issues i (s.counter i + 1) method label steps }
    else s
  | .create place req batchId ctx =>
    match s.pending[place]? with
    | none => s
    | some u =>
      { s with
        pending := s.pending.eraseIdx place
        used := u :: s.used
        journal := created s.journal (u.request req) batchId ctx }
  | .other call => if s.isOwn call then s else { s with journal := s.journal.step call }

/-- Before the first transaction, on any journal. -/
def KeyBook.start (db : JournalDb π) : KeyBook π := ⟨[], fun _ => 0, [], [], db⟩

end Events

/-! ## Keys that differ -/

theorem toList_toString (n : Nat) : (toString n).toList = Nat.toDigits 10 n := Nat.toList_repr

theorem notMem_toString {c : Char} (hc : c.isDigit = false) (n : Nat) : c ∉ (toString n).toList := by
  intro h
  rw [toList_toString] at h
  rw [Nat.isDigit_of_mem_toDigits (by decide) (by decide) h] at hc
  cases hc

theorem split_inj {c : Char} : ∀ {xs ys as bs : List Char}, c ∉ xs → c ∉ ys → xs ++ c :: as = ys ++ c :: bs →
    xs = ys ∧ as = bs
  | [], [], _, _, _, _, h => ⟨rfl, (List.cons.inj h).2⟩
  | [], y :: ys, _, _, _, hy, h => absurd ((List.cons.inj h).1 ▸ List.mem_cons_self) hy
  | x :: xs, [], _, _, hx, _, h => absurd ((List.cons.inj h).1 ▸ List.mem_cons_self) hx
  | x :: xs, y :: ys, as, bs, hx, hy, h => by
    obtain ⟨rfl, hrest⟩ := List.cons.inj h
    obtain ⟨rfl, hbs⟩ := split_inj (List.not_mem_of_not_mem_cons hx) (List.not_mem_of_not_mem_cons hy) hrest
    exact ⟨rfl, hbs⟩

/-- What stands before a separator is read off, if it does not hold the first character of it. -/
theorem field_inj {sep a b x y : String} {c : Char} {cs : List Char} (hsep : sep.toList = c :: cs) (ha : c ∉ a.toList)
    (hb : c ∉ b.toList) (h : a ++ (sep ++ x) = b ++ (sep ++ y)) : a = b ∧ x = y := by
  have hlist := congrArg String.toList h
  simp only [String.toList_append, hsep, List.cons_append] at hlist
  obtain ⟨hfield, hrest⟩ := split_inj ha hb hlist
  exact ⟨String.toList_inj.1 hfield, String.toList_inj.1 (List.append_cancel_left hrest)⟩

/-- The number that stands between a common front and a separator is read off. -/
theorem number_inj {front sep x y : String} {c : Char} {cs : List Char} {m n : Nat} (hsep : sep.toList = c :: cs)
    (hc : c.isDigit = false) (h : front ++ (toString m ++ (sep ++ x)) = front ++ (toString n ++ (sep ++ y))) :
    m = n ∧ x = y := by
  have htail := String.append_right_inj front |>.1 h
  obtain ⟨hnum, hx⟩ := field_inj hsep (notMem_toString hc m) (notMem_toString hc n) htail
  have hdigits : Nat.toDigits 10 m = Nat.toDigits 10 n := by
    rw [← toList_toString, ← toList_toString, hnum]
  refine ⟨?_, hx⟩
  rw [← Nat.ofDigitChars_ten_toDigits (n := m), hdigits, Nat.ofDigitChars_ten_toDigits]

theorem colon_toList : (":" : String).toList = [':'] := rfl

/-- Keys of one issuer and different numbers differ. -/
theorem key_number {u v : Issue} (hi : u.issuer = v.issuer) (h : u.key = v.key) : u.number = v.number := by
  unfold Issue.key at h
  rw [hi] at h
  simp only [String.append_assoc] at h
  exact (number_inj colon_toList (by decide) h).1

/-- Two issues that cannot be taken for one another. -/
def Apart (u v : Issue) : Prop := u.issuer = v.issuer → u.key ≠ v.key

theorem Apart.symm {u v : Issue} (h : Apart u v) : Apart v u := fun hi hk => h hi.symm hk.symm

/-- The keys of the steps of one mutation differ. -/
theorem issues_apart (i : Issuer) (number : Nat) (method : MutationMethod) (label : String) (steps : List String) :
    (issues i number method label steps).Pairwise Apart := by
  unfold issues
  split
  · exact List.pairwise_singleton _ _
  · rw [List.pairwise_map]
    have hnumbers : (steps.zipIdx 1).Pairwise fun s t => s.2 ≠ t.2 := by
      have hnodup : ((steps.zipIdx 1).map Prod.snd).Nodup := by
        rw [List.zipIdx_map_snd]
        exact List.nodup_range'
      exact List.pairwise_map.1 hnodup
    apply hnumbers.imp
    intro s t hne _ hkey
    apply hne
    simp only [Issue.key, MkdirStep.suffix, Option.map_some, Option.getD_some] at hkey
    simp only [String.append_assoc, String.append_right_inj] at hkey
    have hof : ("-of-" : String).toList = '-' :: ['o', 'f', '-'] := rfl
    have hempty : ∀ x : String, "" ++ x = x := fun x => String.empty_append
    exact (number_inj hof (by decide) (by rw [hempty, hempty]; exact hkey)).1

/-! ## What the book says -/

section Invariant

variable {s : KeyBook π}

theorem claimScope_inj {i j : Issuer} (h : i.claimScope = j.claimScope) : i.instanceId = j.instanceId :=
  String.append_right_inj _ |>.1 h

/-- A batch of one of the transactions was created for a key that was given out. -/
def IsUsed (s : KeyBook π) (row : BatchRow π) : Prop :=
  ∃ u ∈ s.used, row.claimScope = some u.issuer.claimScope ∧ row.idempotencyKey = u.key ∧
    ∀ p, u.issuer.phase = some p → row.operationPhaseId = some p.operationPhaseId

/-- What holds of the keys given out, and of the batches. -/
structure Booked (s : KeyBook π) : Prop where
  siblings : ∀ i ∈ s.opened, ∀ j ∈ s.opened, i.instanceId = j.instanceId → i = j ∨ i.isSibling j = true
  issued : ∀ u ∈ s.pending ++ s.used, u.issuer ∈ s.opened ∧ u.number ≤ s.counter u.issuer
  apart : (s.pending ++ s.used).Pairwise Apart
  rows : ∀ row ∈ s.journal.creations, ∀ i ∈ s.opened, row.claimScope = some i.claimScope → IsUsed s row

theorem isSibling_symm {i j : Issuer} (h : i.isSibling j = true) : j.isSibling i = true := by
  unfold Issuer.isSibling at h ⊢
  cases hi : i.phase with
  | none => simp [hi] at h
  | some p =>
    cases hj : j.phase with
    | none => simp [hi, hj] at h
    | some q =>
      simp only [hi, hj, decide_eq_true_eq] at h ⊢
      exact ⟨h.1.symm, h.2.1.symm, h.2.2.1.symm, h.2.2.2.symm⟩

theorem start_booked (db : JournalDb π) : Booked (KeyBook.start db) where
  siblings := fun _ h => absurd h List.not_mem_nil
  issued := fun _ h => absurd h List.not_mem_nil
  apart := List.Pairwise.nil
  rows := fun _ _ _ h => absurd h List.not_mem_nil

theorem enter_booked {i : Issuer} (h : Booked s) (hmay : s.mayEnter i = true) :
    Booked { s with opened := i :: s.opened } := by
  unfold KeyBook.mayEnter at hmay
  simp only [Bool.and_eq_true, Bool.or_eq_true, List.all_eq_true, List.any_eq_true, decide_eq_true_eq] at hmay
  obtain ⟨hsiblings, hfresh⟩ := hmay
  refine ⟨?_, ?_, h.apart, ?_⟩
  · have hnew : ∀ j ∈ s.opened, j.instanceId = i.instanceId → j.isSibling i = true := fun j hj heq =>
      (hsiblings j hj).resolve_left fun hne => hne heq
    intro a ha b hb heq
    rcases List.mem_cons.1 ha with hai | ha
    · rcases List.mem_cons.1 hb with hbi | hb
      · exact Or.inl (hai.trans hbi.symm)
      · rw [hai] at heq ⊢
        exact Or.inr (isSibling_symm (hnew b hb heq.symm))
    · rcases List.mem_cons.1 hb with hbi | hb
      · rw [hbi] at heq ⊢
        exact Or.inr (hnew a ha heq)
      · exact h.siblings a ha b hb heq
  · intro u hu
    exact ⟨List.mem_cons_of_mem _ (h.issued u hu).1, (h.issued u hu).2⟩
  · intro row hrow j hj hscope
    rcases List.mem_cons.1 hj with hji | hj
    · rw [hji] at hscope
      rcases hfresh with ⟨k, hk, hinstance⟩ | hnone
      · -- a phase: the scope is that of the operation's other phases
        have hsame : k.claimScope = i.claimScope := congrArg ("transaction-instance:" ++ ·) hinstance
        exact h.rows row hrow k hk (hscope.trans (congrArg some hsame.symm))
      · obtain ⟨row₀, hrow₀, rfl⟩ := List.mem_map.1 hrow
        exact absurd hscope (hnone row₀ hrow₀)
    · exact h.rows row hrow j hj hscope

theorem mem_issues {i : Issuer} {number : Nat} {method : MutationMethod} {label : String} {steps : List String}
    {u : Issue} (h : u ∈ issues i number method label steps) : u.issuer = i ∧ u.number = number := by
  unfold issues at h
  split at h
  · rw [List.mem_singleton.1 h]
    exact ⟨rfl, rfl⟩
  · obtain ⟨s, -, rfl⟩ := List.mem_map.1 h
    exact ⟨rfl, rfl⟩

theorem mutate_booked {i : Issuer} {method : MutationMethod} {label : String} {steps : List String} (h : Booked s)
    (hi : i ∈ s.opened) :
    Booked { s with
      counter := fun j => if j = i then s.counter i + 1 else s.counter j
      pending := s.pending ++ issues i (s.counter i + 1) method label steps } := by
  refine ⟨h.siblings, ?_, ?_, h.rows⟩
  · intro u hu
    have hcases : u ∈ s.pending ++ s.used ∨ u ∈ issues i (s.counter i + 1) method label steps := by
      simp only [List.mem_append] at hu ⊢
      tauto
    rcases hcases with hold | hnew
    · obtain ⟨hopened, hnumber⟩ := h.issued u hold
      refine ⟨hopened, ?_⟩
      show u.number ≤ if u.issuer = i then s.counter i + 1 else s.counter u.issuer
      split
      · next heq =>
        rw [heq] at hnumber
        omega
      · exact hnumber
    · obtain ⟨hissuer, hnumber⟩ := mem_issues hnew
      refine ⟨hissuer ▸ hi, ?_⟩
      show u.number ≤ if u.issuer = i then s.counter i + 1 else s.counter u.issuer
      rw [if_pos hissuer]
      exact Nat.le_of_eq hnumber
  · -- the new number is above all that were given out
    have hnew : ∀ u ∈ s.pending ++ s.used, ∀ v ∈ issues i (s.counter i + 1) method label steps, Apart u v := by
      intro u hu v hv heq hkey
      obtain ⟨hissuer, hnumber⟩ := mem_issues hv
      have hle := (h.issued u hu).2
      have hsame := key_number heq hkey
      rw [heq, hissuer] at hle
      omega
    have hall : ((s.pending ++ s.used) ++ issues i (s.counter i + 1) method label steps).Pairwise Apart :=
      List.pairwise_append.2 ⟨h.apart, issues_apart _ _ _ _ _, hnew⟩
    refine (List.Perm.pairwise_iff (fun hab => Apart.symm hab) ?_).1 hall
    rw [List.append_assoc, List.append_assoc]
    exact List.Perm.append_left _ List.perm_append_comm

theorem IsUsed.mono {s t : KeyBook π} {row : BatchRow π} (h : IsUsed s row) (hsub : ∀ u ∈ s.used, u ∈ t.used) :
    IsUsed t row := by
  obtain ⟨u, hu, hrow⟩ := h
  exact ⟨u, hsub u hu, hrow⟩

section Journal

variable [JournalPayload π] [DecidableEq π]

/-- A call leaves the creations, or is a `create_batch` that appends one. -/
theorem creations_step (db : JournalDb π) (c : JournalCall π) : (db.step c).creations = db.creations ∨
    ∃ req batchId ctx, c = .write (.createBatch req batchId) ctx ∧
      (db.step c).creations = db.creations ++ [(newBatchRow db req batchId ctx).created] := by
  cases c with
  | lease c => exact Or.inl rfl
  | operationRuns runs phases => exact Or.inl rfl
  | write w ctx =>
    cases hrun : w.run db ctx with
    | error e =>
      apply Or.inl
      rw [JournalDb.step, hrun]
    | ok db' =>
      rw [JournalDb.step, hrun]
      cases hb : w.batch with
      | some b =>
        apply Or.inl
        rcases run_writes hb hrun with h | h
        · exact h.creations
        · exact congrArg JournalDb.creations h
      | none =>
        cases w <;> simp only [JournalWrite.batch, reduceCtorEq] at hb
        case createBatch req batchId =>
          simp only [JournalWrite.run, map_eq_ok, Prod.exists, exists_eq_right] at hrun
          obtain ⟨row, hcreate⟩ := hrun
          obtain ⟨-, ⟨hsame, -⟩ | ⟨hdb, hrow, -, -⟩⟩ := createBatch_ok hcreate
          · exact Or.inl (congrArg JournalDb.creations hsame)
          · refine Or.inr ⟨req, batchId, ctx, rfl, ?_⟩
            show db'.batches.map BatchRow.created = _
            rw [hdb, hrow, List.map_append]
            rfl

theorem created_eq_step (db : JournalDb π) (req : BatchRequest π) (batchId : Option String) (ctx : WriteContext) :
    created db req batchId ctx = db.step (.write (.createBatch req batchId) ctx) := by
  unfold created
  cases h : createBatch db req batchId ctx with
  | error e => simp only [JournalDb.step, JournalWrite.run, h, Except.map]
  | ok answer => simp only [JournalDb.step, JournalWrite.run, h, Except.map]

omit [DecidableEq π] in
/-- The batch of an issue is booked under it. -/
theorem request_isUsed {t : KeyBook π} {u : Issue} (hu : u ∈ t.used) (db : JournalDb π) (req : BatchRequest π)
    (batchId : Option String) (ctx : WriteContext) : IsUsed t (newBatchRow db (u.request req) batchId ctx).created := by
  refine ⟨u, hu, rfl, rfl, ?_⟩
  intro p hp
  show ((u.issuer.phase.map PhaseIdentity.operationPhaseId).or req.operationPhaseId) = _
  rw [hp]
  rfl

theorem create_booked {place : Nat} {u : Issue} (h : Booked s) (hu : s.pending[place]? = some u)
    (req : BatchRequest π) (batchId : Option String) (ctx : WriteContext) :
    Booked { s with
      pending := s.pending.eraseIdx place
      used := u :: s.used
      journal := created s.journal (u.request req) batchId ctx } := by
  have hperm : (s.pending.eraseIdx place ++ u :: s.used).Perm (s.pending ++ s.used) := by
    obtain ⟨hlt, hget⟩ := List.getElem?_eq_some_iff.1 hu
    have htake := List.getElem_cons_eraseIdx_perm hlt
    rw [hget] at htake
    exact List.perm_middle.trans (htake.append_right s.used)
  refine ⟨h.siblings, ?_, ?_, ?_⟩
  · intro v hv
    exact h.issued v (hperm.mem_iff.1 hv)
  · exact (List.Perm.pairwise_iff (fun hab => Apart.symm hab) hperm).2 h.apart
  · intro row hrow i hi hscope
    have hold (t : KeyBook π) (ht : t.used = u :: s.used) (hmem : row ∈ s.journal.creations) : IsUsed t row :=
      (h.rows row hmem i hi hscope).mono fun v hv => ht ▸ List.mem_cons_of_mem u hv
    have hrow' : row ∈ (created s.journal (u.request req) batchId ctx).creations := hrow
    rw [created_eq_step] at hrow'
    rcases creations_step s.journal (.write (.createBatch (u.request req) batchId) ctx) with hsame | ⟨r, b, c, hc, hnew⟩
    · exact hold _ rfl (hsame ▸ hrow')
    · rw [hnew] at hrow'
      rcases List.mem_append.1 hrow' with hmem | hmem
      · exact hold _ rfl hmem
      · injection hc with hw hctx
        injection hw with hreq hid
        rw [List.mem_singleton.1 hmem, ← hreq, ← hid, ← hctx]
        exact request_isUsed List.mem_cons_self _ _ _ _

theorem other_booked {call : JournalCall π} (h : Booked s) (hown : s.isOwn call = false) :
    Booked { s with journal := s.journal.step call } := by
  refine ⟨h.siblings, h.issued, h.apart, ?_⟩
  intro row hrow i hi hscope
  have hrow' : row ∈ (s.journal.step call).creations := hrow
  rcases creations_step s.journal call with hsame | ⟨req, batchId, ctx, hc, hnew⟩
  · exact h.rows row (hsame ▸ hrow') i hi hscope
  · rw [hnew] at hrow'
    rcases List.mem_append.1 hrow' with hmem | hmem
    · exact h.rows row hmem i hi hscope
    · rw [List.mem_singleton.1 hmem] at hscope
      rw [hc] at hown
      have hfree := List.any_eq_false.1 hown i hi
      exact absurd (decide_eq_true hscope) hfree

theorem step_booked (s : KeyBook π) (e : KeyEvent π) (h : Booked s) : Booked (s.step e) := by
  cases e with
  | enter i =>
    simp only [KeyBook.step]
    split
    · next hmay => exact enter_booked h hmay
    · exact h
  | mutate i method label steps =>
    simp only [KeyBook.step]
    split
    · next hi => exact mutate_booked h hi
    · exact h
  | create place req batchId ctx =>
    simp only [KeyBook.step]
    split
    · exact h
    · next u hu => exact create_booked h hu req batchId ctx
  | other call =>
    simp only [KeyBook.step]
    split
    · exact h
    · next hown => exact other_booked h (Bool.not_eq_true _ ▸ hown)

/-- A row that matches a pending mutation under its key would have been created for it. -/
theorem request_not_there {u : Issue} {row : BatchRow π} {req : BatchRequest π} {ctx : WriteContext} (h : Booked s)
    (hu : u ∈ s.pending) (hrow : row ∈ s.journal.batches) (hkey : row.idempotencyKey = u.key)
    (hmatch : requireMatchingIdempotentBatch row (u.request req) ctx = .ok ()) : False := by
  simp only [requireMatchingIdempotentBatch, bind_eq_ok, require_eq_ok] at hmatch
  obtain ⟨-, -, hmatch⟩ := hmatch
  have hnil : idempotencyMismatches row (u.request req) = [] := hmatch
  have hcolumn (p : Prop) [Decidable p] (t : String) : (if p then [] else [t]) = ([] : List String) ↔ p := by
    by_cases hp : p <;> simp [hp]
  simp only [idempotencyMismatches, List.append_eq_nil_iff, hcolumn] at hnil
  obtain ⟨⟨⟨⟨⟨-, hphase⟩, -⟩, -⟩, hscope⟩, -⟩ := hnil
  have hopened := (h.issued u (List.mem_append_left _ hu)).1
  obtain ⟨v, hv, hvscope, hvkey, hvphase⟩ := h.rows _ (List.mem_map_of_mem hrow) _ hopened hscope
  have hinstance : u.issuer.instanceId = v.issuer.instanceId :=
    claimScope_inj (Option.some.inj (hscope.symm.trans hvscope))
  rcases h.siblings _ hopened _ (h.issued v (List.mem_append_right _ hv)).1 hinstance with hsame | hsibling
  · exact (List.pairwise_append.1 h.apart).2.2 u hu v hv hsame (hkey.symm.trans hvkey)
  · unfold Issuer.isSibling at hsibling
    cases hp : u.issuer.phase with
    | none => simp [hp] at hsibling
    | some p =>
      cases hq : v.issuer.phase with
      | none => simp [hp, hq] at hsibling
      | some q =>
        simp only [hp, hq, decide_eq_true_eq] at hsibling
        have hvid : row.operationPhaseId = some q.operationPhaseId := hvphase q hq
        have huid : row.operationPhaseId = some p.operationPhaseId := by
          rw [hphase, Issue.request, hp]
          rfl
        exact hsibling.2.2.2 (Option.some.inj (huid.symm.trans hvid))

end Journal

end Invariant

/-! ## Keys of names without a colon -/

section ColonFree

/-- No name the caller chose has a colon. -/
structure Issuer.ColonFree (i : Issuer) : Prop where
  name : ':' ∉ i.name.toList
  runId : ':' ∉ i.runId.toList
  phaseName : ∀ p, i.phase = some p → ':' ∉ p.phaseName.toList

/-- The same mutation, by number and method, in transactions or phases of the same names. -/
structure Alike (u v : Issue) : Prop where
  name : u.issuer.name = v.issuer.name
  runId : u.issuer.runId = v.issuer.runId
  phaseName : u.issuer.phase.map PhaseIdentity.phaseName = v.issuer.phase.map PhaseIdentity.phaseName
  number : u.number = v.number
  method : u.method = v.method

theorem colon_notMem_name (m : MutationMethod) : ':' ∉ m.name.toList := by cases m <;> decide

/-- A method's name is no number. -/
theorem name_ne_number (m : MutationMethod) (n : Nat) : m.name ≠ toString n := by
  intro h
  have hdash : '_' ∈ m.name.toList := by cases m <;> decide
  rw [h] at hdash
  exact notMem_toString (by decide) n hdash

theorem name_inj {m m' : MutationMethod} (h : m.name = m'.name) : m = m' := by
  cases m <;> cases m' <;> first | rfl | exact absurd h (by decide)

/-- A field up to the next colon. -/
theorem colon_inj {a b x y : String} (ha : ':' ∉ a.toList) (hb : ':' ∉ b.toList)
    (h : a ++ (":" ++ x) = b ++ (":" ++ y)) : a = b ∧ x = y :=
  field_inj colon_toList ha hb h

theorem colon_notMem_number (n : Nat) : ':' ∉ (toString n).toList := notMem_toString (by decide) n

/-- A key, field by field. -/
theorem key_fields (u : Issue) : ∃ rest, u.key = u.issuer.name ++ (":" ++ (u.issuer.runId ++ (":" ++
    match u.issuer.phase with
    | none => toString u.number ++ (":" ++ (u.method.name ++ (":" ++ rest)))
    | some p => p.phaseName ++ (":" ++ (toString u.number ++ (":" ++ (u.method.name ++ (":" ++ rest)))))))) := by
  refine ⟨u.label ++ (u.step.map MkdirStep.suffix).getD "", ?_⟩
  unfold Issue.key Issuer.front
  cases u.issuer.phase with
  | none => simp only [String.append_assoc]
  | some p => simp only [String.append_assoc]

/-- Keys of names without a colon are read field by field. -/
theorem key_alike {u v : Issue} (hu : u.issuer.ColonFree) (hv : v.issuer.ColonFree) (h : u.key = v.key) :
    Alike u v := by
  obtain ⟨x, hx⟩ := key_fields u
  obtain ⟨y, hy⟩ := key_fields v
  rw [hx, hy] at h
  obtain ⟨hname, h⟩ := colon_inj hu.name hv.name h
  obtain ⟨hrun, h⟩ := colon_inj hu.runId hv.runId h
  have hnumbers {a b : Nat} {m m' : MutationMethod} {r r' : String} (h : toString a ++ (":" ++ (m.name ++ (":" ++ r))) =
      toString b ++ (":" ++ (m'.name ++ (":" ++ r')))) : a = b ∧ m = m' := by
    obtain ⟨hnum, hrest⟩ := colon_inj (colon_notMem_number a) (colon_notMem_number b) h
    obtain ⟨hmethod, -⟩ := colon_inj (colon_notMem_name m) (colon_notMem_name m') hrest
    refine ⟨?_, name_inj hmethod⟩
    have hempty : ∀ z : String, "" ++ z = z := fun z => String.empty_append
    exact (number_inj colon_toList (by decide) (by rw [hempty, hempty]; exact h)).1
  cases hp : u.issuer.phase with
  | none =>
    cases hq : v.issuer.phase with
    | none =>
      simp only [hp, hq] at h
      obtain ⟨hnumber, hmethod⟩ := hnumbers h
      exact ⟨hname, hrun, by rw [hp, hq], hnumber, hmethod⟩
    | some q =>
      -- where one has the method, the other has its number
      simp only [hp, hq] at h
      obtain ⟨-, h⟩ := colon_inj (colon_notMem_number _) (hv.phaseName q hq) h
      exact absurd (colon_inj (colon_notMem_name _) (colon_notMem_number _) h).1 (name_ne_number _ _)
  | some p =>
    cases hq : v.issuer.phase with
    | none =>
      simp only [hp, hq] at h
      obtain ⟨-, h⟩ := colon_inj (hu.phaseName p hp) (colon_notMem_number _) h
      exact absurd (colon_inj (colon_notMem_number _) (colon_notMem_name _) h).1.symm (name_ne_number _ _)
    | some q =>
      simp only [hp, hq] at h
      obtain ⟨hphase, h⟩ := colon_inj (hu.phaseName p hp) (hv.phaseName q hq) h
      obtain ⟨hnumber, hmethod⟩ := hnumbers h
      refine ⟨hname, hrun, ?_, hnumber, hmethod⟩
      rw [hp, hq, Option.map_some, Option.map_some, hphase]

end ColonFree

/-! ## What a creation answers -/

section Answers

variable [JournalPayload π] [DecidableEq π] {s : KeyBook π} {u : Issue} {req : BatchRequest π}
  {batchId : Option String} {ctx : WriteContext}

/-- The call does not say that its key is bound to another request. -/
def NoMismatch {α : Type} (x : Except JournalError α) : Prop :=
  ∀ message, x ≠ .error (.batchIdempotencyMismatch message)

theorem NoMismatch.bind {α β : Type} {x : Except JournalError α} {f : α → Except JournalError β} (hx : NoMismatch x)
    (hf : ∀ a, NoMismatch (f a)) : NoMismatch (x >>= f) := by
  intro message h
  cases x with
  | error e => exact hx message (congrArg Except.error (Except.error.inj h))
  | ok a => exact hf a message h

theorem NoMismatch.ok {α : Type} (a : α) : NoMismatch (.ok a) := by
  intro message h
  cases h

theorem NoMismatch.require {p : Prop} [Decidable p] {e : JournalError}
    (he : ∀ message, e ≠ .batchIdempotencyMismatch message) : NoMismatch (require p e) := by
  intro message h
  unfold SafeFsOps.require at h
  split at h
  · cases h
  · exact he message (Except.error.inj h)

theorem requireLinkedRow_noMismatch {ρ : Type} (row : Option ρ) (kind recordId : String) :
    NoMismatch (requireLinkedRow row kind recordId) := by
  intro message h
  cases row <;> cases h

omit [JournalPayload π] [DecidableEq π] in
theorem requireValidBatchOperationLinks_noMismatch (db : JournalDb π) (req : BatchRequest π) :
    NoMismatch (requireValidBatchOperationLinks db req) := by
  unfold requireValidBatchOperationLinks
  split
  · exact .require nofun
  · refine .bind (requireLinkedRow_noMismatch _ _ _) fun run => ?_
    refine .bind (.require nofun) fun _ => .bind (.require nofun) fun _ => .bind (.require nofun) fun _ => ?_
    split
    · exact .ok _
    · exact .bind (requireLinkedRow_noMismatch _ _ _) fun _ => .bind (.require nofun) fun _ => .require nofun

/-- A key no batch has is not bound to another request. -/
theorem createBatch_noMismatch {db : JournalDb π} (h : db.batchRowByIdempotencyKey req.idempotencyKey = none) :
    NoMismatch (createBatch db req batchId ctx) := by
  unfold createBatch
  refine .bind (.require nofun) fun _ => .bind (.require nofun) fun _ => .bind (.require nofun) fun _ => ?_
  refine .bind (.require nofun) fun _ => ?_
  rw [h]
  exact .bind (requireValidBatchOperationLinks_noMismatch db req) fun _ => .bind (.require nofun) fun _ => .ok _

/-- A creation that succeeds has made a new batch. -/
theorem create_new (h : Booked s) (hu : u ∈ s.pending) {row : BatchRow π} {db' : JournalDb π}
    (hok : createBatch s.journal (u.request req) batchId ctx = .ok (row, db')) :
    s.journal.batchRowByIdempotencyKey u.key = none ∧ db'.batches = s.journal.batches ++ [row] := by
  obtain ⟨-, ⟨-, hrow⟩ | ⟨hdb, -, hnone, -⟩⟩ := createBatch_ok hok
  · have hmatch : requireMatchingIdempotentBatch row (u.request req) ctx = .ok () := by
      simp only [createBatch, bind_eq_ok] at hok
      obtain ⟨_, -, _, -, _, -, _, -, hok⟩ := hok
      rw [hrow] at hok
      simp only [bind_eq_ok] at hok
      obtain ⟨_, hmatch, -⟩ := hok
      exact hmatch
    exact (request_not_there h hu (findRow_mem hrow) (findRow_key hrow) hmatch).elim
  · exact ⟨hnone, congrArg JournalDb.batches hdb⟩

/-- A creation refused as a mismatch has found a batch of other work. -/
theorem create_mismatch (h : Booked s) (hu : u ∈ s.pending) {message : String}
    (herror : createBatch s.journal (u.request req) batchId ctx = .error (.batchIdempotencyMismatch message)) :
    ∃ row ∈ s.journal.batches, row.idempotencyKey = u.key ∧
      ((∀ i ∈ s.opened, i.ColonFree) → row.claimScope ≠ some u.issuer.claimScope) := by
  cases hfound : s.journal.batchRowByIdempotencyKey u.key with
  | none =>
    have hno : NoMismatch (createBatch s.journal (u.request req) batchId ctx) := createBatch_noMismatch hfound
    exact absurd herror (hno message)
  | some row =>
    refine ⟨row, findRow_mem hfound, findRow_key hfound, ?_⟩
    intro hfree hscope
    have hopened := (h.issued u (List.mem_append_left _ hu)).1
    obtain ⟨v, hv, hvscope, hvkey, -⟩ := h.rows _ (List.mem_map_of_mem (findRow_mem hfound)) _ hopened hscope
    have hvopened := (h.issued v (List.mem_append_right _ hv)).1
    have hkeys : u.key = v.key := (findRow_key hfound).symm.trans hvkey
    have hinstance : u.issuer.instanceId = v.issuer.instanceId :=
      claimScope_inj (Option.some.inj (hscope.symm.trans hvscope))
    rcases h.siblings _ hopened _ hvopened hinstance with hsame | hsibling
    · exact (List.pairwise_append.1 h.apart).2.2 u hu v hv hsame hkeys
    · have hphases := (key_alike (hfree _ hopened) (hfree _ hvopened) hkeys).phaseName
      unfold Issuer.isSibling at hsibling
      cases hp : u.issuer.phase with
      | none => simp [hp] at hsibling
      | some p =>
        cases hq : v.issuer.phase with
        | none => simp [hp, hq] at hsibling
        | some q =>
          simp only [hp, hq, decide_eq_true_eq] at hsibling
          rw [hp, hq] at hphases
          exact hsibling.2.2.1 (Option.some.inj hphases)

end Answers

/-! ## Any order of events -/

variable [JournalPayload π] [DecidableEq π]

/-- Keys given out in any run, to any number of transactions and phases of operations, on any
journal. Those of one transaction, or of one phase, are all different; where no name has a colon,
equal keys are those of the same number and method in transactions or phases of the same names.
A creation under a generated key makes a new batch if it succeeds; if it is refused as bound to
another request, there is a batch under the key, and no mutation of this transaction made it. -/
theorem generated_keys (db : JournalDb π) (events : List (KeyEvent π)) :
    let s := after KeyBook.step (KeyBook.start db) events
    (s.pending ++ s.used).Pairwise (fun u v => u.key = v.key → u.issuer ≠ v.issuer ∧
      (u.issuer.ColonFree → v.issuer.ColonFree → Alike u v)) ∧
    ∀ u ∈ s.pending, ∀ (req : BatchRequest π) (batchId : Option String) (ctx : WriteContext),
      (∀ row db', createBatch s.journal (u.request req) batchId ctx = .ok (row, db') →
        s.journal.batchRowByIdempotencyKey u.key = none ∧ db'.batches = s.journal.batches ++ [row]) ∧
      (∀ message, createBatch s.journal (u.request req) batchId ctx = .error (.batchIdempotencyMismatch message) →
        ∃ row ∈ s.journal.batches, row.idempotencyKey = u.key ∧
          ((∀ i ∈ s.opened, i.ColonFree) → row.claimScope ≠ some u.issuer.claimScope)) := by
  intro s
  have h : Booked s := after_invariant step_booked events _ (start_booked db)
  refine ⟨h.apart.imp fun hapart hkey => ⟨fun hi => hapart hi hkey, fun hu hv => key_alike hu hv hkey⟩, ?_⟩
  intro u hu req batchId ctx
  exact ⟨fun row db' hok => create_new h hu hok, fun message herror => create_mismatch h hu herror⟩

/-! A transaction is run again under its name and run id, and numbers its mutations from one again. -/

private def attempt (instanceId : String) : Issuer := ⟨"nightly", "run-1", instanceId, none⟩

private def attemptLease : LeaseRecord :=
  leaseFromRow "lease" ⟨"a", "t1", 1, .soon 5, .soon 5, .soon 100⟩ true true

private def attemptRequest : BatchRequest String :=
  ⟨"", "a", "", none, none, some "report.txt", some "a", none, none⟩

/-- Both write the same file; the first one's batch is created. -/
private def attempts : KeyBook String :=
  after KeyBook.step
    (KeyBook.start (after JournalDb.step (JournalDb.init String)
      [.lease (.acquire "lease" "a" 95 none "t1" (.soon 5))]))
    [.enter (attempt "i1"), .mutate (attempt "i1") .writeText "report.txt" [],
      .create 0 attemptRequest none ⟨attemptLease, .soon 6, "h", "batch-1"⟩,
      .enter (attempt "i2"), .mutate (attempt "i2") .writeText "report.txt" []]

private def isMismatch {α : Type} : Except JournalError α → Bool
  | .error (.batchIdempotencyMismatch _) => true
  | _ => false

/-- The second run's mutation has the key of the first one's, and is refused as bound to
another request. -/
theorem generated_keys_of_retry :
    attempts.used.map (fun u => (u.issuer.instanceId, u.key)) = [("i1", "nightly:run-1:1:write_text:report.txt")] ∧
    attempts.pending.map (fun u => (u.issuer.instanceId, u.key)) = [("i2", "nightly:run-1:1:write_text:report.txt")] ∧
    attempts.pending.all (fun u => isMismatch
      (createBatch attempts.journal (u.request attemptRequest) none
        ⟨attemptLease, ⟨7, by decide⟩, "h", "batch-2"⟩)) = true := by
  decide +kernel

end SafeFsOps.GeneratedKeys
