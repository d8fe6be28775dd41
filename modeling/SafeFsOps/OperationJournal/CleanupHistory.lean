import Mathlib.Data.List.Dedup
import SafeFsOps.OperationJournal.RecordNumbers

/-!
# The history of an artifact's cleanup

An artifact of a batch is planned for cleanup and its item then moves by further
rows of the same batch and artifact; an item that failed or was left to a human may
be planned anew, under another trigger. The guard of a write reads the latest row
of the artifact, which is the last one written (`CleanupsKept.latest`):

> `CleanupFollows`: a transition of `_ARTIFACT_CLEANUP_TRANSITIONS`, or a new plan
> behind a failed or manual item, with the resource of the artifact.

The outstanding cleanups are found by another query, which groups the whole table,
joins it with its own groups and selects by key. It has the same notion of latest
because numbers and keys are distinct:

> `artifact_cleanup_lifecycle`: of every artifact at most one item is active, what
> succeeded or was skipped stays so, what failed is only ever planned again, the
> resource never changes, and the outstanding query lists exactly the artifacts
> whose latest row is outstanding, each once.
-/

namespace SafeFsOps

open SequencedRow

variable {π : Type}

/-! ## The query: `journal_rows.py` -/

/-- `ARTIFACT_CLEANUP_ACTIVE_STATUSES`. -/
def artifactCleanupActiveStatuses : List ArtifactCleanupStatus := [.planned, .attempting]

/-- `ARTIFACT_CLEANUP_DEBT_STATUSES`. -/
def artifactCleanupDebtStatuses : List ArtifactCleanupStatus := [.failed, .manualInterventionRequired]

/-- `ARTIFACT_CLEANUP_OUTSTANDING_STATUSES`. -/
def artifactCleanupOutstandingStatuses : List ArtifactCleanupStatus :=
  artifactCleanupActiveStatuses ++ artifactCleanupDebtStatuses

/-- `ORDER BY created_at, cleanup_record_id`. -/
def cleanupCreatedBefore (a b : ArtifactCleanupRow π) : Bool :=
  a.createdAt.isoformat < b.createdAt.isoformat ∨
    a.createdAt.isoformat = b.createdAt.isoformat ∧ a.cleanupRecordId ≤ b.cleanupRecordId

namespace JournalDb

/-- `SELECT batch_id, artifact_id, MAX(sequence) … GROUP BY batch_id, artifact_id`. -/
def maxSequenceByArtifact (db : JournalDb π) : List (String × String × Nat) :=
  (db.artifactCleanups.map fun r => (r.batchId, r.artifactId)).dedup.map fun g =>
    (g.1, g.2, ((db.artifactCleanups.filter fun r => r.batchId = g.1 ∧ r.artifactId = g.2).map
      ArtifactCleanupRow.sequence).foldl max 0)

/-- The keys of the rows joined with their group's largest number. -/
def latestCleanupRecordIds (db : JournalDb π) : List String :=
  (db.artifactCleanups.filter fun latest => db.maxSequenceByArtifact.any fun grouped =>
    latest.batchId = grouped.1 ∧ latest.artifactId = grouped.2.1 ∧ latest.sequence = grouped.2.2).map
      ArtifactCleanupRow.cleanupRecordId

/-- `_list_latest_artifact_cleanup_rows_with_statuses_in_connection`. -/
def listLatestArtifactCleanupRowsWithStatuses (db : JournalDb π) (statuses : List ArtifactCleanupStatus) :
    List (ArtifactCleanupRow π) :=
  (db.artifactCleanups.filter fun r => r.cleanupRecordId ∈ db.latestCleanupRecordIds ∧ r.status ∈ statuses).insertionSort
    fun a b => cleanupCreatedBefore a b = true

/-- `list_outstanding_artifact_cleanup_records`. -/
def listOutstandingArtifactCleanupRecords (db : JournalDb π) : List (ArtifactCleanupRow π) :=
  db.listLatestArtifactCleanupRowsWithStatuses artifactCleanupOutstandingStatuses

/-- The rows of an artifact of a batch, in the order they were written. -/
def artifactCleanupHistory (db : JournalDb π) (batchId artifactId : String) : List (ArtifactCleanupRow π) :=
  db.artifactCleanups.filter fun r => r.batchId = batchId ∧ r.artifactId = artifactId

end JournalDb

/-! ## What a write adds -/

/-- The statuses of an artifact's next row, given its latest one. -/
def CleanupAllowed : Option (ArtifactCleanupRow π) → ArtifactCleanupStatus → Prop
  | none, status => status = .planned
  | some e, status =>
    if status = .planned then e.status ∈ artifactCleanupDebtStatuses
    else status ∈ artifactCleanupTransitions e.status

/-- Which row of an artifact may directly follow which. -/
def CleanupFollows (r r' : ArtifactCleanupRow π) : Prop :=
  r'.resourceKey = r.resourceKey ∧ CleanupAllowed (some r) r'.status

/-- The row of an artifact that may be added: a plan as the first, or one following the latest. -/
def NextCleanup (db : JournalDb π) (r : ArtifactCleanupRow π) : Prop :=
  match db.latestArtifactCleanupRow r.batchId r.artifactId with
  | none => r.status = .planned
  | some e => CleanupFollows e r

section Writes

variable {db db' : JournalDb π} {b : String} {ctx : WriteContext}

/-- What the guard lets through. -/
theorem prepareArtifactCleanupWrite_ok {artifact : String} {status : ArtifactCleanupStatus}
    {trigger : Option ArtifactCleanupTrigger} {key : Option String} {existing : Option (ArtifactCleanupRow π)}
    (h : prepareArtifactCleanupWrite db b artifact status trigger key = .ok existing) :
    existing = db.latestArtifactCleanupRow b artifact ∧ CleanupAllowed existing status := by
  simp only [prepareArtifactCleanupWrite] at h
  cases hlatest : db.latestArtifactCleanupRow b artifact with
  | none =>
    simp only [hlatest] at h
    split at h
    · next hplanned =>
      cases h
      exact ⟨rfl, hplanned⟩
    · cases h
  | some e =>
    simp only [hlatest] at h
    split at h
    · next hplanned =>
      simp only [bind_eq_ok, require_eq_ok, pure_eq_ok] at h
      obtain ⟨_, -, _, hactive, _, hdone, rfl⟩ := h
      refine ⟨rfl, ?_⟩
      rw [CleanupAllowed, if_pos hplanned]
      cases hs : e.status <;> simp [hs, artifactCleanupDebtStatuses] at hactive hdone ⊢
    · next hplanned =>
      simp only [bind_eq_ok, require_eq_ok, pure_eq_ok] at h
      obtain ⟨_, -, _, -, _, hvalid, rfl⟩ := h
      refine ⟨rfl, ?_⟩
      rw [CleanupAllowed, if_neg hplanned]
      exact hvalid

variable [JournalPayload π]

theorem recordArtifactCleanup_next {artifact : String} {status : ArtifactCleanupStatus}
    {trigger : Option ArtifactCleanupTrigger} {key reason record : Option String} {payload : Option π}
    {r : ArtifactCleanupRow π}
    (h : recordArtifactCleanup db b artifact status trigger key reason payload record ctx = .ok (r, db')) :
    db'.artifactCleanups = db.artifactCleanups ++ [r] ∧ NextCleanup db r := by
  simp only [recordArtifactCleanup, bind_eq_ok, pure_eq_ok, Prod.mk.injEq] at h
  obtain ⟨_, -, _, -, row, -, existing, hprepare, _, -, _, -, cleanups, hins, rfl, rfl⟩ := h
  obtain ⟨rfl, -⟩ := insertRow_eq_ok hins
  obtain ⟨rfl, hallowed⟩ := prepareArtifactCleanupWrite_ok hprepare
  refine ⟨rfl, ?_⟩
  simp only [NextCleanup]
  cases hlatest : db.latestArtifactCleanupRow b artifact with
  | none =>
    rw [hlatest] at hallowed
    exact hallowed
  | some e =>
    rw [hlatest] at hallowed
    exact ⟨rfl, hallowed⟩

variable [DecidableEq π] {w : JournalWrite π}

/-- A write leaves the cleanups alone or adds one. -/
theorem run_cleanups (hb : w.batch = some b) (h : w.run db ctx = .ok db') :
    db'.artifactCleanups = db.artifactCleanups ∨
      ∃ r, db'.artifactCleanups = db.artifactCleanups ++ [r] ∧ NextCleanup db r := by
  by_cases htable : RecordTable.artifactCleanups ∈ w.tables
  · right
    cases w <;> simp only [JournalWrite.batch, Option.some.injEq, reduceCtorEq] at hb <;> subst hb <;>
      simp [JournalWrite.tables, JournalWrite.table] at htable <;>
      simp only [JournalWrite.run, map_eq_ok, Prod.exists, exists_eq_right] at h
    case recordArtifactCleanupPlanned =>
      obtain ⟨r, h⟩ := h
      exact ⟨r, recordArtifactCleanup_next h⟩
    case transitionArtifactCleanup =>
      obtain ⟨r, h⟩ := h
      exact ⟨r, recordArtifactCleanup_next h⟩
  · left
    rcases run_writes hb h with hwrites | rfl
    · exact hwrites.rows_eq htable
    · rfl

end Writes

/-! ## Runs -/

/-- Each artifact's rows are a history that begins with a plan. -/
structure CleanupsKept (db : JournalDb π) : Prop where
  numbered : Numbered db
  history : ∀ b a, IsHistory (fun r => r.status = .planned) CleanupFollows (db.artifactCleanupHistory b a)

section Runs

variable {db db' : JournalDb π}

/-- An artifact's rows are numbered in the order they were written. -/
theorem cleanups_rising (h : Numbered db) (b a : String) :
    (db.artifactCleanupHistory b a).Pairwise fun r r' => r.sequence < r'.sequence :=
  h.filter_rising (T := .artifactCleanups) (b := b) fun _ _ hkey => (of_decide_eq_true hkey).1

/-- What the guard reads is the end of the history. -/
theorem latestArtifactCleanupRow_eq (h : Numbered db) (b a : String) :
    db.latestArtifactCleanupRow b a = (db.artifactCleanupHistory b a).getLast? :=
  latestRow_eq_getLast? (cleanups_rising h b a)

/-- One more row. -/
theorem CleanupsKept.append (h : CleanupsKept db) {r : ArtifactCleanupRow π} (hnext : NextCleanup db r)
    (hcleanups : db'.artifactCleanups = db.artifactCleanups ++ [r]) (b a : String) :
    IsHistory (fun r => r.status = .planned) CleanupFollows (db'.artifactCleanupHistory b a) := by
  rw [JournalDb.artifactCleanupHistory, hcleanups, filter_append_one]
  by_cases hkey : r.batchId = b ∧ r.artifactId = a
  · obtain ⟨rfl, rfl⟩ := hkey
    rw [if_pos (by simp)]
    rw [NextCleanup, latestArtifactCleanupRow_eq h.numbered] at hnext
    refine (h.history _ _).concat ?_ ?_
    · intro hnil
      have hnil : db.artifactCleanupHistory r.batchId r.artifactId = [] := hnil
      rw [hnil] at hnext
      exact hnext
    · intro x hx
      have hx : (db.artifactCleanupHistory r.batchId r.artifactId).getLast? = some x := hx
      rw [hx] at hnext
      exact hnext
  · rw [if_neg (by simpa using hkey), List.append_nil]
    exact h.history b a

variable [JournalPayload π] [DecidableEq π]

theorem cleanupsKept_step (db : JournalDb π) (c : JournalCall π) (h : CleanupsKept db) : CleanupsKept (db.step c) := by
  have hnumbered := numbered_step db c h.numbered
  have hkept : (db.step c).artifactCleanups = db.artifactCleanups → CleanupsKept (db.step c) := by
    intro hsame
    refine ⟨hnumbered, fun b a => ?_⟩
    rw [JournalDb.artifactCleanupHistory, hsame]
    exact h.history b a
  cases c with
  | lease c => exact hkept rfl
  | operationRuns runs phases => exact hkept rfl
  | write w ctx =>
    cases hrun : w.run db ctx with
    | error e => exact hkept (by simp only [JournalDb.step, hrun])
    | ok db' =>
      have hstep : db.step (.write w ctx) = db' := by simp only [JournalDb.step, hrun]
      cases hb : w.batch with
      | none =>
        refine hkept ?_
        rw [hstep]
        obtain ⟨-, rfl | ⟨req, batchId, rfl, -⟩⟩ := run_create hb hrun
        · rfl
        · rfl
      | some b =>
        rcases run_cleanups hb hrun with hsame | ⟨r, hcleanups, hnext⟩
        · exact hkept (by rw [hstep, hsame])
        · rw [hstep] at hnumbered ⊢
          exact ⟨hnumbered, h.append hnext hcleanups⟩

theorem cleanupsKept_after (run : List (JournalCall π)) :
    CleanupsKept (after JournalDb.step (JournalDb.init π) run) :=
  after_invariant cleanupsKept_step run _ ⟨numbered_init, fun _ _ => IsHistory.nil⟩

end Runs

/-! ## The outstanding cleanups -/

section Outstanding

variable {db : JournalDb π}

/-- The largest number among an artifact's rows. -/
def JournalDb.maxCleanupSequence (db : JournalDb π) (b a : String) : Nat :=
  ((db.artifactCleanupHistory b a).map ArtifactCleanupRow.sequence).foldl max 0

theorem mem_artifactCleanupHistory {r : ArtifactCleanupRow π} (hr : r ∈ db.artifactCleanups) :
    r ∈ db.artifactCleanupHistory r.batchId r.artifactId :=
  List.mem_filter.2 ⟨hr, by simp⟩

/-- A row joins its own group, and no other. -/
theorem joins_group {r : ArtifactCleanupRow π} (hr : r ∈ db.artifactCleanups) :
    (db.maxSequenceByArtifact.any fun grouped => r.batchId = grouped.1 ∧ r.artifactId = grouped.2.1 ∧
      r.sequence = grouped.2.2) = true ↔ r.sequence = db.maxCleanupSequence r.batchId r.artifactId := by
  simp only [List.any_eq_true, decide_eq_true_eq, JournalDb.maxSequenceByArtifact, List.mem_map, List.mem_dedup]
  constructor
  · intro hjoin
    obtain ⟨_, ⟨g, -, rfl⟩, hb, ha, hs⟩ := hjoin
    have hs : r.sequence = db.maxCleanupSequence g.1 g.2 := hs
    have hb : r.batchId = g.1 := hb
    have ha : r.artifactId = g.2 := ha
    rwa [← hb, ← ha] at hs
  · intro hs
    exact ⟨_, ⟨(r.batchId, r.artifactId), ⟨r, hr, rfl⟩, rfl⟩, rfl, rfl, hs⟩

/-- The row with its group's largest number is the one the guards read. -/
theorem sequence_eq_max_iff (h : Numbered db) {r : ArtifactCleanupRow π} (hr : r ∈ db.artifactCleanups) :
    r.sequence = db.maxCleanupSequence r.batchId r.artifactId ↔
      db.latestArtifactCleanupRow r.batchId r.artifactId = some r := by
  have hmem := mem_artifactCleanupHistory hr
  have hbelow : ∀ x ∈ db.artifactCleanupHistory r.batchId r.artifactId,
      x.sequence ≤ db.maxCleanupSequence r.batchId r.artifactId := fun x hx =>
    (le_foldl_max _ 0).2 _ (List.mem_map_of_mem hx)
  obtain ⟨top, htop, hle⟩ := latestRow_sequence_le
    (p := fun x => x.batchId = r.batchId ∧ x.artifactId = r.artifactId) hr (by simp)
  have htopmem : top ∈ db.artifactCleanupHistory r.batchId r.artifactId := List.mem_filter.2 (latestRow_mem htop)
  constructor
  · intro hs
    have hsame : top.sequence = r.sequence := Nat.le_antisymm (hs ▸ hbelow top htopmem) hle
    have hdistinct : ((db.artifactCleanupHistory r.batchId r.artifactId).map ArtifactCleanupRow.sequence).Nodup :=
      (List.pairwise_map.2 (cleanups_rising h r.batchId r.artifactId)).imp Nat.ne_of_lt
    have heq : top = r := List.inj_on_of_nodup_map hdistinct htopmem hmem hsame
    rw [← heq] at htop ⊢
    exact htop
  · intro hlatest
    refine Nat.le_antisymm (hbelow r hmem) (foldl_max_le (Nat.zero_le _) ?_)
    intro n hn
    obtain ⟨x, hx, rfl⟩ := List.mem_map.1 hn
    obtain ⟨hx, hxkey⟩ := List.mem_filter.1 hx
    obtain ⟨top', htop'', hxle⟩ := latestRow_sequence_le
      (p := fun x => x.batchId = r.batchId ∧ x.artifactId = r.artifactId) hx hxkey
    have hlast : top' = r := Option.some.inj (htop''.symm.trans hlatest)
    rw [← hlast]
    exact hxle

/-- The query lists the latest rows, as the guards read them, that have the statuses. -/
theorem mem_listLatestArtifactCleanupRows (h : Numbered db) {statuses : List ArtifactCleanupStatus}
    {r : ArtifactCleanupRow π} : r ∈ db.listLatestArtifactCleanupRowsWithStatuses statuses ↔
      db.latestArtifactCleanupRow r.batchId r.artifactId = some r ∧ r.status ∈ statuses := by
  rw [JournalDb.listLatestArtifactCleanupRowsWithStatuses, List.mem_insertionSort, List.mem_filter,
    decide_eq_true_eq]
  constructor
  · intro ⟨hr, hid, hstatus⟩
    refine ⟨(sequence_eq_max_iff h hr).1 ?_, hstatus⟩
    obtain ⟨x, hx, hkey⟩ := List.mem_map.1 hid
    obtain ⟨hx, hjoin⟩ := List.mem_filter.1 hx
    have hxr : x = r := List.inj_on_of_nodup_map (h.keys .artifactCleanups) hx hr hkey
    rw [← hxr]
    exact (joins_group hx).1 hjoin
  · intro ⟨hlatest, hstatus⟩
    have hr : r ∈ db.artifactCleanups := (latestRow_mem hlatest).1
    refine ⟨hr, List.mem_map_of_mem (List.mem_filter.2 ⟨hr, ?_⟩), hstatus⟩
    exact (joins_group hr).2 ((sequence_eq_max_iff h hr).2 hlatest)

/-- No artifact is listed twice. -/
theorem listLatestArtifactCleanupRows_nodup (h : Numbered db) (statuses : List ArtifactCleanupStatus) :
    ((db.listLatestArtifactCleanupRowsWithStatuses statuses).map fun r => (r.batchId, r.artifactId)).Nodup := by
  refine List.Nodup.map_on ?_ ?_
  · intro r hr r' hr' hpair
    have hlatest := ((mem_listLatestArtifactCleanupRows h).1 hr).1
    have hlatest' := ((mem_listLatestArtifactCleanupRows h).1 hr').1
    rw [Prod.mk.injEq] at hpair
    rw [hpair.1, hpair.2, hlatest'] at hlatest
    exact (Option.some.inj hlatest).symm
  · have hkeys : (db.artifactCleanups.map ArtifactCleanupRow.cleanupRecordId).Nodup := h.keys .artifactCleanups
    exact (List.perm_insertionSort _ _).nodup_iff.2 (hkeys.of_map.filter _)

variable [JournalPayload π] [DecidableEq π]

/-- **The lifecycle of an artifact's cleanup.** After every run of the journal, of every artifact of
every batch: at most one item, from a plan on, is planned or attempting; what failed or was left to a
human is followed by a plan only; the resource never changes; and behind a cleanup that succeeded or
was skipped no further run adds a row. The outstanding query lists the latest row, as the guards read
it, of exactly the artifacts whose latest row is outstanding, each once. -/
theorem artifact_cleanup_lifecycle (run : List (JournalCall π)) :
    let db := after JournalDb.step (JournalDb.init π) run
    let outstanding := db.listOutstandingArtifactCleanupRecords
    (∀ b a, let history := db.artifactCleanupHistory b a
      (history.Pairwise fun r r' => r.sequence < r'.sequence) ∧
      ((itemsOf (fun r => r.status = .planned) history).filter fun item =>
        item.getLast?.any fun r => r.status ∈ artifactCleanupActiveStatuses).length ≤ 1 ∧
      (history.IsChain fun r r' => r.status ∈ artifactCleanupDebtStatuses → r'.status = .planned) ∧
      (∀ r ∈ history, ∀ r' ∈ history, r.resourceKey = r'.resourceKey) ∧
      ∀ r, history.getLast? = some r → r.status = .succeeded ∨ r.status = .skipped →
        ∀ more, (after JournalDb.step db more).artifactCleanupHistory b a = history) ∧
    (∀ b a, (b, a) ∈ outstanding.map (fun r => (r.batchId, r.artifactId)) ↔
      ∃ r, db.latestArtifactCleanupRow b a = some r ∧ r.status ∈ artifactCleanupOutstandingStatuses) ∧
    (∀ r ∈ outstanding, db.latestArtifactCleanupRow r.batchId r.artifactId = some r) ∧
    (outstanding.map fun r => (r.batchId, r.artifactId)).Nodup := by
  intro db outstanding
  have hdb : CleanupsKept db := cleanupsKept_after run
  refine ⟨?_, ?_, ?_, listLatestArtifactCleanupRows_nodup hdb.numbered _⟩
  · intro b a history
    have hhist : IsHistory (fun r => r.status = .planned) CleanupFollows history := hdb.history b a
    -- nothing is planned behind a row that is active, so that all items but the last are over
    refine ⟨cleanups_rising hdb.numbered b a, active_items_le_one hhist.chain ?_, ?_, ?_, ?_⟩
    · intro r r' hfollows hplanned
      have hdebt := hfollows.2
      rw [CleanupAllowed, if_pos (of_decide_eq_true hplanned)] at hdebt
      cases hs : r.status <;> simp [hs, artifactCleanupDebtStatuses, artifactCleanupActiveStatuses] at hdebt ⊢
    · refine hhist.chain.imp ?_
      intro r r' hfollows hdebt
      by_contra hplanned
      have hvalid := hfollows.2
      rw [CleanupAllowed, if_neg hplanned] at hvalid
      cases hs : r.status <;> simp [hs, artifactCleanupDebtStatuses, artifactCleanupTransitions] at hdebt hvalid
    · exact hhist.const fun _ _ hfollows => hfollows.1
    · intro r hr hdone more
      -- later calls append to the history, and nothing follows a row that is done
      have hrest : ∃ rest, (after JournalDb.step db more).artifactCleanupHistory b a = history ++ rest := by
        have hrows : ∃ new : List (ArtifactCleanupRow π),
            (after JournalDb.step db more).artifactCleanups = db.artifactCleanups ++ new := by
          obtain ⟨new, hnew, -⟩ := appends_after db more .artifactCleanups
          exact ⟨new, hnew⟩
        obtain ⟨new, hrows⟩ := hrows
        rw [JournalDb.artifactCleanupHistory, hrows, List.filter_append]
        exact ⟨_, rfl⟩
      obtain ⟨rest, hrest⟩ := hrest
      have hall := (after_invariant cleanupsKept_step more db hdb).history b a
      rw [hrest] at hall
      have hnil : rest = [] := by
        refine hall.eq_nil_of_last hr ?_
        intro x hfollows
        have hallowed := hfollows.2
        rw [CleanupAllowed] at hallowed
        rcases hdone with hdone | hdone <;> split at hallowed <;>
          simp [hdone, artifactCleanupDebtStatuses, artifactCleanupTransitions] at hallowed
      rw [hrest, hnil, List.append_nil]
  · intro b a
    rw [List.mem_map]
    constructor
    · intro ⟨r, hr, hkeys⟩
      rw [Prod.mk.injEq] at hkeys
      obtain ⟨rfl, rfl⟩ := hkeys
      exact ⟨r, (mem_listLatestArtifactCleanupRows hdb.numbered).1 hr⟩
    · intro ⟨r, hlatest, hstatus⟩
      obtain ⟨rfl, rfl⟩ := of_decide_eq_true (latestRow_mem hlatest).2
      exact ⟨r, (mem_listLatestArtifactCleanupRows hdb.numbered).2 ⟨hlatest, hstatus⟩, rfl⟩
  · intro r hr
    exact ((mem_listLatestArtifactCleanupRows hdb.numbered).1 hr).1

end Outstanding

end SafeFsOps
