import SafeFsOps.OperationJournal.RecoveryResume

/-!
# A recovery and its retries

A batch whose recovery was cut short is recovered by calling the runner again:
under the attempt that is still open, or, once the batch was put up for recovery
anew, under a new attempt, whose actions are planned afresh. What one call leaves
behind and the next one finds is what the records say of each action.

> `along_recoverBatchWith`: the step that completes the recovery of a batch finds
> every action of the attempt carried out or skipped.
> `recovery_resumes`: what a call does, what a later call of the same attempt does
> after it, and when a batch is completed.
-/

namespace SafeFsOps

open Program

variable {φ ω : Type}

/-! ## An attempt begins -/

section Start

variable {π : Type} [JournalPayload π] {db db' : JournalDb π} {b : String} {ctx : WriteContext}

/-- The id of a new attempt is none that a record has. -/
theorem startRecovery_fresh {note : RecoveryNote π} {row : BatchRow π} {r : RecoveryRow π}
    (h : startRecovery db b note ctx = .ok (row, r, db')) : ∀ x ∈ db.recoveries, x.recoveryId ≠ r.recoveryId := by
  simp only [startRecovery, bind_eq_ok, pure_eq_ok, Prod.mk.injEq] at h
  obtain ⟨_, -, ⟨before, taken, d⟩, hguard, _, -, ⟨record, d'⟩, hwrite, _, -, -, rfl, rfl⟩ := h
  obtain ⟨_, hwrites⟩ := requireBatchForRecoveryWrite_writes (W := true) (K := [.recoveries]) List.mem_cons_self hguard
  simp only [writeRecovery, insertRecovery, bind_eq_ok, pure_eq_ok, Prod.mk.injEq] at hwrite
  obtain ⟨_, ⟨recoveries, hins, -⟩, rfl, -⟩ := hwrite
  obtain ⟨-, hfresh⟩ := insertRow_eq_ok hins
  intro x hx
  refine hfresh x ?_
  obtain ⟨new, hnew, -⟩ := hwrites.appends .recoveries
  have hrows : d.recoveries = db.rows .recoveries ++ new := hnew
  show x ∈ d.recoveries
  rw [hrows]
  exact List.mem_append_left _ hx

/-- A new attempt has no actions yet. -/
theorem startRecovery_actions [DecidableEq π] {note : RecoveryNote π} {row : BatchRow π} {r : RecoveryRow π}
    (hdb : ActionsKept db) (h : startRecovery db b note ctx = .ok (row, r, db')) :
    ActionsKept db' ∧ db'.attemptActions b r.recoveryId = [] := by
  have hrun : (JournalWrite.startRecovery b note).run db ctx = .ok db' := by
    simp only [JournalWrite.run, h, Except.map]
  refine ⟨?_, ?_⟩
  · have hstep := actionsKept_step db (.write (.startRecovery b note) ctx) trivial hdb
    simpa only [JournalDb.step, hrun] using hstep
  · have hactions : db'.recoveryActions = db.recoveryActions := by
      rcases run_writes rfl hrun with hwrites | rfl
      · exact hwrites.rows_eq (T := .recoveryActions) (by simp [JournalWrite.tables, JournalWrite.table])
      · rfl
    rw [JournalDb.attemptActions, hactions, List.filter_eq_nil_iff]
    intro x hx hkey
    obtain ⟨y, hy, hya, -⟩ := hdb.attempt x hx
    exact startRecovery_fresh h y hy (hya.trans (of_decide_eq_true hkey).2.symm)

end Start

/-- The attempt in a context is the one whose activity was checked. -/
theorem attempt_of_active {db : JournalDb Payload} (hdb : Numbered db) {b a : String} {ctx : RecoveryContext}
    {attempt r : RecoveryRow Payload} (hctx : readRecoveryContext db b = .ok ctx)
    (hattempt : ctx.recoveryAttempt = some attempt) (hactive : requireActiveRecoveryAttempt db b (some a) = .ok r) :
    attempt.recoveryId = a := by
  obtain ⟨latest, hlatest, hid, hphase⟩ := active_getLast? hdb hactive
  have hread : db.latestRecoveringRecoveryRow b = some attempt := by
    unfold readRecoveryContext at hctx
    split at hctx
    · cases hctx
    · next records hrecords =>
      simp only [bind_eq_ok, pure_eq_ok] at hctx
      obtain ⟨_, -, rfl⟩ := hctx
      dsimp only at hattempt
      split at hattempt
      · exact hattempt
      · cases hattempt
  have hrows : db.latestRecoveringRecoveryRow b =
      ((db.recoveryHistory b).filter fun r => r.phase = .recovering).getLast? := by
    have hlast : db.latestRecoveringRecoveryRow b =
        (db.recoveries.filter fun r => r.batchId = b ∧ r.phase = .recovering).getLast? :=
      latestRow_eq_getLast? (hdb.filter_rising (T := .recoveries) fun _ _ hr => (of_decide_eq_true hr).1)
    rw [hlast, JournalDb.recoveryHistory, List.filter_filter]
    refine congrArg List.getLast? (List.filter_congr fun r _ => ?_)
    rw [← Bool.decide_and, decide_eq_decide]
    exact And.comm
  -- the last record of the history is the last that is recovering
  obtain ⟨init, hinit⟩ := List.getLast?_eq_some_iff.1 hlatest
  have hkeep : decide (latest.phase = .recovering) = true := decide_eq_true hphase
  rw [hrows, hinit, List.filter_append, List.filter_singleton, hkeep, cond_true, List.getLast?_concat] at hread
  cases hread
  exact (Option.some.inj hid).symm

/-! ## A batch is completed -/

/-- A step that completes the recovery of a batch finds every action of its attempt settled. -/
def Completes (b : String) (w w' : World φ) : Prop :=
  w'.journal.phaseOf b = some .recoverySucceeded → w.journal.phaseOf b = some .recoverySucceeded ∨
    ∃ attempt, w.journal.latestRecoveryRow b = some attempt ∧ attempt.phase = .recovering ∧
      ∀ id ∈ w.journal.plannedActions b attempt.recoveryId, w.journal.ActionSettled b attempt.recoveryId id

section Completion

variable {b a : String} {w w' : World φ} {A : Sample ω → World φ → Prop} {h : LeaseHolder}

theorem Completes.refl (w : World φ) : Completes b w w := fun hphase => .inl hphase

theorem Completes.of_phase {p : BatchPhase} (hp : w'.journal.phaseOf b = some p) (hne : p ≠ .recoverySucceeded) :
    Completes b w w' := by
  intro hphase
  rw [hp] at hphase
  exact absurd (Option.some.inj hphase) hne

/-- A read that raises or answers. -/
theorem along_completes_read {α : Type} {read : Sample ω → World φ → Except OperationError α} :
    Along A (Completes b) (fun r w' => w' = w ∧ ∀ x, r = .ok x → ∃ i, read i w = .ok x) (databaseRead read) w :=
  along_databaseRead (.refl w) (fun _ _ _ _ => ⟨rfl, fun _ hx => by cases hx⟩) fun i _ _ => ⟨rfl, fun _ hx => ⟨i, hx⟩⟩

/-- The end of an attempt: it is completed only after a callback that did not raise. -/
theorem along_finishRecoveryWith {ctx : RecoveryContext} {result : Except OperationError Unit}
    (hsettled : result = .ok () → ActionsKept w.journal ∧
      ∀ id ∈ w.journal.plannedActions b a, w.journal.ActionSettled b a id) :
    Along A (Completes b) (fun _ _ => True) (finishRecovery h ctx b a result : Op φ ω _) w := by
  cases result with
  | error e =>
    refine along_outcome_seq (Q := fun _ _ => True) ?_ fun _ _ _ => trivial
    refine along_journalWrite (.refl w) (fun _ _ _ _ => trivial) (fun _ _ _ _ _ => trivial) fun i r db _ _ hrun => ?_
    obtain ⟨row, hrow, hphase⟩ := recordRecoveryPhase_phase hrun
    exact ⟨.of_phase (phaseOf_of_batchRow hrow) (by rw [hphase]; decide), trivial⟩
  | ok u =>
    obtain ⟨hw, hsettled⟩ := hsettled rfl
    refine along_bind (along_journalWrite (.refl w) (fun _ _ _ _ => trivial) (fun _ _ _ _ _ => trivial) ?_)
    intro i r db _ _ hrun
    obtain ⟨-, -, -, -, latest, hlatest, hid, hphase⟩ := recordRecoveryPhase_finish hw.numbered (.inl rfl) hrun
    obtain rfl : a = latest.recoveryId := Option.some.inj hid
    refine ⟨fun _ => .inr ⟨latest, ?_, hphase, hsettled⟩, ?_⟩
    · rw [hw.numbered.latestRecoveryRow]
      exact hlatest
    · refine along_bind (along_mono (fun _ _ h => h) ?_ along_completes_read)
      rintro (e | found) w₁ -
      · exact trivial
      · cases found <;> exact trivial

variable {H : RecoveryHandlers φ ω} {C : Coordinator φ ω} {h' : LeaseHolder}

/-- The recovery of a batch by the runner, under an attempt without actions. -/
theorem along_runAttemptWith (hH : H.LeaveJournal h'.lease) (hw : ActionsKept w.journal)
    (hnew : w.journal.attemptActions b a = []) :
    Along RunnerInput (Completes b) (fun _ _ => True)
      (runAttempt h b a fun ctx => runRecoveryActionsWith H.noted C h' ctx) w := by
  refine along_seq along_completes_read ?_ fun _ _ _ => trivial
  rintro ctx _ ⟨rfl, hctx⟩
  obtain ⟨_, hctx⟩ := hctx ctx rfl
  have hctx := mapError_eq_ok.1 hctx
  refine along_seq along_completes_read ?_ fun _ _ _ => trivial
  rintro u w ⟨rfl, hactive⟩
  obtain ⟨_, hactive⟩ := hactive u rfl
  obtain ⟨r, hactive, -⟩ := map_eq_ok.1 (mapError_eq_ok.1 hactive)
  simp only [checkActiveRecoveryAttempt, bind_eq_ok] at hactive
  obtain ⟨_, -, _, -, hactive⟩ := hactive
  have hb : ctx.batch.batchId = b := readRecoveryContext_batchId hctx
  -- what the callback comes to: where it does not raise, what it planned is settled
  have hcallback : Along RunnerInput (Completes b)
      (fun r w' => r = .ok () → ActionsKept w'.journal ∧
        ∀ id ∈ w'.journal.plannedActions b a, w'.journal.ActionSettled b a id)
      (requireRecoveryAuthority h b a >>= fun _ => runRecoveryActionsWith H.noted C h' ctx) w := by
    have hauthority : AllQuiet (fun _ => False) h.lease (requireRecoveryAuthority h b a : Op φ ω Unit) :=
      quiet_requireRecoveryAuthority _ _
    have hplanning : Planning b a w w := ⟨.refl hw, fun _ => rfl⟩
    refine along_mono (R := RunnerStep b a w) (fun _ _ hs hphase => .inl (hs.phase hphase)) (fun _ _ h => h) ?_
    refine along_seq (along_still (fun _ _ hs h => Planning.still h hs) (fun _ h => ⟨[], h.resumed⟩) hauthority hplanning)
      ?_ fun _ _ _ herror => by cases herror
    intro _ w₁ hw₁
    cases hattempt : ctx.recoveryAttempt with
    | none =>
      unfold runRecoveryActionsWith
      rw [hattempt]
      exact fun herror => by cases herror
    | some attempt =>
      have ha := attempt_of_active hw.numbered hctx hattempt hactive
      rw [← hb, ← ha] at hw₁ hnew ⊢
      refine along_mono (fun _ _ h => h) ?_ (along_runRecoveryActionsWith hH hattempt hw₁)
      rintro (e | u) w₂ hw₂
      · exact fun herror => by cases herror
      intro _
      obtain ⟨-, turns, hr, hsettled, hremaining⟩ := hw₂
      refine ⟨hr.kept, fun id hid => hsettled id ?_⟩
      have hin : id ∈ remainingActions ctx.batch.batchId attempt.recoveryId w w₂ := by
        refine mem_remainingActions.2 ⟨hid, ?_⟩
        rw [JournalDb.actionEnded, JournalDb.lastAction, hnew]
        rfl
      rw [hremaining] at hin
      exact (List.append_nil turns) ▸ hin
  exact along_outcome_seq hcallback fun result w' hw' => along_finishRecoveryWith hw'

/-- An attempt that could not be started. -/
theorem along_startRecoveryRaised {α : Type} {Q : Except OperationError α → World φ → Prop}
    (hQ : ∀ e w, Q (.error e) w) (batch : BatchRow Payload) (e : OperationError) :
    Along A (Completes b) Q (startRecoveryRaised batch e : Op φ ω α) w := by
  unfold startRecoveryRaised
  split
  · exact hQ _ _
  · exact along_seq along_completes_read (fun _ _ _ => hQ _ _) fun _ _ _ => hQ _ _
  · exact hQ _ _

/-- **Completing a batch.** Whatever a recovery does, and wherever it is stopped: where it
records success, every action of its attempt is carried out or skipped. -/
theorem along_recoverBatchWith (hH : H.LeaveJournal h'.lease) (hw : ActionsKept w.journal) :
    Along RunnerInput (Completes b) (fun _ _ => True)
      (recoverBatch h b fun ctx => runRecoveryActionsWith H.noted C h' ctx) w := by
  refine along_bind (along_call fun i _ => ⟨.refl w, ?_⟩)
  refine along_seq along_completes_read ?_ fun _ _ _ => trivial
  rintro _ _ ⟨rfl, -⟩
  refine along_seq along_completes_read ?_ fun _ _ _ => trivial
  rintro found w ⟨rfl, -⟩
  cases found with
  | none => exact trivial
  | some batch =>
    dsimp only
    split
    · exact trivial
    · refine along_seq (Q := fun r w => ∀ started, r = .ok started → ActionsKept w.journal ∧
        w.journal.attemptActions b started.recoveryId = []) (along_onRaise ?_) ?_ fun _ _ _ => trivial
      · have hraised : ∀ e, Along RunnerInput (Completes b) (fun r w => ∀ started, r = .ok started →
            ActionsKept w.journal ∧ w.journal.attemptActions b started.recoveryId = [])
              (startRecoveryRaised batch e : Op φ ω (RecoveryRow Payload)) w :=
          fun e => along_startRecoveryRaised (fun _ _ _ hstarted => by cases hstarted) batch e
        refine along_journalWrite (.refl w) (fun _ e _ _ => hraised e) (fun _ _ _ _ _ => hraised _) ?_
        intro i record db _ _ hrun
        obtain ⟨⟨row, r, db'⟩, hstart, heq⟩ := map_eq_ok.1 hrun
        cases heq
        obtain ⟨-, hphase, -⟩ := startRecovery_move hstart
        refine ⟨.of_phase hphase (by decide), ?_⟩
        intro started hstarted
        cases hstarted
        exact startRecovery_actions hw hstart
      · intro started w₁ hw₁
        obtain ⟨hkept, hnew⟩ := hw₁ started rfl
        exact along_runAttemptWith hH hkept hnew

end Completion

/-! ## A call and the next -/

/-- A call of `run_recovery_actions` under an attempt. -/
structure RecoveryCall (φ ω : Type) where
  handlers : RecoveryHandlers φ ω
  coordinator : Coordinator φ ω
  holder : LeaseHolder
  context : RecoveryContext
  attempt : RecoveryRow Payload
  underAttempt : context.recoveryAttempt = some attempt
  leaveJournal : handlers.LeaveJournal holder.lease

namespace RecoveryCall

variable (c : RecoveryCall φ ω)

/-- The call, with a note of every turn of a handler. -/
def program : Op φ ω Unit := runRecoveryActionsWith c.handlers.noted c.coordinator c.holder c.context

def batchId : String := c.context.batch.batchId

def attemptId : String := c.attempt.recoveryId

end RecoveryCall

/-- The journal is one that a run of the journal reaches. -/
def Reached (w : World φ) : Prop := ∃ run : List (JournalCall Payload),
  AllSteps JournalDb.step (fun db c => c.DrawsNewActionId db) (JournalDb.init Payload) run ∧
    w.journal = after JournalDb.step (JournalDb.init Payload) run

theorem Reached.kept {w : World φ} (hw : Reached w) : ActionsKept w.journal := by
  obtain ⟨run, hnew, hw⟩ := hw
  rw [hw]
  exact after_invariant_of actionsKept_step run _ hnew actionsKept_init

section Calls

variable {b a id : String} {w w₁ w₂ w₃ : World φ} {turns turns' : List String}

/-- What had its turn is on record. -/
theorem Resumed.unique (h : Resumed b a w w₁ turns) (h' : Resumed b a w w₁ turns') : turns = turns' := by
  have hhistory := List.append_cancel_left (h.history.symm.trans h'.history)
  exact List.map_injective_iff.2 (fun _ _ heq => by injection heq) hhistory

/-- A turn that is not settled is the last one. -/
theorem Resumed.last_of_open (h : Resumed b a w w₁ turns) (hid : id ∈ turns)
    (hopen : w₁.journal.actionEnded b a id = false) :
    turns.getLast? = some id ∧ ∃ r, w₁.journal.lastAction b a id = some r ∧ r.status = .attempting := by
  refine ⟨?_, ?_⟩
  · rcases List.eq_nil_or_concat turns with rfl | ⟨init, last, rfl⟩
    · cases hid
    · rw [List.concat_eq_append] at hid h ⊢
      have hsettled := h.settled
      rw [List.dropLast_concat] at hsettled
      rw [List.getLast?_concat]
      rcases List.mem_append.1 hid with hin | hin
      · rw [(hsettled id hin).ended] at hopen
        cases hopen
      · rw [List.mem_singleton.1 hin]
  · obtain ⟨r, hr, hstatus⟩ := h.marked id hid
    refine ⟨r, hr, hstatus.resolve_right fun hterminal => ?_⟩
    rw [JournalDb.actionEnded, hr, Option.any_some, hterminal] at hopen
    cases hopen

/-- A call, wherever it is stopped. -/
theorem RecoveryCall.along (c : RecoveryCall φ ω) (hw : ActionsKept w.journal) :
    Along RunnerInput (RunnerStep c.batchId c.attemptId w)
      (fun r w' => match r with | .ok _ => Round c.batchId c.attemptId w [] w' | .error _ => True) c.program w :=
  along_runRecoveryActionsWith c.leaveJournal c.underAttempt ⟨.refl hw, fun _ => rfl⟩

/-- An action whose handler has a turn in two calls was left `attempting` by the first. -/
theorem turn_again {later : List (JournalCall Payload)}
    (hlater : AllSteps JournalDb.step (fun db c => c.DrawsNewActionId db) w₁.journal later)
    (hw₂ : w₂.journal = after JournalDb.step w₁.journal later) (h : Resumed b a w w₁ turns)
    (h' : Resumed b a w₂ w₃ turns') (hid : id ∈ turns) (hid' : id ∈ turns') :
    turns.getLast? = some id ∧ ∃ r, w₁.journal.lastAction b a id = some r ∧ r.status = .attempting := by
  refine h.last_of_open hid ?_
  have hopen := (mem_remainingActions.1 (h'.order.subset hid')).2
  cases hended : w₁.journal.actionEnded b a id with
  | false => rfl
  | true =>
    -- what has ended stays as it is until the second call
    rw [JournalDb.actionEnded, hw₂, h.kept.ended_after hended hlater] at hopen
    rw [JournalDb.actionEnded, hopen] at hended
    cases hended

end Calls

/-- **A recovery is resumed, not done again.** From every world that the journal reaches, and
wherever the call is stopped: handlers have their turn only while their action is `attempting`;
they are those of the first of the actions that had not ended, in the order of planning, each
once; all of them but the last have been carried out or skipped; and a call that does not raise
has given every remaining action its turn and an end of that kind. If the handler of an action has
a turn in a later call of the same attempt, whatever the journal was used for in between, then the
first call was stopped in its turn: it was its last, and left the action `attempting`. And where a
batch is recovered by calls of the runner, the step that completes it finds every action of the
attempt carried out or skipped. -/
theorem recovery_resumes :
    (∀ (c : RecoveryCall φ ω) (w : World φ) (inputs : List (Sample ω)), Reached w →
      Meets RunnerInput c.program w inputs →
      let w' := (c.program.exec w inputs).2
      (trace c.program w inputs).IsChain (TakesTurn c.batchId c.attemptId) ∧
      ∃ turns, turns.Nodup ∧ Resumed c.batchId c.attemptId w w' turns ∧
        ((c.program.exec w inputs).1.map Prod.fst = some (.ok ()) →
          turns = remainingActions c.batchId c.attemptId w w' ∧
            ∀ id ∈ turns, w'.journal.ActionSettled c.batchId c.attemptId id) ∧
        ∀ (again : RecoveryCall φ ω) (w₂ : World φ) (later : List (JournalCall Payload)) (inputs₂ : List (Sample ω)),
          again.batchId = c.batchId → again.attemptId = c.attemptId →
          AllSteps JournalDb.step (fun db c => c.DrawsNewActionId db) w'.journal later →
          w₂.journal = after JournalDb.step w'.journal later → Meets RunnerInput again.program w₂ inputs₂ →
          ∃ turns₂, Resumed c.batchId c.attemptId w₂ (again.program.exec w₂ inputs₂).2 turns₂ ∧
            ∀ id ∈ turns, id ∈ turns₂ → turns.getLast? = some id ∧
              ∃ r, w'.journal.lastAction c.batchId c.attemptId id = some r ∧ r.status = .attempting) ∧
    ∀ (H : RecoveryHandlers φ ω) (C : Coordinator φ ω) (h h' : LeaseHolder) (b : String) (w : World φ)
      (inputs : List (Sample ω)), H.LeaveJournal h'.lease → Reached w →
      Meets RunnerInput (recoverBatch h b fun ctx => runRecoveryActionsWith H.noted C h' ctx) w inputs →
      (trace (recoverBatch h b fun ctx => runRecoveryActionsWith H.noted C h' ctx) w inputs).IsChain (Completes b) := by
  refine ⟨?_, ?_⟩
  · intro c w inputs hw hm w'
    have hkept := hw.kept
    obtain ⟨hchain, hdone⟩ := along_exec (c.along hkept) inputs hm
    -- what the call did so far, wherever it was stopped
    have hresumed : ∃ turns, Resumed c.batchId c.attemptId w w' turns :=
      along_holds (Q := fun _ _ => True) (along_mono (fun _ _ hs => hs.resumed) (fun _ _ _ => trivial) (c.along hkept))
        ⟨[], .refl hkept⟩ inputs hm
    obtain ⟨turns, hr⟩ := hresumed
    refine ⟨hchain.imp fun _ _ hs => hs.turn, turns, nodup_remainingActions.sublist hr.order.sublist, hr, ?_, ?_⟩
    · intro hok
      obtain ⟨rest, hrun⟩ := exec_of_outcome hok
      obtain ⟨-, turns', hr', hsettled, hremaining⟩ := hdone _ rest (congrArg Prod.fst hrun)
      obtain rfl := hr.unique hr'
      exact ⟨by rw [hremaining]; exact (List.append_nil turns).symm, hsettled⟩
    -- a second call finds the actions kept, whatever was written in between
    · intro again w₂ later inputs₂ hb ha hlater hw₂ hm₂
      have hkept₂ : ActionsKept w₂.journal := by
        rw [hw₂]
        exact after_invariant_of actionsKept_step later _ hlater hr.kept
      obtain ⟨turns₂, hr₂⟩ := along_holds (Q := fun _ _ => True) (along_mono (fun _ _ hs => hs.resumed)
        (fun _ _ _ => trivial) (again.along hkept₂)) ⟨[], .refl hkept₂⟩ inputs₂ hm₂
      rw [hb, ha] at hr₂
      exact ⟨turns₂, hr₂, fun id hid hid' => turn_again hlater hw₂ hr hr₂ hid hid'⟩
  · intro H C h h' b w inputs hH hw hm
    exact (along_exec (along_recoverBatchWith hH hw.kept) inputs hm).1

/-! ## Killed in a turn -/

private def dawn : DateTime := .soon 5
private def dayEnd : DateTime := .soon 100
private def dayLease : LeaseRecord := leaseFromRow "lease" ⟨"a", "t1", 1, dawn, dawn, dayEnd⟩ true true

/-- A write under the lease, numbered by the ids it draws. -/
private def byDay (w : JournalWrite Payload) (n : String) : JournalCall Payload :=
  .write w ⟨dayLease, dawn, "drawn" ++ n, "id" ++ n⟩

private def moved : RenameRecord := ⟨["x"], ["y"], .file, 0, 1, 0, 0, none⟩

/-- A batch fails after its rename, and its recovery attempt plans an action. -/
private def dayBook : List (JournalCall Payload) :=
  let file := some "file:/x"
  [.lease (.acquire "lease" "a" 95 none "t1" dawn),
    byDay (.createBatch ⟨"key", "a", "run", none, none, file, none, none, none⟩ (some "batch")) "1",
    byDay (.startBatchOperation "batch" "write_bytes" file none none none) "2",
    byDay (.recordCheckpoint "batch" "file:/x" "rename_record" (some (.renameRecord moved)) none none none) "3",
    byDay (.markFailed "batch" "error" none) "4",
    byDay (.recordRecoveryDesired "batch" ⟨none, none, none⟩) "5",
    byDay (.startRecovery "batch" ⟨none, none, some "attempt"⟩) "6",
    byDay (.recordRecoveryActionPlanned "batch" "attempt" "sweep" file none (some "sweeping") none) "7"]

private def atDawn : World Unit :=
  { World.init () with journal := after JournalDb.step (JournalDb.init Payload) dayBook }

private def dayContext : RecoveryContext :=
  (readRecoveryContext atDawn.journal "batch").toOption.get (by decide +kernel)

/-- The runner, with handlers that have nothing to do: for the action on record, and for that of the rename. -/
private def sweep : RecoveryCall Unit Unit where
  handlers := fun _ _ actionType =>
    if actionType = "sweep" ∨ actionType = restoreInverseRenameAction then some fun _ => .ret () else none
  coordinator := .inert
  holder := ⟨dayLease, none⟩
  context := dayContext
  attempt := dayContext.recoveryAttempt.get (by decide +kernel)
  underAttempt := (Option.some_get _).symm
  leaveJournal := by
    intro ctx authority actionType handler row _ hh
    dsimp only at hh
    split at hh
    · cases hh
      exact quiet_ret ()
    · cases hh

/-- A number of steps, and the ids they would draw. -/
private def strokes (n : Nat) (id : String) : List (Sample Unit) :=
  (List.range n).map fun k => ⟨dawn, id ++ toString k ++ "h", id ++ toString k, none, ()⟩

/-- The call is killed when the second handler has had its turn. -/
private def swept : World Unit := (sweep.program.exec atDawn (strokes 42 "first")).2

/-- The lease is renewed meanwhile. -/
private def renewals : List (JournalCall Payload) := [.lease (.heartbeat dayLease 95 dawn)]

private def renewed : World Unit := { swept with journal := after JournalDb.step swept.journal renewals }

/-- And the call is made again. -/
private def sweptAgain : World Unit := (sweep.program.exec renewed (strokes 27 "second")).2

/-- Before the attempt was started. -/
private def beforeDawn : World Unit :=
  { World.init () with journal := after JournalDb.step (JournalDb.init Payload) (dayBook.take 6) }

/-- The recovery of the batch by the runner. -/
private def tidy : Op Unit Unit (BatchRow Payload) :=
  recoverBatch ⟨dayLease, none⟩ "batch" fun ctx => runRecoveryActionsWith sweep.handlers.noted .inert ⟨dayLease, none⟩ ctx

private def tidied : World Unit := (tidy.exec beforeDawn (strokes 38 "tidy")).2

private theorem beforeDawn_reached : Reached beforeDawn :=
  ⟨dayBook.take 6, ⟨trivial, trivial, trivial, trivial, trivial, trivial, trivial⟩, rfl⟩

private theorem atDawn_reached : Reached atDawn := by
  refine ⟨dayBook, ?_, rfl⟩
  refine ⟨trivial, trivial, trivial, trivial, trivial, trivial, trivial, ?_, trivial⟩
  intro hempty
  exact absurd hempty (by decide)

/-- Inputs without failures, whose drawn ids are looked up. -/
private theorem strokes_meet {α : Type} {p : Op Unit Unit α} {w : World Unit} {inputs : List (Sample Unit)}
    (h : Meets (fun i w => (∀ r ∈ w.journal.recoveryActions, r.actionId ≠ i.handoffId) ∧ i.fault = none) p w inputs) :
    Meets RunnerInput p w inputs := by
  refine meets_mono (fun i w hi => ⟨hi.1, fun reason code hf => ?_⟩) h
  rw [hi.2] at hf
  cases hf

/-- The first call is killed in the turn of the second of two actions, and the second call takes up no other;
a batch whose recovery plans an action is recovered when that is carried out. -/
theorem recovery_resumes_killed :
    (swept.history.map MutationEvent.key = ["sweeping", "restore-inverse-rename:/y:/x"] ∧
      sweptAgain.history.map MutationEvent.key =
        ["sweeping", "restore-inverse-rename:/y:/x", "restore-inverse-rename:/y:/x"] ∧
      ∃ turns turns₂, turns.Nodup ∧ Resumed sweep.batchId sweep.attemptId atDawn swept turns ∧
        Resumed sweep.batchId sweep.attemptId renewed sweptAgain turns₂ ∧
        ∀ id ∈ turns, id ∈ turns₂ → turns.getLast? = some id) ∧
    (tidied.history.map MutationEvent.key = ["restore-inverse-rename:/y:/x"] ∧
      tidied.journal.phaseOf "batch" = some .recoverySucceeded ∧
      (trace tidy beforeDawn (strokes 38 "tidy")).IsChain (Completes "batch")) := by
  refine ⟨⟨by decide +kernel, by decide +kernel, ?_⟩, by decide +kernel, by decide +kernel, ?_⟩
  · obtain ⟨-, turns, hnodup, hr, -, hlater⟩ := recovery_resumes.1 sweep atDawn (strokes 42 "first") atDawn_reached
      (strokes_meet (by decide +kernel))
    obtain ⟨turns₂, hr₂, hagain⟩ := hlater sweep renewed renewals (strokes 27 "second") rfl rfl ⟨trivial, trivial⟩ rfl
      (strokes_meet (by decide +kernel))
    exact ⟨turns, turns₂, hnodup, hr, hr₂, fun id hid hid₂ => (hagain id hid hid₂).1⟩
  · exact recovery_resumes.2 sweep.handlers .inert ⟨dayLease, none⟩ ⟨dayLease, none⟩ "batch" beforeDawn
      _ sweep.leaveJournal beforeDawn_reached (strokes_meet (by decide +kernel))

/-- A handler can have a turn twice in one attempt: killed in its turn, and called again. -/
theorem handler_runs_again : ¬ ∀ (c : RecoveryCall Unit Unit) (w : World Unit) (first second : List (Sample Unit)),
    Reached w → w.history = [] → Meets RunnerInput c.program w first →
      Meets RunnerInput c.program (c.program.exec w first).2 second →
      ((c.program.exec (c.program.exec w first).2 second).2.history.map MutationEvent.key).Nodup := by
  intro honce
  have htwice := honce sweep atDawn (strokes 42 "first") (strokes 27 "second") atDawn_reached rfl
    (strokes_meet (by decide +kernel)) (strokes_meet (by decide +kernel))
  have hkeys : (sweep.program.exec swept (strokes 27 "second")).2.history.map MutationEvent.key =
      ["sweeping", "restore-inverse-rename:/y:/x", "restore-inverse-rename:/y:/x"] := by decide +kernel
  rw [show (sweep.program.exec atDawn (strokes 42 "first")).2 = swept from rfl, hkeys] at htwice
  exact absurd htwice (by decide)

end SafeFsOps
