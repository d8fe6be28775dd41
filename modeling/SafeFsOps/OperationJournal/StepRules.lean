import SafeFsOps.OperationJournal.Coordinator

/-!
# The steps of a method, one by one

A coordinator's method is made of a few kinds of steps: a database transaction,
which commits as a whole or raises, a read, a write of the journal. Here is what
`Along` asks of each kind, so that an argument about a method says what its steps
do and nothing about how they are put together. A step that fails on its own
account (`Sample.fault`) raises and leaves the world as it was; where an argument
needs a database that answers, its condition on the inputs says so.
-/

namespace SafeFsOps

open Program

variable {φ ω α β : Type} {C : Sample ω → World φ → Prop} {R : World φ → World φ → Prop}
  {Q : Except OperationError α → World φ → Prop} {w : World φ}

/-- A transaction: what it commits, or the world as it was. -/
theorem along_transaction {act : Sample ω → World φ → Except OperationError (α × World φ)} (hR : R w w)
    (hfault : ∀ i e, C i w → i.fault = some e → Q (.error e) w)
    (hraise : ∀ i e, C i w → i.fault = none → act i w = .error e → Q (.error e) w)
    (hcommit : ∀ i a w', C i w → i.fault = none → act i w = .ok (a, w') → R w w' ∧ Q (.ok a) w') :
    Along C R Q (transaction act) w := by
  refine along_call fun i hi => ?_
  cases hf : i.fault with
  | some e => exact ⟨hR, hfault i e hi hf⟩
  | none =>
    cases hact : act i w with
    | error e => exact ⟨hR, hraise i e hi hf hact⟩
    | ok r => exact hcommit i r.1 r.2 hi hf hact

/-- A read, whatever it answers. -/
theorem along_databaseRead {read : Sample ω → World φ → Except OperationError α} (hR : R w w)
    (hfault : ∀ i e, C i w → i.fault = some e → Q (.error e) w)
    (hread : ∀ i, C i w → i.fault = none → Q (read i w) w) : Along C R Q (databaseRead read) w := by
  refine along_transaction hR hfault (fun i e hi hf h => ?_) fun i a w' hi hf h => ?_
  · cases hr : read i w with
    | error e' =>
      rw [hr] at h
      cases h
      exact hr ▸ hread i hi hf
    | ok b =>
      rw [hr] at h
      cases h
  · obtain ⟨b, hb, heq⟩ := map_eq_ok.1 h
    cases heq
    exact ⟨hR, hb ▸ hread i hi hf⟩

/-- A read whose answer is known. -/
theorem finds_databaseRead {read : Sample ω → World φ → Except OperationError α} {a : α} (hR : R w w)
    (hread : ∀ i, read i w = .ok a) : Program.Finds C R (databaseRead read) a w := by
  refine along_databaseRead hR (fun _ e _ _ => ⟨rfl, fun _ hb => by cases hb⟩) fun i _ _ => ⟨rfl, fun b hb => ?_⟩
  rw [hread i] at hb
  exact (Except.ok.inj hb).symm

/-- A write of the journal: what it commits, or nothing. -/
theorem along_journalWrite {h : LeaseHolder}
    {write : JournalDb Payload → WriteContext → Except JournalError (α × JournalDb Payload)} (hR : R w w)
    (hfault : ∀ i e, C i w → i.fault = some e → Q (.error e) w)
    (hraise : ∀ i e, C i w → i.fault = none → write w.journal (h.context i) = .error e → Q (.error (.journal e)) w)
    (hwrite : ∀ i a db, C i w → i.fault = none → write w.journal (h.context i) = .ok (a, db) →
      R w { w with journal := db } ∧ Q (.ok a) { w with journal := db }) :
    Along C R Q (journalWrite h write) w := by
  refine along_transaction hR hfault (fun i e hi hf hact => ?_) fun i a w' hi hf hact => ?_
  · split at hact
    · cases hact
    · next e' hrun =>
      cases hact
      exact hraise i e' hi hf hrun
  · split at hact
    · next a' db hrun =>
      cases hact
      exact hwrite i _ _ hi hf hrun
    · cases hact

/-- What a transaction raises: its own failure, or what it refuses with. -/
theorem raises_transaction {A : Sample ω → World φ → Prop} {E : OperationError → Prop}
    {act : Sample ω → World φ → Except OperationError (α × World φ)}
    (hfault : ∀ i w e, A i w → i.fault = some e → E e) (hact : ∀ i w e, A i w → act i w = .error e → E e) :
    RaisesOnly A E (transaction act) := by
  refine raises_call fun i w e hi he => ?_
  cases hf : i.fault with
  | some e' =>
    simp only [hf] at he
    cases he
    exact hfault i w e hi hf
  | none =>
    simp only [hf] at he
    cases hrun : act i w with
    | ok r =>
      simp only [hrun] at he
      cases he
    | error e' =>
      simp only [hrun] at he
      cases he
      exact hact i w e hi hrun

/-- What a read raises. -/
theorem raises_read {A : Sample ω → World φ → Prop} {E : OperationError → Prop}
    {read : Sample ω → World φ → Except OperationError α} (hfault : ∀ i w e, A i w → i.fault = some e → E e)
    (hread : ∀ i w e, read i w = .error e → E e) : RaisesOnly A E (databaseRead read) := by
  refine raises_transaction hfault fun i w e _ he => ?_
  cases hr : read i w with
  | error e' =>
    rw [hr] at he
    cases he
    exact hread i w _ hr
  | ok a =>
    rw [hr] at he
    cases he

/-! ## Programs that only read -/

/-- Every step of the program leaves the world as it is. -/
def AllRead (p : Op φ ω α) : Prop := EachStep (fun w w' => w' = w) p

theorem read_databaseRead (read : Sample ω → World φ → Except OperationError α) : AllRead (databaseRead read) := by
  refine eachStep_call fun i w => ?_
  split
  · rfl
  · split
    · next a w' hact =>
      obtain ⟨_, -, heq⟩ := map_eq_ok.1 hact
      cases heq
      rfl
    · rfl

theorem read_bind {p : Op φ ω α} {f : α → Op φ ω β} (hp : AllRead p) (hf : ∀ a, AllRead (f a)) :
    AllRead (p >>= f) := eachStep_bind hf hp

theorem read_requireAuthority (c : Caller) (resourceKey : String) :
    AllRead (requireAuthority c resourceKey : Op φ ω Unit) :=
  read_bind (read_databaseRead _) fun _ => read_bind (read_databaseRead _) fun _ => eachStep_ofExcept _

/-- It ends where it began. -/
theorem along_read {p : Op φ ω α} (h : AllRead p) (hR : R w w) : Along C R (fun _ w' => w' = w) p w :=
  along_eachStep (I := fun w' => w' = w) (fun _ _ hstep hI => by subst hstep; subst hI; exact ⟨hR, rfl⟩) h rfl

/-! ## Steps that answered -/

variable {a : α} {w' : World φ} {inputs rest : List (Sample ω)}

/-- A transaction that answered took one input and committed. -/
theorem exec_transaction {act : Sample ω → World φ → Except OperationError (α × World φ)}
    (h : (transaction act).exec w inputs = (some (.ok a, rest), w')) :
    ∃ i, inputs = i :: rest ∧ act i w = .ok (a, w') := by
  cases inputs with
  | nil => cases h
  | cons i inputs =>
    rw [transaction, exec_call] at h
    cases hf : i.fault with
    | some e =>
      simp only [hf] at h
      cases h
    | none =>
      cases hact : act i w with
      | error e =>
        simp only [hf, hact] at h
        cases h
      | ok r =>
        simp only [hf, hact] at h
        cases h
        exact ⟨i, rfl, hact⟩

/-- A journal write that answered wrote to the journal only. -/
theorem exec_journalWrite {h : LeaseHolder}
    {write : JournalDb Payload → WriteContext → Except JournalError (α × JournalDb Payload)}
    (hrun : (journalWrite h write).exec w inputs = (some (.ok a, rest), w')) :
    ∃ ctx, write w.journal ctx = .ok (a, w'.journal) := by
  obtain ⟨i, -, hact⟩ := exec_transaction hrun
  cases hwrite : write w.journal (h.context i) with
  | error e =>
    simp only [hwrite] at hact
    cases hact
  | ok r =>
    simp only [hwrite] at hact
    cases hact
    exact ⟨h.context i, hwrite⟩

/-- A read leaves the world as it was. -/
theorem exec_databaseRead {read : Sample ω → World φ → Except OperationError α}
    (hrun : (databaseRead read).exec w inputs = (some (.ok a, rest), w')) : w' = w := by
  obtain ⟨i, -, hact⟩ := exec_transaction hrun
  obtain ⟨b, -, heq⟩ := map_eq_ok.1 hact
  cases heq
  rfl

end SafeFsOps
