import SafeFsOps.Runs
import SafeFsOps.WorkspaceState.Leases

/-!
# Lease fencing over any run

`Leases` is one call at a time; this file is about every interleaving of
`acquire`, `heartbeat` and `release` by any number of holders, each call with a
clock sample of its own. Nothing orders the samples.

`LeaseWorld` adds to the table what the outside has seen: the records handed out
and the tokens that were ever stored. The invariant `LeaseInv` says that handed
out records never run ahead of the row, and that one (name, fencing token) was
granted once. A record is `Dead` when the row has moved past it: a larger fencing
token, or the same one under a token it does not have. Deadness is forever:

> `dead_step`: `Dead` survives every call that draws a fresh token,

and a dead record is current at no time sample, so nothing it is used for
touches the row. The two ways to die are being superseded (`acquire` counts the
fencing token up) and being released (`release` rotates the token).
-/

namespace SafeFsOps

/-- The lease table and what callers have seen of it. -/
structure LeaseWorld where
  table : LeaseTable
  /-- every record a call has returned -/
  handed : List LeaseRecord
  /-- every token that was ever stored -/
  tokens : List String

/-- One call on `LeaseStore`, with its clock sample and the token it would draw. -/
inductive LeaseCall where
  | acquire (name owner : String) (ttl : Int) (token : Option String) (generated : String) (now : DateTime)
  | heartbeat (lease : LeaseRecord) (ttl : Int) (now : DateTime)
  | release (lease : LeaseRecord) (generated : String) (now : DateTime)

namespace LeaseWorld

def init : LeaseWorld := { table := LeaseTable.empty, handed := [], tokens := [] }

/-- One call; an exception leaves everything as it was. -/
def step (w : LeaseWorld) : LeaseCall → LeaseWorld
  | .acquire name owner ttl token generated now =>
    match SafeFsOps.acquire w.table name owner ttl token generated now with
    | .ok (lease, t) =>
      { table := t, handed := lease :: w.handed, tokens := tokenOr token generated :: w.tokens }
    | .error _ => w
  | .heartbeat lease ttl now =>
    match SafeFsOps.heartbeat w.table lease ttl now with
    | .ok (some renewed, t) => { w with table := t, handed := renewed :: w.handed }
    | .ok (none, t) => { w with table := t }
    | .error _ => w
  | .release lease generated now =>
    { w with table := (releaseLease w.table lease generated now).2, tokens := generated :: w.tokens }

end LeaseWorld

/-- The token a call draws from `secrets`, if it draws one. -/
def LeaseCall.draws : LeaseCall → Option String
  | .acquire _ _ _ token generated _ => if tokenOr token generated = generated then some generated else none
  | .heartbeat .. => none
  | .release _ generated _ => some generated

/-- Generated tokens are fresh: none that was ever stored. -/
def DrawsFresh (w : LeaseWorld) (c : LeaseCall) : Prop := ∀ g, c.draws = some g → g ∉ w.tokens

instance (w : LeaseWorld) (c : LeaseCall) : Decidable (DrawsFresh w c) :=
  match h : c.draws with
  | none => isTrue (fun g hg => by rw [h] at hg; cases hg)
  | some g =>
    if hg : g ∈ w.tokens then isFalse (fun hf => hf g h hg)
    else isTrue (fun g' hg' => by rw [h] at hg'; cases hg'; exact hg)

/-- Two records of one lease: everything the store compares agrees. -/
def LeaseRecord.SameLease (r r' : LeaseRecord) : Prop :=
  r.name = r'.name ∧ r.owner = r'.owner ∧ r.token = r'.token ∧ r.fencingToken = r'.fencingToken

/-! ## The invariant -/

structure LeaseInv (w : LeaseWorld) : Prop where
  /-- fencing tokens start at one; `0` is the mark of a record without authority -/
  pos : ∀ name row, w.table name = some row → 1 ≤ row.fencingToken
  /-- stored tokens were drawn or supplied -/
  stored : ∀ name row, w.table name = some row → row.token ∈ w.tokens
  /-- no record runs ahead of its row -/
  behind : ∀ r ∈ w.handed, r.fencingToken = 0 ∨
    ∃ row, w.table r.name = some row ∧ r.fencingToken ≤ row.fencingToken
  /-- a granted record carries a real fencing token -/
  granted : ∀ r ∈ w.handed, r.acquired = true → 1 ≤ r.fencingToken
  /-- one name and fencing token is granted once -/
  once : ∀ r ∈ w.handed, ∀ r' ∈ w.handed, r.acquired = true → r'.acquired = true →
    r.name = r'.name → r.fencingToken = r'.fencingToken → r = r'

theorem leaseInv_init : LeaseInv LeaseWorld.init where
  pos := by intro name row h; cases h
  stored := by intro name row h; cases h
  behind := by intro r h; cases h
  granted := by intro r h; cases h
  once := by intro r h; cases h

/-- Writing the row of one name keeps every record behind its row, as long as
that row does not move back. -/
theorem behind_set {t : LeaseTable} {name : String} {row : LeaseRow} {r : LeaseRecord}
    (hle : ∀ old, t name = some old → old.fencingToken ≤ row.fencingToken)
    (h : r.fencingToken = 0 ∨ ∃ old, t r.name = some old ∧ r.fencingToken ≤ old.fencingToken) :
    r.fencingToken = 0 ∨
      ∃ old, t.set name row r.name = some old ∧ r.fencingToken ≤ old.fencingToken := by
  rcases h with h | ⟨old, hold, hr⟩
  · exact Or.inl h
  · by_cases hn : r.name = name
    · refine Or.inr ⟨row, by rw [hn, LeaseTable.set_self], Nat.le_trans hr (hle old ?_)⟩
      rw [← hn]; exact hold
    · exact Or.inr ⟨old, by rw [LeaseTable.set_ne _ _ hn]; exact hold, hr⟩

/-- A successful acquisition outruns every record of its name. -/
theorem acquire_outruns {w : LeaseWorld} (hw : LeaseInv w) {name owner generated : String} {ttl : Int}
    {token : Option String} {now : DateTime} {g : LeaseRecord} {t : LeaseTable}
    (h : acquire w.table name owner ttl token generated now = .ok (g, t)) (hg : g.acquired = true)
    {r : LeaseRecord} (hr : r ∈ w.handed) (hn : r.name = name) : r.fencingToken < g.fencingToken := by
  obtain ⟨row, rfl, -, -, -, -, hrow⟩ := acquire_acquired h hg
  show r.fencingToken < row.fencingToken
  rcases hw.behind r hr with h0 | ⟨old, hold, hle⟩
  · rcases hrow with ⟨-, h1⟩ | ⟨old, -, -, h1⟩ <;> omega
  · rw [hn] at hold
    rcases hrow with ⟨hnone, -⟩ | ⟨old', hold', -, h1⟩
    · rw [hold] at hnone; cases hnone
    · rw [hold] at hold'
      cases hold'
      omega

theorem leaseInv_acquire {w : LeaseWorld} (hw : LeaseInv w) {name owner generated : String} {ttl : Int}
    {token : Option String} {now : DateTime} {g : LeaseRecord} {t : LeaseTable}
    (h : acquire w.table name owner ttl token generated now = .ok (g, t)) :
    LeaseInv { table := t, handed := g :: w.handed, tokens := tokenOr token generated :: w.tokens } := by
  cases hg : g.acquired with
  -- refused: a record with token 0, and no row changes
  | false =>
    obtain ⟨rfl, -, -, h0⟩ := acquire_refused h hg
    refine ⟨hw.pos, fun n row hr => List.mem_cons_of_mem _ (hw.stored n row hr), ?_, ?_, ?_⟩
    · intro r hr
      rcases List.mem_cons.1 hr with rfl | hr
      · exact Or.inl h0
      · exact hw.behind r hr
    · intro r hr ha
      rcases List.mem_cons.1 hr with rfl | hr
      · rw [hg] at ha; cases ha
      · exact hw.granted r hr ha
    · intro r hr r' hr' ha ha'
      rcases List.mem_cons.1 hr with rfl | hr
      · rw [hg] at ha; cases ha
      · rcases List.mem_cons.1 hr' with rfl | hr'
        · rw [hg] at ha'; cases ha'
        · exact hw.once r hr r' hr' ha ha'
  -- granted: the row's token rises above every record of the name
  | true =>
    have hout := fun {r : LeaseRecord} (hr : r ∈ w.handed) => acquire_outruns hw h hg (r := r) hr
    obtain ⟨row, rfl, rfl, -, -, htok, hrow⟩ := acquire_acquired h hg
    have hpos : 1 ≤ row.fencingToken := by rcases hrow with ⟨-, h1⟩ | ⟨_, -, -, h1⟩ <;> omega
    have hle : ∀ old, w.table name = some old → old.fencingToken ≤ row.fencingToken := by
      intro old hold
      rcases hrow with ⟨hnone, -⟩ | ⟨old', hold', -, h1⟩
      · rw [hold] at hnone; cases hnone
      · rw [hold] at hold'; cases hold'; omega
    refine ⟨?_, ?_, ?_, ?_, ?_⟩
    · intro n r hr
      rcases LeaseTable.set_eq_some hr with ⟨-, rfl⟩ | ⟨-, hr⟩
      · exact hpos
      · exact hw.pos n r hr
    · intro n r hr
      rcases LeaseTable.set_eq_some hr with ⟨-, rfl⟩ | ⟨-, hr⟩
      · rw [htok]; exact List.mem_cons_self
      · exact List.mem_cons_of_mem _ (hw.stored n r hr)
    · intro r hr
      rcases List.mem_cons.1 hr with rfl | hr
      · exact Or.inr ⟨row, LeaseTable.set_self _ _ _, Nat.le_refl _⟩
      · exact behind_set hle (hw.behind r hr)
    · intro r hr ha
      rcases List.mem_cons.1 hr with rfl | hr
      · exact hpos
      · exact hw.granted r hr ha
    · -- the new grant is ahead of all earlier records of its name
      intro r hr r' hr' ha ha' hn hf
      rcases List.mem_cons.1 hr with rfl | hr <;> rcases List.mem_cons.1 hr' with rfl | hr'
      · rfl
      · exact absurd hf (by have := hout hr' hn.symm; omega)
      · exact absurd hf (by have := hout hr hn; omega)
      · exact hw.once r hr r' hr' ha ha' hn hf

/-- Rewriting a row under its own fencing token, handing out at most a record of
that row, keeps the invariant. -/
theorem leaseInv_rewrite {w : LeaseWorld} (hw : LeaseInv w) {name : String} {old row : LeaseRow}
    {tokens : List String} {handed : List LeaseRecord} (hold : w.table name = some old)
    (hf : row.fencingToken = old.fencingToken) (htok : row.token ∈ tokens)
    (hsub : ∀ x ∈ w.tokens, x ∈ tokens)
    (hhanded : ∀ r ∈ handed, r ∈ w.handed ∨ r = leaseFromRow name row false true) :
    LeaseInv { table := w.table.set name row, handed := handed, tokens := tokens } := by
  refine ⟨?_, ?_, ?_, ?_, ?_⟩
  · intro n r hr
    rcases LeaseTable.set_eq_some hr with ⟨-, rfl⟩ | ⟨-, hr⟩
    · rw [hf]; exact hw.pos name old hold
    · exact hw.pos n r hr
  · intro n r hr
    rcases LeaseTable.set_eq_some hr with ⟨-, rfl⟩ | ⟨-, hr⟩
    · exact htok
    · exact hsub _ (hw.stored n r hr)
  · intro r hr
    rcases hhanded r hr with hr | rfl
    · refine behind_set ?_ (hw.behind r hr)
      intro o ho
      rw [hold] at ho; cases ho; omega
    · exact Or.inr ⟨row, LeaseTable.set_self _ _ _, Nat.le_refl _⟩
  · intro r hr ha
    rcases hhanded r hr with hr | rfl
    · exact hw.granted r hr ha
    · cases ha
  · intro r hr r' hr' ha ha'
    rcases hhanded r hr with hr | rfl
    · rcases hhanded r' hr' with hr' | rfl
      · exact hw.once r hr r' hr' ha ha'
      · cases ha'
    · cases ha

theorem leaseInv_step (w : LeaseWorld) (c : LeaseCall) (hw : LeaseInv w) : LeaseInv (w.step c) := by
  cases c with
  | acquire name owner ttl token generated now =>
    simp only [LeaseWorld.step]
    split
    · next lease t h => exact leaseInv_acquire hw h
    · exact hw
  | heartbeat lease ttl now =>
    simp only [LeaseWorld.step]
    split
    · next renewed t h =>
      obtain ⟨row, row', hrow, rfl, rfl, -, htok, hf, -⟩ := heartbeat_some h
      have hold := (rowMatches_eq_some.1 hrow).1
      refine leaseInv_rewrite hw hold hf ?_ (fun _ hx => hx) ?_
      · rw [htok]; exact hw.stored _ _ hold
      · intro r hr
        exact (List.mem_cons.1 hr).symm
    · next t h => obtain ⟨-, rfl⟩ := heartbeat_none h; exact hw
    · exact hw
  | release lease generated now =>
    simp only [LeaseWorld.step]
    cases h : releaseLease w.table lease generated now with
    | mk released t =>
    cases released with
    | false =>
      obtain ⟨-, rfl⟩ := releaseLease_false h
      exact ⟨hw.pos, fun n r hr => List.mem_cons_of_mem _ (hw.stored n r hr), hw.behind, hw.granted, hw.once⟩
    | true =>
      obtain ⟨row, hrow, rfl⟩ := releaseLease_true h
      refine leaseInv_rewrite hw (rowMatches_eq_some.1 hrow).1 rfl List.mem_cons_self ?_ ?_
      · intro x hx; exact List.mem_cons_of_mem _ hx
      · intro r hr; exact Or.inl hr

/-! ## Dead records -/

/-- The row has moved past `r`, and `r`'s token can not come back. -/
def Dead (w : LeaseWorld) (r : LeaseRecord) : Prop :=
  ∃ row, w.table r.name = some row ∧ (r.fencingToken < row.fencingToken ∨
    r.fencingToken = row.fencingToken ∧ r.token ≠ row.token ∧ r.token ∈ w.tokens)

theorem dead_not_current {w : LeaseWorld} {r : LeaseRecord} (h : Dead w r) (now : DateTime) :
    rowMatches w.table r now = none := by
  obtain ⟨row, hrow, hpast⟩ := h
  by_contra hne
  obtain ⟨row', hm⟩ := Option.ne_none_iff_exists'.1 hne
  obtain ⟨hrow', -, htok, hf, -⟩ := rowMatches_eq_some.1 hm
  rw [hrow] at hrow'
  cases hrow'
  rcases hpast with hlt | ⟨-, hne', -⟩
  · omega
  · exact hne' htok.symm

/-- Rewriting the row of some name under its own fencing token leaves a dead
record dead, unless the row takes the record's own token. -/
theorem dead_rewrite {w : LeaseWorld} {r : LeaseRecord} (hd : Dead w r) {name : String}
    {old row : LeaseRow} {handed : List LeaseRecord} {tokens : List String}
    (hold : w.table name = some old) (hf : row.fencingToken = old.fencingToken)
    (htok : r.token ∈ w.tokens → r.token ≠ old.token → r.token ≠ row.token)
    (hsub : ∀ x ∈ w.tokens, x ∈ tokens) :
    Dead { table := w.table.set name row, handed := handed, tokens := tokens } r := by
  obtain ⟨row', hrow, hpast⟩ := hd
  by_cases hn : r.name = name
  · rw [hn, hold] at hrow
    cases hrow
    refine ⟨row, by show w.table.set name row r.name = _; rw [hn, LeaseTable.set_self], ?_⟩
    rcases hpast with hlt | ⟨heq, hne, hmem⟩
    · exact Or.inl (by omega)
    · exact Or.inr ⟨by omega, htok hmem hne, hsub _ hmem⟩
  · refine ⟨row', by show w.table.set name row r.name = _; rw [LeaseTable.set_ne _ _ hn]; exact hrow, ?_⟩
    rcases hpast with hlt | ⟨heq, hne, hmem⟩
    · exact Or.inl hlt
    · exact Or.inr ⟨heq, hne, hsub _ hmem⟩

/-- **Dead stays dead** under every call that draws a fresh token. -/
theorem dead_step {w : LeaseWorld} {c : LeaseCall} {r : LeaseRecord}
    (hfresh : DrawsFresh w c) (hd : Dead w r) : Dead (w.step c) r := by
  cases c with
  | acquire name owner ttl token generated now =>
    simp only [LeaseWorld.step]
    split
    · next lease t h =>
      obtain ⟨old, hold, hpast⟩ := hd
      cases hg : lease.acquired with
      | false =>
        obtain ⟨rfl, -⟩ := acquire_refused h hg
        refine ⟨old, hold, ?_⟩
        rcases hpast with hlt | ⟨heq, hne, hmem⟩
        · exact Or.inl hlt
        · exact Or.inr ⟨heq, hne, List.mem_cons_of_mem _ hmem⟩
      | true =>
        obtain ⟨row, -, rfl, -, -, -, hrow⟩ := acquire_acquired h hg
        by_cases hn : r.name = name
        · refine ⟨row, by show w.table.set name row r.name = _; rw [hn, LeaseTable.set_self], Or.inl ?_⟩
          rw [hn] at hold
          rcases hrow with ⟨hnone, -⟩ | ⟨old', hold', -, h1⟩
          · rw [hold] at hnone; cases hnone
          · rw [hold] at hold'; cases hold'; omega
        · refine ⟨old, by show w.table.set name row r.name = _; rw [LeaseTable.set_ne _ _ hn]; exact hold, ?_⟩
          rcases hpast with hlt | ⟨heq, hne, hmem⟩
          · exact Or.inl hlt
          · exact Or.inr ⟨heq, hne, List.mem_cons_of_mem _ hmem⟩
    · exact hd
  | heartbeat lease ttl now =>
    simp only [LeaseWorld.step]
    split
    · next renewed t h =>
      obtain ⟨row, row', hrow, -, rfl, -, htok, hf, -⟩ := heartbeat_some h
      refine dead_rewrite hd (rowMatches_eq_some.1 hrow).1 hf ?_ (fun _ hx => hx)
      intro _ hne
      rw [htok]; exact hne
    · next t h => obtain ⟨-, rfl⟩ := heartbeat_none h; exact hd
    · exact hd
  | release lease generated now =>
    simp only [LeaseWorld.step]
    cases h : releaseLease w.table lease generated now with
    | mk released t =>
    cases released with
    | false =>
      obtain ⟨-, rfl⟩ := releaseLease_false h
      obtain ⟨old, hold, hpast⟩ := hd
      refine ⟨old, hold, ?_⟩
      rcases hpast with hlt | ⟨heq, hne, hmem⟩
      · exact Or.inl hlt
      · exact Or.inr ⟨heq, hne, List.mem_cons_of_mem _ hmem⟩
    | true =>
      obtain ⟨row, hrow, rfl⟩ := releaseLease_true h
      refine dead_rewrite hd (rowMatches_eq_some.1 hrow).1 rfl ?_ (fun _ hx => List.mem_cons_of_mem _ hx)
      -- the rotated token is fresh, so it is not the dead record's
      intro hmem _ heq
      rw [show r.token = generated from heq] at hmem
      exact hfresh generated rfl hmem

/-- The two ways a record `r` loses its lease for good: its lease is released,
or the name is acquired anew after `r` was handed out. -/
def Revokes (w : LeaseWorld) (c : LeaseCall) (r : LeaseRecord) : Prop :=
  (∃ r' generated now, c = .release r' generated now ∧ r'.SameLease r ∧
    (releaseLease w.table r' generated now).1 = true) ∨
  (r ∈ w.handed ∧ ∃ owner ttl token generated now g t, c = .acquire r.name owner ttl token generated now ∧
    acquire w.table r.name owner ttl token generated now = .ok (g, t) ∧ g.acquired = true)

/-- Either way the record is dead afterwards. -/
theorem dead_of_revokes {w : LeaseWorld} (hw : LeaseInv w) {c : LeaseCall} {r : LeaseRecord}
    (hfresh : DrawsFresh w c) (h : Revokes w c r) : Dead (w.step c) r := by
  rcases h with ⟨r', generated, now, rfl, ⟨hn, -, htok, hf⟩, hrel⟩ | ⟨hr, owner, ttl, token, generated, now, g, t, rfl, hacq, hg⟩
  · simp only [LeaseWorld.step]
    cases hres : releaseLease w.table r' generated now with
    | mk released t =>
    rw [hres] at hrel
    obtain rfl : released = true := hrel
    obtain ⟨row, hrow, rfl⟩ := releaseLease_true hres
    obtain ⟨hold, -, htok', hf', -⟩ := rowMatches_eq_some.1 hrow
    have hmem : r.token ∈ w.tokens := by rw [← htok, ← htok']; exact hw.stored _ _ hold
    refine ⟨{ row with heartbeatAt := now, expiresAt := now, token := generated },
      by rw [← hn]; exact LeaseTable.set_self _ _ _, Or.inr ⟨?_, ?_, List.mem_cons_of_mem _ hmem⟩⟩
    · show r.fencingToken = row.fencingToken
      omega
    · intro heq
      rw [show r.token = generated from heq] at hmem
      exact hfresh generated rfl hmem
  · have hlt := acquire_outruns hw hacq hg hr rfl
    obtain ⟨row, rfl, rfl, -⟩ := acquire_acquired hacq hg
    simp only [LeaseWorld.step, hacq]
    exact ⟨row, LeaseTable.set_self _ _ _, Or.inl hlt⟩

/-! ## The fencing law -/

/-- **Lease fencing.** In every run whose generated tokens are fresh:
(a) a successful acquire outruns every record of its name handed out before;
(b) of the records handed out for a name, those current at one time sample are
one lease, and only one grant of it;
(c) once revoked, a record is never current again and neither a heartbeat nor a
release made with it is accepted or changes the table. -/
theorem lease_fencing (run : List LeaseCall)
    (hfresh : AllSteps LeaseWorld.step DrawsFresh LeaseWorld.init run) :
    (∀ name owner ttl token generated now g t,
      acquire (after LeaseWorld.step LeaseWorld.init run).table name owner ttl token generated now
        = .ok (g, t) → g.acquired = true →
      ∀ r ∈ (after LeaseWorld.step LeaseWorld.init run).handed, r.name = name →
        r.fencingToken < g.fencingToken) ∧
    (∀ r ∈ (after LeaseWorld.step LeaseWorld.init run).handed,
      ∀ r' ∈ (after LeaseWorld.step LeaseWorld.init run).handed, r.name = r'.name → ∀ now,
      leaseIsCurrent (after LeaseWorld.step LeaseWorld.init run).table r now = true →
      leaseIsCurrent (after LeaseWorld.step LeaseWorld.init run).table r' now = true →
      r.SameLease r' ∧ (r.acquired = true → r'.acquired = true → r = r')) ∧
    (∀ pre c post r, run = pre ++ c :: post → Revokes (after LeaseWorld.step LeaseWorld.init pre) c r →
      ∀ now, leaseIsCurrent (after LeaseWorld.step LeaseWorld.init run).table r now = false ∧
        (∀ ttl renewed t, heartbeat (after LeaseWorld.step LeaseWorld.init run).table r ttl now
          ≠ .ok (some renewed, t)) ∧
        (∀ ttl, (LeaseWorld.step (after LeaseWorld.step LeaseWorld.init run) (.heartbeat r ttl now)).table
          = (after LeaseWorld.step LeaseWorld.init run).table) ∧
        (∀ generated, releaseLease (after LeaseWorld.step LeaseWorld.init run).table r generated now
          = (false, (after LeaseWorld.step LeaseWorld.init run).table))) := by
  have hinv := after_invariant leaseInv_step run _ leaseInv_init
  refine ⟨?_, ?_, ?_⟩
  -- a grant goes above all records handed out
  · intro name owner ttl token generated now g t h hg r hr hn
    exact acquire_outruns hinv h hg hr hn
  -- two records that are current stand for the same row
  · intro r hr r' hr' hn now hc hc'
    obtain ⟨row, hrow, ho, htok, hf, -⟩ := leaseIsCurrent_iff.1 hc
    obtain ⟨row', hrow', ho', htok', hf', -⟩ := leaseIsCurrent_iff.1 hc'
    rw [← hn, hrow] at hrow'
    cases hrow'
    have hf'' : r.fencingToken = r'.fencingToken := by omega
    refine ⟨⟨hn, ho.symm.trans ho', htok.symm.trans htok', hf''⟩, ?_⟩
    intro ha ha'
    exact hinv.once r hr r' hr' ha ha' hn hf''
  -- what the call revoked is dead, and the rest of the run keeps it so
  · intro pre c post r hsplit hrev now
    subst hsplit
    obtain ⟨-, hc, hpost⟩ := allSteps_append.1 hfresh
    have hpre := after_invariant leaseInv_step pre _ leaseInv_init
    have hdead := after_invariant_of (P := fun w => Dead w r) (fun w i hi hd => dead_step hi hd)
      post _ hpost (dead_of_revokes hpre hc hrev)
    rw [← after_cons, ← after_append] at hdead
    have hnone := dead_not_current hdead now
    refine ⟨by rw [leaseIsCurrent, hnone]; rfl, ?_, ?_, ?_⟩
    · intro ttl renewed t h
      obtain ⟨row, -, hrow, -⟩ := heartbeat_some h
      rw [hnone] at hrow
      cases hrow
    · intro ttl
      simp only [LeaseWorld.step]
      split
      · next renewed t h =>
        obtain ⟨row, -, hrow, -⟩ := heartbeat_some h
        rw [hnone] at hrow
        cases hrow
      · next t h => exact (heartbeat_none h).2
      · rfl
    · intro generated
      rw [releaseLease, hnone]

/-- The law on a run with a takeover by clock skew and a release: the second
holder's sample is later than the first holder's expiry, and the first holder's
next sample lies before its own acquisition. -/
theorem lease_fencing_takeover :
    ∃ run : List LeaseCall, run.length = 4 ∧
      (after LeaseWorld.step LeaseWorld.init run).handed.length = 3 ∧
      ∃ r ∈ (after LeaseWorld.step LeaseWorld.init run).handed, r.acquired = true ∧
        leaseIsCurrent (after LeaseWorld.step LeaseWorld.init run).table r ⟨0, by decide⟩ = false := by
  have hfresh : AllSteps LeaseWorld.step DrawsFresh LeaseWorld.init
      ([.acquire "w" "a" 10 none "t1" ⟨100, by decide⟩] ++ .acquire "w" "b" 10 none "t2" ⟨200, by decide⟩ ::
        [.acquire "w" "c" 10 none "t3" ⟨50, by decide⟩,
         .release (leaseFromRow "w" ⟨"a", "t1", 1, ⟨100, by decide⟩, ⟨100, by decide⟩, ⟨110, by decide⟩⟩ true true)
           "t4" ⟨0, by decide⟩]) := by
    refine ⟨by decide, by decide, by decide, by decide, trivial⟩
  refine ⟨_, rfl, by decide, leaseFromRow "w" ⟨"a", "t1", 1, ⟨100, by decide⟩, ⟨100, by decide⟩, ⟨110, by decide⟩⟩ true true,
    by decide, rfl, ((lease_fencing _ hfresh).2.2 _ _ _ _ rfl (Or.inr ⟨by decide, ?_⟩) _).1⟩
  exact ⟨"b", 10, none, "t2", ⟨200, by decide⟩, _, _, rfl, rfl, rfl⟩

end SafeFsOps
