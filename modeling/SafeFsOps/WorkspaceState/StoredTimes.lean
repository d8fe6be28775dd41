import SafeFsOps.WorkspaceState.LeaseFencing

/-!
# Timestamps as they are stored

`leases.py` keeps its timestamps as text. `acquire` parses the text of a row to see
whether the lease is live, and then takes it over by an `UPDATE` that compares the
text itself; every other check compares the text alone. `Leases.lean` keeps the
instants; here is the table with the texts, as SQLite has it, and the reading of them.

> `parseDatetime_isoformat`: what was written is read back.
> `timestamps_agree`: after any calls, the parsed test of a row and the compared text
> never disagree, in a takeover and in the check for a current lease.

A text that `isoformat` never writes is one that `parseDatetime` need not read.
-/

namespace SafeFsOps

namespace DateTime

/-! ## Reading a timestamp -/

/-- The number that a run of decimal digits writes. -/
def decimalValue (cs : List Char) : Option Nat :=
  cs.foldlM (fun n c => if c.isDigit then some (10 * n + (c.toNat - 48)) else none) 0

/-- `k` digits off the front of a text. -/
def readField (k : Nat) (cs : List Char) : Option (Nat × List Char) := do
  let n ← decimalValue (cs.take k)
  if k ≤ cs.length then some (n, cs.drop k) else none

/-- A separator off the front of a text. -/
def readChar (c : Char) : List Char → Option (List Char)
  | [] => none
  | d :: cs => if d = c then some cs else none

/-- The fraction, zero where there is none, and the zone after it. -/
def readFraction : List Char → Option (Nat × List Char)
  | '.' :: cs => readField 6 cs
  | cs => some (0, cs)

/-- Days of month `m`. -/
def daysInMonth (leap : Bool) (m : Nat) : Nat := daysBeforeMonth leap (m + 1) - daysBeforeMonth leap m

/-- `datetime(year, month, day, …, tzinfo=UTC)`; `none` is `ValueError`. -/
def ofFields (year month day hour minute second microsecond : Nat) : Option DateTime :=
  let micros := (daysBeforeYear year + daysBeforeMonth (isLeap year) month + (day - 1)) * microsPerDay +
    hour * 3600000000 + minute * 60000000 + second * 1000000 + microsecond
  if h : (1 ≤ year ∧ 1 ≤ month ∧ month ≤ 12 ∧ 1 ≤ day ∧ day ≤ daysInMonth (isLeap year) month ∧ hour < 24 ∧
      minute < 60 ∧ second < 60) ∧ micros < 3652059 * microsPerDay then some ⟨micros, h.2⟩
  else none

/-- `_parse_datetime`, of the texts that `isoformat` writes for UTC. -/
def parseDatetime (cs : List Char) : Option DateTime := do
  let (year, cs) ← readField 4 cs
  let (month, cs) ← readChar '-' cs >>= readField 2
  let (day, cs) ← readChar '-' cs >>= readField 2
  let (hour, cs) ← readChar 'T' cs >>= readField 2
  let (minute, cs) ← readChar ':' cs >>= readField 2
  let (second, cs) ← readChar ':' cs >>= readField 2
  let (microsecond, zone) ← readFraction cs
  if zone = "+00:00".toList then ofFields year month day hour minute second microsecond else none

theorem digit_value (n : Nat) : (digit n).isDigit = true ∧ (digit n).toNat - 48 = n % 10 := by
  have h : ∀ i < 10, (digit i).isDigit = true ∧ (digit i).toNat - 48 = i := by decide
  have hn := h (n % 10) (by omega)
  unfold digit at hn ⊢
  rw [Nat.mod_mod] at hn
  exact hn

theorem decimalValue_pad : ∀ {k n : Nat}, n < 10 ^ k → decimalValue (pad k n) = some n
  | 0, n, h => by
    obtain rfl : n = 0 := by simpa using h
    rfl
  | k + 1, n, h => by
    have ih : decimalValue (pad k (n / 10)) = some (n / 10) := decimalValue_pad (by omega)
    obtain ⟨hdigit, hvalue⟩ := digit_value n
    unfold decimalValue at ih ⊢
    rw [pad, List.foldlM_append, ih]
    show (if (digit n).isDigit then some (10 * (n / 10) + ((digit n).toNat - 48)) else none) >>= _ = _
    rw [if_pos hdigit, hvalue]
    show some (10 * (n / 10) + n % 10) = some n
    rw [Nat.div_add_mod]

theorem readField_pad {k n : Nat} (h : n < 10 ^ k) (cs : List Char) : readField k (pad k n ++ cs) = some (n, cs) := by
  have htake : (pad k n ++ cs).take k = pad k n := by rw [List.take_left' (pad_length k n)]
  have hdrop : (pad k n ++ cs).drop k = cs := by rw [List.drop_left' (pad_length k n)]
  have hlong : k ≤ (pad k n ++ cs).length := by
    rw [List.length_append, pad_length]
    exact Nat.le_add_right _ _
  rw [readField, htake, decimalValue_pad h, hdrop]
  exact if_pos hlong

theorem readChar_self (c : Char) (cs : List Char) : readChar c (c :: cs) = some cs := if_pos rfl

theorem readFraction_fraction {n : Nat} (h : n < 1000000) : readFraction (fraction n) = some (n, "+00:00".toList) := by
  unfold fraction
  by_cases hn : n = 0
  · rw [if_pos hn, hn]
    rfl
  · rw [if_neg hn]
    exact readField_pad h _

/-- The days of a month follow each other. -/
theorem daysBeforeMonth_le (leap : Bool) {m : Nat} (h : m < 13) : daysBeforeMonth leap m ≤ daysBeforeMonth leap (m + 1) := by
  have hall : ∀ l, ∀ i < 13, daysBeforeMonth l i ≤ daysBeforeMonth l (i + 1) := by decide
  exact hall leap m h

/-- A date that was split is put together again. -/
theorem ofFields_split (t : DateTime) : ofFields (ord2ymd t.day).1 (ord2ymd t.day).2.1 (ord2ymd t.day).2.2 t.hour
    t.minute t.second t.microsecond = some t := by
  obtain ⟨y, r, hy, hr, hday, hsplit⟩ := ord2ymd_spec t.day
  obtain ⟨hm, hm1, -, hd1, hback, hend⟩ := monthDay_ok (isLeap y) r (by unfold yearLength at hr; exact hr)
  have hle := daysBeforeMonth_le (isLeap y) hm
  have hmicros := t.micros_split
  have hrange := t.inRange
  have hclock : t.hour < 24 ∧ t.minute < 60 ∧ t.second < 60 := by
    simp only [hour, minute, second]
    omega
  have hordinal : daysBeforeYear y + daysBeforeMonth (isLeap y) (monthDay (isLeap y) r).1 +
      ((monthDay (isLeap y) r).2 - 1) = t.day := by omega
  rw [hsplit]
  unfold ofFields daysInMonth
  simp only [hordinal, ← hmicros]
  rw [dif_pos]
  exact ⟨⟨hy, hm1, by omega, hd1, by omega, hclock⟩, hrange⟩

/-- **What was written is read back.** -/
theorem parseDatetime_isoformat (t : DateTime) : parseDatetime t.isoformat = some t := by
  have hday : t.day < 3652059 := Nat.div_lt_of_lt_mul (by rw [Nat.mul_comm]; exact t.inRange)
  have hyear : (ord2ymd t.day).1 < 10 ^ 4 := ord2ymd_year_lt hday
  have hdate : (ord2ymd t.day).2.1 < 10 ^ 2 ∧ (ord2ymd t.day).2.2 < 10 ^ 2 := ord2ymd_monthDay_lt t.day
  have hclock : t.hour < 10 ^ 2 ∧ t.minute < 10 ^ 2 ∧ t.second < 10 ^ 2 ∧ t.microsecond < 1000000 := by
    simp only [hour, minute, second, microsecond]
    omega
  unfold parseDatetime isoformat
  simp only [readField_pad hyear, readField_pad hdate.1, readField_pad hdate.2,
    readField_pad hclock.1, readField_pad hclock.2.1, readField_pad hclock.2.2.1, readChar_self,
    readFraction_fraction hclock.2.2.2, Option.bind_eq_bind, Option.bind_some, if_true]
  exact ofFields_split t

end DateTime

/-! ## The table of texts -/

/-- A row of `workspace_leases` as SQLite has it. -/
structure StoredLeaseRow where
  owner : String
  token : String
  fencingToken : Nat
  acquiredAt : List Char
  heartbeatAt : List Char
  expiresAt : List Char

abbrev StoredLeaseTable := String → Option StoredLeaseRow

/-- What the methods raise; `fromisoformat` may refuse a text. -/
inductive StoredLeaseError where
  | lease (e : LeaseError)
  | invalidIsoformat
deriving DecidableEq

/-- `row.expires_at` parsed. -/
def StoredLeaseRow.parsedExpiresAt (row : StoredLeaseRow) : Except StoredLeaseError DateTime :=
  match DateTime.parseDatetime row.expiresAt with
  | some t => .ok t
  | none => .error .invalidIsoformat

/-- `_lease_from_row`, which parses all three timestamps. -/
def leaseFromStoredRow (name : String) (row : StoredLeaseRow) (acquired exposeAuthority : Bool) :
    Except StoredLeaseError LeaseRecord :=
  match DateTime.parseDatetime row.acquiredAt, DateTime.parseDatetime row.heartbeatAt,
    DateTime.parseDatetime row.expiresAt with
  | some acquiredAt, some heartbeatAt, some expiresAt =>
    .ok ⟨name, row.owner, if exposeAuthority then row.token else "", if exposeAuthority then row.fencingToken else 0,
      acquiredAt, heartbeatAt, expiresAt, acquired⟩
  | _, _, _ => .error .invalidIsoformat

namespace StoredLeaseTable

def set (t : StoredLeaseTable) (name : String) (row : StoredLeaseRow) : StoredLeaseTable :=
  fun n => if n = name then some row else t n

/-- How many rows `UPDATE … WHERE name = ? AND expires_at <= ?` matches. -/
def takeoverRowcount (t : StoredLeaseTable) (name : String) (now : DateTime) : Nat :=
  match t name with
  | some row => if row.expiresAt ≤ now.isoformat then 1 else 0
  | none => 0

/-- `LeaseStore.acquire`. -/
def acquire (t : StoredLeaseTable) (name owner : String) (ttl : Int) (token : Option String) (generated : String)
    (now : DateTime) : Except StoredLeaseError (LeaseRecord × StoredLeaseTable) :=
  if ttl ≤ 0 then .error (.lease .nonPositiveTtl)
  else match now.add ttl with
    | none => .error (.lease .overflow)
    | some expiresAt => do
      let written (fencingToken : Nat) : StoredLeaseRow :=
        ⟨owner, tokenOr token generated, fencingToken, now.isoformat, now.isoformat, expiresAt.isoformat⟩
      match t name with
      | none =>
        let record ← leaseFromStoredRow name (written 1) true true
        return (record, t.set name (written 1))
      | some row =>
        let expires ← row.parsedExpiresAt
        if now < expires then
          let record ← leaseFromStoredRow name row false false
          return (record, t)
        else if t.takeoverRowcount name now ≠ 1 then
          let record ← leaseFromStoredRow name row false false
          return (record, t)
        else
          let record ← leaseFromStoredRow name (written (row.fencingToken + 1)) true true
          return (record, t.set name (written (row.fencingToken + 1)))

/-- The condition of the other statements, on texts. -/
def rowMatches (t : StoredLeaseTable) (lease : LeaseRecord) (now : DateTime) : Option StoredLeaseRow :=
  (t lease.name).filter fun row => row.owner = lease.owner ∧ row.token = lease.token ∧
    row.fencingToken = lease.fencingToken ∧ now.isoformat < row.expiresAt

/-- `_lease_is_current`. -/
def leaseIsCurrent (t : StoredLeaseTable) (lease : LeaseRecord) (now : DateTime) : Bool := (t.rowMatches lease now).isSome

/-- The same check on the record that `_lease_from_row` makes of the row. -/
def parsedLeaseIsCurrent (t : StoredLeaseTable) (lease : LeaseRecord) (now : DateTime) : Bool :=
  match t lease.name with
  | none => false
  | some row =>
    match leaseFromStoredRow lease.name row false true with
    | .error _ => false
    | .ok r => r.owner = lease.owner ∧ r.token = lease.token ∧ r.fencingToken = lease.fencingToken ∧ now < r.expiresAt

/-- `LeaseStore.heartbeat`. -/
def heartbeat (t : StoredLeaseTable) (lease : LeaseRecord) (ttl : Int) (now : DateTime) :
    Except StoredLeaseError (Option LeaseRecord × StoredLeaseTable) :=
  if ttl ≤ 0 then .error (.lease .nonPositiveTtl)
  else match now.add ttl with
    | none => .error (.lease .overflow)
    | some expiresAt =>
      match t.rowMatches lease now with
      | none => .ok (none, t)
      | some row => do
        let renewed := { row with heartbeatAt := now.isoformat, expiresAt := expiresAt.isoformat }
        let record ← leaseFromStoredRow lease.name renewed false true
        return (some record, t.set lease.name renewed)

/-- `_release_lease_in_connection`. -/
def releaseLease (t : StoredLeaseTable) (lease : LeaseRecord) (generated : String) (now : DateTime) :
    Bool × StoredLeaseTable :=
  match t.rowMatches lease now with
  | none => (false, t)
  | some row =>
    (true, t.set lease.name { row with heartbeatAt := now.isoformat, expiresAt := now.isoformat, token := generated })

/-- One call; an exception leaves the table as it was. -/
def step (t : StoredLeaseTable) : LeaseCall → StoredLeaseTable
  | .acquire name owner ttl token generated now =>
    match t.acquire name owner ttl token generated now with
    | .ok (_, t') => t'
    | .error _ => t
  | .heartbeat lease ttl now =>
    match t.heartbeat lease ttl now with
    | .ok (_, t') => t'
    | .error _ => t
  | .release lease generated now => (t.releaseLease lease generated now).2

end StoredLeaseTable

/-! ## Texts and instants -/

/-- A row, its instants written out. -/
def LeaseRow.stored (row : LeaseRow) : StoredLeaseRow :=
  ⟨row.owner, row.token, row.fencingToken, row.acquiredAt.isoformat, row.heartbeatAt.isoformat, row.expiresAt.isoformat⟩

/-- The table of texts that a table of instants stands for. -/
def LeaseTable.stored (t : LeaseTable) : StoredLeaseTable := fun name => (t name).map LeaseRow.stored

section Stored

variable {t : LeaseTable} {name : String} {row : LeaseRow} {lease : LeaseRecord} {now : DateTime}

@[simp] theorem stored_empty : LeaseTable.empty.stored = fun _ => none := rfl

theorem stored_some (h : t name = some row) : t.stored name = some row.stored := by
  unfold LeaseTable.stored
  rw [h]
  rfl

theorem stored_none (h : t name = none) : t.stored name = none := by
  unfold LeaseTable.stored
  rw [h]
  rfl

theorem stored_set (t : LeaseTable) (name : String) (row : LeaseRow) :
    (t.set name row).stored = t.stored.set name row.stored := by
  funext n
  unfold LeaseTable.stored StoredLeaseTable.set LeaseTable.set
  by_cases hn : n = name
  · rw [if_pos hn, if_pos hn]
    rfl
  · rw [if_neg hn, if_neg hn]

/-- A stored row is read as the row it is. -/
theorem leaseFromStoredRow_stored (name : String) (row : LeaseRow) (acquired exposeAuthority : Bool) :
    leaseFromStoredRow name row.stored acquired exposeAuthority = .ok (leaseFromRow name row acquired exposeAuthority) := by
  unfold leaseFromStoredRow LeaseRow.stored
  simp only [DateTime.parseDatetime_isoformat]
  rfl

theorem parsedExpiresAt_stored (row : LeaseRow) : row.stored.parsedExpiresAt = .ok row.expiresAt := by
  unfold StoredLeaseRow.parsedExpiresAt LeaseRow.stored
  simp only [DateTime.parseDatetime_isoformat]

/-- The `UPDATE` of a takeover finds the row exactly where the parsed test found it expired. -/
theorem takeoverRowcount_stored (h : t name = some row) :
    t.stored.takeoverRowcount name now = if now < row.expiresAt then 0 else 1 := by
  unfold StoredLeaseTable.takeoverRowcount
  rw [stored_some h]
  show (if row.expiresAt.isoformat ≤ now.isoformat then 1 else 0) = _
  have htext : row.expiresAt.isoformat ≤ now.isoformat ↔ ¬ now < row.expiresAt := by
    rw [← not_lt, DateTime.isoformat_lt_iff]
  by_cases hlive : now < row.expiresAt
  · rw [if_pos hlive, if_neg fun hle => htext.1 hle hlive]
  · rw [if_neg hlive, if_pos (htext.2 hlive)]

theorem rowMatches_stored (t : LeaseTable) (lease : LeaseRecord) (now : DateTime) :
    t.stored.rowMatches lease now = (rowMatches t lease now).map LeaseRow.stored := by
  unfold StoredLeaseTable.rowMatches rowMatches
  cases h : t lease.name with
  | none => rw [stored_none h]; rfl
  | some row =>
    rw [stored_some h, Option.filter_some]
    by_cases hmatch : row.owner = lease.owner ∧ row.token = lease.token ∧ row.fencingToken = lease.fencingToken ∧
        now.isoformat < row.expiresAt.isoformat
    · simp only [if_pos hmatch, Option.map_some]
      exact if_pos (decide_eq_true hmatch)
    · simp only [if_neg hmatch, Option.map_none]
      exact if_neg fun hc => hmatch (of_decide_eq_true hc)

theorem acquire_stored (t : LeaseTable) (name owner : String) (ttl : Int) (token : Option String) (generated : String)
    (now : DateTime) : t.stored.acquire name owner ttl token generated now =
      match acquire t name owner ttl token generated now with
      | .ok (lease, t') => .ok (lease, t'.stored)
      | .error e => .error (.lease e) := by
  unfold StoredLeaseTable.acquire acquire
  by_cases httl : ttl ≤ 0
  · rw [if_pos httl, if_pos httl]
  · rw [if_neg httl, if_neg httl]
    cases hadd : now.add ttl with
    | none => rfl
    | some expiresAt =>
      -- the row that is written is the stored form of the one `acquire` writes
      have hwritten : ∀ fencingToken : Nat, (⟨owner, tokenOr token generated, fencingToken, now.isoformat, now.isoformat,
          expiresAt.isoformat⟩ : StoredLeaseRow) =
            LeaseRow.stored ⟨owner, tokenOr token generated, fencingToken, now, now, expiresAt⟩ := fun _ => rfl
      cases hrow : t name with
      | none =>
        simp only [stored_none hrow, hwritten, leaseFromStoredRow_stored, ← stored_set]
        rfl
      | some row =>
        simp only [stored_some hrow, parsedExpiresAt_stored, takeoverRowcount_stored hrow, Bind.bind, Except.bind]
        have hback : row.expiresAt.isoformat ≤ now.isoformat ↔ ¬ now < row.expiresAt := by
          rw [← not_lt, DateTime.isoformat_lt_iff]
        by_cases hlive : now < row.expiresAt
        · simp only [if_pos hlive, leaseFromStoredRow_stored]
          rfl
        · simp only [if_neg hlive, if_pos (hback.2 hlive), hwritten, leaseFromStoredRow_stored, ← stored_set]
          rfl

theorem heartbeat_stored (t : LeaseTable) (lease : LeaseRecord) (ttl : Int) (now : DateTime) :
    t.stored.heartbeat lease ttl now =
      match heartbeat t lease ttl now with
      | .ok (renewed, t') => .ok (renewed, t'.stored)
      | .error e => .error (.lease e) := by
  unfold StoredLeaseTable.heartbeat heartbeat
  by_cases httl : ttl ≤ 0
  · rw [if_pos httl, if_pos httl]
  · rw [if_neg httl, if_neg httl]
    cases hadd : now.add ttl with
    | none => rfl
    | some expiresAt =>
      simp only [rowMatches_stored]
      cases hrow : rowMatches t lease now with
      | none => rfl
      | some row =>
        have hrenewed : ({ row.stored with heartbeatAt := now.isoformat, expiresAt := expiresAt.isoformat } :
            StoredLeaseRow) = LeaseRow.stored { row with heartbeatAt := now, expiresAt := expiresAt } := rfl
        simp only [Option.map_some, hrenewed, leaseFromStoredRow_stored, ← stored_set]
        rfl

theorem releaseLease_stored (t : LeaseTable) (lease : LeaseRecord) (generated : String) (now : DateTime) :
    t.stored.releaseLease lease generated now =
      ((releaseLease t lease generated now).1, (releaseLease t lease generated now).2.stored) := by
  unfold StoredLeaseTable.releaseLease releaseLease
  simp only [rowMatches_stored]
  cases hrow : rowMatches t lease now with
  | none => rfl
  | some row =>
    simp only [Option.map_some, stored_set]
    rfl

/-- Through texts and through instants, a call does the same. -/
theorem step_stored (w : LeaseWorld) (c : LeaseCall) : w.table.stored.step c = (w.step c).table.stored := by
  cases c with
  | acquire name owner ttl token generated now =>
    simp only [StoredLeaseTable.step, LeaseWorld.step, acquire_stored]
    cases acquire w.table name owner ttl token generated now <;> rfl
  | heartbeat lease ttl now =>
    simp only [StoredLeaseTable.step, LeaseWorld.step, heartbeat_stored]
    cases heartbeat w.table lease ttl now with
    | error e => rfl
    | ok r =>
      obtain ⟨renewed, t'⟩ := r
      cases renewed <;> rfl
  | release lease generated now => simp only [StoredLeaseTable.step, LeaseWorld.step, releaseLease_stored]

/-- The table of texts after any calls stands for a table of instants. -/
theorem after_stored (calls : List LeaseCall) :
    ∀ w : LeaseWorld, ∃ t : LeaseTable, after StoredLeaseTable.step w.table.stored calls = t.stored := by
  induction calls with
  | nil => exact fun w => ⟨w.table, rfl⟩
  | cons c calls ih =>
    intro w
    rw [after_cons, step_stored]
    exact ih (w.step c)

theorem leaseIsCurrent_stored (t : LeaseTable) (lease : LeaseRecord) (now : DateTime) :
    t.stored.leaseIsCurrent lease now = t.stored.parsedLeaseIsCurrent lease now := by
  unfold StoredLeaseTable.leaseIsCurrent StoredLeaseTable.rowMatches StoredLeaseTable.parsedLeaseIsCurrent
  cases h : t lease.name with
  | none => rw [stored_none h]; rfl
  | some row =>
    simp only [stored_some h, leaseFromStoredRow_stored, Option.filter_some]
    have htext : now.isoformat < row.stored.expiresAt ↔ now < row.expiresAt := DateTime.isoformat_lt_iff _ _
    simp only [htext]
    by_cases hcurrent : row.owner = lease.owner ∧ row.token = lease.token ∧ row.fencingToken = lease.fencingToken ∧
        now < row.expiresAt
    · simp [leaseFromRow, LeaseRow.stored, hcurrent]
    · simp [leaseFromRow, LeaseRow.stored, hcurrent]

end Stored

/-- **Text order is time order, and so a lease is live or expired by either test.** For all
UTC instants the stored texts compare as the instants do. After any calls on an empty
table, every row has an expiry that is read; a takeover's `UPDATE` misses the row
exactly where the parsed test finds it live, so never after that test has passed; and
the check for a current lease answers what it would on the parsed record. -/
theorem timestamps_agree :
    (∀ a b : DateTime, (a.isoformat < b.isoformat ↔ a < b) ∧ (a.isoformat = b.isoformat ↔ a = b)) ∧
    ∀ (calls : List LeaseCall) (t : StoredLeaseTable), t = after StoredLeaseTable.step (fun _ => none) calls →
      (∀ name row, t name = some row → ∃ expiresAt, row.parsedExpiresAt = .ok expiresAt ∧
        ∀ now, (now < expiresAt ↔ t.takeoverRowcount name now = 0) ∧
          (¬ now < expiresAt ↔ t.takeoverRowcount name now = 1)) ∧
      ∀ lease now, t.leaseIsCurrent lease now = t.parsedLeaseIsCurrent lease now := by
  refine ⟨fun a b => ⟨DateTime.isoformat_lt_iff a b, fun h => ?_, fun h => by rw [h]⟩, fun calls t ht => ?_⟩
  · have hparsed := DateTime.parseDatetime_isoformat a
    rw [h, DateTime.parseDatetime_isoformat b] at hparsed
    exact (Option.some.inj hparsed).symm
  · obtain ⟨instants, hinstants⟩ := after_stored calls LeaseWorld.init
    rw [show LeaseWorld.init.table.stored = fun _ => none from rfl, ← ht] at hinstants
    subst hinstants
    refine ⟨fun name row hrow => ?_, leaseIsCurrent_stored instants⟩
    cases hold : instants name with
    | none =>
      rw [stored_none hold] at hrow
      cases hrow
    | some old =>
      rw [stored_some hold] at hrow
      cases hrow
      refine ⟨old.expiresAt, parsedExpiresAt_stored old, fun now => ?_⟩
      rw [takeoverRowcount_stored hold]
      by_cases hlive : now < old.expiresAt
      · simp [hlive]
      · simp [hlive]

end SafeFsOps
