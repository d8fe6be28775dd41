import SafeFsOps.Connections
import SafeFsOps.PythonText
import SafeFsOps.Tables

/-!
# Schema migrations

`sqlite_store/store.py`: a store is brought to the version of a schema definition in one
transaction, which also records the version it is at. What a statement or a migration does
to the database is up to them, as long as they leave the transaction alone; they may read
and write the metadata table like any other.

> `initializeSchema_ok`: an initialisation that returns has run the migrations between the
> two recorded versions.
> `migrations_once`: after any sequence of initialisations, the schema is what the
> migrations up to the recorded version, each run once and in order, made of it.
-/

namespace SafeFsOps.SqliteStore

open Program

/-- The row of the metadata table, with its `CHECK`. -/
structure SchemaRow where
  identity : String
  version : Nat
  positive : 1 ≤ version
deriving DecidableEq

/-- A database: the metadata table, if there is one, with its row, if there is one, and
everything else. -/
structure Database (δ : Type) where
  metadata : Option (Option SchemaRow)
  schema : δ

structure SchemaStatus where
  identity : String
  version : Nat
deriving DecidableEq

/-- What a store raises; `sqlite` is what the database, or a migration, raises. -/
inductive StoreError (ε : Type) where
  | sqlite (error : ε)
  | schemaIdentityMismatch (message : String)
  | schemaVersion (message : String)
  | schemaValidation (message : String)
  | runtime (message : String)

/-- `isinstance(exc, SchemaMigrationError)`. -/
def StoreError.isSchemaMigrationError {ε : Type} : StoreError ε → Bool
  | schemaIdentityMismatch _ | schemaVersion _ | schemaValidation _ => true
  | sqlite _ | runtime _ => false

/-- A database engine: whether it refuses a step, what a statement of a migration does, and
its own errors. -/
structure Engine (δ ι ε : Type) where
  fails : ι → Option ε
  execute : String → ι → Database δ → Except ε Unit × Database δ
  error : String → ε
  text : StoreError ε → String

section

variable {δ ι ε α : Type}

/-- A program over the database. -/
abbrev OnDatabase (δ ι ε α : Type) := Program (Database δ) ι (StoreError ε) α

structure SchemaMigration (δ ι ε : Type) where
  version : Nat
  statements : List String
  apply : Option (OnDatabase δ ι ε Unit)

structure SchemaDefinitionFields (δ ι ε : Type) where
  identity : String
  migrations : List (SchemaMigration δ ι ε)
  validate : Option (Int → OnDatabase δ ι ε Unit)

/-- The migrations are numbered from `expected` on. -/
def checkVersions (expected : Nat) : List (SchemaMigration δ ι ε) → Except String Unit
  | [] => .ok ()
  | m :: ms => do
    require (m.version = expected) "schema migrations must start at version 1 and increase by 1"
    checkVersions (expected + 1) ms

/-- `SchemaDefinition.__post_init__`. -/
def SchemaDefinitionFields.postInit (d : SchemaDefinitionFields δ ι ε) : Except String Unit := do
  require (d.identity ≠ "") "schema identity must not be empty"
  require (d.migrations.length ≠ 0) "schema definition must include at least one migration"
  checkVersions 1 d.migrations

/-- A definition its constructor admits. -/
structure SchemaDefinition (δ ι ε : Type) extends SchemaDefinitionFields δ ι ε where
  admitted : toSchemaDefinitionFields.postInit = .ok ()

/-- `current_version`. -/
def SchemaDefinition.currentVersion (d : SchemaDefinition δ ι ε) : Nat :=
  (d.migrations.getLast?.map SchemaMigration.version).getD 0

variable (engine : Engine δ ι ε)

/-- A statement of the store itself. -/
def statement (act : Database δ → Except ε α × Database δ) : OnDatabase δ ι ε α :=
  call fun i db =>
    match engine.fails i with
    | some e => (.error (.sqlite e), db)
    | none => ((act db).1.mapError .sqlite, (act db).2)

/-- `connection.execute(statement)` of a migration. -/
def executeStatement (sql : String) : OnDatabase δ ι ε Unit :=
  call fun i db => ((engine.execute sql i db).1.mapError .sqlite, (engine.execute sql i db).2)

/-- `SchemaMigration.run`. -/
def SchemaMigration.run (m : SchemaMigration δ ι ε) : OnDatabase δ ι ε Unit :=
  (forEach m.statements (executeStatement engine)).bind fun _ => m.apply.getD (ret ())

/-- `for migration in migrations: migration.run(connection)`. -/
def runMigrations : List (SchemaMigration δ ι ε) → OnDatabase δ ι ε Unit
  | [] => ret ()
  | m :: ms => (m.run engine).bind fun _ => runMigrations ms

/-- `_ensure_schema_metadata_table`. -/
def ensureSchemaMetadataTable : OnDatabase δ ι ε Unit :=
  statement engine fun db => (.ok (), { db with metadata := some (db.metadata.getD none) })

/-- The recorded identity and version. -/
def Database.status (db : Database δ) : Option SchemaStatus :=
  db.metadata.join.map fun row => ⟨row.identity, row.version⟩

/-- `_schema_status`. -/
def schemaStatus : OnDatabase δ ι ε (Option SchemaStatus) :=
  statement engine fun db =>
    if db.metadata = none then (.error (engine.error "no such table"), db) else (.ok db.status, db)

/-- `_insert_schema_status`: there is one row at most, and a version is positive. -/
def insertSchemaStatus (identity : String) (version : Nat) : OnDatabase δ ι ε Unit :=
  statement engine fun db =>
    match db.metadata with
    | none => (.error (engine.error "no such table"), db)
    | some (some _) => (.error (engine.error "UNIQUE constraint failed"), db)
    | some none =>
      if h : 1 ≤ version then (.ok (), { db with metadata := some (some ⟨identity, version, h⟩) })
      else (.error (engine.error "CHECK constraint failed"), db)

/-- `UPDATE` of the version, which answers with the number of rows. -/
def updateVersion (version : Nat) : OnDatabase δ ι ε Nat :=
  statement engine fun db =>
    match db.metadata with
    | none => (.error (engine.error "no such table"), db)
    | some none => (.ok 0, db)
    | some (some row) =>
      if h : 1 ≤ version then (.ok 1, { db with metadata := some (some ⟨row.identity, version, h⟩) })
      else (.error (engine.error "CHECK constraint failed"), db)

/-- `_update_schema_status`. -/
def updateSchemaStatus (version : Nat) : OnDatabase δ ι ε Unit :=
  (updateVersion engine version).bind fun rowcount =>
    if rowcount ≠ 1 then raise (.runtime "schema metadata row disappeared during migration") else ret ()

/-- The text of a mismatch. -/
def mismatch (found wanted : String) : StoreError ε :=
  .schemaIdentityMismatch ("sqlite store contains schema " ++ pyRepr found ++ ", not " ++ pyRepr wanted)

/-- The text of a store that is ahead. -/
def newerThan (identity : String) (version supported : Nat) : StoreError ε :=
  .schemaVersion ("sqlite store schema " ++ pyRepr identity ++ " is at version " ++ toString version ++
    ", which is newer than supported version " ++ toString supported)

/-- The body of `initialize_schema`. -/
def initializeBody (d : SchemaDefinition δ ι ε) : OnDatabase δ ι ε SchemaStatus :=
  (ensureSchemaMetadataTable engine).bind fun _ =>
  (schemaStatus engine).bind fun
    | none =>
      (runMigrations engine d.migrations).bind fun _ =>
      (insertSchemaStatus engine d.identity d.currentVersion).bind fun _ =>
      ret ⟨d.identity, d.currentVersion⟩
    | some status =>
      if status.identity ≠ d.identity then raise (mismatch status.identity d.identity)
      else if status.version > d.currentVersion then
        raise (newerThan d.identity status.version d.currentVersion)
      else if status.version = d.currentVersion then ret status
      else
        (runMigrations engine (d.migrations.drop status.version)).bind fun _ =>
        (updateSchemaStatus engine d.currentVersion).bind fun _ =>
        ret ⟨d.identity, d.currentVersion⟩

/-- `_validate_schema_version`. -/
def validateSchemaVersion (version : Int) (currentVersion : Nat) : Except (StoreError ε) Unit := do
  require (1 ≤ version) (.schemaVersion ("sqlite store schema version must be at least 1, not " ++ toString version))
  require (version ≤ currentVersion) (.schemaVersion ("sqlite store schema version " ++ toString version ++
    " is newer than supported version " ++ toString currentVersion))

/-- `_validate_existing_schema_for_adoption`. -/
def validateExistingSchemaForAdoption (d : SchemaDefinition δ ι ε) (version : Int) : OnDatabase δ ι ε Unit :=
  match d.validate with
  | none => raise (.schemaValidation ("sqlite store adoption for schema " ++ pyRepr d.identity ++
      " requires a validation callback"))
  | some validate => (validate version).onRaise fun e =>
      if e.isSchemaMigrationError then raise e
      else raise (.schemaValidation ("sqlite store adoption validation failed for schema " ++
        pyRepr d.identity ++ ": " ++ engine.text e))

/-- The body of `adopt_existing_schema`. -/
def adoptBody (d : SchemaDefinition δ ι ε) (version : Int) : OnDatabase δ ι ε SchemaStatus :=
  (ensureSchemaMetadataTable engine).bind fun _ =>
  (schemaStatus engine).bind fun
    | some status =>
      if status.identity ≠ d.identity then raise (mismatch status.identity d.identity)
      else if status.version ≠ version then
        raise (.schemaVersion ("sqlite store schema " ++ pyRepr d.identity ++ " is already recorded at version " ++
          toString status.version ++ ", not requested version " ++ toString version))
      else ret status
    | none =>
      (ofExcept (validateSchemaVersion version d.currentVersion)).bind fun _ =>
      (validateExistingSchemaForAdoption engine d version).bind fun _ =>
      (insertSchemaStatus engine d.identity version.toNat).bind fun _ =>
      ret ⟨d.identity, version.toNat⟩

/-- `with store.transaction()`. -/
def transaction (body : OnDatabase δ ι ε α) : Program (Connection (Database δ)) ι (StoreError ε) α :=
  inTransaction (fun i => (engine.fails i).map .sqlite) body

/-- `initialize_schema`. -/
def initializeSchema (d : SchemaDefinition δ ι ε) : Program (Connection (Database δ)) ι (StoreError ε) SchemaStatus :=
  transaction engine (initializeBody engine d)

/-- `adopt_existing_schema`. -/
def adoptExistingSchema (d : SchemaDefinition δ ι ε) (version : Int) :
    Program (Connection (Database δ)) ι (StoreError ε) SchemaStatus :=
  transaction engine (adoptBody engine d version)

end

section

variable {δ ι ε α : Type} {engine : Engine δ ι ε}

/-! ## Definitions -/

theorem checkVersions_ok {n : Nat} : ∀ {ms : List (SchemaMigration δ ι ε)}, checkVersions n ms = .ok () →
    ms.map SchemaMigration.version = List.range' n ms.length
  | [], _ => rfl
  | m :: ms, h => by
    rw [checkVersions, bind_eq_ok] at h
    obtain ⟨⟨⟩, hversion, hrest⟩ := h
    rw [List.map_cons, List.length_cons, List.range'_succ, require_eq_ok.1 hversion]
    exact congrArg _ (checkVersions_ok hrest)

/-- The migrations of a definition are numbered from one on, so its version is their number. -/
theorem currentVersion_eq (d : SchemaDefinition δ ι ε) : d.currentVersion = d.migrations.length := by
  have hadmitted := d.admitted
  simp only [SchemaDefinitionFields.postInit, bind_eq_ok, require_eq_ok] at hadmitted
  obtain ⟨-, -, -, hlength, hversions⟩ := hadmitted
  have hmap := checkVersions_ok hversions
  rw [SchemaDefinition.currentVersion, ← List.getLast?_map, hmap, List.getLast?_range', if_neg hlength,
    Option.getD_some]
  omega

/-! ## What was run -/

/-- The recorded version; none is recorded at first. -/
def Database.recordedVersion (db : Database δ) : Nat := (db.status.map SchemaStatus.version).getD 0

/-- A run of the migration, to its end, made the second schema of the first. -/
def Ran (engine : Engine δ ι ε) (m : SchemaMigration δ ι ε) (before after : δ) : Prop :=
  ∃ db db' inputs rest, db.schema = before ∧ (m.run engine).exec db inputs = (some (.ok (), rest), db') ∧
    db'.schema = after

/-- The migrations, each once and in this order, made the second schema of the first. -/
inductive RanInOrder (engine : Engine δ ι ε) : List (SchemaMigration δ ι ε) → δ → δ → Prop
  | nil (s : δ) : RanInOrder engine [] s s
  | cons {m : SchemaMigration δ ι ε} {ms : List (SchemaMigration δ ι ε)} {s s' s'' : δ} :
      Ran engine m s s' → RanInOrder engine ms s' s'' → RanInOrder engine (m :: ms) s s''

theorem RanInOrder.append {ms ms' : List (SchemaMigration δ ι ε)} {s s' s'' : δ} (h : RanInOrder engine ms s s')
    (h' : RanInOrder engine ms' s' s'') : RanInOrder engine (ms ++ ms') s s'' := by
  induction h with
  | nil => exact h'
  | cons hran _ ih => exact .cons hran (ih h')

theorem ranInOrder_of_exec : ∀ {ms : List (SchemaMigration δ ι ε)} {db db' : Database δ} {inputs rest : List ι},
    (runMigrations engine ms).exec db inputs = (some (.ok (), rest), db') → RanInOrder engine ms db.schema db'.schema
  | [], db, db', inputs, rest, h => by
    cases h
    exact .nil _
  | m :: ms, db, db', inputs, rest, h => by
    obtain ⟨⟨⟩, mid, db₁, hm, hrest⟩ := exec_bind_ok h
    exact .cons ⟨db, db₁, inputs, mid, rfl, hm, rfl⟩ (ranInOrder_of_exec hrest)

/-! ## Statements of the store -/

section Statements

variable {db db' : Database δ} {inputs rest : List ι}

theorem exec_statement {act : Database δ → Except ε α × Database δ} {a : α}
    (h : (statement engine act).exec db inputs = (some (.ok a, rest), db')) :
    (act db).1 = .ok a ∧ db' = (act db).2 := by
  cases inputs with
  | nil => cases h
  | cons i inputs =>
    rw [statement, exec_call] at h
    cases hfail : engine.fails i with
    | some e =>
      rw [hfail] at h
      cases h
    | none =>
      rw [hfail] at h
      simp only [Prod.mk.injEq, Option.some.injEq, mapError_eq_ok] at h
      exact ⟨h.1.1, h.2.symm⟩

theorem ensure_ok (h : (ensureSchemaMetadataTable engine).exec db inputs = (some (.ok (), rest), db')) :
    db'.schema = db.schema ∧ db'.status = db.status ∧ db'.metadata ≠ none := by
  obtain ⟨-, rfl⟩ := exec_statement h
  refine ⟨rfl, ?_, nofun⟩
  unfold Database.status
  cases db.metadata <;> rfl

theorem schemaStatus_ok {status : Option SchemaStatus}
    (h : (schemaStatus engine).exec db inputs = (some (.ok status, rest), db')) : db' = db ∧ status = db.status := by
  obtain ⟨hanswer, rfl⟩ := exec_statement h
  split at hanswer
  · cases hanswer
  · next hmetadata =>
    cases hanswer
    rw [if_neg hmetadata]
    exact ⟨rfl, rfl⟩

theorem insert_ok {identity : String} {version : Nat}
    (h : (insertSchemaStatus engine identity version).exec db inputs = (some (.ok (), rest), db')) :
    db'.schema = db.schema ∧ db'.status = some ⟨identity, version⟩ := by
  obtain ⟨hanswer, hdb⟩ := exec_statement h
  cases hmetadata : db.metadata with
  | none =>
    rw [hmetadata] at hanswer
    cases hanswer
  | some row =>
    cases row with
    | some row =>
      rw [hmetadata] at hanswer
      cases hanswer
    | none =>
      rw [hmetadata] at hanswer hdb
      by_cases hpos : 1 ≤ version
      · rw [hdb]
        dsimp only
        rw [dif_pos hpos]
        exact ⟨rfl, rfl⟩
      · dsimp only at hanswer
        rw [dif_neg hpos] at hanswer
        cases hanswer

theorem update_ok {version : Nat}
    (h : (updateSchemaStatus engine version).exec db inputs = (some (.ok (), rest), db')) :
    db'.schema = db.schema ∧ db'.recordedVersion = version := by
  obtain ⟨rowcount, mid, db₁, hupdate, h⟩ := exec_bind_ok h
  obtain ⟨hanswer, hdb⟩ := exec_statement hupdate
  by_cases hone : rowcount = 1
  · rw [if_neg (not_not.2 hone)] at h
    cases h
    cases hmetadata : db.metadata with
    | none =>
      rw [hmetadata] at hanswer
      cases hanswer
    | some row =>
      rw [hmetadata] at hanswer hdb
      cases row with
      | none =>
        cases hanswer
        cases hone
      | some row =>
        dsimp only at hanswer hdb
        by_cases hpos : 1 ≤ version
        · rw [hdb, dif_pos hpos]
          exact ⟨rfl, rfl⟩
        · rw [dif_neg hpos] at hanswer
          cases hanswer
  · rw [if_pos hone] at h
    cases h

end Statements

/-! ## One initialisation -/

section Initialisation

variable {d : SchemaDefinition δ ι ε} {db db' : Database δ} {inputs rest : List ι} {status : SchemaStatus}

/-- A body that returns found no other identity and no newer version, and ran what was missing. -/
theorem initializeBody_ok (h : (initializeBody engine d).exec db inputs = (some (.ok status, rest), db')) :
    (∀ s, db.status = some s → s.identity = d.identity ∧ s.version ≤ d.currentVersion) ∧
      RanInOrder engine (d.migrations.drop db.recordedVersion) db.schema db'.schema ∧
      db'.recordedVersion = d.currentVersion := by
  obtain ⟨⟨⟩, mid, db₁, hensure, h⟩ := exec_bind_ok h
  obtain ⟨hschema, hstatus, -⟩ := ensure_ok hensure
  obtain ⟨found, mid', db₂, hfound, h⟩ := exec_bind_ok h
  obtain ⟨rfl, rfl⟩ := schemaStatus_ok hfound
  rw [hstatus] at h
  unfold Database.recordedVersion
  cases hs : db.status with
  -- a new database: every migration is missing
  | none =>
    rw [hs] at h
    obtain ⟨⟨⟩, _, db₃, hrun, h⟩ := exec_bind_ok h
    obtain ⟨⟨⟩, _, db₄, hinsert, h⟩ := exec_bind_ok h
    obtain ⟨hschema', hstatus'⟩ := insert_ok hinsert
    cases h
    refine ⟨nofun, ?_, ?_⟩
    · rw [hschema', ← hschema]
      exact ranInOrder_of_exec hrun
    · rw [hstatus']
      rfl
  -- one with a status: another identity or a newer version is refused
  | some s =>
    rw [hs] at h
    dsimp only at h
    by_cases hidentity : s.identity = d.identity
    · rw [if_neg (not_not.2 hidentity)] at h
      by_cases hnewer : s.version > d.currentVersion
      · rw [if_pos hnewer] at h
        cases h
      · rw [if_neg hnewer] at h
        refine ⟨?_, ?_⟩
        · intro s' hs'
          cases hs'
          exact ⟨hidentity, Nat.le_of_not_lt hnewer⟩
        · by_cases hsame : s.version = d.currentVersion
          · -- nothing is missing
            rw [if_pos hsame] at h
            cases h
            rw [hschema, hstatus, hs]
            refine ⟨?_, hsame⟩
            rw [List.drop_eq_nil_of_le]
            · exact .nil _
            · rw [← currentVersion_eq, ← hsame]
              exact Nat.le_refl _
          · rw [if_neg hsame] at h
            obtain ⟨⟨⟩, _, db₃, hrun, h⟩ := exec_bind_ok h
            obtain ⟨⟨⟩, _, db₄, hupdate, h⟩ := exec_bind_ok h
            obtain ⟨hschema', hversion⟩ := update_ok hupdate
            cases h
            refine ⟨?_, hversion⟩
            rw [hschema', ← hschema]
            exact ranInOrder_of_exec hrun
    · rw [if_pos hidentity] at h
      cases h

/-- What a call leaves committed. -/
def committedBy (engine : Engine δ ι ε) (db : Database δ) (d : SchemaDefinition δ ι ε) (inputs : List ι) :
    Database δ := ((initializeSchema engine d).exec (.idle db) inputs).2.committed

/-- How a call ends; `none` if it was killed. -/
def outcomeOf (engine : Engine δ ι ε) (db : Database δ) (d : SchemaDefinition δ ι ε) (inputs : List ι) :
    Option (Except (StoreError ε) SchemaStatus) :=
  ((initializeSchema engine d).exec (.idle db) inputs).1.map Prod.fst

theorem initializeSchema_ok (h : outcomeOf engine db d inputs = some (.ok status)) :
    (∀ s, db.status = some s → s.identity = d.identity ∧ s.version ≤ d.currentVersion) ∧
      RanInOrder engine (d.migrations.drop db.recordedVersion) db.schema (committedBy engine db d inputs).schema ∧
      (committedBy engine db d inputs).recordedVersion = d.currentVersion := by
  obtain ⟨rest, hrun⟩ := exec_of_outcome h
  obtain ⟨i, j, inputs', s', -, -, -, hbody, hend⟩ := inTransaction_returned hrun
  have hcommitted : committedBy engine db d inputs = s' := by
    show ((initializeSchema engine d).exec (.idle db) inputs).2.committed = s'
    rw [show ((initializeSchema engine d).exec (.idle db) inputs).2 = .idle s' from hend]
    rfl
  rw [hcommitted]
  exact initializeBody_ok hbody

/-- A call that raises, or is killed, leaves the database as it was. -/
theorem initializeSchema_failed (h : ∀ status, outcomeOf engine db d inputs ≠ some (.ok status)) :
    committedBy engine db d inputs = db := by
  apply inTransaction_unfinished
  intro status rest hrun
  apply h status
  show ((initializeSchema engine d).exec (.idle db) inputs).1.map Prod.fst = some (.ok status)
  rw [show ((initializeSchema engine d).exec (.idle db) inputs).1 = some (.ok status, rest) from hrun]
  rfl

/-- What an initialisation answers that it does not accept. -/
def rejection (d : SchemaDefinition δ ι ε) (s : SchemaStatus) : StoreError ε :=
  if s.identity ≠ d.identity then mismatch s.identity d.identity
  else newerThan d.identity s.version d.currentVersion

/-- An identity or a version the definition does not accept. -/
def IsForeign (d : SchemaDefinition δ ι ε) (s : SchemaStatus) : Prop :=
  s.identity ≠ d.identity ∨ s.version > d.currentVersion

theorem rejected_body {s : SchemaStatus} (hs : db.status = some s) (hforeign : IsForeign d s) :
    ∀ {inputs : List ι}, (∀ i ∈ inputs, engine.fails i = none) →
      (initializeBody engine d).exec db inputs = (none, ((initializeBody engine d).exec db inputs).2) ∨
      ∃ rest db', (initializeBody engine d).exec db inputs = (some (.error (rejection d s), rest), db') ∧
        ∀ i ∈ rest, engine.fails i = none := by
  have htable : db.metadata ≠ none := by
    intro hnone
    rw [Database.status, hnone] at hs
    cases hs
  obtain ⟨row, hrow⟩ := Option.ne_none_iff_exists'.1 htable
  have hsame : ({ db with metadata := some (db.metadata.getD none) } : Database δ) = db := by
    rw [hrow, Option.getD_some, ← hrow]
  have hensure : ∀ {i : ι}, engine.fails i = none → ∀ rest,
      (ensureSchemaMetadataTable engine).exec db (i :: rest) = (some (.ok (), rest), db) := by
    intro i hi rest
    rw [ensureSchemaMetadataTable, statement, exec_call, hi, hsame]
    rfl
  intro inputs hworks
  rcases inputs with _ | ⟨i, _ | ⟨j, rest⟩⟩
  · exact Or.inl rfl
  · left
    rw [initializeBody, exec_bind, hensure (hworks i List.mem_cons_self)]
    rfl
  · right
    have hj := hworks j (List.mem_cons_of_mem _ List.mem_cons_self)
    have hstatus : (schemaStatus engine).exec db (j :: rest) = (some (.ok (some s), rest), db) := by
      rw [schemaStatus, statement, exec_call, hj]
      dsimp only
      rw [if_neg htable, hs]
      rfl
    refine ⟨rest, db, ?_, fun k hk => hworks k (List.mem_cons_of_mem _ (List.mem_cons_of_mem _ hk))⟩
    rw [initializeBody, exec_bind, hensure (hworks i List.mem_cons_self)]
    dsimp only
    rw [exec_bind, hstatus]
    dsimp only
    unfold rejection
    by_cases hidentity : s.identity ≠ d.identity
    · rw [if_pos hidentity, if_pos hidentity]
      rfl
    · rw [if_neg hidentity, if_neg hidentity, if_pos (hforeign.resolve_left hidentity)]
      rfl

/-- A newer version or another identity is rejected, and nothing changes. -/
theorem initializeSchema_rejects {s : SchemaStatus} (hs : db.status = some s) (hforeign : IsForeign d s) :
    committedBy engine db d inputs = db ∧ (∀ status, outcomeOf engine db d inputs ≠ some (.ok status)) ∧
      ((∀ i ∈ inputs, engine.fails i = none) → ∀ r, outcomeOf engine db d inputs = some r →
        r = .error (rejection d s)) := by
  have hnever : ∀ status, outcomeOf engine db d inputs ≠ some (.ok status) := by
    intro status h
    obtain ⟨hidentity, hversion⟩ := (initializeSchema_ok h).1 s hs
    rcases hforeign with hother | hnewer
    · exact hother hidentity
    · omega
  refine ⟨initializeSchema_failed hnever, hnever, ?_⟩
  intro hworks r hr
  cases inputs with
  | nil => cases hr
  | cons i inputs =>
    have hbody := rejected_body (d := d) hs hforeign fun k hk => hworks k (List.mem_cons_of_mem _ hk)
    refine inTransaction_raised (by rw [hworks i List.mem_cons_self]; rfl) (hbody.imp id ?_) r hr
    rintro ⟨rest, db', hraised, hrest⟩
    exact ⟨rest, db', hraised, fun k hk => by rw [hrest k hk]; rfl⟩

end Initialisation

/-! ## Sequences of initialisations -/

/-- What is committed after a sequence of calls, each with the inputs it is given. -/
def initialisations (engine : Engine δ ι ε) : Database δ → List (SchemaDefinition δ ι ε × List ι) → Database δ :=
  after fun db c => committedBy engine db c.1 c.2

/-- The migrations between two versions. -/
def migrationsBetween (full : List (SchemaMigration δ ι ε)) (older newer : Nat) : List (SchemaMigration δ ι ε) :=
  (full.take newer).drop older

theorem migrationsBetween_append {full : List (SchemaMigration δ ι ε)} {a b c : Nat} (hab : a ≤ b) (hbc : b ≤ c)
    (hc : c ≤ full.length) :
    migrationsBetween full a c = migrationsBetween full a b ++ migrationsBetween full b c := by
  unfold migrationsBetween
  have hsplit : full.take c = full.take b ++ (full.take c).drop b := by
    conv_lhs => rw [← List.take_append_drop b (full.take c)]
    rw [List.take_take, Nat.min_eq_left hbc]
  conv_lhs => rw [hsplit]
  rw [List.drop_append_of_le_length]
  rw [List.length_take]
  omega

/-- One call keeps the schema at what the migrations up to the recorded version made of it. -/
theorem committedBy_inOrder {full : List (SchemaMigration δ ι ε)} {d : SchemaDefinition δ ι ε}
    (hd : d.migrations <+: full) {db₀ db : Database δ} (inputs : List ι)
    (hversion : db₀.recordedVersion ≤ db.recordedVersion)
    (horder : RanInOrder engine (migrationsBetween full db₀.recordedVersion db.recordedVersion) db₀.schema db.schema) :
    db₀.recordedVersion ≤ (committedBy engine db d inputs).recordedVersion ∧
      RanInOrder engine (migrationsBetween full db₀.recordedVersion (committedBy engine db d inputs).recordedVersion)
        db₀.schema (committedBy engine db d inputs).schema := by
  by_cases hok : ∃ status, outcomeOf engine db d inputs = some (.ok status)
  · obtain ⟨status, hok⟩ := hok
    obtain ⟨hfound, hran, hrecorded⟩ := initializeSchema_ok hok
    have hle : db.recordedVersion ≤ d.currentVersion := by
      unfold Database.recordedVersion
      cases hs : db.status with
      | none => exact Nat.zero_le _
      | some s => exact (hfound s hs).2
    have htake : d.migrations = full.take d.currentVersion := by
      rw [currentVersion_eq]
      exact List.prefix_iff_eq_take.1 hd
    have hlength : d.currentVersion ≤ full.length := by
      rw [currentVersion_eq]
      exact hd.length_le
    rw [hrecorded]
    refine ⟨Nat.le_trans hversion hle, ?_⟩
    rw [migrationsBetween_append hversion hle hlength]
    apply horder.append
    rw [migrationsBetween, ← htake]
    exact hran
  · rw [initializeSchema_failed fun status h => hok ⟨status, h⟩]
    exact ⟨hversion, horder⟩

theorem initialisations_inOrder {full : List (SchemaMigration δ ι ε)} (db₀ : Database δ) :
    ∀ (run : List (SchemaDefinition δ ι ε × List ι)) {db : Database δ}, (∀ c ∈ run, c.1.migrations <+: full) →
      db₀.recordedVersion ≤ db.recordedVersion →
      RanInOrder engine (migrationsBetween full db₀.recordedVersion db.recordedVersion) db₀.schema db.schema →
      db₀.recordedVersion ≤ (initialisations engine db run).recordedVersion ∧
        RanInOrder engine (migrationsBetween full db₀.recordedVersion (initialisations engine db run).recordedVersion)
          db₀.schema (initialisations engine db run).schema := by
  intro run
  induction run with
  | nil => intro db _ hversion horder; exact ⟨hversion, horder⟩
  | cons c run ih =>
    intro db hrun hversion horder
    obtain ⟨hversion', horder'⟩ :=
      committedBy_inOrder (hrun c List.mem_cons_self) c.2 hversion horder
    exact ih (fun c' hc' => hrun c' (List.mem_cons_of_mem _ hc')) hversion' horder'

/-- Migrations run exactly once. After any sequence of initialisations by prefixes of one list,
each failing or killed anywhere, the schema is what the migrations between the version
recorded at first and the one recorded now, each once and in order, made of it. A call that
does not return leaves the database as it was, nobody sees one half done, and one that meets a
newer version or another identity is rejected and changes nothing. -/
theorem migrations_once (engine : Engine δ ι ε) (full : List (SchemaMigration δ ι ε)) (db₀ : Database δ)
    (run : List (SchemaDefinition δ ι ε × List ι)) (hrun : ∀ c ∈ run, c.1.migrations <+: full) :
    db₀.recordedVersion ≤ (initialisations engine db₀ run).recordedVersion ∧
    RanInOrder engine (migrationsBetween full db₀.recordedVersion (initialisations engine db₀ run).recordedVersion)
      db₀.schema (initialisations engine db₀ run).schema ∧
    ∀ (d : SchemaDefinition δ ι ε) (inputs : List ι), let db := initialisations engine db₀ run
      (∀ status, outcomeOf engine db d inputs = some (.ok status) →
        RanInOrder engine (d.migrations.drop db.recordedVersion) db.schema (committedBy engine db d inputs).schema ∧
          (committedBy engine db d inputs).recordedVersion = d.currentVersion) ∧
      ((∀ status, outcomeOf engine db d inputs ≠ some (.ok status)) → committedBy engine db d inputs = db) ∧
      Hidden (initializeSchema engine d) (.idle db) inputs ∧
      ∀ s, db.status = some s → IsForeign d s →
        committedBy engine db d inputs = db ∧ (∀ status, outcomeOf engine db d inputs ≠ some (.ok status)) ∧
          ((∀ i ∈ inputs, engine.fails i = none) → ∀ r, outcomeOf engine db d inputs = some r →
            r = .error (rejection d s)) := by
  have hstart : RanInOrder engine (migrationsBetween full db₀.recordedVersion db₀.recordedVersion) db₀.schema
      db₀.schema := by
    rw [migrationsBetween, List.drop_eq_nil_of_le]
    · exact .nil _
    · exact List.length_take_le _ _
  obtain ⟨hversion, horder⟩ := initialisations_inOrder db₀ run hrun (Nat.le_refl _) hstart
  refine ⟨hversion, horder, ?_⟩
  intro d inputs
  refine ⟨fun status hok => (initializeSchema_ok hok).2, initializeSchema_failed, inTransaction_hidden _ _ _, ?_⟩
  intro s hs hforeign
  exact initializeSchema_rejects hs hforeign

/-! ## Adoption -/

section Adoption

variable {d : SchemaDefinition δ ι ε} {version : Int} {db db' : Database δ} {inputs rest : List ι}
  {status : SchemaStatus}

theorem adoptBody_ok (h : (adoptBody engine d version).exec db inputs = (some (.ok status, rest), db')) :
    db'.status = some status ∧ status.identity = d.identity ∧ (status.version : Int) = version ∧
      (db.status ≠ none → db.status = some status ∧ db'.schema = db.schema) := by
  obtain ⟨⟨⟩, mid, db₁, hensure, h⟩ := exec_bind_ok h
  obtain ⟨hschema, hstatus, -⟩ := ensure_ok hensure
  obtain ⟨found, mid', db₂, hfound, h⟩ := exec_bind_ok h
  obtain ⟨rfl, rfl⟩ := schemaStatus_ok hfound
  rw [hstatus] at h
  cases hs : db.status with
  | none =>
    rw [hs] at h
    obtain ⟨⟨⟩, _, db₃, hvalid, h⟩ := exec_bind_ok h
    obtain ⟨⟨⟩, _, db₄, -, h⟩ := exec_bind_ok h
    obtain ⟨⟨⟩, _, db₅, hinsert, h⟩ := exec_bind_ok h
    obtain ⟨-, hstatus'⟩ := insert_ok hinsert
    cases h
    have hpos : 1 ≤ version := by
      unfold validateSchemaVersion at hvalid
      by_cases hpos : 1 ≤ version
      · exact hpos
      · rw [require, if_neg hpos] at hvalid
        cases hvalid
    refine ⟨hstatus', rfl, ?_, fun hne => absurd rfl hne⟩
    exact Int.toNat_of_nonneg (by omega)
  | some s =>
    rw [hs] at h
    dsimp only at h
    by_cases hidentity : s.identity = d.identity
    · rw [if_neg (not_not.2 hidentity)] at h
      by_cases hversion : (s.version : Int) = version
      · rw [if_neg (not_not.2 hversion)] at h
        cases h
        exact ⟨hstatus.trans hs, hidentity, hversion, fun _ => ⟨rfl, hschema⟩⟩
      · rw [if_pos hversion] at h
        cases h
    · rw [if_pos hidentity] at h
      cases h

/-- An adoption that returns has recorded what it was asked to, and where a version was
recorded before, it is that one and nothing changed. -/
theorem adoptExistingSchema_ok {c : Connection (Database δ)}
    (h : (adoptExistingSchema engine d version).exec (.idle db) inputs = (some (.ok status, rest), c)) :
    c.committed.status = some status ∧ status.identity = d.identity ∧ (status.version : Int) = version ∧
      (db.status ≠ none → db.status = some status ∧ c.committed.schema = db.schema) := by
  obtain ⟨i, j, inputs', s', -, -, -, hbody, rfl⟩ := inTransaction_returned h
  exact adoptBody_ok hbody

end Adoption

end

/-! ## One sequence -/

private def bench : Engine (List Nat) Bool String where
  fails := fun works => if works then none else some "disk I/O error"
  execute := fun _ works db => (if works then .ok () else .error "disk I/O error", db)
  error := id
  text := fun _ => ""

private def adding (n : Nat) : SchemaMigration (List Nat) Bool String where
  version := n
  statements := []
  apply := some (call fun works db =>
    (if works then .ok () else .error (.sqlite "disk I/O error"), { db with schema := db.schema ++ [n] }))

private def firstTwo : SchemaDefinition (List Nat) Bool String where
  identity := "bench"
  migrations := [adding 1, adding 2]
  validate := none
  admitted := rfl

private def allThree : SchemaDefinition (List Nat) Bool String where
  identity := "bench"
  migrations := [adding 1, adding 2, adding 3]
  validate := none
  admitted := rfl

/-- Two migrations; the third fails once; the older code is refused; the third succeeds. -/
private def upgrades : List (SchemaDefinition (List Nat) Bool String × List Bool) :=
  [(firstTwo, List.replicate 9 true), (allThree, [true, true, true, false, true]),
    (allThree, List.replicate 9 true), (firstTwo, List.replicate 9 true)]

/-- After the four openings, each of the three migrations has run once, in order. -/
theorem migrations_once_upgrades :
    (initialisations bench ⟨none, []⟩ upgrades).recordedVersion = 3 ∧
      RanInOrder bench [adding 1, adding 2, adding 3] [] (initialisations bench ⟨none, []⟩ upgrades).schema ∧
      (initialisations bench ⟨none, []⟩ upgrades).schema = [1, 2, 3] := by
  have hrun : ∀ c ∈ upgrades, c.1.migrations <+: allThree.migrations := by
    have htwo : firstTwo.migrations <+: allThree.migrations := ⟨[adding 3], rfl⟩
    have hthree : allThree.migrations <+: allThree.migrations := List.prefix_rfl
    intro c hc
    simp only [upgrades, List.mem_cons, List.not_mem_nil, or_false] at hc
    rcases hc with rfl | rfl | rfl | rfl
    · exact htwo
    · exact hthree
    · exact hthree
    · exact htwo
  exact ⟨rfl, (migrations_once bench allThree.migrations ⟨none, []⟩ upgrades hrun).2.1, rfl⟩

end SafeFsOps.SqliteStore
