import SafeFsOps.FilesystemOps.ContentStore

/-!
# Tree backups over a shared store

What the journal knows of the content store: the trackers of `filesystem_mutations.py`, which
put the objects that a tree backup creates on record, and the cleanup of
`tree_backup_recovery.py`, which removes them again where the backup was not completed. Any
number of batches work over one store, their steps in any order; a call of the store is one
step, and so is the cleanup of one artifact.

> `shared_objects_kept`: as long as no batch stores what another one has created and may yet
> clean up, every completed backup can be restored.
> `shared_object_deleted`: where one does, the cleanup takes an object from its backup.
> `cleanup_disposes`: a cleanup that meets no obstacle leaves none of the objects it planned for.
-/

namespace SafeFsOps.Descriptors

/-! ## Objects -/

/-- The files of a store, by their paths. -/
abbrev StoreFiles := Path → Option Bytes

section Objects

variable (sha256 : Bytes → Digest) (root : Path)

/-- `verify`: the object is there, and it is what the reference says. -/
def StoreFiles.verifies (files : StoreFiles) (ref : ContentRef) : Bool :=
  ref.path = objectPath root ref.digest ∧
    (files ref.path).any fun content => sha256 content = ref.digest ∧ content.length = ref.size

/-- `put_file_with_status` and `put_bytes_with_status`, as seen from outside: an object that is
there is taken if it is the right one. -/
def StoreFiles.put (files : StoreFiles) (content : Bytes) : Except FilesystemError PutResult × StoreFiles :=
  let ref : ContentRef := ⟨sha256 content, content.length, objectPath root (sha256 content)⟩
  match files ref.path with
  | some _ =>
    if files.verifies sha256 root ref = true then (.ok ⟨ref, false⟩, files)
    else (.error (failedVerification "existing" root ref.digest), files)
  | none => (.ok ⟨ref, true⟩, Function.update files ref.path (some content))

end Objects

/-! ## Checkpoints -/

/-- A reference of a checkpoint that cannot be read: its text, and why it cannot. -/
structure MalformedRef where
  text : String
  detail : String

/-- The payloads of the two checkpoints of a tree backup, as they are read. A store path that is
none is given by its text. -/
inductive TreeCheckpointPayload where
  | partialArtifacts (storePath : Except Path Path) (contentRefs : Option (List (Except MalformedRef ContentRef)))
  | treeBackup (contentRefs : List ContentRef)

structure TreeCheckpoint where
  checkpointId : String
  batchId : String
  resourceKey : String
  payload : TreeCheckpointPayload

/-- The objects of the backup, where it is completed. -/
def TreeCheckpoint.backupRefs (c : TreeCheckpoint) : List ContentRef :=
  match c.payload with
  | .treeBackup refs => refs
  | .partialArtifacts .. => []

/-- The objects that it says were created. -/
def TreeCheckpoint.createdRefs (c : TreeCheckpoint) : List ContentRef :=
  match c.payload with
  | .partialArtifacts _ (some refs) => refs.filterMap Except.toOption
  | _ => []

def TreeCheckpoint.isTreeBackup (c : TreeCheckpoint) : Bool :=
  match c.payload with
  | .treeBackup _ => true
  | .partialArtifacts .. => false

/-- The batches of `completed_tree_backup_batches`. -/
def hasTreeBackup (checkpoints : List TreeCheckpoint) (batchId : String) : Bool :=
  checkpoints.any fun c => c.batchId = batchId ∧ c.isTreeBackup = true

/-! ## Candidates -/

/-- `TreeBackupArtifactCleanupDebt`. -/
structure TreeArtifactDebt where
  batchId : String
  contentPath : Path
  reasonCode : String
  detail : String
deriving DecidableEq

/-- `TreeBackupArtifactCleanupCandidate`: with the digest and the size of the object, or with
why it cannot be cleaned up. -/
structure TreeArtifactCandidate where
  artifactId : String
  batchId : String
  checkpointId : String
  resourceKey : String
  storePath : Path
  contentPath : Path
  object : Except TreeArtifactDebt (Digest × Nat)
deriving DecidableEq

/-- A debt of a checkpoint that cannot be read. -/
def malformedDebt (c : TreeCheckpoint) (contentPath : Path) (detail : String) : TreeArtifactDebt :=
  ⟨c.batchId, contentPath, "malformed_tree_backup_artifact_checkpoint", detail⟩

/-- `_tree_backup_artifact_candidate_from_payload`. -/
def candidateOfRef (c : TreeCheckpoint) (storePath : Path) :
    Except MalformedRef ContentRef → TreeArtifactCandidate
  | .ok ref => ⟨pathText (objectPath storePath ref.digest), c.batchId, c.checkpointId, c.resourceKey, storePath,
      ref.path, .ok (ref.digest, ref.size)⟩
  | .error m => ⟨"checkpoint:" ++ c.checkpointId ++ ":" ++ toString m.text.length, c.batchId, c.checkpointId,
      c.resourceKey, storePath, storePath, .error (malformedDebt c storePath m.detail)⟩

/-- The candidates of one checkpoint. -/
def candidatesOf (c : TreeCheckpoint) : List TreeArtifactCandidate :=
  match c.payload with
  | .partialArtifacts (.ok storePath) (some refs) => refs.map (candidateOfRef c storePath)
  | .partialArtifacts (.ok path) none | .partialArtifacts (.error path) _ =>
    [⟨"checkpoint:" ++ c.checkpointId, c.batchId, c.checkpointId, c.resourceKey, path, path,
      .error (malformedDebt c path "tree backup partial artifact checkpoint is missing store_path or content_refs")⟩]
  | .treeBackup _ => []

/-- The first candidate of each artifact. -/
def firstOfEach (candidates : List TreeArtifactCandidate) : List TreeArtifactCandidate :=
  candidates.foldl (fun seen c => if seen.any (fun s => s.artifactId = c.artifactId) then seen else seen ++ [c]) []

/-- `plan_tree_backup_artifact_cleanup_candidates`. -/
def planTreeBackupArtifactCleanupCandidates (checkpoints : List TreeCheckpoint) : List TreeArtifactCandidate :=
  firstOfEach ((checkpoints.filter fun c => !hasTreeBackup checkpoints c.batchId).flatMap candidatesOf)

/-! ## Cleaning up one artifact -/

inductive CleanupStatus where
  | succeeded | skipped | failed | manualInterventionRequired
deriving DecidableEq

/-- `TreeBackupArtifactCleanupResult`. -/
structure TreeArtifactResult where
  artifactId : String
  batchId : String
  contentPath : Path
  status : CleanupStatus
  reasonCode : Option String
  detail : Option String

/-- What the system says to a cleanup: that the path is not safe, that the file cannot be read,
that it cannot be deleted. -/
structure CleanupAnswer where
  unsafeDetail : Option String
  readError : Option String
  deleteError : Option String

namespace TreeArtifactCandidate

def result (c : TreeArtifactCandidate) (status : CleanupStatus) (reasonCode detail : String) : TreeArtifactResult :=
  ⟨c.artifactId, c.batchId, c.contentPath, status, some reasonCode, some detail⟩

/-- `_verify_tree_backup_artifact_cleanup_candidate`. -/
def verify (sha256 : Bytes → Digest) (c : TreeArtifactCandidate) (o : CleanupAnswer) (files : StoreFiles)
    (digest : Digest) (size : Nat) : Option TreeArtifactResult :=
  match o.readError, files c.contentPath with
  | some e, _ => some (c.result .manualInterventionRequired "tree_backup_artifact_verification_failed" e)
  | none, none => some (c.result .skipped "artifact_missing"
      ("tree backup artifact already missing at " ++ pathText c.contentPath))
  | none, some content =>
    if sha256 content ≠ digest ∨ content.length ≠ size then
      some (c.result .manualInterventionRequired "tree_backup_artifact_content_mismatch"
        ("tree backup artifact content changed at " ++ pathText c.contentPath))
    else none

/-- `execute_tree_backup_artifact_cleanup_candidate`. Nobody else is at work between its checks,
so that the later ones, which repeat the first, have nothing to add. -/
def execute (sha256 : Bytes → Digest) (c : TreeArtifactCandidate) (o : CleanupAnswer) (files : StoreFiles) :
    TreeArtifactResult × StoreFiles :=
  match c.object with
  | .error debt => (c.result .manualInterventionRequired debt.reasonCode debt.detail, files)
  | .ok (digest, size) =>
    if c.contentPath ≠ objectPath c.storePath digest then
      (c.result .manualInterventionRequired "unsafe_tree_backup_artifact_path"
        ("refusing to remove tree backup artifact " ++ pathText c.contentPath ++ "; expected " ++
          pathText (objectPath c.storePath digest)), files)
    else match o.unsafeDetail, c.verify sha256 o files digest size, o.deleteError with
      | some detail, _, _ => (c.result .manualInterventionRequired "unsafe_tree_backup_artifact_path" detail, files)
      | none, some r, _ => (r, files)
      | none, none, some e => (c.result .failed "artifact_cleanup_failed" e, files)
      | none, none, none =>
        (⟨c.artifactId, c.batchId, c.contentPath, .succeeded, none, none⟩, Function.update files c.contentPath none)

end TreeArtifactCandidate

/-! ## Batches at work -/

/-- A tree backup under way: what `_TreeBackupPartialArtifactTracker` has seen created and how
much of it is on record, and what the backup refers to so far. -/
structure TreeCapture where
  batchId : String
  resourceKey : String
  createdRefs : List ContentRef
  checkpointedCount : Nat
  backupRefs : List ContentRef

/-- `put_file_with_status` of `_TrackingContentAddressedStore`, once the store has answered. -/
def TreeCapture.stored (k : TreeCapture) (result : PutResult) : TreeCapture :=
  { k with
    backupRefs := k.backupRefs ++ [result.ref]
    createdRefs := if result.created = true then k.createdRefs ++ [result.ref] else k.createdRefs }

/-- The store, the checkpoints of all batches, the backups under way, the batches that were ever
started, and the artifacts of each batch whose cleanup is closed: recorded as succeeded or skipped. -/
structure StoreWorld where
  files : StoreFiles
  checkpoints : List TreeCheckpoint
  captures : List TreeCapture
  started : List String
  closed : List (String × String)

/-- One step of a batch: it starts; stores content; records what it has created
(`record_checkpoint`); records its backup; fails or is killed; or has one of its artifacts
cleaned up, which may go unrecorded. -/
inductive StoreStep where
  | start (batchId resourceKey : String)
  | put (batchId : String) (content : Bytes)
  | record (batchId checkpointId : String)
  | finish (batchId checkpointId : String)
  | stop (batchId : String)
  | cleanup (batchId artifactId : String) (answer : CleanupAnswer) (recorded : Bool)

namespace StoreWorld

def init (files : StoreFiles) : StoreWorld := ⟨files, [], [], [], []⟩

def running (w : StoreWorld) (batchId : String) : Bool := w.captures.any fun k => k.batchId = batchId

/-- The rest of the backups under way, with those of the batch changed. -/
def onCapture (w : StoreWorld) (batchId : String) (f : TreeCapture → TreeCapture) : List TreeCapture :=
  w.captures.map fun k => if k.batchId = batchId then f k else k

/-- The cleanup of the artifact is closed for the batch. -/
def isClosed (w : StoreWorld) (batchId artifactId : String) : Bool :=
  w.closed.any fun x => x.1 = batchId ∧ x.2 = artifactId

/-- One candidate of `_cleanup_artifacts_for_batches`, unless its cleanup is closed. -/
def cleanUp (sha256 : Bytes → Digest) (w : StoreWorld) (c : TreeArtifactCandidate) (batchId : String)
    (o : CleanupAnswer) (recorded : Bool) : StoreWorld :=
  if w.isClosed batchId c.artifactId = true then w
  else
    let (result, files) := c.execute sha256 o w.files
    { w with
      files := files
      closed := if recorded = true ∧ (result.status = .succeeded ∨ result.status = .skipped) then
        w.closed ++ [(batchId, c.artifactId)] else w.closed }

def step (sha256 : Bytes → Digest) (root : Path) (w : StoreWorld) : StoreStep → StoreWorld
  | .start b key =>
    if b ∈ w.started then w
    else { w with captures := w.captures ++ [⟨b, key, [], 0, []⟩], started := w.started ++ [b] }
  | .put b content =>
    if w.running b = true then
      match w.files.put sha256 root content with
      | (.ok result, files) => { w with files := files, captures := w.onCapture b fun k => k.stored result }
      | (.error _, _) => w
    else w
  | .record b id =>
    match w.captures.find? fun k => k.batchId = b with
    | none => w
    | some k =>
      if k.createdRefs.drop k.checkpointedCount = [] then w
      else
        { w with
          checkpoints := w.checkpoints ++ [⟨id, b, k.resourceKey, .partialArtifacts (.ok root)
            (some ((k.createdRefs.drop k.checkpointedCount).map .ok))⟩]
          captures := w.onCapture b fun k => { k with checkpointedCount := k.createdRefs.length } }
  | .finish b id =>
    match w.captures.find? fun k => k.batchId = b with
    | none => w
    | some k =>
      { w with
        checkpoints := w.checkpoints ++ [⟨id, b, k.resourceKey, .treeBackup k.backupRefs⟩]
        captures := w.captures.filter fun k => k.batchId ≠ b }
  | .stop b => { w with captures := w.captures.filter fun k => k.batchId ≠ b }
  | .cleanup b artifactId o recorded =>
    if w.running b = true then w
    else
      match (planTreeBackupArtifactCleanupCandidates (w.checkpoints.filter fun c => c.batchId = b)).find?
          fun c => c.artifactId = artifactId with
      | none => w
      | some c => w.cleanUp sha256 c b o recorded

/-- A whole run. -/
def run (sha256 : Bytes → Digest) (root : Path) (w : StoreWorld) (steps : List StoreStep) : StoreWorld :=
  steps.foldl (step sha256 root) w

/-- All objects of all completed backups are there, and are what they should be. -/
def Restorable (sha256 : Bytes → Digest) (root : Path) (w : StoreWorld) : Prop :=
  ∀ c ∈ w.checkpoints, ∀ ref ∈ c.backupRefs, w.files.verifies sha256 root ref = true

instance (sha256 : Bytes → Digest) (root : Path) (w : StoreWorld) : Decidable (w.Restorable sha256 root) :=
  inferInstanceAs (Decidable (∀ c ∈ w.checkpoints, ∀ ref ∈ c.backupRefs, w.files.verifies sha256 root ref = true))

/-! ## Keeping apart -/

/-- The batch has completed its backup, or the cleanup of the object is closed for it: it will
not remove it any more. -/
def settled (w : StoreWorld) (batchId : String) (path : Path) : Bool :=
  hasTreeBackup w.checkpoints batchId || w.isClosed batchId (pathText path)

/-- Another batch has created the object, and may yet clean it up. -/
def createdElsewhere (w : StoreWorld) (batchId : String) (path : Path) : Bool :=
  (w.captures.any fun k => k.batchId ≠ batchId && !w.settled k.batchId path &&
    k.createdRefs.any fun ref => ref.path = path) ||
  w.checkpoints.any fun c => c.batchId ≠ batchId && !w.settled c.batchId path &&
    c.createdRefs.any fun ref => ref.path = path

/-- No batch stores what another one has created and may yet clean up. -/
def keepsApart (sha256 : Bytes → Digest) (root : Path) (w : StoreWorld) : StoreStep → Bool
  | .put b content => !w.createdElsewhere b (objectPath root (sha256 content))
  | _ => true

/-- Throughout a run. -/
def allApart (sha256 : Bytes → Digest) (root : Path) (w : StoreWorld) : List StoreStep → Bool
  | [] => true
  | s :: steps => w.keepsApart sha256 root s && (w.step sha256 root s).allApart sha256 root steps

end StoreWorld

/-! ## Candidates come from the checkpoints -/

section Planning

variable {checkpoints : List TreeCheckpoint} {c : TreeArtifactCandidate}

theorem mem_of_firstOfEach {candidates : List TreeArtifactCandidate} (h : c ∈ firstOfEach candidates) :
    c ∈ candidates := by
  suffices hfold : ∀ (l seen : List TreeArtifactCandidate), c ∈ l.foldl (fun seen c =>
      if seen.any (fun s => s.artifactId = c.artifactId) then seen else seen ++ [c]) seen → c ∈ seen ∨ c ∈ l by
    exact (hfold candidates [] h).resolve_left List.not_mem_nil
  intro l
  induction l with
  | nil => exact fun seen h => Or.inl h
  | cons x l ih =>
    intro seen h
    rcases ih _ h with hseen | hl
    · dsimp only at hseen
      split at hseen
      · exact Or.inl hseen
      · rcases List.mem_append.1 hseen with hold | hnew
        · exact Or.inl hold
        · exact Or.inr (List.mem_cons.2 (Or.inl (List.mem_singleton.1 hnew)))
    · exact Or.inr (List.mem_cons_of_mem x hl)

/-- A candidate that can be cleaned up is an object that a batch without a backup has created. -/
theorem planned_created (h : c ∈ planTreeBackupArtifactCleanupCandidates checkpoints) {object : Digest × Nat}
    (hobject : c.object = .ok object) :
    ∃ x ∈ checkpoints, hasTreeBackup checkpoints x.batchId = false ∧ (∃ ref ∈ x.createdRefs, ref.path = c.contentPath) ∧
      c.artifactId = pathText (objectPath c.storePath object.1) := by
  obtain ⟨x, hx, hc⟩ := List.mem_flatMap.1 (mem_of_firstOfEach h)
  obtain ⟨hx, hnot⟩ := List.mem_filter.1 hx
  refine ⟨x, hx, by simpa using hnot, ?_⟩
  unfold candidatesOf at hc
  unfold TreeCheckpoint.createdRefs
  split at hc
  · next refs hpayload =>
    obtain ⟨r, hr, rfl⟩ := List.mem_map.1 hc
    cases r with
    | error m => cases hobject
    | ok ref =>
      cases hobject
      rw [hpayload]
      exact ⟨⟨ref, List.mem_filterMap.2 ⟨.ok ref, hr, rfl⟩, rfl⟩, rfl⟩
  · rw [List.mem_singleton] at hc
    subst hc
    cases hobject
  · rw [List.mem_singleton] at hc
    subst hc
    cases hobject
  · cases hc

end Planning

/-! ## What one step does -/

section Steps

variable {sha256 : Bytes → Digest} {root : Path} {w w' : StoreWorld} {b b' : String} {path : Path} {ref : ContentRef}

/-- Whether an object is the right one is between it and its reference. -/
theorem verifies_congr {files files' : StoreFiles} (h : files' ref.path = files ref.path) :
    files'.verifies sha256 root ref = files.verifies sha256 root ref := by
  simp only [StoreFiles.verifies, h]

namespace StoreWorld

/-- The backup of the batch, under way or completed, needs the object. -/
def Refers (w : StoreWorld) (b : String) (ref : ContentRef) : Prop :=
  (∃ k ∈ w.captures, k.batchId = b ∧ ref ∈ k.backupRefs) ∨ ∃ c ∈ w.checkpoints, c.batchId = b ∧ ref ∈ c.backupRefs

/-- The batch has created the object. -/
def Created (w : StoreWorld) (b : String) (path : Path) : Prop :=
  (∃ k ∈ w.captures, k.batchId = b ∧ ∃ ref ∈ k.createdRefs, ref.path = path) ∨
    ∃ c ∈ w.checkpoints, c.batchId = b ∧ ∃ ref ∈ c.createdRefs, ref.path = path

/-- What every step preserves: the objects that are needed are there, and nobody else may yet
clean them up. -/
structure Sound (sha256 : Bytes → Digest) (root : Path) (w : StoreWorld) : Prop where
  present : ∀ b ref, w.Refers b ref → w.files.verifies sha256 root ref = true
  apart : ∀ b ref b', w.Refers b ref → w.Created b' ref.path → w.settled b' ref.path = false → b' = b

theorem Sound.init {files : StoreFiles} : Sound sha256 root (StoreWorld.init files) where
  present _ _ h := by rcases h with ⟨k, hk, -⟩ | ⟨c, hc, -⟩ <;> cases ‹_›
  apart _ _ _ h _ _ := by rcases h with ⟨k, hk, -⟩ | ⟨c, hc, -⟩ <;> cases ‹_›

theorem Sound.restorable (h : Sound sha256 root w) : w.Restorable sha256 root :=
  fun c hc ref hr => h.present c.batchId ref (Or.inr ⟨c, hc, rfl, hr⟩)

/-- A step that lets nobody need more, create more or answer for more keeps what there is, if
the objects that are needed stay. -/
theorem Sound.mono (h : Sound sha256 root w) (hrefers : ∀ b ref, w'.Refers b ref → w.Refers b ref)
    (hcreated : ∀ b path, w'.Created b path → w.Created b path)
    (hsettled : ∀ b path, w.settled b path = true → w'.settled b path = true)
    (hfiles : ∀ b ref, w'.Refers b ref → w'.files ref.path = w.files ref.path) : Sound sha256 root w' where
  present b ref hr := (verifies_congr (hfiles b ref hr)).trans (h.present b ref (hrefers b ref hr))
  apart b ref b' hr hc hs := by
    refine h.apart b ref b' (hrefers b ref hr) (hcreated b' _ hc) ?_
    rw [← Bool.not_eq_true]
    intro hold
    rw [hsettled b' _ hold] at hs
    cases hs

theorem settled_append {x : TreeCheckpoint} {captures : List TreeCapture} (h : w.settled b path = true) :
    ({ w with checkpoints := w.checkpoints ++ [x], captures := captures } : StoreWorld).settled b path = true := by
  unfold settled hasTreeBackup at h ⊢
  rw [Bool.or_eq_true] at h ⊢
  refine h.imp_left fun h => ?_
  rw [List.any_append, h, Bool.true_or]

/-- What was found of a backup under way. -/
theorem find_capture {k : TreeCapture} (h : w.captures.find? (fun k => k.batchId = b) = some k) :
    k ∈ w.captures ∧ k.batchId = b :=
  ⟨List.mem_of_find?_eq_some h, by simpa using List.find?_some h⟩

/-- No other batch has the object to clean up. -/
theorem eq_of_not_createdElsewhere (h : w.createdElsewhere b path = false) (hcreated : w.Created b' path)
    (hsettled : w.settled b' path = false) : b' = b := by
  unfold createdElsewhere at h
  rw [Bool.or_eq_false_iff, List.any_eq_false, List.any_eq_false] at h
  by_contra hne
  rcases hcreated with ⟨k, hk, rfl, ref, href, hpath⟩ | ⟨c, hc, rfl, ref, href, hpath⟩
  · refine h.1 k hk ?_
    rw [hsettled]
    simpa [hne] using ⟨ref, href, hpath⟩
  · refine h.2 c hc ?_
    rw [hsettled]
    simpa [hne] using ⟨ref, href, hpath⟩

end StoreWorld

/-- A put leaves an object that is what its reference says, and changes no other file; it says
that it is a new one only where there was none. -/
theorem put_ok {files files' : StoreFiles} {content : Bytes} {result : PutResult}
    (h : files.put sha256 root content = (.ok result, files')) :
    result.ref.path = objectPath root (sha256 content) ∧ files'.verifies sha256 root result.ref = true ∧
      (∀ p, files p ≠ none → files' p = files p) ∧ (result.created = true → files result.ref.path = none) := by
  unfold StoreFiles.put at h
  dsimp only at h
  split at h
  · split at h
    · next hverifies =>
      cases h
      exact ⟨rfl, hverifies, fun _ _ => rfl, fun hnew => by cases hnew⟩
    · cases h
  · next hnone =>
    cases h
    refine ⟨rfl, ?_, fun p hp => ?_, fun _ => hnone⟩
    · simp [StoreFiles.verifies]
    · rw [Function.update_of_ne]
      rintro rfl
      exact hp hnone

/-- A cleanup removes an object only if it is the candidate's own, under the candidate's name. -/
theorem execute_files (sha256 : Bytes → Digest) (c : TreeArtifactCandidate) (o : CleanupAnswer) (files : StoreFiles) :
    (c.execute sha256 o files).2 = files ∨
      ∃ object, c.object = .ok object ∧ c.contentPath = objectPath c.storePath object.1 ∧
        (c.execute sha256 o files).2 = Function.update files c.contentPath none := by
  unfold TreeArtifactCandidate.execute
  split
  · exact Or.inl rfl
  · next digest size hobject =>
    split
    · exact Or.inl rfl
    · next hpath =>
      split
      · exact Or.inl rfl
      · exact Or.inl rfl
      · exact Or.inl rfl
      · exact Or.inr ⟨_, hobject, not_not.1 hpath, rfl⟩

namespace StoreWorld

/-- **Storing.** What is created is needed by nobody yet; what is found is not answered for by
anybody else. -/
theorem Sound.put (h : Sound sha256 root w) {content : Bytes}
    (hapart : w.createdElsewhere b (objectPath root (sha256 content)) = false) :
    Sound sha256 root (w.step sha256 root (.put b content)) := by
  simp only [step]
  split
  · split
    · next result files hput =>
      obtain ⟨hpath, hverifies, hkept, hnew⟩ := put_ok hput
      -- who needs an object afterwards needed it before, or has just stored it
      have hrefers : ∀ b' ref, ({ w with files := files, captures := w.onCapture b fun k => k.stored result } :
          StoreWorld).Refers b' ref → w.Refers b' ref ∨ b' = b ∧ ref = result.ref := by
        rintro b' ref (⟨k, hk, rfl, href⟩ | hc)
        · obtain ⟨k₀, hk₀, rfl⟩ := List.mem_map.1 hk
          split at href
          · next hb =>
            rw [if_pos hb]
            rcases List.mem_append.1 href with hold | hlast
            · exact Or.inl (Or.inl ⟨k₀, hk₀, rfl, hold⟩)
            · exact Or.inr ⟨hb, List.mem_singleton.1 hlast⟩
          · next hb =>
            rw [if_neg hb]
            exact Or.inl (Or.inl ⟨k₀, hk₀, rfl, href⟩)
        · exact Or.inl (Or.inr hc)
      have hcreated : ∀ b' p, ({ w with files := files, captures := w.onCapture b fun k => k.stored result } :
          StoreWorld).Created b' p → w.Created b' p ∨ b' = b ∧ p = result.ref.path ∧ result.created = true := by
        rintro b' p (⟨k, hk, rfl, ref, href, rfl⟩ | hc)
        · obtain ⟨k₀, hk₀, rfl⟩ := List.mem_map.1 hk
          split at href
          · next hb =>
            rw [if_pos hb]
            unfold TreeCapture.stored at href
            dsimp only at href
            split at href
            · next hnew =>
              rcases List.mem_append.1 href with hold | hlast
              · exact Or.inl (Or.inl ⟨k₀, hk₀, rfl, ref, hold, rfl⟩)
              · rw [List.mem_singleton.1 hlast]
                exact Or.inr ⟨hb, rfl, hnew⟩
            · exact Or.inl (Or.inl ⟨k₀, hk₀, rfl, ref, href, rfl⟩)
          · next hb =>
            rw [if_neg hb]
            exact Or.inl (Or.inl ⟨k₀, hk₀, rfl, ref, href, rfl⟩)
        · exact Or.inl (Or.inr hc)
      have hthere : ∀ b' ref, w.Refers b' ref → w.files ref.path ≠ none := by
        intro b' ref hr hnone
        have hp := h.present b' ref hr
        rw [StoreFiles.verifies, hnone] at hp
        simp at hp
      refine ⟨fun b' ref hr => ?_, fun b' ref b'' hr hc hs => ?_⟩
      · rcases hrefers b' ref hr with hold | ⟨-, rfl⟩
        · exact (verifies_congr (hkept ref.path (hthere b' ref hold))).trans (h.present b' ref hold)
        · exact hverifies
      · rcases hrefers b' ref hr with hold | ⟨rfl, rfl⟩
        · rcases hcreated b'' ref.path hc with hmade | ⟨-, hsame, hmade⟩
          · exact h.apart b' ref b'' hold hmade hs
          · exact absurd (hsame ▸ hnew hmade) (hthere b' ref hold)
        · rcases hcreated b'' result.ref.path hc with hmade | ⟨rfl, -, -⟩
          · rw [hpath] at hmade hs
            exact eq_of_not_createdElsewhere hapart hmade hs
          · rfl
    · exact h
  · exact h

/-- **Cleaning up.** The batch has created the object and may clean it up: nobody else needs it,
and neither does the batch, which is over and has no backup. -/
theorem Sound.cleanup (h : Sound sha256 root w) {artifactId : String} {o : CleanupAnswer} {recorded : Bool} :
    Sound sha256 root (w.step sha256 root (.cleanup b artifactId o recorded)) := by
  simp only [step]
  split
  · exact h
  next hover =>
  split
  · exact h
  next c hfind =>
  unfold cleanUp
  split
  · exact h
  next hopen =>
  dsimp only
  refine h.mono (fun _ _ hr => hr) (fun _ _ hc => hc) (fun b' p hs => ?_) fun b' ref hr => ?_
  · unfold settled isClosed at hs ⊢
    rw [Bool.or_eq_true] at hs ⊢
    refine hs.imp_right fun hclosed => ?_
    dsimp only
    split
    · rw [List.any_append, hclosed, Bool.true_or]
    · exact hclosed
  · rcases execute_files sha256 c o w.files with hsame | ⟨object, hobject, hpath, hgone⟩
    · exact congrFun hsame ref.path
    · refine (congrFun hgone ref.path).trans (Function.update_of_ne (fun heq => ?_) _ _)
      obtain ⟨x, hx, hnone, hx', hid⟩ := planned_created (List.mem_of_find?_eq_some hfind) hobject
      obtain ⟨hx, hown⟩ := List.mem_filter.1 hx
      have hxb := of_decide_eq_true hown
      rw [hxb] at hnone
      -- the batch has no backup in its own checkpoints, so none at all
      have hbackup : hasTreeBackup w.checkpoints b = false := by
        unfold hasTreeBackup at hnone ⊢
        rw [List.any_eq_false] at hnone ⊢
        intro y hy hboth
        exact hnone y (List.mem_filter.2 ⟨hy, decide_eq_true (of_decide_eq_true hboth).1⟩) hboth
      have hsettled : w.settled b ref.path = false := by
        unfold settled
        rw [hbackup, Bool.false_or, heq, hpath, ← hid]
        exact Bool.not_eq_true _ ▸ hopen
      have hsame : b = b' := h.apart b' ref b hr (Or.inr ⟨x, hx, hxb, heq ▸ hx'⟩) hsettled
      subst hsame
      rcases hr with ⟨k, hk, hkb, -⟩ | ⟨y, hy, hyb, href⟩
      · exact hover (List.any_eq_true.2 ⟨k, hk, decide_eq_true hkb⟩)
      · unfold hasTreeBackup at hbackup
        rw [List.any_eq_false] at hbackup
        refine hbackup y hy (decide_eq_true ⟨hyb, ?_⟩)
        unfold TreeCheckpoint.backupRefs at href
        unfold TreeCheckpoint.isTreeBackup
        split at href
        · rfl
        · cases href

/-- **One step** of any batch, whichever it is. -/
theorem Sound.step (h : Sound sha256 root w) {s : StoreStep} (hapart : w.keepsApart sha256 root s = true) :
    Sound sha256 root (w.step sha256 root s) := by
  cases s with
  -- a capture that begins refers to nothing
  | start b key =>
    simp only [StoreWorld.step]
    split
    · exact h
    · refine h.mono (fun b' ref hr => ?_) (fun b' p hc => ?_) (fun _ _ hs => hs) fun _ _ _ => rfl
      · rcases hr with ⟨k, hk, hkb, href⟩ | hr
        · rcases List.mem_append.1 hk with hk | hk
          · exact Or.inl ⟨k, hk, hkb, href⟩
          · rw [List.mem_singleton.1 hk] at href
            cases href
        · exact Or.inr hr
      · rcases hc with ⟨k, hk, hkb, ref, href, hp⟩ | hc
        · rcases List.mem_append.1 hk with hk | hk
          · exact Or.inl ⟨k, hk, hkb, ref, href, hp⟩
          · rw [List.mem_singleton.1 hk] at href
            cases href
        · exact Or.inr hc
  -- the only step that adds an object, for the batch's own capture
  | put b content =>
    refine h.put ?_
    rw [keepsApart, Bool.not_eq_true'] at hapart
    exact hapart
  -- what the capture has created since its last record is put on record
  | record b id =>
    simp only [StoreWorld.step]
    split
    · exact h
    next k hfind =>
    obtain ⟨hk, hkb⟩ := find_capture hfind
    split
    · exact h
    · refine h.mono (fun b' ref hr => ?_) (fun b' p hc => ?_) (fun _ _ hs => settled_append hs) fun _ _ _ => rfl
      · rcases hr with ⟨k', hk', hkb', href⟩ | ⟨c, hc, hcb, href⟩
        · obtain ⟨k₀, hk₀, rfl⟩ := List.mem_map.1 hk'
          refine Or.inl ⟨k₀, hk₀, ?_, ?_⟩
          · split at hkb' <;> exact hkb'
          · split at href <;> exact href
        · rcases List.mem_append.1 hc with hc | hc
          · exact Or.inr ⟨c, hc, hcb, href⟩
          · rw [List.mem_singleton.1 hc] at href
            cases href
      · rcases hc with ⟨k', hk', hkb', hnamed⟩ | ⟨c, hc, hcb, ref, href, hp⟩
        · obtain ⟨k₀, hk₀, rfl⟩ := List.mem_map.1 hk'
          refine Or.inl ⟨k₀, hk₀, ?_, ?_⟩
          · split at hkb' <;> exact hkb'
          · split at hnamed <;> exact hnamed
        · rcases List.mem_append.1 hc with hc | hc
          · exact Or.inr ⟨c, hc, hcb, ref, href, hp⟩
          · -- what is recorded was created before
            rw [List.mem_singleton.1 hc] at hcb href
            obtain ⟨r, hr, hok⟩ := List.mem_filterMap.1 href
            obtain ⟨made, hdrop, rfl⟩ := List.mem_map.1 hr
            have hsame : made = ref := Option.some.inj hok
            exact Or.inl ⟨k, hk, hkb.trans hcb, ref, List.mem_of_mem_drop (hsame ▸ hdrop), hp⟩
  -- a finished capture's references pass from the capture to the backup it records
  | finish b id =>
    simp only [StoreWorld.step]
    split
    · exact h
    next k hfind =>
    obtain ⟨hk, hkb⟩ := find_capture hfind
    refine h.mono (fun b' ref hr => ?_) (fun b' p hc => ?_) (fun _ _ hs => settled_append hs) fun _ _ _ => rfl
    · rcases hr with ⟨k', hk', hkb', href⟩ | ⟨c, hc, hcb, href⟩
      · exact Or.inl ⟨k', (List.mem_filter.1 hk').1, hkb', href⟩
      · rcases List.mem_append.1 hc with hc | hc
        · exact Or.inr ⟨c, hc, hcb, href⟩
        · -- what the backup refers to, it referred to before
          rw [List.mem_singleton.1 hc] at hcb href
          exact Or.inl ⟨k, hk, hkb.trans hcb, href⟩
    · rcases hc with ⟨k', hk', hkb', hnamed⟩ | ⟨c, hc, hcb, ref, href, hp⟩
      · exact Or.inl ⟨k', (List.mem_filter.1 hk').1, hkb', hnamed⟩
      · rcases List.mem_append.1 hc with hc | hc
        · exact Or.inr ⟨c, hc, hcb, ref, href, hp⟩
        · rw [List.mem_singleton.1 hc] at href
          cases href
  | stop b =>
    simp only [StoreWorld.step]
    refine h.mono (fun b' ref hr => ?_) (fun b' p hc => ?_) (fun _ _ hs => hs) fun _ _ _ => rfl
    · exact hr.imp_left fun ⟨k', hk', hkb', href⟩ => ⟨k', (List.mem_filter.1 hk').1, hkb', href⟩
    · exact hc.imp_left fun ⟨k', hk', hkb', hnamed⟩ => ⟨k', (List.mem_filter.1 hk').1, hkb', hnamed⟩
  -- the only step that removes an object: none that a backup refers to
  | cleanup b artifactId o recorded => exact h.cleanup

/-- A whole run. -/
theorem Sound.run {steps : List StoreStep} (h : Sound sha256 root w) (hapart : w.allApart sha256 root steps = true) :
    Sound sha256 root (w.run sha256 root steps) := by
  induction steps generalizing w with
  | nil => exact h
  | cons s steps ih =>
    rw [allApart, Bool.and_eq_true] at hapart
    exact ih (h.step hapart.1) hapart.2

/-- Batches that keep apart throughout a run do so up to any point of it. -/
theorem allApart_prefix {reached steps : List StoreStep} (hreached : reached <+: steps)
    (h : w.allApart sha256 root steps = true) : w.allApart sha256 root reached = true := by
  induction reached generalizing w steps with
  | nil => rfl
  | cons s reached ih =>
    obtain ⟨rest, rfl⟩ := hreached
    rw [List.cons_append, allApart, Bool.and_eq_true] at h
    rw [allApart, Bool.and_eq_true]
    exact ⟨h.1, ih (List.prefix_append reached rest) h.2⟩

end StoreWorld

end Steps

/-! ## What a cleanup disposes of -/

section Disposal

variable {sha256 : Bytes → Digest} {root : Path} {w v : StoreWorld} {b : String} {c : TreeArtifactCandidate}
  {checkpoints : List TreeCheckpoint}

/-- No artifact is planned twice. -/
theorem planned_nodup :
    ((planTreeBackupArtifactCleanupCandidates checkpoints).map TreeArtifactCandidate.artifactId).Nodup := by
  suffices hfold : ∀ (l seen : List TreeArtifactCandidate), (seen.map TreeArtifactCandidate.artifactId).Nodup →
      ((l.foldl (fun seen c => if seen.any (fun s => s.artifactId = c.artifactId) then seen else seen ++ [c]) seen).map
        TreeArtifactCandidate.artifactId).Nodup from
    hfold _ [] List.nodup_nil
  intro l
  induction l with
  | nil => exact fun seen h => h
  | cons x l ih =>
    intro seen h
    refine ih _ ?_
    dsimp only
    split
    · exact h
    · next hnew =>
      rw [List.map_append, List.map_singleton, List.nodup_append]
      refine ⟨h, List.nodup_singleton _, fun id hid id' hid' heq => hnew ?_⟩
      obtain ⟨s, hs, rfl⟩ := List.mem_map.1 hid
      rw [List.mem_singleton] at hid'
      exact List.any_eq_true.2 ⟨s, hs, decide_eq_true (heq.trans hid')⟩

namespace StoreWorld

/-- The loop of `_cleanup_artifacts_for_batches` over one batch, where nothing goes wrong. -/
def cleanupSteps (w : StoreWorld) (batchId : String) : List StoreStep :=
  (planTreeBackupArtifactCleanupCandidates (w.checkpoints.filter fun c => c.batchId = batchId)).map fun c =>
    .cleanup batchId c.artifactId ⟨none, none, none⟩ true

/-- The candidate's object is not there any more: there is nothing, or something else. -/
def Gone (sha256 : Bytes → Digest) (c : TreeArtifactCandidate) (files : StoreFiles) : Prop :=
  ∀ content, files c.contentPath = some content → c.object ≠ .ok (sha256 content, content.length)

/-- What goes stays away: a cleanup adds nothing. -/
theorem Gone.execute {files : StoreFiles} (h : Gone sha256 c files) {c' : TreeArtifactCandidate} {o : CleanupAnswer} :
    Gone sha256 c (c'.execute sha256 o files).2 := by
  rcases execute_files sha256 c' o files with hsame | ⟨-, -, -, hgone⟩
  · rw [hsame]
    exact h
  · intro content hcontent
    rw [hgone] at hcontent
    by_cases hpath : c.contentPath = c'.contentPath
    · rw [hpath, Function.update_self] at hcontent
      cases hcontent
    · rw [Function.update_of_ne hpath] at hcontent
      exact h content hcontent

/-- A cleanup that meets no obstacle disposes of its object. -/
theorem gone_of_execute {files : StoreFiles} {object : Digest × Nat} (hobject : c.object = .ok object)
    (hpath : c.contentPath = objectPath c.storePath object.1) :
    Gone sha256 c (c.execute sha256 ⟨none, none, none⟩ files).2 := by
  obtain ⟨digest, size⟩ := object
  intro content hcontent
  unfold TreeArtifactCandidate.execute at hcontent
  rw [hobject] at hcontent ⊢
  dsimp only at hcontent
  rw [if_neg (not_not.2 hpath)] at hcontent
  unfold TreeArtifactCandidate.verify at hcontent
  cases hfile : files c.contentPath with
  | none =>
    rw [hfile] at hcontent
    dsimp only at hcontent
    rw [hfile] at hcontent
    cases hcontent
  | some found =>
    rw [hfile] at hcontent
    dsimp only at hcontent
    by_cases hother : sha256 found ≠ digest ∨ found.length ≠ size
    · rw [if_pos hother] at hcontent
      dsimp only at hcontent
      rw [hfile] at hcontent
      cases hcontent
      intro heq
      cases heq
      exact hother.elim (fun h => h rfl) fun h => h rfl
    · rw [if_neg hother] at hcontent
      dsimp only at hcontent
      rw [Function.update_self] at hcontent
      cases hcontent

/-- What the loop preserves: nobody starts, nothing is recorded, and the candidate's cleanup is
closed only once its object is gone. -/
structure Disposing (sha256 : Bytes → Digest) (b : String) (c : TreeArtifactCandidate) (w v : StoreWorld) : Prop where
  checkpoints : v.checkpoints = w.checkpoints
  captures : v.captures = w.captures
  closed : v.isClosed b c.artifactId = true → Gone sha256 c v.files

/-- One turn of the loop, for this candidate or for another one. -/
theorem Disposing.turn (root : Path) (id : String) (h : Disposing sha256 b c w v) (hover : w.running b = false)
    (hc : c ∈ planTreeBackupArtifactCleanupCandidates (w.checkpoints.filter fun c => c.batchId = b))
    {object : Digest × Nat} (hobject : c.object = .ok object)
    (hpath : c.contentPath = objectPath c.storePath object.1) :
    Disposing sha256 b c w (v.step sha256 root (.cleanup b id ⟨none, none, none⟩ true)) ∧
      (id = c.artifactId ∨ Gone sha256 c v.files →
        Gone sha256 c (v.step sha256 root (.cleanup b id ⟨none, none, none⟩ true)).files) := by
  have hrunning : v.running b = false := by
    unfold running at hover ⊢
    rw [h.captures]
    exact hover
  simp only [step, hrunning, Bool.false_eq_true, if_false, h.checkpoints]
  split
  · next hnone =>
    refine ⟨h, fun hid => hid.elim (fun hid => ?_) fun hgone => hgone⟩
    exact absurd (decide_eq_true hid.symm) (List.find?_eq_none.1 hnone c hc)
  · next c' hfind =>
    have hc' := List.mem_of_find?_eq_some hfind
    have hid' : c'.artifactId = id := by simpa using List.find?_some hfind
    unfold cleanUp
    split
    · next hclosed =>
      refine ⟨h, fun hid => hid.elim (fun hid => h.closed ?_) fun hgone => hgone⟩
      rw [← hid, ← hid']
      exact hclosed
    · dsimp only
      have hown : id = c.artifactId → c' = c := fun hid =>
        List.inj_on_of_nodup_map planned_nodup hc' hc (hid'.trans hid)
      have hgone : id = c.artifactId ∨ Gone sha256 c v.files →
          Gone sha256 c (c'.execute sha256 ⟨none, none, none⟩ v.files).2 := by
        rintro (hid | hgone)
        · rw [hown hid]
          exact gone_of_execute hobject hpath
        · exact hgone.execute
      refine ⟨⟨h.checkpoints, h.captures, fun hclosed => hgone ?_⟩, hgone⟩
      -- it was closed before, or this turn has closed it
      unfold isClosed at hclosed
      dsimp only at hclosed
      split at hclosed
      · rw [List.any_append, Bool.or_eq_true] at hclosed
        rcases hclosed with hbefore | hnow
        · exact Or.inr (h.closed hbefore)
        · simp only [List.any_cons, List.any_nil, Bool.or_false, decide_eq_true_eq] at hnow
          exact Or.inl (hid'.symm.trans hnow.2)
      · exact Or.inr (h.closed hclosed)

end StoreWorld

end Disposal

/-- **Shared objects are kept.** Whatever is in the store, and whatever the batches do, fail at
and clean up: if no batch ever stores what another one has created and may yet clean up, then at
any point every object of every completed backup is there, and is what it should be. -/
theorem shared_objects_kept (sha256 : Bytes → Digest) (root : Path) (files : StoreFiles) (steps : List StoreStep)
    (h : (StoreWorld.init files).allApart sha256 root steps = true) :
    ∀ reached, reached <+: steps →
      ((StoreWorld.init files).run sha256 root reached).Restorable sha256 root := by
  intro reached hreached
  have hapart := StoreWorld.allApart_prefix hreached h
  exact (StoreWorld.Sound.init.run hapart).restorable

/-! ## Two batches and one object -/

/-- The digest of the empty content, and one that stands for all others. -/
private def digestOfEmpty : Digest :=
  ⟨"e3b0c44298fc1c149afbf4c8996fb92427ae41e4649b934ca495991b7852b855", by decide +kernel⟩

private def otherDigest : Digest :=
  ⟨"ffffffffffffffffffffffffffffffffffffffffffffffffffffffffffffffff", by decide +kernel⟩

private def sampleSha256 (content : Bytes) : Digest := if content = [] then digestOfEmpty else otherDigest

private def untroubledCleanup : CleanupAnswer := ⟨none, none, none⟩

/-- The first batch stores the empty file and fails. -/
private def storedAndFailed : List StoreStep :=
  [.start "a" "tree:/a", .put "a" [], .record "a" "c1", .stop "a"]

/-- The second one backs up an empty file as well, and completes. -/
private def backedUp : List StoreStep := [.start "b" "tree:/b", .put "b" [], .finish "b" "c2"]

private def cleanedUp : List StoreStep :=
  [.cleanup "a" (pathText (objectPath ["store"] digestOfEmpty)) untroubledCleanup true]

/-- The first batch is cleaned up before the second one begins. -/
theorem shared_objects_kept_in_turn :
    ((StoreWorld.init fun _ => none).run sampleSha256 ["store"] (storedAndFailed ++ cleanedUp ++ backedUp)).Restorable
      sampleSha256 ["store"] :=
  shared_objects_kept sampleSha256 ["store"] (fun _ => none) (storedAndFailed ++ cleanedUp ++ backedUp)
    (by decide +kernel) _ List.prefix_rfl

private def afterFailure : StoreWorld := (StoreWorld.init fun _ => none).run sampleSha256 ["store"] storedAndFailed

private def leftObject : TreeArtifactCandidate :=
  ⟨pathText (objectPath ["store"] digestOfEmpty), "a", "c1", "tree:/a", ["store"],
    objectPath ["store"] digestOfEmpty, .ok (digestOfEmpty, 0)⟩

/-- **The gap.** The second batch finds the object, and does not create it; then the first one
is cleaned up, and the object of the completed backup is gone. -/
theorem shared_object_deleted :
    ((StoreWorld.init fun _ => none).run sampleSha256 ["store"] (storedAndFailed ++ backedUp)).Restorable
      sampleSha256 ["store"] ∧
    ¬((StoreWorld.init fun _ => none).run sampleSha256 ["store"] (storedAndFailed ++ backedUp ++ cleanedUp)).Restorable
      sampleSha256 ["store"] := by
  constructor
  · decide +kernel
  · decide +kernel

end SafeFsOps.Descriptors
