import SafeFsOps.FilesystemOps.DescriptorMutations

/-!
# The content-addressed store

`content_addressed.py`, call by call, on the descriptor-relative path. An object is a file
whose name is the SHA-256 digest of its content. It is written under the name of a temporary
file beside the object, read back, and linked to its own name if that is free; if it is not,
what is there has to be the object already. A copy is written, hashed and checked in the same
way, and takes the name of its destination.
-/

namespace SafeFsOps.Descriptors

open Program

variable {α : Type}

/-! ## Digests and references -/

/-- What `ContentRef` asks of a digest: 64 hexadecimal digits in lower case. -/
def IsDigest (text : String) : Prop := text.toList.length = 64 ∧ ∀ c ∈ text.toList, c ∈ "0123456789abcdef".toList

instance (text : String) : Decidable (IsDigest text) := @instDecidableAnd _ _ _ (List.decidableBAll _ _)

structure Digest where
  text : String
  isDigest : IsDigest text
deriving DecidableEq

/-- `ContentRef`; its `algo` is `"sha256"`. -/
structure ContentRef where
  digest : Digest
  size : Nat
  path : Path
deriving DecidableEq

/-- `ContentAddressedPutResult`. -/
structure PutResult where
  ref : ContentRef
  created : Bool
deriving DecidableEq

/-- `_object_path`. -/
def objectPath (root : Path) (digest : Digest) : Path :=
  root ++ ["sha256", String.ofList (digest.text.toList.take 2), digest.text]

/-! ## Looking at files -/

/-- `_same_file_identity`. -/
def sameFileIdentity (left right : Stat) : Bool := left.id = right.id ∧ left.size = right.size

/-- `_same_file_metadata`. -/
def sameFileMetadata (left right : Stat) : Bool := sameFileIdentity left right ∧ left.mtimeNs = right.mtimeNs

/-- `_path_exists_no_follow`. -/
def pathExistsNoFollow (path : Path) : Sys Bool := orMissing ((statPath false path).bind fun _ => ret true) false

section Hashing

/-! What is hashed; SHA-256 itself is a parameter. -/

variable (sha256 : Bytes → Digest)

/-- `_hash_stream`. -/
def hashStream (id : FileId) : Sys (Digest × Nat) :=
  (readToEnd id).bind fun content => ret (sha256 content, content.length)

/-- What is done with a file that was opened by its path, if it is the file that was expected. -/
def withOpen (path : Path) (expected : Stat → Bool) (unexpected : FilesystemError) (body : FileId → Sys α) : Sys α :=
  (openPath path).bind fun id =>
    finallyDo ((fstat id).bind fun s =>
      if s.fileType ≠ .file ∨ expected s = false then raise unexpected else body id) close

/-- What a source says that is not as it was. -/
def sourceChanged (path : Path) : FilesystemError :=
  .valueError ("source file changed while storing content: " ++ pathText path)

/-- What is said of a source that is no regular file. -/
def sourceNotRegular (path : Path) : FilesystemError :=
  .valueError ("content store only accepts regular files: " ++ pathText path)

/-- `_digest_regular_file`. -/
def digestRegularFile (path : Path) : Sys (Digest × Nat × Stat) :=
  (statPath false path).bind fun before =>
    if before.fileType ≠ .file then raise (sourceNotRegular path)
    else
      (withOpen path (sameFileMetadata before) (sourceNotRegular path) (hashStream sha256)).bind fun found =>
        (statPath false path).bind fun after =>
          if sameFileMetadata before after then ret (found.1, found.2, before) else raise (sourceChanged path)

/-- `while chunk := source.read(…): destination.write(chunk)`; what was copied. -/
def copyFrom (source temp : FileId) : Nat → Nat → Sys Bytes
  | 0, _ => raise (.osError "Interrupted system call")
  | fuel + 1, offset =>
    (readAt source offset).bind fun chunk =>
      if chunk = [] then ret []
      else
        (writeAll temp chunk.length offset chunk).bind fun _ =>
          (copyFrom source temp fuel (offset + chunk.length)).bind fun rest => ret (chunk ++ rest)

/-- `_copy_stream`. -/
def copyStream (source temp : FileId) : Sys Bytes := rounds.bind fun fuel => copyFrom source temp fuel 0

/-- `_copy_hashing`. -/
def copyHashing (source temp : FileId) : Sys (Digest × Nat) :=
  (copyStream source temp).bind fun content => ret (sha256 content, content.length)

/-- `_copy_regular_file_to_temp`. -/
def copyRegularFileToTemp (source : Path) (expected : Stat) (temp : FileId) : Sys Unit :=
  (statPath false source).bind fun before =>
    if sameFileMetadata before expected = false then raise (sourceChanged source)
    else
      (withOpen source (fun s => sameFileMetadata s expected) (sourceChanged source) fun id =>
        (copyStream id temp).bind fun _ => fsync).bind fun _ =>
          (statPath false source).bind fun after =>
            if sameFileMetadata after expected then ret () else raise (sourceChanged source)

/-- What is said of an object that is no regular file. -/
def objectNotRegular (path : Path) : FilesystemError :=
  .valueError ("content object is not a regular file: " ++ pathText path)

/-- `_hash_regular_file`. -/
def hashRegularFile (path : Path) : Sys (Digest × Nat) :=
  (statPath false path).bind fun s =>
    if s.fileType ≠ .file then raise (objectNotRegular path)
    else withOpen path (sameFileIdentity s) (objectNotRegular path) (hashStream sha256)

/-- `_open_verified_object`. -/
def openVerifiedObject (path : Path) : Sys FileId :=
  (statPath false path).bind fun s =>
    if s.fileType ≠ .file then raise (objectNotRegular path)
    else
      (openPath path).bind fun id =>
        closeOnRaise ((fstat id).bind fun opened =>
          if opened.fileType ≠ .file ∨ sameFileIdentity s opened = false then
            raise (.valueError ("content object changed before open completed: " ++ pathText path))
          else ret id)

/-! ## Directories of the store -/

/-- The directories from one below `base` down, part by part. -/
def below (base : Path) (parts : List String) : List Path := parts.inits.tail.map (base ++ ·)

/-- `_require_safe_existing_directory`. -/
def requireSafeExistingDirectory (operation : String) (path : Path) : Sys Unit :=
  (inspectPath path).bind fun safety =>
    if safety.pathExists = false then raise (refused operation "because store directory is missing" (pathText path))
    else if safety.isSymlink then raise (refused operation "because store path redirects elsewhere" (pathText path))
    else if safety.isDir = false then raise (refused operation "because store path is not a directory" (pathText path))
    else ret ()

/-- `_require_safe_store_parent_chain`. -/
def requireSafeStoreParentChain (operation : String) (path : Path) : Sys Unit :=
  forEach (ancestors path) fun current =>
    (inspectPath current).bind fun safety =>
      if safety.isSymlink then raise (refused operation "because store path redirects elsewhere" (pathText current))
      else if safety.pathExists ∧ safety.isDir = false then
        raise (refused operation "because store parent is not a directory" (pathText current))
      else ret ()

/-- `_require_safe_store_root_if_exists`. -/
def requireSafeStoreRootIfExists (operation : String) (path : Path) : Sys Unit :=
  (requireSafeStoreParentChain operation path).bind fun _ =>
    (inspectPath path).bind fun safety =>
      if safety.pathExists = false then ret ()
      else if safety.isSymlink then raise (refused operation "because store path redirects elsewhere" (pathText path))
      else if safety.isDir = false then raise (refused operation "because store path is not a directory" (pathText path))
      else ret ()

/-- One round of `_ensure_safe_store_root` and of `_ensure_safe_directory_chain`. -/
def ensureSafeDirectory (operation : String) (current : Path) : Sys Unit :=
  (inspectPath current).bind fun safety =>
    if safety.pathExists then requireSafeExistingDirectory operation current
    else
      (makeDirectory current false true .fsync).bind fun _ => requireSafeExistingDirectory operation current

/-- `_ensure_safe_store_root`. -/
def ensureSafeStoreRoot (operation : String) (path : Path) : Sys Unit :=
  forEach (below [] path) (ensureSafeDirectory operation)

/-- `_ensure_safe_directory_chain`, of a directory below the root. -/
def ensureSafeDirectoryChain (operation : String) (root : Path) (parts : List String) : Sys Unit :=
  (requireSafeExistingDirectory operation root).bind fun _ => forEach (below root parts) (ensureSafeDirectory operation)

/-- `_require_safe_directory_chain`, of a directory below the root. -/
def requireSafeDirectoryChain (operation : String) (root : Path) (parts : List String) : Sys Unit :=
  (requireSafeExistingDirectory operation root).bind fun _ =>
    forEach (below root parts) (requireSafeExistingDirectory operation)

/-- The directories an object is in, below the root. -/
def objectParts (digest : Digest) : List String := ["sha256", String.ofList (digest.text.toList.take 2)]

/-- `_require_safe_object_parent`. -/
def requireSafeObjectParent (root : Path) (digest : Digest) : Sys Unit :=
  requireSafeDirectoryChain "content store" root (objectParts digest)

/-- `_ensure_safe_object_parent`. -/
def ensureSafeObjectParent (root : Path) (digest : Digest) : Sys Unit :=
  (ensureSafeStoreRoot "content store" root).bind fun _ =>
    (ensureSafeDirectoryChain "content store" root (objectParts digest)).bind fun _ =>
      requireSafeObjectParent root digest

/-! ## `verify` -/

/-- `verify`. Whatever goes wrong while the object is read is an `OSError` or a `ValueError`. -/
def verify (root : Path) (ref : ContentRef) : Sys Bool :=
  if ref.path ≠ objectPath root ref.digest then ret false
  else
    (requireSafeObjectParent root ref.digest).bind fun _ =>
      ((hashRegularFile sha256 (objectPath root ref.digest)).bind fun found =>
        ret (decide (found = (ref.digest, ref.size)))).onRaise fun _ => ret false

/-- What is said of an object that is not what its name says. -/
def failedVerification (what : String) (root : Path) (digest : Digest) : FilesystemError :=
  .valueError (what ++ " content object failed verification: " ++ pathText (objectPath root digest))

/-- What is there already is the object, or is rejected. -/
def verifyExisting (root : Path) (digest : Digest) (size : Nat) : Sys Unit :=
  (verify sha256 root ⟨digest, size, objectPath root digest⟩).bind fun ok =>
    if ok then ret () else raise (failedVerification "existing" root digest)

/-! ## Publishing -/

/-- `_create_temp_file`: the directory, the temporary file and its name. -/
def createStoreTemp (operation : String) (parent : Path) (targetName : String) : Sys (FileId × FileId × String) :=
  (openExistingDirectory operation parent).bind fun d =>
    closeOnRaise ((ensureDescriptorMatches operation d parent).bind fun _ =>
      (createTempFile d targetName 100).bind fun temp => fdopen.bind fun _ => ret (d, temp))

/-- `_link_temp_file_no_replace`. -/
def linkTempFileNoReplace (operation : String) (d : FileId) (name target : String) : Sys Unit :=
  (linkAt d name target).onRaise fun e =>
    match e with
    | .fileExists there => raise (.fileExists there)
    | e =>
      if isOsError e then
        raise (.unsafePath (operation ++ " refused because temporary file could not be linked safely"))
      else raise e

/-- `_require_temp_name_matches_open_file`. -/
def requireTempNameMatchesOpenFile (operation : String) (id d : FileId) (name : String) (path : Path) : Sys Unit :=
  ensureOpenFileMatchesChild operation id d name path

/-- `_install_new_object`; whether the object is a new one. -/
def installNewObject (root : Path) (digest : Digest) (size : Nat) (d : FileId) (name : String) : Sys Bool :=
  (requireSafeObjectParent root digest).bind fun _ =>
    ((ensureDescriptorMatches "content store" d (parentPath (objectPath root digest))).bind fun _ =>
      linkTempFileNoReplace "content store" d name (nameOf (objectPath root digest))).outcome.bind fun linked =>
        match linked with
        | .error (.fileExists _) => (verifyExisting sha256 root digest size).bind fun _ => ret false
        | .error e => raise e
        | .ok _ =>
          (cleanupTempFile d name).bind fun _ =>
            (ensureDescriptorMatchesAfter "content store" d (parentPath (objectPath root digest))).bind fun _ =>
              fsync.bind fun _ =>
                (verify sha256 root ⟨digest, size, objectPath root digest⟩).bind fun ok =>
                  if ok then ret true else raise (failedVerification "installed" root digest)

/-- What `put_file_with_status` and `_write_verified_object` do with the temporary file that
`fill` fills, where it is in that directory under that name. -/
def publishFilled (fill : FileId → Sys Unit) (mismatch : FilesystemError) (root : Path) (digest : Digest) (size : Nat)
    (d temp : FileId) (name : String) : Sys Bool :=
  (fill temp).bind fun _ =>
    (hashStream sha256 temp).bind fun found =>
      if found ≠ (digest, size) then raise mismatch
      else
        (requireTempNameMatchesOpenFile "content store" temp d name
          (parentPath (objectPath root digest) ++ [name])).bind fun _ =>
            (installNewObject sha256 root digest size d name).bind fun created => close.bind fun _ => ret created

/-- What they do where the object is not there yet. -/
def publishObject (fill : FileId → Sys Unit) (mismatch : FilesystemError) (root : Path) (digest : Digest) (size : Nat) :
    Sys PutResult :=
  (ensureSafeObjectParent root digest).bind fun _ =>
    (createStoreTemp "content store" (parentPath (objectPath root digest)) (nameOf (objectPath root digest))).bind
      fun temp =>
        (finallyDo (removeOnRaise temp.1 temp.2.2
          (publishFilled sha256 fill mismatch root digest size temp.1 temp.2.1 temp.2.2)) close).bind fun created =>
            ret ⟨⟨digest, size, objectPath root digest⟩, created⟩

/-- What they do: an object that is there is taken if it is the right one. -/
def putObject (fill : FileId → Sys Unit) (mismatch : FilesystemError) (root : Path) (digest : Digest) (size : Nat) :
    Sys PutResult :=
  (requireSafeStoreRootIfExists "content store" root).bind fun _ =>
    (pathExistsNoFollow (objectPath root digest)).bind fun there =>
      if there then
        (verifyExisting sha256 root digest size).bind fun _ => ret ⟨⟨digest, size, objectPath root digest⟩, false⟩
      else publishObject sha256 fill mismatch root digest size

/-- `put_bytes_with_status`, with `_write_verified_object`. -/
def putBytesWithStatus (root : Path) (content : Bytes) : Sys PutResult :=
  putObject sha256 (fun temp => (writeAll temp content.length 0 content).bind fun _ => fsync)
    (.valueError "temporary content object failed verification") root (sha256 content) content.length

/-- `put_file_with_status`. -/
def putFileWithStatus (root source : Path) : Sys PutResult :=
  (digestRegularFile sha256 source).bind fun found =>
    putObject sha256 (copyRegularFileToTemp source found.2.2) (sourceChanged source) root found.1 found.2.1

/-! ## `copy_to` -/

/-- `_snapshot_destination_parent`. -/
def snapshotDestinationParent (target : Path) : Sys Stat :=
  (ensureSafeParentChain "content copy" target).bind fun _ =>
    (inspectPath (parentPath target)).bind fun safety =>
      if safety.pathExists = false ∨ safety.isSymlink ∨ safety.isDir = false then
        raise (refused "content copy" "because parent path is not a safe directory" (pathText (parentPath target)))
      else
        (statPath false (parentPath target)).bind fun s =>
          if s.fileType ≠ .directory then
            raise (refused "content copy" "because parent path is not a directory" (pathText (parentPath target)))
          else ret s

/-- `_ensure_destination_parent_matches`. -/
def ensureDestinationParentMatches (target : Path) (expected : Stat) : Sys Unit :=
  (ensureSafeParentChain "content copy" target).bind fun _ =>
    ((statPath false (parentPath target)).onRaise fun e =>
      match e with
      | .fileNotFound _ =>
        raise (refused "content copy" "because parent path disappeared" (pathText (parentPath target)))
      | e => raise e).bind fun s =>
        if s.fileType ≠ .directory ∨ s.id ≠ expected.id then
          raise (refused "content copy" "because parent path changed" (pathText (parentPath target)))
        else ret ()

/-- `_require_regular_file_stat`. -/
def requireRegularFileStat (target : Path) : Sys Stat :=
  ((statPath false target).onRaise fun e =>
    match e with
    | .fileNotFound _ => raise (refused "content copy" "because destination disappeared" (pathText target))
    | e => raise e).bind fun s =>
      if s.fileType ≠ .file then
        raise (refused "content copy" "because destination is not a regular file" (pathText target))
      else ret s

/-- `_replace_file`. -/
def replaceFile (d : FileId) (name : String) (target : Path) : Sys Unit :=
  (ensureDescriptorMatches "content copy" d (parentPath target)).bind fun _ =>
    (ensureSafeChild "content copy" true d (nameOf target)).bind fun _ =>
      (replaceAt d name (nameOf target)).bind fun _ =>
        ensureDescriptorMatchesAfter "content copy" d (parentPath target)

/-- The copy takes the name of its destination, if that has to be free or not. -/
def publishCopy (d : FileId) (name : String) (target : Path) (noReplace : Bool) : Sys Unit :=
  if noReplace then
    (linkTempFileNoReplace "content copy" d name (nameOf target)).bind fun _ =>
      (cleanupTempFile d name).bind fun _ =>
        (ensureDescriptorMatchesAfter "content copy" d (parentPath target)).bind fun _ => fsync
  else (replaceFile d name target).bind fun _ => fsync

/-- What `copy_to` is asked to do. -/
structure CopyRequest where
  ref : ContentRef
  destination : Path
  noReplace : Bool
  permissions : Option Nat
  mtimeNs : Option Nat
  /-- A time in seconds, by what it comes to in nanoseconds. -/
  mtime : Option Nat

/-- What `copy_to` does with its temporary file, up to where the copy has its name. -/
def fillCopy (root : Path) (req : CopyRequest) (parentStat : Stat) (d temp : FileId) (name : String) : Sys Unit :=
  (openVerifiedObject (objectPath root req.ref.digest)).bind fun object =>
    (finallyDo ((copyHashing sha256 object temp).bind fun found => fsync.bind fun _ => ret found) close).bind fun found =>
      if found ≠ (req.ref.digest, req.ref.size) then
        raise (.valueError
          ("content object changed while copying: " ++ pathText (objectPath root req.ref.digest)))
      else
        (req.permissions.elim (ret ()) (fchmod temp)).bind fun _ =>
          ((req.mtimeNs.or req.mtime).elim (ret ()) (futime temp)).bind fun _ =>
            (requireTempNameMatchesOpenFile "content copy" temp d name (parentPath req.destination ++ [name])).bind fun _ =>
              (ensureDestinationParentMatches req.destination parentStat).bind fun _ =>
                (ensureDescriptorMatches "content copy" d (parentPath req.destination)).bind fun _ =>
                  (publishCopy d name req.destination req.noReplace).bind fun _ => close

/-- What `copy_to` checks of the copy. -/
def checkCopy (req : CopyRequest) (parentStat : Stat) : Sys Unit :=
  (ensureDestinationParentMatches req.destination parentStat).bind fun _ =>
    (hashRegularFile sha256 req.destination).bind fun copied =>
      if copied ≠ (req.ref.digest, req.ref.size) then
        raise (.valueError ("destination content changed while copying: " ++ pathText req.destination))
      else
        (requireRegularFileStat req.destination).bind fun s =>
          if req.mtimeNs.isSome ∧ req.mtimeNs ≠ some s.mtimeNs then
            raise (.valueError ("destination mtime changed while copying: " ++ pathText req.destination))
          else ret ()

/-- `copy_to`. -/
def copyTo (root : Path) (req : CopyRequest) : Sys Unit :=
  if req.mtimeNs.isSome ∧ req.mtime.isSome then
    raise (.valueError "mtime_ns and mtime cannot both be provided")
  else
    (verify sha256 root req.ref).bind fun ok =>
      if ok = false then raise (.valueError ("content object failed verification: " ++ pathText req.ref.path))
      else
        (ensureSafeParentChain "content copy" req.destination).bind fun _ =>
          (if req.noReplace then pathExistsNoFollow req.destination else ret false).bind fun there =>
            if there then raise (.fileExists req.destination)
            else
              (makeDirectory (parentPath req.destination) true true .fsync).bind fun _ =>
                (snapshotDestinationParent req.destination).bind fun parentStat =>
                  (requireSafeObjectParent root req.ref.digest).bind fun _ =>
                    (createStoreTemp "content copy" (parentPath req.destination) (nameOf req.destination)).bind fun temp =>
                      finallyDo
                        ((removeOnRaise temp.1 temp.2.2
                          (fillCopy sha256 root req parentStat temp.1 temp.2.1 temp.2.2)).bind fun _ =>
                            checkCopy sha256 req parentStat) close

end Hashing

/-! ## Calls -/

/-- The calls that publish files or read what was published, with their arguments. -/
inductive StoreCall where
  | atomicWriteBytes (target : Path) (content : Bytes) (permissions : Option Nat) (durability : DurabilityMode)
  | putBytes (root : Path) (content : Bytes)
  | putFile (root source : Path)
  | verify (root : Path) (ref : ContentRef)
  | copyTo (root : Path) (req : CopyRequest)

/-- What a call returns. -/
inductive StoreResult where
  | done
  | put (result : PutResult)
  | verified (ok : Bool)
deriving DecidableEq

def StoreCall.program (sha256 : Bytes → Digest) : StoreCall → Sys StoreResult
  | atomicWriteBytes target content permissions durability =>
    (Descriptors.atomicWriteBytes target content permissions durability).bind fun _ => ret .done
  | putBytes root content => (putBytesWithStatus sha256 root content).bind fun result => ret (.put result)
  | putFile root source => (putFileWithStatus sha256 root source).bind fun result => ret (.put result)
  | verify root ref => (Descriptors.verify sha256 root ref).bind fun ok => ret (.verified ok)
  | copyTo root req => (Descriptors.copyTo sha256 root req).bind fun _ => ret .done

end SafeFsOps.Descriptors
