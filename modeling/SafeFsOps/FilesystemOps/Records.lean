import SafeFsOps.PythonText

/-!
# Filesystem records

`filesystem_ops/models.py` and the records of `renames.py`,
`capture_directories.py` and `remove_directories.py`: what an operation on the
disk reports, and what of it the journal keeps.

A path is absolute and normalised, so it is the list of its parts. A content hash
is SHA-256 of the content and is only ever compared, so it stands for the content
it was taken of.
-/

namespace SafeFsOps

/-- An absolute, normalised path: its parts below the root. -/
abbrev Path := List String

/-- `str(path)`. -/
def pathText (p : Path) : String := "/" ++ "/".intercalate p

/-- `path.parent`. -/
def parentPath (p : Path) : Path := p.dropLast

abbrev Bytes := List UInt8

/-- The SHA-256 digest of a content. -/
structure ContentDigest where
  digestOf : Bytes
deriving DecidableEq

/-- `hashlib.sha256(content).hexdigest()`. -/
def contentDigest (content : Bytes) : ContentDigest := ⟨content⟩

/-- `FileType`. -/
inductive FileType where
  | missing | file | directory | symlink | other
deriving DecidableEq

/-- `ResourceSnapshot`. -/
structure ResourceSnapshot where
  path : Path
  pathExists : Bool
  fileType : FileType
  contentHash : Option ContentDigest
  size : Option Nat
  mtimeNs : Option Nat
  symlinkTarget : Option String
  device : Option Nat
  inode : Option Nat
  ctimeNs : Option Nat
deriving DecidableEq

/-- The snapshot of a path nothing is at. -/
def ResourceSnapshot.missing (path : Path) : ResourceSnapshot :=
  ⟨path, false, .missing, none, none, none, none, none, none, none⟩

/-- `DirectoryIdentity`. -/
structure DirectoryIdentity where
  device : Nat
  inode : Nat
deriving DecidableEq

/-- `RenameRecord`: only files and directories are renamed. -/
structure RenameRecord where
  sourcePath : Path
  destinationPath : Path
  fileType : FileType
  device : Nat
  inode : Nat
  size : Nat
  mtimeNs : Nat
  ctimeNs : Option Nat
deriving DecidableEq

/-- `CapturedDirectoryRecord`; its ownership class is always `captured_by_transaction`. -/
structure CapturedDirectoryRecord where
  originalPath : Path
  quarantinePath : Path
  originalIdentity : DirectoryIdentity
  capturedIdentity : DirectoryIdentity
  captureToken : Option String
deriving DecidableEq

/-- `FileBackup` as the journal uses it: of nothing, or of a file whose content
was written to an artifact. -/
inductive FileBackup where
  | missing (snapshot : ResourceSnapshot)
  | file (contentPath : Path) (contentHash : Option ContentDigest) (size : Option Nat) (permissions : Nat)
      (snapshot : ResourceSnapshot)
deriving DecidableEq

/-- The snapshot a backup was made from. -/
def FileBackup.snapshot : FileBackup → ResourceSnapshot
  | missing s => s
  | file _ _ _ _ s => s

/-- The path a backup is of. -/
def FileBackup.path (b : FileBackup) : Path := b.snapshot.path

/-- `ContentRef`: an object of a content store; its `algo` is always `sha256`. -/
structure ContentRef where
  digest : ContentDigest
  size : Nat
  path : Path
deriving DecidableEq

/-- `ContentAddressedPutResult`. -/
structure PutResult where
  ref : ContentRef
  created : Bool
deriving DecidableEq

/-- `TreeBackupEntry`. -/
structure TreeBackupEntry where
  relativePath : Path
  kind : FileType
  snapshot : ResourceSnapshot
  contentAddress : Option ContentRef
  contentHash : Option ContentDigest
  size : Option Nat
  permissions : Option Nat
  symlinkTarget : Option String
deriving DecidableEq

/-- `TreeBackup`. -/
structure TreeBackup where
  root : Path
  entries : List TreeBackupEntry
deriving DecidableEq

/-- `HashPolicy`. -/
inductive HashPolicy where
  | metadataOnly | smallFiles
deriving DecidableEq

/-- `SnapshotBundleEntry`. -/
structure SnapshotBundleEntry where
  path : Path
  requested : Bool
  snapshot : ResourceSnapshot
deriving DecidableEq

/-- `SnapshotBundle`. -/
structure SnapshotBundle where
  requestedPaths : List Path
  includeChildren : Bool
  hashPolicy : HashPolicy
  smallFileMaxBytes : Nat
  entries : List SnapshotBundleEntry
deriving DecidableEq

/-- What operations on the disk raise. -/
inductive FilesystemError where
  | unsafePath (message : String)
  | unsupportedMutation (message : String)
  | unsupportedBackend (message : String)
  | parentChangedAfterMutation (message : String)
  | identitySafeRemoveUnavailable (message : String)
  | restoreConflict (message : String)
  | backupContentMismatch (message : String)
  | fileNotFound (path : Path)
  | fileExists (path : Path)
  | valueError (message : String)
  | osError (message : String)
deriving DecidableEq

namespace FilesystemError

/-- `isinstance(exc, UnsafePathError)`. -/
def isUnsafePath : FilesystemError → Bool
  | unsafePath _ | unsupportedMutation _ | unsupportedBackend _ | parentChangedAfterMutation _ => true
  | identitySafeRemoveUnavailable _ | restoreConflict _ => true
  | _ => false

/-- `isinstance(exc, UnsupportedFilesystemMutationError)`. -/
def isUnsupportedMutation : FilesystemError → Bool
  | unsupportedMutation _ | unsupportedBackend _ | identitySafeRemoveUnavailable _ => true
  | _ => false

/-- `type(exc).__name__`. -/
def className : FilesystemError → String
  | unsafePath _ => "UnsafePathError"
  | unsupportedMutation _ => "UnsupportedFilesystemMutationError"
  | unsupportedBackend _ => "UnsupportedFilesystemBackendError"
  | parentChangedAfterMutation _ => "ParentChangedAfterMutationError"
  | identitySafeRemoveUnavailable _ => "IdentitySafeRemoveDirectoryUnavailableError"
  | restoreConflict _ => "RestoreConflictError"
  | backupContentMismatch _ => "BackupContentMismatchError"
  | fileNotFound _ => "FileNotFoundError"
  | fileExists _ => "FileExistsError"
  | valueError _ => "ValueError"
  | osError _ => "OSError"

/-- `str(exc)`. -/
def text : FilesystemError → String
  | unsafePath m | unsupportedMutation m | unsupportedBackend m | parentChangedAfterMutation m => m
  | identitySafeRemoveUnavailable m | restoreConflict m | backupContentMismatch m => m
  | valueError m | osError m => m
  | fileNotFound p | fileExists p => pathText p

end FilesystemError

/-! ## Resource keys: `filesystem_support.py` -/

/-- `file_resource_key`. -/
def fileResourceKey (path : Path) : String := "file:" ++ pathText path

/-- `directory_resource_key`. -/
def directoryResourceKey (path : Path) : String := "directory:" ++ pathText path

/-- `tree_resource_key`. -/
def treeResourceKey (path : Path) : String := "tree:" ++ pathText path

end SafeFsOps
