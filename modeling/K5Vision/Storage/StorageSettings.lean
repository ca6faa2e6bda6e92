import K5Vision.Library.FileTree
import K5Vision.Library.Handler
import K5Vision.Storage.RecordingStorage

/-!
# Storage settings and the migration of the recordings

`OperatorStorageSettings` of `operator_storage_settings.py`, on a POSIX system: the
settings file, its validation, and `migrate_pending`, which copies the recordings to the
pending directory and verifies the copies before the directory becomes active.

A migration holds the exclusive profile lease: while it runs, the files change only by
what it does.  Whatever it reads or writes is one step.  A step can raise, also because
its deadline has passed, or the process is killed there, and then nothing more is done.
-/

namespace K5Vision.Storage

open Library

/-! ## Files and directories -/

inductive Access
  /-- It is not the user's, or others may write it. -/
  | foreign
  /-- Others may read it. -/
  | shared
  /-- Only the user may read and write it. -/
  | own
  deriving DecidableEq

structure DirectoryData where
  identity : ℕ × ℕ
  access : Access
  deriving DecidableEq

structure FileData where
  device : ℕ
  inode : ℕ
  modified : ℤ
  changed : ℤ
  access : Access
  content : List UInt8
  deriving DecidableEq

abbrev Disk := FileTree DirectoryData FileData

def FileData.info (file : FileData) : FileInfo :=
  ⟨file.device, file.inode, file.content.length, file.modified, file.changed⟩

def links (disk : Disk) (file : FileData) : ℕ :=
  disk.table.rows.countP fun row =>
    match row.2 with
    | .file other => other.device = file.device ∧ other.inode = file.inode
    | _ => false

inductive MigrationError
  | migrationIncomplete
  | directoryRefused
  | destinationConflict
  | sourceChanged
  | interruptedCopyPreserved
  deriving DecidableEq

inductive Failure
  | other
  | refused (error : MigrationError)
  | sourceChanged
  | interruptedCopy
  | directory
  deriving DecidableEq

/-- The error that the handler of `migrate_pending` records. -/
def Failure.error : Failure → MigrationError
  | .other => .migrationIncomplete
  | .refused error => error
  | .sourceChanged => .sourceChanged
  | .interruptedCopy => .interruptedCopyPreserved
  | .directory => .directoryRefused

/-- An exception of a `finally` block behind an earlier one: `error` stays set. -/
def Failure.merge (early late : Failure) : Failure :=
  match early with
  | .refused error => .refused error
  | _ => late

def checkedPath (disk : Disk) (path : FilePath) : Bool :=
  path ≠ [] && !path.contains ".." && path.tails.all fun component =>
    match disk.find? component with
    | none => true
    | some (.directory data) => data.access ≠ .foreign
    | some (.file _) => component = path
    | some .other => false

/-- `_directory`, and the identity it admits. -/
def directory (disk : Disk) (path : FilePath) : Except Failure (ℕ × ℕ) :=
  if !checkedPath disk path then .error .other
  else
    match disk.find? path with
    | none => .error .other
    | some (.directory data) => if data.access = .own then .ok data.identity else .error .directory
    | some _ => .error .directory

def sameDirectory (disk : Disk) (path : FilePath) (identity : ℕ × ℕ) : Except Failure Unit :=
  if checkedPath disk path && (disk.directory? path).map (·.identity) = some identity then .ok ()
  else .error .other

/-- The signature of `_file_info`. -/
def fileInfo (disk : Disk) (path : FilePath) : Except Failure FileInfo :=
  match disk.file? path with
  | some file => if links disk file = 1 && file.access ≠ .foreign then .ok file.info else .error .other
  | none => .error .other

/-- The signature of `_file`. -/
def privateFile (disk : Disk) (path : FilePath) : Except Failure FileInfo :=
  match disk.file? path with
  | some file =>
      if checkedPath disk path && links disk file = 1 && file.access = .own then .ok file.info
      else .error .other
  | none => .error .other

def textLength (path : FilePath) : ℕ := (path.map fun name => name.length + 1).sum

/-- What `_target` asks of a target. -/
def targetIsAdmitted (disk : Disk) (root value active : FilePath) : Bool :=
  textLength value ≤ 1024 && value.all (fun name => !name.toList.contains '\x00') &&
    checkedPath disk value && !(value <:+ root : Bool) && !(value <:+ active : Bool) &&
    !(active <:+ value : Bool) &&
    (if (disk.find? value).isSome then (directory disk value).isOk
      else (directory disk value.tail).isOk)

/-- `_target`; `root` is the directory of the settings. -/
def checkedTarget (disk : Disk) (root value active : FilePath) : Except Failure FilePath :=
  if targetIsAdmitted disk root value active then .ok value else .error .directory

/-! ## Inventories -/

def tempName (name : String) : Bool :=
  let cs := name.toList
  cs.length == 48 && cs.take 12 == ".k5-migrate-".toList && cs.drop 44 == ".tmp".toList &&
    ((cs.drop 12).take 32).all fun c => c.isDigit || ('a' ≤ c && c ≤ 'f')

abbrev Inventory := List (Path × FileInfo)

def pathIn (root : FilePath) (relative : Path) : FilePath := relative.2 :: relative.1 :: root

/-- The inner loop of `_inventory`, with the number of entries so far. -/
def inventoryFiles (disk : Disk) (root : FilePath) (detect : Bool) (home : String) :
    List String → ℕ → Except Failure (Inventory × ℕ)
  | [], entries => .ok ([], entries)
  | name :: rest, entries =>
      if maxStorageEntries ≤ entries then .error .other
      else if detect && tempName name then .error .interruptedCopy
      else
        match segmentName name with
        | none => .error .other
        | some false => inventoryFiles disk root detect home rest (entries + 1)
        | some true =>
            match fileInfo disk (pathIn root (home, name)) with
            | .error failure => .error failure
            | .ok info =>
                match inventoryFiles disk root detect home rest (entries + 1) with
                | .error failure => .error failure
                | .ok (files, total) => .ok (((home, name), info) :: files, total)

/-- The outer loop of `_inventory`. -/
def inventoryDirectories (disk : Disk) (root : FilePath) (detect : Bool) :
    List String → ℕ → Except Failure Inventory
  | [], _ => .ok []
  | name :: rest, entries =>
      if maxStorageEntries ≤ entries then .error .other
      else if !pathName name then inventoryDirectories disk root detect rest (entries + 1)
      else
        match directory disk (name :: root) with
        | .error failure => .error failure
        | .ok _ =>
            match inventoryFiles disk root detect name (disk.children (name :: root))
                (entries + 1) with
            | .error failure => .error failure
            | .ok (files, total) =>
                match inventoryDirectories disk root detect rest total with
                | .error failure => .error failure
                | .ok others => .ok (files ++ others)

def inventory (disk : Disk) (root : FilePath) (detect : Bool) : Except Failure Inventory :=
  match directory disk root with
  | .error failure => .error failure
  | .ok _ => inventoryDirectories disk root detect (disk.children root) 0

/-! ## The settings -/

def maxQuotaBytes : ℤ := 4096 * 1024 ^ 3

def maxRetentionSeconds : ℤ := 30 * 86400

structure SettingsDocument where
  revision : ℤ
  quotaBytes : ℤ
  minimumFreeBytes : ℤ
  retentionSeconds : ℤ
  recordingDirectory : FilePath
  pendingRecordingDirectory : Option FilePath
  migrationError : Option MigrationError
  deriving DecidableEq

structure SavedSettings where
  document : SettingsDocument
  info : FileInfo
  deriving DecidableEq

/-- An `OperatorStorageSettings`. -/
structure StorageSettings where
  document : SettingsDocument
  identity : Option FileInfo
  rootIdentity : ℕ × ℕ

/-- What does not change: the directory of the settings, and what is taken of libraries. -/
structure Platform where
  root : FilePath
  digest : List UInt8 → String
  /-- Whether a document takes no more than `_LIMIT` as JSON. -/
  fits : SettingsDocument → Bool
  /-- The marker of a target, as JSON, for the source of its recordings. -/
  marker : FilePath → List UInt8
  /-- Whether a file of this content is the marker for a source. -/
  isMarker : List UInt8 → FilePath → Bool

def validatePolicy (document : SettingsDocument) : Bool :=
  1 ≤ document.quotaBytes && document.quotaBytes ≤ maxQuotaBytes &&
    0 ≤ document.minimumFreeBytes && document.minimumFreeBytes ≤ maxQuotaBytes &&
    0 ≤ document.retentionSeconds && document.retentionSeconds ≤ maxRetentionSeconds

def validate (platform : Platform) (disk : Disk) (document : SettingsDocument) :
    Except Failure Unit :=
  if !(0 ≤ document.revision && document.revision ≤ 2 ^ 63 - 1 && validatePolicy document) then
    .error .other
  else
    match directory disk document.recordingDirectory with
    | .error failure => .error failure
    | .ok _ =>
        match document.pendingRecordingDirectory with
        | none => .ok ()
        | some pending =>
            match checkedTarget disk platform.root pending document.recordingDirectory with
            | .error failure => .error failure
            | .ok _ => .ok ()

/-- The constructor, for the document of a settings file that does not exist. -/
def construct (platform : Platform) (disk : Disk) (initial : SettingsDocument)
    (saved : Option SavedSettings) : Except Failure StorageSettings :=
  match directory disk platform.root, directory disk initial.recordingDirectory with
  | .ok rootIdentity, .ok _ =>
      match saved with
      | none => .ok ⟨initial, none, rootIdentity⟩
      | some saved =>
          match validate platform disk saved.document with
          | .error failure => .error failure
          | .ok () => .ok ⟨saved.document, some saved.info, rootIdentity⟩
  | .error failure, _ => .error failure
  | _, .error failure => .error failure

/-! ## Steps -/

inductive Side
  | settings
  | recordings
  deriving DecidableEq

inductive MigrationFault
  | none
  | raise
  | kill
  deriving DecidableEq

/-- `secrets.token_hex(16)`, as the name of a temporary file. -/
abbrev TempName := { name : String // tempName name = true }

structure MigrationEnvironment where
  fault : Side → ℕ → MigrationFault
  temporary : ℕ → TempName
  /-- The device and the inode of what is created. -/
  created : ℕ → ℕ × ℕ
  /-- The times of what is written. -/
  times : ℕ → ℤ × ℤ
  /-- The signature of a settings file that is saved. -/
  saved : ℕ → FileInfo
  capacity : ℕ → ℕ

structure World where
  disk : Disk
  saved : Option SavedSettings
  settings : StorageSettings
  killed : Bool
  tick : ℕ

abbrev Migration := Handler World Failure

section Steps

variable (env : MigrationEnvironment) {α : Type}

def step (side : Side) (f : ℕ → World → Except Failure α × World) : Migration α :=
  Handler.of fun world =>
    if world.killed then (.error .other, world)
    else
      match env.fault side world.tick with
      | .none => f world.tick { world with tick := world.tick + 1 }
      | .raise => (.error .other, { world with tick := world.tick + 1 })
      | .kill => (.error .other, { world with killed := true })

def touch (side : Side) : Migration Unit := step env side fun _ world => (.ok (), world)

def look (f : Disk → Except Failure α) : Migration α :=
  step env .recordings fun _ world => (f world.disk, world)

/-- A step that writes to the disk, if it can. -/
def write (f : ℕ → Disk → Option Disk) : Migration Unit :=
  step env .recordings fun tick world =>
    match f tick world.disk with
    | none => (.error .other, world)
    | some disk => (.ok (), { world with disk := disk })

def draw (f : ℕ → α) : Migration α := step env .recordings fun tick world => (.ok (f tick), world)

def mkdir (path : FilePath) : Migration Unit :=
  write env fun tick disk => disk.add? path (.directory ⟨env.created tick, .own⟩)

def create (path : FilePath) : Migration Unit :=
  write env fun tick disk => disk.add? path (.file
    ⟨(env.created tick).1, (env.created tick).2, (env.times tick).1, (env.times tick).2, .own, []⟩)

/-- `write` to the end of a file. -/
def append (path : FilePath) (chunk : List UInt8) : Migration Unit :=
  write env fun tick disk => some (disk.rewrite path fun file =>
    { file with
      modified := (env.times tick).1
      changed := (env.times tick).2
      content := file.content ++ chunk })

def link (path other : FilePath) : Migration Unit :=
  write env fun _ disk => (disk.file? path).bind fun file => disk.add? other (.file file)

def unlink (path : FilePath) : Migration Unit := write env fun _ disk => disk.remove? path

def unlinkMissing (path : FilePath) : Migration Unit :=
  write env fun _ disk => if (disk.find? path).isNone then some disk else disk.remove? path

/-- `os.replace` of what does not exist. -/
def rename (path other : FilePath) : Migration Unit :=
  write env fun _ disk =>
    (disk.file? path).bind fun file => (disk.add? other (.file file)).bind (·.remove? path)

end Steps

/-! ## Saving -/

section Saving

variable (platform : Platform) (env : MigrationEnvironment)

def admitSettings : Migration Unit :=
  step env .settings fun _ world =>
    match sameDirectory world.disk platform.root world.settings.rootIdentity with
    | .error failure => (.error failure, world)
    | .ok () =>
        if world.settings.identity = world.saved.map (·.info) then (.ok (), world)
        else (.error .other, world)

/-- `_atomic` of the settings file; a temporary file of it is left out. -/
def atomic (document : SettingsDocument) : Migration Unit := do
  step env .settings fun _ world =>
    match directory world.disk platform.root with
    | .error failure => (.error failure, world)
    | .ok _ => if platform.fits document then (.ok (), world) else (.error .other, world)
  touch env .settings
  step env .settings fun tick world =>
    (.ok (), { world with saved := some ⟨document, env.saved tick⟩ })
  touch env .settings

def save (document : SettingsDocument) : Migration Unit := do
  admitSettings platform env
  step env .settings fun _ world => (validate platform world.disk document, world)
  atomic platform env document
  step env .settings fun _ world =>
    (.ok (), { world with
      settings := { world.settings with identity := world.saved.map (·.info) } })
  -- `seal`
  touch env .settings
  Handler.of fun world =>
    (.ok (), { world with settings := { world.settings with document := document } })

end Saving

/-! ## The migration -/

section Migrating

variable (platform : Platform) (env : MigrationEnvironment)

def checkSignature (path : FilePath) (expected : FileInfo) (failure : Failure) : Migration Unit :=
  look env fun disk =>
    match fileInfo disk path with
    | .error failure => .error failure
    | .ok info => if info = expected then .ok () else .error failure

def readContent (path : FilePath) : Migration (List UInt8) :=
  look env fun disk =>
    match disk.file? path with
    | none => .error .other
    | some file => .ok file.content

def hash (path : FilePath) (expected : FileInfo) : Migration String := do
  checkSignature env path expected .sourceChanged
  let content ← readContent env path
  checkSignature env path expected .sourceChanged
  pure (platform.digest content)

def mkdirMissing (path : FilePath) : Migration Unit := do
  let present ← look env fun disk => .ok (disk.find? path).isSome
  if present then pure () else mkdir env path

def writeChunks (path : FilePath) : List (List UInt8) → Migration Unit
  | [] => pure ()
  | chunk :: rest => do
      append env path chunk
      writeChunks path rest

/-- The copy of a recording, from the opening of the temporary file to the end of the `try`. -/
def copyFile (original destination temporary : FilePath) (signature : FileInfo)
    (sourceHash : String) (parentIdentity : ℕ × ℕ) : Migration Unit := do
  let content ← readContent env original
  create env temporary
  checkSignature env original signature (.refused .sourceChanged)
  writeChunks env temporary (content.toChunks (1024 * 1024))
  checkSignature env original signature (.refused .sourceChanged)
  let copied ← look env fun disk => privateFile disk temporary
  Handler.require (copied.size = signature.size) .other
  let copiedHash ← hash platform env temporary copied
  Handler.require (copiedHash = sourceHash) .other
  look env fun disk => sameDirectory disk destination.tail parentIdentity
  look env fun disk =>
    if (disk.find? destination).isSome then .error (.refused .destinationConflict) else .ok ()
  link env temporary destination
  unlink env temporary

/-- A recording that is at its destination already. -/
def checkCopy (destination : FilePath) (signature : FileInfo) (sourceHash : String) :
    Migration Unit := do
  let copied ← look env fun disk => fileInfo disk destination
  Handler.require (copied.size = signature.size) (.refused .destinationConflict)
  let copiedHash ← hash platform env destination copied
  Handler.require (copiedHash = sourceHash) (.refused .destinationConflict)

/-- A recording that is not at its destination. -/
def copyMissing (original destination : FilePath) (signature : FileInfo) (sourceHash : String) :
    Migration Unit := do
  mkdirMissing env destination.tail
  let parentIdentity ← look env fun disk => directory disk destination.tail
  let temporary ← draw env env.temporary
  (copyFile platform env original destination (temporary.1 :: destination.tail) signature
    sourceHash parentIdentity).ensure (unlinkMissing env (temporary.1 :: destination.tail))
      Failure.merge

def placeCopy (original destination : FilePath) (signature : FileInfo) (sourceHash : String) :
    Migration Unit := do
  let present ← look env fun disk => .ok (disk.find? destination).isSome
  if present then checkCopy platform env destination signature sourceHash
  else copyMissing platform env original destination signature sourceHash

/-- The loop of `migrate_pending` for one recording, and the signature of its copy. -/
def copyOne (source target : FilePath) (targetIdentity : ℕ × ℕ) (relative : Path)
    (signature : FileInfo) : Migration FileInfo := do
  let sourceHash ← hash platform env (pathIn source relative) signature
  placeCopy platform env (pathIn source relative) (pathIn target relative) signature sourceHash
  let verified ← look env fun disk => fileInfo disk (pathIn target relative)
  -- `progress`
  touch env .recordings
  look env fun disk => sameDirectory disk target targetIdentity
  pure verified

/-- The loop of `migrate_pending`, and the `verified_destinations`. -/
def copyAll (source target : FilePath) (targetIdentity : ℕ × ℕ) : Inventory → Migration Inventory
  | [] => pure []
  | (relative, signature) :: rest => do
      let verified ← copyOne platform env source target targetIdentity relative signature
      let others ← copyAll source target targetIdentity rest
      pure ((relative, verified) :: others)

def targetMarker : String := ".k5-storage-target.json"

/-- `_atomic` of a marker that does not exist. -/
def writeMarker (source target : FilePath) : Migration Unit := do
  let parentIdentity ← look env fun disk => directory disk target
  let temporary ← draw env env.temporary
  create env (temporary.1 :: target)
  Handler.ensure (do
      append env (temporary.1 :: target) (platform.marker source)
      let _ ← look env fun disk => privateFile disk (temporary.1 :: target)
      look env fun disk => sameDirectory disk target parentIdentity
      rename env (temporary.1 :: target) (targetMarker :: target)
      let _ ← look env fun disk => privateFile disk (targetMarker :: target)
      pure ())
    (unlinkMissing env (temporary.1 :: target)) Failure.merge

/-- The marker of the target is there and is that of the source, or the target is empty and
gets one. -/
def prepareMarker (source target : FilePath) : Migration Unit := do
  let present ← look env fun disk => .ok (disk.find? (targetMarker :: target)).isSome
  if present then
    look env fun disk =>
      match privateFile disk (targetMarker :: target), disk.file? (targetMarker :: target) with
      | .ok info, some file =>
          if info.size = 0 ∨ 16 * 1024 < info.size then .error .other
          else if platform.isMarker file.content source then .ok ()
          else .error (.refused .destinationConflict)
      | _, _ => .error .other
  else
    look env fun disk =>
      if disk.children target = [] then .ok () else .error (.refused .destinationConflict)
    writeMarker platform env source target

/-- `migrate_pending`, up to the point where the target can become active. -/
def copyVerified (document : SettingsDocument) (source pending : FilePath) : Migration FilePath := do
  -- `progress`
  touch env .recordings
  let sourceIdentity ← look env fun disk => directory disk source
  let target ← look env fun disk => checkedTarget disk platform.root pending source
  mkdirMissing env target
  let targetIdentity ← look env fun disk => directory disk target
  let capacity ← draw env env.capacity
  Handler.require (document.minimumFreeBytes ≤ capacity) (.refused .directoryRefused)
  prepareMarker platform env source target
  let found ← look env fun disk => inventory disk source false
  let existing ← look env fun disk => inventory disk target true
  Handler.require ((existing.map (·.1)).all (found.map (·.1)).contains)
    (.refused .destinationConflict)
  let verified ← copyAll platform env source target targetIdentity found
  let sourceAgain ← look env fun disk => inventory disk source false
  Handler.require (sourceAgain.isPerm found) (.refused .sourceChanged)
  let targetAgain ← look env fun disk => inventory disk target true
  Handler.require (targetAgain.isPerm verified) (.refused .destinationConflict)
  look env fun disk => sameDirectory disk source sourceIdentity
  look env fun disk => sameDirectory disk target targetIdentity
  pure target

def migratePending : Migration FilePath := do
  admitSettings platform env
  let document ← Handler.read fun world => .ok world.settings.document
  let source := document.recordingDirectory
  match document.pendingRecordingDirectory with
  | none => pure source
  | some pending =>
      Handler.recover (do
          let target ← copyVerified platform env document source pending
          save platform env { document with
            recordingDirectory := target
            pendingRecordingDirectory := none
            migrationError := none
            revision := document.revision + 1 }
          pure target)
        fun failure => do
          save platform env { document with
            migrationError := some failure.error
            revision := document.revision + 1 }
          pure source

end Migrating

end K5Vision.Storage
