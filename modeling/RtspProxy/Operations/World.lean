import Mathlib.Data.List.Sort
import RtspProxy.Lib.Attempts

/-!
# Files and databases of the production operations

What `backup_database` and `verify_database_restore` of `operations.py` act on:
the files at the few paths they use, the transaction a backup reads in, and the
temporary database of a verification. Each call to the file system, to PostgreSQL
or to one of its tools may fail, before or after it took effect. Nobody else
writes to these paths or to the temporary database; the database that is backed up
may change until a transaction has its snapshot. Readings of the clock are
arguments of the programs.
-/

namespace RtspProxy.Operations

open Lib.Program Lib.Program.Prog

abbrev Bytes := List UInt8

inductive Error
  | operationsError (code : String)
  | osError
  | psycopgError
  deriving DecidableEq

/-- What the queries of `_inspect_database` find in a database. -/
structure DatabaseContent where
  /-- `none` for a row that is not a text. -/
  revisionRows : List (Option String)
  tableNames : List String
  count : String → Option Nat
  invariant : String → Option Bool
  serverVersion : Option String

structure DatabaseSnapshot where
  revision : String
  serverVersion : String
  tableCounts : List (String × Nat)
  invariants : List (String × Bool)
  deriving DecidableEq

structure Characters where
  isAlnum : Char → Bool
  isSpace : Char → Bool

def requiredTables : List String :=
  ["media_nodes", "cameras", "camera_placements", "camera_placement_history",
    "camera_access_policies", "audit_events", "outbox_messages"]

def invariantNames : List String :=
  ["one_current_placement_per_live_camera", "node_registered_counts_match_placements",
    "access_policy_per_live_camera", "current_placement_present_in_history",
    "normative_event_ids_do_not_conflict"]

/-- `_REVISION.fullmatch`. -/
def isRevision (value : String) : Bool :=
  let isDigit : Char → Bool := fun char => '0' ≤ char && char ≤ '9'
  match value.toList with
  | first :: second :: third :: fourth :: '_' :: name =>
    isDigit first && isDigit second && isDigit third && isDigit fourth && !name.isEmpty &&
      name.all fun char =>
        ('a' ≤ char && char ≤ 'z') || isDigit char || char = '_'
  | _ => false

section Snapshots

variable (characters : Characters)

/-- `not table or table != table.strip() or not table.replace("_", "a").isalnum()`, negated. -/
def isTableName (table : String) : Bool :=
  !table.toList.isEmpty && !(table.toList.head?.any characters.isSpace) &&
    !(table.toList.getLast?.any characters.isSpace) &&
    table.toList.all fun char => char = '_' || characters.isAlnum char

def DatabaseSnapshot.isValid (snap : DatabaseSnapshot) : Bool :=
  isRevision snap.revision && !snap.serverVersion.isEmpty &&
    !snap.tableCounts.isEmpty &&
    (snap.tableCounts.all fun item => isTableName characters item.1) &&
    !snap.invariants.isEmpty &&
    snap.invariants.all fun item => !item.1.isEmpty && item.2

def operationsError {Result : Type} (code : String) : Except Error Result :=
  .error (.operationsError code)

/-- `_database_invariants`, after the tables it needs were found. -/
def checkInvariants (content : DatabaseContent) : List String → Except Error (List (String × Bool))
  | [] => .ok []
  | name :: rest => do
      if content.invariant name ≠ some true then
        operationsError s!"database_invariant_failed:{name}"
      return (name, true) :: (← checkInvariants content rest)

def countTables (content : DatabaseContent) : List String → Except Error (List (String × Nat))
  | [] => .ok []
  | name :: rest =>
    match content.count name with
    | none => operationsError "database_table_inventory_invalid"
    | some count => do return (name, count) :: (← countTables content rest)

def inspectDatabase (content : DatabaseContent) : Except Error DatabaseSnapshot :=
  match content.revisionRows with
  | [some revision] => do
      if "alembic_version" ∉ content.tableNames then
        operationsError "database_table_inventory_invalid"
      let tableCounts ← countTables content content.tableNames
      if requiredTables.all (content.tableNames.contains ·) = false then
        operationsError "database_required_table_missing"
      let invariants ← checkInvariants content invariantNames
      match content.serverVersion with
      | none => operationsError "database_server_version_invalid"
      | some serverVersion =>
        let snap : DatabaseSnapshot := { revision, serverVersion, tableCounts, invariants }
        if snap.isValid characters = true then return snap
        else operationsError "database_snapshot_invalid"
  | _ => operationsError "database_revision_invalid"

/-- `_snapshot_payload`: the dictionaries are sorted. -/
def snapshotPayload (snap : DatabaseSnapshot) : DatabaseSnapshot :=
  { snap with
    tableCounts := snap.tableCounts.insertionSort fun first second => first.1 ≤ second.1
    invariants := snap.invariants.insertionSort fun first second => first.1 ≤ second.1 }

end Snapshots

/-- What `_load_release_manifest` returns. -/
structure Release where
  releaseId : String
  gitCommit : String
  architecture : String
  manifestSha256 : String
  schemaMinimum : String
  schemaMaximum : String
  deriving DecidableEq

/-- A release manifest, as far as it is read; a field is `none` when it is no text. -/
structure ReleaseDocument where
  releaseId : Option String
  gitCommit : Option String
  linuxArch : Option String
  minimum : Option String
  maximum : Option String
  deriving DecidableEq

structure ArchiveDocument where
  filename : Option String
  sha256 : Option String
  sizeBytes : Option Int
  format : Option String
  deriving DecidableEq

/-- A backup manifest; a field is `none` when it is missing or not of the kind it should be. The
dictionaries of the database are listed in the order of `_snapshot_payload`. -/
structure BackupDocument where
  schemaVersion : Option Int
  status : Option String
  startedAt : String
  completedAt : String
  release : Option Release
  archive : Option ArchiveDocument
  database : Option DatabaseSnapshot
  deriving DecidableEq

structure RestoreReport where
  schemaVersion : Int
  status : String
  startedAt : String
  completedAt : String
  archiveSha256 : String
  release : Release
  database : DatabaseSnapshot
  temporaryDatabaseRemoved : Bool
  deriving DecidableEq

/-- The paths of the operations. The archive is the output of a backup and the input of a
verification; `temporary` is the partial file of a backup. -/
inductive Place
  | temporary
  | archive
  | manifest
  | report
  deriving DecidableEq

inductive Content
  | empty
  | archive (bytes : Bytes)
  | backup (doc : BackupDocument)
  | report (report : RestoreReport)
  deriving DecidableEq

/-- The bytes of a file; `json` is how documents are written. -/
def Content.bytes (json : Content → Bytes) : Content → Bytes
  | .empty => []
  | .archive bytes => bytes
  | doc => json doc

structure File where
  content : Content
  /-- A regular file of this user. -/
  owned : Bool
  deriving DecidableEq

structure OutputPath where
  isAbsolute : Bool
  name : String

structure ParentStatus where
  isResolved : Bool
  isDirectory : Bool
  isOwned : Bool
  isPrivate : Bool

structure InputStatus where
  isRegular : Bool
  isOwned : Bool
  isPrivate : Bool

/-- The database of a verification: a copy of `template0`, or what was restored into it. -/
inductive TemporaryDatabase
  | new
  | restored (content : DatabaseContent)

structure Ops where
  files : Place → Option File
  /-- What the open transaction reads, and the snapshot it exported. -/
  transaction : Option DatabaseContent
  exported : Option (String × DatabaseContent)
  temporaryDatabase : Option TemporaryDatabase

namespace Ops

def put (st : Ops) (place : Place) (file : Option File) : Ops :=
  { st with files := fun other => if other = place then file else st.files other }

end Ops

structure Tooling extends Characters where
  sha256 : Bytes → String
  json : Content → Bytes
  /-- `pg_dump` of a snapshot. -/
  dump : DatabaseContent → Bytes
  /-- `pg_restore` of an archive into a new database. -/
  restore : Bytes → DatabaseContent
  template0 : DatabaseContent

inductive Call
  | statParent (place : Place)
  | pathExists (place : Place)
  | lstatInput (place : Place)
  | readRelease
  | hashRelease
  | readBackup
  | hashFile (place : Place)
  | connect
  | begin
  | exportSnapshot
  | inspectTransaction
  | pgDump (snapshotId : String)
  | commit
  | closeConnection
  | requireRegularFile
  | chmod
  | pgRestoreList
  | fsyncFile (place : Place)
  | link
  | syncDirectory
  | openExclusive (place : Place)
  | fdopen (place : Place)
  | write (place : Place) (content : Content)
  | flush (place : Place)
  | closeFile (place : Place)
  | lstatOwned (place : Place)
  | unlink (place : Place)
  | connectAdmin
  | createDatabase
  | dropDatabase
  | closeAdmin
  | pgRestore
  | inspectTemporary
  deriving DecidableEq

abbrev Answer : Call → Type
  | .statParent _ => ParentStatus
  | .pathExists _ => Bool
  | .lstatInput _ => InputStatus
  | .readRelease => ReleaseDocument
  | .hashRelease => String
  | .readBackup => BackupDocument
  | .hashFile _ => String × Nat
  | .exportSnapshot => Option String
  | .inspectTransaction | .inspectTemporary => DatabaseSnapshot
  | .requireRegularFile => Bool
  | .lstatOwned _ => Option Bool
  | _ => Unit

abbrev OpsProg := Prog Call Answer Error

abbrev OpsTrial := Trial Ops Call

abbrev attempt (req : Call) : OpsProg (Answer req) := ask req

/-- What the calls do. What is not part of the state (directories, the release manifest, metadata of
inputs) may answer anything. -/
inductive Effect (tooling : Tooling) (st : Ops) :
    (req : Call) → Except Error (Answer req) → Ops → Prop
  | statParent (place : Place) (status : ParentStatus) :
      Effect tooling st (.statParent place) (.ok status) st
  | pathExists (place : Place) :
      Effect tooling st (.pathExists place) (.ok (st.files place).isSome) st
  | lstatInput (place : Place) (status : InputStatus) :
      Effect tooling st (.lstatInput place) (.ok status) st
  | readRelease (doc : ReleaseDocument) :
      Effect tooling st .readRelease (.ok doc) st
  | hashRelease (digest : String) : Effect tooling st .hashRelease (.ok digest) st
  | readBackup {doc : BackupDocument} {owned : Bool}
      (isBackup : st.files .manifest = some ⟨.backup doc, owned⟩) :
      Effect tooling st .readBackup (.ok doc) st
  | noBackup (isNone : ∀ doc owned, st.files .manifest ≠ some ⟨.backup doc, owned⟩) :
      Effect tooling st .readBackup (.error (.operationsError "backup_manifest_invalid")) st
  | hashFile {place : Place} {file : File} (found : st.files place = some file) :
      Effect tooling st (.hashFile place) (.ok (tooling.sha256 (file.content.bytes tooling.json),
        (file.content.bytes tooling.json).length)) st
  | hashMissing {place : Place} (missing : st.files place = none) :
      Effect tooling st (.hashFile place)
        (.error (.operationsError "operations_input_unreadable")) st
  | connect : Effect tooling st .connect (.ok ()) st
  | begin : Effect tooling st .begin (.ok ()) st
  | exportSnapshot (content : DatabaseContent) (snapshotId : String) :
      Effect tooling st .exportSnapshot (.ok (some snapshotId))
        { st with transaction := some content, exported := some (snapshotId, content) }
  | nothingExported : Effect tooling st .exportSnapshot (.ok none) st
  | inspectTransaction {content : DatabaseContent} (reads : st.transaction = some content) :
      Effect tooling st .inspectTransaction (inspectDatabase tooling.toCharacters content) st
  | noTransaction (missing : st.transaction = none) :
      Effect tooling st .inspectTransaction (.error .psycopgError) st
  | pgDump {snapshotId : String} {content : DatabaseContent}
      (exported : st.exported = some (snapshotId, content)) :
      Effect tooling st (.pgDump snapshotId) (.ok ())
        (st.put .temporary (some ⟨.archive (tooling.dump content), true⟩))
  /-- The tool exits with an error and leaves what it has written. -/
  | partialDump (snapshotId code : String) (bytes : Bytes) :
      Effect tooling st (.pgDump snapshotId) (.error (.operationsError code))
        (st.put .temporary (some ⟨.archive bytes, true⟩))
  | commit : Effect tooling st .commit (.ok ()) { st with transaction := none, exported := none }
  | closeConnection : Effect tooling st .closeConnection (.ok ()) st
  | requireRegularFile (isSingle : Bool) :
      Effect tooling st .requireRegularFile (.ok isSingle) st
  | chmod : Effect tooling st .chmod (.ok ()) st
  | pgRestoreList : Effect tooling st .pgRestoreList (.ok ()) st
  | fsyncFile (place : Place) : Effect tooling st (.fsyncFile place) (.ok ()) st
  | link {file : File} (source : st.files .temporary = some file)
      (free : st.files .archive = none) :
      Effect tooling st .link (.ok ()) (st.put .archive (some file))
  | linkMissing (missing : st.files .temporary = none) :
      Effect tooling st .link (.error .osError) st
  | linkExists (taken : (st.files .archive).isSome = true) :
      Effect tooling st .link (.error (.operationsError "operations_output_exists")) st
  | syncDirectory : Effect tooling st .syncDirectory (.ok ()) st
  | openExclusive {place : Place} (free : st.files place = none) :
      Effect tooling st (.openExclusive place) (.ok ()) (st.put place (some ⟨.empty, true⟩))
  | openExists {place : Place} (taken : (st.files place).isSome = true) :
      Effect tooling st (.openExclusive place)
        (.error (.operationsError "operations_output_exists")) st
  | fdopen (place : Place) : Effect tooling st (.fdopen place) (.ok ()) st
  -- What is written reaches the file at the latest when the block closes it.
  | write (place : Place) (content : Content) :
      Effect tooling st (.write place content) (.ok ()) (st.put place (some ⟨content, true⟩))
  | flush (place : Place) : Effect tooling st (.flush place) (.ok ()) st
  | closeFile (place : Place) : Effect tooling st (.closeFile place) (.ok ()) st
  | lstatOwned (place : Place) :
      Effect tooling st (.lstatOwned place) (.ok ((st.files place).map (·.owned))) st
  | unlink (place : Place) : Effect tooling st (.unlink place) (.ok ()) (st.put place none)
  | connectAdmin : Effect tooling st .connectAdmin (.ok ()) st
  | createDatabase (free : st.temporaryDatabase = none) :
      Effect tooling st .createDatabase (.ok ()) { st with temporaryDatabase := some .new }
  | createExists (taken : st.temporaryDatabase.isSome = true) :
      Effect tooling st .createDatabase (.error .psycopgError) st
  | dropDatabase (present : st.temporaryDatabase.isSome = true) :
      Effect tooling st .dropDatabase (.ok ()) { st with temporaryDatabase := none }
  | nothingToDrop (missing : st.temporaryDatabase = none) :
      Effect tooling st .dropDatabase (.error .psycopgError) st
  | closeAdmin : Effect tooling st .closeAdmin (.ok ()) st
  | pgRestore {bytes : Bytes} {owned : Bool}
      (isArchive : st.files .archive = some ⟨.archive bytes, owned⟩)
      (isNew : st.temporaryDatabase = some .new) :
      Effect tooling st .pgRestore (.ok ())
        { st with temporaryDatabase := some (.restored (tooling.restore bytes)) }
  /-- The tool exits with an error and leaves what it has restored. -/
  | partialRestore (code : String) (content : DatabaseContent)
      (present : st.temporaryDatabase.isSome = true) :
      Effect tooling st .pgRestore (.error (.operationsError code))
        { st with temporaryDatabase := some (.restored content) }
  | nowhereToRestore (code : String) (missing : st.temporaryDatabase = none) :
      Effect tooling st .pgRestore (.error (.operationsError code)) st
  | inspectTemporary {content : DatabaseContent}
      (reads : st.temporaryDatabase = some (.restored content)) :
      Effect tooling st .inspectTemporary (inspectDatabase tooling.toCharacters content) st
  | inspectNew (isNew : st.temporaryDatabase = some .new) :
      Effect tooling st .inspectTemporary
        (inspectDatabase tooling.toCharacters tooling.template0) st
  | noTemporaryDatabase (missing : st.temporaryDatabase = none) :
      Effect tooling st .inspectTemporary (.error .psycopgError) st

def Lost : Call → Error → Prop
  | .readRelease, err => err = .operationsError "release_manifest_invalid"
  | .readBackup, err => err = .operationsError "backup_manifest_invalid"
  | .hashRelease, err | .hashFile _, err =>
    err = .operationsError "operations_input_unreadable"
  | .pgRestoreList, err => ∃ code, err = .operationsError code
  -- The environment of these two is read from the connection string, by the driver.
  | .pgDump _, err | .pgRestore, err =>
    (∃ code, err = .operationsError code) ∨ err = .psycopgError
  | .connect, err | .begin, err | .exportSnapshot, err | .inspectTransaction, err
  | .commit, err | .closeConnection, err | .connectAdmin, err | .createDatabase, err
  | .dropDatabase, err | .closeAdmin, err | .inspectTemporary, err => err = .psycopgError
  | _, err => err = .osError

def tools (tooling : Tooling) : Tools Call Answer Error Ops where
  effect := Effect tooling
  lost := Lost

def raiseOperations {Result : Type} (code : String) : OpsProg Result :=
  raise (.operationsError code)

def ensuring {Result : Type} (prog : OpsProg Result) (cleanup : OpsProg Unit) : OpsProg Result :=
  prog.andThen fun out => cleanup >>= fun _ => .done out

def newPrivateOutput (path : OutputPath) (suffix : String) (place : Place) : OpsProg Unit :=
  if path.isAbsolute = false ∨ path.name.endsWith suffix = false then
    raiseOperations "operations_output_path_invalid"
  else
    (attempt (.statParent place)).handle (fun err =>
      raise (if err = .osError then .operationsError "operations_output_parent_invalid"
        else err)) >>= fun parent =>
    if parent.isResolved = false ∨ parent.isDirectory = false then
      raiseOperations "operations_output_parent_invalid"
    else if parent.isOwned = false ∨ parent.isPrivate = false then
      raiseOperations "operations_output_parent_not_private"
    else
      attempt (.pathExists place) >>= fun present =>
        if present = true then raiseOperations "operations_output_exists" else pure ()

/-- `[0-9a-f]{40}`. -/
def isCommit (value : String) : Bool :=
  value.length == 40 && value.toList.all fun digit => "0123456789abcdef".toList.contains digit

def loadReleaseManifest : OpsProg Release :=
  attempt .readRelease >>= fun doc =>
    match doc.releaseId, doc.gitCommit, doc.linuxArch, doc.minimum,
      doc.maximum with
    | some releaseId, some gitCommit, some architecture, some minimum, some maximum =>
      if releaseId = "" ∨ isCommit gitCommit = false ∨
          gitCommit = String.ofList (List.replicate 40 '0') ∨
          (architecture ≠ "amd64" ∧ architecture ≠ "arm64") ∨ isRevision minimum = false ∨
          isRevision maximum = false then
        raiseOperations "release_manifest_invalid"
      else attempt .hashRelease >>= fun digest =>
        pure ⟨releaseId, gitCommit, architecture, digest, minimum, maximum⟩
    | _, _, _, _, _ => raiseOperations "release_manifest_invalid"

def requireReleaseSchema (release : Release) (revision : String) : OpsProg Unit :=
  if revision ≠ release.schemaMaximum then raiseOperations "database_schema_not_release_head"
  else pure ()

def unlinkIfOwned (place : Place) : OpsProg Unit :=
  attempt (.lstatOwned place) >>= fun found =>
    if found = some true then attempt (.unlink place) else pure ()

def writeJsonExclusive (place : Place) (content : Content) : OpsProg Unit :=
  attempt (.openExclusive place) >>= fun _ =>
  (attempt (.fdopen place) >>= fun _ =>
    attempt (.write place content) >>= fun _ =>
    attempt (.flush place) >>= fun _ =>
    attempt (.fsyncFile place) >>= fun _ =>
    attempt (.closeFile place)).handle (fun err =>
      unlinkIfOwned place >>= fun _ => raise err) >>= fun _ =>
  attempt .syncDirectory

end RtspProxy.Operations
