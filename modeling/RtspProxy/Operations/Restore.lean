import RtspProxy.Operations.World

/-!
# The verification of a restore

`verify_database_restore` of `operations.py`. The archive is restored into a
temporary database, which is inspected and dropped before the report is written.
The flag `created` is set by the order of the calls: from the return of
`_create_database` to the return of `_drop_database`. `report_created` is set
right before the function returns, when nothing is left that may fail. The block
is therefore written as its three parts.
-/

namespace RtspProxy.Operations

open Lib.Program Lib.Program.Prog

structure RestoreArguments where
  archive : OutputPath
  manifest : OutputPath
  report : OutputPath
  /-- What `_admin_url` makes of the URL of the database. -/
  adminUrl : Except Error String
  /-- What `_replace_database` makes of it. -/
  restoreUrl : Except Error String
  startedAt : String
  completedAt : String

def privateInput (path : OutputPath) (place : Place) : OpsProg Unit :=
  if path.isAbsolute = false then raiseOperations "operations_input_path_invalid"
  else
    (attempt (.lstatInput place)).handle (fun err =>
      raise (if err = .osError then .operationsError "operations_input_missing" else err)) >>=
    fun status =>
      if status.isRegular = false ∨ status.isOwned = false ∨ status.isPrivate = false then
        raiseOperations "operations_input_not_private"
      else pure ()

/-- `_SHA256.fullmatch`. -/
def isSha256 (value : String) : Bool :=
  value.length == 64 && value.toList.all fun digit => "0123456789abcdef".toList.contains digit

def validateBackupManifest (doc : BackupDocument) (archiveName : String) (release : Release) :
    OpsProg Unit :=
  match doc.archive with
  | none => raiseOperations "backup_manifest_invalid"
  | some described =>
    if doc.schemaVersion ≠ some 1 ∨ doc.status ≠ some "verified" ∨
        doc.release ≠ some release ∨ described.filename ≠ some archiveName ∨
        described.format ≠ some "postgresql-custom" ∨ described.sizeBytes = none ∨
        described.sha256.any isSha256 = false then
      raiseOperations "backup_manifest_invalid"
    else
      attempt (.hashFile .archive) >>= fun hashed =>
        if some hashed.1 ≠ described.sha256 ∨ some (hashed.2 : Int) ≠ described.sizeBytes then
          raiseOperations "backup_archive_digest_mismatch"
        else pure ()

/-- `with psycopg.connect(_admin_url(database_url), autocommit=True)`, for one statement. -/
def adminBlock (args : RestoreArguments) (statement : OpsProg Unit) : OpsProg Unit :=
  match args.adminUrl with
  | .error err => raise err
  | .ok _ =>
    attempt .connectAdmin >>= fun _ =>
    statement >>= fun _ =>
    attempt .closeAdmin

def asAdmin (args : RestoreArguments) (statement : OpsProg Unit) (code : String) :
    OpsProg Unit :=
  (adminBlock args statement).handle fun err =>
    raise (if err = .psycopgError then .operationsError code else err)

def createDatabase (args : RestoreArguments) : OpsProg Unit :=
  asAdmin args (attempt .createDatabase) "temporary_restore_database_create_failed"

def dropDatabase (args : RestoreArguments) : OpsProg Unit :=
  asAdmin args (attempt .dropDatabase) "temporary_restore_database_drop_failed"

def restorePayload (args : RestoreArguments) (release : Release) (snap : DatabaseSnapshot)
    (digest : String) : RestoreReport where
  schemaVersion := 1
  status := "pass"
  startedAt := args.startedAt
  completedAt := args.completedAt
  archiveSha256 := digest
  release := release
  database := snapshotPayload snap
  temporaryDatabaseRemoved := true

def verifyRestored (args : RestoreArguments) (doc : BackupDocument) (release : Release) :
    OpsProg RestoreReport :=
  match args.restoreUrl with
  | .error err => raise err
  | .ok _ =>
    attempt .pgRestore >>= fun _ =>
    attempt .connect >>= fun _ =>
    attempt .inspectTemporary >>= fun snap =>
    attempt .closeConnection >>= fun _ =>
    if doc.database ≠ some (snapshotPayload snap) then
      raiseOperations "restored_database_mismatch"
    else
      requireReleaseSchema release snap.revision >>= fun _ =>
      attempt (.hashFile .archive) >>= fun hashed =>
      dropDatabase args >>= fun _ =>
      pure (restorePayload args release snap hashed.1)

def restoring {Result : Type} (prog : OpsProg Result) : OpsProg Result :=
  prog.handle fun err =>
    raise (match err with
      | .operationsError code => .operationsError code
      | _ => .operationsError "database_restore_verification_failed")

def cleanupFailed : Error := .operationsError "temporary_restore_database_cleanup_failed"

def whileCreated {Result : Type} (args : RestoreArguments) (prog : OpsProg Result) :
    OpsProg Result :=
  prog.handle fun err =>
    (dropDatabase args).handle (fun failure =>
      raise (match failure with
        | .osError => .osError
        | _ => cleanupFailed)) >>= fun _ =>
    raise err

def writeReport (payload : RestoreReport) : OpsProg RestoreReport :=
  writeJsonExclusive .report (.report payload) >>= fun _ => pure payload

def verifyDatabaseRestore (args : RestoreArguments) : OpsProg RestoreReport :=
  privateInput args.archive .archive >>= fun _ =>
  privateInput args.manifest .manifest >>= fun _ =>
  newPrivateOutput args.report ".json" .report >>= fun _ =>
  loadReleaseManifest >>= fun release =>
  attempt .readBackup >>= fun doc =>
  validateBackupManifest doc args.archive.name release >>= fun _ =>
  restoring (createDatabase args) >>= fun _ =>
  whileCreated args (restoring (verifyRestored args doc release)) >>= fun payload =>
  restoring (writeReport payload)

end RtspProxy.Operations
