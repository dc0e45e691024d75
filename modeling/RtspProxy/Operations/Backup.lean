import RtspProxy.Operations.World

/-!
# The backup of the database

`backup_database` of `operations.py`. The archive is dumped to a temporary file
and linked to its path; the manifest is written beside it. The flags
`archive_created` and `manifest_created` are set by the order of the calls: the
first once the archive is linked and its directory is synchronised, the second
right before the function returns, when nothing is left that may fail. The block
is therefore written as its two parts with the flag each of them has.
-/

namespace RtspProxy.Operations

open Lib.Program Lib.Program.Prog

structure BackupArguments where
  output : OutputPath
  /-- What `_psycopg_connection_string` makes of the URL. -/
  connectionString : Except Error String
  startedAt : String
  completedAt : String

/-- `Path(f"{output}.manifest.json")`. -/
def manifestPath (output : OutputPath) : OutputPath :=
  { output with name := output.name ++ ".manifest.json" }

/-- The block of the connection: what is inspected and what is dumped is the exported snapshot. -/
def dumpDatabase (release : Release) : OpsProg DatabaseSnapshot :=
  attempt .connect >>= fun _ =>
  attempt .begin >>= fun _ =>
  attempt .exportSnapshot >>= fun exported =>
    match exported with
    | none => raiseOperations "database_snapshot_export_failed"
    | some snapshotId =>
      attempt .inspectTransaction >>= fun snap =>
      requireReleaseSchema release snap.revision >>= fun _ =>
      attempt (.pgDump snapshotId) >>= fun _ =>
      attempt .commit >>= fun _ =>
      attempt .closeConnection >>= fun _ =>
      pure snap

def linkExclusive : OpsProg Unit :=
  attempt .link >>= fun _ => attempt .syncDirectory

def publishDump : OpsProg (String × Nat) :=
  attempt .requireRegularFile >>= fun isSingle =>
    if isSingle = false then raiseOperations "database_archive_invalid"
    else
      attempt .chmod >>= fun _ =>
      attempt (.fsyncFile .temporary) >>= fun _ =>
      attempt .pgRestoreList >>= fun _ =>
      attempt (.hashFile .temporary) >>= fun hashed =>
      linkExclusive >>= fun _ =>
      pure hashed

/-- The part of the block before `archive_created` is set. -/
def publishArchive (release : Release) : OpsProg (DatabaseSnapshot × String × Nat) :=
  dumpDatabase release >>= fun snap =>
  publishDump >>= fun hashed =>
  pure (snap, hashed)

def backupPayload (args : BackupArguments) (release : Release)
    (published : DatabaseSnapshot × String × Nat) : BackupDocument where
  schemaVersion := some 1
  status := some "verified"
  startedAt := args.startedAt
  completedAt := args.completedAt
  release := some release
  archive := some
    { filename := some args.output.name
      sha256 := some published.2.1
      sizeBytes := some published.2.2
      format := some "postgresql-custom" }
  database := some (snapshotPayload published.1)

def writeManifest (payload : BackupDocument) : OpsProg BackupDocument :=
  writeJsonExclusive .manifest (.backup payload) >>= fun _ => pure payload

def backupError : Error → Error
  | .operationsError code => .operationsError code
  | _ => .operationsError "database_backup_failed"

def undoing {Result : Type} (archiveCreated : Bool) (prog : OpsProg Result) : OpsProg Result :=
  prog.handle fun error =>
    unlinkIfOwned .temporary >>= fun _ =>
    (if archiveCreated = true then unlinkIfOwned .archive else pure ()) >>= fun _ =>
    raise (backupError error)

def backupDatabase (args : BackupArguments) : OpsProg BackupDocument :=
  newPrivateOutput args.output ".dump" .archive >>= fun _ =>
  newPrivateOutput (manifestPath args.output) ".manifest.json" .manifest >>= fun _ =>
  loadReleaseManifest >>= fun release =>
    match args.connectionString with
    | .error error => raise error
    | .ok _ =>
      ensuring
        (undoing false (publishArchive release) >>= fun published =>
          undoing true (writeManifest (backupPayload args release published)))
        (unlinkIfOwned .temporary)

end RtspProxy.Operations
