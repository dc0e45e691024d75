import RtspProxy.Lib.Attempts

/-!
# Release activation

`_activate` of `deploy.py` with `_switch`, `_await_health` and `_write_receipt`,
call by call. The current link, the receipt and their temporary names are the
state; what the host reports is recorded in it. Every call to the host or to the
file system may fail or be interrupted, before or after it took effect, and what
it raises then is arbitrary, since `_activate` catches every exception alike.
-/

namespace RtspProxy.Deploy

open Lib.Program Lib.Program.Prog

inductive DeployError
  | deploymentError (code : String)
  /-- Any other exception, an interrupt included. -/
  | other
  deriving DecidableEq

/-- What `_activate` reads of a release manifest. -/
structure ReleaseManifest where
  minimum : Option String
  maximum : Option String

/-- What stays as it is during an activation. -/
structure DeploymentHost where
  /-- The value of a decimal digit, of any script. -/
  decimal : Char → Option Nat
  manifests : String → Option ReleaseManifest
  databaseRevision : String

/-- The current link: missing or not a link, a link to a release, or a link elsewhere. -/
inductive CurrentLink
  | absent
  | release (releaseId : String)
  | unsafeTarget
  deriving DecidableEq

structure Receipt where
  currentReleaseId : String
  previousReleaseId : Option String
  databaseRevision : String
  deriving DecidableEq

structure Deployment where
  current : CurrentLink
  /-- The target of `.current.next.<pid>`. -/
  nextLink : Option String
  receipt : Option Receipt
  nextReceipt : Option Receipt
  verified : List String
  /-- The units that were reported as active. -/
  active : Option (List String)
  restarted : Option (List String)
  /-- The last health answer since the units were restarted. -/
  healthy : Option Bool
  deriving DecidableEq

/-- The calls of a switch carry the release it is for. -/
inductive Call
  | verify (releaseId : String)
  | databaseRevision (releaseId : String)
  | readManifest (releaseId : String)
  | readCurrent
  | activeUnits
  | makeRoot (releaseId : String)
  | nextLinkExists (releaseId : String)
  | unlinkNextLink (releaseId : String)
  | symlink (releaseId : String)
  | replaceCurrent (releaseId : String)
  | syncRoot (releaseId : String)
  | restartUnits (units : List String)
  | health
  | sleep
  | makeReceiptDirectory
  | writeNextReceipt (receipt : Receipt)
  | chmodNextReceipt
  | replaceReceipt
  | syncReceiptDirectory
  deriving DecidableEq

abbrev Answer : Call → Type
  | .databaseRevision _ => String
  | .readManifest _ => ReleaseManifest
  | .readCurrent => CurrentLink
  | .activeUnits => List String
  | .nextLinkExists _ | .health => Bool
  | _ => Unit

inductive Effect (host : DeploymentHost) (st : Deployment) :
    (req : Call) → Except DeployError (Answer req) → Deployment → Prop
  | verify (releaseId : String) :
      Effect host st (.verify releaseId) (.ok ()) { st with verified := releaseId :: st.verified }
  | databaseRevision (releaseId : String) :
      Effect host st (.databaseRevision releaseId) (.ok host.databaseRevision) st
  | manifest {releaseId : String} {manifest : ReleaseManifest}
      (readable : host.manifests releaseId = some manifest) :
      Effect host st (.readManifest releaseId) (.ok manifest) st
  | noManifest {releaseId : String} (unreadable : host.manifests releaseId = none) :
      Effect host st (.readManifest releaseId)
        (.error (.deploymentError "invalid_release_manifest")) st
  | readCurrent : Effect host st .readCurrent (.ok st.current) st
  | activeUnits (units : List String) :
      Effect host st .activeUnits (.ok units) { st with active := some units }
  | makeRoot (releaseId : String) : Effect host st (.makeRoot releaseId) (.ok ()) st
  | nextLinkExists (releaseId : String) :
      Effect host st (.nextLinkExists releaseId) (.ok st.nextLink.isSome) st
  | unlinkNextLink (releaseId : String) (present : st.nextLink.isSome = true) :
      Effect host st (.unlinkNextLink releaseId) (.ok ()) { st with nextLink := none }
  | nothingToUnlink (releaseId : String) (missing : st.nextLink = none) :
      Effect host st (.unlinkNextLink releaseId) (.error .other) st
  | symlink (releaseId : String) (missing : st.nextLink = none) :
      Effect host st (.symlink releaseId) (.ok ()) { st with nextLink := some releaseId }
  | symlinkExists (releaseId : String) (present : st.nextLink.isSome = true) :
      Effect host st (.symlink releaseId) (.error .other) st
  | replaceCurrent (releaseId : String) {target : String} (present : st.nextLink = some target) :
      Effect host st (.replaceCurrent releaseId) (.ok ())
        { st with current := .release target, nextLink := none }
  | nothingToReplace (releaseId : String) (missing : st.nextLink = none) :
      Effect host st (.replaceCurrent releaseId) (.error .other) st
  | syncRoot (releaseId : String) : Effect host st (.syncRoot releaseId) (.ok ()) st
  | restartUnits (units : List String) :
      Effect host st (.restartUnits units) (.ok ())
        { st with restarted := some units, healthy := none }
  | health (healthy : Bool) :
      Effect host st .health (.ok healthy) { st with healthy := some healthy }
  | sleep : Effect host st .sleep (.ok ()) st
  | makeReceiptDirectory : Effect host st .makeReceiptDirectory (.ok ()) st
  | writeNextReceipt (receipt : Receipt) :
      Effect host st (.writeNextReceipt receipt) (.ok ()) { st with nextReceipt := some receipt }
  | chmodNextReceipt : Effect host st .chmodNextReceipt (.ok ()) st
  | replaceReceipt {receipt : Receipt} (present : st.nextReceipt = some receipt) :
      Effect host st .replaceReceipt (.ok ())
        { st with receipt := some receipt, nextReceipt := none }
  | noReceiptToReplace (missing : st.nextReceipt = none) :
      Effect host st .replaceReceipt (.error .other) st
  | syncReceiptDirectory : Effect host st .syncReceiptDirectory (.ok ()) st

def tools (host : DeploymentHost) : Tools Call Answer DeployError Deployment where
  effect := Effect host
  lost _ _ := True

abbrev DeployProg := Prog Call Answer DeployError

abbrev attempt (req : Call) : DeployProg (Answer req) := ask req

def deploymentError {Result : Type} (code : String) : DeployProg Result :=
  raise (.deploymentError code)

/-- `_RELEASE_ID.fullmatch`. -/
def isReleaseId (value : String) : Bool :=
  let isAlphanumeric : Char → Bool := fun char =>
    ('0' ≤ char && char ≤ '9') || ('A' ≤ char && char ≤ 'Z') ||
      ('a' ≤ char && char ≤ 'z')
  match value.toList with
  | [] => false
  | first :: rest => isAlphanumeric first && decide (rest.length ≤ 127) &&
      rest.all fun char => isAlphanumeric char || ['.', '_', '-'].contains char

def restartableApplicationUnits : List String :=
  ["rtsp-proxy-auth.service", "rtsp-proxy-node-runtime.service", "rtsp-proxy-node-runtime.socket",
    "rtsp-proxy-node-metrics.service", "rtsp-proxy-node-metrics.socket",
    "rtsp-proxy-probe-broker.socket", "rtsp-proxy-web.service", "rtsp-proxy@reconciler.service",
    "rtsp-proxy@probe.service", "rtsp-proxy-collector.service", "rtsp-proxy-notifier.service"]

section Programs

variable (host : DeploymentHost)

def revisionNumber (value : String) : Except DeployError Nat :=
  let digits := value.toList.take 4
  let isName : Char → Bool := fun char =>
    ('0' ≤ char && char ≤ '9') || ('a' ≤ char && char ≤ 'z') || char = '_'
  match digits.mapM host.decimal, value.toList.drop 4 with
  | some values, '_' :: first :: rest =>
    if (first :: rest).all isName = true then
      .ok (values.foldl (fun number digit => 10 * number + digit) 0)
    else .error (.deploymentError "invalid_database_revision")
  | _, _ => .error (.deploymentError "invalid_database_revision")

def nestedString (value : Option String) : Except DeployError String :=
  match value with
  | some value => .ok value
  | none => .error (.deploymentError "invalid_release_manifest")

def schemaCompatible (manifest : ReleaseManifest) (revision : String) : Except DeployError Bool := do
  let current ← revisionNumber host revision
  let minimum ← revisionNumber host (← nestedString manifest.minimum)
  let maximum ← revisionNumber host (← nestedString manifest.maximum)
  return decide (minimum ≤ current ∧ current ≤ maximum)

def currentRelease : DeployProg (Option String) :=
  attempt .readCurrent >>= fun link =>
    match link with
    | .absent => pure none
    | .unsafeTarget => deploymentError "unsafe_current_release_link"
    | .release releaseId =>
      if isReleaseId releaseId = true then pure (some releaseId)
      else deploymentError "unsafe_current_release_link"

def switch (releaseId : String) : DeployProg Unit :=
  attempt (.makeRoot releaseId) >>= fun _ =>
  attempt (.nextLinkExists releaseId) >>= fun present =>
  (if present = true then attempt (.unlinkNextLink releaseId) else pure ()) >>= fun _ =>
  attempt (.symlink releaseId) >>= fun _ =>
  attempt (.replaceCurrent releaseId) >>= fun _ =>
  attempt (.syncRoot releaseId)

/-- `_await_health`, with the attempts that are left. -/
def awaitHealth : Nat → DeployProg Bool
  | 0 => pure false
  | attempts + 1 =>
    attempt .health >>= fun healthy =>
      if healthy = true then pure true
      else if attempts = 0 then pure false
      else attempt .sleep >>= fun _ => awaitHealth attempts

def healthAttempts : Nat := 30

def writeReceipt (receipt : Receipt) : DeployProg Unit :=
  attempt .makeReceiptDirectory >>= fun _ =>
  attempt (.writeNextReceipt receipt) >>= fun _ =>
  attempt .chmodNextReceipt >>= fun _ =>
  attempt .replaceReceipt >>= fun _ =>
  attempt .syncReceiptDirectory

/-- The restart of the units under the new release and the wait for their health. -/
def restartAndWait (units : List String) : DeployProg Unit :=
  attempt (.restartUnits units) >>= fun _ =>
    if units = [] then pure ()
    else awaitHealth healthAttempts >>= fun healthy =>
      if healthy = true then pure () else deploymentError "activation_health_check_failed"

/-- The handler of a failed restart: back to the previous release, if it fits the schema. -/
def rollBack (prev : Option String) (revision : String) (units : List String)
    (error : DeployError) : DeployProg Unit :=
  match prev with
  | none => raise error
  | some prev =>
    attempt (.readManifest prev) >>= fun manifest =>
    Prog.done (schemaCompatible host manifest revision) >>= fun fits =>
      if fits = true then
        switch prev >>= fun _ =>
        attempt (.restartUnits units) >>= fun _ =>
          deploymentError "activation_health_check_failed_rolled_back"
      else raise error

def activate (releaseId : String) : DeployProg Unit :=
  if isReleaseId releaseId = false then deploymentError "invalid_release_id" else
  attempt (.verify releaseId) >>= fun _ =>
  attempt (.databaseRevision releaseId) >>= fun revision =>
  attempt (.readManifest releaseId) >>= fun manifest =>
  Prog.done (schemaCompatible host manifest revision) >>= fun fits =>
  if fits = false then deploymentError "database_schema_incompatible_with_release" else
  currentRelease >>= fun prev =>
  attempt .activeUnits >>= fun active =>
  switch releaseId >>= fun _ =>
  (restartAndWait (active.filter (restartableApplicationUnits.contains ·))).handle
    (rollBack host prev revision
      (active.filter (restartableApplicationUnits.contains ·))) >>= fun _ =>
  writeReceipt ⟨releaseId, prev, revision⟩

end Programs

end RtspProxy.Deploy
