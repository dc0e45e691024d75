import RtspProxy.Nodes.Registration
import RtspProxy.Reconcile.World

/-!
# `CameraMutationControl`

Update, disable and delete of `reconcile.py`, which close the path of the camera
before they commit and open it again when they fail. The paths of the nodes are
exact tables. What each other call answers or raises is an input, one field of
`Surroundings` for each place that calls it; a write may also raise, before or
after it acts. `split_source_credentials` is a parameter.
-/

namespace RtspProxy.Reconcile.CameraMutationControl

open Nodes Nodes.CameraControl Lib

inductive CameraMutationOperation
  | updateSource
  | disable
  | delete
  deriving DecidableEq

def CameraMutationOperation.value : CameraMutationOperation → String
  | .updateSource => "update_source"
  | .disable => "disable"
  | .delete => "delete"

inductive MutationError
  | node (err : NodeError)
  | reconcileRetry (code : String)
  | cameraReaderInvariantViolation (code : String)
  | cameraDisruptionConfirmationRequired (code : String)
  /-- Raised by a call; a `BaseException` need not be an `Exception`. -/
  | raised (isException : Bool)

def MutationError.isException : MutationError → Bool
  | .raised isException => isException
  | _ => true

inductive WriteEnd
  | returns
  | raises (err : MutationError) (acted : Bool)

def WriteEnd.acted : WriteEnd → Bool
  | .returns => true
  | .raises _ acted => acted

/-- What `verify_camera_mutation` is given. -/
structure VerifyArguments where
  token : String
  cameraId : UUID
  operation : CameraMutationOperation
  desiredRevision : Int
  disconnectReaders : Int
  mutationSha256 : String

inductive CommitEnd
  | returns (camera : CameraPlacement)
  | raises (err : MutationError) (committed : Bool)

structure Surroundings where
  /-- `get_camera` before the fence, and under the guard. -/
  camera : Except MutationError (Option CameraPlacement)
  current : Except MutationError (Option CameraPlacement)
  /-- `_admit_probe_endpoint`, where `probe_endpoint_requires_readmission` asks for it. -/
  probeEndpoint : Except MutationError (Option ProbeEndpointIdentity)
  enterGuard : Except MutationError Unit
  exitGuard : Except MutationError Unit
  node : Except MutationError (Option MediaNode)
  client : Except MutationError Unit
  quiesce : WriteEnd
  /-- `get_path`, which reads the table when it does not raise. -/
  readBack : Except MutationError Unit
  status : Except MutationError (Option (Bool × Int))
  verified : VerifyArguments → Except MutationError Bool
  reopen : WriteEnd
  commit : StoreOperation → CommitEnd

/-- The paths of the nodes, and whether the store has committed. -/
structure Site where
  media : UUID → PublicId → Option MediaPathConfig
  committed : Bool

def Site.put (site : Site) (nodeId : UUID) (path : MediaPathConfig) : Site :=
  { site with
    media := fun otherNode other =>
      if otherNode = nodeId ∧ other = path.name then some path else site.media otherNode other }

def putPath (how : WriteEnd) (nodeId : UUID) (path : MediaPathConfig) (site : Site) :
    Except MutationError Unit × Site :=
  match how with
  | .returns => (.ok (), site.put nodeId path)
  | .raises err true => (.error err, site.put nodeId path)
  | .raises err false => (.error err, site)

def quiescedPath (cur : CameraPlacement) : MediaPathConfig :=
  { name := cur.publicId, sourceUrl := cur.sourceUrl, maxReaders := -1 }

def openPath (cur : CameraPlacement) : MediaPathConfig :=
  { name := cur.publicId, sourceUrl := cur.sourceUrl }

variable (around : Surroundings)

def reopenAndRaise (cur : CameraPlacement) (err : MutationError) (site : Site) :
    Except MutationError CameraPlacement × Site :=
  match putPath around.reopen cur.nodeId (openPath cur) site with
  | (.error raised, post) => (.error raised, post)
  | (.ok (), post) => (.error err, post)

def commit (op : StoreOperation) (site : Site) :
    Except MutationError CameraPlacement × Site :=
  match around.commit op with
  | .returns camera => (.ok camera, { site with committed := true })
  | .raises err committed => (.error err, { site with committed := site.committed || committed })

section Fence

variable [PythonText]

def mutationSha256 (op : CameraMutationOperation) (name sourceUrl : Option String) : String :=
  let text : Option String → Json := fun value => (value.map Json.str).getD .null
  PythonText.sha256Hexdigest (String.ofList (Json.dumps true (Json.sorted
    [("name", text name), ("operation", .str op.value), ("source_url", text sourceUrl)])))

/-- What a mutation asks of the fence. -/
structure FenceArguments where
  camera : CameraPlacement
  operation : CameraMutationOperation
  name : Option String
  sourceUrl : Option String
  confirmationToken : Option String

omit [PythonText] in
def requireCamera (found : Except MutationError (Option CameraPlacement))
    (expRev : Option Int) : Except MutationError CameraPlacement := do
  match ← found with
  | none => throw (.node (.cameraNotFound "camera_not_found"))
  | some camera =>
    match expRev with
    | none => return camera
    | some want =>
      if camera.desiredRevision ≠ want then
        throw (.node (.cameraRevisionConflict want camera.desiredRevision))
      else return camera

omit [PythonText] in
/-- `_fence` under the guard, up to its first write. -/
def located (camera : CameraPlacement) : Except MutationError CameraPlacement := do
  let cur ← requireCamera around.current none
  if cur.desiredRevision ≠ camera.desiredRevision then
    throw (.node (.cameraRevisionConflict camera.desiredRevision cur.desiredRevision))
  match ← around.node with
  | none => throw (.reconcileRetry "camera_runtime_node_missing")
  | some _ =>
    around.client
    return cur

/-- What is found behind the quiesced path: whether a confirmation is missing or invalid. -/
def inspected (args : FenceArguments) (cur : CameraPlacement)
    (observed : Option MediaPathConfig) : Except MutationError Bool := do
  around.readBack
  if observed ≠ some (quiescedPath cur) then
    throw (.reconcileRetry "camera_mutation_quiesce_unverified")
  let status ← around.status
  let readers := match status with
    | none => 0
    | some (_, readers) => readers
  if 1 < readers then throw (.cameraReaderInvariantViolation "camera_reader_limit_violated")
  match args.confirmationToken with
  | none => return decide (readers = 1)
  | some token =>
    let valid ← around.verified
      { token, cameraId := cur.id, operation := args.operation
        desiredRevision := cur.desiredRevision, disconnectReaders := 1
        mutationSha256 :=
          mutationSha256 args.operation args.name args.sourceUrl }
    return !valid

/-- `_fence` from its first write on, with the store call it fences. -/
def quiesced (args : FenceArguments) (op : StoreOperation) (cur : CameraPlacement)
    (site : Site) : Except MutationError CameraPlacement × Site :=
  match putPath around.quiesce cur.nodeId (quiescedPath cur) site with
  | (.error err, post) => (.error err, post)
  | (.ok (), post) =>
    match inspected around args cur (post.media cur.nodeId cur.publicId) with
    | .error err => (.error err, post)
    | .ok true =>
      reopenAndRaise around cur
        (.cameraDisruptionConfirmationRequired "camera_disruption_confirmation_required") post
    | .ok false =>
      match commit around op post with
      | (.ok camera, committed) => (.ok camera, committed)
      | (.error err, left) =>
        if err.isException then reopenAndRaise around cur err left
        else (.error err, left)

/-- `with self._fence(...): return operation`. -/
def fence (args : FenceArguments) (op : StoreOperation) (site : Site) :
    Except MutationError CameraPlacement × Site :=
  match around.enterGuard with
  | .error err => (.error err, site)
  | .ok () =>
    let (out, post) := match located around args.camera with
      | .error err => (.error err, site)
      | .ok cur => quiesced around args op cur site
    match around.exitGuard with
    | .error err => (.error err, post)
    | .ok () => (out, post)

end Fence

section Mutations

variable [PythonText] (splitSourceCredentials : String →
  Except MutationError (Option CameraSourceCredentials))

structure UpdateArguments where
  cameraId : UUID
  name : String
  sourceUrl : String
  sourceCredentials : Option CameraSourceCredentials
  expectedRevision : Option Int
  confirmationToken : Option String

def orNodeError {Value : Type} (computed : Except NodeError Value) : Except MutationError Value :=
  computed.mapError .node

def effectiveSourceUrl (camera : CameraPlacement) (sourceUrl : String)
    (sourceCredentials : Option CameraSourceCredentials) : Except MutationError String := do
  let validatedSourceUrl ← orNodeError (validateCameraSourceUrl sourceUrl false)
  let currentCredentials ← splitSourceCredentials camera.sourceUrl
  match sourceCredentials.or currentCredentials with
  | none => return validatedSourceUrl
  | some credentials => orNodeError (attachSourceCredentials validatedSourceUrl credentials)

/-- What `update` does before it touches anything: the fence, if any, and the store call. -/
def prepareUpdate (args : UpdateArguments) :
    Except MutationError (Option FenceArguments × StoreOperation) := do
  let name ← orNodeError (validateCameraName args.name)
  let camera ← requireCamera around.camera args.expectedRevision
  let sourceUrl ← effectiveSourceUrl splitSourceCredentials camera args.sourceUrl
    args.sourceCredentials
  let probeEndpoint ← around.probeEndpoint
  let op := StoreOperation.updateCamera args.cameraId name sourceUrl
    (some camera.desiredRevision) probeEndpoint
  if camera.sourceUrl = sourceUrl ∧ args.confirmationToken = none then
    return (none, op)
  else
    return (some { camera, operation := .updateSource, name := some name
                   sourceUrl := some sourceUrl
                   confirmationToken := args.confirmationToken }, op)

def update (args : UpdateArguments) (site : Site) :
    Except MutationError CameraPlacement × Site :=
  match prepareUpdate around splitSourceCredentials args with
  | .error err => (.error err, site)
  | .ok (none, op) => commit around op site
  | .ok (some fenced, op) => fence around fenced op site

def disable (cameraId : UUID) (expRev : Option Int) (confirmationToken : Option String)
    (site : Site) : Except MutationError CameraPlacement × Site :=
  match requireCamera around.camera expRev with
  | .error err => (.error err, site)
  | .ok camera =>
    if camera.state = .disabled then (.ok camera, site)
    else
      fence around
        { camera, operation := .disable, name := none, sourceUrl := none, confirmationToken }
        (.setCameraEnabled cameraId false (some camera.desiredRevision)) site

def delete (cameraId : UUID) (expRev : Option Int) (confirmationToken : Option String)
    (site : Site) : Except MutationError CameraPlacement × Site :=
  match requireCamera around.camera expRev with
  | .error err => (.error err, site)
  | .ok camera =>
    fence around
      { camera, operation := .delete, name := none, sourceUrl := none, confirmationToken }
      (.requestCameraDelete cameraId (some camera.desiredRevision)) site

inductive Mutation
  | update (args : UpdateArguments)
  | disable (cameraId : UUID) (expectedRevision : Option Int) (confirmationToken : Option String)
  | delete (cameraId : UUID) (expectedRevision : Option Int) (confirmationToken : Option String)

def Mutation.run : Mutation → Site → Except MutationError CameraPlacement × Site
  | .update args => CameraMutationControl.update around splitSourceCredentials args
  | .disable cameraId expRev confirmationToken =>
    CameraMutationControl.disable around cameraId expRev confirmationToken
  | .delete cameraId expRev confirmationToken =>
    CameraMutationControl.delete around cameraId expRev confirmationToken

/-- The fence the mutation gets to, with the store call behind it. -/
def Mutation.fenced : Mutation → Option (FenceArguments × StoreOperation)
  | .update args =>
    match prepareUpdate around splitSourceCredentials args with
    | .ok (some fenced, op) => some (fenced, op)
    | _ => none
  | .disable cameraId expRev confirmationToken =>
    match requireCamera around.camera expRev with
    | .error _ => none
    | .ok camera =>
      if camera.state = .disabled then none
      else some
        ({ camera, operation := .disable, name := none, sourceUrl := none, confirmationToken },
          .setCameraEnabled cameraId false (some camera.desiredRevision))
  | .delete cameraId expRev confirmationToken =>
    match requireCamera around.camera expRev with
    | .error _ => none
    | .ok camera => some
        ({ camera, operation := .delete, name := none, sourceUrl := none, confirmationToken },
          .requestCameraDelete cameraId (some camera.desiredRevision))

end Mutations

section Paths

variable [PythonText] {around : Surroundings} {args : FenceArguments}
  {op : StoreOperation} {cur : CameraPlacement} {site post : Site}

/-- After its failure the mutation opens the path: the confirmation was refused, or the store call
raised an `Exception`. -/
def Reopens (around : Surroundings) (args : FenceArguments) (op : StoreOperation)
    (cur : CameraPlacement) : Prop :=
  around.quiesce = .returns ∧ around.reopen.acted = true ∧
    (inspected around args cur (some (quiescedPath cur)) = .ok true ∨
      inspected around args cur (some (quiescedPath cur)) = .ok false ∧
        ∃ err committed, around.commit op = .raises err committed ∧ err.isException = true)

/-- Where the path is quiesced at all, it was before just what the failure leaves: open if it is
opened again, and quiesced if it is not. -/
def KeepsPaths (around : Surroundings) (args : FenceArguments) (op : StoreOperation)
    (media : UUID → PublicId → Option MediaPathConfig) : Prop :=
  ∀ cur, around.enterGuard = .ok () → located around args.camera = .ok cur →
    around.quiesce.acted = true → (Reopens around args op cur →
        media cur.nodeId cur.publicId = some (openPath cur)) ∧
      (¬ Reopens around args op cur →
        media cur.nodeId cur.publicId = some (quiescedPath cur))

omit [PythonText] in
theorem put_media_self (site : Site) (nodeId : UUID) (path : MediaPathConfig) :
    (site.put nodeId path).media nodeId path.name = some path := if_pos ⟨rfl, rfl⟩

omit [PythonText] in
theorem put_media_iff {nodeId : UUID} {path : MediaPathConfig} :
    (site.put nodeId path).media = site.media ↔ site.media nodeId path.name = some path := by
  constructor
  · intro same
    rw [← same]
    exact put_media_self site nodeId path
  · intro present
    funext otherNode other
    by_cases isPath : otherNode = nodeId ∧ other = path.name
    · refine (if_pos isPath).trans ?_
      rw [isPath.1, isPath.2, present]
    · exact if_neg isPath

omit [PythonText] in
theorem put_put {nodeId : UUID} {first second : MediaPathConfig} (same : first.name = second.name) :
    ((site.put nodeId first).put nodeId second) = site.put nodeId second := by
  unfold Site.put
  refine congrArg (fun media => ({ site with media := media } : Site)) ?_
  funext otherNode other
  by_cases isPath : otherNode = nodeId ∧ other = second.name
  · rw [if_pos isPath, if_pos isPath]
  · rw [if_neg isPath, if_neg isPath]
    refine if_neg ?_
    rw [same]
    exact isPath

omit [PythonText] in
theorem put_path_acted {how : WriteEnd} {nodeId : UUID} {path : MediaPathConfig} :
    (putPath how nodeId path site).2 = if how.acted = true then site.put nodeId path else site := by
  cases how with
  | returns => rfl
  | raises err acted =>
    cases acted with
    | true => rfl
    | false => rfl

omit [PythonText] in
theorem reopen_and_raise_site {err : MutationError} :
    (reopenAndRaise around cur err (site.put cur.nodeId (quiescedPath cur))).2 =
      if around.reopen.acted = true then site.put cur.nodeId (openPath cur)
      else site.put cur.nodeId (quiescedPath cur) := by
  have written := @put_path_acted (site.put cur.nodeId (quiescedPath cur)) around.reopen
    cur.nodeId (openPath cur)
  rw [@put_put site _ (quiescedPath cur) (openPath cur) rfl] at written
  unfold reopenAndRaise
  split
  all_goals
    rename_i wrote
    rw [wrote] at written
    exact written

omit [PythonText] in
/-- What a mutation that has not committed leaves on the node. -/
def leftMedia (site : Site) (cur : CameraPlacement) (acted reopened : Prop) [Decidable acted]
    [Decidable reopened] : UUID → PublicId → Option MediaPathConfig :=
  if acted then
    if reopened then (site.put cur.nodeId (openPath cur)).media
    else (site.put cur.nodeId (quiescedPath cur)).media
  else site.media

omit [PythonText] in
theorem left_media_iff {acted reopened : Prop} [Decidable acted] [Decidable reopened] :
    leftMedia site cur acted reopened = site.media ↔
      (acted → (reopened → site.media cur.nodeId cur.publicId = some (openPath cur)) ∧
        (¬ reopened →
          site.media cur.nodeId cur.publicId = some (quiescedPath cur))) := by
  have isOpen := @put_media_iff site cur.nodeId (openPath cur)
  have isQuiesced := @put_media_iff site cur.nodeId (quiescedPath cur)
  unfold leftMedia
  split_ifs with isActed isReopened
  · rw [isOpen]
    exact ⟨fun present _ => ⟨fun _ => present, fun notReopened => absurd isReopened notReopened⟩,
      fun holds => (holds isActed).1 isReopened⟩
  · rw [isQuiesced]
    exact ⟨fun present _ => ⟨fun reopens => absurd reopens isReopened, fun _ => present⟩,
      fun holds => (holds isActed).2 isReopened⟩
  · exact ⟨fun _ acts => absurd acts isActed, fun _ => rfl⟩

variable {out : Except MutationError CameraPlacement}

omit [PythonText] in
theorem reopened_media {err : MutationError} {reopens : Prop} [Decidable reopens]
    (raised : reopenAndRaise around cur err (site.put cur.nodeId (quiescedPath cur)) =
      (out, post)) (isReopened : around.reopen.acted = true ↔ reopens) :
    post.media = if reopens then (site.put cur.nodeId (openPath cur)).media
      else (site.put cur.nodeId (quiescedPath cur)).media := by
  have left := @reopen_and_raise_site around cur site err
  rw [raised] at left
  dsimp only at left
  rw [left]
  by_cases acted : around.reopen.acted = true
  · rw [if_pos acted, if_pos (isReopened.mp acted)]
  · rw [if_neg acted, if_neg fun holds => acted (isReopened.mpr holds)]

open Classical in
theorem quiesced_media (ran : quiesced around args op cur site = (out, post))
    (uncommitted : post.committed = false) :
    post.media = leftMedia site cur (around.quiesce.acted = true)
      (Reopens around args op cur) := by
  unfold quiesced at ran
  unfold leftMedia
  cases quiesce : around.quiesce with
  | raises err acted =>
    have stays : ¬ Reopens around args op cur := by
      intro reopens
      have ret := reopens.1
      rw [quiesce] at ret
      cases ret
    rw [quiesce] at ran
    rw [if_neg stays]
    cases acted with
    | true =>
      cases ran
      rfl
    | false =>
      cases ran
      rfl
  | returns =>
    have observed : (site.put cur.nodeId (quiescedPath cur)).media cur.nodeId
        cur.publicId = some (quiescedPath cur) := put_media_self _ _ _
    rw [quiesce] at ran
    dsimp only [putPath] at ran
    rw [observed] at ran
    rw [if_pos (show WriteEnd.returns.acted = true from rfl)]
    cases verdict : inspected around args cur (some (quiescedPath cur)) with
    | error err =>
      rw [verdict] at ran
      have stays : ¬ Reopens around args op cur := by
        rintro ⟨_, _, refused | ⟨accepted, _⟩⟩
        · rw [verdict] at refused
          cases refused
        · rw [verdict] at accepted
          cases accepted
      rw [if_neg stays]
      cases ran
      rfl
    | ok refused =>
      rw [verdict] at ran
      cases refused with
      | true =>
        refine reopened_media ran ⟨fun acted => ⟨quiesce, acted, .inl verdict⟩, ?_⟩
        exact fun reopens => reopens.2.1
      | false =>
        cases committing : around.commit op with
        | returns camera =>
          unfold commit at ran
          rw [committing] at ran
          cases ran
          cases uncommitted
        | raises err committed =>
          unfold commit at ran
          rw [committing] at ran
          dsimp only at ran
          cases isException : err.isException with
          | true =>
            rw [if_pos isException] at ran
            have isReopened : around.reopen.acted = true ↔ Reopens around args op cur :=
              ⟨fun acted => ⟨quiesce, acted,
                .inr ⟨verdict, err, committed, committing, isException⟩⟩,
                fun reopens => reopens.2.1⟩
            exact @reopened_media around cur
              { site with committed := site.committed || committed } post out err _ _
              ran isReopened
          | false =>
            rw [if_neg (by rw [isException]; exact Bool.false_ne_true)] at ran
            have stays : ¬ Reopens around args op cur := by
              rintro ⟨_, _, refused | ⟨_, other, _, committed, caught⟩⟩
              · rw [verdict] at refused
                cases refused
              · rw [committing] at committed
                cases committed
                rw [isException] at caught
                cases caught
            rw [if_neg stays]
            cases ran
            rfl

omit [PythonText] in
theorem commit_media (ran : commit around op site = (out, post)) :
    post.media = site.media := by
  unfold commit at ran
  split at ran
  · cases ran
    rfl
  · cases ran
    rfl

theorem fence_keeps_iff (ran : fence around args op site = (out, post))
    (uncommitted : post.committed = false) :
    post.media = site.media ↔ KeepsPaths around args op site.media := by
  unfold fence at ran
  cases entered : around.enterGuard with
  | error err =>
    rw [entered] at ran
    cases ran
    refine ⟨fun _ cur enters => ?_, fun _ => rfl⟩
    rw [entered] at enters
    cases enters
  | ok _ =>
    rw [entered] at ran
    cases found : located around args.camera with
    | error err =>
      rw [found] at ran
      have same : post = site := by
        cases left : around.exitGuard <;> rw [left] at ran <;> cases ran <;> rfl
      rw [same]
      refine ⟨fun _ cur _ isFound => ?_, fun _ => rfl⟩
      rw [found] at isFound
      cases isFound
    | ok cur =>
      rw [found] at ran
      dsimp only at ran
      have left : ∃ inner, quiesced around args op cur site = (inner, post) := by
        cases ends : quiesced around args op cur site with
        | mk inner last =>
          rw [ends] at ran
          cases exits : around.exitGuard <;> rw [exits] at ran <;> cases ran <;> exact ⟨inner, rfl⟩
      obtain ⟨inner, ends⟩ := left
      classical
      rw [quiesced_media ends uncommitted, left_media_iff]
      constructor
      · intro holds other _ isFound acted
        rw [found] at isFound
        obtain rfl := Except.ok.inj isFound
        exact holds acted
      · exact fun holds acted => holds cur entered found acted

variable {splitSourceCredentials : String → Except MutationError (Option CameraSourceCredentials)}

/-- A mutation that raises before its commit leaves the paths of every node as they were exactly
when the path it quiesced, if it got so far, was what its failure leaves behind: open where it opens
the path again, and quiesced where it does not. -/
theorem mutation_keeps_paths_iff {mutation : Mutation} {err : MutationError}
    (raised : mutation.run around splitSourceCredentials site = (.error err, post))
    (uncommitted : post.committed = false) :
    post.media = site.media ↔ ∀ args op,
        mutation.fenced around splitSourceCredentials = some (args, op) →
          KeepsPaths around args op site.media := by
  have unfenced (none : mutation.fenced around splitSourceCredentials = none)
      (same : post.media = site.media) :
      post.media = site.media ↔ ∀ args op,
        mutation.fenced around splitSourceCredentials = some (args, op) →
          KeepsPaths around args op site.media := by
    refine ⟨fun _ args op isFenced => ?_, fun _ => same⟩
    rw [none] at isFenced
    cases isFenced
  have behind {args : FenceArguments} {op : StoreOperation}
      (isFenced : mutation.fenced around splitSourceCredentials = some (args, op))
      (ran : fence around args op site = (.error err, post)) :
      post.media = site.media ↔ ∀ args op,
        mutation.fenced around splitSourceCredentials = some (args, op) →
          KeepsPaths around args op site.media := by
    rw [fence_keeps_iff ran uncommitted]
    constructor
    · intro holds other otherOperation isOther
      rw [isFenced] at isOther
      cases isOther
      exact holds
    · exact fun holds => holds args op isFenced
  cases mutation with
  | update updating =>
    dsimp only [Mutation.run, update] at raised
    split at raised
    · rename_i prepared
      cases raised
      exact unfenced (by dsimp only [Mutation.fenced]; rw [prepared]) rfl
    · rename_i op prepared
      exact unfenced (by dsimp only [Mutation.fenced]; rw [prepared]) (commit_media raised)
    · rename_i fenced op prepared
      exact behind (by dsimp only [Mutation.fenced]; rw [prepared]) raised
  | disable cameraId expRev confirmationToken =>
    dsimp only [Mutation.run, disable] at raised
    split at raised
    · rename_i refused
      cases raised
      exact unfenced (by dsimp only [Mutation.fenced]; rw [refused]) rfl
    · rename_i camera required
      split at raised
      · cases raised
      · rename_i notDisabled
        exact behind (by dsimp only [Mutation.fenced]; rw [required]; exact if_neg notDisabled)
          raised
  | delete cameraId expRev confirmationToken =>
    dsimp only [Mutation.run, delete] at raised
    split at raised
    · rename_i refused
      cases raised
      exact unfenced (by dsimp only [Mutation.fenced]; rw [refused]) rfl
    · rename_i camera required
      exact behind (by dsimp only [Mutation.fenced]; rw [required]) raised

end Paths

section Sample

local instance : PythonText := plainText

def sampleCamera (state : CameraState) : CameraPlacement where
  id := 10
  name := "gate"
  sourceUrl := "rtsp://camera/live"
  publicId := ⟨"caaaaaaaaaaaaaaaaaaaaaaaaa", by decide⟩
  nodeId := 1
  nodePort := 8554
  placementMode := .manual
  state := state

def sampleConflict : MutationError :=
  .node (.cameraLifecycleConflict "node_port_change_in_progress")

/-- Every call returns but the store call, which raises before it commits. -/
def sampleAround (state : CameraState) : Surroundings where
  camera := .ok (some (sampleCamera state))
  current := .ok (some (sampleCamera state))
  probeEndpoint := .ok none
  enterGuard := .ok ()
  exitGuard := .ok ()
  node := .ok sampleNodes.head?
  client := .ok ()
  quiesce := .returns
  readBack := .ok ()
  status := .ok none
  verified := fun _ => .ok true
  reopen := .returns
  commit := fun _ => .raises sampleConflict false

def emptySite : Site := ⟨fun _ _ => none, false⟩

/-- The site with the open path of the camera on its node. -/
def servingSite : Site := emptySite.put 1 (openPath (sampleCamera .enabled))

def sampleSplit (_ : String) : Except MutationError (Option CameraSourceCredentials) := .ok none

/-- A disabled camera has no path. Its delete raises before the commit and leaves an open one. -/
theorem failed_delete_opens_disabled :
    (Mutation.run (sampleAround .disabled) sampleSplit (.delete 10 none none) emptySite).1 =
        .error sampleConflict ∧
      (Mutation.run (sampleAround .disabled) sampleSplit (.delete 10 none none)
        emptySite).2.committed = false ∧
      emptySite.media 1 (sampleCamera .disabled).publicId = none ∧
      (Mutation.run (sampleAround .disabled) sampleSplit (.delete 10 none none) emptySite).2.media 1
        (sampleCamera .disabled).publicId = some (openPath (sampleCamera .disabled)) :=
  ⟨rfl, rfl, rfl, rfl⟩

/-- An enabled camera is open again after its delete has failed. -/
theorem failed_delete_restores_enabled :
    (Mutation.run (sampleAround .enabled) sampleSplit (.delete 10 none none) servingSite).2.media =
      servingSite.media := by
  refine (@mutation_keeps_paths_iff _ (sampleAround .enabled) servingSite _ sampleSplit
    (.delete 10 none none) sampleConflict rfl rfl).mpr ?_
  rintro args op ⟨rfl, rfl⟩ cur _ ⟨rfl⟩ _
  refine ⟨fun _ => rfl, fun stays => ?_⟩
  exact absurd ⟨rfl, rfl, .inr ⟨rfl, sampleConflict, false, rfl, rfl⟩⟩ stays

end Sample

end RtspProxy.Reconcile.CameraMutationControl
