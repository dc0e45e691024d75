import RtspProxy.Nodes.Records
import RtspProxy.Lib.Raising
import Mathlib.Data.Nat.Digits.Defs

/-!
# Checks shared by the node store and its controls

The module-level functions of `nodes.py` that decide whether a name, a source
URL, a runtime observation, a command fence or a node is acceptable, and the
bounded port selection. What they use of the Python standard library and of
its Unicode tables enters through `PythonText`; nothing below depends on how
these behave.
-/

namespace RtspProxy.Nodes

open Lib.Raising List

/-- The result of `urllib.parse.urlsplit` as `validate_camera_source_url` reads it. -/
structure SplitResult where
  scheme : String
  username : Option String
  password : Option String
  hostname : Option String
  port : Option Int
  path : String
  query : String
  fragment : String

/-- Standard-library text functions. `urlsplit` is `none` where the call, or
reading `.port` of its result, raises `ValueError`; `urlunsplit parts netloc` puts the
parts together around an authority, without a fragment. -/
class PythonText where
  sha256Hexdigest : String → String
  urlsplit : String → Option SplitResult
  urlunsplit : SplitResult → String → String
  /-- `quote(text, safe='')`. -/
  quote : String → String
  lower : String → String
  isspace : String → Bool
  isControlCategory : Char → Bool

/-- The text functions on the inputs of the worked runs: one camera URL, ASCII
names and the digest of the empty placement list. -/
@[reducible] def plainText : PythonText where
  sha256Hexdigest text :=
    if text = "" then "e3b0c44298fc1c149afbf4c8996fb92427ae41e4649b934ca495991b7852b855" else text
  urlsplit url :=
    if url = "rtsp://camera/live" then
      some { scheme := "rtsp", username := none, password := none, hostname := some "camera"
             port := none, path := "/live", query := "", fragment := "" }
    else none
  urlunsplit parts netloc := parts.scheme ++ "://" ++ netloc ++ parts.path
  quote text := text
  lower text := String.ofList (text.toList.map Char.toLower)
  isspace text := text ≠ "" && text.toList.all Char.isWhitespace
  isControlCategory c := c.toNat < 32 || c.toNat = 127

section Text

variable [PythonText]

def maxCameraSourceUrlBytes : Nat := 8192

def maxCameraNameLength : Nat := 128

def validateCameraSourceUrl (val : String) (allowCredentials : Bool) :
    Except NodeError String := do
  raiseIf (val.utf8ByteSize > maxCameraSourceUrlBytes)
    (.invalidCameraSource "camera_source_url_too_long")
  let parsed ← orRaise (PythonText.urlsplit val)
    (.invalidCameraSource "camera_source_url_invalid")
  raiseIf (PythonText.lower parsed.scheme ≠ "rtsp" ∨ parsed.hostname = none ∨
      parsed.fragment ≠ "" ∨ parsed.path.toList.head? ≠ some '/' ∨ parsed.port = some 0)
    (.invalidCameraSource "camera_source_url_invalid")
  raiseIf (((parsed.username ≠ none ∨ parsed.password ≠ none) ∧ allowCredentials = false) ∨
      parsed.query ≠ "")
    (.invalidCameraSource "camera_source_secret_reference_required")
  return val

def validateCameraName (val : String) : Except NodeError String := do
  raiseIf (val = "" ∨ val.toList.length > maxCameraNameLength ∨
      PythonText.isspace val = true ∨ val.toList.any PythonText.isControlCategory = true)
    (.invalidCameraName "camera_name_invalid")
  return val

/-- An endpoint admitted for probing is stored only for the URL it was admitted for. -/
def probeEndpointIdentity (sourceUrl : String) (endpoint : Option ProbeEndpointIdentity) :
    Except NodeError (Option ProbeEndpointIdentity) :=
  match endpoint with
  | none => return none
  | some identity => do
      raiseIf (identity.sourceUrlSha256 ≠ PythonText.sha256Hexdigest sourceUrl)
        (.invalidCameraSource "camera_source_endpoint_mismatch")
      return some identity

end Text

def hexDigit (val : Nat) : Char :=
  "0123456789abcdef".toList.getD (val % 16) '0'

/-- `count` hexadecimal digits, most significant first. -/
def hexDigits : Nat → Nat → List Char
  | 0, _ => []
  | count + 1, val => hexDigits count (val / 16) ++ [hexDigit val]

def UUID.hex (id : UUID) : String := String.ofList (hexDigits 32 id.toNat)

/-- `str(uuid)`: 32 hexadecimal digits grouped 8-4-4-4-12. -/
def UUID.str (id : UUID) : String :=
  let digits := hexDigits 32 id.toNat
  String.ofList (digits.take 8 ++ '-' :: (digits.drop 8).take 4 ++ '-' :: (digits.drop 12).take 4 ++
    '-' :: (digits.drop 16).take 4 ++ '-' :: digits.drop 20)

theorem hex_digit_injective {left right : Nat} (leftBound : left < 16) (rightBound : right < 16)
    (same : hexDigit left = hexDigit right) : left = right := by
  have table : ∀ left < 16, ∀ right < 16, hexDigit left = hexDigit right → left = right := by
    decide
  exact table left leftBound right rightBound same

theorem hex_digits_length (count val : Nat) : (hexDigits count val).length = count := by
  induction count generalizing val with
  | zero => rfl
  | succ count ih => simp [hexDigits, ih]

theorem hex_digits_injective {count left right : Nat} (leftBound : left < 16 ^ count)
    (rightBound : right < 16 ^ count) (same : hexDigits count left = hexDigits count right) :
    left = right := by
  induction count generalizing left right with
  | zero => omega
  | succ count ih =>
    simp only [hexDigits] at same
    have parts := append_inj same (by simp [hex_digits_length])
    rw [pow_succ] at leftBound rightBound
    have quotients : left / 16 = right / 16 := by
      apply ih _ _ parts.1
      · omega
      · omega
    have digits : hexDigit (left % 16) = hexDigit (right % 16) := by
      simpa [hexDigit] using parts.2
    have remainders := hex_digit_injective (Nat.mod_lt _ (by decide)) (Nat.mod_lt _ (by decide))
      digits
    omega

theorem UUID.str_length (id : UUID) : id.str.toList.length = 36 := by
  simp [UUID.str, hex_digits_length]

theorem UUID.str_injective {left right : UUID} (same : left.str = right.str) : left = right := by
  have digits : hexDigits 32 left.toNat = hexDigits 32 right.toNat := by
    have texts := congrArg String.toList same
    simp only [UUID.str, String.toList_ofList] at texts
    have leftLength := hex_digits_length 32 left.toNat
    have rightLength := hex_digits_length 32 right.toNat
    generalize hexDigits 32 left.toNat = leftDigits at texts leftLength
    generalize hexDigits 32 right.toNat = rightDigits at texts rightLength
    -- The five groups have fixed lengths, so each one is the same on both sides.
    have fifth := append_inj texts (by simp [leftLength, rightLength])
    have fourth := append_inj fifth.1 (by simp [leftLength, rightLength])
    have third := append_inj fourth.1 (by simp [leftLength, rightLength])
    have second := append_inj third.1 (by simp [leftLength, rightLength])
    have groups : ∀ digits : List Char, digits = digits.take 8 ++ ((digits.drop 8).take 4 ++
        ((digits.drop 12).take 4 ++ ((digits.drop 16).take 4 ++ digits.drop 20))) := by
      intro digits
      have afterSixteen : digits.drop 20 = (digits.drop 16).drop 4 := by simp
      have afterTwelve : digits.drop 16 = (digits.drop 12).drop 4 := by simp
      have afterEight : digits.drop 12 = (digits.drop 8).drop 4 := by simp
      rw [afterSixteen, take_append_drop, afterTwelve, take_append_drop, afterEight,
        take_append_drop, take_append_drop]
    rw [groups leftDigits, groups rightDigits, second.1, (cons.inj second.2).2,
      (cons.inj third.2).2, (cons.inj fourth.2).2, (cons.inj fifth.2).2]
  apply BitVec.eq_of_toNat_eq
  apply hex_digits_injective _ _ digits
  · exact left.isLt
  · exact right.isLt

section Fingerprint

variable [PythonText]

def cameraPlacementFingerprint (placements : List (UUID × Int)) : String :=
  let ordered := placements.mergeSort fun left right => left.1.int ≤ right.1.int
  PythonText.sha256Hexdigest
    ("\n".intercalate (ordered.map fun placement => placement.1.str ++ ":" ++ toString placement.2))

end Fingerprint

namespace NodeRuntimeSpecLike

def validateRelease (releaseId digest : String) : Except NodeError Unit := do
  raiseIf (releaseId = "" ∨ releaseId.toList.length > 128) (.valueError "node_release_id_invalid")
  raiseIf (isSha256Hex digest = false) (.valueError "node_binary_sha256_invalid")

end NodeRuntimeSpecLike

def requireNodeCommandFence (node : MediaNode) (fence : Option NodeCommandFence) :
    Except NodeError Unit :=
  match fence with
  | none => return ()
  | some fence =>
    raiseIf (node.desiredRevision ≠ fence.expectedRevision ∨ node.state ≠ fence.expectedState)
      (.nodeLifecycleConflict "node_command_fence_conflict")

/-- `now` is the clock reading the check is made with. -/
def isNodeEligible (node : MediaNode) (managementFreshnessSeconds : Int) (now : Datetime) : Bool :=
  node.state = .running && node.runtimeState = .running && node.health = .healthy &&
    node.managementFresh &&
    (match node.managementObservedAt with
      | none => false
      | some observedAt => now - timedeltaSeconds managementFreshnessSeconds ≤ observedAt) &&
    node.configCompatible && node.appliedRevision = node.desiredRevision &&
    !node.maintenance && node.registeredCameras < node.cameraCapacity

def validateRuntimeObservation (node : MediaNode) (obs : NodeRuntimeObservation) :
    Except NodeError Unit := do
  raiseIf (obs.appliedRevision < 0 ∨ obs.appliedRevision > node.desiredRevision)
    (.invalidNodeRuntimeObservation "runtime_applied_revision_invalid")
  raiseIf ((obs.state = .running ∨ obs.state = .stopped) ∧
      obs.configCompatible = true ∧ obs.appliedRevision ≠ node.desiredRevision)
    (.invalidNodeRuntimeObservation "runtime_observation_revision_stale")
  let identified := obs.processId.isSome && obs.processStartTicks.isSome && obs.processBootId.isSome
  raiseIf (decide (obs.state = .running) ≠ identified)
    (.invalidNodeRuntimeObservation "runtime_process_identity_invalid")
  raiseIf (obs.state = .running ∧ (obs.processId.getD 0 < 1 ∨ obs.processStartTicks.getD 0 < 1))
    (.invalidNodeRuntimeObservation "runtime_process_identity_invalid")
  raiseIf (obs.managementFresh = true ∧ obs.state ≠ .running)
    (.invalidNodeRuntimeObservation "runtime_management_freshness_invalid")
  raiseIf (obs.configCompatible = true ∧
      (obs.configSha256 = none ∨ obs.releaseId ≠ some node.releaseId ∨
        obs.appliedRevision ≠ node.desiredRevision))
    (.invalidNodeRuntimeObservation "runtime_config_identity_invalid")

/-- `(registered_cameras, active_sources, id.int)` compared as tuples. -/
def placementKeyLess (left right : MediaNode) : Bool :=
  left.registeredCameras < right.registeredCameras ||
    (left.registeredCameras = right.registeredCameras &&
      (left.activeSources < right.activeSources ||
        (left.activeSources = right.activeSources && left.id.int < right.id.int)))

/-- Python's `min` with the placement key: the first of the least elements. -/
def leastLoaded : List MediaNode → Option MediaNode
  | [] => none
  | node :: rest =>
    some (rest.foldl (fun best other => if placementKeyLess other best then other else best) node)

theorem least_loaded_fold_mem (start : MediaNode) (nodes : List MediaNode) :
    nodes.foldl (fun best other => if placementKeyLess other best then other else best) start ∈
      start :: nodes := by
  induction nodes generalizing start with
  | nil => simp
  | cons node rest ih =>
    simp only [foldl_cons]
    split_ifs
    · have inTail := ih node
      exact mem_cons_of_mem _ inTail
    · rcases mem_cons.mp (ih start) with same | inRest
      · rw [same]
        exact mem_cons_self
      · exact mem_cons_of_mem _ (mem_cons_of_mem _ inRest)

theorem least_loaded_mem {nodes : List MediaNode} {selected : MediaNode}
    (found : leastLoaded nodes = some selected) : selected ∈ nodes := by
  cases nodes with
  | nil => simp [leastLoaded] at found
  | cons node rest =>
    simp only [leastLoaded, Option.some.injEq] at found
    exact found ▸ least_loaded_fold_mem node rest

/-- The loop of `select_port_with_bounded_recheck`. `attempt` numbers the
calls, so that the selector and the bind check may change between them. -/
def selectPortRounds (preferredPort : Option Int) (choosePort : Nat → List Int → Int)
    (isPortBindable : Nat → Int → Bool) : Nat → Nat → List Int → Except NodeError Int
  | 0, _, _ => throw (.nodePortRangeExhausted "node_port_range_exhausted")
  | rounds + 1, attempt, cands => do
      let selected := preferredPort.getD (choosePort attempt cands)
      raiseIf (selected ∉ cands) (.runtimeError "node_port_selector_invalid")
      if isPortBindable attempt selected then
        return selected
      else do
        raiseIf (preferredPort.isSome = true) (.nodePortInUse "node_port_in_use")
        selectPortRounds preferredPort choosePort isPortBindable rounds (attempt + 1)
          (cands.erase selected)

def selectPortWithBoundedRecheck (available : List Int) (preferredPort : Option Int)
    (choosePort : Nat → List Int → Int) (isPortBindable : Nat → Int → Bool) :
    Except NodeError Int :=
  selectPortRounds preferredPort choosePort isPortBindable available.length 0 available

variable {choosePort : Nat → List Int → Int}

variable {isPortBindable : Nat → Int → Bool}

theorem select_port_rounds_mem {preferredPort : Option Int}
    {port : Int} (rounds attempt : Nat) (cands : List Int)
    (selected : selectPortRounds preferredPort choosePort isPortBindable rounds attempt cands =
      .ok port) : port ∈ cands := by
  induction rounds generalizing attempt cands with
  | zero => simp [selectPortRounds, throw_ok] at selected
  | succ rounds ih =>
    simp only [selectPortRounds, bind_ok, raise_if_ok, not_not] at selected
    obtain ⟨_, mem, rest⟩ := selected
    split_ifs at rest with bindable
    · rw [pure_ok] at rest
      exact rest ▸ mem
    · simp only [bind_ok] at rest
      obtain ⟨_, _, later⟩ := rest
      exact mem_of_mem_erase (ih _ _ later)

theorem select_port_mem {available : List Int} {preferredPort : Option Int} {port : Int}
    (selected : selectPortWithBoundedRecheck available preferredPort choosePort isPortBindable =
      .ok port) : port ∈ available :=
  select_port_rounds_mem _ _ _ selected

end RtspProxy.Nodes
