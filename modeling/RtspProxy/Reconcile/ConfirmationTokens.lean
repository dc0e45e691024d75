import RtspProxy.Lib.Uuid
import RtspProxy.Reconcile.Mutation

/-!
# Confirmation tokens

The operations of `ConfirmationTokenService`. A text that a caller sends is
a list of code points, as a Python string may hold lone surrogates; bytes are
numbers. `Library` is what the code uses of `base64`, `json` and `hmac`, and
`Documented` what it may rely on for payloads as short as those of a token.
-/

namespace RtspProxy.Reconcile.ConfirmationTokens

open Nodes Lib Lib.Uuid CameraMutationControl

abbrev Bytes := List Nat

abbrev CodePoints := List Nat

def codePoints (text : String) : CodePoints := text.toList.map Char.toNat

/-- `UnicodeError` and `JSONDecodeError` are value errors. -/
inductive Raised
  | typeError
  | valueError
  | recursionError

structure Library where
  urlsafeB64decode : CodePoints → Except Raised Bytes
  loads : Bytes → Except Raised Json
  /-- `hmac.new(secret, message, hashlib.sha256).hexdigest()`. -/
  hexdigest : Bytes → Bytes → String

def digits (value : Int) : Nat := (Nat.toDigits 10 value.natAbs).length

structure Library.Documented (library : Library) : Prop where
  b64Raises : ∀ {text raised}, library.urlsafeB64decode text = .error raised → raised = .valueError
  b64Length : ∀ {text payload}, library.urlsafeB64decode text = .ok payload →
    4 * payload.length ≤ 3 * text.length
  /-- Python 3.12 reads 10,000 levels before it raises a `RecursionError`. -/
  loadsRaises : ∀ {payload raised}, payload.length ≤ 3072 →
    library.loads payload = .error raised → raised = .valueError
  loadsInt : ∀ {payload members value}, library.loads payload = .ok (.obj members) →
    members.lookup "expires_at" = some (.int value) → digits value ≤ payload.length
  ascii : ∀ secret msg, ∀ c ∈ codePoints (library.hexdigest secret msg), c < 128

/-- `sys.int_info.default_max_str_digits`. -/
def maxStrDigits : Nat := 4300

mutual

/-- An integer of more digits has no text. -/
def writable : Json → Bool
  | .int value => decide (digits value ≤ maxStrDigits)
  | .arr items => writableItems items
  | .obj members => writableMembers members
  | _ => true

def writableItems : List Json → Bool
  | [] => true
  | item :: rest => writable item && writableItems rest

def writableMembers : Members → Bool
  | [] => true
  | (_, value) :: rest => writable value && writableMembers rest

end

/-- `json.dumps(members, separators=(",", ":"), sort_keys=True).encode("utf-8")`. -/
def dumps (members : Members) : Except Raised Bytes :=
  if writable (.obj members) = true then
    .ok ((Json.dumps true (Json.sortKeys (.obj members))).map Char.toNat)
  else .error .valueError

structure ConfirmationTokenService where
  secret : Bytes
  longEnough : 32 ≤ secret.length

/-- `token.split(".", 1)`, unpacked into two. -/
def splitToken (token : CodePoints) : Except Raised (CodePoints × CodePoints) :=
  match token.dropWhile (· ≠ 46) with
  | _ :: signature => .ok (token.takeWhile (· ≠ 46), signature)
  | [] => .error .valueError

/-- The `try` block of `_decode`. -/
def readToken (library : Library) (token : CodePoints) :
    Except Raised (Bytes × CodePoints × Json) := do
  let (encoded, signature) ← splitToken token
  let payload ← library.urlsafeB64decode
    (encoded ++ List.replicate ((4 - encoded.length % 4) % 4) 61)
  let decoded ← library.loads payload
  return (payload, signature, decoded)

def decode (library : Library) (token : CodePoints) :
    Except Raised (Option (Bytes × CodePoints × Members)) :=
  if 4096 < token.length then .ok none
  else
    match readToken library token with
    | .error .typeError | .error .valueError => .ok none
    | .error raised => .error raised
    | .ok (payload, signature, .obj decoded) => .ok (some (payload, signature, decoded))
    | .ok _ => .ok none

def IsAscii (text : CodePoints) : Prop := ∀ c ∈ text, c < 128

instance (text : CodePoints) : Decidable (IsAscii text) :=
  inferInstanceAs (Decidable (∀ c ∈ text, c < 128))

/-- `hmac.compare_digest` of two strings. -/
def compareDigest (left right : CodePoints) : Except Raised Bool :=
  if IsAscii left ∧ IsAscii right then .ok (decide (left = right)) else .error .typeError

/-- What the verify operations share; `now` is `int(self._wall_time())`. -/
def ConfirmationTokenService.verifyPayload (service : ConfirmationTokenService) (library : Library)
    (now : Int) (payloadAt : Int → Except Raised Bytes) (token : CodePoints) :
    Except Raised Bool := do
  match ← decode library token with
  | none => return false
  | some (payload, signature, decoded) =>
    match decoded.lookup "expires_at" with
    | some (.int expiresAt) =>
      if expiresAt < now then return false
      let want ← payloadAt expiresAt
      let expectedSignature := library.hexdigest service.secret want
      if payload = want then compareDigest signature (codePoints expectedSignature)
      else return false
    | _ => return false

/-- Whether `str(value)` is within the limit. -/
abbrev Writable (value : Int) : Prop := digits value ≤ maxStrDigits

structure MoveArguments where
  cameraId : UUID
  sourceNodeId : UUID
  targetNodeId : UUID
  desiredRevision : Int
  disconnectReaders : Int

def MoveArguments.members (args : MoveArguments) (expiresAt : Int) : Members :=
  [("camera_id", .str (uuidText args.cameraId)), ("desired_revision", .int args.desiredRevision),
    ("disconnect_readers", .int args.disconnectReaders), ("expires_at", .int expiresAt),
    ("operation", .str "camera_move_force"),
    ("source_node_id", .str (uuidText args.sourceNodeId)),
    ("target_node_id", .str (uuidText args.targetNodeId))]

def MoveArguments.payload (args : MoveArguments) (expiresAt : Int) : Except Raised Bytes :=
  dumps (args.members expiresAt)

structure CameraMutationArguments where
  cameraId : UUID
  operation : CameraMutationOperation
  desiredRevision : Int
  disconnectReaders : Int
  mutationSha256 : String

def CameraMutationArguments.payload (args : CameraMutationArguments) (expiresAt : Int) :
    Except Raised Bytes :=
  if args.mutationSha256.length ≠ 64 then .error .valueError
  else
    dumps [("camera_id", .str (uuidText args.cameraId)),
      ("desired_revision", .int args.desiredRevision),
      ("disconnect_readers", .int args.disconnectReaders), ("expires_at", .int expiresAt),
      ("mutation_sha256", .str args.mutationSha256), ("operation", .str args.operation.value)]

def confirmationContextPayload : Option NodeDisruptionConfirmationContext → Json
  | none => .null
  | some ctx =>
    .obj [("account_id", .str (uuidText ctx.accountId)),
      ("session_id", .str (uuidText ctx.sessionId)),
      ("authz_version", .int ctx.authzVersion),
      ("mfa_verified_at_unix_ms", .int ctx.mfaVerifiedAtUnixMs)]

/-- What a disruption of a node is confirmed with, whichever it is. -/
structure DisruptionArguments where
  nodeId : UUID
  desiredRevision : Int
  registeredCameras : Int
  blastRadiusSha256 : String
  readerBlastRadiusSha256 : String := String.ofList (List.replicate 64 '0')
  activeReaders : Int := 0
  confirmationContext : Option NodeDisruptionConfirmationContext := none

def DisruptionArguments.Valid (args : DisruptionArguments) : Prop :=
  Writable args.desiredRevision ∧ Writable args.registeredCameras ∧ Writable args.activeReaders ∧
    ∀ ctx ∈ args.confirmationContext, Writable ctx.authzVersion ∧ Writable ctx.mfaVerifiedAtUnixMs

def DisruptionArguments.members (args : DisruptionArguments) (expiresAt : Int) :
    Members :=
  [("blast_radius_sha256", .str args.blastRadiusSha256),
    ("reader_blast_radius_sha256", .str args.readerBlastRadiusSha256),
    ("active_readers", .int args.activeReaders),
    ("confirmation_context", confirmationContextPayload args.confirmationContext),
    ("desired_revision", .int args.desiredRevision), ("expires_at", .int expiresAt),
    ("node_id", .str (uuidText args.nodeId)),
    ("registered_cameras", .int args.registeredCameras)]

structure PortChangeArguments extends DisruptionArguments where
  oldPort : Int
  newPort : Int

def PortChangeArguments.payload (args : PortChangeArguments) (expiresAt : Int) :
    Except Raised Bytes :=
  dumps (args.members expiresAt ++ [("new_port", .int args.newPort),
    ("old_port", .int args.oldPort), ("operation", .str "node_port_change")])

structure ReconfigureArguments extends DisruptionArguments where
  externalPort : Int
  targetReleaseId : String
  targetMediamtxBinarySha256 : String

def ReconfigureArguments.payload (args : ReconfigureArguments) (expiresAt : Int) :
    Except Raised Bytes :=
  dumps (args.members expiresAt ++ [("external_port", .int args.externalPort),
    ("operation", .str "node_reconfigure"), ("target_release_id", .str args.targetReleaseId),
    ("target_mediamtx_binary_sha256", .str args.targetMediamtxBinarySha256)])

def validConfirmationDigest (value : String) : Bool :=
  value.length = 64 && value.toList.all fun c => "0123456789abcdef".toList.contains c

def DisruptionArguments.digestsValid (args : DisruptionArguments) : Bool :=
  validConfirmationDigest args.blastRadiusSha256 &&
    validConfirmationDigest args.readerBlastRadiusSha256

section Operations

variable (service : ConfirmationTokenService) (library : Library) (now : Int)

def ConfirmationTokenService.verify (args : MoveArguments) (token : CodePoints) :
    Except Raised Bool :=
  service.verifyPayload library now args.payload token

def ConfirmationTokenService.verifyNodePortChange (args : PortChangeArguments)
    (token : CodePoints) : Except Raised Bool :=
  if args.digestsValid = false then .ok false
  else service.verifyPayload library now args.payload token

def ConfirmationTokenService.verifyNodeReconfigure (args : ReconfigureArguments)
    (token : CodePoints) : Except Raised Bool :=
  if args.digestsValid = false then .ok false
  else service.verifyPayload library now args.payload token

def ConfirmationTokenService.verifyCameraMutation (args : CameraMutationArguments)
    (token : CodePoints) : Except Raised Bool :=
  service.verifyPayload library now args.payload token

end Operations

inductive Verification
  | move (args : MoveArguments)
  | nodePortChange (args : PortChangeArguments)
  | nodeReconfigure (args : ReconfigureArguments)
  | cameraMutation (args : CameraMutationArguments)

namespace Verification

def run (service : ConfirmationTokenService) (library : Library) (now : Int)
    (token : CodePoints) : Verification → Except Raised Bool
  | move args => service.verify library now args token
  | nodePortChange args => service.verifyNodePortChange library now args token
  | nodeReconfigure args => service.verifyNodeReconfigure library now args token
  | cameraMutation args => service.verifyCameraMutation library now args token

def payload : Verification → Int → Except Raised Bytes
  | move args => args.payload
  | nodePortChange args => args.payload
  | nodeReconfigure args => args.payload
  | cameraMutation args => args.payload

/-- Whether the operation looks at the token at all. -/
def readsToken : Verification → Bool
  | nodePortChange args => args.digestsValid
  | nodeReconfigure args => args.digestsValid
  | _ => true

/-- The integers have a text, and the digest of a camera mutation has its length. -/
def Valid : Verification → Prop
  | move args => Writable args.desiredRevision ∧ Writable args.disconnectReaders
  | nodePortChange args =>
    args.toDisruptionArguments.Valid ∧ Writable args.oldPort ∧ Writable args.newPort
  | nodeReconfigure args => args.toDisruptionArguments.Valid ∧ Writable args.externalPort
  | cameraMutation args =>
    args.mutationSha256.length = 64 ∧ Writable args.desiredRevision ∧
      Writable args.disconnectReaders

theorem members_written {args : DisruptionArguments} (valid : args.Valid) {expiresAt : Int}
    (isWritable : Writable expiresAt) (rest : Members) :
    writableMembers (args.members expiresAt ++ rest) = writableMembers rest := by
  obtain ⟨revision, cameras, readers, ctx⟩ := valid
  cases isContext : args.confirmationContext <;>
    simp_all [DisruptionArguments.members, confirmationContextPayload, writableMembers, writable]

theorem payload_written {verification : Verification} (valid : verification.Valid)
    {expiresAt : Int} (isWritable : Writable expiresAt) :
    ∃ payload, verification.payload expiresAt = .ok payload := by
  have written : ∀ {members : Members}, writableMembers members = true →
      ∃ payload, dumps members = .ok payload := by
    intro members isWritten
    exact ⟨_, if_pos (by rwa [writable])⟩
  cases verification with
  | move args =>
    apply written
    simpa [MoveArguments.members, writableMembers, writable, isWritable] using
      And.intro valid.1 valid.2
  | nodePortChange args =>
    apply written
    rw [members_written valid.1 isWritable]
    simpa [writableMembers, writable] using valid.2.symm
  | nodeReconfigure args =>
    apply written
    rw [members_written valid.1 isWritable]
    simpa [writableMembers, writable] using valid.2
  | cameraMutation args =>
    rw [payload, CameraMutationArguments.payload, if_neg (not_not.mpr valid.1)]
    apply written
    simpa [writableMembers, writable, isWritable] using valid.2

end Verification

variable {library : Library} {token : CodePoints}

theorem read_token_cases (documented : library.Documented) (short : token.length ≤ 4096) :
    readToken library token = .error .valueError ∨ ∃ payload signature decoded,
      readToken library token = .ok (payload, signature, decoded) ∧ payload.length ≤ 3072 ∧
        library.loads payload = .ok decoded := by
  have parts := congrArg List.length (List.takeWhile_append_dropWhile (p := (· ≠ 46)) (l := token))
  rw [List.length_append] at parts
  unfold readToken splitToken
  cases isRest : token.dropWhile (· ≠ 46) with
  | nil => exact .inl rfl
  | cons dot signature =>
    rw [isRest, List.length_cons] at parts
    simp only [bind, Except.bind]
    generalize token.takeWhile (· ≠ 46) = encoded at *
    cases isPayload : library.urlsafeB64decode
        (encoded ++ List.replicate ((4 - encoded.length % 4) % 4) 61) with
    | error raised => exact .inl (congrArg _ (documented.b64Raises isPayload))
    | ok payload =>
      have bound := documented.b64Length isPayload
      rw [List.length_append, List.length_replicate] at bound
      have within : payload.length ≤ 3072 := by omega
      simp only
      cases isDecoded : library.loads payload with
      | error raised => exact .inl (congrArg _ (documented.loadsRaises within isDecoded))
      | ok decoded => exact .inr ⟨payload, signature, decoded, rfl, within, isDecoded⟩

theorem decode_cases (documented : library.Documented) (token : CodePoints) :
    decode library token = .ok none ∨ ∃ payload signature decoded,
      decode library token = .ok (some (payload, signature, decoded)) ∧ payload.length ≤ 3072 ∧
        library.loads payload = .ok (.obj decoded) := by
  unfold decode
  by_cases long : 4096 < token.length
  · exact .inl (if_pos long)
  · rw [if_neg long]
    rcases read_token_cases documented (Nat.le_of_not_lt long) with
      raised | ⟨payload, signature, decoded, read, within, isDecoded⟩
    · rw [raised]
      exact .inl rfl
    · rw [read]
      cases decoded with
      | obj members => exact .inr ⟨payload, signature, members, rfl, within, isDecoded⟩
      | _ => exact .inl rfl

/-- The token carries the payload that is expected of it, under a signature that no comparison
takes. -/
def ForeignSignature (library : Library) (now : Int) (token : CodePoints)
    (verification : Verification) : Prop :=
  verification.readsToken = true ∧ ∃ payload signature decoded expiresAt,
    decode library token = .ok (some (payload, signature, decoded)) ∧
    decoded.lookup "expires_at" = some (.int expiresAt) ∧ now ≤ expiresAt ∧
    verification.payload expiresAt = .ok payload ∧ ¬IsAscii signature

theorem compare_digest_returns {left right : CodePoints} (ascii : IsAscii right) :
    (∃ ans, compareDigest left right = .ok ans) ↔ IsAscii left := by
  by_cases isAscii : IsAscii left
  · simp [compareDigest, isAscii, ascii]
  · simp [compareDigest, isAscii]

theorem run_eq (service : ConfirmationTokenService) (now : Int) (verification : Verification) :
    verification.run service library now token = if verification.readsToken = false then .ok false
      else service.verifyPayload library now verification.payload token := by
  cases verification <;> rfl

theorem verification_returns_iff (documented : library.Documented)
    (service : ConfirmationTokenService) (now : Int) {verification : Verification}
    (valid : verification.Valid) (token : CodePoints) :
    (∃ ans, verification.run service library now token = .ok ans) ↔
      ¬ForeignSignature library now token verification := by
  rw [run_eq]
  cases reads : verification.readsToken with
  | false => simp [ForeignSignature, reads]
  | true =>
    rw [if_neg (by decide)]
    unfold ConfirmationTokenService.verifyPayload
    rcases decode_cases documented token with
      isNone | ⟨payload, signature, decoded, isToken, within, isDecoded⟩
    · simp [ForeignSignature, isNone, bind, Except.bind, pure, Except.pure]
    · have isForeign : ForeignSignature library now token verification ↔ ∃ expiresAt,
          decoded.lookup "expires_at" = some (.int expiresAt) ∧ now ≤ expiresAt ∧
          verification.payload expiresAt = .ok payload ∧ ¬IsAscii signature := by
        simp [ForeignSignature, isToken, reads]
      rw [isForeign, isToken]
      simp only [bind, Except.bind, pure, Except.pure]
      split
      · rename_i expiresAt isExpiry
        split_ifs with expired
        · simp [isExpiry, expired]
        · obtain ⟨want, isExpected⟩ := Verification.payload_written valid
            ((documented.loadsInt isDecoded isExpiry).trans (within.trans (by decide)))
          simp only [isExpiry, isExpected]
          split_ifs with same
          · rw [compare_digest_returns (documented.ascii _ _)]
            simp [isExpected, same, Int.not_lt.mp expired]
          · simp [isExpected, Ne.symm same]
      · rename_i noExpiry
        refine iff_of_true ⟨false, rfl⟩ ?_
        rintro ⟨expiresAt, isExpiry, _⟩
        exact noExpiry expiresAt isExpiry

structure IssuingService extends ConfirmationTokenService where
  lifetimeSeconds : Nat
  lifetimeValid : 1 ≤ lifetimeSeconds ∧ lifetimeSeconds ≤ 300

section Issuing

variable (issuer : IssuingService) (library : Library) (encode : Bytes → CodePoints)

/-- `_sign`; `encode` is `base64.urlsafe_b64encode` less the `=` at its end. -/
def IssuingService.sign (payload : Bytes) : CodePoints :=
  encode payload ++ 46 :: codePoints (library.hexdigest issuer.secret payload)

def IssuingService.expiresAt (now : Int) : Int := now + issuer.lifetimeSeconds

/-- The issue operation of these arguments, none of which looks at a digest. -/
def Verification.issue (now : Int) (arguments : Verification) : Except Raised CodePoints :=
  (arguments.payload (issuer.expiresAt now)).map (issuer.sign library encode)

/-- What `base64` and `json` document of a payload that was written by `dumps`. -/
structure RoundTrip (payload : Bytes) (expiresAt : Int) : Prop where
  noDot : 46 ∉ encode payload
  decoded : library.urlsafeB64decode (encode payload ++
    List.replicate ((4 - (encode payload).length % 4) % 4) 61) = .ok payload
  loaded : ∃ members, library.loads payload = .ok (.obj members) ∧
    members.lookup "expires_at" = some (.int expiresAt)

variable {issuer library encode}

theorem decode_signed {payload : Bytes} {expiresAt : Int}
    (roundTrip : RoundTrip library encode payload expiresAt) {signature : CodePoints}
    (short : (encode payload ++ 46 :: signature).length ≤ 4096) :
    ∃ members, decode library (encode payload ++ 46 :: signature) =
        .ok (some (payload, signature, members)) ∧
      members.lookup "expires_at" = some (.int expiresAt) := by
  obtain ⟨members, loaded, isExpiry⟩ := roundTrip.loaded
  have before : ∀ c ∈ encode payload, decide (c ≠ 46) = true := by
    intro c within
    exact decide_eq_true fun isDot => roundTrip.noDot (isDot ▸ within)
  have split : splitToken (encode payload ++ 46 :: signature) = .ok (encode payload, signature) := by
    rw [splitToken, List.dropWhile_append_of_pos before, List.takeWhile_append_of_pos before]
    simp
  refine ⟨members, ?_, isExpiry⟩
  rw [decode, if_neg (Nat.not_lt.mpr short)]
  simp [readToken, split, roundTrip.decoded, loaded, bind, Except.bind, pure, Except.pure]

theorem foreign_signature_raises {payload : Bytes} {expiresAt : Int}
    (roundTrip : RoundTrip library encode payload expiresAt) {signature : CodePoints}
    (short : (encode payload ++ 46 :: signature).length ≤ 4096) (foreign : ¬IsAscii signature)
    (service : ConfirmationTokenService) (now : Int) (verification : Verification)
    (reads : verification.readsToken = true) (isPayload : verification.payload expiresAt = .ok payload)
    (later : now ≤ expiresAt) :
    verification.run service library now (encode payload ++ 46 :: signature) =
      .error .typeError := by
  obtain ⟨members, isToken, isExpiry⟩ := decode_signed roundTrip short
  rw [run_eq, if_neg (by simp [reads]), ConfirmationTokenService.verifyPayload, isToken]
  simp only [isExpiry, isPayload, bind, Except.bind]
  rw [if_neg (Int.not_lt.mpr later), if_pos trivial, compareDigest, if_neg fun both => foreign both.1]

/-- A token is taken by the operations that read it, until it expires, for the arguments that
write what it was issued for; one of more than 4096 characters is never taken. -/
theorem issued_token_taken_iff (documented : library.Documented) (issued : Verification)
    {verification : Verification} (valid : verification.Valid) (now later : Int)
    (isWritable : Writable (issuer.expiresAt now))
    (roundTrip : ∀ payload, issued.payload (issuer.expiresAt now) = .ok payload →
      RoundTrip library encode payload (issuer.expiresAt now)) {token : CodePoints}
    (isIssued : issued.issue issuer library encode now = .ok token) :
    ∃ taken, verification.run issuer.toConfirmationTokenService library later token = .ok taken ∧
      (taken = true ↔ verification.readsToken = true ∧ token.length ≤ 4096 ∧
        later ≤ issuer.expiresAt now ∧ verification.payload (issuer.expiresAt now) =
          issued.payload (issuer.expiresAt now)) := by
  obtain ⟨payload, isPayload, rfl⟩ : ∃ payload, issued.payload (issuer.expiresAt now) = .ok payload ∧
      issuer.sign library encode payload = token := by
    cases isPayload : issued.payload (issuer.expiresAt now) <;>
      simp_all [Verification.issue, Except.map]
  rw [run_eq]
  cases reads : verification.readsToken with
  | false => exact ⟨false, rfl, by simp⟩
  | true =>
    rw [if_neg (by decide), ConfirmationTokenService.verifyPayload]
    by_cases short : (issuer.sign library encode payload).length ≤ 4096
    · obtain ⟨members, isToken, isExpiry⟩ : ∃ members, decode library (issuer.sign _ _ _) = _ ∧ _ :=
        decode_signed (roundTrip payload isPayload) short
      obtain ⟨want, isExpected⟩ := Verification.payload_written valid isWritable
      simp only [isToken, isExpiry, isExpected, isPayload, bind, Except.bind, pure, Except.pure]
      split_ifs with expired same
      · exact ⟨false, rfl, by simp [short, Int.not_le.mpr expired]⟩
      · cases same
        refine ⟨true, ?_, by simp [short, Int.not_lt.mp expired]⟩
        rw [compareDigest, if_pos ⟨documented.ascii _ _, documented.ascii _ _⟩, decide_eq_true rfl]
      · exact ⟨false, rfl, by simp [Ne.symm same]⟩
    · rw [decode, if_pos (Nat.lt_of_not_le short)]
      exact ⟨false, rfl, by simp [short]⟩

end Issuing

def sampleMove : MoveArguments where
  cameraId := 1
  sourceNodeId := 2
  targetNodeId := 3
  desiredRevision := 7
  disconnectReaders := 1

theorem sample_valid : (Verification.move sampleMove).Valid := ⟨by decide, by decide⟩

def samplePayload : String :=
  "\x7b\"camera_id\":\"00000000-0000-0000-0000-000000000001\",\"desired_revision\":7," ++
    "\"disconnect_readers\":1,\"expires_at\":1060,\"operation\":\"camera_move_force\"," ++
    "\"source_node_id\":\"00000000-0000-0000-0000-000000000002\"," ++
    "\"target_node_id\":\"00000000-0000-0000-0000-000000000003\"\x7d"

def sampleEncoded : String :=
  "eyJjYW1lcmFfaWQiOiIwMDAwMDAwMC0wMDAwLTAwMDAtMDAwMC0wMDAwMDAwMDAwMDEiLCJkZXNpcmVkX3Jldmlza" ++
    "W9uIjo3LCJkaXNjb25uZWN0X3JlYWRlcnMiOjEsImV4cGlyZXNfYXQiOjEwNjAsIm9wZXJhdGlvbiI6ImNhbWVyYV" ++
    "9tb3ZlX2ZvcmNlIiwic291cmNlX25vZGVfaWQiOiIwMDAwMDAwMC0wMDAwLTAwMDAtMDAwMC0wMDAwMDAwMDAwMDI" ++
    "iLCJ0YXJnZXRfbm9kZV9pZCI6IjAwMDAwMDAwLTAwMDAtMDAwMC0wMDAwLTAwMDAwMDAwMDAwMyJ9"

def sampleLibrary : Library where
  urlsafeB64decode text :=
    if text = codePoints sampleEncoded then .ok (codePoints samplePayload) else .error .valueError
  loads payload :=
    if payload = codePoints samplePayload then .ok (.obj (sampleMove.members 1060))
    else .error .valueError
  hexdigest _ _ := "fd76220e7b3b193a90e84a5b77bb6eb9374584f81a566c95803e4bad0fb43f52"

theorem code_points_of_pieces (first second third fourth : List Char) :
    codePoints (.ofList first ++ .ofList second ++ .ofList third ++ .ofList fourth) =
      (first ++ second ++ third ++ fourth).map Char.toNat := by
  simp [codePoints]

theorem code_points_of_list (chars : List Char) :
    codePoints (.ofList chars) = chars.map Char.toNat := by
  rw [codePoints, String.toList_ofList]

/-- Kernel evaluation of a text literal goes through its bytes, so each is read as a list. -/
theorem quoted_of_list (chars : List Char) :
    Json.quoted true (.ofList chars) = '"' :: chars.flatMap (Json.escape true) ++ ['"'] := by
  rw [Json.quoted, String.toList_ofList]

theorem sample_sorted :
    Json.sortKeys (.obj (sampleMove.members 1060)) = .obj (sampleMove.members 1060) := by
  rw [Json.sortKeys]
  exact congrArg _ (List.Pairwise.insertionSort_eq (by decide +kernel))

theorem sample_payload :
    (Verification.move sampleMove).payload 1060 = .ok (codePoints samplePayload) := by
  rw [Verification.payload, MoveArguments.payload, dumps, if_pos (by decide +kernel), sample_sorted,
    show codePoints samplePayload = _ from code_points_of_pieces _ _ _ _]
  simp only [MoveArguments.members, Json.dumps, Json.dumpsMembers]
  rw [show Json.quoted true "camera_id" = _ from quoted_of_list _,
    show Json.quoted true "desired_revision" = _ from quoted_of_list _,
    show Json.quoted true "disconnect_readers" = _ from quoted_of_list _,
    show Json.quoted true "expires_at" = _ from quoted_of_list _,
    show Json.quoted true "operation" = _ from quoted_of_list _,
    show Json.quoted true "camera_move_force" = _ from quoted_of_list _,
    show Json.quoted true "source_node_id" = _ from quoted_of_list _,
    show Json.quoted true "target_node_id" = _ from quoted_of_list _,
    show Json.quoted true (uuidText sampleMove.cameraId) = _ from quoted_of_list _,
    show Json.quoted true (uuidText sampleMove.sourceNodeId) = _ from quoted_of_list _,
    show Json.quoted true (uuidText sampleMove.targetNodeId) = _ from quoted_of_list _]
  exact congrArg _ (by decide +kernel)

theorem sample_texts :
    (codePoints samplePayload).length = 258 ∧ 46 ∉ codePoints sampleEncoded ∧
      (codePoints sampleEncoded).length = 344 := by
  rw [show codePoints samplePayload = _ from code_points_of_pieces _ _ _ _,
    show codePoints sampleEncoded = _ from code_points_of_pieces _ _ _ _]
  decide +kernel

theorem sample_round_trip :
    RoundTrip sampleLibrary (fun _ => codePoints sampleEncoded) (codePoints samplePayload) 1060 := by
  refine ⟨sample_texts.2.1, ?_, sampleMove.members 1060, ?_, rfl⟩ <;>
    simp only [sampleLibrary, if_pos]
  rw [sample_texts.2.2]
  exact if_pos (List.append_nil _)

theorem sample_digest (secret msg : Bytes) :
    (∀ c ∈ codePoints (sampleLibrary.hexdigest secret msg), c < 128) ∧
      (codePoints (sampleLibrary.hexdigest secret msg)).length = 64 := by
  rw [show codePoints (sampleLibrary.hexdigest secret msg) = _ from code_points_of_list _]
  decide +kernel

theorem sample_documented : sampleLibrary.Documented where
  b64Raises := by
    intro text raised failed
    simp only [sampleLibrary] at failed
    split_ifs at failed
    exact (Except.error.inj failed).symm
  b64Length := by
    intro text payload decoded
    simp only [sampleLibrary] at decoded
    split_ifs at decoded with isText
    rw [isText, ← Except.ok.inj decoded, sample_texts.2.2, sample_texts.1]
  loadsRaises := by
    intro payload raised _ failed
    simp only [sampleLibrary] at failed
    split_ifs at failed
    exact (Except.error.inj failed).symm
  loadsInt := by
    intro payload members value loaded isValue
    simp only [sampleLibrary] at loaded
    split_ifs at loaded with isPayload
    cases loaded
    cases isValue
    rw [isPayload, sample_texts.1]
    decide
  ascii secret msg := (sample_digest secret msg).1

def sampleService : ConfirmationTokenService := ⟨List.replicate 32 7, by decide⟩

def sampleToken : CodePoints := codePoints (sampleEncoded ++ ".é")

theorem non_ascii_signature_raises :
    ¬ ∀ (library : Library) (service : ConfirmationTokenService) (now : Int)
      (verification : Verification) (token : CodePoints), library.Documented →
      verification.Valid → ∃ ans, verification.run service library now token = .ok ans := by
  intro total
  obtain ⟨ans, ret⟩ := total sampleLibrary sampleService 1000 (.move sampleMove) sampleToken
    sample_documented sample_valid
  have isSigned : sampleToken = codePoints sampleEncoded ++ 46 :: [233] := by
    rw [sampleToken, codePoints, String.toList_append, List.map_append]
    exact congrArg _ (code_points_of_list _)
  rw [isSigned, @foreign_signature_raises _ _ _ _ sample_round_trip [233]
    (by rw [List.length_append, sample_texts.2.2]; decide) (by decide) _ _ _ rfl sample_payload
    (by decide)] at ret
  cases ret

theorem verification_returns_iff_sample :
    (∃ ans, Verification.run sampleService sampleLibrary 1000 sampleToken (.move sampleMove) =
      .ok ans) ↔ ¬ForeignSignature sampleLibrary 1000 sampleToken (.move sampleMove) :=
  verification_returns_iff sample_documented sampleService 1000 sample_valid sampleToken

def sampleIssuer : IssuingService := ⟨sampleService, 60, by decide⟩

def sampleIssued : CodePoints :=
  sampleIssuer.sign sampleLibrary (fun _ => codePoints sampleEncoded) (codePoints samplePayload)

theorem issued_token_taken_iff_sample :
    (Verification.move sampleMove).run sampleService sampleLibrary 1030 sampleIssued = .ok true := by
  have short : sampleIssued.length ≤ 4096 := by
    rw [sampleIssued, IssuingService.sign, List.length_append, List.length_cons, sample_texts.2.2,
      (sample_digest _ _).2]
    decide
  obtain ⟨taken, isRun, isTaken⟩ := issued_token_taken_iff sample_documented (.move sampleMove)
    sample_valid 1000 1030 (by decide) (by
      intro payload isPayload
      rw [Except.ok.inj (isPayload.symm.trans sample_payload)]
      exact sample_round_trip)
    (congrArg (Except.map (sampleIssuer.sign sampleLibrary fun _ => codePoints sampleEncoded))
      sample_payload)
  rw [isTaken.mpr ⟨rfl, short, by decide, rfl⟩] at isRun
  exact isRun

end RtspProxy.Reconcile.ConfirmationTokens
