import Mathlib.Data.List.Sort
import RtspProxy.Nodes.Validation

/-!
# Admission of probe endpoints

`ProbeEndpointAdmission` resolves an RTSP source once and binds it to one literal
destination. The texts of addresses, host names and URLs enter through
`PythonNetwork`; the classes of addresses are the network tables of the library,
which looks at the IPv4 address in a mapped one.

An endpoint is `Confined` when its address lies in the site's networks and in the
networks in effect, belongs to no forbidden class and is no IPv4-mapped address.
What is admitted is confined; what is restored is, unless the identity is mapped.
-/

namespace RtspProxy.Probes.Security

open Nodes Lib.Raising

inductive IpAddress
  | v4 (packed : BitVec 32)
  | v6 (packed : BitVec 128) (scopeId : Option String)
  deriving DecidableEq

/-- The network address, without host bits, and the length of the prefix. -/
inductive IpNetwork
  | v4 (networkAddress : BitVec 32) (prefixlen : Nat)
  | v6 (networkAddress : BitVec 128) (prefixlen : Nat)

/-- `address.version == network.version and address in network`. -/
def IpNetwork.contains : IpNetwork → IpAddress → Bool
  | .v4 network prefixlen, .v4 packed =>
    packed &&& (BitVec.allOnes 32 <<< (32 - prefixlen)) = network
  | .v6 network prefixlen, .v6 packed _ =>
    packed &&& (BitVec.allOnes 128 <<< (128 - prefixlen)) = network
  | _, _ => false

def linkLocalNetworks : List IpNetwork :=
  [.v4 0xA9FE0000 16, .v6 (0xFE80 <<< 112) 10]

def multicastNetworks : List IpNetwork := [.v4 0xE0000000 4, .v6 (0xFF00 <<< 112) 8]

def reservedNetworks : List IpNetwork :=
  [.v4 0xF0000000 4, .v6 0 8, .v6 (0x0100 <<< 112) 8, .v6 (0x0200 <<< 112) 7,
    .v6 (0x0400 <<< 112) 6, .v6 (0x0800 <<< 112) 5, .v6 (0x1000 <<< 112) 4,
    .v6 (0x4000 <<< 112) 3, .v6 (0x6000 <<< 112) 3, .v6 (0x8000 <<< 112) 3,
    .v6 (0xA000 <<< 112) 3, .v6 (0xC000 <<< 112) 3, .v6 (0xE000 <<< 112) 4,
    .v6 (0xF000 <<< 112) 5, .v6 (0xF800 <<< 112) 6, .v6 (0xFE00 <<< 112) 9]

def IpAddress.isUnspecified : IpAddress → Bool
  | .v4 packed => packed = 0
  | .v6 packed _ => packed = 0

def IpAddress.isLoopback : IpAddress → Bool
  | .v4 packed => IpNetwork.contains (.v4 0x7F000000 8) (.v4 packed)
  | .v6 packed _ => packed = 1

def platformMetadataEndpoints : List IpAddress :=
  [.v6 0xFD000EC2000000000000000000000254 none, .v6 0xFD000EC2000000000000000000000023 none,
    .v4 0x646464C8]

def IpAddress.ipv4Mapped : IpAddress → Option (BitVec 32)
  | .v4 _ => none
  | .v6 packed _ => if packed >>> 32 = 0xFFFF then some (packed.setWidth 32) else none

def normalizeAddress (address : IpAddress) : IpAddress :=
  match address.ipv4Mapped with
  | some embedded => .v4 embedded
  | none => address

theorem normalized_not_mapped (address : IpAddress) :
    (normalizeAddress address).ipv4Mapped = none := by
  unfold normalizeAddress
  split
  · rfl
  · assumption

/-- `_address_sort_key`, compared. -/
def addressLe : IpAddress → IpAddress → Prop
  | .v4 left, .v4 right => left ≤ right
  | .v4 _, .v6 _ _ => True
  | .v6 _ _, .v4 _ => False
  | .v6 left _, .v6 right _ => left ≤ right

instance : DecidableRel addressLe := fun left right => by
  cases left <;> cases right <;> simp only [addressLe] <;> infer_instance

/-- Further functions of the standard library: `ipaddress.ip_address`, `encode("idna")`,
`unquote`, and the order in which a set is gone through. -/
class PythonNetwork extends PythonText where
  ipAddress : String → Option IpAddress
  idna : String → Option String
  unquote : String → String
  setOrder : List IpAddress → List IpAddress
  mem_set_order : ∀ values address, address ∈ setOrder values ↔ address ∈ values
  /-- Whether `is_loopback` looks into mapped addresses, as the other classes do; not every release
  does. -/
  mappedLoopback : Bool

/-- The classes of a mapped address are those of the address in it; the endpoints are compared. -/
def probeDestinationIsForbidden [PythonNetwork] (address : IpAddress) : Bool :=
  let classed := normalizeAddress address
  classed.isUnspecified ||
    (if PythonNetwork.mappedLoopback = true then classed else address).isLoopback ||
    linkLocalNetworks.any (·.contains classed) || multicastNetworks.any (·.contains classed) ||
    reservedNetworks.any (·.contains classed) || platformMetadataEndpoints.contains address

abbrev Rejected := String

def hasAny (characters : List Char) (text : String) : Bool :=
  text.toList.any fun char => characters.contains char

def probeCredentialComponentValid (value : String) (maximumBytes : Nat) : Bool :=
  value ≠ "" && decide (value.utf8ByteSize ≤ maximumBytes) &&
    !hasAny ['\r', '\n', Char.ofNat 0] value

structure ProbeCredential where
  username : String
  password : String
  valid : probeCredentialComponentValid username 64 = true ∧
    probeCredentialComponentValid password 256 = true

def siteKeyMatches (siteKey : String) : Bool :=
  let letter (char : Char) : Bool :=
    char.isDigit || ('a' ≤ char && char ≤ 'z')
  match siteKey.toList with
  | [] => false
  | first :: rest => letter first && decide (rest.length ≤ 63) &&
    rest.all fun char => letter char || ['.', '_', '-'].contains char

structure ProbeEndpointIdentity where
  generation : UUID
  address : IpAddress
  port : Int
  siteKey : String
  policySha256 : String
  sourceUrlSha256 : String
  valid : generation.isVersion4 = true ∧ (1 ≤ port ∧ port ≤ 65535) ∧ siteKeyMatches siteKey = true ∧
    isSha256Hex policySha256 = true ∧ isSha256Hex sourceUrlSha256 = true

structure AdmittedProbeEndpoint where
  identity : ProbeEndpointIdentity
  pathAndQuery : String
  credential : Option ProbeCredential
  valid : pathAndQuery.toList.head? = some '/' ∧ pathAndQuery.utf8ByteSize ≤ 8192 ∧
    hasAny ['\'', '\\', '\r', '\n', Char.ofNat 0] pathAndQuery = false

/-- What `_parse_source_url` returns. -/
structure ParsedSource where
  hostname : String
  port : Int
  pathAndQuery : String
  credential : Option ProbeCredential
  sourceSha256 : String

section Admission

variable [PythonNetwork]

open PythonText PythonNetwork

def parseCredential : Option String → Option String → Except Rejected (Option ProbeCredential)
  | none, none => return none
  | some username, some password =>
    if valid : probeCredentialComponentValid (unquote username) 64 = true ∧
        probeCredentialComponentValid (unquote password) 256 = true then
      return some ⟨unquote username, unquote password, valid⟩
    else throw "probe_credential_invalid"
  | _, _ => throw "probe_credential_invalid"

def parseSourceUrl (sourceUrl : String) : Except Rejected ParsedSource := do
  raiseIf (hasAny ['\r', '\n', Char.ofNat 0] sourceUrl = true) "probe_endpoint_invalid"
  let parsed ← orRaise (urlsplit sourceUrl) "probe_endpoint_invalid"
  let port := parsed.port.getD 554
  raiseIf (¬(1 ≤ sourceUrl.utf8ByteSize ∧ sourceUrl.utf8ByteSize ≤ 8192) ∨
    lower parsed.scheme ≠ "rtsp" ∨ parsed.hostname = none ∨ parsed.fragment ≠ "" ∨
    ¬(1 ≤ port ∧ port ≤ 65535)) "probe_endpoint_invalid"
  let hostname ← orRaise parsed.hostname "probe_endpoint_invalid"
  let credential ← parseCredential parsed.username parsed.password
  let path := if parsed.path = "" then "/" else parsed.path
  let pathAndQuery := if parsed.query = "" then path else path ++ "?" ++ parsed.query
  raiseIf (hasAny ['\'', '\\', '\r', '\n', Char.ofNat 0] pathAndQuery = true)
    "probe_endpoint_invalid"
  return { hostname, port, pathAndQuery, credential, sourceSha256 := sha256Hexdigest sourceUrl }

def literalAddress (hostname : String) : Except Rejected (Option IpAddress) := do
  raiseIf ('%' ∈ hostname.toList) "probe_endpoint_invalid"
  return ipAddress hostname

def canonicalHostname (hostname : String) : Except Rejected String := do
  let stripped := String.ofList (hostname.toList.reverse.dropWhile (· = '.')).reverse
  let canonical ← orRaise ((idna stripped).map lower) "probe_endpoint_invalid"
  raiseIf (¬(1 ≤ canonical.length ∧ canonical.length ≤ 253) ∨
    ∃ label ∈ canonical.toList.splitOn '.', label = [] ∨ label.length > 63)
    "probe_endpoint_invalid"
  return canonical

/-- `policySha256` is computed when the object is made. The resolver may raise, and so may each
call of `effective_networks`; the calls of one method are numbered. -/
structure ProbeEndpointAdmission where
  siteKey : String
  allowedNetworks : List IpNetwork
  policySha256 : String
  resolve : String → Option (List String)
  effectiveNetworks : Option (Nat → Option (List IpNetwork))

namespace ProbeEndpointAdmission

variable (admission : ProbeEndpointAdmission)

/-- `_allowed`, where `call` is the number of its call of `effective_networks`. -/
def allowed (call : Nat) (address : IpAddress) : Bool :=
  admission.allowedNetworks.any (·.contains address) &&
    match admission.effectiveNetworks with
    | none => true
    | some effective => (effective call).any fun networks => networks.any (·.contains address)

def resolvedAddresses (hostname : String) : Except Rejected (List IpAddress) := do
  let rawAddresses ← orRaise (admission.resolve hostname) "probe_destination_unavailable"
  raiseIf (¬(1 ≤ rawAddresses.length ∧ rawAddresses.length ≤ 16)) "probe_destination_unavailable"
  let addresses ← orRaise (rawAddresses.mapM ipAddress) "probe_destination_unavailable"
  return (setOrder (addresses.map normalizeAddress)).insertionSort addressLe

def makeIdentity (generation : UUID) (address : IpAddress) (port : Int) (sourceSha256 : String) :
    Except Rejected ProbeEndpointIdentity :=
  if valid : generation.isVersion4 = true ∧ (1 ≤ port ∧ port ≤ 65535) ∧
      siteKeyMatches admission.siteKey = true ∧ isSha256Hex admission.policySha256 = true ∧
      isSha256Hex sourceSha256 = true then
    return { generation, address, port, siteKey := admission.siteKey
             policySha256 := admission.policySha256, sourceUrlSha256 := sourceSha256, valid }
  else throw "probe_endpoint_identity_invalid"

def makeEndpoint (identity : ProbeEndpointIdentity) (source : ParsedSource) :
    Except Rejected AdmittedProbeEndpoint :=
  if valid : source.pathAndQuery.toList.head? = some '/' ∧ source.pathAndQuery.utf8ByteSize ≤ 8192 ∧
      hasAny ['\'', '\\', '\r', '\n', Char.ofNat 0] source.pathAndQuery = false then
    return { identity, pathAndQuery := source.pathAndQuery, credential := source.credential, valid }
  else throw "probe_endpoint_invalid"

/-- `generation` is what `new_generation` returns. -/
def admitUrl (generation : UUID) (sourceUrl : String) : Except Rejected AdmittedProbeEndpoint := do
  let source ← parseSourceUrl sourceUrl
  raiseIf (admission.allowedNetworks.isEmpty = true) "probe_source_policy_not_configured"
  let addresses ← (do
    match ← literalAddress source.hostname with
    | none => admission.resolvedAddresses (← canonicalHostname source.hostname)
    | some literal => return [normalizeAddress literal])
  raiseIf (∃ address ∈ addresses, probeDestinationIsForbidden address = true)
    "probe_destination_forbidden"
  raiseIf (∃ checked ∈ addresses.zipIdx, admission.allowed checked.2 checked.1 = false)
    "probe_destination_not_allowed"
  raiseIf (generation.isVersion4 = false) "probe_endpoint_identity_invalid"
  let first ← orRaise addresses.head? "IndexError"
  let identity ← admission.makeIdentity generation first source.port source.sourceSha256
  makeEndpoint identity source

def restore (sourceUrl : String) (identity : ProbeEndpointIdentity) :
    Except Rejected AdmittedProbeEndpoint := do
  let source ← parseSourceUrl sourceUrl
  let literal ← literalAddress source.hostname
  raiseIf (identity.siteKey ≠ admission.siteKey ∨ identity.policySha256 ≠ admission.policySha256 ∨
    identity.sourceUrlSha256 ≠ source.sourceSha256 ∨ identity.port ≠ source.port ∨
    probeDestinationIsForbidden identity.address = true ∨
    admission.allowed 0 identity.address = false ∨
    ∃ address ∈ literal, normalizeAddress address ≠ identity.address)
    "probe_endpoint_identity_invalid"
  makeEndpoint identity source

/-- The address of the endpoint, with the networks that were in effect when it was checked. -/
structure Confined (endpoint : AdmittedProbeEndpoint) : Prop where
  envelope : ∃ network ∈ admission.allowedNetworks,
    network.contains endpoint.identity.address = true
  effective : ∀ effective ∈ admission.effectiveNetworks, ∃ networks ∈ effective 0,
    ∃ network ∈ networks, network.contains endpoint.identity.address = true
  permitted : probeDestinationIsForbidden endpoint.identity.address = false
  notMapped : endpoint.identity.address.ipv4Mapped = none

variable {admission} {generation : UUID} {sourceUrl : String} {endpoint : AdmittedProbeEndpoint}
  {source : ParsedSource} {identity : ProbeEndpointIdentity} {address : IpAddress}

theorem confined_of_checks
    (permitted : probeDestinationIsForbidden endpoint.identity.address = false)
    (isAllowed : admission.allowed 0 endpoint.identity.address = true)
    (notMapped : endpoint.identity.address.ipv4Mapped = none) : admission.Confined endpoint := by
  obtain ⟨inside, effective⟩ := Bool.and_eq_true_iff.mp isAllowed
  refine ⟨by simpa using inside, ?_, permitted, notMapped⟩
  intro answers isEffective
  rw [Option.mem_def.mp isEffective] at effective
  obtain ⟨networks, answered, inNetworks⟩ := (Option.any_eq_true _ _).mp effective
  exact ⟨networks, answered, List.any_eq_true.mp inNetworks⟩

theorem resolved_not_mapped {hostname : String} {addresses : List IpAddress}
    (resolved : admission.resolvedAddresses hostname = .ok addresses) :
    ∀ address ∈ addresses, address.ipv4Mapped = none := by
  simp only [resolvedAddresses, bind_ok, raise_if_ok, or_raise_ok] at resolved
  obtain ⟨rawAddresses, _, _, _, answers, _, isSorted⟩ := resolved
  cases isSorted
  intro address mem
  obtain ⟨answer, _, rfl⟩ :=
    List.mem_map.mp ((mem_set_order _ _).mp ((List.mem_insertionSort _).mp mem))
  exact normalized_not_mapped answer

omit [PythonNetwork] in
theorem make_endpoint_identity (ran : makeEndpoint identity source = .ok endpoint) :
    endpoint.identity = identity := by
  unfold makeEndpoint at ran
  split_ifs at ran
  cases ran
  rfl

/-- What both methods establish about an identity. -/
structure Checked (admission : ProbeEndpointAdmission) (sourceUrl : String)
    (identity : ProbeEndpointIdentity) (source : ParsedSource) (literal : Option IpAddress) :
    Prop where
  parsed : parseSourceUrl sourceUrl = .ok source
  isLiteral : literalAddress source.hostname = .ok literal
  same : ∀ address ∈ literal, normalizeAddress address = identity.address
  permitted : probeDestinationIsForbidden identity.address = false
  isAllowed : admission.allowed 0 identity.address = true
  siteKey : identity.siteKey = admission.siteKey
  policy : identity.policySha256 = admission.policySha256
  sourceSha256 : identity.sourceUrlSha256 = source.sourceSha256
  port : identity.port = source.port

theorem admit_ok (ran : admission.admitUrl generation sourceUrl = .ok endpoint) :
    endpoint.identity.address.ipv4Mapped = none ∧
      ∃ source literal, Checked admission sourceUrl endpoint.identity source literal ∧
        makeEndpoint endpoint.identity source = .ok endpoint := by
  simp only [admitUrl, bind_ok, raise_if_ok, or_raise_ok] at ran
  obtain ⟨source, parsed, _, _, addresses, ⟨literal, isLiteral, resolved⟩, _, permitted, _, isAllowed,
    _, _, first, isFirst, identity, made, endpointMade⟩ := ran
  have isIdentity := make_endpoint_identity endpointMade
  unfold makeIdentity at made
  split_ifs at made with valid
  cases made
  have notMapped : first.ipv4Mapped = none := by
    cases literal with
    | none =>
      obtain ⟨hostname, _, resolved⟩ := bind_ok.mp resolved
      exact resolved_not_mapped resolved first (List.mem_of_head? isFirst)
    | some literal =>
      cases resolved
      cases isFirst
      exact normalized_not_mapped literal
  refine ⟨isIdentity ▸ notMapped, source, literal, ?_, isIdentity ▸ endpointMade⟩
  rw [isIdentity]
  refine ⟨parsed, isLiteral, ?_, ?_, ?_, rfl, rfl, rfl, rfl⟩
  · intro address isAddress
    rw [Option.mem_def.mp isAddress] at resolved
    cases resolved
    exact Option.some.inj isFirst
  · exact Bool.eq_false_iff.mpr fun forbidden =>
      permitted ⟨first, List.mem_of_head? isFirst, forbidden⟩
  · have atZero : (first, 0) ∈ addresses.zipIdx := by
      cases addresses with
      | nil => cases isFirst
      | cons head rest =>
        cases isFirst
        exact List.mem_cons_self
    exact Bool.eq_true_of_not_eq_false fun denied => isAllowed ⟨_, atZero, denied⟩

theorem restore_ok_iff : admission.restore sourceUrl identity = .ok endpoint ↔
    ∃ source literal, Checked admission sourceUrl identity source literal ∧
      makeEndpoint identity source = .ok endpoint := by
  simp only [restore, bind_ok, raise_if_ok]
  constructor
  · rintro ⟨source, parsed, literal, isLiteral, _, passes, made⟩
    simp only [not_or, not_not, not_exists, not_and, Bool.not_eq_true, Bool.not_eq_false] at passes
    obtain ⟨siteKey, policy, sourceSha256, port, permitted, isAllowed, same⟩ := passes
    exact ⟨source, literal,
      ⟨parsed, isLiteral, same, permitted, isAllowed, siteKey, policy, sourceSha256, port⟩, made⟩
  · rintro ⟨source, literal, checked, made⟩
    refine ⟨source, checked.parsed, literal, checked.isLiteral, (), ?_, made⟩
    simp only [not_or, not_not, not_exists, not_and, Bool.not_eq_true, Bool.not_eq_false]
    exact ⟨checked.siteKey, checked.policy, checked.sourceSha256, checked.port,
      checked.permitted, checked.isAllowed, checked.same⟩

/-- What `restore` asks of an identity. -/
def Restorable (admission : ProbeEndpointAdmission) (sourceUrl : String)
    (identity : ProbeEndpointIdentity) : Prop :=
  ∃ source literal endpoint, Checked admission sourceUrl identity source literal ∧
    makeEndpoint identity source = .ok endpoint

/-- Endpoints that are admitted are confined, and their identities are restored to them, whatever
the resolver answers by then, as long as the networks in effect are the same. What is restored is
confined exactly for identities that are not mapped or fail another check. -/
theorem endpoints_confined (admission : ProbeEndpointAdmission) (sourceUrl : String) :
    (∀ generation endpoint, admission.admitUrl generation sourceUrl = .ok endpoint →
      admission.Confined endpoint ∧ ∀ resolve effectiveNetworks,
        effectiveNetworks.map (· 0) = admission.effectiveNetworks.map (· 0) →
        restore { admission with resolve, effectiveNetworks } sourceUrl endpoint.identity =
          .ok endpoint) ∧
    ∀ identity, (∀ endpoint, admission.restore sourceUrl identity = .ok endpoint →
        endpoint.identity = identity ∧ admission.Confined endpoint) ↔
      identity.address.ipv4Mapped = none ∨ ¬ admission.Restorable sourceUrl identity := by
  refine ⟨fun generation endpoint ran => ?_, fun identity => ⟨fun confines => ?_, ?_⟩⟩
  · obtain ⟨notMapped, source, literal, checked, made⟩ := admit_ok ran
    refine ⟨confined_of_checks checked.permitted checked.isAllowed notMapped, ?_⟩
    intro resolve effectiveNetworks unchanged
    refine restore_ok_iff.mpr ⟨source, literal, { checked with isAllowed := ?_ }, made⟩
    have isAllowed := checked.isAllowed
    unfold allowed at isAllowed ⊢
    cases effectiveNetworks <;> cases pre : admission.effectiveNetworks <;>
      simp_all
  · rw [or_iff_not_imp_right, not_not]
    rintro ⟨source, literal, endpoint, checked, made⟩
    obtain ⟨isIdentity, confined⟩ :=
      confines endpoint (restore_ok_iff.mpr ⟨source, literal, checked, made⟩)
    exact isIdentity ▸ confined.notMapped
  · intro condition endpoint ran
    obtain ⟨source, literal, checked, made⟩ := restore_ok_iff.mp ran
    have isIdentity := make_endpoint_identity made
    have notMapped := condition.resolve_right
      fun refused => refused ⟨source, literal, endpoint, checked, made⟩
    rw [← isIdentity] at checked notMapped
    exact ⟨isIdentity, confined_of_checks checked.permitted checked.isAllowed notMapped⟩

end ProbeEndpointAdmission

end Admission

@[reducible] def samplePython : PythonNetwork where
  toPythonText := { plainText with
    sha256Hexdigest _ := "e3b0c44298fc1c149afbf4c8996fb92427ae41e4649b934ca495991b7852b855" }
  ipAddress text := if text = "::ffff:10.0.0.5" then some (.v6 0xFFFF0A000005 none) else none
  idna text := some text
  unquote text := text
  setOrder values := values
  mem_set_order _ _ := Iff.rfl
  mappedLoopback := false

def sampleAdmission : ProbeEndpointAdmission where
  siteKey := "site-a"
  allowedNetworks := [.v4 0x0A000000 24]
  policySha256 := "e3b0c44298fc1c149afbf4c8996fb92427ae41e4649b934ca495991b7852b855"
  resolve _ := some ["::ffff:10.0.0.5"]
  effectiveNetworks := none

theorem to_option_ok {ran : Except Rejected AdmittedProbeEndpoint}
    {endpoint : AdmittedProbeEndpoint} (isOk : ran.toOption = some endpoint) :
    ran = .ok endpoint := by
  cases ran with
  | error error => cases isOk
  | ok value => exact congrArg _ (Option.some.inj isOk)

section Samples

local instance : PythonNetwork := samplePython

/-- A mapped answer is admitted as the address in it, and restored without the resolver. -/
theorem endpoints_confined_mapped :
    ∃ endpoint, endpoint.identity.address = .v4 0x0A000005 ∧ sampleAdmission.Confined endpoint ∧
      ProbeEndpointAdmission.restore { sampleAdmission with resolve := fun _ => none }
        "rtsp://camera/live" endpoint.identity = .ok endpoint := by
  have evaluated : (sampleAdmission.admitUrl 0x40008000000000000000 "rtsp://camera/live").toOption.map
      (·.identity.address) = some (.v4 0x0A000005) := by decide +kernel
  obtain ⟨endpoint, admitted, isAddress⟩ := Option.map_eq_some_iff.mp evaluated
  obtain ⟨confined, restores⟩ := (ProbeEndpointAdmission.endpoints_confined sampleAdmission _).1 _
    endpoint (to_option_ok admitted)
  exact ⟨endpoint, isAddress, confined, restores (fun _ => none) none rfl⟩

/-- The whole IPv6 space is allowed. -/
def openAdmission : ProbeEndpointAdmission :=
  { sampleAdmission with allowedNetworks := [.v6 0 0] }

def mappedIdentity : ProbeEndpointIdentity where
  generation := 0x40008000000000000000
  address := .v6 0xFFFF0A000005 none
  port := 554
  siteKey := "site-a"
  policySha256 := sampleAdmission.policySha256
  sourceUrlSha256 := sampleAdmission.policySha256
  valid := by decide +kernel

/-- An identity at `::ffff:10.0.0.5` is restored as it is. -/
theorem mapped_identity_restored :
    ¬∀ endpoint, openAdmission.restore "rtsp://camera/live" mappedIdentity = .ok endpoint →
      openAdmission.Confined endpoint := by
  intro confines
  have evaluated : (openAdmission.restore "rtsp://camera/live" mappedIdentity).toOption.map
      (·.identity.address.ipv4Mapped) = some (some 0x0A000005) := by decide +kernel
  obtain ⟨endpoint, restored, isMapped⟩ := Option.map_eq_some_iff.mp evaluated
  rw [(confines endpoint (to_option_ok restored)).notMapped] at isMapped
  cases isMapped

end Samples

end RtspProxy.Probes.Security
