import RtspProxy.Lib.Json

/-!
# Plans and kernel inventories of the network impairment

The values of `load_netem.py`, and what it reads from the inventories of `tc` and
`ip`: default queueing disciplines, those of a plan, the filters of its flows. The
arithmetic of floats and the parsing of addresses are parameters. What follows
holds for any of them.
-/

namespace RtspProxy.Netem

open Lib

inductive Error
  | valueError (code : String)
  /-- A timeout or an interruption, which is no `ValueError`. -/
  | interrupted
  deriving DecidableEq

def valueError {Result : Type} (code : String) : Except Error Result := .error (.valueError code)

structure NetemFlow where
  sourceIpv4 : String
  sourcePort : Nat
  preference : Nat
  deriving DecidableEq

/-- `NetemFlowCounters.key`. -/
abbrev FlowKey := Nat × String × Nat

def NetemFlow.key (flow : NetemFlow) : FlowKey :=
  (flow.preference, flow.sourceIpv4, flow.sourcePort)

/-- A `NetemSitePlan`, as far as it is installed; `Value` are the floats. -/
structure NetemSitePlan (Value : Type) where
  ingressInterface : String
  ifbInterface : String
  ingressMtuBytes : Nat
  delayMs : Value
  jitterMs : Value
  lossPercent : Value
  queueLimitPackets : Nat
  flows : List NetemFlow

def delayHandle : String := "7a10:"

def lossHandle : String := "7a20:"

def lossParent : String := "7a10:1"

def lossQueueLimitPackets : Nat := 4294967295

/-- Floats and addresses of Python. -/
structure Python (Value : Type) where
  /-- `format(value, ".9f")`. -/
  format9 : Value → String
  /-- `value / 1000` and `value / 100`. -/
  thousandth : Value → Value
  hundredth : Value → Value
  zero : Value
  /-- `abs(value - expected) <= 1e-9`, for a number that is no boolean. -/
  near : Json → Value → Bool
  /-- `value == expected`, for any value. -/
  isInt : Json → Int → Bool
  /-- The address and the prefix length of `ipaddress.IPv4Network`, or what it raises. -/
  ipv4Network : String → Except String (String × Nat)
  /-- `ipaddress.IPv6Address(local).is_link_local`; `false` for no address. -/
  isLinkLocal : String → Bool

section Inventories

variable {Value : Type} (py : Python Value)

def decimal (value : Value) : String :=
  let text := ((py.format9 value).toList.reverse.dropWhile (· = '0')).dropWhile (· = '.')
  if text.isEmpty then "0" else String.ofList text.reverse

def ifbAddressInventoryIsDedicated : Option Json → Bool
  | some (.arr entries) => entries.all fun entry =>
    match membersOf entry with
    | none => false
    | some entry =>
      textAt entry "family" = some "inet6" && textAt entry "scope" = some "link" &&
        match textAt entry "local" with
        | some address => py.isLinkLocal address
        | none => false
  | _ => false

def isUp (link : Members) : Bool :=
  match link.lookup "flags" with
  | some (.arr flags) => flags.any fun flag => match flag with | .str text => text = "UP" | _ => false
  | _ => false

def isPositiveInt : Option Json → Bool
  | some (.int value) => 0 < value
  | _ => false

/-- `_validate_links`, on the two links. -/
def validateLinks (plan : NetemSitePlan Value) (ingress ifb : Members) : Except Error Unit :=
  let mtu := fun (link : Members) => py.isInt ((link.lookup "mtu").getD .null)
    plan.ingressMtuBytes
  if textAt ingress "ifname" ≠ some plan.ingressInterface ∨ mtu ingress = false ∨
      isUp ingress = false ∨ textAt ifb "ifname" ≠ some plan.ifbInterface ∨ mtu ifb = false ∨
      isUp ifb = false then
    valueError "netem_link_contract_invalid"
  else if (objectAt ifb "linkinfo").bind (textAt · "info_kind") ≠ some "ifb" ∨
      (ifb.lookup "master").isSome = true ∨
      ifbAddressInventoryIsDedicated py (ifb.lookup "addr_info") = false then
    valueError "netem_ifb_not_dedicated"
  else if isPositiveInt (ingress.lookup "ifindex") = false then
    valueError "netem_ingress_ifindex_invalid"
  else if isPositiveInt (ifb.lookup "ifindex") = false then
    valueError "netem_ifb_ifindex_invalid"
  else .ok ()

def isRoot (item : Members) : Bool :=
  match item.lookup "root" with
  | some (.bool value) => value
  | _ => false

def isKernelDefaultQdiscInventory : List Members → Bool
  | [item] =>
    match textAt item "kind" with
    | some kind => kind ≠ "" && !(["netem", "clsact", "ingress"].contains kind) &&
        textAt item "handle" = some "0:" && isRoot item
    | none => false
  | _ => false

/-- `item.get("kind") in {"clsact", "ingress"}`. -/
def isIngressSpecial (item : Members) : Bool :=
  textAt item "kind" = some "clsact" || textAt item "kind" = some "ingress"

def isClsact (item : Members) : Bool := textAt item "kind" = some "clsact"

def isDelayQdisc (item : Members) : Bool :=
  textAt item "kind" = some "netem" && textAt item "handle" = some delayHandle && isRoot item

def isLossQdisc (item : Members) : Bool :=
  textAt item "kind" = some "netem" && textAt item "handle" = some lossHandle &&
    textAt item "parent" = some lossParent

/-- `not in (None, False)` and `not in (None, 0)`, negated. -/
def isNoneOrZero : Option Json → Bool
  | none | some .null => true
  | some (.bool value) => !value
  | some number => py.isInt number 0

/-- The keys every qdisc may have, the limit and the absence of anything else. -/
def checkNetemOptions (options : Members) (timing : String) (limit : Nat) : Bool :=
  (options.all fun item => ["limit", timing, "ecn", "gap"].contains item.1) &&
    py.isInt ((options.lookup "limit").getD .null) limit &&
    isNoneOrZero py (options.lookup "ecn") && isNoneOrZero py (options.lookup "gap")

/-- `_near` of a member, with the default of the code when it is missing. -/
def nearAt (members : Members) (key : String) (missing : Json) (want : Value) : Bool :=
  py.near ((members.lookup key).getD missing) want

def validateDelayNetemOptions (plan : NetemSitePlan Value) (item : Members) : Except Error Unit :=
  match objectAt item "options" with
  | none => valueError "netem_qdisc_options_invalid"
  | some options =>
    match objectAt options "delay" with
    | none => valueError "netem_qdisc_options_invalid"
    | some delay =>
      if checkNetemOptions py options "delay" plan.queueLimitPackets &&
          nearAt py delay "delay" .null (py.thousandth plan.delayMs) &&
          nearAt py delay "jitter" .null (py.thousandth plan.jitterMs) &&
          nearAt py delay "correlation" (.int 0) py.zero then
        .ok ()
      else valueError "netem_qdisc_options_invalid"

def validateLossNetemOptions (plan : NetemSitePlan Value) (item : Members) : Except Error Unit :=
  match objectAt item "options" with
  | none => valueError "netem_loss_qdisc_options_invalid"
  | some options =>
    match objectAt options "loss-random" with
    | none => valueError "netem_loss_qdisc_options_invalid"
    | some loss =>
      if checkNetemOptions py options "loss-random" lossQueueLimitPackets &&
          nearAt py loss "loss" .null (py.hundredth plan.lossPercent) &&
          nearAt py loss "correlation" (.int 0) py.zero then
        .ok ()
      else valueError "netem_loss_qdisc_options_invalid"

def hasOptions (item : Members) : Bool := (item.lookup "options").isSome

/-- The `repr` of the key of a classifier, by which both lists are sorted. -/
def classifierKey (item : Members) : List Char :=
  Json.dumps false (.arr (["protocol", "pref", "kind", "chain"].map fun key =>
    (item.lookup key).getD .null))

def classifierKeys (items : List Members) : List String :=
  (items.map fun item => String.ofList (classifierKey item)).insertionSort (· ≤ ·)

def isHeader (item : Members) : Bool :=
  (item.all fun mem => ["protocol", "pref", "kind", "chain"].contains mem.1) &&
    ["protocol", "pref", "kind", "chain"].all fun key => (item.lookup key).isSome

def normalizeFilterInventory (items : List Members) : Except Error (List Members) :=
  let details := items.filter hasOptions
  let headers := items.filter fun item => !hasOptions item
  if headers.isEmpty then .ok details
  else if headers.length ≠ details.length ∨ headers.all isHeader = false then
    valueError "netem_filter_header_set_invalid"
  else if classifierKeys headers ≠ classifierKeys details then
    valueError "netem_filter_header_set_invalid"
  else .ok details

/-- `isinstance(value, int)`: booleans are integers. -/
def intOf : Option Json → Option Int
  | some (.int value) => some value
  | some (.bool value) => some (if value then 1 else 0)
  | _ => none

def isNonnegativeInt : Option Json → Bool
  | some (.int value) => 0 ≤ value
  | _ => false

/-- The one action of a filter redirects to the interface; its statistics. -/
def redirectStats (actions : Option Json) (ifbInterface : String) : Except Error Members :=
  match actions with
  | some (.arr [action]) =>
    match membersOf action with
    | none => valueError "netem_filter_set_invalid"
    | some action =>
      if textAt action "kind" ≠ some "mirred" ∨ textAt action "mirred_action" ≠ some "redirect" ∨
          textAt action "direction" ≠ some "egress" ∨
          textAt action "to_dev" ≠ some ifbInterface then
        valueError "netem_filter_set_invalid"
      else
        match objectAt action "stats" with
        | some stats => .ok stats
        | none => valueError "netem_filter_action_stats_invalid"
  | _ => valueError "netem_filter_set_invalid"

/-- The source a filter matches: exactly one address and port of TCP over IPv4. -/
def sourceOf (keys : Members) : Option (String × Int) :=
  let names := ["eth_type", "ip_proto", "src_ip", "src_port"]
  if (keys.all fun key => names.contains key.1) && (names.all fun name => (keys.lookup name).isSome) &&
      textAt keys "eth_type" = some "ipv4" && textAt keys "ip_proto" = some "tcp" then
    match textAt keys "src_ip", intOf (keys.lookup "src_port") with
    | some source, some port => some (source, port)
    | _, _ => none
  else none

/-- `_parse_filter`, as far as the key goes. What `NetemFlowCounters` rejects is a `ValueError`
too. -/
def parseFilter (item : Members) (ifbInterface : String) : Except Error FlowKey :=
  match intOf (item.lookup "pref"), objectAt item "options" with
  | some preference, some options =>
    if textAt item "protocol" ≠ some "ip" ∨ textAt item "kind" ≠ some "flower" ∨
        py.isInt ((item.lookup "chain").getD .null) 0 = false ∨
        (match options.lookup "skip_hw" with | some (.bool value) => value | _ => false) = false then
      valueError "netem_filter_set_invalid"
    else
      match (objectAt options "keys").bind sourceOf, options.lookup "actions" with
      | some (source, port), actions =>
        match py.ipv4Network source with
        | .error code => valueError code
        | .ok (address, prefixLength) =>
          if prefixLength ≠ 32 then valueError "netem_filter_set_invalid"
          else
            match redirectStats actions ifbInterface with
            | .error err => .error err
            | .ok stats =>
              if (["packets", "bytes", "drops", "overlimits"].all fun key =>
                  isNonnegativeInt (stats.lookup key)) = false then
                valueError "netem_filter_action_stats_invalid"
              else if preference < 1 ∨ 65535 < preference ∨ port < 1 ∨ 65535 < port then
                valueError "netem_flow_counters_invalid"
              else .ok (preference.toNat, address, port.toNat)
      | none, _ => valueError "netem_filter_set_invalid"
  | _, _ => valueError "netem_filter_set_invalid"

def parseFilters (ifbInterface : String) : List Members → Except Error (List FlowKey)
  | [] => .ok []
  | item :: rest =>
    match parseFilter py item ifbInterface with
    | .error err => .error err
    | .ok key =>
      match parseFilters ifbInterface rest with
      | .error err => .error err
      | .ok keys => .ok (key :: keys)

end Inventories

end RtspProxy.Netem
