import RtspProxy.Lib.Json

/-!
# Inventories of the firewall

What `nft_reconcile.py` reads from the output of `nft --json`: whether the table
is listed, whether it carries the ownership marker, and whether it is the table
the policy installs.
-/

namespace RtspProxy.Firewall

open Lib

inductive Error
  | reconcileError (code : String)
  | osError
  | timeoutExpired
  | typeError
  | unicodeDecodeError
  /-- Of `json.loads`: a number with too many digits. -/
  | valueError
  | recursionError
  deriving DecidableEq

def reconcileError {Result : Type} (code : String) : Except Error Result :=
  .error (.reconcileError code)

def ownershipMarker : String := "rtsp-proxy-owned:v1"

def tableFamily : String := "inet"

def tableName : String := "rtsp_proxy"

def requiredSets : List String :=
  ["node_ports", "syn_rate_v4", "syn_rate_v6", "connections_v4", "connections_v6",
    "node_connections"]

def requiredRuleComments : List (String × Nat) :=
  [("rtsp-proxy per-node connection cap", 1), ("rtsp-proxy per-ip-port connection cap", 2),
    ("rtsp-proxy per-ip-port SYN rate", 2)]

/-- The dictionaries of the list under `nftables`, which is the only key. -/
def inventoryEntries : Json → Except Error (List Members)
  | .obj [(key, .arr entries)] =>
    if key = "nftables" then
      match entries.mapM membersOf with
      | some found => .ok found
      | none => reconcileError "nft_inventory_invalid"
    else reconcileError "nft_inventory_invalid"
  | _ => reconcileError "nft_inventory_invalid"

/-- One entry of `_table_is_listed`: whether it is the table, unless it cannot be told. -/
def listsTable (entry : Members) : Except Error Bool :=
  match objectAt entry "table" with
  | none => .ok false
  | some table =>
    match textAt table "family", textAt table "name" with
    | some family, some name => .ok (decide (family = tableFamily ∧ name = tableName))
    | _, _ => reconcileError "nft_inventory_invalid"

def tableIsListed (payload : Json) : Except Error Bool :=
  match inventoryEntries payload with
  | .error err => .error err
  | .ok entries =>
    match entries.mapM listsTable with
    | .error err => .error err
    | .ok listed =>
      if 1 < listed.count true then reconcileError "nft_inventory_invalid"
      else .ok (decide (listed.count true = 1))

def isMarked (table : Members) : Bool :=
  textAt table "family" = some tableFamily && textAt table "name" = some tableName &&
    textAt table "comment" = some ownershipMarker

def hasOwnershipMarker : Json → Bool
  | .obj members =>
    match members.lookup "nftables" with
    | some (.arr entries) => entries.any fun entry =>
      (membersOf entry).any fun entry => (objectAt entry "table").any isMarked
    | _ => false
  | _ => false

section Validation

-- Whether the literal of a float is a value that Python compares equal to the integer.
variable (floatIs : List Char → Int → Bool)

def ownEntries (kind : String) (entries : List Members) : List Members :=
  entries.filterMap fun entry => (objectAt entry kind).filter fun found =>
    textAt found "family" = some tableFamily && textAt found "table" = some tableName

/-- The named sets of the table, the last of a name first. -/
def ownSets (entries : List Members) : List (String × Members) :=
  ((ownEntries "set" entries).filterMap fun found =>
    (textAt found "name").map fun name => (name, found)).reverse

def isHashable : Json → Bool
  | .arr _ | .obj _ => false
  | _ => true

def isText (text : String) : Json → Bool
  | .str other => other = text
  | _ => false

/-- `set(flags) != expected_flags`, negated. -/
def sameFlags (flags : List Json) (expected : List String) : Bool :=
  (flags.all fun flag => expected.any (isText · flag)) &&
    expected.all fun text => flags.any (isText text)

/-- The type a set must have: one text, or a list of them. -/
def isSetType (value : Json) : List String → Bool
  | [single] => isText single value
  | several =>
    match value with
    | .arr items => items.length == several.length &&
        (items.zip several).all fun pair => isText pair.2 pair.1
    | _ => false

def expectedSetContract : List (String × List String × List String) :=
  [("node_ports", ["inet_service"], ["interval"]),
    ("syn_rate_v4", ["ipv4_addr", "inet_service"], ["dynamic", "timeout"]),
    ("syn_rate_v6", ["ipv6_addr", "inet_service"], ["dynamic", "timeout"]),
    ("connections_v4", ["ipv4_addr", "inet_service"], ["dynamic"]),
    ("connections_v6", ["ipv6_addr", "inet_service"], ["dynamic"]),
    ("node_connections", ["inet_service"], ["dynamic"])]

/-- One turn of the loop over `expected_set_contract`. Flags that cannot be in a set raise. -/
def checkSet (sets : List (String × Members)) (expected : String × List String × List String) :
    Except Error Unit :=
  let found := (sets.lookup expected.1).getD []
  if isSetType ((found.lookup "type").getD .null) expected.2.1 = false then
    reconcileError "nft_table_drift"
  else
    match (found.lookup "flags").getD (.arr []) with
    | .arr flags =>
      if flags.all isHashable = false then .error .typeError
      else if sameFlags flags expected.2.2 = false then reconcileError "nft_table_drift"
      else .ok ()
    | _ => reconcileError "nft_table_drift"

def checkSets (sets : List (String × Members)) :
    List (String × List String × List String) → Except Error Unit
  | [] => .ok ()
  | expected :: rest =>
    match checkSet sets expected with
    | .error err => .error err
    | .ok () => checkSets sets rest

/-- `chain.get("prio") != -5`, negated. -/
def isPriority : Option Json → Bool
  | some (.int value) => value = -5
  | some (.float literal) => floatIs literal (-5)
  | _ => false

def isInputChain (chain : Members) : Bool :=
  textAt chain "name" = some "input" && textAt chain "type" = some "filter" &&
    textAt chain "hook" = some "input" && isPriority floatIs (chain.lookup "prio") &&
    textAt chain "policy" = some "accept"

/-- `comments != REQUIRED_RULE_COMMENTS`, negated. -/
def sameComments (comments : List String) : Bool :=
  (comments.all fun comment => (requiredRuleComments.map (·.1)).contains comment) &&
    requiredRuleComments.all fun required => comments.count required.1 = required.2

def validateOwnedTable (payload : Json) : Except Error Unit :=
  match inventoryEntries payload with
  | .error err => .error err
  | .ok entries =>
    let sets := ownSets entries
    let chains := ownEntries "chain" entries
    let comments := (ownEntries "rule" entries).filterMap (textAt · "comment")
    match entries.filterMap (objectAt · "table") with
    | [table] =>
      if isMarked table = false then reconcileError "nft_table_ownership_unproven"
      else if (sets.all fun found => requiredSets.contains found.1) = false ∨
          (requiredSets.all fun name => (sets.map (·.1)).contains name) = false then
        reconcileError "nft_table_drift"
      else
        match checkSets sets expectedSetContract with
        | .error err => .error err
        | .ok () =>
          if chains.length ≠ 1 ∨ chains.all (isInputChain floatIs) = false then
            reconcileError "nft_table_drift"
          else if sameComments comments = false then reconcileError "nft_table_drift"
          else .ok ()
    | _ => reconcileError "nft_table_ownership_unproven"

end Validation

end RtspProxy.Firewall
