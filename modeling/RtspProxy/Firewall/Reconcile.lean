import RtspProxy.Firewall.Inventory
import RtspProxy.Lib.Attempts

/-!
# The reconciliation of the firewall

`reconcile_nftables` of `nft_reconcile.py` among the calls it makes: to `nft`, to
the policy file, the transaction file and the lock. Each call may fail, before or
after it took effect. A command of `nft` is atomic, and nobody else changes the
ruleset. The ruleset keeps what no code reads: the last inventory of the table and
every change with the table and the inventory it met.
-/

namespace RtspProxy.Firewall

open Lib Lib.Program Lib.Program.Prog

/-- What `os.open`, `os.fstat` and `os.read` find of the policy. -/
structure PolicyFile where
  isRegular : Bool
  hasOneLink : Bool
  isOwned : Bool
  hasMode644 : Bool
  size : Nat
  readSize : Nat
  /-- `none` when it is not UTF-8. -/
  content : Option String

section Texts

variable (isSpace : Char → Bool)

/-- The boundaries of `str.splitlines`, apart from a pair of them. -/
def isLineBreak (char : Char) : Bool :=
  [10, 11, 12, 13, 28, 29, 30, 133, 8232, 8233].contains char.toNat

/-- `str.splitlines`, with the characters of the current line. -/
def splitLines : List Char → List Char → List (List Char)
  | current, [] => if current.isEmpty then [] else [current]
  | current, '\r' :: '\n' :: rest => current :: splitLines [] rest
  | current, char :: rest =>
    if isLineBreak char then current :: splitLines [] rest
    else splitLines (current ++ [char]) rest

def strip (text : List Char) : List Char :=
  ((text.dropWhile isSpace).reverse.dropWhile isSpace).reverse

/-- `needle in text`. -/
def isIn (needle text : List Char) : Bool := text.tails.any needle.isPrefixOf

/-- `text.count(needle)`: what follows an occurrence is searched on, at most as often as the text
is long. -/
def countIn (needle : List Char) : Nat → List Char → Nat
  | 0, _ => 0
  | _, [] => 0
  | fuel + 1, char :: rest =>
    if needle.isPrefixOf (char :: rest) then
      1 + countIn needle fuel ((char :: rest).drop needle.length)
    else countIn needle fuel rest

/-- The policy without its first line if that names an interpreter, stripped. -/
def policyText (content : String) : List Char :=
  let lines := splitLines [] content.toList
  let lines := match lines with
    | first :: rest => if "#!".toList.isPrefixOf first then rest else first :: rest
    | [] => []
  strip isSpace (List.intercalate ['\n'] lines) ++ ['\n']

/-- `_canonical_transaction`, without the deletion. -/
def policyContent (file : PolicyFile) : Except Error String :=
  if file.isRegular = false ∨ file.hasOneLink = false ∨ file.isOwned = false ∨
      file.hasMode644 = false ∨ file.size < 1 ∨ 65536 < file.size then
    reconcileError "nft_policy_unsafe"
  else if file.readSize ≠ file.size then reconcileError "nft_policy_unsafe"
  else
    match file.content with
    | none => reconcileError "nft_policy_invalid"
    | some content =>
      let text := policyText isSpace content
      if countIn s!"table {tableFamily} {tableName} \x7b".toList text.length text ≠ 1 ∨
          isIn s!"comment \"{ownershipMarker}\"".toList text = false ∨
          isIn "flush ruleset".toList text = true ∨
          isIn s!"delete table {tableFamily} {tableName}".toList text = true ∨
          isIn s!"destroy table {tableFamily} {tableName}".toList text = true then
        reconcileError "nft_policy_invalid"
      else .ok (String.ofList text)

end Texts

def deletion : String := s!"delete table {tableFamily} {tableName}\n"

/-- Another table, as `nft list tables` prints it. -/
structure OtherTable where
  family : String
  name : String
  more : Members

/-- A change of the table: what was there, and the inventory that was last taken. -/
structure Change where
  isTransaction : Bool
  table : Option Json
  inventory : Option Json

structure Ruleset where
  /-- What `nft list table` prints of the table, `none` when there is none. -/
  table : Option Json
  others : List OtherTable
  inventory : Option Json
  changes : List Change

def transactions (st : Ruleset) : Nat := st.changes.countP (·.isTransaction)

/-- What transactions do to the table, and what Python knows of characters and numbers. -/
structure Host where
  isSpace : Char → Bool
  floatIs : List Char → Int → Bool
  policy : PolicyFile
  apply : String → Option Json → Option Json
  /-- A transaction that begins with the deletion of the table loads the rest without it. -/
  apply_deletion : ∀ content table, apply (deletion ++ content) (some table) = apply content none

structure LockStatus where
  isRegular : Bool
  hasOneLink : Bool
  isOwned : Bool
  hasMode600 : Bool

inductive Call
  | openLock
  | statLock
  | flock
  | closeLock
  | readPolicy
  | writeTransaction (transaction : String)
  | unlinkTransaction
  | listTables
  | listTable
  | check (transaction : String)
  | apply (transaction : String)
  | deleteTable
  | decodeOutput
  deriving DecidableEq

abbrev Answer : Call → Type
  | .statLock => LockStatus
  | .readPolicy => PolicyFile
  | .listTables | .listTable => Json
  | _ => Unit

abbrev NftProg := Prog Call Answer Error

abbrev NftTrial := Trial Ruleset Call

abbrev attempt (req : Call) : NftProg (Answer req) := ask req

def tableEntry (family name : String) (more : Members) : Json :=
  .obj [("table", .obj (("family", .str family) :: ("name", .str name) :: more))]

def listedEntries (st : Ruleset) (more : Members) : List Json :=
  (st.table.toList.map fun _ => tableEntry tableFamily tableName more) ++
    st.others.map fun other => tableEntry other.family other.name other.more

inductive Effect (host : Host) (st : Ruleset) :
    (req : Call) → Except Error (Answer req) → Ruleset → Prop
  | openLock : Effect host st .openLock (.ok ()) st
  | statLock (status : LockStatus) : Effect host st .statLock (.ok status) st
  | flock : Effect host st .flock (.ok ()) st
  | closeLock : Effect host st .closeLock (.ok ()) st
  | readPolicy : Effect host st .readPolicy (.ok host.policy) st
  | writeTransaction (transaction : String) :
      Effect host st (.writeTransaction transaction) (.ok ()) st
  | unlinkTransaction : Effect host st .unlinkTransaction (.ok ()) st
  -- The tables come in any order, after the version of the tool.
  | listTables {entries : List Json} (version : Json) (more : Members)
      (lists : entries.Perm (.obj [("metainfo", version)] :: listedEntries st more)) :
      Effect host st .listTables (.ok (.obj [("nftables", .arr entries)]))
        { st with inventory := if st.table = none then none else st.inventory }
  | listTable {table : Json} (present : st.table = some table) :
      Effect host st .listTable (.ok table) { st with inventory := some table }
  | noTable (missing : st.table = none) :
      Effect host st .listTable (.error (.reconcileError "nft_inventory_failed")) st
  | check (transaction : String) : Effect host st (.check transaction) (.ok ()) st
  | apply (transaction : String) :
      Effect host st (.apply transaction) (.ok ())
        { st with
          table := host.apply transaction st.table
          changes := st.changes ++ [⟨true, st.table, st.inventory⟩] }
  | deleteTable (present : st.table.isSome = true) :
      Effect host st .deleteTable (.ok ())
        { st with
          table := none
          changes := st.changes ++ [⟨false, st.table, st.inventory⟩] }
  | nothingToDelete (missing : st.table = none) :
      Effect host st .deleteTable (.error (.reconcileError "nft_mutation_failed")) st
  | decodeOutput : Effect host st .decodeOutput (.ok ()) st

/-- What a call raises when it fails. A check or a transaction that `nft` rejects fails as well. -/
def Lost : Call → Error → Prop
  | .openLock, err | .statLock, err | .flock, err | .closeLock, err
  | .unlinkTransaction, err => err = .osError
  | .readPolicy, err => err = .reconcileError "nft_policy_invalid"
  | .writeTransaction _, err => err = .reconcileError "nft_transaction_write_failed"
  | .listTables, err | .listTable, err =>
    err = .reconcileError "nft_inventory_failed" ∨
      err = .reconcileError "nft_inventory_invalid" ∨ err = .timeoutExpired ∨
      err = .osError ∨ err = .unicodeDecodeError ∨ err = .valueError ∨
      err = .recursionError
  | .decodeOutput, err => err = .unicodeDecodeError
  | .check _, err | .apply _, err | .deleteTable, err =>
    err = .reconcileError "nft_mutation_failed"

def tools (host : Host) : Tools Call Answer Error Ruleset where
  effect := Effect host
  lost := Lost

def ensuring {Result : Type} (prog : NftProg Result) (cleanup : NftProg Unit) :
    NftProg Result :=
  prog.andThen fun out => cleanup >>= fun _ => .done out

/-- `_run`: whether the command failed is looked at only when its output has been decoded. -/
def runNft (command : NftProg Unit) : NftProg Unit := ensuring command (attempt .decodeOutput)

def inventory : NftProg (Option Json) :=
  attempt .listTables >>= fun tables =>
    match tableIsListed tables with
    | .error err => raise err
    | .ok false => pure none
    | .ok true => attempt .listTable >>= fun table => pure (some table)

def requireOwnershipMarker (payload : Json) : NftProg Unit :=
  if hasOwnershipMarker payload = true then pure ()
  else raise (.reconcileError "nft_table_ownership_unproven")

def canonicalTransaction (host : Host) (replace : Bool) : NftProg String :=
  attempt .readPolicy >>= fun file =>
    match policyContent host.isSpace file with
    | .error err => raise err
    | .ok content => pure ((if replace = true then deletion else "") ++ content)

/-- `if inventory is not None: _require_ownership_marker(inventory)`. -/
def requireOwned (found : Option Json) : NftProg Unit :=
  match found with
  | some payload => requireOwnershipMarker payload
  | none => pure ()

/-- The handler of a transaction that failed; `last` is `attempt == 1`. -/
def afterMutationError (last : Bool) (err : Error) : NftProg Bool :=
  inventory >>= fun observed =>
  (match observed with
    | some payload =>
      requireOwnershipMarker payload >>= fun _ =>
      if last = true then runNft (attempt .deleteTable) else pure ()
    | none => pure ()) >>= fun _ =>
  if last = true then raise err else pure false

/-- The check and the transaction; whether the loop ends. -/
def applyTransaction (last : Bool) (transaction : String) : NftProg Bool :=
  runNft (attempt (.check transaction)) >>= fun _ =>
  (runNft (attempt (.apply transaction)) >>= fun _ => pure true).handle fun err =>
    match err with
    | .reconcileError code => afterMutationError last (.reconcileError code)
    | other => raise other

def reconcileOnce (host : Host) (last : Bool) : NftProg Bool :=
  inventory >>= fun found =>
  requireOwned found >>= fun _ =>
  canonicalTransaction host found.isSome >>= fun transaction =>
  attempt (.writeTransaction transaction) >>= fun _ =>
  ensuring (applyTransaction last transaction) (attempt .unlinkTransaction)

def verifyInstalled (host : Host) : NftProg Unit :=
  inventory >>= fun installed =>
    (match installed with
      | none => (raise (.reconcileError "nft_install_missing") : NftProg Unit)
      | some payload => .done (validateOwnedTable host.floatIs payload)).handle fun err =>
        match err with
        | .reconcileError code =>
          (if installed.any hasOwnershipMarker = true then runNft (attempt .deleteTable)
            else pure ()) >>= fun _ => raise (.reconcileError code)
        | other => raise other

def lockError : Error → Error
  | .osError => .reconcileError "nft_lock_failed"
  | err => err

/-- `_mutation_lock`. -/
def withMutationLock (body : NftProg Unit) : NftProg Unit :=
  (attempt .openLock).handle (fun err => raise (lockError err)) >>= fun _ =>
  ensuring
    ((attempt .statLock >>= fun status =>
      (if status.isRegular = false ∨ status.hasOneLink = false ∨ status.isOwned = false ∨
          status.hasMode600 = false then
        raise (.reconcileError "nft_lock_unsafe")
      else attempt .flock) >>= fun _ =>
      body).handle fun err => raise (lockError err))
    (attempt .closeLock)

def reconcileNftables (host : Host) : NftProg Unit :=
  withMutationLock
    (reconcileOnce host false >>= fun done =>
      (if done = true then pure true else reconcileOnce host true) >>= fun _ =>
      verifyInstalled host)

end RtspProxy.Firewall
