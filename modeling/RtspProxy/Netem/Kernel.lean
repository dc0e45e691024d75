import RtspProxy.Lib.Attempts
import RtspProxy.Netem.Inventory

/-!
# Installing and removing the network impairment

`install_netem` and `remove_netem` of `load_netem.py` on the inventories of two
interfaces. A command of `tc` succeeds, is rejected without an effect, or is
interrupted before or after it took effect; reading an inventory does not fail, and
nobody else changes one. Counters are no part of an inventory. The kernel keeps
what no code reads: every deletion with the inventories it met.
-/

namespace RtspProxy.Netem

open Lib Lib.Program Lib.Program.Prog

structure Inventories where
  ifb : List Members
  ingress : List Members
  filters : List Members
  egress : List Members

/-- A deletion, and what was there. -/
inductive Deletion
  | clsact (pre : Inventories)
  | root (pre : Inventories)

structure KernelState where
  inventories : Inventories
  deletions : List Deletion

inductive Device
  | ingress
  | ifb
  deriving DecidableEq

inductive TcCommand
  /-- `qdisc add dev IFB root handle 7a10: netem limit L delay Dms Jms`. -/
  | addDelay (limit : Nat) (delay jitter : String)
  /-- `qdisc add dev IFB parent 7a10:1 handle 7a20: netem limit L loss random P%`. -/
  | addLoss (limit : Nat) (loss : String)
  /-- `qdisc add dev INGRESS clsact`. -/
  | addClsact
  /-- `filter add dev INGRESS ingress ... flower ... action mirred egress redirect dev IFB`. -/
  | addFilter (flow : NetemFlow) (ifbInterface : String)
  /-- `qdisc del dev INGRESS clsact`. -/
  | deleteClsact
  /-- `qdisc del dev IFB root`. -/
  | deleteRoot
  deriving DecidableEq

inductive Call
  | link (device : Device)
  | qdiscs (device : Device)
  | ingressFilters
  | egressFilters
  | mutateTc (cmd : TcCommand)
  deriving DecidableEq

abbrev Answer : Call → Type
  | .link _ => Members
  | .qdiscs _ | .ingressFilters | .egressFilters => List Members
  | .mutateTc _ => Unit

abbrev NetemProg := Prog Call Answer Error

abbrev NetemTrial := Trial KernelState Call

abbrev attempt (req : Call) : NetemProg (Answer req) := ask req

/-- How the inventories show what the kernel attaches by itself and what commands add. -/
structure Kernel where
  default : Members
  delayQdisc : Nat → String → String → Members
  lossQdisc : Nat → String → Members
  clsact : Members
  filter : NetemFlow → String → List Members
  default_shown : isKernelDefaultQdiscInventory [default] = true
  delay_shown : ∀ limit delay jitter, textAt (delayQdisc limit delay jitter) "kind" = some "netem"
  clsact_shown : isClsact clsact = true

namespace Kernel

variable (kernel : Kernel)

/-- What a command does, where the kernel accepts it. -/
inductive Changes (pre : Inventories) : TcCommand → Inventories → Prop
  | addDelay (limit : Nat) (delay jitter : String)
      (isDefault : isKernelDefaultQdiscInventory pre.ifb = true) :
      Changes pre (.addDelay limit delay jitter)
        { pre with ifb := [kernel.delayQdisc limit delay jitter] }
  | addLoss (limit : Nat) (loss : String) :
      Changes pre (.addLoss limit loss) { pre with ifb := pre.ifb ++ [kernel.lossQdisc limit loss] }
  | addClsact (isFree : pre.ingress.any isIngressSpecial = false) :
      Changes pre .addClsact { pre with ingress := pre.ingress ++ [kernel.clsact] }
  | addFilter (flow : NetemFlow) (ifbInterface : String)
      (attached : pre.ingress.any isClsact = true) :
      Changes pre (.addFilter flow ifbInterface)
        { pre with filters := pre.filters ++ kernel.filter flow ifbInterface }
  | deleteClsact (attached : pre.ingress.any isClsact = true) :
      Changes pre .deleteClsact
        { pre with
          ingress := pre.ingress.filter fun item => !isClsact item
          filters := []
          egress := [] }
  | deleteRoot (isOther : isKernelDefaultQdiscInventory pre.ifb = false) :
      Changes pre .deleteRoot { pre with ifb := [kernel.default] }

end Kernel

def TcCommand.deletion (pre : Inventories) : TcCommand → List Deletion
  | .deleteClsact => [.clsact pre]
  | .deleteRoot => [.root pre]
  | _ => []

inductive Effect (kernel : Kernel) (st : KernelState) :
    (req : Call) → Except Error (Answer req) → KernelState → Prop
  | link (device : Device) (link : Members) :
      Effect kernel st (.link device) (.ok link) st
  | ingressQdiscs :
      Effect kernel st (.qdiscs .ingress) (.ok st.inventories.ingress) st
  | ifbQdiscs : Effect kernel st (.qdiscs .ifb) (.ok st.inventories.ifb) st
  | ingressFilters : Effect kernel st .ingressFilters (.ok st.inventories.filters) st
  | egressFilters : Effect kernel st .egressFilters (.ok st.inventories.egress) st
  | changed {cmd : TcCommand} {post : Inventories}
      (changes : kernel.Changes st.inventories cmd post) :
      Effect kernel st (.mutateTc cmd) (.ok ()) ⟨post, st.deletions ++ cmd.deletion st.inventories⟩
  | rejected (cmd : TcCommand) (code : String) :
      Effect kernel st (.mutateTc cmd) (.error (.valueError code)) st

def Lost : Call → Error → Prop
  | .mutateTc _, err => err = .interrupted
  | _, _ => False

def tools (kernel : Kernel) : Tools Call Answer Error KernelState where
  effect := Effect kernel
  lost := Lost

section Programs

variable {Value : Type} (py : Python Value) (plan : NetemSitePlan Value)

def raiseValueError {Result : Type} (code : String) : NetemProg Result := raise (.valueError code)

def requireLinks : NetemProg Unit :=
  attempt (.link .ingress) >>= fun ingress =>
  attempt (.link .ifb) >>= fun ifb =>
  .done (validateLinks py plan ingress ifb)

def filterSetInvalid (filters : List Members) : Error :=
  .valueError ("netem_filter_set_invalid:" ++ String.ofList
    ((Json.dumps true (Json.sortKeys (.arr (filters.map .obj)))).take 4096))

/-- The checks of `_validate_kernel_state` on the filters; sorted lists of keys are equal where the
lists are permutations of each other. -/
def validateFilters (filters : List Members) : Except Error Unit :=
  match normalizeFilterInventory filters with
  | .error _ => .error (filterSetInvalid filters)
  | .ok details =>
    if details.length ≠ plan.flows.length then .error (filterSetInvalid filters)
    else
      match parseFilters py plan.ifbInterface details with
      | .error err => .error err
      | .ok keys =>
        if keys.isPerm (plan.flows.map (·.key)) = true then .ok ()
        else valueError "netem_filter_set_invalid"

def validateKernelState : NetemProg Unit :=
  attempt (.qdiscs .ifb) >>= fun ifbQdiscs =>
    match ifbQdiscs.filter isDelayQdisc, ifbQdiscs.filter isLossQdisc with
    | [delay], [loss] =>
      if ifbQdiscs.length ≠ 2 then raiseValueError "netem_qdisc_set_invalid"
      else
        Prog.done (validateDelayNetemOptions py plan delay) >>= fun _ =>
        Prog.done (validateLossNetemOptions py plan loss) >>= fun _ =>
        attempt (.qdiscs .ingress) >>= fun ingressQdiscs =>
          match ingressQdiscs.filter isIngressSpecial with
          | [special] =>
            if isClsact special = false then raiseValueError "netem_clsact_invalid"
            else
              attempt .ingressFilters >>= fun filters =>
              attempt .egressFilters >>= fun egress =>
                if egress.isEmpty = false then
                  raiseValueError "netem_egress_filter_set_invalid"
                else .done (validateFilters py plan filters)
          | _ => raiseValueError "netem_clsact_invalid"
    | _, _ => raiseValueError "netem_qdisc_set_invalid"

/-- Whether the filters are filters of the plan, one for a flow at most: the keys they have. -/
def ownedFilterKeys (filters : List Members) : Except Error (List FlowKey) :=
  match normalizeFilterInventory filters with
  | .error _ => valueError "netem_cleanup_foreign_ingress_state"
  | .ok details =>
    match parseFilters py plan.ifbInterface details with
    | .error _ => valueError "netem_cleanup_foreign_ingress_state"
    | .ok keys =>
      if keys.Nodup ∧ ∀ key ∈ keys, key ∈ plan.flows.map (·.key) then .ok keys
      else valueError "netem_cleanup_foreign_ingress_state"

/-- Whether the disciplines of the intermediate device are those of the plan or the default: `true`
where there is something to delete. -/
def ownsIfbQdiscs (ifbQdiscs : List Members) : Except Error Bool :=
  let losses := ifbQdiscs.filter isLossQdisc
  match ifbQdiscs.filter isDelayQdisc with
  | [] =>
    if losses.isEmpty = false ∨ isKernelDefaultQdiscInventory ifbQdiscs = false then
      valueError "netem_cleanup_foreign_ifb_state"
    else .ok false
  | [delay] =>
    if 1 < losses.length ∨ ifbQdiscs.length ≠ 1 + losses.length then
      valueError "netem_cleanup_foreign_ifb_state"
    else
      match validateDelayNetemOptions py plan delay,
        losses.mapM (validateLossNetemOptions py plan) with
      | .ok _, .ok _ => .ok true
      | _, _ => valueError "netem_cleanup_foreign_ifb_state"
  | _ => valueError "netem_cleanup_foreign_ifb_state"

/-- The deletion of `clsact` and the proof that it is gone. -/
def removeClsact : NetemProg Unit :=
  (attempt (.mutateTc .deleteClsact)).handle (fun _ => pure ()) >>= fun _ =>
  attempt .ingressFilters >>= fun remainingFilters =>
  attempt (.qdiscs .ingress) >>= fun remainingIngress =>
    if remainingFilters.isEmpty = false then
      raiseValueError "netem_cleanup_ingress_filter_remains"
    else if remainingIngress.any isIngressSpecial = true then
      raiseValueError "netem_cleanup_ingress_qdisc_remains"
    else pure ()

/-- The deletion of the root discipline and the proof that it is gone. -/
def removeRoot (isOwned : Bool) : NetemProg Unit :=
  (if isOwned = true then (attempt (.mutateTc .deleteRoot)).handle fun _ => pure ()
    else pure ()) >>= fun _ =>
  attempt (.qdiscs .ifb) >>= fun remaining =>
    if isKernelDefaultQdiscInventory remaining = false then
      raiseValueError "netem_cleanup_ifb_qdisc_remains"
    else pure ()

def cleanupOwnedNetem : NetemProg Unit :=
  attempt .ingressFilters >>= fun filters =>
  attempt .egressFilters >>= fun egress =>
    if egress.isEmpty = false then raiseValueError "netem_cleanup_foreign_egress_state"
    else
      attempt (.qdiscs .ingress) >>= fun ingressQdiscs =>
        let special := ingressQdiscs.filter isIngressSpecial
        if 1 < special.length ∨ special.all isClsact = false then
          raiseValueError "netem_cleanup_foreign_ingress_state"
        else
          Prog.done (ownedFilterKeys py plan filters) >>= fun keys =>
            if keys.isEmpty = false ∧ special.isEmpty = true then
              raiseValueError "netem_cleanup_foreign_ingress_state"
            else
              attempt (.qdiscs .ifb) >>= fun ifbQdiscs =>
              Prog.done (ownsIfbQdiscs py plan ifbQdiscs) >>= fun isOwned =>
                if special.isEmpty = false ∧ keys.isEmpty = true ∧ isOwned = false then
                  raiseValueError "netem_cleanup_foreign_ingress_state"
                else
                  (if special.isEmpty = false then removeClsact else pure ()) >>= fun _ =>
                  removeRoot isOwned

def requireClean : NetemProg Unit :=
  attempt .ingressFilters >>= fun filters =>
    if filters.isEmpty = false then raiseValueError "netem_ingress_filter_not_clean"
    else
      attempt (.qdiscs .ingress) >>= fun ingressQdiscs =>
        if ingressQdiscs.any isIngressSpecial = true then
          raiseValueError "netem_ingress_qdisc_not_clean"
        else
          attempt (.qdiscs .ifb) >>= fun ifbQdiscs =>
            if isKernelDefaultQdiscInventory ifbQdiscs = false then
              raiseValueError "netem_ifb_qdisc_not_clean"
            else pure ()

def addDelayCommand : TcCommand :=
  .addDelay plan.queueLimitPackets (decimal py plan.delayMs ++ "ms")
    (decimal py plan.jitterMs ++ "ms")

def addLossCommand : TcCommand :=
  .addLoss lossQueueLimitPackets (decimal py plan.lossPercent ++ "%")

def addFilters : List NetemFlow → NetemProg Unit
  | [] => pure ()
  | flow :: rest =>
    attempt (.mutateTc (.addFilter flow plan.ifbInterface)) >>= fun _ => addFilters rest

def cleanupIncomplete : Error := .valueError "netem_install_failed_cleanup_incomplete"

/-- The handler of `install_netem` once a command may have been applied. -/
def undo (err : Error) : NetemProg Unit :=
  (cleanupOwnedNetem py plan).handle (fun _ => raise cleanupIncomplete) >>= fun _ =>
  raise err

/-- The first command: a rejection proves that nothing was applied. -/
def addFirst : NetemProg Unit :=
  (attempt (.mutateTc (addDelayCommand py plan))).handle fun err =>
    match err with
    | .valueError code => raise (.valueError code)
    | .interrupted => undo py plan .interrupted

def addRest : NetemProg Unit :=
  attempt (.mutateTc (addLossCommand py plan)) >>= fun _ =>
  attempt (.mutateTc .addClsact) >>= fun _ =>
  addFilters plan plan.flows >>= fun _ =>
  requireLinks py plan >>= fun _ =>
  validateKernelState py plan

def installNetem : NetemProg Unit :=
  requireLinks py plan >>= fun _ =>
  requireClean >>= fun _ =>
  addFirst py plan >>= fun _ =>
  (addRest py plan).handle (undo py plan)

def removeNetem : NetemProg Unit :=
  requireLinks py plan >>= fun _ => cleanupOwnedNetem py plan

end Programs

end RtspProxy.Netem
