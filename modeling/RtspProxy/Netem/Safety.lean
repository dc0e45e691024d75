import RtspProxy.Netem.Kernel

/-!
# Installation and removal leave nothing half done

A reading changes nothing, so a run is followed through the inventories its
commands make. Whatever the cleanup deletes belongs to the plan, and when it
returns nothing of a plan is left; an installation that is undone is therefore
back at the inventories it started from.
-/

namespace RtspProxy.Netem

open Lib Lib.Program Lib.Program.Prog List

section Safety

variable {Value : Type} {py : Python Value} {kernel : Kernel} {plan : NetemSitePlan Value}
  {trial : NetemTrial} {st : KernelState}

/-- A queueing discipline of the intermediate device with the values of the plan. -/
def IsPlanQdisc (py : Python Value) (plan : NetemSitePlan Value) (item : Members) : Prop :=
  (isDelayQdisc item = true ∧ validateDelayNetemOptions py plan item = .ok ()) ∨
    (isLossQdisc item = true ∧ validateLossNetemOptions py plan item = .ok ())

def ArePlanFilters (py : Python Value) (plan : NetemSitePlan Value) (filters : List Members) :
    Prop :=
  ∃ details keys, normalizeFilterInventory filters = .ok details ∧
    parseFilters py plan.ifbInterface details = .ok keys ∧
    ∀ key ∈ keys, key ∈ plan.flows.map (·.key)

/-- The delay discipline is there, and every discipline has the values of the plan. -/
def ArePlanQdiscs (py : Python Value) (plan : NetemSitePlan Value) (items : List Members) :
    Prop :=
  (∃ delay ∈ items, isDelayQdisc delay = true) ∧ ∀ item ∈ items, IsPlanQdisc py plan item

/-- Everything the deletion removed belongs to the plan. A `clsact` does if it is the only one of
its kind, nothing foreign hangs on it, and filters or the disciplines of the plan are there. -/
def IsOwnDeletion (py : Python Value) (plan : NetemSitePlan Value) : Deletion → Prop
  | .clsact pre =>
    (∃ special, pre.ingress.filter isIngressSpecial = [special] ∧ isClsact special = true) ∧
      pre.egress = [] ∧ ArePlanFilters py plan pre.filters ∧
      (pre.filters ≠ [] ∨ ArePlanQdiscs py plan pre.ifb)
  | .root pre => ArePlanQdiscs py plan pre.ifb

/-- Default inventories: no `clsact`, no filter, and the discipline the kernel attaches. -/
structure IsDefault (inventories : Inventories) : Prop where
  ifb : isKernelDefaultQdiscInventory inventories.ifb = true
  ingress : inventories.ingress.any isIngressSpecial = false
  filters : inventories.filters = []
  egress : inventories.egress = []

def planned (py : Python Value) (kernel : Kernel) (plan : NetemSitePlan Value)
    (start : Inventories) : Inventories where
  ifb :=
    [kernel.delayQdisc plan.queueLimitPackets (decimal py plan.delayMs ++ "ms")
        (decimal py plan.jitterMs ++ "ms"),
      kernel.lossQdisc lossQueueLimitPackets (decimal py plan.lossPercent ++ "%")]
  ingress := start.ingress ++ [kernel.clsact]
  filters := plan.flows.flatMap (kernel.filter · plan.ifbInterface)
  egress := []

def At (st : KernelState) (trial : NetemTrial) : Prop := trial.state = st

theorem reading {req : Call} {ans : Answer req} (isAt : At st trial)
    (reads : ∀ out left, Effect kernel st req out left → out = .ok ans ∧ left = st)
    (reliable : ∀ err, ¬ Lost req err) :
    Tries (tools kernel) (Returns (fun value after => value = ans ∧ At st after)
      fun _ _ => False) (attempt req) trial := by
  refine tries_ask ?_ ?_ ?_
  · intro out left effect
    rw [isAt] at effect
    obtain ⟨rfl, rfl⟩ := reads out left effect
    exact ⟨rfl, rfl⟩
  · intro err lost
    exact absurd lost (reliable err)
  · intro out left err _ lost
    exact absurd lost (reliable err)

variable {Final : Type}

variable {post : Except Error Final → NetemTrial → Prop}

theorem read_then {req : Call} {ans : Answer req} {prog : Answer req → NetemProg Final}
    (isAt : At st trial)
    (reads : ∀ out left, Effect kernel st req out left → out = .ok ans ∧ left = st)
    (reliable : ∀ err, ¬ Lost req err)
    (continues : ∀ after, At st after → Tries (tools kernel) post (prog ans) after) :
    Tries (tools kernel) post (attempt req >>= prog) trial := by
  refine safe_then (reading isAt reads reliable) (fun _ _ impossible => impossible.elim) ?_
  rintro value after ⟨rfl, isAfter⟩
  exact continues after isAfter

variable {prog : List Members → NetemProg Final}

theorem ingress_filters_then (isAt : At st trial) (continues : ∀ after, At st after →
      Tries (tools kernel) post (prog st.inventories.filters) after) :
    Tries (tools kernel) post (attempt .ingressFilters >>= prog) trial :=
  read_then isAt (by rintro _ _ ⟨⟩; exact ⟨rfl, rfl⟩) (fun _ => id) continues

theorem egress_filters_then (isAt : At st trial) (continues : ∀ after, At st after →
      Tries (tools kernel) post (prog st.inventories.egress) after) :
    Tries (tools kernel) post (attempt .egressFilters >>= prog) trial :=
  read_then isAt (by rintro _ _ ⟨⟩; exact ⟨rfl, rfl⟩) (fun _ => id) continues

theorem ingress_qdiscs_then (isAt : At st trial) (continues : ∀ after, At st after →
      Tries (tools kernel) post (prog st.inventories.ingress) after) :
    Tries (tools kernel) post (attempt (.qdiscs .ingress) >>= prog) trial :=
  read_then isAt (by rintro _ _ ⟨⟩; exact ⟨rfl, rfl⟩) (fun _ => id) continues

theorem ifb_qdiscs_then (isAt : At st trial) (continues : ∀ after, At st after →
      Tries (tools kernel) post (prog st.inventories.ifb) after) :
    Tries (tools kernel) post (attempt (.qdiscs .ifb) >>= prog) trial :=
  read_then isAt (by rintro _ _ ⟨⟩; exact ⟨rfl, rfl⟩) (fun _ => id) continues

theorem require_links_settled (isAt : At st trial) :
    Tries (tools kernel) (fun _ => At st) (requireLinks py plan) trial := by
  have link : ∀ device cur, At st cur →
      Tries (tools kernel) (Returns (fun _ => At st) fun _ => At st)
        (attempt (.link device)) cur := by
    intro device cur isCurrent
    refine tries_ask ?_ (fun _ lost => lost.elim) (fun _ _ _ _ lost => lost.elim)
    rintro _ _ ⟨⟩
    exact isCurrent
  refine safe_then (link .ingress trial isAt) (fun _ _ holds => holds) ?_
  intro ingress after isAfter
  refine safe_then (link .ifb after isAfter) (fun _ _ holds => holds) ?_
  exact fun ifb last isLast => isLast

theorem mutate_settled {cmd : TcCommand} {done : KernelState → Prop} (isAt : At st trial)
    (changed : ∀ after, kernel.Changes st.inventories cmd after →
      done ⟨after, st.deletions ++ cmd.deletion st.inventories⟩) :
    Tries (tools kernel) (Returns (fun _ after => done after.state)
      fun err after => At st after ∨ (err = .interrupted ∧ done after.state))
      (attempt (.mutateTc cmd)) trial := by
  refine tries_ask ?_ ?_ ?_
  · intro ans left effect
    rw [isAt] at effect
    cases effect with
    | changed changes => exact changed _ changes
    | rejected => exact .inl rfl
  · intro err _
    exact .inl isAt
  · intro ans left err effect lost
    rw [isAt] at effect
    cases effect with
    | changed changes => exact .inr ⟨lost, changed _ changes⟩
    | rejected => exact .inl rfl

theorem try_command_settled {cmd : TcCommand} {done : KernelState → Prop} (isAt : At st trial)
    (changed : ∀ after, kernel.Changes st.inventories cmd after →
      done ⟨after, st.deletions ++ cmd.deletion st.inventories⟩) :
    Tries (tools kernel) (Returns (fun _ after => At st after ∨ done after.state)
      fun _ _ => False)
      ((attempt (.mutateTc cmd)).handle fun _ => pure ()) trial := by
  refine safe_handle (fun _ after => At st after ∨ done after.state) ?_ ?_
  · refine safe_weaken (mutate_settled isAt changed) ?_
    intro out after settled
    cases out with
    | ok res => exact .inr settled
    | error err => exact settled.elim .inl fun interrupted => .inr interrupted.2
  · exact fun err after settled => safe_pure settled

/-- What a cleanup may have done so far. -/
structure Within (py : Python Value) (kernel : Kernel) (plan : NetemSitePlan Value)
    (start state : KernelState) : Prop where
  ifb : state.inventories.ifb = start.inventories.ifb ∨ state.inventories.ifb = [kernel.default]
  ingress : state.inventories.ingress = start.inventories.ingress ∨
    state.inventories.ingress = start.inventories.ingress.filter fun item => !isClsact item
  deletions : ∀ deletion ∈ state.deletions,
    deletion ∈ start.deletions ∨ IsOwnDeletion py plan deletion

theorem within_refl (start : KernelState) : Within py kernel plan start start :=
  ⟨.inl rfl, .inl rfl, fun _ mem => .inl mem⟩

/-- The ingress side is clean. -/
structure NoIngress (state : KernelState) : Prop where
  ingress : state.inventories.ingress.any isIngressSpecial = false
  filters : state.inventories.filters = []
  egress : state.inventories.egress = []

theorem remove_clsact_settled (isAt : At st trial)
    (own : IsOwnDeletion py plan (.clsact st.inventories)) :
    Tries (tools kernel) (Returns
      (fun _ after => Within py kernel plan st after.state ∧ NoIngress after.state ∧
        after.state.inventories.ifb = st.inventories.ifb)
      fun _ after => Within py kernel plan st after.state) removeClsact trial := by
  let done := fun after : KernelState => Within py kernel plan st after ∧
    after.inventories.ifb = st.inventories.ifb ∧ after.inventories.egress = []
  have deleted := @try_command_settled kernel trial st .deleteClsact done isAt (by
    intro after changes
    cases changes with
    | deleteClsact =>
      refine ⟨⟨.inl rfl, .inr rfl, ?_⟩, rfl, rfl⟩
      intro deletion mem
      rcases mem_append.mp mem with pre | isLast
      · exact .inl pre
      · rw [mem_singleton.mp isLast]
        exact .inr own)
  refine safe_then deleted (fun _ _ impossible => impossible.elim) ?_
  intro _ after settled
  have isDone : done after.state := by
    rcases settled with isSame | holds
    · rw [isSame]
      exact ⟨within_refl st, rfl, own.2.1⟩
    · exact holds
  obtain ⟨within, isIfb, noEgress⟩ := isDone
  refine ingress_filters_then rfl ?_
  intro filtersRead isFilters
  refine ingress_qdiscs_then isFilters ?_
  intro ingressRead isIngress
  rw [← isIngress] at within isIfb noEgress ⊢
  split
  · exact safe_raise within
  split
  · exact safe_raise within
  · rename_i noFilters noSpecial
    refine safe_pure ⟨within, ⟨by simpa using noSpecial, ?_, noEgress⟩, isIfb⟩
    simpa using noFilters

variable {start : KernelState}

theorem remove_root_settled {isOwned : Bool} (isAt : At st trial)
    (within : Within py kernel plan start st) (clean : NoIngress st)
    (own : isOwned = true → IsOwnDeletion py plan (.root st.inventories)) :
    Tries (tools kernel) (Returns
      (fun _ after => Within py kernel plan start after.state ∧
        IsDefault after.state.inventories)
      fun _ after => Within py kernel plan start after.state) (removeRoot isOwned) trial := by
  let done := fun after : KernelState => Within py kernel plan start after ∧ NoIngress after
  have removed : Tries (tools kernel) (Returns (fun _ after => done after.state) fun _ _ => False)
      (if isOwned = true then (attempt (.mutateTc .deleteRoot)).handle fun _ => pure ()
        else pure ()) trial := by
    split
    · rename_i owned
      have deleted := @try_command_settled kernel trial st .deleteRoot done isAt (by
        intro after changes
        cases changes with
        | deleteRoot =>
          refine ⟨⟨.inr rfl, within.ingress, ?_⟩, clean.ingress, clean.filters, clean.egress⟩
          intro deletion mem
          rcases mem_append.mp mem with pre | isLast
          · exact within.deletions deletion pre
          · rw [mem_singleton.mp isLast]
            exact .inr (own owned))
      refine safe_weaken deleted ?_
      intro out after settled
      cases out with
      | ok res =>
        rcases settled with isSame | holds
        · change done after.state
          rw [show after.state = st from isSame]
          exact ⟨within, clean⟩
        · exact holds
      | error err => exact settled
    · change done trial.state
      rw [show trial.state = st from isAt]
      exact ⟨within, clean⟩
  refine safe_then removed (fun _ _ impossible => impossible.elim) ?_
  rintro _ after ⟨within, clean⟩
  refine ifb_qdiscs_then rfl ?_
  intro read isRead
  rw [← isRead] at within clean ⊢
  split
  · exact safe_raise within
  · rename_i isDefault
    exact safe_pure ⟨within, by simpa using isDefault, clean.ingress, clean.filters, clean.egress⟩

variable {items : List Members}

theorem normalize_empty (normalized : normalizeFilterInventory items = .ok []) : items = [] := by
  unfold normalizeFilterInventory at normalized
  dsimp only at normalized
  split at normalized
  · rename_i noHeaders
    have noDetails := Except.ok.inj normalized
    cases items with
    | nil => rfl
    | cons item rest =>
      cases shown : hasOptions item with
      | true => simp [shown] at noDetails
      | false => simp [shown] at noHeaders
  split at normalized
  · cases normalized
  split at normalized
  · cases normalized
  · rename_i hasHeaders sameLength _
    rw [Except.ok.inj normalized] at sameLength
    have none : (items.filter fun item => !hasOptions item).length = 0 := by
      simpa using fun differ => sameLength (.inl differ)
    rw [length_eq_zero_iff.mp none] at hasHeaders
    exact absurd rfl hasHeaders

theorem parse_filters_length {interface : String} {keys : List FlowKey}
    (parsed : parseFilters py interface items = .ok keys) : keys.length = items.length := by
  induction items generalizing keys with
  | nil =>
    cases parsed
    rfl
  | cons item rest ih =>
    unfold parseFilters at parsed
    split at parsed
    · cases parsed
    split at parsed
    · cases parsed
    · rename_i _ further isFurther
      cases parsed
      rw [length_cons, length_cons, ih isFurther]

theorem owned_filter_keys_plan {filters : List Members} {keys : List FlowKey}
    (owned : ownedFilterKeys py plan filters = .ok keys) :
    ArePlanFilters py plan filters ∧ (keys.isEmpty = true ↔ filters = []) := by
  unfold ownedFilterKeys at owned
  cases isDetails : normalizeFilterInventory filters with
  | error err =>
    rw [isDetails] at owned
    cases owned
  | ok details =>
    rw [isDetails] at owned
    dsimp only at owned
    cases isKeys : parseFilters py plan.ifbInterface details with
    | error err =>
      rw [isKeys] at owned
      cases owned
    | ok found =>
      rw [isKeys] at owned
      dsimp only at owned
      split at owned
      · rename_i plans
        cases owned
        have sameLength := parse_filters_length isKeys
        refine ⟨⟨details, _, isDetails, isKeys, plans.2⟩, fun isEmpty => ?_, ?_⟩
        · rw [isEmpty_iff.mp isEmpty] at sameLength
          rw [length_eq_zero_iff.mp sameLength.symm] at isDetails
          exact normalize_empty isDetails
        · rintro rfl
          cases isDetails
          exact isEmpty_iff.mpr (length_eq_zero_iff.mp sameLength)
      · cases owned

variable {item : Members}

theorem delay_not_loss (isDelay : isDelayQdisc item = true) :
    isLossQdisc item = false := by
  unfold isDelayQdisc at isDelay
  unfold isLossQdisc
  rw [Bool.and_eq_true, Bool.and_eq_true] at isDelay
  have handle : textAt item "handle" = some delayHandle := by simpa using isDelay.1.2
  rw [handle]
  simp [delayHandle, lossHandle]

/-- Where as many items satisfy one of two properties that exclude each other as there are items,
each does. -/
theorem all_counted {Item : Type} {items : List Item} {first second : Item → Bool}
    (apart : ∀ item, first item = true → second item = false)
    (counted : items.length = (items.filter first).length + (items.filter second).length) :
    ∀ item ∈ items, first item = true ∨ second item = true := by
  induction items with
  | nil => exact fun _ mem => nomatch mem
  | cons item rest ih =>
    have atMost : (rest.filter first).length + (rest.filter second).length ≤ rest.length := by
      clear ih counted
      induction rest with
      | nil => rfl
      | cons other rest ih =>
        cases isFirst : first other with
        | true =>
          simp [isFirst, apart other isFirst]
          omega
        | false =>
          cases isSecond : second other with
          | true =>
            simp [isFirst, isSecond]
            omega
          | false =>
            simp [isFirst, isSecond]
            omega
    cases isFirst : first item with
    | true =>
      have more : rest.length = (rest.filter first).length + (rest.filter second).length := by
        simp [isFirst, apart item isFirst] at counted
        omega
      intro other mem
      rcases mem_cons.mp mem with rfl | mem
      · exact .inl isFirst
      · exact ih more other mem
    | false =>
      cases isSecond : second item with
      | true =>
        have more : rest.length = (rest.filter first).length + (rest.filter second).length := by
          simp [isFirst, isSecond] at counted
          omega
        intro other mem
        rcases mem_cons.mp mem with rfl | mem
        · exact .inr isSecond
        · exact ih more other mem
      | false =>
        simp [isFirst, isSecond] at counted
        omega

theorem map_valid_each {check : Members → Except Error Unit} {results : List Unit}
    (mapped : items.mapM check = .ok results) : ∀ item ∈ items, check item = .ok () := by
  induction items generalizing results with
  | nil => exact fun _ mem => nomatch mem
  | cons item rest ih =>
    rw [mapM_cons] at mapped
    cases isItem : check item with
    | error err =>
      rw [isItem] at mapped
      cases mapped
    | ok res =>
      rw [isItem] at mapped
      cases isRest : rest.mapM check with
      | error err =>
        rw [isRest] at mapped
        cases mapped
      | ok further =>
        intro other mem
        rcases mem_cons.mp mem with rfl | mem
        · exact isItem
        · exact ih isRest other mem

theorem owns_ifb_qdiscs_plan (owned : ownsIfbQdiscs py plan items = .ok true) :
    ArePlanQdiscs py plan items := by
  unfold ownsIfbQdiscs at owned
  dsimp only at owned
  split at owned
  · split at owned
    · cases owned
    · cases owned
  · rename_i delay isDelay
    split at owned
    · cases owned
    rename_i fits
    rw [not_or, not_not] at fits
    split at owned
    · rename_i _ _ _ checked validDelay validLosses
      have counted : items.length =
          (items.filter isDelayQdisc).length + (items.filter isLossQdisc).length := by
        rw [isDelay]
        exact fits.2
      have isOnly : delay ∈ items.filter isDelayQdisc := isDelay ▸ mem_singleton_self delay
      refine ⟨⟨delay, mem_filter.mp isOnly⟩, fun item mem => ?_⟩
      rcases all_counted (fun _ => delay_not_loss) counted item mem with first | second
      · have isItem : item ∈ items.filter isDelayQdisc := mem_filter.mpr ⟨mem, first⟩
        rw [isDelay, mem_singleton] at isItem
        rw [isItem] at first ⊢
        exact .inl ⟨first, validDelay⟩
      · have isItem : item ∈ items.filter isLossQdisc := mem_filter.mpr ⟨mem, second⟩
        exact .inr ⟨second, map_valid_each validLosses item isItem⟩
    · cases owned
  · cases owned

/-- Whatever the cleanup meets, it deletes only what belongs to the plan, and it returns only with
default inventories. -/
theorem cleanup_settled (isAt : At st trial) :
    Tries (tools kernel) (Returns
      (fun _ after => Within py kernel plan st after.state ∧
        IsDefault after.state.inventories ∧ st.inventories.egress = [])
      fun _ after => Within py kernel plan st after.state)
      (cleanupOwnedNetem py plan) trial := by
  have unchanged : ∀ after, At st after → Within py kernel plan st after.state := by
    intro after isAfter
    rw [show after.state = st from isAfter]
    exact within_refl st
  refine ingress_filters_then isAt ?_
  intro filtersRead isAt
  refine egress_filters_then isAt ?_
  intro egressRead isAt
  split
  · exact safe_raise (unchanged _ isAt)
  rename_i hasNoEgress
  have noEgress : st.inventories.egress = [] := by simpa using hasNoEgress
  refine ingress_qdiscs_then isAt ?_
  intro ingressRead isAt
  dsimp only
  split
  · exact safe_raise (unchanged _ isAt)
  rename_i isClean
  cases isKeys : ownedFilterKeys py plan st.inventories.filters with
  | error err => exact unchanged _ isAt
  | ok keys =>
    obtain ⟨planFilters, noFilters⟩ := owned_filter_keys_plan isKeys
    change Tries (tools kernel) _ (if _ then _ else _) ingressRead
    split
    · exact safe_raise (unchanged _ isAt)
    rename_i attached
    refine ifb_qdiscs_then isAt ?_
    intro ifbRead isAt
    cases isOwned : ownsIfbQdiscs py plan st.inventories.ifb with
    | error err => exact unchanged _ isAt
    | ok owned =>
      change Tries (tools kernel) _ (if _ then _ else _) ifbRead
      split
      · exact safe_raise (unchanged _ isAt)
      rename_i notForeign
      have ownRoot : ∀ cur : KernelState, cur.inventories.ifb = st.inventories.ifb →
          owned = true → IsOwnDeletion py plan (.root cur.inventories) := by
        intro cur sameIfb isTrue
        rw [isTrue] at isOwned
        change ArePlanQdiscs py plan cur.inventories.ifb
        rw [sameIfb]
        exact owns_ifb_qdiscs_plan isOwned
      have ingressGone : Tries (tools kernel) (Returns
          (fun _ after => Within py kernel plan st after.state ∧
            NoIngress after.state ∧ after.state.inventories.ifb = st.inventories.ifb)
          fun _ after => Within py kernel plan st after.state)
          (if (st.inventories.ingress.filter isIngressSpecial).isEmpty = false then
            removeClsact else pure ()) ifbRead := by
        split
        · rename_i hasSpecial
          have present : st.inventories.filters ≠ [] ∨
              ArePlanQdiscs py plan st.inventories.ifb := by
            cases isTrue : owned with
            | true => exact .inr (owns_ifb_qdiscs_plan (isTrue ▸ isOwned))
            | false =>
              exact .inl fun isNil => notForeign ⟨hasSpecial, noFilters.mpr isNil, isTrue⟩
          refine remove_clsact_settled isAt ⟨?_, noEgress, planFilters, present⟩
          rw [not_or, Nat.not_lt, Bool.not_eq_false] at isClean
          cases isSpecial : st.inventories.ingress.filter isIngressSpecial with
          | nil =>
            rw [isSpecial] at hasSpecial
            cases hasSpecial
          | cons special more =>
            rw [isSpecial] at isClean
            cases more with
            | nil => exact ⟨special, rfl, by simpa using isClean.2⟩
            | cons _ _ => simp at isClean
        · rename_i noSpecial
          have isNone : (st.inventories.ingress.filter isIngressSpecial).isEmpty = true := by
            simpa using noSpecial
          change Within py kernel plan st ifbRead.state ∧ NoIngress ifbRead.state ∧
            ifbRead.state.inventories.ifb = st.inventories.ifb
          rw [show ifbRead.state = st from isAt]
          refine ⟨within_refl st, ⟨?_, noFilters.mp ?_, noEgress⟩, rfl⟩
          · rw [List.isEmpty_iff, List.filter_eq_nil_iff] at isNone
            simpa using isNone
          · rw [isNone] at attached
            simpa using attached
      refine safe_then ingressGone (fun _ _ within => within) ?_
      rintro _ after ⟨within, clean, sameIfb⟩
      refine safe_weaken (remove_root_settled rfl within clean (ownRoot _ sameIfb)) ?_
      intro out last settled
      cases out with
      | ok res => exact ⟨settled.1, settled.2, noEgress⟩
      | error err => exact settled

def delayItem (py : Python Value) (kernel : Kernel) (plan : NetemSitePlan Value) : Members :=
  kernel.delayQdisc plan.queueLimitPackets (decimal py plan.delayMs ++ "ms")
    (decimal py plan.jitterMs ++ "ms")

def lossItem (py : Python Value) (kernel : Kernel) (plan : NetemSitePlan Value) : Members :=
  kernel.lossQdisc lossQueueLimitPackets (decimal py plan.lossPercent ++ "%")

/-- Some of the commands have been applied. -/
structure Partial (py : Python Value) (kernel : Kernel) (plan : NetemSitePlan Value)
    (start state : KernelState) : Prop where
  ifb : state.inventories.ifb = start.inventories.ifb ∨
    state.inventories.ifb = [delayItem py kernel plan] ∨
    state.inventories.ifb = [delayItem py kernel plan, lossItem py kernel plan]
  ingress : state.inventories.ingress = start.inventories.ingress ∨
    state.inventories.ingress = start.inventories.ingress ++ [kernel.clsact]
  egress : state.inventories.egress = start.inventories.egress
  deletions : state.deletions = start.deletions

/-- What an installation asks for before its first command. -/
structure Clean (state : KernelState) : Prop where
  filters : state.inventories.filters = []
  ingress : state.inventories.ingress.any isIngressSpecial = false
  ifb : isKernelDefaultQdiscInventory state.inventories.ifb = true

theorem no_clsact_of_no_special (noSpecial : items.any isIngressSpecial = false) :
    (items.filter fun item => !isClsact item) = items := by
  rw [filter_eq_self]
  intro item mem
  have notSpecial : isIngressSpecial item = false := by
    simpa using any_eq_false.mp noSpecial item mem
  have notClsact : isClsact item = false := by
    unfold isIngressSpecial at notSpecial
    rw [Bool.or_eq_false_iff] at notSpecial
    exact notSpecial.1
  rw [notClsact]
  rfl

theorem special_of_clsact (clsact : isClsact item = true) :
    isIngressSpecial item = true := by
  unfold isIngressSpecial
  rw [show decide (textAt item "kind" = some "clsact") = true from clsact]
  rfl

theorem netem_not_default (netem : textAt item "kind" = some "netem") :
    isKernelDefaultQdiscInventory [item] = false := by
  simp [isKernelDefaultQdiscInventory, netem]

/-- Where a cleanup after some commands ends with default inventories, these are the first ones. -/
theorem restored {st after : KernelState}
    (onlyDefault : isKernelDefaultQdiscInventory start.inventories.ifb = true →
      start.inventories.ifb = [kernel.default]) (clean : Clean start)
    (isPartial : Partial py kernel plan start st)
    (within : Within py kernel plan st after) (isDefault : IsDefault after.inventories)
    (noEgress : st.inventories.egress = []) : after.inventories = start.inventories := by
  have ifb : after.inventories.ifb = start.inventories.ifb := by
    rcases within.ifb with isSame | isNew
    · have shown := isDefault.ifb
      rw [isSame] at shown ⊢
      rcases isPartial.ifb with isStart | isDelay | isBoth
      · exact isStart
      · have notDefault : isKernelDefaultQdiscInventory [delayItem py kernel plan] = false :=
          netem_not_default (kernel.delay_shown _ _ _)
        rw [isDelay, notDefault] at shown
        cases shown
      · rw [isBoth] at shown
        cases shown
    · rw [isNew, onlyDefault clean.ifb]
  have ingress : after.inventories.ingress = start.inventories.ingress := by
    rcases isPartial.ingress with isStart | isMore
    · rcases within.ingress with isSame | isFiltered
      · rw [isSame, isStart]
      · rw [isFiltered, isStart, no_clsact_of_no_special clean.ingress]
    · rcases within.ingress with isSame | isFiltered
      · have shown := isDefault.ingress
        rw [isSame, isMore, any_append] at shown
        simp [special_of_clsact kernel.clsact_shown] at shown
      · rw [isFiltered, isMore, filter_append, no_clsact_of_no_special clean.ingress]
        simp [kernel.clsact_shown]
  have egress : after.inventories.egress = start.inventories.egress := by
    rw [isDefault.egress, ← isPartial.egress, noEgress]
  cases isAfter : after.inventories with
  | mk afterIfb afterIngress afterFilters afterEgress =>
    cases isStart : start.inventories with
    | mk startIfb startIngress startFilters startEgress =>
      have noFilters := isDefault.filters
      have noStartFilters := clean.filters
      rw [isAfter] at ifb ingress egress noFilters
      rw [isStart] at ifb ingress egress noStartFilters
      simp only at ifb ingress egress noFilters noStartFilters
      rw [ifb, ingress, egress, noFilters, noStartFilters]

/-- How an installation may raise: back at the start, or with the error of an incomplete cleanup. -/
def Raised (py : Python Value) (plan : NetemSitePlan Value) (start : KernelState)
    (err : Error) (after : NetemTrial) : Prop :=
  (err ≠ cleanupIncomplete → after.state.inventories = start.inventories) ∧
    ∀ deletion ∈ after.state.deletions,
      deletion ∈ start.deletions ∨ IsOwnDeletion py plan deletion

theorem raised_at_start {err : Error} (isAt : At start trial) :
    Raised py plan start err trial := by
  unfold Raised
  rw [show trial.state = start from isAt]
  exact ⟨fun _ => rfl, fun _ mem => .inl mem⟩

theorem undo_settled {err : Error}
    (onlyDefault : isKernelDefaultQdiscInventory start.inventories.ifb = true →
      start.inventories.ifb = [kernel.default]) (clean : Clean start)
    (isPartial : Partial py kernel plan start trial.state) :
    Tries (tools kernel) (Returns (fun _ _ => False) (Raised py plan start))
      (undo py plan err) trial := by
  have own : ∀ after : NetemTrial, Within py kernel plan trial.state after.state →
      ∀ deletion ∈ after.state.deletions,
        deletion ∈ start.deletions ∨ IsOwnDeletion py plan deletion := by
    intro after within deletion mem
    rw [← isPartial.deletions]
    exact within.deletions deletion mem
  have cleaned : Tries (tools kernel) (Returns
      (fun _ after => after.state.inventories = start.inventories ∧
        Within py kernel plan trial.state after.state)
      (Raised py plan start))
      ((cleanupOwnedNetem py plan).handle fun _ => raise cleanupIncomplete) trial := by
    refine safe_handle (fun _ after => Within py kernel plan trial.state after.state) ?_ ?_
    · refine safe_weaken (cleanup_settled rfl) ?_
      intro out after settled
      cases out with
      | ok res =>
        obtain ⟨within, isDefault, noEgress⟩ := settled
        exact ⟨restored onlyDefault clean isPartial within isDefault noEgress, within⟩
      | error err => exact settled
    · intro err after within
      exact safe_raise ⟨fun differ => absurd rfl differ, own after within⟩
  refine safe_then cleaned (fun _ _ raised => raised) ?_
  rintro _ after ⟨isStart, within⟩
  exact safe_raise ⟨fun _ => isStart, own after within⟩

def withFilters (py : Python Value) (kernel : Kernel) (plan : NetemSitePlan Value)
    (start : KernelState) (filters : List Members) : KernelState where
  inventories :=
    { ifb := [delayItem py kernel plan, lossItem py kernel plan]
      ingress := start.inventories.ingress ++ [kernel.clsact]
      filters := filters
      egress := start.inventories.egress }
  deletions := start.deletions

theorem partial_at (isAt : trial.state = st) (partly : Partial py kernel plan start st) :
    Partial py kernel plan start trial.state := by
  rw [isAt]
  exact partly

theorem with_filters_partly (start : KernelState) (filters : List Members) :
    Partial py kernel plan start (withFilters py kernel plan start filters) :=
  ⟨.inr (.inr rfl), .inr rfl, rfl, rfl⟩

theorem add_filters_settled (flows : List NetemFlow) {filters : List Members}
    (isAt : At (withFilters py kernel plan start filters) trial) :
    Tries (tools kernel) (Returns
      (fun _ => At (withFilters py kernel plan start
        (filters ++ flows.flatMap (kernel.filter · plan.ifbInterface))))
      fun _ after => Partial py kernel plan start after.state)
      (addFilters plan flows) trial := by
  induction flows generalizing trial filters with
  | nil =>
    refine safe_pure ?_
    rw [flatMap_nil, append_nil]
    exact isAt
  | cons flow rest ih =>
    have added := @mutate_settled kernel trial _ (.addFilter flow plan.ifbInterface)
      (fun after => after = withFilters py kernel plan start
        (filters ++ kernel.filter flow plan.ifbInterface)) isAt (by
        intro after changes
        cases changes with
        | addFilter => simp [withFilters, TcCommand.deletion])
    refine safe_then added ?_ ?_
    · rintro err after (isSame | ⟨_, isAdded⟩)
      · exact partial_at isSame (with_filters_partly _ _)
      · exact partial_at isAdded (with_filters_partly _ _)
    · intro _ after isAdded
      refine safe_weaken (ih isAdded) ?_
      intro out last settled
      cases out with
      | ok res =>
        rw [append_assoc] at settled
        exact settled
      | error err => exact settled

theorem validate_kernel_state_settled (isAt : At st trial) :
    Tries (tools kernel) (Returns (fun _ after => At st after ∧ st.inventories.egress = [])
      fun _ => At st) (validateKernelState py plan) trial := by
  have checked : ∀ (res : Except Error Unit) cur, At st cur →
      Tries (tools kernel) (Returns (fun _ => At st) fun _ => At st)
        (Prog.done res : NetemProg Unit) cur := by
    intro res cur isCurrent
    cases res with
    | ok value => exact isCurrent
    | error err => exact isCurrent
  refine ifb_qdiscs_then isAt ?_
  intro ifbRead isAt
  split
  · split
    · exact safe_raise isAt
    refine safe_then (checked _ _ isAt) (fun _ _ same => same) ?_
    intro _ delayed isAt
    refine safe_then (checked _ _ isAt) (fun _ _ same => same) ?_
    intro _ lost isAt
    refine ingress_qdiscs_then isAt ?_
    intro ingressRead isAt
    split
    · split
      · exact safe_raise isAt
      refine ingress_filters_then isAt ?_
      intro filtersRead isAt
      refine egress_filters_then isAt ?_
      intro egressRead isAt
      split
      · exact safe_raise isAt
      · rename_i noEgress
        cases validateFilters py plan st.inventories.filters with
        | ok value => exact ⟨isAt, by simpa using noEgress⟩
        | error err => exact isAt
    · exact safe_raise isAt
  · exact safe_raise isAt

def withDelay (py : Python Value) (kernel : Kernel) (plan : NetemSitePlan Value)
    (start : KernelState) : KernelState where
  inventories := { start.inventories with ifb := [delayItem py kernel plan] }
  deletions := start.deletions

theorem add_rest_settled (clean : Clean start)
    (isAt : At (withDelay py kernel plan start) trial) :
    Tries (tools kernel) (Returns
      (fun _ after => after.state.inventories = planned py kernel plan start.inventories ∧
        after.state.deletions = start.deletions)
      fun _ after => Partial py kernel plan start after.state)
      (addRest py plan) trial := by
  let withLoss : KernelState :=
    ⟨{ start.inventories with ifb := [delayItem py kernel plan, lossItem py kernel plan] },
      start.deletions⟩
  have lossAdded := @mutate_settled kernel trial _ (addLossCommand py plan)
    (fun after => after = withLoss) isAt (by
      intro after changes
      cases changes with
      | addLoss => simp [withLoss, withDelay, TcCommand.deletion, addLossCommand, lossItem])
  refine safe_then lossAdded ?_ ?_
  · rintro err after (isSame | ⟨_, isAdded⟩)
    · exact partial_at isSame ⟨.inr (.inl rfl), .inl rfl, rfl, rfl⟩
    · exact partial_at isAdded ⟨.inr (.inr rfl), .inl rfl, rfl, rfl⟩
  intro _ lossy isLossy
  have attached := @mutate_settled kernel lossy withLoss .addClsact
    (fun after => after = withFilters py kernel plan start []) isLossy (by
      intro after changes
      cases changes with
      | addClsact => simp [withLoss, withFilters, TcCommand.deletion, clean.filters])
  refine safe_then attached ?_ ?_
  · rintro err after (isSame | ⟨_, isAdded⟩)
    · exact partial_at isSame ⟨.inr (.inr rfl), .inl rfl, rfl, rfl⟩
    · exact partial_at isAdded (with_filters_partly _ _)
  intro _ hooked isHooked
  refine safe_then (add_filters_settled plan.flows isHooked) (fun _ _ partly => partly) ?_
  intro _ filtered isFiltered
  have asPartial : ∀ cur : NetemTrial, At (withFilters py kernel plan start
      ([] ++ plan.flows.flatMap (kernel.filter · plan.ifbInterface))) cur →
      Partial py kernel plan start cur.state := by
    intro cur isCurrent
    exact partial_at isCurrent (with_filters_partly _ _)
  refine safe_and_then (require_links_settled isFiltered) ?_
  intro out linked isLinked
  cases out with
  | error err => exact asPartial _ isLinked
  | ok res =>
    refine safe_weaken (validate_kernel_state_settled isLinked) ?_
    intro out last settled
    cases out with
    | error err => exact asPartial _ settled
    | ok res =>
      obtain ⟨isLast, noEgress⟩ := settled
      change last.state.inventories = _ ∧ last.state.deletions = _
      rw [show last.state = _ from isLast]
      refine ⟨?_, rfl⟩
      have isNone : start.inventories.egress = [] := noEgress
      simp [withFilters, planned, isNone, delayItem, lossItem]

theorem require_clean_settled (isAt : At st trial) :
    Tries (tools kernel) (Returns (fun _ after => At st after ∧ Clean st)
      fun _ => At st) requireClean trial := by
  refine ingress_filters_then isAt ?_
  intro filtersRead isAt
  split
  · exact safe_raise isAt
  rename_i noFilters
  refine ingress_qdiscs_then isAt ?_
  intro ingressRead isAt
  split
  · exact safe_raise isAt
  rename_i noSpecial
  refine ifb_qdiscs_then isAt ?_
  intro ifbRead isAt
  split
  · exact safe_raise isAt
  · rename_i isDefault
    exact safe_pure ⟨isAt, by simpa using noFilters, by simpa using noSpecial,
      by simpa using isDefault⟩

theorem add_first_settled
    (onlyDefault : isKernelDefaultQdiscInventory start.inventories.ifb = true →
      start.inventories.ifb = [kernel.default]) (clean : Clean start) (isAt : At start trial) :
    Tries (tools kernel) (Returns (fun _ => At (withDelay py kernel plan start))
      (Raised py plan start)) (addFirst py plan) trial := by
  have added := @mutate_settled kernel trial start (addDelayCommand py plan)
    (fun after => after = withDelay py kernel plan start) isAt (by
      intro after changes
      cases changes with
      | addDelay => simp [withDelay, TcCommand.deletion, addDelayCommand, delayItem])
  refine safe_handle _ added ?_
  intro err after settled
  cases err with
  | valueError code =>
    rcases settled with isSame | ⟨impossible, _⟩
    · exact safe_raise (raised_at_start isSame)
    · cases impossible
  | interrupted =>
    have partly : Partial py kernel plan start after.state := by
      rcases settled with isSame | ⟨_, isAdded⟩
      · exact partial_at isSame ⟨.inl rfl, .inl rfl, rfl, rfl⟩
      · exact partial_at isAdded ⟨.inr (.inl rfl), .inl rfl, rfl, rfl⟩
    refine safe_weaken (undo_settled onlyDefault clean partly) ?_
    intro out last settled
    cases out with
    | ok res => exact settled.elim
    | error err => exact settled

theorem install_settled (onlyDefault : isKernelDefaultQdiscInventory start.inventories.ifb = true →
      start.inventories.ifb = [kernel.default]) (isAt : At start trial) :
    Tries (tools kernel) (Returns
      (fun _ after => after.state.inventories = planned py kernel plan start.inventories ∧
        after.state.deletions = start.deletions)
      (Raised py plan start)) (installNetem py plan) trial := by
  refine safe_and_then (require_links_settled isAt) ?_
  intro out linked isAt
  cases out with
  | error err => exact raised_at_start isAt
  | ok res =>
    refine safe_then (require_clean_settled isAt) (fun _ _ isAt => raised_at_start isAt) ?_
    rintro _ checked ⟨isAt, clean⟩
    refine safe_then (add_first_settled onlyDefault clean isAt) (fun _ _ raised => raised) ?_
    intro _ delayed isAt
    refine safe_handle _ (add_rest_settled clean isAt) ?_
    intro err after partly
    refine safe_weaken (undo_settled onlyDefault clean partly) ?_
    intro out last settled
    cases out with
    | ok res => exact settled.elim
    | error err => exact settled

/-- An installation that returns has installed exactly the plan, and one that raises anything but
the error of an incomplete cleanup has left everything as it was; a removal that returns leaves
default inventories; and neither deletes anything that does not belong to the plan. -/
theorem netem_installation_atomic {start : KernelState} (undeleted : start.deletions = [])
    (onlyDefault : isKernelDefaultQdiscInventory start.inventories.ifb = true →
      start.inventories.ifb = [kernel.default]) :
    (∀ out after,
      Runs (attempting (tools kernel)) 0 (installNetem py plan) (.start start) out after →
        (out = .ok () → after.state.inventories = planned py kernel plan start.inventories) ∧
        (∀ err, out = .error err → err ≠ cleanupIncomplete →
          after.state.inventories = start.inventories) ∧
        ∀ deletion ∈ after.state.deletions, IsOwnDeletion py plan deletion) ∧
    ∀ out after,
      Runs (attempting (tools kernel)) 0 (removeNetem py plan) (.start start) out after →
        (out = .ok () → IsDefault after.state.inventories) ∧
        ∀ deletion ∈ after.state.deletions, IsOwnDeletion py plan deletion := by
  have isAt : At start (.start start) := rfl
  constructor
  · intro out after runs
    have settled := runs_ensured (install_settled onlyDefault isAt) runs
    cases out with
    | ok res =>
      obtain ⟨isPlanned, isUndeleted⟩ := settled
      refine ⟨fun _ => isPlanned, fun _ isError => (nomatch isError), ?_⟩
      rw [isUndeleted, undeleted]
      exact fun _ mem => nomatch mem
    | error err =>
      obtain ⟨isStart, own⟩ := settled
      refine ⟨fun isOk => (nomatch isOk), ?_, ?_⟩
      · rintro _ ⟨⟩ differ
        exact isStart differ
      · intro deletion mem
        have isOwn := own deletion mem
        rw [undeleted] at isOwn
        exact isOwn.resolve_left fun pre => nomatch pre
  · intro out after runs
    have removed : Tries (tools kernel) (Returns
        (fun _ after => Within py kernel plan start after.state ∧
          IsDefault after.state.inventories)
        fun _ after => Within py kernel plan start after.state)
        (removeNetem py plan) (.start start) := by
      refine safe_and_then (require_links_settled isAt) ?_
      intro out linked isAt
      cases out with
      | error err =>
        change Within py kernel plan start linked.state
        rw [show linked.state = start from isAt]
        exact within_refl start
      | ok res =>
        refine safe_weaken (cleanup_settled isAt) ?_
        intro out last settled
        cases out with
        | ok res => exact ⟨settled.1, settled.2.1⟩
        | error err => exact settled
    have settled := runs_ensured removed runs
    have own : Within py kernel plan start after.state →
        ∀ deletion ∈ after.state.deletions, IsOwnDeletion py plan deletion := by
      intro within deletion mem
      have isOwn := within.deletions deletion mem
      rw [undeleted] at isOwn
      exact isOwn.resolve_left fun pre => nomatch pre
    cases out with
    | ok res => exact ⟨fun _ => settled.2, own settled.1⟩
    | error err => exact ⟨fun isOk => (nomatch isOk), own settled⟩

end Safety

namespace Sample

def floatOf (literal : List Char) : Option Rat :=
  if literal = "0.04".toList then some (4 / 100)
  else if literal = "0.005".toList then some (5 / 1000)
  else if literal = "0.02".toList then some (2 / 100)
  else none

def numberOf : Json → Option Rat
  | .int value => some value
  | .float literal => floatOf literal
  | _ => none

def py : Python Rat where
  format9 value := toString value.num ++ ".000000000"
  thousandth value := value / 1000
  hundredth value := value / 100
  zero := 0
  near value want := match numberOf value with
    | some found =>
      decide (found - want ≤ 1 / 1000000000 ∧ want - found ≤ 1 / 1000000000)
    | none => false
  isInt value want := numberOf value = some (want : Rat)
  ipv4Network text := if text = "192.0.2.10" then .ok (text, 32) else .error "not an address"
  isLinkLocal _ := true

def plan : NetemSitePlan Rat where
  ingressInterface := "eth0"
  ifbInterface := "ifb0"
  ingressMtuBytes := 1500
  delayMs := 40
  jitterMs := 5
  lossPercent := 2
  queueLimitPackets := 1000
  flows := [⟨"192.0.2.10", 8554, 49000⟩]

def netem (handle : String) (place : String × Json) (options : Members) : Members :=
  [("kind", .str "netem"), ("handle", .str handle), place, ("options", .obj options)]

def kernel : Kernel where
  default := [("kind", .str "noqueue"), ("handle", .str "0:"), ("root", .bool true)]
  delayQdisc limit _ _ := netem "7a10:" ("root", .bool true)
    [("limit", .int limit),
      ("delay", .obj [("delay", .float "0.04".toList), ("jitter", .float "0.005".toList),
        ("correlation", .int 0)])]
  lossQdisc limit _ := netem "7a20:" ("parent", .str "7a10:1")
    [("limit", .int limit),
      ("loss-random", .obj [("loss", .float "0.02".toList), ("correlation", .int 0)])]
  clsact := [("kind", .str "clsact"), ("handle", .str "ffff:")]
  filter flow ifbInterface :=
    [[("protocol", .str "ip"), ("pref", .int flow.preference), ("kind", .str "flower"),
      ("chain", .int 0),
      ("options", .obj
        [("skip_hw", .bool true),
          ("keys", .obj [("eth_type", .str "ipv4"), ("ip_proto", .str "tcp"),
            ("src_ip", .str flow.sourceIpv4), ("src_port", .int flow.sourcePort)]),
          ("actions", .arr [.obj
            [("kind", .str "mirred"), ("mirred_action", .str "redirect"),
              ("direction", .str "egress"), ("to_dev", .str ifbInterface),
              ("stats", .obj [("packets", .int 0), ("bytes", .int 0), ("drops", .int 0),
                ("overlimits", .int 0)])]])])]]
  default_shown := by decide +kernel
  delay_shown _ _ _ := rfl
  clsact_shown := by decide +kernel

def link (name : String) (more : Members) : Members :=
  [("ifname", .str name), ("mtu", .int 1500), ("flags", .arr [.str "UP"]), ("ifindex", .int 2)] ++
    more

def start : KernelState :=
  ⟨⟨[kernel.default], [], [], []⟩, []⟩

def actTc (st : KernelState) : TcCommand → Except Error Unit × KernelState
  | .addDelay limit delay jitter =>
    if isKernelDefaultQdiscInventory st.inventories.ifb = true then
      (.ok (), ⟨{ st.inventories with ifb := [kernel.delayQdisc limit delay jitter] },
        st.deletions ++ []⟩)
    else (.error (.valueError "netem_command_failed"), st)
  | .addLoss limit loss =>
    (.ok (), ⟨{ st.inventories with
      ifb := st.inventories.ifb ++ [kernel.lossQdisc limit loss] }, st.deletions ++ []⟩)
  | .addClsact =>
    if st.inventories.ingress.any isIngressSpecial = false then
      (.ok (), ⟨{ st.inventories with
        ingress := st.inventories.ingress ++ [kernel.clsact] }, st.deletions ++ []⟩)
    else (.error (.valueError "netem_command_failed"), st)
  | .addFilter flow interface =>
    if st.inventories.ingress.any isClsact = true then
      (.ok (), ⟨{ st.inventories with
        filters := st.inventories.filters ++ kernel.filter flow interface },
        st.deletions ++ []⟩)
    else (.error (.valueError "netem_command_failed"), st)
  | .deleteClsact | .deleteRoot => (.error (.valueError "netem_command_failed"), st)

def act (st : KernelState) : (req : Call) → Except Error (Answer req) × KernelState
  | .link .ingress => (.ok (link "eth0" []), st)
  | .link .ifb =>
    (.ok (link "ifb0" [("linkinfo", .obj [("info_kind", .str "ifb")]), ("addr_info", .arr [])]), st)
  | .qdiscs .ingress => (.ok st.inventories.ingress, st)
  | .qdiscs .ifb => (.ok st.inventories.ifb, st)
  | .ingressFilters => (.ok st.inventories.filters, st)
  | .egressFilters => (.ok st.inventories.egress, st)
  | .mutateTc cmd => actTc st cmd

theorem actTc_effect (st : KernelState) (cmd : TcCommand) :
    Effect kernel st (.mutateTc cmd) (actTc st cmd).1 (actTc st cmd).2 := by
  cases cmd with
  | addDelay limit delay jitter =>
    rw [actTc]
    split
    · rename_i isDefault
      exact .changed (.addDelay limit delay jitter isDefault)
    · exact .rejected _ _
  | addLoss limit loss => exact .changed (.addLoss limit loss)
  | addClsact =>
    rw [actTc]
    split
    · rename_i isFree
      exact .changed (.addClsact isFree)
    · exact .rejected _ _
  | addFilter flow interface =>
    rw [actTc]
    split
    · rename_i attached
      exact .changed (.addFilter flow interface attached)
    · exact .rejected _ _
  | deleteClsact => exact .rejected _ _
  | deleteRoot => exact .rejected _ _

theorem act_effect (st : KernelState) (req : Call) :
    Effect kernel st req (act st req).1 (act st req).2 := by
  cases req with
  | link device => cases device <;> exact .link _ _
  | qdiscs device =>
    cases device with
    | ingress => exact .ingressQdiscs
    | ifb => exact .ifbQdiscs
  | ingressFilters => exact .ingressFilters
  | egressFilters => exact .egressFilters
  | mutateTc cmd => exact actTc_effect st cmd

def installed : Except Error Unit × NetemTrial :=
  execute act (fun _ => .interrupted) (installNetem py plan) [] (.start start)

theorem installed_ok : installed.1 = .ok () := by decide +kernel

theorem installed_runs :
    Runs (attempting (tools kernel)) 0 (installNetem py plan) (.start start) (.ok ())
      installed.2 := by
  rw [← installed_ok]
  exact execute_runs_unfailing act_effect _ _

end Sample

open Sample

theorem netem_installation_atomic_installs :
    (∃ after, Runs (attempting (tools kernel)) 0
      (installNetem py plan) (.start start) (.ok ()) after) ∧
    (∀ out after, Runs (attempting (tools kernel)) 0 (installNetem py plan)
          (.start start) out after →
        (out = .ok () → after.state.inventories = planned py kernel plan start.inventories) ∧
        (∀ err, out = .error err → err ≠ cleanupIncomplete →
          after.state.inventories = start.inventories) ∧
        ∀ deletion ∈ after.state.deletions, IsOwnDeletion py plan deletion) ∧
    ∀ out after, Runs (attempting (tools kernel)) 0 (removeNetem py plan)
          (.start start) out after →
        (out = .ok () → IsDefault after.state.inventories) ∧
        ∀ deletion ∈ after.state.deletions, IsOwnDeletion py plan deletion := by
  exact ⟨⟨_, installed_runs⟩, netem_installation_atomic rfl fun _ => rfl⟩

end RtspProxy.Netem
