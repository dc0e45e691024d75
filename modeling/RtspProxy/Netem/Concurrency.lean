import RtspProxy.Netem.Safety

/-!
# Installations at the same time

Calls of `install_netem` for one plan on one host, interleaved at every query and
every command. No lock keeps them apart: the first command replaces the discipline
the kernel attaches by itself, so it takes effect for one call only, and the call
it took effect for owns the interfaces until it deletes the root discipline again.
Nobody else changes anything meanwhile, unless the first command of a call is
interrupted without having been applied: that call cleans up as well.
-/

namespace RtspProxy.Netem

open Lib Lib.Program Lib.Program.Prog List Option

/-- The inventories, and what no call reads: who owns them, and whose first command was
interrupted and is not applied. -/
structure Host where
  inventories : Inventories
  owner : Option Nat
  unapplied : List Nat

namespace Host

def applied (host : Host) (tid : Nat) (after : Inventories) : TcCommand → Host
  | .addDelay .. => { host with inventories := after, owner := some tid }
  | .deleteRoot => { host with inventories := after, owner := none }
  | _ => { host with inventories := after }

def interrupted (host : Host) (tid : Nat) : TcCommand → Host
  | .addDelay .. => { host with unapplied := host.unapplied ++ [tid] }
  | _ => host

theorem applied_inventories (host : Host) (tid : Nat) (after : Inventories)
    (cmd : TcCommand) : (host.applied tid after cmd).inventories = after := by
  cases cmd <;> rfl

theorem applied_unapplied (host : Host) (tid : Nat) (after : Inventories)
    (cmd : TcCommand) : (host.applied tid after cmd).unapplied = host.unapplied := by
  cases cmd <;> rfl

end Host

def Call.isQuery : Call → Bool
  | .mutateTc _ => false
  | _ => true

/-- A query returns what is there; a command is applied, rejected, or interrupted, where it may have
been applied or not. -/
inductive Executes (kernel : Kernel) (tid : Nat) (host : Host) :
    (req : Call) → Except Error (Answer req) → Host → Prop
  | query {req : Call} {ans : Except Error (Answer req)} {left : KernelState}
      (isQuery : req.isQuery = true)
      (effect : Effect kernel ⟨host.inventories, []⟩ req ans left) :
      Executes kernel tid host req ans host
  | applied {cmd : TcCommand} {after : Inventories}
      (changes : kernel.Changes host.inventories cmd after) :
      Executes kernel tid host (.mutateTc cmd) (.ok ()) (host.applied tid after cmd)
  | appliedInterrupted {cmd : TcCommand} {after : Inventories}
      (changes : kernel.Changes host.inventories cmd after) :
      Executes kernel tid host (.mutateTc cmd) (.error .interrupted)
        (host.applied tid after cmd)
  | rejected (cmd : TcCommand) (code : String) :
      Executes kernel tid host (.mutateTc cmd) (.error (.valueError code)) host
  | interrupted (cmd : TcCommand) :
      Executes kernel tid host (.mutateTc cmd) (.error .interrupted)
        (host.interrupted tid cmd)

def hosting (kernel : Kernel) : Machine Call Answer Error Host where
  exec := Executes kernel
  leave _ host := host

def bothCalls {Value : Type} (py : Python Value) (plan : NetemSitePlan Value)
    (start : Inventories) : SystemState Call Answer Error Unit Host where
  world := ⟨start, none, []⟩
  threads tid := if tid < 2 then some (installNetem py plan) else none

abbrev Leads (kernel : Kernel) :
    SystemState Call Answer Error Unit Host → SystemState Call Answer Error Unit Host → Prop :=
  Relation.ReflTransGen (SystemStep (hosting kernel) fun _ => False)

section Concurrency

variable {Value : Type} {py : Python Value} {kernel : Kernel} {plan : NetemSitePlan Value}
  {start : Inventories} {tid : Nat} {host : Host}

/-- An installation starts on an ingress side like this only. -/
structure Ready (start : Inventories) : Prop where
  filters : start.filters = []
  ingress : start.ingress.any isIngressSpecial = false

/-- The ingress side is the first one. -/
structure Free (start now : Inventories) : Prop where
  ingress : now.ingress = start.ingress
  filters : now.filters = start.filters
  egress : now.egress = start.egress

/-- The delay discipline of the plan is the root. -/
structure Held (py : Python Value) (kernel : Kernel) (plan : NetemSitePlan Value)
    (start now : Inventories) : Prop where
  ready : Ready start
  ifb : ∃ rest, now.ifb = delayItem py kernel plan :: rest
  ingress : now.ingress = start.ingress ∨ now.ingress = start.ingress ++ [kernel.clsact]
  egress : now.egress = start.egress

def Consistent (py : Python Value) (kernel : Kernel) (plan : NetemSitePlan Value)
    (start : Inventories) (host : Host) : Prop :=
  match host.owner with
  | none => Free start host.inventories
  | some _ => Held py kernel plan start host.inventories

/-- Only the owner changes anything, and it gives up the root last. -/
def Allowed (py : Python Value) (plan : NetemSitePlan Value) (start : Inventories)
    (tid : Nat) (host : Host) : Call → Prop
  | .mutateTc (.addDelay limit delay jitter) =>
    TcCommand.addDelay limit delay jitter = addDelayCommand py plan ∧ Ready start
  | .mutateTc .deleteClsact => host.owner = some tid ∧ host.inventories.egress = []
  | .mutateTc .deleteRoot =>
    host.owner = some tid ∧ host.inventories.ingress.any isIngressSpecial = false ∧
      host.inventories.filters = []
  | .mutateTc _ => host.owner = some tid
  | _ => True

/-- What the other calls see of a step. -/
structure Shows (actor : Nat) (pre after : Host) : Prop where
  unapplied : after.unapplied = pre.unapplied ∨ after.unapplied = pre.unapplied ++ [actor]
  owned : after.unapplied = [] → after = pre ∨ pre.owner = none ∨ pre.owner = some actor

theorem delay_not_default (rest : List Members) :
    isKernelDefaultQdiscInventory (delayItem py kernel plan :: rest) = false := by
  cases rest with
  | nil => exact netem_not_default (kernel.delay_shown _ _ _)
  | cons => rfl

theorem applied_sound {cmd : TcCommand} {after : Inventories} (calm : host.unapplied = [])
    (consistent : Consistent py kernel plan start host)
    (allowed : Allowed py plan start tid host (.mutateTc cmd))
    (changes : kernel.Changes host.inventories cmd after) :
    Consistent py kernel plan start (host.applied tid after cmd) ∧
      (host.owner = none ∨ host.owner = some tid) := by
  obtain ⟨pre, owner, unapplied⟩ := host
  cases changes with
  | addDelay limit delay jitter isDefault =>
    obtain ⟨isFirst, ready⟩ := allowed
    cases owner with
    | some other =>
      obtain ⟨rest, isDelay⟩ := consistent.ifb
      rw [isDelay, delay_not_default] at isDefault
      cases isDefault
    | none =>
      have free : Free start pre := consistent
      cases isFirst
      exact ⟨⟨ready, ⟨[], rfl⟩, .inl free.ingress, free.egress⟩, .inl rfl⟩
  | addLoss limit loss =>
    cases allowed
    have held : Held py kernel plan start pre := consistent
    obtain ⟨rest, isDelay⟩ := held.ifb
    have longer := congrArg (· ++ [kernel.lossQdisc limit loss]) isDelay
    exact ⟨⟨held.ready, ⟨_, longer⟩, held.ingress, held.egress⟩, .inr rfl⟩
  | addClsact isFree =>
    cases allowed
    have held : Held py kernel plan start pre := consistent
    refine ⟨⟨held.ready, held.ifb, .inr ?_, held.egress⟩, .inr rfl⟩
    rcases held.ingress with isSame | isMore
    · exact congrArg (· ++ [kernel.clsact]) isSame
    · dsimp only at isFree
      rw [isMore, any_append] at isFree
      simp [special_of_clsact kernel.clsact_shown] at isFree
  | addFilter flow ifbInterface attached =>
    cases allowed
    have held : Held py kernel plan start pre := consistent
    exact ⟨⟨held.ready, held.ifb, held.ingress, held.egress⟩, .inr rfl⟩
  | deleteClsact attached =>
    obtain ⟨isOwner, noEgress⟩ := allowed
    cases isOwner
    have held : Held py kernel plan start pre := consistent
    refine ⟨⟨held.ready, held.ifb, .inl ?_, noEgress.symm.trans held.egress⟩, .inr rfl⟩
    have same := no_clsact_of_no_special held.ready.ingress
    rcases held.ingress with isSame | isMore
    · exact (congrArg (filter _) isSame).trans same
    · refine (congrArg (filter _) isMore).trans ?_
      rw [filter_append, same]
      simp [kernel.clsact_shown]
  | deleteRoot isOther =>
    obtain ⟨isOwner, noSpecial, noFilters⟩ := allowed
    cases isOwner
    have held : Held py kernel plan start pre := consistent
    refine ⟨⟨?_, noFilters.trans held.ready.filters.symm, held.egress⟩, .inr rfl⟩
    rcases held.ingress with isSame | isMore
    · exact isSame
    · dsimp only at noSpecial
      rw [isMore, any_append] at noSpecial
      simp [special_of_clsact kernel.clsact_shown] at noSpecial

theorem shows_same (actor : Nat) (host : Host) : Shows actor host host :=
  ⟨.inl rfl, fun _ => .inl rfl⟩

variable {req : Call}

variable {after : Host}

variable {ans : Except Error (Answer req)}

theorem executes_sound (consistent : host.unapplied = [] → Consistent py kernel plan start host)
    (allowed : host.unapplied = [] → Allowed py plan start tid host req)
    (ran : Executes kernel tid host req ans after) :
    (after.unapplied = [] → Consistent py kernel plan start after) ∧ Shows tid host after := by
  have applied : ∀ (cmd : TcCommand) (left : Inventories),
      kernel.Changes host.inventories cmd left →
      (host.unapplied = [] → Allowed py plan start tid host (.mutateTc cmd)) →
      ((host.applied tid left cmd).unapplied = [] →
        Consistent py kernel plan start (host.applied tid left cmd)) ∧
      Shows tid host (host.applied tid left cmd) := by
    intro cmd left changes allowed
    rw [host.applied_unapplied]
    refine ⟨fun calm => (applied_sound calm (consistent calm) (allowed calm) changes).1,
      .inl (host.applied_unapplied ..), ?_⟩
    intro calm
    rw [host.applied_unapplied] at calm
    exact .inr (applied_sound calm (consistent calm) (allowed calm) changes).2
  cases ran with
  | query isQuery effect => exact ⟨consistent, shows_same _ _⟩
  | applied changes => exact applied _ _ changes allowed
  | appliedInterrupted changes => exact applied _ _ changes allowed
  | rejected cmd code => exact ⟨consistent, shows_same _ _⟩
  | interrupted cmd =>
    cases cmd with
    | addDelay limit delay jitter =>
      refine ⟨fun calm => ?_, .inr rfl, fun calm => ?_⟩
      · exact absurd calm (append_ne_nil_of_right_ne_nil _ (cons_ne_nil _ _))
      · exact absurd calm (append_ne_nil_of_right_ne_nil _ (cons_ne_nil _ _))
    | addLoss | addClsact | addFilter | deleteClsact | deleteRoot =>
      exact ⟨consistent, shows_same _ _⟩

/-- As long as every interrupted first command is applied. -/
def installing (py : Python Value) (kernel : Kernel) (plan : NetemSitePlan Value)
    (start : Inventories) : Protocol (hosting kernel) where
  invariant host := host.unapplied = [] → Consistent py kernel plan start host
  effect := Shows
  permitted tid host req :=
    host.unapplied = [] → Allowed py plan start tid host req
  sound := executes_sound
  leaves _ _ invariant := ⟨invariant, shows_same _ _⟩

abbrev InstallsSafely {Result : Type} (py : Python Value) (kernel : Kernel)
    (plan : NetemSitePlan Value) (start : Inventories) (tid : Nat)
    (post : Except Error Result → Host → Prop) (prog : NetemProg Result) (host : Host) : Prop :=
  SafeAmong (installing py kernel plan start) tid post prog host

def Owns (tid : Nat) (shown : Inventories → Prop) (host : Host) : Prop :=
  tid ∉ host.unapplied ∧ (host.unapplied = [] → host.owner = some tid ∧ shown host.inventories)

/-- The call owns nothing yet, and knows something of the start. -/
def Seeks (tid : Nat) (known : Prop) (host : Host) : Prop :=
  tid ∉ host.unapplied ∧ (host.unapplied = [] → known)

theorem calm_before {actor : Nat} {pre after : Host} (shows_ : Shows actor pre after)
    (calm : after.unapplied = []) : pre.unapplied = [] := by
  rcases shows_.unapplied with isSame | isMore
  · rw [← isSame, calm]
  · rw [isMore] at calm
    exact absurd calm (append_ne_nil_of_right_ne_nil _ (cons_ne_nil _ _))

theorem absent_after {actor : Nat} {pre after : Host} (shows_ : Shows actor pre after)
    (differ : actor ≠ tid) (absent : tid ∉ pre.unapplied) :
    tid ∉ after.unapplied := by
  rcases shows_.unapplied with isSame | isMore
  · rw [isSame]
    exact absent
  · rw [isMore, mem_append, mem_singleton]
    exact fun mem => mem.elim absent fun isActor => differ isActor.symm

theorem owns_stable (shown : Inventories → Prop) :
    Stable (installing py kernel plan start) tid (Owns tid shown) := by
  rintro pre after _ _ ⟨actor, differ, shows_⟩ ⟨absent, owned⟩
  refine ⟨absent_after shows_ differ absent, ?_⟩
  intro calm
  obtain ⟨isOwner, isShown⟩ := owned (calm_before shows_ calm)
  rcases shows_.owned calm with rfl | isNone | isActor
  · exact ⟨isOwner, isShown⟩
  · rw [isOwner] at isNone
    cases isNone
  · rw [isOwner] at isActor
    exact absurd (some.inj isActor).symm differ

theorem seeks_stable (known : Prop) :
    Stable (installing py kernel plan start) tid (Seeks tid known) := by
  rintro pre after _ _ ⟨actor, differ, shows_⟩ ⟨absent, isKnown⟩
  exact ⟨absent_after shows_ differ absent, fun calm => isKnown (calm_before shows_ calm)⟩

theorem owns_weaken {shown weaker : Inventories → Prop} (owns : Owns tid shown host)
    (weaken : ∀ inventories, shown inventories → weaker inventories) : Owns tid weaker host :=
  ⟨owns.1, fun calm => ⟨(owns.2 calm).1, weaken _ (owns.2 calm).2⟩⟩

theorem disturbed_safe {Result : Type} {prog : NetemProg Result} (disturbed : host.unapplied ≠ []) :
    InstallsSafely py kernel plan start tid (fun _ _ => True) prog host := by
  have stable : Stable (installing py kernel plan start) tid
      (fun host => host.unapplied ≠ []) := by
    rintro pre after _ _ ⟨actor, _, shows_⟩ disturbed calm
    exact disturbed (calm_before shows_ calm)
  induction prog generalizing host with
  | done out => trivial
  | call req next ih =>
    rintro cur ⟨others, invariant⟩
    have still := stable_others stable others disturbed
    have permitted : (installing py kernel plan start).permitted tid cur req :=
      fun calm => absurd calm still
    refine ⟨permitted, ?_⟩
    intro ans after ran
    have sound := (installing py kernel plan start).sound invariant permitted ran
    exact ih ans fun calm => still (calm_before sound.2 calm)

theorem query_executed (isQuery : req.isQuery = true)
    (ran : Executes kernel tid host req ans after) :
    after = host ∧ ∃ left, Effect kernel ⟨host.inventories, []⟩ req ans left := by
  cases ran with
  | query _ effect => exact ⟨rfl, _, effect⟩
  | applied | appliedInterrupted | rejected | interrupted => cases isQuery

theorem query_allowed (isQuery : req.isQuery = true) :
    Allowed py plan start tid host req := by
  cases req with
  | mutateTc cmd => cases isQuery
  | link | qdiscs | ingressFilters | egressFilters => trivial

def Reads (kernel : Kernel) {req : Call} (value : Inventories → Answer req) : Prop :=
  req.isQuery = true ∧ ∀ st ans left,
    Effect kernel st req ans left → ans = .ok (value st.inventories)

theorem reads_ingress_filters : @Reads kernel .ingressFilters (·.filters) :=
  ⟨rfl, by rintro st _ _ ⟨⟩; rfl⟩

theorem reads_egress_filters : @Reads kernel .egressFilters (·.egress) :=
  ⟨rfl, by rintro st _ _ ⟨⟩; rfl⟩

theorem reads_ingress_qdiscs : @Reads kernel (.qdiscs .ingress) (·.ingress) :=
  ⟨rfl, by rintro st _ _ ⟨⟩; rfl⟩

theorem reads_ifb_qdiscs : @Reads kernel (.qdiscs .ifb) (·.ifb) :=
  ⟨rfl, by rintro st _ _ ⟨⟩; rfl⟩

variable {value : Inventories → Answer req}

theorem owner_reads {Final : Type}
    {shown : Inventories → Prop} {prog : Answer req → NetemProg Final}
    {post : Except Error Final → Host → Prop} (reads : Reads kernel value)
    (owns : Owns tid shown host)
    (continues : ∀ ans after, Owns tid (fun now => shown now ∧ ans = value now) after →
      InstallsSafely py kernel plan start tid post (prog ans) after) :
    InstallsSafely py kernel plan start tid post (attempt req >>= prog) host := by
  have read : InstallsSafely py kernel plan start tid
      (Returns (fun ans => Owns tid fun now => shown now ∧ ans = value now)
        fun _ _ => False) (attempt req) host := by
    refine safe_ask (owns_stable shown) owns (fun _ _ _ _ => query_allowed reads.1) ?_
    intro cur ans after _ still ran
    obtain ⟨rfl, left, effect⟩ := query_executed reads.1 ran
    rw [reads.2 _ _ _ effect]
    exact ⟨still.1, fun calm => ⟨(still.2 calm).1, (still.2 calm).2, rfl⟩⟩
  exact safe_then read (fun _ _ impossible => impossible.elim) continues

theorem seeker_reads {Final : Type} {known : Prop} {prog : Answer req → NetemProg Final}
    {post : Except Error Final → Host → Prop} (reads : Reads kernel value)
    (seeks : Seeks tid known host) (continues : ∀ ans after, Seeks tid (known ∧ ∃ pre : Host,
        Consistent py kernel plan start pre ∧ ans = value pre.inventories) after →
      InstallsSafely py kernel plan start tid post (prog ans) after) :
    InstallsSafely py kernel plan start tid post (attempt req >>= prog) host := by
  have read : InstallsSafely py kernel plan start tid
      (Returns (fun ans => Seeks tid (known ∧ ∃ pre : Host,
        Consistent py kernel plan start pre ∧ ans = value pre.inventories))
        fun _ _ => False) (attempt req) host := by
    refine safe_ask (seeks_stable known) seeks (fun _ _ _ _ => query_allowed reads.1) ?_
    intro cur ans after invariant still ran
    obtain ⟨rfl, left, effect⟩ := query_executed reads.1 ran
    rw [reads.2 _ _ _ effect]
    exact ⟨still.1, fun calm => ⟨still.2 calm, after, invariant calm, rfl⟩⟩
  exact safe_then read (fun _ _ impossible => impossible.elim) continues

theorem owner_tries {cmd : TcCommand} {shown : Inventories → Prop} {done : Host → Prop}
    (owns : Owns tid shown host)
    (allowed : ∀ cur : Host, cur.owner = some tid → shown cur.inventories →
      Allowed py plan start tid cur (.mutateTc cmd))
    (leads : ∀ cur ans after, Owns tid shown cur →
      Executes kernel tid cur (.mutateTc cmd) ans after → done after) :
    InstallsSafely py kernel plan start tid
      (Returns (fun _ => done) fun _ _ => False)
      ((attempt (.mutateTc cmd)).handle fun _ => pure ()) host := by
  refine safe_handle (fun _ => done) ?_ fun _ _ isDone => safe_pure isDone
  refine safe_ask (owns_stable shown) owns ?_ ?_
  · exact fun cur _ still calm => allowed cur (still.2 calm).1 (still.2 calm).2
  · intro cur ans after _ still ran
    cases ans with
    | ok res => exact leads cur _ after still ran
    | error err => exact leads cur _ after still ran

def Keeps : Call → Prop
  | .mutateTc (.addDelay ..) => False
  | .mutateTc .deleteRoot => False
  | _ => True

theorem executes_keeps (keeps : Keeps req) (ran : Executes kernel tid host req ans after) :
    after.owner = host.owner ∧ after.unapplied = host.unapplied := by
  cases ran with
  | query | rejected => exact ⟨rfl, rfl⟩
  | @applied cmd _ _ | @appliedInterrupted cmd _ _ | interrupted cmd =>
    cases cmd with
    | addDelay | deleteRoot => cases keeps
    | addLoss | addClsact | addFilter | deleteClsact => exact ⟨rfl, rfl⟩

theorem owns_kept {shown : Inventories → Prop} (keeps : Keeps req) (owns : Owns tid shown host)
    (ran : Executes kernel tid host req ans after) :
    Owns tid (fun _ => True) after := by
  obtain ⟨sameOwner, sameUnapplied⟩ := executes_keeps keeps ran
  unfold Owns
  rw [sameOwner, sameUnapplied]
  exact owns_weaken owns fun _ _ => trivial

def Bare (now : Inventories) : Prop :=
  now.ingress.any isIngressSpecial = false ∧ now.filters = []

theorem remove_clsact_safe (owns : Owns tid (fun now => now.egress = []) host) :
    InstallsSafely py kernel plan start tid
      (Returns (fun _ => Owns tid Bare) fun _ _ => True) removeClsact host := by
  have keeps : Keeps (.mutateTc .deleteClsact) := trivial
  have tried := @owner_tries _ py kernel plan start tid host .deleteClsact _
    (Owns tid fun _ => True) owns (fun _ isOwner noEgress => ⟨isOwner, noEgress⟩)
    (fun _ _ _ still ran => owns_kept keeps still ran)
  refine safe_then tried (fun _ _ impossible => impossible.elim) ?_
  intro _ removed stillOwns
  refine owner_reads reads_ingress_filters stillOwns ?_
  intro filters filtersRead filtersOwned
  refine owner_reads reads_ingress_qdiscs filtersOwned ?_
  intro ingress ingressRead ingressOwned
  split
  · exact safe_raise trivial
  split
  · exact safe_raise trivial
  · rename_i noFilters noSpecial
    refine safe_pure (owns_weaken ingressOwned ?_)
    rintro now ⟨⟨_, rfl⟩, rfl⟩
    exact ⟨by simpa using noSpecial, by simpa using noFilters⟩

theorem remove_root_safe {isOwned : Bool} (owns : Owns tid Bare host) :
    InstallsSafely py kernel plan start tid (fun _ _ => True) (removeRoot isOwned) host := by
  have tried : InstallsSafely py kernel plan start tid
      (Returns (fun _ _ => True) fun _ _ => False)
      (if isOwned = true then (attempt (.mutateTc .deleteRoot)).handle fun _ => pure ()
        else pure ()) host := by
    split
    · exact owner_tries owns (fun _ isOwner bare => ⟨isOwner, bare⟩) fun _ _ _ _ _ => trivial
    · exact safe_pure trivial
  refine safe_then tried (fun _ _ impossible => impossible.elim) ?_
  intro _ after _
  refine safe_only (fun req cur isQuery _ => query_allowed isQuery)
    (@only_bind _ _ _ _ _ (fun req : Call => req.isQuery = true) _ _ (only_ask rfl) ?_)
  intro remaining
  split
  · trivial
  · trivial

theorem cleanup_safe (owns : Owns tid (fun _ => True) host) :
    InstallsSafely py kernel plan start tid (fun _ _ => True)
      (cleanupOwnedNetem py plan) host := by
  refine owner_reads reads_ingress_filters owns ?_
  intro filters filtersRead owns
  refine owner_reads reads_egress_filters owns ?_
  intro egress egressRead owns
  split
  · exact safe_raise trivial
  rename_i hasNoEgress
  have noEgress : egress = [] := by simpa using hasNoEgress
  refine owner_reads reads_ingress_qdiscs owns ?_
  intro ingress ingressRead owns
  dsimp only
  split
  · exact safe_raise trivial
  cases isKeys : ownedFilterKeys py plan filters with
  | error err => trivial
  | ok keys =>
    obtain ⟨_, noFilters⟩ := owned_filter_keys_plan isKeys
    change InstallsSafely _ _ _ _ _ _ (if _ then _ else _) ingressRead
    split
    · exact safe_raise trivial
    rename_i attached
    refine owner_reads reads_ifb_qdiscs owns ?_
    intro ifb ifbRead owns
    cases ownsIfbQdiscs py plan ifb with
    | error err => trivial
    | ok isOwned =>
      change InstallsSafely _ _ _ _ _ _ (if _ then _ else _) ifbRead
      split
      · exact safe_raise trivial
      have ingressGone : InstallsSafely py kernel plan start tid
          (Returns (fun _ => Owns tid Bare) fun _ _ => True)
          (if (ingress.filter isIngressSpecial).isEmpty = false then removeClsact
            else pure ()) ifbRead := by
        split
        · refine remove_clsact_safe (owns_weaken owns ?_)
          rintro now ⟨⟨⟨_, isEgress⟩, _⟩, _⟩
          exact isEgress.symm.trans noEgress
        · rename_i noSpecial
          have isNone : (ingress.filter isIngressSpecial).isEmpty = true := by
            simpa using noSpecial
          refine safe_pure (owns_weaken owns ?_)
          rintro now ⟨⟨⟨⟨_, rfl⟩, _⟩, rfl⟩, _⟩
          refine ⟨?_, noFilters.mp ?_⟩
          · rw [List.isEmpty_iff, List.filter_eq_nil_iff] at isNone
            simpa using isNone
          · rw [isNone] at attached
            simpa using attached
      refine safe_then ingressGone (fun _ _ _ => trivial) ?_
      exact fun _ after bare => remove_root_safe bare

theorem undo_safe {err : Error}
    (mayCleanUp : Owns tid (fun _ => True) host ∨ host.unapplied ≠ []) :
    InstallsSafely py kernel plan start tid (Returns (fun _ _ => False) fun _ _ => True)
      (undo py plan err) host := by
  have cleaned : InstallsSafely py kernel plan start tid (fun _ _ => True)
      (cleanupOwnedNetem py plan) host :=
    mayCleanUp.elim cleanup_safe disturbed_safe
  have handled : InstallsSafely py kernel plan start tid
      (Returns (fun _ _ => True) fun _ _ => True)
      ((cleanupOwnedNetem py plan).handle fun _ => raise cleanupIncomplete) host := by
    refine safe_handle (fun _ _ => True) ?_ fun _ _ _ => safe_raise trivial
    refine safe_weaken cleaned ?_
    intro out after _
    cases out with
    | ok res => trivial
    | error err => trivial
  exact safe_then handled (fun _ _ _ => trivial) fun _ _ _ => safe_raise trivial

/-! ## The commands of the owner -/

/-- The calls of an installation after its first command. -/
def Adds : Call → Prop
  | .mutateTc (.addDelay ..) => False
  | .mutateTc .deleteClsact => False
  | .mutateTc .deleteRoot => False
  | _ => True

theorem adds_keeps (adds : Adds req) : Keeps req := by
  cases req with
  | mutateTc cmd => cases cmd <;> trivial
  | link | qdiscs | ingressFilters | egressFilters => trivial

theorem adds_allowed (adds : Adds req) (isOwner : host.owner = some tid) :
    Allowed py plan start tid host req := by
  cases req with
  | mutateTc cmd => cases cmd <;> first | exact isOwner | cases adds
  | link | qdiscs | ingressFilters | egressFilters => trivial

theorem executes_attempted
    {trial : NetemTrial} (adds : Adds req) (same : trial.state.inventories = host.inventories)
    (ran : Executes kernel tid host req ans after) :
    ∃ last, Attempted (tools kernel) trial req ans last ∧
      last.state.inventories = after.inventories := by
  cases ran with
  | query isQuery effect =>
    have again : Effect kernel trial.state req ans trial.state := by
      obtain ⟨⟨inventories, deletions⟩, states, failures⟩ := trial
      cases same
      cases effect with
      | link device link => exact .link device link
      | ingressQdiscs => exact .ingressQdiscs
      | ifbQdiscs => exact .ifbQdiscs
      | ingressFilters => exact .ingressFilters
      | egressFilters => exact .egressFilters
      | changed | rejected => cases isQuery
    exact ⟨_, .returned again, same⟩
  | applied changes =>
    rw [← same] at changes
    exact ⟨_, .returned (.changed changes), (host.applied_inventories ..).symm⟩
  | appliedInterrupted changes =>
    rw [← same] at changes
    exact ⟨_, .after (.changed changes) rfl, (host.applied_inventories ..).symm⟩
  | rejected cmd code => exact ⟨_, .returned (.rejected cmd code), same⟩
  | interrupted cmd =>
    refine ⟨_, .before rfl, ?_⟩
    cases cmd with
    | addDelay => cases adds
    | addLoss | addClsact | addFilter | deleteClsact | deleteRoot => exact same

theorem owner_alone {Result : Type} {prog : NetemProg Result}
    {post : Except Error Result → NetemTrial → Prop} (only : Only Adds prog)
    (owns : Owns tid (fun now => ∃ trial : NetemTrial, trial.state.inventories = now ∧
      Tries (tools kernel) post prog trial) host) :
    InstallsSafely py kernel plan start tid
      (fun out => Owns tid fun now => ∃ trial : NetemTrial, trial.state.inventories = now ∧
        post out trial) prog host := by
  induction prog generalizing host with
  | done out => exact owns
  | call req next ih =>
    rintro cur ⟨others, invariant⟩
    have still := stable_others (owns_stable _) others owns
    refine ⟨fun calm => adds_allowed only.1 (still.2 calm).1, ?_⟩
    intro ans after ran
    obtain ⟨sameOwner, sameUnapplied⟩ := executes_keeps (adds_keeps only.1) ran
    refine ih ans (only.2 ans) ⟨sameUnapplied ▸ still.1, ?_⟩
    intro calm
    obtain ⟨isOwner, trial, same, tries⟩ := still.2 (sameUnapplied ▸ calm)
    obtain ⟨last, attempted, lastSame⟩ := executes_attempted only.1 same ran
    exact ⟨sameOwner.trans isOwner, last, lastSame, (tries _ rfl).2 ans last attempted⟩

theorem require_links_only : Only Adds (requireLinks py plan) := by
  refine only_bind (only_ask trivial) ?_
  intro ingress
  refine only_bind (only_ask trivial) ?_
  exact fun ifb => trivial

theorem validate_kernel_state_only : Only Adds (validateKernelState py plan) := by
  refine only_bind (only_ask trivial) ?_
  intro ifbQdiscs
  split
  · split
    · trivial
    refine only_bind trivial fun _ => only_bind trivial fun _ => ?_
    refine only_bind (only_ask trivial) ?_
    intro ingressQdiscs
    split
    · split
      · trivial
      refine only_bind (only_ask trivial) fun filters => only_bind (only_ask trivial) ?_
      intro egress
      split
      · trivial
      · trivial
    · trivial
  · trivial

theorem add_filters_only (flows : List NetemFlow) : Only Adds (addFilters plan flows) := by
  induction flows with
  | nil => trivial
  | cons flow rest ih => exact only_bind (only_ask trivial) fun _ => ih

theorem add_rest_only : Only Adds (addRest py plan) := by
  refine only_bind (only_ask trivial) fun _ => only_bind (only_ask trivial) fun _ => ?_
  refine only_bind (add_filters_only plan.flows) fun _ => ?_
  exact only_bind require_links_only fun _ => validate_kernel_state_only

def Begun (py : Python Value) (kernel : Kernel) (plan : NetemSitePlan Value)
    (start now : Inventories) : Prop :=
  ∃ begun : KernelState, Clean begun ∧ begun.inventories.ingress = start.ingress ∧
    now = (withDelay py kernel plan begun).inventories

theorem add_rest_safe (owns : Owns tid (Begun py kernel plan start) host) :
    InstallsSafely py kernel plan start tid
      (Returns (fun _ => Owns tid (· = planned py kernel plan start))
        fun _ => Owns tid fun _ => True) (addRest py plan) host := by
  let post : KernelState → Except Error Unit → NetemTrial → Prop := fun begun =>
    Returns (fun _ after => after.state.inventories = planned py kernel plan begun.inventories ∧
        after.state.deletions = begun.deletions)
      fun _ after => Partial py kernel plan begun after.state
  have alone := @owner_alone _ py kernel plan start tid host _ (addRest py plan)
    (fun out trial => ∃ begun : KernelState, begun.inventories.ingress = start.ingress ∧
      post begun out trial) add_rest_only (owns_weaken owns (by
        rintro now ⟨begun, clean, sameIngress, rfl⟩
        refine ⟨.start (withDelay py kernel plan begun), rfl, ?_⟩
        exact safe_weaken (add_rest_settled clean rfl) fun _ _ settled =>
          ⟨begun, sameIngress, settled⟩))
  refine safe_weaken alone ?_
  intro out after settled
  cases out with
  | ok res =>
    change Owns tid (· = planned py kernel plan start) after
    refine owns_weaken settled ?_
    rintro now ⟨trial, rfl, begun, sameIngress, isPlanned, _⟩
    refine isPlanned.trans ?_
    unfold planned
    rw [sameIngress]
  | error err => exact owns_weaken settled fun _ _ => trivial

def Kept (py : Python Value) (kernel : Kernel) (plan : NetemSitePlan Value)
    (start : Inventories) (tid : Nat) (out : Except Error Unit) (host : Host) : Prop :=
  out = .ok () → Owns tid (· = planned py kernel plan start) host

theorem kept_stable (out : Except Error Unit) :
    Stable (installing py kernel plan start) tid
      (Kept py kernel plan start tid out) := by
  intro pre after beforeHolds afterHolds step kept returned
  exact owns_stable _ pre after beforeHolds afterHolds step (kept returned)

theorem kept_error {err : Error} : Kept py kernel plan start tid (.error err) host := by
  intro returned
  cases returned

theorem links_seek {known : Prop} :
    Maintains (installing py kernel plan start) tid (Seeks tid known)
      (requireLinks py plan) := by
  refine @maintains_only _ _ _ _ _ _ _ _ (fun req : Call => req.isQuery = true) _ _
    (fun req cur isQuery _ => query_allowed isQuery) ?_ (seeks_stable known) ?_
  · exact fun req pre ans after isQuery ran => (query_executed isQuery ran).1
  · exact only_bind (only_ask rfl) fun _ => only_bind (only_ask rfl) fun _ => trivial

theorem require_clean_safe {known : Prop} (seeks : Seeks tid known host) :
    InstallsSafely py kernel plan start tid
      (Returns (fun _ => Seeks tid (Ready start)) fun _ _ => True) requireClean host := by
  refine seeker_reads reads_ingress_filters seeks ?_
  intro filters filtersRead seeks
  split
  · exact safe_raise trivial
  rename_i hasNone
  have noFilters : filters = [] := by simpa using hasNone
  refine seeker_reads reads_ingress_qdiscs seeks ?_
  intro ingress ingressRead seeks
  split
  · exact safe_raise trivial
  rename_i hasNoSpecial
  refine seeker_reads reads_ifb_qdiscs seeks ?_
  intro ifb ifbRead seeks
  split
  · exact safe_raise trivial
  refine safe_pure ⟨seeks.1, fun calm => ?_⟩
  obtain ⟨⟨⟨_, first, firstHolds, isFilters⟩, second, secondHolds, isIngress⟩, _⟩ := seeks.2 calm
  -- What was there under an owner was there at the start: the owner found it so.
  have startFilters : start.filters = [] := by
    unfold Consistent at firstHolds
    split at firstHolds
    · rw [← firstHolds.filters, ← isFilters, noFilters]
    · exact firstHolds.ready.filters
  have startIngress : start.ingress.any isIngressSpecial = false := by
    unfold Consistent at secondHolds
    split at secondHolds
    · rw [← secondHolds.ingress, ← isIngress]
      simpa using hasNoSpecial
    · exact secondHolds.ready.ingress
  exact ⟨startFilters, startIngress⟩

theorem first_applied {after : Inventories}
    (consistent : host.unapplied = [] → Consistent py kernel plan start host)
    (seeks : Seeks tid (Ready start) host)
    (changes : kernel.Changes host.inventories (addDelayCommand py plan) after) :
    Owns tid (Begun py kernel plan start)
      (host.applied tid after (addDelayCommand py plan)) := by
  refine ⟨seeks.1, fun calm => ⟨rfl, ?_⟩⟩
  have holds := consistent calm
  have ready := seeks.2 calm
  obtain ⟨pre, owner, unapplied⟩ := host
  cases changes with
  | addDelay limit delay jitter isDefault =>
    cases owner with
    | some other =>
      obtain ⟨rest, isDelay⟩ := holds.ifb
      rw [isDelay, delay_not_default] at isDefault
      cases isDefault
    | none =>
      have free : Free start pre := holds
      refine ⟨⟨pre, []⟩, ⟨?_, ?_, isDefault⟩, free.ingress, rfl⟩
      · exact free.filters.trans ready.filters
      · exact (congrArg (any · isIngressSpecial) free.ingress).trans ready.ingress

theorem add_first_safe (seeks : Seeks tid (Ready start) host) :
    InstallsSafely py kernel plan start tid
      (Returns (fun _ => Owns tid (Begun py kernel plan start)) fun _ _ => True)
      (addFirst py plan) host := by
  have added : InstallsSafely py kernel plan start tid
      (Returns (fun _ => Owns tid (Begun py kernel plan start)) fun err after =>
        err = .interrupted → Owns tid (fun _ => True) after ∨ after.unapplied ≠ [])
      (attempt (.mutateTc (addDelayCommand py plan))) host := by
    refine safe_ask (seeks_stable _) seeks ?_ ?_
    · exact fun cur _ still calm => ⟨rfl, still.2 calm⟩
    · intro cur ans after invariant still ran
      cases ran with
      | query isQuery effect => cases isQuery
      | applied changes => exact first_applied invariant still changes
      | appliedInterrupted changes =>
        intro _
        have owns := first_applied invariant still changes
        exact .inl (owns_weaken owns fun _ _ => trivial)
      | rejected cmd code => exact fun impossible => nomatch impossible
      | interrupted cmd =>
        intro _
        exact .inr (append_ne_nil_of_right_ne_nil _ (cons_ne_nil _ _))
  refine safe_handle _ added ?_
  intro err after settled
  cases err with
  | valueError code => exact safe_raise trivial
  | interrupted =>
    refine safe_weaken (undo_safe (settled rfl)) ?_
    intro out last raised
    cases out with
    | ok res => exact raised.elim
    | error err => exact raised

theorem install_safe (seeks : Seeks tid True host) :
    InstallsSafely py kernel plan start tid (Kept py kernel plan start tid)
      (installNetem py plan) host := by
  refine maintains_then links_seek (fun _ _ _ => kept_error) ?_ seeks
  intro _ linked seeks
  refine safe_then (require_clean_safe seeks) (fun _ _ _ => kept_error) ?_
  intro _ checked ready
  refine safe_then (add_first_safe ready) (fun _ _ _ => kept_error) ?_
  intro _ delayed owns
  refine safe_handle (fun _ => Owns tid fun _ => True) ?_ ?_
  · refine safe_weaken (add_rest_safe owns) ?_
    intro out after settled
    cases out with
    | ok res => exact fun _ => settled
    | error err => exact settled
  · intro err after stillOwns
    refine safe_weaken (undo_safe (.inl stillOwns)) ?_
    intro out last raised
    cases out with
    | ok res => exact raised.elim
    | error err => exact kept_error

section Both

variable {st next later : SystemState Call Answer Error Unit Host} {first : Nat}

theorem met_step
    (met : AllMeet (installing py kernel plan start) (Kept py kernel plan start) st)
    (step : SystemStep (hosting kernel) (fun _ => False) st next) :
    AllMeet (installing py kernel plan start) (Kept py kernel plan start) next :=
  all_meet_step (fun _ => kept_stable) (fun _ _ impossible => impossible.elim) met step

theorem calls_met (reached : Leads kernel (bothCalls py plan start) st) :
    AllMeet (installing py kernel plan start) (Kept py kernel plan start) st := by
  induction reached with
  | refl =>
    refine ⟨fun _ => ⟨rfl, rfl, rfl⟩, ?_⟩
    intro tid prog running
    dsimp only [bothCalls] at running
    split_ifs at running
    cases running
    exact install_safe ⟨not_mem_nil, fun _ => trivial⟩
  | tail _ step met => exact met_step met step

theorem met_shows
    (met : AllMeet (installing py kernel plan start) (Kept py kernel plan start) st)
    {req : Call} {rest : Except Error (Answer req) → NetemProg Unit}
    {ans : Except Error (Answer req)} {after : Host}
    (at_ : st.threads tid = some (.call req rest))
    (ran : (hosting kernel).exec tid st.world req ans after) :
    Shows tid st.world after :=
  ((installing py kernel plan start).sound met.1
    (met.2 tid _ at_ st.world ⟨.refl, met.1⟩).1 ran).2

/-- Only the two calls run, and only they are ever interrupted. -/
structure OnlyTwo (st : SystemState Call Answer Error Unit Host) : Prop where
  threads : ∀ tid prog, st.threads tid = some prog → tid < 2
  unapplied : ∀ tid ∈ st.world.unapplied, tid < 2

theorem calls_only_two (reached : Leads kernel (bothCalls py plan start) st) :
    OnlyTwo st := by
  induction reached with
  | refl =>
    refine ⟨?_, fun _ mem => nomatch mem⟩
    intro tid prog running
    dsimp only [bothCalls] at running
    split_ifs at running
    assumption
  | @tail st next reached step two =>
    have running : ∀ actor prog own, st.threads actor = some prog →
        ∀ tid other, setThread st.threads actor own tid = some other → tid < 2 := by
      intro actor prog own at_ tid other isOther
      dsimp only [setThread] at isOther
      split_ifs at isOther with isActor
      · exact isActor ▸ two.threads actor prog at_
      · exact two.threads tid other isOther
    cases step with
    | start tid prog impossible idle => exact impossible.elim
    | leave tid prog at_ => exact ⟨running tid prog none at_, two.unapplied⟩
    | call tid req rest ans after at_ ran =>
      refine ⟨running tid _ _ at_, ?_⟩
      intro other mem
      rcases (met_shows (calls_met reached) at_ ran).unapplied with isSame | isMore
      · rw [isSame] at mem
        exact two.unapplied other mem
      · rw [isMore, mem_append, mem_singleton] at mem
        rcases mem with pre | rfl
        · exact two.unapplied other pre
        · exact two.threads other _ at_

theorem returned_owns
    (met : AllMeet (installing py kernel plan start) (Kept py kernel plan start) st)
    (returned : st.threads first = some (.done (.ok ()))) (further : Leads kernel st later) :
    AllMeet (installing py kernel plan start) (Kept py kernel plan start) later ∧
      (∀ req rest, later.threads first ≠ some (.call req rest)) ∧
      Owns first (· = planned py kernel plan start) later.world := by
  induction further with
  | refl =>
    refine ⟨met, ?_, met.2 first _ returned rfl⟩
    intro req rest running
    rw [returned] at running
    cases running
  | @tail st next _ step ih =>
    obtain ⟨met, isOver, owns⟩ := ih
    have nextMet := met_step met step
    refine ⟨nextMet, ?_⟩
    cases step with
    | start tid prog impossible idle => exact impossible.elim
    | leave tid prog at_ =>
      refine ⟨?_, owns⟩
      intro req rest running
      dsimp only [setThread] at running
      split_ifs at running
      exact isOver req rest running
    | call tid req rest ans after at_ ran =>
      have differ : tid ≠ first := fun same => isOver req rest (same ▸ at_)
      refine ⟨?_, ?_⟩
      · intro other more running
        dsimp only [setThread] at running
        rw [if_neg differ.symm] at running
        exact isOver other more running
      · exact owns_stable _ _ _ met.1 nextMet.1 ⟨tid, differ, met_shows met at_ ran⟩ owns

/-- At most one of two concurrent installations returns. Once it has, the whole plan stays in place,
unless the first command of the other one is interrupted without being applied. -/
theorem winner_stays_installed (reached : Leads kernel (bothCalls py plan start) st)
    (returned : st.threads first = some (.done (.ok ()))) (further : Leads kernel st later) :
    (∀ other, later.threads other = some (.done (.ok ())) → other = first) ∧
      (later.world.unapplied = [] →
        later.world.inventories = planned py kernel plan start) := by
  obtain ⟨met, _, owns⟩ := returned_owns (calls_met reached) returned further
  refine ⟨?_, fun calm => (owns.2 calm).2⟩
  intro other alsoReturned
  have otherOwns : Owns other (· = planned py kernel plan start) later.world :=
    met.2 other _ alsoReturned rfl
  cases isUnapplied : later.world.unapplied with
  | nil =>
    have isFirst := (owns.2 isUnapplied).1
    rw [(otherOwns.2 isUnapplied).1] at isFirst
    exact some.inj isFirst
  | cons lost rest =>
    -- The interrupted call is one of the two, and it is neither of those that returned.
    have two := calls_only_two (reached.trans further)
    have isLost : lost ∈ later.world.unapplied := by
      rw [isUnapplied]
      exact mem_cons_self
    have lostTwo := two.unapplied lost isLost
    have otherTwo := two.threads other _ alsoReturned
    have firstTwo := (calls_only_two reached).threads first _ returned
    have notFirst : lost ≠ first := fun same => owns.1 (same ▸ isLost)
    have notOther : lost ≠ other := fun same => otherOwns.1 (same ▸ isLost)
    omega

end Both

end Concurrency

namespace Sample

/-- Every command the kernel may accept, the deletions included. -/
def applyTc (pre : Inventories) : TcCommand → Option Inventories
  | .addDelay limit delay jitter =>
    if isKernelDefaultQdiscInventory pre.ifb = true then
      some { pre with ifb := [kernel.delayQdisc limit delay jitter] }
    else none
  | .addLoss limit loss => some { pre with ifb := pre.ifb ++ [kernel.lossQdisc limit loss] }
  | .addClsact =>
    if pre.ingress.any isIngressSpecial = false then
      some { pre with ingress := pre.ingress ++ [kernel.clsact] }
    else none
  | .addFilter flow interface =>
    if pre.ingress.any isClsact = true then
      some { pre with filters := pre.filters ++ kernel.filter flow interface }
    else none
  | .deleteClsact =>
    if pre.ingress.any isClsact = true then
      some { pre with
        ingress := pre.ingress.filter fun item => !isClsact item
        filters := []
        egress := [] }
    else none
  | .deleteRoot =>
    if isKernelDefaultQdiscInventory pre.ifb = false then
      some { pre with ifb := [kernel.default] }
    else none

theorem applyTc_changes {pre after : Inventories} {cmd : TcCommand}
    (isApplied : applyTc pre cmd = some after) : kernel.Changes pre cmd after := by
  cases cmd with
  | addDelay limit delay jitter =>
    obtain ⟨isDefault, ⟨⟩⟩ := ite_none_right_eq_some.mp isApplied
    exact .addDelay limit delay jitter isDefault
  | addLoss limit loss =>
    cases isApplied
    exact .addLoss limit loss
  | addClsact =>
    obtain ⟨isFree, ⟨⟩⟩ := ite_none_right_eq_some.mp isApplied
    exact .addClsact isFree
  | addFilter flow interface =>
    obtain ⟨attached, ⟨⟩⟩ := ite_none_right_eq_some.mp isApplied
    exact .addFilter flow interface attached
  | deleteClsact =>
    obtain ⟨attached, ⟨⟩⟩ := ite_none_right_eq_some.mp isApplied
    exact .deleteClsact attached
  | deleteRoot =>
    obtain ⟨isOther, ⟨⟩⟩ := ite_none_right_eq_some.mp isApplied
    exact .deleteRoot isOther

/-- A command that is lost is interrupted without being applied. -/
def performTc (tid : Nat) (host : Host) (cmd : TcCommand) (isLost : Bool) :
    Except Error Unit × Host :=
  if isLost = true then (.error .interrupted, host.interrupted tid cmd)
  else
    match applyTc host.inventories cmd with
    | some after => (.ok (), host.applied tid after cmd)
    | none => (.error (.valueError "netem_command_failed"), host)

def perform (tid : Nat) (host : Host) :
    (req : Call) → Bool → Option (Except Error (Answer req) × Host)
  | .mutateTc cmd, isLost => some (performTc tid host cmd isLost)
  | .link device, _ => some ((act ⟨host.inventories, []⟩ (.link device)).1, host)
  | .qdiscs device, _ => some ((act ⟨host.inventories, []⟩ (.qdiscs device)).1, host)
  | .ingressFilters, _ => some ((act ⟨host.inventories, []⟩ .ingressFilters).1, host)
  | .egressFilters, _ => some ((act ⟨host.inventories, []⟩ .egressFilters).1, host)

theorem performTc_executes (tid : Nat) (host : Host) (cmd : TcCommand) (isLost : Bool) :
    Executes kernel tid host (.mutateTc cmd) (performTc tid host cmd isLost).1
      (performTc tid host cmd isLost).2 := by
  unfold performTc
  split
  · exact .interrupted cmd
  split
  · rename_i after isApplied
    exact .applied (applyTc_changes isApplied)
  · exact .rejected _ _

variable {isLost : Bool}

theorem perform_executes {tid : Nat} {host after : Host} {req : Call}
    {ans : Except Error (Answer req)} (acted : perform tid host req isLost = some (ans, after)) :
    Executes kernel tid host req ans after := by
  cases req with
  | link | qdiscs | ingressFilters | egressFilters =>
    cases acted
    exact .query rfl (act_effect _ _)
  | mutateTc cmd =>
    have executes := performTc_executes tid host cmd isLost
    rw [show performTc tid host cmd isLost = (ans, after) from
      some.inj acted] at executes
    exact executes

abbrev State := SystemState Call Answer Error Unit Host

def steps (isLost : Bool) (tid count : Nat) (st : State) : Option State :=
  advance perform (fun _ => isLost) tid count st

def both : State := bothCalls py plan start.inventories

/-- The second call finds everything clean, and the first installs the plan. -/
def won : Option State := (steps false 1 5 both).bind (steps false 0 40)

def afterwards (isLost : Bool) : Option State :=
  (won.bind (steps isLost 1 1)).bind (steps false 1 40)

theorem steps_lead {tid count : Nat} {earlier : Option State} {begin after : State}
    (leads : ∀ st, earlier = some st → Leads kernel begin st)
    (stepped : earlier.bind (steps isLost tid count) = some after) :
    Leads kernel begin after := by
  cases earlier with
  | none => cases stepped
  | some st => exact (leads st rfl).trans (advance_steps perform_executes count stepped)

theorem won_led {st : State} (isWon : won = some st) : Leads kernel both st :=
  steps_lead (fun _ stepped => advance_steps perform_executes 5 stepped) isWon

theorem afterwards_led {st later : State} (isWon : won = some st)
    (isLater : afterwards isLost = some later) : Leads kernel st later := by
  refine steps_lead (fun middle stepped => steps_lead ?_ stepped) isLater
  intro other isOther
  rw [isWon] at isOther
  cases isOther
  exact .refl

def hasReturned (tid : Nat) (st : State) : Bool :=
  match st.threads tid with
  | some (.done (.ok _)) => true
  | _ => false

theorem returned_done {tid : Nat} {st : State} (returned : hasReturned tid st = true) :
    st.threads tid = some (.done (.ok ())) := by
  unfold hasReturned at returned
  split at returned
  · assumption
  · cases returned

/-- The first call returns, and the second is rejected or, where its command is lost, cleans up. -/
theorem won_afterwards (isLost : Bool) :
    ∃ st later, Leads kernel both st ∧ st.threads 0 = some (.done (.ok ())) ∧
      Leads kernel st later ∧ later.world.inventories.ifb.length = (if isLost then 1 else 2) ∧
      later.world.unapplied.isEmpty = !isLost := by
  have isWon : (won.map (hasReturned 0)) = some true := by decide +kernel
  have isLater : (afterwards isLost).map (fun later =>
      (later.world.inventories.ifb.length, later.world.unapplied.isEmpty)) =
        some (if isLost then 1 else 2, !isLost) := by
    cases isLost <;> decide +kernel
  obtain ⟨st, stateIs, returned⟩ := map_eq_some_iff.mp isWon
  obtain ⟨later, laterIs, shown⟩ := map_eq_some_iff.mp isLater
  obtain ⟨length, unapplied⟩ := Prod.mk.inj shown
  exact ⟨st, later, won_led stateIs, returned_done returned, afterwards_led stateIs laterIs,
    length, unapplied⟩

end Sample

open Sample

/-- The second call is rejected, and the plan stays. -/
theorem winner_stays_installed_rejected :
    ∃ later, Leads kernel both later ∧
      (∀ other, later.threads other = some (.done (.ok ())) → other = 0) ∧
      later.world.inventories = planned py kernel plan start.inventories := by
  obtain ⟨st, later, reached, returned, further, _, isEmpty⟩ := won_afterwards false
  have stays := winner_stays_installed reached returned further
  exact ⟨later, reached.trans further, stays.1, stays.2 (isEmpty_iff.mp isEmpty)⟩

/-- A call whose first command is interrupted without being applied removes the plan of the other,
which has returned. -/
theorem interrupted_call_removes_winner :
    ¬ ∀ st later : SystemState Call Answer Error Unit Host,
      Leads kernel both st → st.threads 0 = some (.done (.ok ())) →
      Leads kernel st later →
      later.world.inventories = planned py kernel plan start.inventories := by
  intro stays
  obtain ⟨st, later, reached, returned, further, isOne, _⟩ := won_afterwards true
  have isTwo := congrArg (·.ifb.length) (stays st later reached returned further)
  rw [isOne] at isTwo
  cases isTwo

end RtspProxy.Netem
