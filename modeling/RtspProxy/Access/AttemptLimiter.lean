import Mathlib.Algebra.Order.Ring.Rat
import Mathlib.Tactic.Linarith
import RtspProxy.Lib.Dict
import RtspProxy.Nodes.Validation

/-!
# The limiter of access attempts

`authorize` counts itself among the pending calls of its peer with `begin_peer` and `end_peer`,
and takes a token from the bucket of the peer and one from the bucket of the grant in between.
Every method runs under the lock of the limiter, but `_allow` reads the clock before it takes the
lock: other calls may come between the two.
-/

namespace RtspProxy.Access.AttemptLimiter

open Lib Nodes List Dict

structure RateBucket where
  tokens : Rat
  updated : Rat

structure Settings where
  peerRate : Nat
  peerBurst : Nat
  grantRate : Nat
  grantBurst : Nat
  maximumPendingPerPeer : Nat
  maximumKeys : Nat
  valid : 1 ≤ peerRate ∧ 1 ≤ peerBurst ∧ 1 ≤ grantRate ∧ 1 ≤ grantBurst ∧
    1 ≤ maximumPendingPerPeer ∧ 1 ≤ maximumKeys ∧ peerRate ≤ peerBurst ∧ grantRate ≤ grantBurst

/-- What `_allow` is asked for: by `allow_peer`, with the text of the address, or by
`allow_grant`. -/
inductive Attempt
  | peer (address : String)
  | grant (cameraId grantId : UUID)

def Attempt.key : Attempt → String
  | peer address => "peer:" ++ address
  | grant cameraId grantId => "grant:" ++ cameraId.str ++ ":" ++ grantId.str

def Settings.rate (cfg : Settings) : Attempt → Nat
  | .peer _ => cfg.peerRate
  | .grant _ _ => cfg.grantRate

def Settings.burst (cfg : Settings) : Attempt → Nat
  | .peer _ => cfg.peerBurst
  | .grant _ _ => cfg.grantBurst

structure AccessAttemptLimiter where
  buckets : Dict String RateBucket := empty
  pending : Dict String Nat := empty

namespace AccessAttemptLimiter

variable (cfg : Settings) (limiter : AccessAttemptLimiter)

def beginPeer (key : String) : Option AccessAttemptLimiter :=
  let cur := (limiter.pending.get key).getD 0
  if cfg.maximumPendingPerPeer ≤ cur then none
  else if cur = 0 ∧ cfg.maximumKeys ≤ limiter.pending.length then none
  else some { limiter with pending := limiter.pending.set key (cur + 1) }

def endPeer (key : String) : Except String AccessAttemptLimiter :=
  match limiter.pending.get key with
  | none => throw "access_attempt_pending_missing"
  | some cur =>
    if cur = 1 then return { limiter with pending := limiter.pending.pop key }
    else return { limiter with pending := limiter.pending.set key (cur - 1) }

/-- The key `popitem(last=False)` removes to make room for another one. -/
def evicted (key : String) : Option String :=
  if limiter.buckets.get key |>.isNone then
    if cfg.maximumKeys ≤ limiter.buckets.length then limiter.buckets.items.head?.map Prod.fst
    else none
  else none

def refilled (attempt : Attempt) (now : Rat) : Rat :=
  let bucket := (limiter.buckets.get attempt.key).getD ⟨cfg.burst attempt, now⟩
  min (cfg.burst attempt)
    (bucket.tokens + max 0 (now - bucket.updated) * cfg.rate attempt)

def allow (attempt : Attempt) (now : Rat) : Bool × AccessAttemptLimiter :=
  let tokens := limiter.refilled cfg attempt now
  let others := match limiter.evicted cfg attempt.key with
    | some oldest => limiter.buckets.pop oldest
    | none => limiter.buckets.pop attempt.key
  (decide (1 ≤ tokens), { limiter with
    buckets := others.set attempt.key ⟨if 1 ≤ tokens then tokens - 1 else tokens, now⟩ })

end AccessAttemptLimiter

inductive Stage
  | started
  /-- The clock was read, and the lock has not been taken. -/
  | reading (attempt : Attempt) (now : Rat)
  | allowed (attempt : Attempt)
  | ending

/-- A call of `authorize` whose `begin_peer` succeeded. -/
structure Call where
  peer : String
  stage : Stage

structure Answer where
  key : String
  now : Rat
  allowed : Bool
  evicted : Option String

structure World where
  limiter : AccessAttemptLimiter := {}
  calls : List Call := []
  clock : Rat := 0
  answers : List Answer := []

variable {cfg : Settings}

/-- A call may end at any point between `begin_peer` and `end_peer`, however it ends. -/
inductive Step (cfg : Settings) (w : World) : World → Prop
  | begin (peer : String) (limiter : AccessAttemptLimiter)
      (began : w.limiter.beginPeer cfg peer = some limiter) :
      Step cfg w { w with limiter, calls := w.calls ++ [⟨peer, .started⟩] }
  | deny (peer : String) (denied : w.limiter.beginPeer cfg peer = none) :
      Step cfg w w
  | readPeer (before later : List Call) (peer : String) (now : Rat) (passes : w.clock ≤ now)
      (isCall : w.calls = before ++ ⟨peer, .started⟩ :: later) :
      Step cfg w { w with
        calls := before ++ ⟨peer, .reading (.peer peer) now⟩ :: later, clock := now }
  | readGrant (before later : List Call) (peer : String) (cameraId grantId : UUID) (now : Rat)
      (passes : w.clock ≤ now)
      (isCall : w.calls = before ++ ⟨peer, .allowed (.peer peer)⟩ :: later) :
      Step cfg w { w with
        calls := before ++ ⟨peer, .reading (.grant cameraId grantId) now⟩ :: later, clock := now }
  | take (before later : List Call) (peer : String) (attempt : Attempt) (now : Rat)
      (isCall : w.calls = before ++ ⟨peer, .reading attempt now⟩ :: later) :
      Step cfg w { w with
        limiter := (w.limiter.allow cfg attempt now).2
        calls := before ++ ⟨peer, if (w.limiter.allow cfg attempt now).1 then
          .allowed attempt else .ending⟩ :: later
        answers := w.answers ++ [{
          key := attempt.key, now, allowed := (w.limiter.allow cfg attempt now).1
          evicted := w.limiter.evicted cfg attempt.key }] }
  | finish (before later : List Call) (call : Call) (isCall : w.calls = before ++ call :: later) :
      Step cfg w { w with
        limiter := (w.limiter.endPeer call.peer).toOption.getD w.limiter
        calls := before ++ later }

inductive Reaches (cfg : Settings) (meets : World → World → Prop) : World → Prop
  | start : Reaches cfg meets {}
  | step {w after : World} (reached : Reaches cfg meets w)
      (next : Step cfg w after) (met : meets w after) : Reaches cfg meets after

/-- How many calls of a peer are between `begin_peer` and `end_peer`. -/
def World.openCalls (w : World) (key : String) : Nat := w.calls.countP (·.peer = key)

structure Bracketed (cfg : Settings) (w : World) : Prop where
  pending : ∀ key, w.limiter.pending.get key =
    if w.openCalls key = 0 then none else some (w.openCalls key)
  perPeer : ∀ key, w.openCalls key ≤ cfg.maximumPendingPerPeer
  keys : w.limiter.pending.length ≤ cfg.maximumKeys
  buckets : w.limiter.buckets.length ≤ cfg.maximumKeys

variable {w after : World} {pre later : List Call} {call : Call}

theorem open_calls_changed {stage : Stage} (isCall : w.calls = pre ++ call :: later)
    (isAfter : after.calls = pre ++ ⟨call.peer, stage⟩ :: later) (key : String) :
    after.openCalls key = w.openCalls key := by
  simp [World.openCalls, isCall, isAfter, countP_append, countP_cons]

theorem open_calls_split (isCall : w.calls = pre ++ call :: later) (key : String) :
    w.openCalls key = (pre ++ later).countP (·.peer = key) + if call.peer = key then 1 else 0 := by
  simp only [World.openCalls, isCall, countP_append, countP_cons, decide_eq_true_eq]
  omega

theorem bracketed_same (bracketed : Bracketed cfg w)
    (pending : after.limiter.pending = w.limiter.pending)
    (counts : ∀ key, after.openCalls key = w.openCalls key)
    (buckets : after.limiter.buckets.length ≤ cfg.maximumKeys) :
    Bracketed cfg after where
  pending key := by
    rw [pending, counts]
    exact bracketed.pending key
  perPeer key := by
    rw [counts]
    exact bracketed.perPeer key
  keys := by
    rw [pending]
    exact bracketed.keys
  buckets := buckets

theorem evicted_cases (limiter : AccessAttemptLimiter) (key : String) :
    (∃ oldest bucket, limiter.evicted cfg key = some oldest ∧ limiter.buckets.get key = none ∧
      limiter.buckets.get oldest = some bucket) ∨
    (limiter.evicted cfg key = none ∧ (limiter.buckets.get key = none →
      limiter.buckets.length < cfg.maximumKeys)) := by
  unfold AccessAttemptLimiter.evicted
  cases found : limiter.buckets.get key with
  | some bucket => exact .inr ⟨rfl, nofun⟩
  | none =>
    by_cases full : cfg.maximumKeys ≤ limiter.buckets.length
    · obtain ⟨item, isHead⟩ : ∃ item, limiter.buckets.items.head? = some item := by
        have nonempty : limiter.buckets.items ≠ [] := by
          have room := cfg.valid.2.2.2.2.2.1
          exact ne_nil_of_length_pos (lt_of_lt_of_le room full)
        exact ⟨_, head?_eq_some_head nonempty⟩
      refine .inl ⟨item.1, item.2, ?_, rfl, get_eq_some.mpr (mem_of_mem_head? isHead)⟩
      simp [full, isHead]
    · exact .inr ⟨by simp [full], fun _ => Nat.lt_of_not_le full⟩

variable {limiter : AccessAttemptLimiter}

theorem allow_length (attempt : Attempt) (now : Rat)
    (within : limiter.buckets.length ≤ cfg.maximumKeys) :
    (limiter.allow cfg attempt now).2.buckets.length ≤ cfg.maximumKeys := by
  unfold AccessAttemptLimiter.allow
  refine (length_set_le _ _ _).trans ?_
  obtain ⟨oldest, bucket, isEvicted, _, present⟩ | ⟨isEvicted, room⟩ :=
    @evicted_cases cfg limiter attempt.key
  · rw [isEvicted]
    exact (length_pop_lt present).trans_le within
  · rw [isEvicted]
    cases found : limiter.buckets.get attempt.key with
    | some bucket => exact (length_pop_lt found).trans_le within
    | none => exact (length_pop_le _ _).trans_lt (room found)

theorem bracketed_begin (bracketed : Bracketed cfg w) {peer : String}
    (began : w.limiter.beginPeer cfg peer = some limiter) :
    Bracketed cfg { w with limiter, calls := w.calls ++ [⟨peer, .started⟩] } := by
  have cur : (w.limiter.pending.get peer).getD 0 = w.openCalls peer := by
    rw [bracketed.pending peer]
    split_ifs with none
    · exact none.symm
    · rfl
  have counts (key : String) : World.openCalls { w with
      limiter, calls := w.calls ++ [⟨peer, .started⟩] } key =
        w.openCalls key + if peer = key then 1 else 0 := by
    simp [World.openCalls, countP_append, countP_cons]
  unfold AccessAttemptLimiter.beginPeer at began
  simp only [cur] at began
  split_ifs at began with full noRoom
  cases began
  refine ⟨fun key => ?_, fun key => ?_, ?_, bracketed.buckets⟩
  · rw [counts, get_set]
    by_cases same : key = peer
    · simp [same]
    · rw [if_neg same, if_neg (Ne.symm same), Nat.add_zero]
      exact bracketed.pending key
  · rw [counts]
    split_ifs with same
    · rw [← same]
      exact Nat.lt_of_not_le full
    · exact bracketed.perPeer key
  · by_cases isNew : w.openCalls peer = 0
    · exact (length_set_le _ _ _).trans (Nat.lt_of_not_le fun most => noRoom ⟨isNew, most⟩)
    · refine (length_set_of_present ?_).le.trans bracketed.keys
      rw [bracketed.pending peer, if_neg isNew]
      exact Option.some_ne_none _

/-- `end_peer` finds what `begin_peer` left. -/
theorem end_peer_found (bracketed : Bracketed cfg w) (isCall : w.calls = pre ++ call :: later) :
    ∃ limiter, w.limiter.endPeer call.peer = .ok limiter ∧
      Bracketed cfg { w with limiter, calls := pre ++ later } := by
  have counts := open_calls_split isCall
  have pending := bracketed.pending
  have present : w.openCalls call.peer ≠ 0 := by
    rw [counts, if_pos rfl]
    exact Nat.succ_ne_zero _
  have perPeer (key : String) :
      (pre ++ later).countP (·.peer = key) ≤ cfg.maximumPendingPerPeer :=
    (Nat.le_add_right _ _).trans ((counts key).symm.le.trans (bracketed.perPeer key))
  unfold AccessAttemptLimiter.endPeer
  rw [pending, if_neg present]
  by_cases last : w.openCalls call.peer = 1
  · refine ⟨_, if_pos last, fun key => ?_, perPeer, (length_pop_le _ _).trans bracketed.keys,
      bracketed.buckets⟩
    change _ = if countP _ (pre ++ later) = 0 then _ else _
    rw [get_pop, pending key, counts key]
    by_cases same : key = call.peer
    · rw [same]
      have none : (pre ++ later).countP (·.peer = call.peer) = 0 := by
        rw [counts, if_pos rfl] at last
        omega
      rw [if_pos rfl, if_pos none]
    · rw [if_neg same, if_neg (Ne.symm same), Nat.add_zero]
      rfl
  · refine ⟨_, if_neg last, fun key => ?_, perPeer, ?_, bracketed.buckets⟩
    · change _ = if countP _ (pre ++ later) = 0 then _ else _
      rw [get_set, pending key, counts key, counts call.peer, if_pos rfl]
      by_cases same : key = call.peer
      · rw [same]
        rw [counts, if_pos rfl] at last
        have some : (pre ++ later).countP (·.peer = call.peer) ≠ 0 := by omega
        rw [if_pos rfl, if_neg some]
        rfl
      · rw [if_neg same, if_neg (Ne.symm same), Nat.add_zero]
        rfl
    · refine (length_set_of_present ?_).le.trans bracketed.keys
      rw [pending, if_neg present]
      nofun

theorem bracketed_step (bracketed : Bracketed cfg w) (next : Step cfg w after) :
    Bracketed cfg after := by
  cases next with
  | begin peer limiter began => exact bracketed_begin bracketed began
  | deny peer denied => exact bracketed
  | readPeer pre later peer now passes isCall =>
    exact bracketed_same bracketed rfl (open_calls_changed isCall rfl) bracketed.buckets
  | readGrant pre later peer cameraId grantId now passes isCall =>
    exact bracketed_same bracketed rfl (open_calls_changed isCall rfl) bracketed.buckets
  | take pre later peer attempt now isCall =>
    exact bracketed_same bracketed rfl (open_calls_changed isCall rfl)
      (allow_length attempt now bracketed.buckets)
  | finish pre later call isCall =>
    obtain ⟨limiter, ended, closed⟩ := end_peer_found bracketed isCall
    rw [ended]
    exact closed

theorem bracketed_reaches {meets : World → World → Prop} (reached : Reaches cfg meets w) :
    Bracketed cfg w := by
  induction reached with
  | start =>
    exact ⟨fun key => rfl, fun key => Nat.zero_le _, Nat.zero_le _, Nat.zero_le _⟩
  | step _ next _ ih => exact bracketed_step ih next

theorem attempts_bracketed (reached : Reaches cfg (fun _ _ => True) w) :
    (∀ key, (w.limiter.pending.get key).getD 0 ≤ cfg.maximumPendingPerPeer) ∧
      w.limiter.pending.length ≤ cfg.maximumKeys ∧
      w.limiter.buckets.length ≤ cfg.maximumKeys ∧
      (∀ call ∈ w.calls, ∃ limiter, w.limiter.endPeer call.peer = .ok limiter) ∧
      (w.calls = [] → ∀ key, w.limiter.pending.get key = none) := by
  have bracketed := bracketed_reaches reached
  refine ⟨fun key => ?_, bracketed.keys, bracketed.buckets, fun call mem => ?_,
    fun finished key => ?_⟩
  · rw [bracketed.pending key]
    split_ifs with none
    · exact Nat.zero_le _
    · exact bracketed.perPeer key
  · obtain ⟨pre, later, isCall⟩ := append_of_mem mem
    obtain ⟨limiter, ended, _⟩ := end_peer_found bracketed isCall
    exact ⟨limiter, ended⟩
  · rw [bracketed.pending key, if_pos]
    unfold World.openCalls
    rw [finished]
    rfl

def sinceEviction (key : String) (answers : List Answer) : List Answer :=
  answers.foldl (fun since ans => (if ans.evicted = some key then [] else since) ++
    if ans.key = key then [ans] else []) []

def allowedFrom (first : Rat) (answers : List Answer) : Nat :=
  answers.countP fun ans => ans.allowed && decide (first ≤ ans.now)

def allowedWithin (first last : Rat) (answers : List Answer) : Nat :=
  answers.countP fun ans =>
    ans.allowed && decide (first ≤ ans.now ∧ ans.now ≤ last)

/-- No reading reaches the bucket of its key after a later one. -/
def InOrder (w after : World) : Prop :=
  ∀ ans, after.answers = w.answers ++ [ans] → ∀ bucket,
    w.limiter.buckets.get ans.key = some bucket → bucket.updated ≤ ans.now

/-- What a bucket knows of the answers for its key. -/
structure Accounts (cfg : Settings) (attempt : Attempt) (since : List Answer)
    (bucket : RateBucket) : Prop where
  nonneg : 0 ≤ bucket.tokens
  full : bucket.tokens ≤ cfg.burst attempt
  past : ∀ ans ∈ since, ans.now ≤ bucket.updated
  spent : ∀ first ≤ bucket.updated, (allowedFrom first since : Rat) ≤
    cfg.burst attempt + cfg.rate attempt * (bucket.updated - first) - bucket.tokens

structure Metered (cfg : Settings) (attempt : Attempt) (w : World) : Prop where
  absent : w.limiter.buckets.get attempt.key = none → sinceEviction attempt.key w.answers = []
  accounts : ∀ bucket, w.limiter.buckets.get attempt.key = some bucket →
    Accounts cfg attempt (sinceEviction attempt.key w.answers) bucket
  bounded : ∀ first last, first ≤ last →
    (allowedWithin first last (sinceEviction attempt.key w.answers) : Rat) ≤
      cfg.burst attempt + cfg.rate attempt * (last - first)

variable {attempt : Attempt} {since : List Answer} {bucket : RateBucket} {now : Rat}

theorem since_eviction_append (key : String) (answers : List Answer) (ans : Answer) :
    sinceEviction key (answers ++ [ans]) =
      (if ans.evicted = some key then [] else sinceEviction key answers) ++
        if ans.key = key then [ans] else [] := by
  unfold sinceEviction
  rw [foldl_append]
  rfl

/-- One more answer, for a reading that is not earlier than the bucket. -/
theorem accounts_taken (accounts : Accounts cfg attempt since bucket)
    (inOrder : bucket.updated ≤ now) {refill : Rat} {ans : Answer}
    (isRefill : refill = min (cfg.burst attempt : Rat)
      (bucket.tokens + max 0 (now - bucket.updated) * cfg.rate attempt))
    (isNow : ans.now = now) (isAllowed : ans.allowed = decide (1 ≤ refill)) :
    Accounts cfg attempt (since ++ [ans]) ⟨if 1 ≤ refill then refill - 1 else refill, now⟩ := by
  have rate : (0 : Rat) ≤ cfg.rate attempt := Nat.cast_nonneg _
  have elapsed : max 0 (now - bucket.updated) = now - bucket.updated :=
    max_eq_right (sub_nonneg.mpr inOrder)
  rw [elapsed] at isRefill
  have atMost : refill ≤ cfg.burst attempt := isRefill ▸ min_le_left _ _
  have earned : refill ≤ bucket.tokens + (now - bucket.updated) * cfg.rate attempt :=
    isRefill ▸ min_le_right _ _
  have nonneg : 0 ≤ refill := by
    rw [isRefill]
    refine le_min (Nat.cast_nonneg _) (add_nonneg accounts.nonneg ?_)
    exact mul_nonneg (sub_nonneg.mpr inOrder) rate
  have pre : ∀ first ≤ now, (allowedFrom first since : Rat) ≤
      cfg.burst attempt + cfg.rate attempt * (now - first) - refill := by
    intro first isFirst
    by_cases isBefore : first ≤ bucket.updated
    · have spent := accounts.spent first isBefore
      linarith
    · have none : allowedFrom first since = 0 := by
        refine countP_eq_zero.mpr fun ans mem => ?_
        have isPast := accounts.past ans mem
        simp [not_le.mpr (lt_of_le_of_lt isPast (not_le.mp isBefore))]
      have gained := mul_nonneg rate (sub_nonneg.mpr isFirst)
      rw [none, Nat.cast_zero]
      linarith
  refine ⟨?_, ?_, ?_, fun first isFirst => ?_⟩
  · dsimp only
    split_ifs <;> linarith
  · dsimp only
    split_ifs <;> linarith
  · intro other mem
    rcases mem_append.mp mem with old | new
    · exact (accounts.past other old).trans inOrder
    · rw [mem_singleton.mp new, isNow]
  · have counted : allowedFrom first (since ++ [ans]) =
        allowedFrom first since + if 1 ≤ refill then 1 else 0 := by
      simp [allowedFrom, countP_append, countP_cons, isNow, isAllowed,
        show first ≤ now from isFirst]
    have pre := pre first isFirst
    rw [counted]
    split_ifs <;> push_cast <;> linarith

theorem within_le_from (first last : Rat) (answers : List Answer) :
    allowedWithin first last answers ≤ allowedFrom first answers := by
  refine countP_mono_left fun ans _ isWithin => ?_
  simp only [Bool.and_eq_true, decide_eq_true_eq] at isWithin ⊢
  exact ⟨isWithin.1, isWithin.2.1⟩

theorem bounded_taken {ans : Answer} {tokens : Rat}
    (accounts : Accounts cfg attempt (since ++ [ans]) ⟨tokens, ans.now⟩)
    (bounded : ∀ first last, first ≤ last → (allowedWithin first last since : Rat) ≤
      cfg.burst attempt + cfg.rate attempt * (last - first))
    (first last : Rat) (ordered : first ≤ last) :
    (allowedWithin first last (since ++ [ans]) : Rat) ≤
      cfg.burst attempt + cfg.rate attempt * (last - first) := by
  by_cases counts : first ≤ ans.now ∧ ans.now ≤ last
  · have spent := accounts.spent first counts.1
    have nonneg : 0 ≤ tokens := accounts.nonneg
    have rate : (0 : Rat) ≤ cfg.rate attempt := Nat.cast_nonneg _
    have later := mul_le_mul_of_nonneg_left (sub_le_sub_right counts.2 first) rate
    have most : (allowedWithin first last (since ++ [ans]) : Rat) ≤ _ :=
      Nat.cast_le.mpr (within_le_from first last _)
    linarith
  · have same : allowedWithin first last (since ++ [ans]) = allowedWithin first last since := by
      simp [allowedWithin, countP_append, counts]
    rw [same]
    exact bounded first last ordered

variable {other : Attempt}

/-- The keys of peers and of grants differ, so a key has one rate and one burst. -/
theorem same_kind (same : other.key = attempt.key) :
    cfg.rate other = cfg.rate attempt ∧ cfg.burst other = cfg.burst attempt := by
  cases other <;> cases attempt
  · exact ⟨rfl, rfl⟩
  · simpa [Attempt.key, String.toList_append] using congrArg (·.toList.head?) same
  · simpa [Attempt.key, String.toList_append] using congrArg (·.toList.head?) same
  · exact ⟨rfl, rfl⟩

theorem metered_same (metered : Metered cfg attempt w)
    (buckets : after.limiter.buckets = w.limiter.buckets)
    (answers : after.answers = w.answers) : Metered cfg attempt after := by
  constructor
  · rw [buckets, answers]
    exact metered.absent
  · rw [buckets, answers]
    exact metered.accounts
  · rw [answers]
    exact metered.bounded

theorem begin_keeps_buckets {limiter began : AccessAttemptLimiter} {key : String}
    (isBegun : limiter.beginPeer cfg key = some began) : began.buckets = limiter.buckets := by
  unfold AccessAttemptLimiter.beginPeer at isBegun
  simp only at isBegun
  split_ifs at isBegun
  cases isBegun
  rfl

theorem end_keeps_buckets (limiter : AccessAttemptLimiter) (key : String) :
    ((limiter.endPeer key).toOption.getD limiter).buckets = limiter.buckets := by
  unfold AccessAttemptLimiter.endPeer
  cases limiter.pending.get key with
  | none => rfl
  | some cur =>
    dsimp only
    split_ifs <;> rfl

theorem accounts_found (metered : Metered cfg attempt w)
    (inOrder : ∀ bucket, w.limiter.buckets.get attempt.key = some bucket → bucket.updated ≤ now) :
    Accounts cfg attempt (sinceEviction attempt.key w.answers)
        ((w.limiter.buckets.get attempt.key).getD ⟨cfg.burst attempt, now⟩) ∧
      ((w.limiter.buckets.get attempt.key).getD ⟨cfg.burst attempt, now⟩).updated ≤
        now := by
  cases found : w.limiter.buckets.get attempt.key with
  | some bucket => exact ⟨metered.accounts bucket found, inOrder bucket found⟩
  | none =>
    rw [metered.absent found]
    refine ⟨⟨Nat.cast_nonneg _, le_rfl, nofun, fun first isFirst => ?_⟩, le_rfl⟩
    have rate : (0 : Rat) ≤ cfg.rate attempt := Nat.cast_nonneg _
    have gained := mul_nonneg rate (sub_nonneg.mpr isFirst)
    simpa [allowedFrom] using gained

theorem metered_congr (same : other.key = attempt.key)
    (metered : Metered cfg other w) : Metered cfg attempt w := by
  obtain ⟨rate, burst⟩ := @same_kind cfg _ _ same
  refine ⟨same ▸ metered.absent, fun bucket found => ?_, ?_⟩
  · obtain ⟨nonneg, full, past, spent⟩ := metered.accounts bucket (same ▸ found)
    rw [rate, burst, same] at spent
    exact ⟨nonneg, burst ▸ full, same ▸ past, spent⟩
  · have bounded := metered.bounded
    rw [rate, burst, same] at bounded
    exact bounded

theorem metered_take_own (metered : Metered cfg attempt w)
    (inOrder : ∀ bucket, w.limiter.buckets.get attempt.key = some bucket → bucket.updated ≤ now)
    (buckets : after.limiter.buckets = (w.limiter.allow cfg attempt now).2.buckets)
    (answers : after.answers = w.answers ++ [{
      key := attempt.key, now, allowed := (w.limiter.allow cfg attempt now).1
      evicted := w.limiter.evicted cfg attempt.key }]) :
    Metered cfg attempt after := by
  have notEvicted : w.limiter.evicted cfg attempt.key ≠ some attempt.key := by
    obtain ⟨oldest, bucket, isEvicted, absent, present⟩ | ⟨isEvicted, _⟩ :=
      @evicted_cases cfg w.limiter attempt.key
    · intro same
      cases isEvicted.symm.trans same
      cases absent.symm.trans present
    · rw [isEvicted]
      nofun
  obtain ⟨accounts, isBefore⟩ := accounts_found metered inOrder
  let refill := w.limiter.refilled cfg attempt now
  let ans : Answer := {
    key := attempt.key, now, allowed := (w.limiter.allow cfg attempt now).1
    evicted := w.limiter.evicted cfg attempt.key }
  have taken : Accounts cfg attempt (sinceEviction attempt.key w.answers ++ [ans])
      ⟨if 1 ≤ refill then refill - 1 else refill, now⟩ :=
    accounts_taken accounts isBefore rfl rfl rfl
  have since : sinceEviction attempt.key after.answers =
      sinceEviction attempt.key w.answers ++ [ans] := by
    rw [answers, since_eviction_append, if_neg notEvicted, if_pos rfl]
  have found : after.limiter.buckets.get attempt.key =
      some ⟨if 1 ≤ refill then refill - 1 else refill, now⟩ := by
    rw [buckets]
    exact get_set_self _ _ _
  refine ⟨fun absent => ?_, fun bucket isBucket => ?_, ?_⟩
  · cases absent.symm.trans found
  · cases found.symm.trans isBucket
    rw [since]
    exact taken
  · rw [since]
    exact bounded_taken taken metered.bounded

theorem metered_take_other (metered : Metered cfg attempt w) (differ : attempt.key ≠ other.key)
    (buckets : after.limiter.buckets = (w.limiter.allow cfg other now).2.buckets)
    (answers : after.answers = w.answers ++ [{
      key := other.key, now, allowed := (w.limiter.allow cfg other now).1
      evicted := w.limiter.evicted cfg other.key }]) :
    Metered cfg attempt after := by
  have since := since_eviction_append attempt.key w.answers {
    key := other.key, now, allowed := (w.limiter.allow cfg other now).1
    evicted := w.limiter.evicted cfg other.key }
  rw [← answers, if_neg (Ne.symm differ), append_nil] at since
  have found : after.limiter.buckets.get attempt.key =
      if w.limiter.evicted cfg other.key = some attempt.key then none
      else w.limiter.buckets.get attempt.key := by
    rw [buckets]
    unfold AccessAttemptLimiter.allow
    rw [get_set_ne differ]
    cases w.limiter.evicted cfg other.key with
    | none => rw [get_pop, if_neg differ, if_neg nofun]
    | some oldest =>
      rw [get_pop]
      by_cases same : attempt.key = oldest
      · rw [if_pos same, if_pos (congrArg some same.symm)]
      · rw [if_neg same, if_neg fun isOldest => same (Option.some.inj isOldest).symm]
  split_ifs at since found with isEvicted
  · refine ⟨fun _ => since, fun bucket isBucket => ?_, fun first last ordered => ?_⟩
    · cases found.symm.trans isBucket
    · have rate : (0 : Rat) ≤ cfg.rate attempt := Nat.cast_nonneg _
      rw [since]
      exact add_nonneg (Nat.cast_nonneg _) (mul_nonneg rate (sub_nonneg.mpr ordered))
  · constructor
    · rw [since, found]
      exact metered.absent
    · rw [since, found]
      exact metered.accounts
    · rw [since]
      exact metered.bounded

theorem metered_step (metered : Metered cfg attempt w) (next : Step cfg w after)
    (inOrder : InOrder w after) : Metered cfg attempt after := by
  cases next with
  | begin peer limiter began => exact metered_same metered (begin_keeps_buckets began) rfl
  | deny peer denied => exact metered
  | readPeer pre later peer now passes isCall => exact metered_same metered rfl rfl
  | readGrant pre later peer cameraId grantId now passes isCall =>
    exact metered_same metered rfl rfl
  | take pre later peer other now isCall =>
    by_cases same : attempt.key = other.key
    · exact metered_congr same.symm
        (metered_take_own (metered_congr same metered) (inOrder _ rfl) rfl rfl)
    · exact metered_take_other metered same rfl rfl
  | finish pre later call isCall =>
    exact metered_same metered (end_keeps_buckets _ _) rfl

/-- As long as the readings reach their buckets in order. -/
theorem token_bucket_bound (attempt : Attempt) (reached : Reaches cfg InOrder w)
    (first last : Rat) (ordered : first ≤ last) :
    (allowedWithin first last (sinceEviction attempt.key w.answers) : Rat) ≤
      cfg.burst attempt + cfg.rate attempt * (last - first) := by
  have metered : Metered cfg attempt w := by
    induction reached with
    | start =>
      refine ⟨fun _ => rfl, nofun, fun first last ordered => ?_⟩
      have rate : (0 : Rat) ≤ cfg.rate attempt := Nat.cast_nonneg _
      exact add_nonneg (Nat.cast_nonneg _) (mul_nonneg rate (sub_nonneg.mpr ordered))
    | step _ next inOrder ih => exact metered_step ih next inOrder
  exact metered.bounded first last ordered

def sampleSettings : Settings where
  peerRate := 1
  peerBurst := 1
  grantRate := 1
  grantBurst := 1
  maximumPendingPerPeer := 3
  maximumKeys := 1
  valid := by decide

abbrev samplePeer : String := "192.0.2.1"

abbrev readAt (now : Rat) : Call := ⟨samplePeer, .reading (.peer samplePeer) now⟩

abbrev started : Call := ⟨samplePeer, .started⟩

/-- Two calls read the clock one after the other, and take the lock in the opposite order. -/
theorem token_bucket_overtaken :
    ∃ w, Reaches sampleSettings (fun _ _ => True) w ∧
      ¬ (allowedWithin 1 1 (sinceEviction (Attempt.peer samplePeer).key w.answers) : Rat) ≤
        sampleSettings.burst (.peer samplePeer) +
          sampleSettings.rate (.peer samplePeer) * (1 - 1) := by
  have new : Reaches sampleSettings (fun _ _ => True) {} := .start
  have began := (new.step (.begin samplePeer _ rfl) trivial).step
    (.begin samplePeer _ rfl) trivial
  have read := (began.step (.readPeer [] [started] samplePeer 0 (by decide) rfl) trivial).step
    (.readPeer [readAt 0] [] samplePeer 1 (by decide) rfl) trivial
  have taken := (read.step (.take [readAt 0] [] samplePeer (.peer samplePeer) 1 rfl) trivial).step
    (.take [] _ samplePeer (.peer samplePeer) 0 rfl) trivial
  have again := (taken.step (.begin samplePeer _ rfl) trivial).step
    (.readPeer [_, _] [] samplePeer 1 (by decide) rfl) trivial
  have last := again.step (.take [_, _] [] samplePeer (.peer samplePeer) 1 rfl) trivial
  exact ⟨_, last, by decide +kernel⟩

theorem in_order_of_quiet (quiet : after.answers = w.answers) : InOrder w after := by
  intro ans isNew
  rw [quiet] at isNew
  exact absurd isNew (by simp)

theorem in_order_of_answer {answer : Answer} (isNew : after.answers = w.answers ++ [answer])
    (kept : ∀ bucket ∈ w.limiter.buckets.get answer.key, bucket.updated ≤ answer.now) :
    InOrder w after := by
  intro ans isAns bucket found
  rw [isNew] at isAns
  obtain rfl := singleton_inj.mp (append_cancel_left isAns)
  exact kept bucket found

/-- The second reading finds a full bucket again, and the bound is met with equality. -/
theorem token_bucket_bound_refilled :
    ∃ w : World, w.answers.map (·.allowed) = [true, true] ∧
      allowedWithin 0 1 (sinceEviction (Attempt.peer samplePeer).key w.answers) = 2 ∧
      (allowedWithin 0 1 (sinceEviction (Attempt.peer samplePeer).key w.answers) : Rat) ≤
        sampleSettings.burst (.peer samplePeer) +
          sampleSettings.rate (.peer samplePeer) * (1 - 0) := by
  have new : Reaches sampleSettings InOrder {} := .start
  have read := (new.step (.begin samplePeer _ rfl) (in_order_of_quiet rfl)).step
    (.readPeer [] [] samplePeer 0 (by decide) rfl) (in_order_of_quiet rfl)
  have taken := read.step (.take [] [] samplePeer (.peer samplePeer) 0 rfl)
    (in_order_of_answer rfl (by decide +kernel))
  have again := (taken.step (.begin samplePeer _ rfl) (in_order_of_quiet rfl)).step
    (.readPeer [_] [] samplePeer 1 (by decide) rfl) (in_order_of_quiet rfl)
  have last := again.step (.take [_] [] samplePeer (.peer samplePeer) 1 rfl)
    (in_order_of_answer rfl (by decide +kernel))
  exact ⟨_, by decide +kernel, by decide +kernel,
    token_bucket_bound (.peer samplePeer) last 0 1 (by decide)⟩

/-- Two calls of one peer overlap, and both end. -/
theorem attempts_bracketed_overlapping :
    ∃ both ended : World, both.limiter.pending.get samplePeer = some 2 ∧
      (∀ call ∈ both.calls, ∃ limiter, both.limiter.endPeer call.peer = .ok limiter) ∧
      ended.answers.length = 2 ∧ ended.limiter.pending.get samplePeer = none := by
  have new : Reaches sampleSettings (fun _ _ => True) {} := .start
  have both := (new.step (.begin samplePeer _ rfl) trivial).step
    (.begin samplePeer _ rfl) trivial
  have read := (both.step (.readPeer [] [started] samplePeer 0 (by decide) rfl) trivial).step
    (.readPeer [readAt 0] [] samplePeer 1 (by decide) rfl) trivial
  have taken := (read.step (.take [readAt 0] [] samplePeer (.peer samplePeer) 1 rfl) trivial).step
    (.take [] [_] samplePeer (.peer samplePeer) 0 rfl) trivial
  have ended := (taken.step (.finish [] [_] _ rfl) trivial).step (.finish [] [] _ rfl) trivial
  exact ⟨_, _, by decide +kernel, (attempts_bracketed both).2.2.2.1, rfl,
    (attempts_bracketed ended).2.2.2.2 rfl samplePeer⟩

end RtspProxy.Access.AttemptLimiter
