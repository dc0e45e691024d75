import RtspProxy.Lib.Dict
import RtspProxy.Lib.Sql
import RtspProxy.Probes.Records

/-!
# The probe scheduler

`BoundedProbeScheduler` of `probes.py`. Requests wait in one queue per priority
until `claimAvailable` leases them; `requestsByCamera` indexes every outstanding
request, waiting or leased, and `attempts` counts its leases. The identifiers
drawn by `uuid4()` are arguments that carry their version. An operation returns
the scheduler it leaves behind also when it raises.
-/

namespace RtspProxy.Probes

open Nodes Lib

/-- What `uuid4()` returns. -/
abbrev UUID4 := { id : UUID // id.isVersion4 = true }

/-- The arguments of the constructor. Delays are already `timedelta`s. -/
structure ProbeSchedulerConfig where
  globalLimit : Nat
  perNodeLimit : Nat
  perSiteLimit : Nat
  sourceLimit : Nat
  pathLimit : Nat
  queueLimit : Nat
  lease : Int
  retryDelay : Int
  maxAttempts : Int
  globalValid : 1 ≤ globalLimit ∧ globalLimit ≤ 256
  nodeValid : 1 ≤ perNodeLimit ∧ perNodeLimit ≤ globalLimit
  siteValid : 1 ≤ perSiteLimit ∧ perSiteLimit ≤ globalLimit
  methodValid : (1 ≤ sourceLimit ∧ sourceLimit ≤ globalLimit) ∧
    1 ≤ pathLimit ∧ pathLimit ≤ globalLimit
  queueValid : 1 ≤ queueLimit ∧ queueLimit ≤ 10000
  leaseValid : 100000 ≤ lease ∧ lease ≤ timedeltaSeconds 60
  retryValid : 100000 ≤ retryDelay ∧ retryDelay ≤ timedeltaSeconds 300
  attemptsValid : 1 ≤ maxAttempts ∧ maxAttempts ≤ 10

def ProbeSchedulerConfig.methodLimit (cfg : ProbeSchedulerConfig) : ProbeMethod → Nat
  | .source => cfg.sourceLimit
  | .path => cfg.pathLimit

structure ProbeScheduler where
  requestsByCamera : Dict UUID ProbeRequest
  pending : ProbePriority → List ProbeRequest
  active : Dict UUID ProbeLease
  attempts : Dict UUID Int
  fairIndex : Nat
  submittedTotal : Nat
  completedTotal : Nat
  expiredTotal : Nat
  rejectedTotal : Nat

def ProbeScheduler.initial : ProbeScheduler :=
  { requestsByCamera := .empty, pending := fun _ => [], active := .empty, attempts := .empty
    fairIndex := 0, submittedTotal := 0, completedTotal := 0, expiredTotal := 0, rejectedTotal := 0 }

namespace ProbeScheduler

def totalWeight : Nat := (probePriorities.map ProbePriority.weight).sum

/-- `max(ProbePriority, key=..)`: of the priorities with the greatest shortfall the one of highest
rank. -/
def mostShort (globalLimit : Nat) (reservations : ProbePriority → Nat) : ProbePriority :=
  let shortfall (cand : ProbePriority) : Int :=
    (globalLimit * cand.weight : Int) - reservations cand * totalWeight
  let better (left right : ProbePriority) : Bool :=
    shortfall left > shortfall right ∨ (shortfall left = shortfall right ∧ left.rank > right.rank)
  (Sql.firstBy better probePriorities).getD .manual

/-- The loop of `_priority_reservations`; each turn adds one. -/
def fillReservations (globalLimit : Nat) :
    Nat → (ProbePriority → Nat) → ProbePriority → Nat
  | 0, reservations => reservations
  | turns + 1, reservations =>
    if (probePriorities.map reservations).sum < globalLimit then
      let priority := mostShort globalLimit reservations
      fillReservations globalLimit turns
        (Function.update reservations priority (reservations priority + 1))
    else reservations

def priorityReservations (globalLimit : Nat) : ProbePriority → Nat :=
  if globalLimit < probePriorities.length then fun _ => 0
  else
    fillReservations globalLimit globalLimit fun priority =>
      max 1 (globalLimit * priority.weight / totalWeight)

def setPending (sched : ProbeScheduler) (priority : ProbePriority)
    (queue : List ProbeRequest) : ProbeScheduler :=
  { sched with pending := Function.update sched.pending priority queue }

def forget (sched : ProbeScheduler) (cameraId requestId : UUID) : ProbeScheduler :=
  { sched with
    requestsByCamera := sched.requestsByCamera.pop cameraId
    attempts := sched.attempts.pop requestId }

def endLease (sched : ProbeScheduler) (requestId : UUID) : ProbeScheduler :=
  { sched with
    active := sched.active.pop requestId
    expiredTotal := sched.expiredTotal + 1 }

def reindex (sched : ProbeScheduler) (cameraId : UUID) (req : ProbeRequest) :
    ProbeScheduler :=
  { sched with requestsByCamera := sched.requestsByCamera.set cameraId req }

/-- The request is written back to the index and to the end of its queue. -/
def requeue (sched : ProbeScheduler) (cameraId : UUID) (req : ProbeRequest) :
    ProbeScheduler :=
  (sched.reindex cameraId req).setPending req.priority
    (sched.pending req.priority ++ [req])

def expireLease (cfg : ProbeSchedulerConfig) (now : Datetime) (item : UUID × ProbeLease)
    (sched : ProbeScheduler) : Except ProbeError Unit × ProbeScheduler :=
  let (requestId, lease) := item
  if lease.leaseExpiresAt > now then (.ok (), sched)
  else
    let sched := sched.endLease requestId
    match sched.requestsByCamera.get lease.target.cameraId with
    | none => (.ok (), sched)
    | some req =>
      if req.requestId ≠ requestId then (.ok (), sched)
      else
        let availableAt := now + cfg.retryDelay
        if lease.attempt ≥ cfg.maxAttempts ∨ availableAt ≥ req.deadlineAt then
          (.ok (), sched.forget lease.target.cameraId requestId)
        else
          match ProbeRequest.build req.requestId req.target req.method
              req.priority req.requestedAt req.deadlineAt availableAt with
          | .error err => (.error err, sched)
          | .ok retried => (.ok (), sched.requeue lease.target.cameraId retried)

def expireActive (cfg : ProbeSchedulerConfig) (now : Datetime) (sched : ProbeScheduler) :
    Except ProbeError Unit × ProbeScheduler :=
  Raising.forEach (expireLease cfg now) sched.active.items sched

def expirePending (sched : ProbeScheduler) (req : ProbeRequest) : ProbeScheduler :=
  { sched.forget req.target.cameraId req.requestId with
    expiredTotal := sched.expiredTotal + 1 }

def rejectPending (sched : ProbeScheduler) (req : ProbeRequest) : ProbeScheduler :=
  { sched.forget req.target.cameraId req.requestId with
    rejectedTotal := sched.rejectedTotal + 1 }

/-- The inner loop of `_drop_expired_pending`: the requests retained so far and the scheduler. -/
def dropExpired (now : Datetime) :
    List ProbeRequest → List ProbeRequest × ProbeScheduler → List ProbeRequest × ProbeScheduler
  | [], (retained, sched) => (retained, sched)
  | req :: rest, (retained, sched) =>
    if req.deadlineAt ≤ now then
      dropExpired now rest (retained, sched.expirePending req)
    else dropExpired now rest (retained ++ [req], sched)

def dropExpiredPending (now : Datetime) (sched : ProbeScheduler) : ProbeScheduler :=
  probePriorities.foldl
    (fun cur priority =>
      let (retained, post) := dropExpired now (cur.pending priority) ([], cur)
      post.setPending priority retained)
    sched

/-- The queue of one priority while `_refresh_pending_targets` goes through it. -/
structure Refreshing where
  retained : List ProbeRequest
  admitted : List UUID
  scheduler : ProbeScheduler

def refreshQueue (targets : Dict UUID ProbeTarget) :
    List ProbeRequest → Refreshing → Refreshing
  | [], loop => loop
  | req :: rest, loop =>
    match targets.get req.target.cameraId with
    | none => refreshQueue targets rest { loop with retained := loop.retained ++ [req] }
    | some cur =>
      let rejected := loop.scheduler.rejectPending req
      if sameProbeGeneration req.target cur = false then
        refreshQueue targets rest { loop with scheduler := rejected }
      else
        match requireProbeEligible cur req.method with
        | .error _ => refreshQueue targets rest { loop with scheduler := rejected }
        | .ok () =>
          let refreshed := { req with target := cur }
          refreshQueue targets rest
            { retained := loop.retained ++ [refreshed]
              admitted := loop.admitted ++ [cur.cameraId]
              scheduler := loop.scheduler.reindex cur.cameraId refreshed }

/-- The cameras admitted for this pass, and the scheduler. -/
def refreshPendingTargets (targets : Dict UUID ProbeTarget) (sched : ProbeScheduler) :
    List UUID × ProbeScheduler :=
  probePriorities.foldl
    (fun (admitted, cur) priority =>
      let post := refreshQueue targets (cur.pending priority)
        { retained := [], admitted, scheduler := cur }
      (post.admitted, post.scheduler.setPending priority post.retained))
    ([], sched)

def activeNode (sched : ProbeScheduler) (nodeId : UUID) : Nat :=
  sched.active.values.countP fun lease => decide (lease.target.nodeId = nodeId)

def activeSite (sched : ProbeScheduler) (siteKey : String) : Nat :=
  sched.active.values.countP fun lease => decide (lease.target.siteKey = siteKey)

def activePriority (sched : ProbeScheduler) (priority : ProbePriority) : Nat :=
  sched.active.values.countP fun lease => decide (lease.priority = priority)

def activeMethod (sched : ProbeScheduler) (method : ProbeMethod) : Nat :=
  sched.active.values.countP fun lease => decide (lease.method = method)

def eligible (cfg : ProbeSchedulerConfig) (now : Datetime) (admitted : List UUID)
    (sched : ProbeScheduler) (req : ProbeRequest) : Bool :=
  req.target.cameraId ∈ admitted ∧ req.availableAt ≤ now ∧
    sched.activeNode req.target.nodeId < cfg.perNodeLimit ∧
    sched.activeSite req.target.siteKey < cfg.perSiteLimit ∧
    sched.activeMethod req.method < cfg.methodLimit req.method

/-- Strictly smaller `(deadline_at, requested_at, request_id.int)`. -/
def moreUrgent (left right : ProbeRequest) : Bool :=
  left.deadlineAt < right.deadlineAt ∨ (left.deadlineAt = right.deadlineAt ∧
    (left.requestedAt < right.requestedAt ∨ (left.requestedAt = right.requestedAt ∧
      left.requestId.int < right.requestId.int)))

/-- `for _ in _FAIR_PRIORITIES`: the first accepted priority from the fair index on. -/
def fairScan (accepted : ProbePriority → Bool) : Nat → Nat → Option ProbePriority × Nat
  | 0, fairIndex => (none, fairIndex)
  | tries + 1, fairIndex =>
    let priority := fairPriorities.getD fairIndex .manual
    let following := (fairIndex + 1) % fairPriorities.length
    if accepted priority then (some priority, following) else fairScan accepted tries following

/-- The request to lease next and the fair index after the search. -/
def nextEligibleRequest (cfg : ProbeSchedulerConfig) (now : Datetime) (admitted : List UUID)
    (sched : ProbeScheduler) : Option ProbeRequest × Nat :=
  let cands (priority : ProbePriority) : List ProbeRequest :=
    (sched.pending priority).filter (eligible cfg now admitted sched)
  let reserved := fairScan
    (fun priority =>
      decide (sched.activePriority priority < priorityReservations cfg.globalLimit priority) &&
        !(cands priority).isEmpty)
    fairPriorities.length sched.fairIndex
  match reserved with
  | (some priority, fairIndex) => (Sql.firstBy moreUrgent (cands priority), fairIndex)
  | (none, fairIndex) =>
    let urgent := (probePriorities.flatMap cands).filter fun req =>
      decide (req.deadlineAt - now ≤ cfg.lease)
    match Sql.firstBy moreUrgent urgent with
    | some req => (some req, fairIndex)
    | none =>
      match fairScan (fun priority => !(cands priority).isEmpty)
          fairPriorities.length fairIndex with
      | (some priority, fairIndex) => (Sql.firstBy moreUrgent (cands priority), fairIndex)
      | (none, fairIndex) => (none, fairIndex)

def removeRequest (req : ProbeRequest) (queue : List ProbeRequest) :
    Except ProbeError (List ProbeRequest) :=
  if req ∈ queue then .ok (queue.erase req)
  else .error (.valueError "list.remove(x): x not in list")

/-- The body of the loop of `claim_available`, for the request that was chosen. -/
def leaseRequest (cfg : ProbeSchedulerConfig) (now : Datetime) (req : ProbeRequest)
    (leaseToken : UUID4) (sched : ProbeScheduler) :
    Except ProbeError ProbeLease × ProbeScheduler :=
  match removeRequest req (sched.pending req.priority) with
  | .error err => (.error err, sched)
  | .ok queue =>
    let sched := sched.setPending req.priority queue
    match sched.attempts.get req.requestId with
    | none => (.error .keyError, sched)
    | some made =>
      let attempt := made + 1
      let sched :=
        { sched with attempts := sched.attempts.set req.requestId attempt }
      match ProbeLease.build req.requestId leaseToken.val req.target req.method
          req.priority now (min req.deadlineAt (now + cfg.lease)) attempt with
      | .error err => (.error err, sched)
      | .ok lease =>
        (.ok lease, { sched with active := sched.active.set req.requestId lease })

/-- `while len(self._active) < self._global_limit`. The first argument bounds the turns; each turn
adds an active lease. -/
def claimLoop (cfg : ProbeSchedulerConfig) (now : Datetime) (admitted : List UUID)
    (leaseTokens : Nat → UUID4) :
    Nat → List ProbeLease → ProbeScheduler → Except ProbeError (List ProbeLease) × ProbeScheduler
  | 0, leases, sched => (.ok leases, sched)
  | turns + 1, leases, sched =>
    if sched.active.length < cfg.globalLimit then
      match nextEligibleRequest cfg now admitted sched with
      | (none, fairIndex) => (.ok leases, { sched with fairIndex })
      | (some req, fairIndex) =>
        match leaseRequest cfg now req (leaseTokens leases.length) { sched with fairIndex } with
        | (.error err, post) => (.error err, post)
        | (.ok lease, post) =>
          claimLoop cfg now admitted leaseTokens turns (leases ++ [lease]) post
    else (.ok leases, sched)

def claimAvailable (cfg : ProbeSchedulerConfig) (now : Datetime)
    (targets : Dict UUID ProbeTarget) (leaseTokens : Nat → UUID4)
    (sched : ProbeScheduler) : Except ProbeError (List ProbeLease) × ProbeScheduler :=
  if targets.length > cfg.queueLimit ∨
      targets.items.any (fun item => decide (item.1 ≠ item.2.cameraId)) then
    (.error (.valueError "probe_current_target_batch_invalid"), sched)
  else
    match expireActive cfg now sched with
    | (.error err, post) => (.error err, post)
    | (.ok (), post) =>
      let (admitted, post) := refreshPendingTargets targets (dropExpiredPending now post)
      claimLoop cfg now admitted leaseTokens (cfg.globalLimit - post.active.length) [] post

/-- The part of `submit` for a waiting request of the same camera, generation and method. -/
def promote (cur : ProbeRequest) (target : ProbeTarget) (priority : ProbePriority)
    (deadlineAt : Datetime) (sched : ProbeScheduler) :
    Except ProbeError ProbeRequest × ProbeScheduler :=
  let promotedPriority := if cur.priority.rank < priority.rank then priority else cur.priority
  let promotedDeadline := min cur.deadlineAt deadlineAt
  if promotedPriority = cur.priority ∧ promotedDeadline = cur.deadlineAt then
    (.ok cur, sched)
  else
    match ProbeRequest.build cur.requestId target cur.method promotedPriority
        cur.requestedAt promotedDeadline cur.availableAt with
    | .error err => (.error err, sched)
    | .ok promoted =>
      let queue := sched.pending cur.priority
      if promotedPriority ≠ cur.priority then
        match removeRequest cur queue with
        | .error err => (.error err, sched)
        | .ok queue =>
          let moved := sched.setPending cur.priority queue
          let moved := moved.setPending promotedPriority
            (moved.pending promotedPriority ++ [promoted])
          (.ok promoted, moved.reindex target.cameraId promoted)
      else
        if cur ∈ queue then
          let replaced := sched.setPending cur.priority
            (queue.set (queue.idxOf cur) promoted)
          (.ok promoted, replaced.reindex target.cameraId promoted)
        else (.error (.valueError "list.index(x): x not in list"), sched)

/-- The part of `submit` for a camera without an outstanding request. -/
def acceptNew (cfg : ProbeSchedulerConfig) (target : ProbeTarget) (method : ProbeMethod)
    (priority : ProbePriority) (requestedAt deadlineAt : Datetime) (requestId : UUID4)
    (sched : ProbeScheduler) : Except ProbeError ProbeRequest × ProbeScheduler :=
  if sched.requestsByCamera.length ≥ cfg.queueLimit then
    (.error .probeQueueFull, { sched with rejectedTotal := sched.rejectedTotal + 1 })
  else
    match ProbeRequest.build requestId.val target method priority requestedAt deadlineAt
        requestedAt with
    | .error err => (.error err, sched)
    | .ok req =>
      let queued := sched.requeue target.cameraId req
      (.ok req, { queued with
          attempts := queued.attempts.set req.requestId 0
          submittedTotal := queued.submittedTotal + 1 })

def submit (cfg : ProbeSchedulerConfig) (target : ProbeTarget) (method : ProbeMethod)
    (priority : ProbePriority) (requestedAt deadlineAt : Datetime) (requestId : UUID4)
    (sched : ProbeScheduler) : Except ProbeError ProbeRequest × ProbeScheduler :=
  match requireProbeEligible target method with
  | .error err => (.error err, sched)
  | .ok () =>
    if deadlineAt ≤ requestedAt ∨ deadlineAt - requestedAt > timedeltaSeconds 86400 then
      (.error (.valueError "probe_request_window_invalid"), sched)
    else
      match expireActive cfg requestedAt sched with
      | (.error err, post) => (.error err, post)
      | (.ok (), post) =>
        let post := dropExpiredPending requestedAt post
        match post.requestsByCamera.get target.cameraId with
        | none => acceptNew cfg target method priority requestedAt deadlineAt requestId post
        | some cur =>
          if sameProbeGeneration cur.target target = true ∧ cur.method = method then
            if post.active.contains cur.requestId then (.ok cur, post)
            else promote cur target priority deadlineAt post
          else
            (.error .probeSingleFlightConflict,
              { post with rejectedTotal := post.rejectedTotal + 1 })

/-- Whether the index still knows the request of the lease. -/
def leaseIsOutstanding (sched : ProbeScheduler) (lease : ProbeLease) : Bool :=
  match sched.requestsByCamera.get lease.target.cameraId with
  | none => false
  | some req => decide (req.requestId = lease.requestId)

def release (sched : ProbeScheduler) (lease : ProbeLease) : ProbeScheduler :=
  { sched with active := sched.active.pop lease.requestId }.forget
    lease.target.cameraId lease.requestId

def complete (lease : ProbeLease) (res : ProbeExecutionResult) (observationId : UUID4)
    (sched : ProbeScheduler) : Except ProbeError ProbeObservation × ProbeScheduler :=
  if sched.active.get lease.requestId ≠ some lease ∨
      res.completedAt < lease.startedAt ∨ res.completedAt > lease.leaseExpiresAt then
    (.error (.valueError "probe_lease_invalid"), sched)
  else if sched.leaseIsOutstanding lease = false then
    (.error (.valueError "probe_lease_invalid"), sched)
  else
    let released := sched.release lease
    (ProbeObservation.build observationId.val lease res,
      { released with completedTotal := released.completedTotal + 1 })

def cancel (lease : ProbeLease) (sched : ProbeScheduler) :
    Except ProbeError Unit × ProbeScheduler :=
  if sched.active.get lease.requestId ≠ some lease ∨ sched.leaseIsOutstanding lease = false then
    (.error (.valueError "probe_lease_invalid"), sched)
  else
    let released := sched.release lease
    (.ok (), { released with rejectedTotal := released.rejectedTotal + 1 })

end ProbeScheduler

end RtspProxy.Probes
