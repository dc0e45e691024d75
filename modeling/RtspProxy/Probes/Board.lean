import RtspProxy.Probes.Scheduler

/-!
# What the scheduler keeps track of

Abstractly the scheduler is a board with one place per camera. A place is empty,
holds a waiting request, or holds a request with its lease: a request can not
be in two places, nor wait and be leased at once. The four containers of the
scheduler represent one board, each in its own way; the lemmas say what an
update of one place asks of each container.
-/

namespace RtspProxy.Probes

open Nodes Lib Function Option

/-- An outstanding request; it waits while it has no lease. -/
structure Outstanding where
  request : ProbeRequest
  lease : Option ProbeLease

abbrev Board := UUID → Option Outstanding

namespace Board

/-- What the requests and leases on a board satisfy; `made` counts the leases handed out for a
request. -/
structure WellFormed (cfg : ProbeSchedulerConfig) (made : UUID → Int) (board : Board) : Prop where
  camera : ∀ {cameraId entry}, board cameraId = some entry →
    entry.request.target.cameraId = cameraId
  identified : ∀ {left right leftEntry rightEntry}, board left = some leftEntry →
    board right = some rightEntry → leftEntry.request.requestId = rightEntry.request.requestId →
    left = right
  waiting : ∀ {cameraId req}, board cameraId = some ⟨req, none⟩ →
    made req.requestId < cfg.maxAttempts
  leased : ∀ {cameraId req lease}, board cameraId = some ⟨req, some lease⟩ →
    lease.requestId = req.requestId ∧ lease.target.cameraId = cameraId ∧
    lease.attempt = made req.requestId ∧ req.requestedAt ≤ lease.startedAt ∧
    lease.leaseExpiresAt - lease.startedAt ≤ cfg.lease
  capped : ∀ requestId, 0 ≤ made requestId ∧ made requestId ≤ cfg.maxAttempts

/-- `_requests_by_camera` holds the request of every place. -/
def Indexes (board : Board) (reqs : Dict UUID ProbeRequest) : Prop :=
  ∀ cameraId, reqs.get cameraId = (board cameraId).map Outstanding.request

/-- Each queue holds the waiting requests of its priority, once. -/
def Queues (board : Board) (pending : ProbePriority → List ProbeRequest) : Prop :=
  ∀ priority, (pending priority).Nodup ∧ ∀ req, req ∈ pending priority ↔
    req.priority = priority ∧ board req.target.cameraId = some ⟨req, none⟩

/-- `_active` holds the leases, under the identifier of the request. -/
def Leases (board : Board) (active : Dict UUID ProbeLease) : Prop :=
  ∀ requestId lease, active.get requestId = some lease ↔
    ∃ cameraId req, board cameraId = some ⟨req, some lease⟩ ∧ req.requestId = requestId

/-- `_attempts` counts the leases of every request on the board, and of no other. -/
def Counts (made : UUID → Int) (board : Board) (attempts : Dict UUID Int) : Prop :=
  ∀ requestId count, attempts.get requestId = some count ↔
    count = made requestId ∧ ∃ cameraId entry, board cameraId = some entry ∧
      entry.request.requestId = requestId

variable {cfg : ProbeSchedulerConfig} {made : UUID → Int} {board : Board}

theorem WellFormed.clear (wellFormed : WellFormed cfg made board) (cameraId : UUID) :
    WellFormed cfg made (update board cameraId none) := by
  have old : ∀ {other entry}, update board cameraId none other = some entry →
      board other = some entry := by
    intro other entry found
    by_cases same : other = cameraId
    · simp [same] at found
    · simpa [same] using found
  constructor
  · intro other entry found
    exact wellFormed.camera (old found)
  · intro left right leftEntry rightEntry leftFound rightFound
    exact wellFormed.identified (old leftFound) (old rightFound)
  · intro other req found
    exact wellFormed.waiting (old found)
  · intro other req lease found
    exact wellFormed.leased (old found)
  · exact wellFormed.capped

variable {cameraId : UUID} {entry : Outstanding}

theorem WellFormed.fill (wellFormed : WellFormed cfg made board)
    (camera : entry.request.target.cameraId = cameraId)
    (alone : ∀ {other held}, board other = some held →
      held.request.requestId = entry.request.requestId → other = cameraId)
    (waiting : entry.lease = none → made entry.request.requestId < cfg.maxAttempts)
    (leased : ∀ lease, entry.lease = some lease →
      lease.requestId = entry.request.requestId ∧ lease.target.cameraId = cameraId ∧
      lease.attempt = made entry.request.requestId ∧ entry.request.requestedAt ≤ lease.startedAt ∧
      lease.leaseExpiresAt - lease.startedAt ≤ cfg.lease) :
    WellFormed cfg made (update board cameraId (some entry)) := by
  constructor
  · intro other held found
    by_cases same : other = cameraId
    · simp only [same, update_self, some.injEq] at found
      rw [← found, same]
      exact camera
    · rw [update_of_ne same] at found
      exact wellFormed.camera found
  · intro left right leftEntry rightEntry leftFound rightFound sameId
    by_cases leftSame : left = cameraId
    · by_cases rightSame : right = cameraId
      · rw [leftSame, rightSame]
      · simp only [leftSame, update_self, some.injEq] at leftFound
        rw [update_of_ne rightSame] at rightFound
        rw [leftSame, alone rightFound (by rw [← sameId, ← leftFound])]
    · rw [update_of_ne leftSame] at leftFound
      by_cases rightSame : right = cameraId
      · simp only [rightSame, update_self, some.injEq] at rightFound
        rw [rightSame, alone leftFound (by rw [sameId, ← rightFound])]
      · rw [update_of_ne rightSame] at rightFound
        exact wellFormed.identified leftFound rightFound sameId
  · intro other req found
    by_cases same : other = cameraId
    · simp only [same, update_self, some.injEq] at found
      have isWaiting := waiting (by rw [found])
      rw [found] at isWaiting
      exact isWaiting
    · rw [update_of_ne same] at found
      exact wellFormed.waiting found
  · intro other req lease found
    by_cases same : other = cameraId
    · simp only [same, update_self, some.injEq] at found
      have isLeased := leased lease (by rw [found])
      rw [found] at isLeased
      rw [same]
      exact isLeased
    · rw [update_of_ne same] at found
      exact wellFormed.leased found
  · exact wellFormed.capped

theorem WellFormed.recount (wellFormed : WellFormed cfg made board) {requestId : UUID}
    {count : Int} (absent : ∀ {cameraId entry}, board cameraId = some entry →
      entry.request.requestId ≠ requestId) (bounded : 0 ≤ count ∧ count ≤ cfg.maxAttempts) :
    WellFormed cfg (update made requestId count) board := by
  constructor
  · exact wellFormed.camera
  · exact wellFormed.identified
  · intro cameraId req found
    rw [update_of_ne (absent found)]
    exact wellFormed.waiting found
  · intro cameraId req lease found
    rw [update_of_ne (absent found)]
    exact wellFormed.leased found
  · intro other
    by_cases same : other = requestId
    · rw [same, update_self]
      exact bounded
    · rw [update_of_ne same]
      exact wellFormed.capped other

variable {cameraId : UUID}

variable {req : ProbeRequest}

theorem WellFormed.lease (wellFormed : WellFormed cfg made board)
    (found : board cameraId = some ⟨req, none⟩) {lease : ProbeLease}
    (isRequest : lease.requestId = req.requestId) (isTarget : lease.target = req.target)
    (attempt : lease.attempt = made req.requestId + 1)
    (started : req.requestedAt ≤ lease.startedAt)
    (lasts : lease.leaseExpiresAt - lease.startedAt ≤ cfg.lease) :
    WellFormed cfg (update made req.requestId (made req.requestId + 1))
      (update board cameraId (some ⟨req, some lease⟩)) := by
  have elsewhere : ∀ {other entry}, update board cameraId none other = some entry →
      entry.request.requestId ≠ req.requestId := by
    intro other entry atOther same
    by_cases here : other = cameraId
    · rw [here, update_self] at atOther
      cases atOther
    · rw [update_of_ne here] at atOther
      exact here (wellFormed.identified atOther found same)
  have left := wellFormed.waiting found
  have nonneg := (wellFormed.capped req.requestId).1
  have recounted : WellFormed cfg
      (update made req.requestId (made req.requestId + 1))
      (update board cameraId none) :=
    (wellFormed.clear cameraId).recount elsewhere (by omega)
  have camera : req.target.cameraId = cameraId := wellFormed.camera found
  have filled : WellFormed cfg
      (update made req.requestId (made req.requestId + 1))
      (update (update board cameraId none) cameraId
        (some ⟨req, some lease⟩)) := by
    apply recounted.fill
    · exact camera
    · intro other held atOther isHeld
      exact absurd isHeld (elsewhere atOther)
    · intro isNone
      cases isNone
    · intro held isHeld
      rw [← some.inj isHeld, update_self, isTarget]
      exact ⟨isRequest, camera, attempt, started, lasts⟩
  rw [update_idem] at filled
  exact filled

variable {reqs : Dict UUID ProbeRequest}

theorem Indexes.pop (indexes : Indexes board reqs) (cameraId : UUID) :
    Indexes (update board cameraId none) (reqs.pop cameraId) := by
  intro other
  rw [Dict.get_pop]
  by_cases same : other = cameraId
  · simp [same]
  · rw [if_neg same, update_of_ne same]
    exact indexes other

theorem Indexes.set (indexes : Indexes board reqs) (cameraId : UUID) (entry : Outstanding) :
    Indexes (update board cameraId (some entry))
      (reqs.set cameraId entry.request) := by
  intro other
  rw [Dict.get_set]
  by_cases same : other = cameraId
  · simp [same]
  · rw [if_neg same, update_of_ne same]
    exact indexes other

variable {held : Outstanding}

theorem Indexes.lease (indexes : Indexes board reqs)
    (found : board cameraId = some held) (same : entry.request = held.request) :
    Indexes (update board cameraId (some entry)) reqs := by
  intro other
  by_cases here : other = cameraId
  · rw [here, indexes cameraId, found]
    simp [same]
  · rw [update_of_ne here]
    exact indexes other

variable {pending : ProbePriority → List ProbeRequest} {priority : ProbePriority}
  {req : ProbeRequest}

theorem Queues.waits (queues : Queues board pending) (mem : req ∈ pending priority) :
    req.priority = priority ∧ board req.target.cameraId = some ⟨req, none⟩ :=
  ((queues priority).2 req).mp mem

variable {pre post : List ProbeRequest}

theorem Queues.remove (queues : Queues board pending)
    {entry : Option Outstanding} (shape : pending priority = pre ++ req :: post)
    (notWaiting : ∀ other, entry ≠ some ⟨other, none⟩) :
    Queues (update board req.target.cameraId entry)
      (update pending priority (pre ++ post)) := by
  have mem : req ∈ pending priority := by simp [shape]
  have waits := queues.waits mem
  have nodup := (queues priority).1
  rw [shape, List.nodup_middle, List.nodup_cons] at nodup
  intro other
  by_cases here : other = priority
  · subst here
    rw [update_self]
    refine ⟨nodup.2, ?_⟩
    intro queued
    have inQueue := (queues other).2 queued
    rw [shape, List.mem_append, List.mem_cons] at inQueue
    constructor
    · intro mem
      have differ : queued ≠ req := by
        intro same
        rw [same] at mem
        exact nodup.1 mem
      have facts := inQueue.mp (by
        rcases List.mem_append.mp mem with inBefore | inAfter
        · exact .inl inBefore
        · exact .inr (.inr inAfter))
      have elsewhere : queued.target.cameraId ≠ req.target.cameraId := by
        intro sameCamera
        rw [sameCamera, waits.2] at facts
        simp at facts
        exact differ facts.2.symm
      rw [update_of_ne elsewhere]
      exact facts
    · intro facts
      have elsewhere : queued.target.cameraId ≠ req.target.cameraId := by
        intro sameCamera
        rw [sameCamera, update_self] at facts
        exact notWaiting queued facts.2
      rw [update_of_ne elsewhere] at facts
      rcases inQueue.mpr facts with inBefore | isRequest | inAfter
      · exact List.mem_append_left _ inBefore
      · rw [isRequest] at elsewhere
        exact absurd rfl elsewhere
      · exact List.mem_append_right _ inAfter
  · rw [update_of_ne here]
    refine ⟨(queues other).1, ?_⟩
    intro queued
    rw [(queues other).2 queued]
    by_cases sameCamera : queued.target.cameraId = req.target.cameraId
    · rw [sameCamera, update_self, waits.2]
      constructor
      · intro facts
        have isRequest : req = queued := by simpa using facts.2
        rw [← isRequest, waits.1] at facts
        exact absurd facts.1.symm here
      · intro facts
        exact absurd facts.2 (notWaiting queued)
    · rw [update_of_ne sameCamera]

theorem Queues.append (queues : Queues board pending)
    (notWaiting : ∀ other, board req.target.cameraId ≠ some ⟨other, none⟩) :
    Queues (update board req.target.cameraId (some ⟨req, none⟩))
      (update pending req.priority (pending req.priority ++ [req])) := by
  intro other
  have elsewhere : ∀ {queued}, queued ∈ pending other →
      queued.target.cameraId ≠ req.target.cameraId := by
    intro queued mem sameCamera
    have facts := queues.waits mem
    rw [sameCamera] at facts
    exact notWaiting queued facts.2
  have absent : req ∉ pending other := by
    intro mem
    exact elsewhere mem rfl
  by_cases here : other = req.priority
  · rw [here, update_self]
    rw [here] at absent elsewhere
    constructor
    · rw [List.nodup_append]
      refine ⟨(queues req.priority).1, by simp, ?_⟩
      intro queued mem new isNew
      rw [List.mem_singleton.mp isNew]
      intro same
      rw [same] at mem
      exact absent mem
    · intro queued
      rw [List.mem_append, List.mem_singleton]
      by_cases sameCamera : queued.target.cameraId = req.target.cameraId
      · rw [sameCamera, update_self]
        constructor
        · intro found
          rcases found with mem | isRequest
          · exact absurd sameCamera (elsewhere mem)
          · rw [isRequest]
            exact ⟨rfl, rfl⟩
        · intro facts
          have isRequest : req = queued := by simpa using facts.2
          exact .inr isRequest.symm
      · rw [update_of_ne sameCamera, (queues req.priority).2 queued]
        constructor
        · intro found
          rcases found with facts | isRequest
          · exact facts
          · rw [isRequest] at sameCamera
            exact absurd rfl sameCamera
        · intro facts
          exact .inl facts
  · rw [update_of_ne here]
    refine ⟨(queues other).1, ?_⟩
    intro queued
    by_cases sameCamera : queued.target.cameraId = req.target.cameraId
    · rw [sameCamera, update_self]
      constructor
      · intro mem
        exact absurd sameCamera (elsewhere mem)
      · intro facts
        have isRequest : req = queued := by simpa using facts.2
        rw [← isRequest] at facts
        exact absurd facts.1.symm here
    · rw [update_of_ne sameCamera]
      exact (queues other).2 queued

theorem Queues.unwaiting (queues : Queues board pending) {entry : Option Outstanding}
    (pre : ∀ other, board cameraId ≠ some ⟨other, none⟩)
    (post : ∀ other, entry ≠ some ⟨other, none⟩) :
    Queues (update board cameraId entry) pending := by
  intro priority
  refine ⟨(queues priority).1, ?_⟩
  intro queued
  rw [(queues priority).2 queued]
  by_cases here : queued.target.cameraId = cameraId
  · rw [here, update_self]
    constructor
    · intro facts
      exact absurd facts.2 (pre queued)
    · intro facts
      exact absurd facts.2 (post queued)
  · rw [update_of_ne here]

variable {other : ProbePriority → List ProbeRequest}

theorem Queues.permute (queues : Queues board pending)
    (permuted : ∀ priority, (pending priority).Perm (other priority)) : Queues board other := by
  intro priority
  constructor
  · exact (permuted priority).nodup_iff.mp (queues priority).1
  · intro req
    rw [← (permuted priority).mem_iff]
    exact (queues priority).2 req

theorem Queues.rewrite (queues : Queues board pending) {rewritten : ProbeRequest}
    (shape : pending priority = pre ++ req :: post)
    (sameCamera : rewritten.target.cameraId = req.target.cameraId) (permuted : ∀ queue,
      (update (update pending priority (pre ++ post)) rewritten.priority
        (update pending priority (pre ++ post) rewritten.priority ++
          [rewritten]) queue).Perm (other queue)) :
    Queues (update board req.target.cameraId (some ⟨rewritten, none⟩)) other := by
  have removed : Queues (update board req.target.cameraId none)
      (update pending priority (pre ++ post)) := queues.remove shape (by simp)
  have free : ∀ waiting, update board req.target.cameraId none
      rewritten.target.cameraId ≠ some ⟨waiting, none⟩ := by
    simp [sameCamera]
  have appended := removed.append free
  rw [sameCamera, update_idem] at appended
  exact appended.permute permuted

variable {active : Dict UUID ProbeLease}

theorem Leases.pop (leases : Leases board active) (wellFormed : WellFormed cfg made board)
    {lease : ProbeLease} {entry : Option Outstanding}
    (found : board cameraId = some ⟨req, some lease⟩)
    (unleased : ∀ other held, entry ≠ some ⟨other, some held⟩) :
    Leases (update board cameraId entry) (active.pop req.requestId) := by
  intro requestId held
  rw [Dict.get_pop]
  constructor
  · intro isHeld
    split_ifs at isHeld with same
    rcases (leases requestId held).mp isHeld with ⟨other, owner, atOther, isOwner⟩
    have elsewhere : other ≠ cameraId := by
      intro here
      rw [here, found] at atOther
      simp at atOther
      rw [← atOther.1] at isOwner
      exact same isOwner.symm
    exact ⟨other, owner, by rw [update_of_ne elsewhere]; exact atOther, isOwner⟩
  · intro isHeld
    rcases isHeld with ⟨other, owner, atOther, isOwner⟩
    by_cases here : other = cameraId
    · rw [here, update_self] at atOther
      exact absurd atOther (unleased owner held)
    · rw [update_of_ne here] at atOther
      have differ : requestId ≠ req.requestId := by
        intro same
        exact here (wellFormed.identified atOther found (isOwner.trans same))
      rw [if_neg differ]
      exact (leases requestId held).mpr ⟨other, owner, atOther, isOwner⟩

theorem Leases.unleased (leases : Leases board active)
    {entry : Option Outstanding} (pre : ∀ other held, board cameraId ≠ some ⟨other, some held⟩)
    (post : ∀ other held, entry ≠ some ⟨other, some held⟩) :
    Leases (update board cameraId entry) active := by
  intro requestId held
  rw [leases requestId held]
  constructor
  · intro isHeld
    rcases isHeld with ⟨other, owner, atOther, isOwner⟩
    have elsewhere : other ≠ cameraId := by
      intro here
      rw [here] at atOther
      exact pre owner held atOther
    exact ⟨other, owner, by rw [update_of_ne elsewhere]; exact atOther, isOwner⟩
  · intro isHeld
    rcases isHeld with ⟨other, owner, atOther, isOwner⟩
    by_cases here : other = cameraId
    · rw [here, update_self] at atOther
      exact absurd atOther (post owner held)
    · rw [update_of_ne here] at atOther
      exact ⟨other, owner, atOther, isOwner⟩

theorem Leases.set (leases : Leases board active) (wellFormed : WellFormed cfg made board)
    (found : board cameraId = some ⟨req, none⟩) (lease : ProbeLease) :
    Leases (update board cameraId (some ⟨req, some lease⟩))
      (active.set req.requestId lease) := by
  intro requestId held
  rw [Dict.get_set]
  by_cases same : requestId = req.requestId
  · rw [if_pos same]
    constructor
    · intro isHeld
      rw [some.inj isHeld]
      exact ⟨cameraId, req, by simp, same.symm⟩
    · intro isHeld
      rcases isHeld with ⟨other, owner, atOther, isOwner⟩
      by_cases here : other = cameraId
      · rw [here, update_self] at atOther
        simp at atOther
        rw [atOther.2]
      · rw [update_of_ne here] at atOther
        exact absurd (wellFormed.identified atOther found (isOwner.trans same)) here
  · rw [if_neg same, leases requestId held]
    constructor
    · intro isHeld
      rcases isHeld with ⟨other, owner, atOther, isOwner⟩
      have elsewhere : other ≠ cameraId := by
        intro here
        rw [here, found] at atOther
        simp at atOther
      exact ⟨other, owner, by rw [update_of_ne elsewhere]; exact atOther, isOwner⟩
    · intro isHeld
      rcases isHeld with ⟨other, owner, atOther, isOwner⟩
      by_cases here : other = cameraId
      · rw [here, update_self] at atOther
        simp at atOther
        rw [← atOther.1] at isOwner
        exact absurd isOwner.symm same
      · rw [update_of_ne here] at atOther
        exact ⟨other, owner, atOther, isOwner⟩

theorem on_board_keep (found : board cameraId = some held)
    (sameId : entry.request.requestId = held.request.requestId) (requestId : UUID) :
    (∃ other owner, update board cameraId (some entry) other = some owner ∧
        owner.request.requestId = requestId) ↔
      ∃ other owner, board other = some owner ∧ owner.request.requestId = requestId := by
  constructor
  · intro onBoard
    rcases onBoard with ⟨other, owner, atOther, isOwner⟩
    by_cases here : other = cameraId
    · rw [here, update_self] at atOther
      refine ⟨cameraId, held, found, ?_⟩
      rw [← sameId, some.inj atOther]
      exact isOwner
    · rw [update_of_ne here] at atOther
      exact ⟨other, owner, atOther, isOwner⟩
  · intro onBoard
    rcases onBoard with ⟨other, owner, atOther, isOwner⟩
    by_cases here : other = cameraId
    · rw [here, found] at atOther
      refine ⟨cameraId, entry, by simp, ?_⟩
      rw [sameId, some.inj atOther]
      exact isOwner
    · exact ⟨other, owner, by rw [update_of_ne here]; exact atOther, isOwner⟩

variable {attempts : Dict UUID Int}

theorem Counts.keep (counts : Counts made board attempts) (found : board cameraId = some held)
    (sameId : entry.request.requestId = held.request.requestId) :
    Counts made (update board cameraId (some entry)) attempts := by
  intro requestId count
  rw [counts requestId count, on_board_keep found sameId]

theorem Counts.pop {attempts : Dict UUID Int} (counts : Counts made board attempts)
    (wellFormed : WellFormed cfg made board) {held : Outstanding}
    (found : board cameraId = some held) :
    Counts made (update board cameraId none) (attempts.pop held.request.requestId) := by
  intro requestId count
  rw [Dict.get_pop]
  constructor
  · intro isCount
    split_ifs at isCount with same
    rcases (counts requestId count).mp isCount with ⟨isMade, other, owner, atOther, isOwner⟩
    have elsewhere : other ≠ cameraId := by
      intro here
      rw [here, found] at atOther
      rw [← some.inj atOther] at isOwner
      exact same isOwner.symm
    exact ⟨isMade, other, owner, by rw [update_of_ne elsewhere]; exact atOther, isOwner⟩
  · intro isCount
    rcases isCount with ⟨isMade, other, owner, atOther, isOwner⟩
    by_cases here : other = cameraId
    · rw [here, update_self] at atOther
      cases atOther
    · rw [update_of_ne here] at atOther
      have differ : requestId ≠ held.request.requestId := by
        intro same
        exact here (wellFormed.identified atOther found (isOwner.trans same))
      rw [if_neg differ]
      exact (counts requestId count).mpr ⟨isMade, other, owner, atOther, isOwner⟩

theorem Counts.start (counts : Counts made board attempts) (empty : board cameraId = none)
    (unused : made entry.request.requestId = 0) :
    Counts made (update board cameraId (some entry))
      (attempts.set entry.request.requestId 0) := by
  intro requestId count
  rw [Dict.get_set]
  by_cases same : requestId = entry.request.requestId
  · rw [if_pos same, same]
    constructor
    · intro isCount
      rw [← some.inj isCount, unused]
      exact ⟨rfl, cameraId, entry, by simp, rfl⟩
    · intro isCount
      rw [isCount.1, unused]
  · rw [if_neg same, counts requestId count]
    constructor
    · intro isCount
      rcases isCount with ⟨isMade, other, owner, atOther, isOwner⟩
      have elsewhere : other ≠ cameraId := by
        intro here
        rw [here, empty] at atOther
        cases atOther
      exact ⟨isMade, other, owner, by rw [update_of_ne elsewhere]; exact atOther, isOwner⟩
    · intro isCount
      rcases isCount with ⟨isMade, other, owner, atOther, isOwner⟩
      by_cases here : other = cameraId
      · rw [here, update_self] at atOther
        rw [← some.inj atOther] at isOwner
        exact absurd isOwner.symm same
      · rw [update_of_ne here] at atOther
        exact ⟨isMade, other, owner, atOther, isOwner⟩

theorem Counts.advance (counts : Counts made board attempts) (found : board cameraId = some held) :
    Counts (update made held.request.requestId (made held.request.requestId + 1)) board
      (attempts.set held.request.requestId (made held.request.requestId + 1)) := by
  intro requestId count
  rw [Dict.get_set]
  by_cases same : requestId = held.request.requestId
  · rw [if_pos same, same, update_self]
    constructor
    · intro isCount
      exact ⟨(some.inj isCount).symm, cameraId, held, found, rfl⟩
    · intro isCount
      rw [isCount.1]
  · rw [if_neg same, update_of_ne same]
    exact counts requestId count

end Board

end RtspProxy.Probes
