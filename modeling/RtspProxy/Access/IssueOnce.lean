import RtspProxy.Access.GrantRuns

/-!
# One secret for each issue request

A request row outlives the call that wrote it and refuses the same session and
key from then on. The purge of a grant deletes the rows that refer to it, and
with them the memory that the request was made. While no purge does so, each
session and key issues at most one grant.
-/

namespace RtspProxy.Access

open Nodes Lib Lib.Raising List Lib.RecordTable

namespace GrantDatabase

variable {db : GrantDatabase}

/-- The call deletes no request row: no row refers to a grant that a purge removes. -/
def KeepsRequests (db : GrantDatabase) : GrantCall → Prop
  | .purge cameraId inactiveBefore =>
    ∀ grant ∈ db.grants, purgeable cameraId inactiveBefore grant = true → ∀ req ∈ db.issueRequests,
        req.sourceGrantId ≠ some grant.id ∧ req.replacementGrantId ≠ grant.id
  | .check _ | .create .. | .revoke .. | .rotate .. | .rehash .. | .markUsed .. | .others .. => True

variable {req existing : AccessGrantIdempotency}

theorem classify_recorded (recorded : db.requestOf req.pair = some existing) :
    ∃ err, db.classifyAccessGrantRequest req = .error err := by
  unfold classifyAccessGrantRequest
  rw [recorded]
  by_cases differ : existing.identity ≠ req.identity
  · exact ⟨.idempotencyConflict, bind_of_error
      (raise_if_error.mpr ⟨differ, rfl⟩)⟩
  · refine ⟨.issueReplayed, ?_⟩
    dsimp only
    rw [check_passes differ]
    rfl

theorem claim_recorded (recorded : db.requestOf req.pair = some existing) :
    ∃ err, db.claimRequest (some req) = .error err := by
  rcases classify_recorded recorded with ⟨err, refused⟩
  by_cases unknown : db.schemaKnown = false
  · exact ⟨.schemaUnavailable, bind_of_error
      (raise_if_error.mpr ⟨unknown, rfl⟩)⟩
  · refine ⟨err, ?_⟩
    simp only [claimRequest]
    rw [check_passes unknown]
    unfold claimAccessGrantRequest
    rw [recorded]
    exact bind_of_error refused

theorem claim_request_ok {req : AccessGrantIdempotency} {claimed : GrantDatabase}
    (ran : db.claimRequest (some req) = .ok claimed) :
    db.requestOf req.pair = none ∧ claimed.issueRequests = db.issueRequests ++ [req] := by
  cases recorded : db.requestOf req.pair with
  | some existing =>
    rcases claim_recorded recorded with ⟨err, refused⟩
    rw [refused] at ran
    cases ran
  | none =>
    refine ⟨rfl, ?_⟩
    simp only [claimRequest, bind_ok] at ran
    rcases ran with ⟨_, _, ran⟩
    unfold claimAccessGrantRequest at ran
    rw [recorded] at ran
    rcases bind_ok.mp ran with ⟨_, _, inserted⟩
    rw [← pure_ok.mp inserted]

/-- What a call does to the request rows while no purge deletes one. -/
inductive RequestChange (issues : List ((UUID × UUID) × UUID)) (succeeded : Bool)
    (before after : GrantDatabase) : Prop
  | kept (same : after.issueRequests = before.issueRequests)
      (issuesNone : succeeded = true → issues = [])
  | recorded (req : AccessGrantIdempotency) (grantId : UUID)
      (isIssue : issues = [(req.pair, grantId)])
      (unrecorded : before.requestOf req.pair = none)
      (added : after.issueRequests = before.issueRequests ++ [req])

theorem request_change_claim {idem : Option AccessGrantIdempotency} {grantId : UUID}
    {issues : List ((UUID × UUID) × UUID)} {succeeded : Bool} {claimed after : GrantDatabase}
    (isIssue : issues = idem.toList.map fun req => (req.pair, grantId))
    (ran : db.claimRequest idem = .ok claimed)
    (rest : after.issueRequests = claimed.issueRequests) :
    RequestChange issues succeeded db after := by
  cases idem with
  | none =>
    have same : db = claimed := pure_ok.mp ran
    apply RequestChange.kept
    · rw [rest, same]
    · intro _
      exact isIssue
  | some req =>
    rcases claim_request_ok ran with ⟨unrecorded, added⟩
    exact .recorded req grantId isIssue unrecorded (rest.trans added)

theorem purge_keeps_requests {cameraId : UUID} {inactiveBefore : Datetime}
    (keeps : db.KeepsRequests (.purge cameraId inactiveBefore)) :
    (db.purgeInactiveAccessGrants cameraId inactiveBefore).2.issueRequests = db.issueRequests := by
  unfold purgeInactiveAccessGrants
  dsimp only
  split_ifs
  · rfl
  · apply filter_eq_self.mpr
    intro req mem
    have unreferenced : ∀ grantId ∈ ((db.grants.filter (purgeable cameraId inactiveBefore)).map
        AccessGrant.id).insertionSort (fun left right => left.toNat ≤ right.toNat),
        req.sourceGrantId ≠ some grantId ∧ req.replacementGrantId ≠ grantId := by
      intro grantId isPurged
      rw [mem_insertionSort] at isPurged
      rcases mem_map.mp isPurged with ⟨grant, isGrant, sameId⟩
      rcases mem_filter.mp isGrant with ⟨inTable, isPurgeable⟩
      rw [← sameId]
      exact keeps grant inTable isPurgeable req mem
    simp only [Bool.not_eq_true', Bool.or_eq_false_iff, decide_eq_false_iff_not]
    constructor
    · cases source : req.sourceGrantId with
      | none => rfl
      | some grantId =>
        simp only [Option.any_some, decide_eq_false_iff_not]
        intro isPurged
        exact (unreferenced grantId isPurged).1 source
    · intro isPurged
      exact (unreferenced _ isPurged).2 rfl

theorem step_requests {call : GrantCall} (keeps : db.KeepsRequests call) :
    RequestChange call.issues (db.succeeds call) db (db.after call) := by
  unfold after succeeds
  cases ran : db.perform call with
  | error err =>
    apply RequestChange.kept rfl
    intro succeeded
    cases succeeded
  | ok res =>
    rcases res with ⟨succeeded, next⟩
    cases call with
    | check req =>
      rcases bind_ok.mp ran with ⟨_, _, same⟩
      rw [← (Prod.mk.inj (pure_ok.mp same)).2]
      exact .kept rfl fun _ => rfl
    | create grant idem =>
      rcases bind_ok.mp ran with ⟨created, creation, same⟩
      rcases create_access_grant_ok creation with ⟨claimed, claim, _, isCreated⟩
      have isNext : created.2 = next := (Prod.mk.inj (pure_ok.mp same)).2
      rw [← isNext, isCreated]
      have isIssue : (GrantCall.create grant idem).issues =
          idem.toList.map fun req => (req.pair, grant.id) := by
        cases idem <;> rfl
      exact request_change_claim isIssue claim rfl
    | revoke revokedId revokedAt want =>
      rcases bind_ok.mp ran with ⟨revoked, revocation, same⟩
      have isNext : revoked.2 = next := (Prod.mk.inj (pure_ok.mp same)).2
      rcases revoke_access_grant_ok revocation with ⟨_, _, _, kept | ⟨_, _, _, isResult⟩⟩
      · rw [← isNext, kept.2]
        exact .kept rfl fun _ => rfl
      · rw [← isNext, isResult]
        exact .kept rfl fun _ => rfl
    | purge cameraId inactiveBefore =>
      rw [← (Prod.mk.inj (pure_ok.mp ran)).2]
      exact .kept (purge_keeps_requests keeps) fun _ => rfl
    | rotate rotatedId replacement oldExpiresAt want idem =>
      rcases bind_ok.mp ran with ⟨rotated, rotation, same⟩
      have isNext : rotated.2 = next := (Prod.mk.inj (pure_ok.mp same)).2
      rcases rotate_access_grant_ok rotation with
        ⟨claimed, _, prev, claim, _, _, _, _, _, _, isResult⟩
      rw [← isNext, isResult]
      have isIssue : (GrantCall.rotate rotatedId replacement oldExpiresAt want
          idem).issues =
          idem.toList.map fun req => (req.pair, replacement.id) := by
        cases idem <;> rfl
      exact request_change_claim isIssue claim rfl
    | rehash rehashedId tokenVerifier pepperKeyId want =>
      rcases rehash_access_grant_ok ran with kept | ⟨_, _, _, _, _, _, _, isResult⟩
      · rw [(Prod.mk.inj kept).2]
        exact .kept rfl fun _ => rfl
      · rw [(Prod.mk.inj isResult).2]
        exact .kept rfl fun _ => rfl
    | markUsed usedId usedAt =>
      have isNext := congrArg Prod.snd (pure_ok.mp ran)
      dsimp only at isNext
      rw [← isNext]
      rcases @mark_access_grant_used_cases db usedId usedAt with kept | ⟨_, _, isUsed⟩
      · rw [kept]
        exact .kept rfl fun _ => rfl
      · rw [isUsed]
        exact .kept rfl fun _ => rfl
    | others cams operatorAccounts =>
      rw [← (Prod.mk.inj (pure_ok.mp ran)).2]
      exact .kept rfl fun _ => rfl

end GrantDatabase

namespace GrantSystem

/-- Every issued grant has its request row, and no session and key issued two. -/
structure IssuedOnce (sys : GrantSystem) : Prop where
  recorded : ∀ issue ∈ sys.issued, sys.database.requestOf issue.1 ≠ none
  once : (sys.issued.map Prod.fst).Nodup

theorem IssuedOnce.step_call {sys : GrantSystem} (issuedOnce : IssuedOnce sys)
    {call : GrantCall} (keeps : sys.database.KeepsRequests call) :
    IssuedOnce (sys.step call) := by
  have change := GrantDatabase.step_requests keeps
  cases change with
  | kept same issuesNone =>
    have issued : (sys.step call).issued = sys.issued := by
      simp only [step]
      split_ifs with succeeded
      · rw [issuesNone succeeded]
        rfl
      · rfl
    constructor
    · intro issue mem
      rw [issued] at mem
      have recorded := issuedOnce.recorded issue mem
      unfold GrantDatabase.requestOf at recorded ⊢
      rw [show (sys.step call).database.issueRequests = _ from same]
      exact recorded
    · rw [issued]
      exact issuedOnce.once
  | recorded req grantId isIssue unrecorded added =>
    have reqs : (sys.step call).database.issueRequests =
        sys.database.issueRequests ++ [req] := added
    have unknown : ∀ issue ∈ sys.issued, issue.1 ≠ req.pair := by
      intro issue mem same
      apply issuedOnce.recorded issue mem
      rw [same]
      exact unrecorded
    have stillRecorded : ∀ issue ∈ sys.issued,
        (sys.step call).database.requestOf issue.1 ≠ none := by
      intro issue mem
      have recorded := issuedOnce.recorded issue mem
      unfold GrantDatabase.requestOf at recorded ⊢
      rw [reqs, lookup_append_ne (Ne.symm (unknown issue mem))]
      exact recorded
    have newRecorded : (sys.step call).database.requestOf req.pair ≠ none := by
      unfold GrantDatabase.requestOf
      rw [reqs, lookup_append_new rfl (lookup_eq_none.mp unrecorded)]
      simp
    by_cases succeeded : sys.database.succeeds call = true
    · have issued : (sys.step call).issued = (req.pair, grantId) :: sys.issued := by
        simp only [step, if_pos succeeded, isIssue]
        rfl
      constructor
      · intro issue mem
        rw [issued] at mem
        rcases mem_cons.mp mem with isNew | isOld
        · rw [isNew]
          exact newRecorded
        · exact stillRecorded issue isOld
      · rw [issued, map_cons, nodup_cons]
        refine ⟨?_, issuedOnce.once⟩
        intro mem
        rcases mem_map.mp mem with ⟨issue, isIssued, same⟩
        exact unknown issue isIssued same
    · have issued : (sys.step call).issued = sys.issued := by
        simp only [step, if_neg succeeded]
        rfl
      constructor
      · intro issue mem
        rw [issued] at mem
        exact stillRecorded issue mem
      · rw [issued]
        exact issuedOnce.once

/-- In every run in which no purge removes a grant that a request row refers to, a session and key
issue at most one grant, and once they did every request with them is refused. -/
theorem issue_at_most_once {start sys : GrantSystem} (init : Initial start)
    (ran : Runs (fun pre call => pre.database.KeepsRequests call) start sys) :
    (sys.issued.map Prod.fst).Nodup ∧
    ∀ issue ∈ sys.issued, ∀ req : AccessGrantIdempotency, req.pair = issue.1 →
      (∀ grant, sys.database.succeeds (.create grant (some req)) = false) ∧
      ∀ grantId replacement oldExpiresAt expRev, sys.database.succeeds
        (.rotate grantId replacement oldExpiresAt expRev (some req)) = false := by
  have issuedOnce : IssuedOnce sys := by
    induction ran with
    | stay =>
      constructor
      · intro issue mem
        rw [init.2.2] at mem
        cases mem
      · rw [init.2.2]
        exact nodup_nil
    | call op _ keeps ih => exact ih.step_call keeps
  refine ⟨issuedOnce.once, ?_⟩
  intro issue isIssued req same
  rcases Option.ne_none_iff_exists'.mp (issuedOnce.recorded issue isIssued) with ⟨row, recorded⟩
  rw [← same] at recorded
  rcases GrantDatabase.claim_recorded recorded with ⟨err, refused⟩
  constructor
  · intro grant
    have raises : sys.database.perform (.create grant (some req)) = .error err :=
      bind_of_error (bind_of_error refused)
    unfold GrantDatabase.succeeds
    rw [raises]
  · intro grantId replacement oldExpiresAt expRev
    have raises : sys.database.perform
        (.rotate grantId replacement oldExpiresAt expRev (some req)) = .error err :=
      bind_of_error (bind_of_error refused)
    unfold GrantDatabase.succeeds
    rw [raises]

/-- A grant is issued and revoked, and a purge removes nothing as it comes too early. -/
def sampleIssued : GrantSystem :=
  ((sampleStart.step (.create firstGrant (some (sampleIssue firstGrant.id)))).step
    (.revoke firstGrant.id (timedeltaSeconds 10) 1)).step
    (.purge firstGrant.cameraId (timedeltaSeconds 9))

theorem issue_at_most_once_sample :
    sampleIssued.issued = [((sampleIssue secondGrant.id).pair, firstGrant.id)] ∧
      sampleIssued.database.succeeds (.create secondGrant (some (sampleIssue secondGrant.id))) =
        false := by
  have ran : Runs (fun pre call => pre.database.KeepsRequests call) sampleStart
      sampleIssued := by
    refine .call _ (.call _ (.call _ (.stay _) trivial) trivial) ?_
    intro grant inTable isPurgeable
    have none : ((sampleStart.step (.create firstGrant (some (sampleIssue firstGrant.id)))).step
        (.revoke firstGrant.id (timedeltaSeconds 10) 1)).database.grants.all (fun grant =>
          !GrantDatabase.purgeable firstGrant.cameraId (timedeltaSeconds 9) grant) = true := by
      decide +kernel
    have notPurgeable := all_eq_true.mp none grant inTable
    rw [isPurgeable] at notPurgeable
    cases notPurgeable
  have issued : sampleIssued.issued = [((sampleIssue secondGrant.id).pair, firstGrant.id)] := by
    decide +kernel
  refine ⟨issued, ?_⟩
  apply ((issue_at_most_once ⟨rfl, rfl, rfl⟩ ran).2 _ _ _ _).1 secondGrant
  · exact ((sampleIssue secondGrant.id).pair, firstGrant.id)
  · rw [issued]
    exact mem_cons_self
  · rfl

/-- The purge comes after the revocation and the same request is made again. -/
def sampleReissued : GrantSystem :=
  ((((sampleStart.step (.create firstGrant (some (sampleIssue firstGrant.id)))).step
    (.revoke firstGrant.id (timedeltaSeconds 10) 1)).step
    (.purge firstGrant.cameraId (timedeltaSeconds 10))).step
    (.check (sampleIssue secondGrant.id))).step
    (.create secondGrant (some (sampleIssue secondGrant.id)))

theorem replay_issues_after_purge :
    Reachable sampleReissued ∧ firstGrant.id ≠ secondGrant.id ∧
      sampleReissued.issued = [((sampleIssue secondGrant.id).pair, secondGrant.id),
          ((sampleIssue firstGrant.id).pair, firstGrant.id)] ∧
      (sampleIssue secondGrant.id).pair = (sampleIssue firstGrant.id).pair ∧
      (sampleIssue secondGrant.id).identity = (sampleIssue firstGrant.id).identity := by
  refine ⟨⟨sampleStart, ⟨rfl, rfl, rfl⟩, ?_⟩, by decide, by decide +kernel, rfl, rfl⟩
  refine .call _ (.call _ (.call _ (.call _ (.call _ (.stay _) ?_) ?_) ?_) ?_) ?_
  · intro grantId _
    exact not_mem_nil
  · intro grantId isInserted
    cases isInserted
  · intro grantId isInserted
    cases isInserted
  · intro grantId isInserted
    cases isInserted
  · intro grantId isInserted
    rw [mem_singleton.mp isInserted]
    decide +kernel

end GrantSystem

end RtspProxy.Access
