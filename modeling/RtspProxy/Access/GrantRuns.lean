import Mathlib
import RtspProxy.Access.Grants

/-!
# Runs of the grant store

Transactions follow one another in any order and with any arguments. What one
transaction does to one grant is said once, in `step_grant`: the grant stays,
evolves towards its end, is purged, or is new. Revocation, expiry and the
revision fences are read off from that along a whole run.
-/

namespace RtspProxy.Access

open Nodes Lib Lib.Raising Lib.RecordTable

variable {grant upd : AccessGrant}

namespace AccessGrant

/-- The grant is over at that moment: revoked, expired or rotated away. -/
def endsBy (grant : AccessGrant) (moment : Datetime) : Bool :=
  (∃ expiry ∈ grant.expiresAt, expiry ≤ moment) ∨ ∃ revoked ∈ grant.revokedAt, revoked ≤ moment

/-- The moment from which on the grant can not be used; `⊤` for a permanent grant. -/
def effectiveExpiry (grant : AccessGrant) : WithTop Datetime :=
  min (grant.expiresAt.elim ⊤ (↑)) (grant.revokedAt.elim ⊤ (↑))

structure Evolves (before after : AccessGrant) : Prop where
  id : after.id = before.id
  expiry : ∀ old ∈ before.expiresAt, ∃ new ∈ after.expiresAt, new ≤ old
  revocation : ∀ revoked ∈ before.revokedAt, after.revokedAt = some revoked
  revision : before.revision ≤ after.revision

theorem Evolves.refl (grant : AccessGrant) : Evolves grant grant :=
  ⟨rfl, fun old isOld => ⟨old, isOld, le_rfl⟩, fun _ isRevoked => isRevoked, le_rfl⟩

theorem Evolves.trans {first second third : AccessGrant} (left : Evolves first second)
    (right : Evolves second third) : Evolves first third := by
  refine ⟨right.id.trans left.id, ?_, ?_, left.revision.trans right.revision⟩
  · intro old isOld
    rcases left.expiry old isOld with ⟨middle, isMiddle, earlier⟩
    rcases right.expiry middle isMiddle with ⟨new, isNew, evenEarlier⟩
    exact ⟨new, isNew, evenEarlier.trans earlier⟩
  · intro revoked isRevoked
    exact right.revocation revoked (left.revocation revoked isRevoked)

theorem Evolves.ends {pre after : AccessGrant} (evolves : Evolves pre after)
    {moment later : Datetime} (ended : pre.endsBy moment = true) (ordered : moment ≤ later) :
    after.endsBy later = true := by
  simp only [endsBy, decide_eq_true_eq] at ended ⊢
  rcases ended with ⟨old, isOld, past⟩ | ⟨revoked, isRevoked, past⟩
  · rcases evolves.expiry old isOld with ⟨new, isNew, earlier⟩
    exact .inl ⟨new, isNew, (earlier.trans past).trans ordered⟩
  · exact .inr ⟨revoked, evolves.revocation revoked isRevoked, past.trans ordered⟩

theorem inactive_of_ended {moment : Datetime} (ended : grant.endsBy moment = true) :
    grant.activeAt moment = false := by
  simp only [endsBy, decide_eq_true_eq] at ended
  simp only [activeAt, decide_eq_false_iff_not]
  intro active
  rcases ended with ⟨expiry, isExpiry, past⟩ | ⟨revoked, isRevoked, past⟩
  · exact absurd (active.2.1 expiry isExpiry) (not_lt.mpr past)
  · exact absurd (active.2.2 revoked isRevoked) (not_lt.mpr past)

theorem Evolves.effective {pre after : AccessGrant} (evolves : Evolves pre after) :
    after.effectiveExpiry ≤ pre.effectiveExpiry := by
  unfold effectiveExpiry
  apply min_le_min
  · cases old : pre.expiresAt with
    | none => exact le_top
    | some expiry =>
      rcases evolves.expiry expiry old with ⟨new, isNew, earlier⟩
      rw [show after.expiresAt = some new from isNew]
      exact WithTop.coe_le_coe.mpr earlier
  · cases old : pre.revokedAt with
    | none => exact le_top
    | some revoked =>
      rw [evolves.revocation revoked old]

theorem with_revocation_ok {revokedAt : Datetime} {revision : Int}
    (replaced : grant.withRevocation revokedAt revision = .ok upd) :
    upd.id = grant.id ∧ upd.expiresAt = grant.expiresAt ∧
      upd.revokedAt = some revokedAt ∧ upd.revision = revision := by
  unfold withRevocation at replaced
  split_ifs at replaced
  cases replaced
  simp

theorem with_expiry_ok {expiresAt : Datetime} {revision : Int}
    (replaced : grant.withExpiry expiresAt revision = .ok upd) :
    upd.id = grant.id ∧ upd.expiresAt = some expiresAt ∧
      upd.revokedAt = grant.revokedAt ∧ upd.revision = revision := by
  unfold withExpiry at replaced
  split_ifs at replaced
  cases replaced
  simp

end AccessGrant

/-- A call on the store. `others` stands for the transactions of other tables that grants refer
to. -/
inductive GrantCall
  | check (req : AccessGrantIdempotency)
  | create (grant : AccessGrant) (idem : Option AccessGrantIdempotency)
  | revoke (grantId : UUID) (revokedAt : Datetime) (expectedRevision : Int)
  | purge (cameraId : UUID) (inactiveBefore : Datetime)
  | rotate (grantId : UUID) (replacement : AccessGrant) (oldExpiresAt : Datetime)
      (expectedRevision : Int) (idem : Option AccessGrantIdempotency)
  | rehash (grantId : UUID) (tokenVerifier pepperKeyId : String) (expectedRevision : Int)
  | markUsed (grantId : UUID) (usedAt : Datetime)
  | others (cameras : Dict UUID CameraState) (operatorAccounts : List UUID)

namespace GrantDatabase

/-- The tables after a call that returned, and whether it reports success. -/
def perform (db : GrantDatabase) : GrantCall → Except GrantError (Bool × GrantDatabase)
  | .check req => do
      db.checkAccessGrantRequest req
      return (true, db)
  | .create grant idem => do
      let (_, after) ← db.createAccessGrant grant idem
      return (true, after)
  | .revoke grantId revokedAt expRev => do
      let (_, after) ← db.revokeAccessGrant grantId revokedAt expRev
      return (true, after)
  | .purge cameraId inactiveBefore =>
    return (true, (db.purgeInactiveAccessGrants cameraId inactiveBefore).2)
  | .rotate grantId replacement oldExpiresAt expRev idem => do
      let (_, after) ← db.rotateAccessGrant grantId replacement oldExpiresAt expRev idem
      return (true, after)
  | .rehash grantId tokenVerifier pepperKeyId expRev =>
    db.rehashAccessGrant grantId tokenVerifier pepperKeyId expRev
  | .markUsed grantId usedAt => return db.markAccessGrantUsed grantId usedAt
  | .others cameras operatorAccounts =>
    return (true, { db with cameras, operatorAccounts })

def after (db : GrantDatabase) (call : GrantCall) : GrantDatabase :=
  match db.perform call with
  | .ok (_, after) => after
  | .error _ => db

def succeeds (db : GrantDatabase) (call : GrantCall) : Bool :=
  match db.perform call with
  | .ok (succeeded, _) => succeeded
  | .error _ => false

end GrantDatabase

def GrantCall.inserts : GrantCall → List UUID
  | .create grant _ => [grant.id]
  | .rotate _ replacement _ _ _ => [replacement.id]
  | .check _ | .revoke .. | .purge .. | .rehash .. | .markUsed .. | .others .. => []

/-- The grant and the revision a mutating call is fenced on. -/
def GrantCall.fence : GrantCall → Option (UUID × Int)
  | .revoke grantId _ expRev => some (grantId, expRev)
  | .rotate grantId _ _ expRev _ => some (grantId, expRev)
  | .rehash grantId _ _ expRev => some (grantId, expRev)
  | .check _ | .create .. | .purge .. | .markUsed .. | .others .. => none

variable {grantId : UUID}

namespace GrantDatabase

variable {db : GrantDatabase}

theorem lookup_update_self (found : db.lookup upd.id = some grant) :
    (db.updateGrant upd).lookup upd.id = some upd := by
  have mem := lookup_mem found
  exact lookup_replace_self mem (lookup_key found)

theorem lookup_update_ne (other : grantId ≠ upd.id) :
    (db.updateGrant upd).lookup grantId = db.lookup grantId :=
  lookup_replace_ne other

inductive GrantChange (inserted : List UUID) (grantId : UUID) :
    Option AccessGrant → Option AccessGrant → Prop
  | kept (grant : Option AccessGrant) : GrantChange inserted grantId grant grant
  | evolved {before after : AccessGrant} (evolves : before.Evolves after) :
      GrantChange inserted grantId (some before) (some after)
  | purged (grant : AccessGrant) : GrantChange inserted grantId (some grant) none
  | created (grant : AccessGrant) (isInserted : grantId ∈ inserted) :
      GrantChange inserted grantId none (some grant)

theorem change_update {pre : AccessGrant} {inserted : List UUID} (grantId : UUID)
    (found : db.lookup upd.id = some pre) (evolves : pre.Evolves upd) :
    GrantChange inserted grantId (db.lookup grantId)
      ((db.updateGrant upd).lookup grantId) := by
  by_cases same : grantId = upd.id
  · rw [same, found, lookup_update_self found]
    exact .evolved evolves
  · rw [lookup_update_ne same]
    exact .kept _

variable {idem : Option AccessGrantIdempotency}

theorem claim_request_grants {claimed : GrantDatabase}
    (ran : db.claimRequest idem = .ok claimed) : claimed.grants = db.grants := by
  cases idem with
  | none =>
    rw [← pure_ok.mp ran]
  | some req =>
    simp only [claimRequest, bind_ok] at ran
    rcases ran with ⟨_, _, ran⟩
    unfold claimAccessGrantRequest at ran
    cases row : db.requestOf req.pair with
    | some existing =>
      rw [row] at ran
      rcases bind_ok.mp ran with ⟨_, _, same⟩
      rw [← pure_ok.mp same]
    | none =>
      rw [row] at ran
      rcases bind_ok.mp ran with ⟨_, _, inserted⟩
      rw [← pure_ok.mp inserted]

theorem insert_access_grant_ok {inserted : GrantDatabase}
    (ran : db.insertAccessGrant grant = .ok inserted) :
    inserted = db.addGrant grant ∧ db.lookup grant.id = none := by
  simp only [insertAccessGrant, bind_ok, raise_if_ok] at ran
  rcases ran with ⟨_, unique, same⟩
  refine ⟨(pure_ok.mp same).symm, ?_⟩
  apply lookup_eq_none.mpr
  intro other mem sameId
  apply unique
  left
  rw [List.any_eq_true]
  exact ⟨other, mem, by simp [sameId]⟩

theorem commit_ok {committed : GrantDatabase} (ran : db.commit = .ok committed) :
    committed = db := by
  simp only [commit, bind_ok] at ran
  rcases ran with ⟨_, _, same⟩
  exact (pure_ok.mp same).symm

theorem change_insert {inserted : List UUID} (isInserted : grant.id ∈ inserted) (grantId : UUID)
    (absent : db.lookup grant.id = none) :
    GrantChange inserted grantId (db.lookup grantId)
      ((db.addGrant grant).lookup grantId) := by
  by_cases same : grant.id = grantId
  · have now : (db.addGrant grant).lookup grantId = some grant :=
      lookup_append_new same (lookup_eq_none.mp (same ▸ absent))
    rw [now, ← same, absent]
    exact .created grant (same ▸ isInserted)
  · have unchanged : (db.addGrant grant).lookup grantId = db.lookup grantId :=
      lookup_append_ne same
    rw [unchanged]
    exact .kept _

theorem change_purge (grantIds inserted : List UUID) (grantId : UUID) {purged : GrantDatabase}
    (remaining : purged.grants = db.grants.filter fun grant => decide (grant.id ∉ grantIds)) :
    GrantChange inserted grantId (db.lookup grantId) (purged.lookup grantId) := by
  by_cases gone : grantId ∈ grantIds
  · have absent : purged.lookup grantId = none := by
      apply lookup_eq_none.mpr
      intro grant mem
      rw [remaining] at mem
      have kept : grant.id ∉ grantIds := by simpa using (List.mem_filter.mp mem).2
      intro same
      rw [same] at kept
      exact kept gone
    rw [absent]
    cases db.lookup grantId with
    | none => exact .kept none
    | some grant => exact .purged grant
  · have unchanged : purged.lookup grantId = db.lookup grantId := by
      unfold lookup RecordTable.lookup
      rw [remaining, List.find?_filter]
      congr 1
      funext grant
      by_cases same : grant.id = grantId
      · simp [same, gone]
      · simp [same]
    rw [unchanged]
    exact .kept _

variable {want : Int}

variable {res : AccessGrant × GrantDatabase}

theorem revoke_access_grant_ok {revokedAt : Datetime}
    (ran : db.revokeAccessGrant grantId revokedAt want = .ok res) :
    ∃ cur, db.lookup grantId = some cur ∧ cur.revision = want ∧
      (cur.revokedAt ≠ none ∧ res = (cur, db) ∨
        cur.revokedAt = none ∧ ∃ upd, cur.withRevocation revokedAt (want + 1) = .ok upd ∧
          res = (upd, db.updateGrant upd)) := by
  simp only [revokeAccessGrant, bind_ok, or_raise_ok, raise_if_ok, not_not] at ran
  rcases ran with ⟨cur, found, _, revision, ran⟩
  refine ⟨cur, found, revision, ?_⟩
  by_cases already : cur.revokedAt ≠ none
  · rw [if_pos already] at ran
    exact .inl ⟨already, (pure_ok.mp ran).symm⟩
  · rw [if_neg already] at ran
    rcases bind_ok.mp ran with ⟨upd, replaced, same⟩
    exact .inr ⟨not_not.mp already, upd, replaced, (pure_ok.mp same).symm⟩

theorem rotate_access_grant_ok {replacement : AccessGrant} {oldExpiresAt : Datetime}
    {res : (AccessGrant × AccessGrant) × GrantDatabase}
    (ran : db.rotateAccessGrant grantId replacement oldExpiresAt want idem = .ok res) :
    ∃ claimed cur prev, db.claimRequest idem = .ok claimed ∧
      claimed.lookup grantId = some cur ∧ cur.revision = want ∧
      cur.revokedAt = none ∧ (∀ expiry ∈ cur.expiresAt, oldExpiresAt ≤ expiry) ∧
      cur.withExpiry oldExpiresAt (want + 1) = .ok prev ∧
      (claimed.updateGrant prev).lookup replacement.id = none ∧
      res.2 = (claimed.updateGrant prev).addGrant replacement := by
  simp only [rotateAccessGrant, bind_ok, or_raise_ok, raise_if_ok] at ran
  rcases ran with ⟨claimed, claim, cur, found, _, fence, _, valid, prev, replaced, inserted,
    insertion, committed, commits, same⟩
  rcases insert_access_grant_ok insertion with ⟨isInserted, absent⟩
  push Not at fence valid
  refine ⟨claimed, cur, prev, claim, found, fence.1, fence.2, ?_, replaced, absent, ?_⟩
  · intro expiry isExpiry
    exact valid.2 expiry isExpiry
  · rw [← pure_ok.mp same, commit_ok commits, isInserted]

theorem create_access_grant_ok (ran : db.createAccessGrant grant idem = .ok res) :
    ∃ claimed, db.claimRequest idem = .ok claimed ∧
      claimed.lookup grant.id = none ∧ res.2 = claimed.addGrant grant := by
  simp only [createAccessGrant, bind_ok] at ran
  rcases ran with ⟨claimed, claim, _, _, _, _, inserted, insertion, committed, commits, same⟩
  rcases insert_access_grant_ok insertion with ⟨isInserted, absent⟩
  refine ⟨claimed, claim, absent, ?_⟩
  rw [← pure_ok.mp same, commit_ok commits, isInserted]

theorem rehash_access_grant_ok {tokenVerifier pepperKeyId : String} {res : Bool × GrantDatabase}
    (ran : db.rehashAccessGrant grantId tokenVerifier pepperKeyId want = .ok res) :
    res = (false, db) ∨ ∃ row upd, db.lookup grantId = some row ∧
      row.revision = want ∧ row.revokedAt = none ∧ row.Evolves upd ∧
      upd.revision = want + 1 ∧ res = (true, db.updateGrant upd) := by
  unfold rehashAccessGrant at ran
  split_ifs at ran
  cases found : db.lookup grantId with
  | none =>
    rw [found] at ran
    exact .inl (Except.ok.inj ran).symm
  | some row =>
    rw [found] at ran
    dsimp only at ran
    split_ifs at ran with matches_
    · right
      refine ⟨row, _, rfl, matches_.1, matches_.2.1, ?_, rfl, (Except.ok.inj ran).symm⟩
      refine ⟨rfl, fun old isOld => ⟨old, isOld, le_rfl⟩, fun _ isRevoked => isRevoked, ?_⟩
      rw [matches_.1]
      exact (lt_add_one want).le
    · exact .inl (Except.ok.inj ran).symm

theorem mark_access_grant_used_cases (grantId : UUID) (usedAt : Datetime) :
    (db.markAccessGrantUsed grantId usedAt).2 = db ∨
      ∃ row, db.lookup grantId = some row ∧ (db.markAccessGrantUsed grantId usedAt).2 =
          db.updateGrant (row.withUse usedAt) := by
  unfold markAccessGrantUsed
  cases found : db.lookup grantId with
  | none => exact .inl rfl
  | some row =>
    dsimp only
    split_ifs
    · exact .inr ⟨row, rfl, rfl⟩
    · exact .inl rfl

theorem lookup_claimed {claimed : GrantDatabase}
    (ran : db.claimRequest idem = .ok claimed) (grantId : UUID) :
    claimed.lookup grantId = db.lookup grantId := by
  unfold lookup
  rw [claim_request_grants ran]

theorem evolves_revocation {cur : AccessGrant} {revokedAt : Datetime}
    (revision : cur.revision = want) (unrevoked : cur.revokedAt = none)
    (replaced : cur.withRevocation revokedAt (want + 1) = .ok upd) :
    cur.Evolves upd := by
  rcases AccessGrant.with_revocation_ok replaced with ⟨sameId, sameExpiry, _, newRevision⟩
  refine ⟨sameId, ?_, ?_, by omega⟩
  · intro old isOld
    rw [sameExpiry]
    exact ⟨old, isOld, le_rfl⟩
  · intro revoked isRevoked
    rw [unrevoked] at isRevoked
    cases isRevoked

theorem evolves_rotation {cur prev : AccessGrant} {oldExpiresAt : Datetime}
    (revision : cur.revision = want) (earlier : ∀ expiry ∈ cur.expiresAt, oldExpiresAt ≤ expiry)
    (replaced : cur.withExpiry oldExpiresAt (want + 1) = .ok prev) :
    cur.Evolves prev := by
  rcases AccessGrant.with_expiry_ok replaced with ⟨sameId, newExpiry, sameRevocation, newRevision⟩
  refine ⟨sameId, ?_, ?_, by omega⟩
  · intro old isOld
    rw [newExpiry]
    exact ⟨oldExpiresAt, rfl, earlier old isOld⟩
  · intro revoked isRevoked
    rw [sameRevocation]
    exact isRevoked

theorem step_grant (db : GrantDatabase) (call : GrantCall) (grantId : UUID) :
    GrantChange call.inserts grantId (db.lookup grantId)
      ((db.after call).lookup grantId) := by
  unfold after
  cases ran : db.perform call with
  | error error => exact .kept _
  | ok res =>
    rcases res with ⟨succeeded, next⟩
    cases call with
    | check req =>
      rcases bind_ok.mp ran with ⟨_, _, same⟩
      rw [← (Prod.mk.inj (pure_ok.mp same)).2]
      exact .kept _
    | create grant idem =>
      rcases bind_ok.mp ran with ⟨created, creation, same⟩
      rcases create_access_grant_ok creation with ⟨claimed, claim, absent, isCreated⟩
      have isNext : created.2 = next := (Prod.mk.inj (pure_ok.mp same)).2
      rw [← isNext, isCreated, ← lookup_claimed claim]
      exact change_insert List.mem_cons_self grantId absent
    | revoke revokedId revokedAt want =>
      rcases bind_ok.mp ran with ⟨revoked, revocation, same⟩
      have isNext : revoked.2 = next := (Prod.mk.inj (pure_ok.mp same)).2
      rcases revoke_access_grant_ok revocation with ⟨cur, found, revision, kept | written⟩
      · rw [← isNext, kept.2]
        exact .kept _
      · rcases written with ⟨unrevoked, upd, replaced, isResult⟩
        have evolves := evolves_revocation revision unrevoked replaced
        have isCurrent : cur.id = revokedId := lookup_key found
        rw [← isNext, isResult]
        apply change_update grantId _ evolves
        rw [evolves.id, isCurrent]
        exact found
    | purge cameraId inactiveBefore =>
      have isNext := (Prod.mk.inj (pure_ok.mp ran)).2
      rw [← isNext]
      unfold purgeInactiveAccessGrants
      dsimp only
      split_ifs
      · exact .kept _
      · exact change_purge _ _ grantId rfl
    | rotate rotatedId replacement oldExpiresAt want idem =>
      rcases bind_ok.mp ran with ⟨rotated, rotation, same⟩
      have isNext : rotated.2 = next := (Prod.mk.inj (pure_ok.mp same)).2
      rcases rotate_access_grant_ok rotation with
        ⟨claimed, cur, prev, claim, found, revision, _, earlier, replaced, absent, isResult⟩
      have evolves := evolves_rotation revision earlier replaced
      have isCurrent : cur.id = rotatedId := lookup_key found
      have foundPrevious : claimed.lookup prev.id = some cur := by
        rw [evolves.id, isCurrent]
        exact found
      rw [← isNext, isResult, ← lookup_claimed claim]
      by_cases isReplacement : replacement.id = grantId
      · -- the replacement is new, so it is not the rotated grant
        have differ : replacement.id ≠ prev.id := by
          intro sameId
          rw [sameId, lookup_update_self foundPrevious] at absent
          cases absent
        have wasAbsent : claimed.lookup replacement.id = none := by
          rw [← lookup_update_ne differ]
          exact absent
        have added : GrantChange [replacement.id] grantId _ _ :=
          change_insert List.mem_cons_self grantId absent
        rw [← isReplacement] at added ⊢
        rw [absent] at added
        rw [wasAbsent]
        exact added
      · have unchanged : ((claimed.updateGrant prev).addGrant replacement).lookup grantId =
            (claimed.updateGrant prev).lookup grantId :=
          lookup_append_ne isReplacement
        rw [unchanged]
        exact change_update grantId foundPrevious evolves
    | rehash rehashedId tokenVerifier pepperKeyId want =>
      rcases rehash_access_grant_ok ran with kept | written
      · rw [(Prod.mk.inj kept).2]
        exact .kept _
      · rcases written with ⟨row, upd, found, _, _, evolves, _, isResult⟩
        have isRow : row.id = rehashedId := lookup_key found
        rw [(Prod.mk.inj isResult).2]
        apply change_update grantId _ evolves
        rw [evolves.id, isRow]
        exact found
    | markUsed usedId usedAt =>
      have isNext := congrArg Prod.snd (pure_ok.mp ran)
      dsimp only at isNext
      rw [← isNext]
      rcases @mark_access_grant_used_cases db usedId usedAt with kept | ⟨row, found, isUsed⟩
      · rw [kept]
        exact .kept _
      · have isRow : row.id = usedId := lookup_key found
        rw [isUsed]
        have evolves : row.Evolves (row.withUse usedAt) :=
          ⟨rfl, fun old isOld => ⟨old, isOld, le_rfl⟩, fun _ isRevoked => isRevoked, le_rfl⟩
        apply change_update grantId _ evolves
        rw [evolves.id, isRow]
        exact found
    | others cameras operatorAccounts =>
      rw [← (Prod.mk.inj (pure_ok.mp ran)).2]
      exact .kept _

/-- A fenced call that reports success met its revision. Either it wrote the next revision, or it
repeated a revocation and wrote nothing. -/
theorem fenced_success {call : GrantCall} {revision : Int}
    (fenced : call.fence = some (grantId, revision)) (succeeded : db.succeeds call = true) :
    ∃ cur, db.lookup grantId = some cur ∧ cur.revision = revision ∧
      (cur.revokedAt ≠ none ∧ db.after call = db ∨
        cur.revokedAt = none ∧ ∃ upd, upd.revision = revision + 1 ∧
          (db.after call).lookup grantId = some upd) := by
  unfold succeeds at succeeded
  cases ran : db.perform call with
  | error error =>
    rw [ran] at succeeded
    cases succeeded
  | ok res =>
    rw [ran] at succeeded
    have isAfter : db.after call = res.2 := by
      unfold after
      rw [ran]
    rw [isAfter]
    cases call with
    | revoke revokedId revokedAt want =>
      cases fenced
      rcases bind_ok.mp ran with ⟨revoked, revocation, same⟩
      have isNext : revoked.2 = res.2 := congrArg Prod.snd (pure_ok.mp same)
      rcases revoke_access_grant_ok revocation with ⟨cur, found, isRevision, kept | written⟩
      · exact ⟨cur, found, isRevision, .inl ⟨kept.1, by rw [← isNext, kept.2]⟩⟩
      · rcases written with ⟨unrevoked, upd, replaced, isResult⟩
        have evolves := evolves_revocation isRevision unrevoked replaced
        have isCurrent : cur.id = grantId := lookup_key found
        have sameId : upd.id = grantId := evolves.id.trans isCurrent
        refine ⟨cur, found, isRevision, .inr ⟨unrevoked, upd, ?_, ?_⟩⟩
        · exact (AccessGrant.with_revocation_ok replaced).2.2.2
        · rw [← isNext, isResult, ← sameId]
          exact lookup_update_self (sameId ▸ found)
    | rotate rotatedId replacement oldExpiresAt want idem =>
      cases fenced
      rcases bind_ok.mp ran with ⟨rotated, rotation, same⟩
      have isNext : rotated.2 = res.2 := congrArg Prod.snd (pure_ok.mp same)
      rcases rotate_access_grant_ok rotation with
        ⟨claimed, cur, prev, claim, found, isRevision, unrevoked, earlier, replaced,
          absent, isResult⟩
      have evolves := evolves_rotation isRevision earlier replaced
      have isCurrent : cur.id = grantId := lookup_key found
      have sameId : prev.id = grantId := evolves.id.trans isCurrent
      have upd : (claimed.updateGrant prev).lookup grantId = some prev := by
        rw [← sameId]
        exact lookup_update_self (sameId ▸ found)
      have differ : replacement.id ≠ grantId := by
        intro isReplacement
        rw [isReplacement, upd] at absent
        cases absent
      refine ⟨cur, ?_, isRevision, .inr ⟨unrevoked, prev, ?_, ?_⟩⟩
      · rw [← lookup_claimed claim]
        exact found
      · exact (AccessGrant.with_expiry_ok replaced).2.2.2
      · rw [← isNext, isResult]
        exact (lookup_append_ne differ).trans upd
    | rehash rehashedId tokenVerifier pepperKeyId want =>
      cases fenced
      rcases rehash_access_grant_ok ran with kept | written
      · rw [kept] at succeeded
        cases succeeded
      · rcases written with ⟨row, upd, found, isRevision, unrevoked, evolves, newRevision, isResult⟩
        have isRow : row.id = grantId := lookup_key found
        have sameId : upd.id = grantId := evolves.id.trans isRow
        refine ⟨row, found, isRevision, .inr ⟨unrevoked, upd, newRevision, ?_⟩⟩
        rw [isResult, ← sameId]
        exact lookup_update_self (sameId ▸ found)
    | check req => cases fenced
    | create grant idem => cases fenced
    | purge cameraId inactiveBefore => cases fenced
    | markUsed usedId usedAt => cases fenced
    | others cameras operatorAccounts => cases fenced

end GrantDatabase

/-- The tables with the history of the grant identifiers drawn and of the grants issued for a
session and key. -/
structure GrantSystem where
  database : GrantDatabase
  drawn : List UUID
  issued : List ((UUID × UUID) × UUID)

def GrantCall.issues : GrantCall → List ((UUID × UUID) × UUID)
  | .create grant (some req) => [(req.pair, grant.id)]
  | .rotate _ replacement _ _ (some req) => [(req.pair, replacement.id)]
  | .create _ none | .rotate _ _ _ _ none | .check _ | .revoke .. | .purge .. | .rehash ..
  | .markUsed .. | .others .. => []

namespace GrantSystem

def step (sys : GrantSystem) (call : GrantCall) : GrantSystem where
  database := sys.database.after call
  drawn := call.inserts ++ sys.drawn
  issued := (if sys.database.succeeds call then call.issues else []) ++ sys.issued

/-- `uuid4()` does not repeat a grant identifier. -/
def DrawsFresh (sys : GrantSystem) (call : GrantCall) : Prop :=
  ∀ grantId ∈ call.inserts, grantId ∉ sys.drawn

inductive Runs (allowed : GrantSystem → GrantCall → Prop) : GrantSystem → GrantSystem → Prop
  | stay (sys : GrantSystem) : Runs allowed sys sys
  | call {start sys : GrantSystem} (call : GrantCall) (ran : Runs allowed start sys)
      (isAllowed : allowed sys call) : Runs allowed start (sys.step call)

def Initial (sys : GrantSystem) : Prop :=
  sys.database.grants = [] ∧ sys.database.issueRequests = [] ∧ sys.issued = []

def Reachable (sys : GrantSystem) : Prop :=
  ∃ start, Initial start ∧ Runs DrawsFresh start sys

def GrantsDrawn (sys : GrantSystem) : Prop :=
  ∀ grantId grant, sys.database.lookup grantId = some grant → grantId ∈ sys.drawn

variable {sys : GrantSystem}

theorem GrantsDrawn.step_call (known : GrantsDrawn sys) (call : GrantCall) :
    GrantsDrawn (sys.step call) := by
  intro grantId grant found
  have change := sys.database.step_grant call grantId
  rw [show (sys.database.after call).lookup grantId = some grant from found] at change
  apply List.mem_append.mpr
  generalize old : sys.database.lookup grantId = pre at change
  cases change with
  | kept => exact .inr (known grantId grant old)
  | evolved => exact .inr (known grantId _ old)
  | created _ isInserted => exact .inl isInserted

variable {start : GrantSystem}

theorem grants_drawn_of_runs (ran : Runs DrawsFresh start sys)
    (known : GrantsDrawn start) : GrantsDrawn sys := by
  induction ran with
  | stay => exact known
  | call operation _ _ ih => exact ih.step_call operation

theorem grants_drawn_of_reachable (reached : Reachable sys) : GrantsDrawn sys := by
  rcases reached with ⟨start, init, ran⟩
  apply grants_drawn_of_runs ran
  intro grantId grant found
  unfold GrantDatabase.lookup at found
  rw [init.1] at found
  cases found

theorem drawn_stays (ran : Runs DrawsFresh start sys)
    (drawn : grantId ∈ start.drawn) : grantId ∈ sys.drawn := by
  induction ran with
  | stay => exact drawn
  | call operation _ _ ih => exact List.mem_append_right _ ih

theorem lookup_of_runs (ran : Runs DrawsFresh start sys)
    (drawn : grantId ∈ start.drawn) {after : AccessGrant}
    (found : sys.database.lookup grantId = some after) :
    ∃ pre, start.database.lookup grantId = some pre ∧ pre.Evolves after := by
  induction ran generalizing after with
  | stay => exact ⟨after, found, AccessGrant.Evolves.refl after⟩
  | @call middle operation ran fresh ih =>
    have change := middle.database.step_grant operation grantId
    rw [show (middle.database.after operation).lookup grantId = some after from found] at change
    generalize old : middle.database.lookup grantId = pre at change
    cases change with
    | kept => exact ih old
    | evolved evolves =>
      rcases ih old with ⟨first, atStart, earlier⟩
      exact ⟨first, atStart, earlier.trans evolves⟩
    | created _ isInserted =>
      exact absurd (drawn_stays ran drawn) (fresh grantId isInserted)

/-- Whether the grant admits a reader at that moment; a purged grant does not. -/
def admits (sys : GrantSystem) (grantId : UUID) (moment : Datetime) : Bool :=
  match sys.database.lookup grantId with
  | none => false
  | some grant => grant.activeAt moment

theorem fenced_calls_exclude {later : GrantSystem} (reached : Reachable sys)
    {first second : GrantCall} (ran : Runs DrawsFresh (sys.step first) later) {revision : Int}
    (firstFence : first.fence = some (grantId, revision))
    (secondFence : second.fence = some (grantId, revision))
    (firstSucceeds : sys.database.succeeds first = true)
    (secondSucceeds : later.database.succeeds second = true) :
    sys.database.after first = sys.database ∧ later.database.after second = later.database := by
  rcases GrantDatabase.fenced_success firstFence firstSucceeds with
    ⟨cur, found, _, wrote⟩
  rcases GrantDatabase.fenced_success secondFence secondSucceeds with
    ⟨laterGrant, laterFound, laterRevision, laterWrote⟩
  have drawn : grantId ∈ (sys.step first).drawn :=
    List.mem_append_right _ (grants_drawn_of_reachable reached grantId cur found)
  rcases lookup_of_runs ran drawn laterFound with ⟨between, foundBetween, evolves⟩
  rcases wrote with ⟨revoked, unchanged⟩ | ⟨_, upd, newRevision, foundUpdated⟩
  · -- the first call repeated a revocation, so the grant is revoked for the second call as well
    have same : between = cur := by
      have isBetween : sys.database.lookup grantId = some between := by
        rw [← unchanged]
        exact foundBetween
      rw [found] at isBetween
      exact (Option.some.inj isBetween).symm
    rcases laterWrote with ⟨_, laterUnchanged⟩ | ⟨unrevoked, _⟩
    · exact ⟨unchanged, laterUnchanged⟩
    · rcases Option.ne_none_iff_exists'.mp revoked with ⟨moment, isRevoked⟩
      rw [same] at evolves
      rw [evolves.revocation moment isRevoked] at unrevoked
      cases unrevoked
  · -- the first call wrote, so the revision the second call expects is past
    have same : between = upd := by
      have isBetween : (sys.database.after first).lookup grantId = some between := foundBetween
      rw [foundUpdated] at isBetween
      exact (Option.some.inj isBetween).symm
    have grown := evolves.revision
    rw [same] at grown
    omega

/-- Revocation is final. Whatever is called, in whatever order: a grant that is over at one moment
admits nobody at any later moment, its effective expiry only moves earlier, and of two calls fenced
on the same revision, one that writes excludes the success of the other. -/
theorem revocation_final {sys : GrantSystem} (reached : Reachable sys) :
    (∀ later, Runs DrawsFresh sys later → ∀ grantId ∈ sys.drawn, ∀ moment afterwards,
      (∀ grant, sys.database.lookup grantId = some grant → grant.endsBy moment = true) →
      moment ≤ afterwards → later.admits grantId afterwards = false) ∧
    (∀ later, Runs DrawsFresh sys later → ∀ grantId pre after,
      sys.database.lookup grantId = some pre → later.database.lookup grantId = some after →
      after.effectiveExpiry ≤ pre.effectiveExpiry) ∧
    ∀ first later second grantId revision, sys.DrawsFresh first →
      Runs DrawsFresh (sys.step first) later →
      first.fence = some (grantId, revision) → second.fence = some (grantId, revision) →
      sys.database.succeeds first = true → later.database.succeeds second = true →
      sys.database.after first = sys.database ∧ later.database.after second = later.database := by
  refine ⟨?_, ?_, ?_⟩
  · intro later ran grantId drawn moment afterwards ended ordered
    unfold admits
    cases found : later.database.lookup grantId with
    | none => rfl
    | some grant =>
      rcases lookup_of_runs ran drawn found with ⟨pre, foundBefore, evolves⟩
      exact AccessGrant.inactive_of_ended (evolves.ends (ended pre foundBefore) ordered)
  · intro later ran grantId pre after foundBefore foundAfter
    have drawn := grants_drawn_of_reachable reached grantId pre foundBefore
    rcases lookup_of_runs ran drawn foundAfter with ⟨other, foundOther, evolves⟩
    rw [foundBefore] at foundOther
    rw [Option.some.inj foundOther]
    exact evolves.effective
  · intro first later second grantId revision _ ran firstFence secondFence firstSucceeds
      secondSucceeds
    exact fenced_calls_exclude reached ran firstFence secondFence firstSucceeds secondSucceeds

end GrantSystem

/-- A grant of the worked runs, valid from time 0 on for a minute. -/
def sampleGrant (id : UUID) : AccessGrant where
  id
  cameraId := 0x00000000000040008000000000000001
  username := "grant-" ++ id.hex
  tokenVerifier := "0000000000000000000000000000000000000000000000000000000000000000"
  pepperKeyId := "2026"
  notBefore := 0
  expiresAt := some (timedeltaSeconds 60)
  revokedAt := none
  revision := 1
  usernameValid := rfl
  verifierValid := by decide +kernel
  pepperValid := by decide +kernel
  windowValid := by
    intro expiry isExpiry
    cases isExpiry
    decide
  revisionValid := Int.one_pos
  lifetimeValid := by
    intro none
    cases none
  creatorValid := by decide +kernel

def firstGrant : AccessGrant := sampleGrant 0x00000000000040008000000000000041

def secondGrant : AccessGrant := sampleGrant 0x00000000000040008000000000000042

def sampleIssue (replacementGrantId : UUID) : AccessGrantIdempotency where
  key := 0x00000000000040008000000000000051
  actorAccountId := 0x00000000000040008000000000000052
  actorSessionId := 0x00000000000040008000000000000053
  operation := .issue
  cameraId := 0x00000000000040008000000000000001
  sourceGrantId := none
  replacementGrantId
  requestSha256 := "0000000000000000000000000000000000000000000000000000000000000000"
  keyValid := by decide +kernel
  sourceValid := by simp
  digestValid := by decide +kernel

def sampleStart : GrantSystem where
  database :=
    { cameras := Dict.empty.set 0x00000000000040008000000000000001 .enabled
      operatorAccounts := [0x00000000000040008000000000000052]
      grants := []
      issueRequests := []
      schemaKnown := true }
  drawn := []
  issued := []

namespace GrantSystem

def sampleRevoked : GrantSystem :=
  (sampleStart.step (.create firstGrant none)).step
    (.revoke firstGrant.id (timedeltaSeconds 10) 1)

theorem revocation_final_sample :
    sampleRevoked.admits firstGrant.id (timedeltaSeconds 5) = true ∧
      ∀ moment, timedeltaSeconds 10 ≤ moment →
        (sampleRevoked.step (.markUsed firstGrant.id moment)).admits firstGrant.id moment =
          false := by
  have reached : Reachable sampleRevoked := by
    refine ⟨sampleStart, ⟨rfl, rfl, rfl⟩, .call _ (.call _ (.stay _) ?_) ?_⟩
    · intro grantId _
      exact List.not_mem_nil
    · intro grantId isInserted
      cases isInserted
  refine ⟨by decide +kernel, ?_⟩
  intro moment past
  apply (revocation_final reached).1 _ (.call _ (.stay _) ?_) _ _ (timedeltaSeconds 10) moment
    ?_ past
  · intro grantId isInserted
    cases isInserted
  · decide +kernel
  · intro grant found
    have isOver : (sampleRevoked.database.lookup firstGrant.id).all
        (fun grant => grant.endsBy (timedeltaSeconds 10)) = true := by
      decide +kernel
    rw [found] at isOver
    exact isOver

end GrantSystem

end RtspProxy.Access
