import RtspProxy.Deploy.Activation

/-!
# What an activation leaves behind

An activation that fails while the current link is at the new release goes back
to the previous one only if the failure is in the restart of the units or in the
wait for their health. `Standing` is a part of a run without a failure elsewhere;
the first one elsewhere ends the run in the state it left (`Broken`).
-/

namespace RtspProxy.Deploy

open Lib.Program Lib.Program.Prog

abbrev DeployTrial := Trial Deployment Call

def Call.inRollbackScope : Call → Bool
  | .restartUnits _ | .health | .sleep => true
  | _ => false

def Untouched (prev : String) (receipt : Option Receipt) (st : Deployment) : Prop :=
  st.current = .release prev ∧ st.receipt = receipt

/-- The link names the previous release, or the new one, which is verified and fits the schema. -/
def Named (host : DeploymentHost) (prev releaseId : String) (st : Deployment) : Prop :=
  st.current = .release prev ∨ (st.current = .release releaseId ∧ releaseId ∈ st.verified ∧
      ∃ manifest, host.manifests releaseId = some manifest ∧
        schemaCompatible host manifest host.databaseRevision = .ok true)

/-- The application units among those that were active were restarted, and reported healthy. -/
def Restarted (active : List String) (st : Deployment) : Prop :=
  st.active = some active ∧
    st.restarted = some (active.filter (restartableApplicationUnits.contains ·)) ∧
    (active.filter (restartableApplicationUnits.contains ·) ≠ [] → st.healthy = some true)

def renewed (host : DeploymentHost) (prev releaseId : String) : Receipt :=
  ⟨releaseId, some prev, host.databaseRevision⟩

/-- The new release is current, its units are healthy and the receipt says so. -/
def Activated (host : DeploymentHost) (prev releaseId : String) (st : Deployment) : Prop :=
  st.current = .release releaseId ∧ (∃ active, Restarted active st) ∧
    st.receipt = some (renewed host prev releaseId)

/-- The calls that may fail: those in the rollback scope, those before the new release is linked,
and those after the previous one is linked again. Where the release is activated once more, the link
is the same throughout, and `renewed` is the receipt. -/
def Spares (prev releaseId : String) (receipt : Option Receipt) (renewed : Receipt) :
    Call → Bool → Prop
  | .readManifest target, _ | .makeRoot target, _ | .nextLinkExists target, _
  | .unlinkNextLink target, _ | .symlink target, _ | .replaceCurrent target, false =>
    target = releaseId
  | .replaceCurrent target, true | .syncRoot target, _ => target = prev
  | .makeReceiptDirectory, _ | .writeNextReceipt _, _ | .chmodNextReceipt, _
  | .replaceReceipt, false => prev = releaseId
  | .replaceReceipt, true | .syncReceiptDirectory, _ => prev = releaseId ∧ receipt = some renewed
  | _, _ => True

/-- No failure leaves the link or the receipt changed. -/
def FailsUntouched (host : DeploymentHost) (prev releaseId : String) (receipt : Option Receipt)
    (trial : DeployTrial) : Prop :=
  ∀ failure ∈ trial.failures, Spares prev releaseId receipt (renewed host prev releaseId)
    failure.request failure.tookEffect

section Activation

variable {host : DeploymentHost} {prev releaseId : String} {receipt : Option Receipt}
  {trial : DeployTrial}

def InScope (trial : DeployTrial) : Prop :=
  ∀ failure ∈ trial.failures, failure.request.inRollbackScope = true

structure Standing (host : DeploymentHost) (prev releaseId : String)
    (fact : Deployment → Prop) (trial : DeployTrial) : Prop where
  inScope : InScope trial
  always : trial.Always (Named host prev releaseId)
  named : Named host prev releaseId trial.state
  fact : fact trial.state

/-- The run ended at its first failure outside the rollback scope, with nothing changed exactly if
that failure is spared. -/
def Broken (host : DeploymentHost) (prev releaseId : String) (receipt : Option Receipt)
    (trial : DeployTrial) : Prop :=
  ∃ earlier failure, trial.failures = earlier ++ [failure] ∧
    (∀ other ∈ earlier, other.request.inRollbackScope = true) ∧
    (Spares prev releaseId receipt (renewed host prev releaseId) failure.request
      failure.tookEffect ↔ Untouched prev receipt trial.state)

/-- The run raised: where it broke, or with everything untouched. -/
structure Raised (host : DeploymentHost) (prev releaseId : String) (receipt : Option Receipt)
    (trial : DeployTrial) : Prop where
  always : trial.Always (Named host prev releaseId)
  ended : Broken host prev releaseId receipt trial ∨
    (InScope trial ∧ Untouched prev receipt trial.state)

variable {fact : Deployment → Prop}

theorem raised_of_standing (standing : Standing host prev releaseId fact trial)
    (untouched : Untouched prev receipt trial.state) :
    Raised host prev releaseId receipt trial :=
  ⟨standing.always, .inr ⟨standing.inScope, untouched⟩⟩

theorem standing_weaken {fact weaker : Deployment → Prop}
    (standing : Standing host prev releaseId fact trial) (weaken : ∀ st, fact st → weaker st) :
    Standing host prev releaseId weaker trial :=
  { standing with fact := weaken _ standing.fact }

theorem spares_in_scope {req : Call} {tookEffect : Bool} {renewed : Receipt}
    (within : req.inRollbackScope = true) :
    Spares prev releaseId receipt renewed req tookEffect := by
  cases req with
  | restartUnits | health | sleep => trivial
  | _ => cases within

theorem untouched_at {target : String} {st : Deployment} (isCurrent : st.current = .release target)
    (isReceipt : st.receipt = receipt) : target = prev ↔ Untouched prev receipt st := by
  constructor
  · rintro rfl
    exact ⟨isCurrent, isReceipt⟩
  · rintro ⟨isPrev, _⟩
    exact CurrentLink.release.inj (isCurrent.symm.trans isPrev)

theorem untouched_renewed {renewed : Receipt} {st : Deployment}
    (isCurrent : st.current = .release releaseId) (isReceipt : st.receipt = some renewed) :
    prev = releaseId ∧ receipt = some renewed ↔ Untouched prev receipt st := by
  constructor
  · rintro ⟨rfl, rfl⟩
    exact ⟨isCurrent, isReceipt⟩
  · rintro ⟨isPrev, rfl⟩
    exact ⟨CurrentLink.release.inj (isPrev.symm.trans isCurrent), isReceipt⟩

theorem standing_attempt {req : Call} (next : Answer req → Deployment → Prop)
    (standing : Standing host prev releaseId fact trial)
    (spares : ∀ st, fact st → (Spares prev releaseId receipt (renewed host prev releaseId) req
      false ↔ Untouched prev receipt st))
    (effects : ∀ st ans left, fact st → Named host prev releaseId st →
      Effect host st req ans left → Named host prev releaseId left ∧
        (Spares prev releaseId receipt (renewed host prev releaseId) req true ↔
          Untouched prev receipt left) ∧
        Returns next (fun _ => Untouched prev receipt) ans left) :
    Tries (tools host) (Returns (fun value => Standing host prev releaseId (next value))
      fun _ => Raised host prev releaseId receipt) (attempt req) trial := by
  refine tries_ask ?_ ?_ ?_
  · intro ans left effect
    obtain ⟨named, _, out⟩ := effects _ ans left standing.fact standing.named effect
    have always := Trial.always_moved standing.always named
    cases ans with
    | ok value => exact ⟨standing.inScope, always, named, out⟩
    | error err => exact ⟨always, .inr ⟨standing.inScope, out⟩⟩
  · intro err _
    exact ⟨Trial.always_failed standing.always standing.named,
      .inl ⟨_, _, rfl, standing.inScope, spares _ standing.fact⟩⟩
  · intro ans left err effect _
    obtain ⟨named, spared, _⟩ := effects _ ans left standing.fact standing.named effect
    exact ⟨Trial.always_failed standing.always named,
      .inl ⟨_, _, rfl, standing.inScope, spared⟩⟩

theorem standing_step {req : Call} {Final : Type} {prog : Answer req → DeployProg Final}
    {post : Except DeployError Final → DeployTrial → Prop}
    (next : Answer req → Deployment → Prop) (standing : Standing host prev releaseId fact trial)
    (spares : ∀ st, fact st → (Spares prev releaseId receipt (renewed host prev releaseId) req
      false ↔ Untouched prev receipt st))
    (effects : ∀ st ans left, fact st → Named host prev releaseId st →
      Effect host st req ans left → Named host prev releaseId left ∧
        (Spares prev releaseId receipt (renewed host prev releaseId) req true ↔
          Untouched prev receipt left) ∧
        Returns next (fun _ => Untouched prev receipt) ans left)
    (raises : ∀ err after, Raised host prev releaseId receipt after → post (.error err) after)
    (continues : ∀ value after, Standing host prev releaseId (next value) after →
      Tries (tools host) post (prog value) after) :
    Tries (tools host) post (attempt req >>= prog) trial :=
  safe_then (standing_attempt next standing spares effects) raises continues

def Deployment.linkedTo (st : Deployment) (releaseId : String) : Deployment :=
  { st with current := .release releaseId, nextLink := none }

/-- Whatever the state keeps when the temporary link comes and goes. -/
def IgnoresNextLink (fact : Deployment → Prop) : Prop :=
  ∀ st nextLink, fact st → fact { st with nextLink := nextLink }

theorem switch_standing {target : String}
    (standing : Standing host prev releaseId fact trial) (ignores : IgnoresNextLink fact)
    (names : ∀ st, fact st → Named host prev releaseId (st.linkedTo target))
    (spares : ∀ st, fact st → (target = releaseId ↔ Untouched prev receipt st))
    (keeps : ∀ st, fact st → st.receipt = receipt) :
    Tries (tools host) (Returns
      (fun _ => Standing host prev releaseId fun st =>
        ∃ pre, fact pre ∧ st = pre.linkedTo target)
      fun _ => Raised host prev releaseId receipt) (switch target) trial := by
  refine standing_step (fun _ => fact) standing spares ?_ (fun _ _ raised => raised) ?_
  · rintro st _ _ holds named ⟨⟩
    exact ⟨named, spares st holds, holds⟩
  intro _ made standing
  refine standing_step (fun present st => fact st ∧ present = st.nextLink.isSome) standing spares
    ?_ (fun _ _ raised => raised) ?_
  · rintro st _ _ holds named ⟨⟩
    exact ⟨named, spares st holds, holds, rfl⟩
  intro present looked standing
  have cleared : Tries (tools host) (Returns
      (fun _ => Standing host prev releaseId fun st => fact st ∧ st.nextLink = none)
      fun _ => Raised host prev releaseId receipt)
      (if present = true then attempt (.unlinkNextLink target) else pure ()) looked := by
    split
    · rename_i isPresent
      refine standing_attempt (fun _ st => fact st ∧ st.nextLink = none) standing
        (fun st holds => spares st holds.1) ?_
      rintro st ans left ⟨holds, isSame⟩ named effect
      cases effect with
      | unlinkNextLink => exact ⟨named, spares st holds, ignores _ _ holds, rfl⟩
      | nothingToUnlink _ missing =>
        rw [isPresent, missing] at isSame
        cases isSame
    · rename_i isMissing
      refine safe_pure (standing_weaken standing ?_)
      rintro st ⟨holds, isSame⟩
      refine ⟨holds, ?_⟩
      cases isNext : st.nextLink with
      | none => rfl
      | some target =>
        rw [isNext] at isSame
        exact absurd isSame isMissing
  refine safe_then cleared (fun _ _ raised => raised) ?_
  intro _ removed standing
  refine standing_step (fun _ st => fact st ∧ st.nextLink = some target) standing
    (fun st holds => spares st holds.1) ?_ (fun _ _ raised => raised) ?_
  · rintro st ans left ⟨holds, isFree⟩ named effect
    cases effect with
    | symlink => exact ⟨named, spares st holds, ignores _ _ holds, rfl⟩
    | symlinkExists _ present =>
      rw [isFree] at present
      cases present
  intro _ linked standing
  refine standing_step (fun _ st => ∃ pre, fact pre ∧ st = pre.linkedTo target) standing
    (fun st holds => spares st holds.1) ?_ (fun _ _ raised => raised) ?_
  · rintro st ans left ⟨holds, isLinked⟩ named effect
    cases effect with
    | replaceCurrent _ present =>
      rw [isLinked] at present
      cases present
      exact ⟨names st holds, untouched_at rfl (keeps st holds), st, holds, rfl⟩
    | nothingToReplace _ missing =>
      rw [isLinked] at missing
      cases missing
  intro _ replaced standing
  have spared (st : Deployment) (holds : ∃ pre, fact pre ∧ st = pre.linkedTo target) :
      target = prev ↔ Untouched prev receipt st := by
    obtain ⟨pre, holds, rfl⟩ := holds
    exact untouched_at rfl (keeps pre holds)
  refine standing_attempt (fun _ st => ∃ pre, fact pre ∧ st = pre.linkedTo target) standing
    spared ?_
  rintro st _ _ holds named ⟨⟩
  exact ⟨named, spared st holds, holds⟩

theorem standing_within {req : Call} {fact kept : Deployment → Prop}
    {next : Answer req → Deployment → Prop} (within : req.inRollbackScope = true)
    (standing : Standing host prev releaseId fact trial) (keeps : ∀ st, fact st → kept st)
    (effects : ∀ st ans left, fact st → Named host prev releaseId st →
      Effect host st req ans left → Named host prev releaseId left ∧ kept left ∧
        ∀ value, ans = .ok value → next value left) :
    Tries (tools host) (Returns (fun value => Standing host prev releaseId (next value))
      fun _ => Standing host prev releaseId kept) (attempt req) trial := by
  have inScope : ∀ tookEffect left, InScope (trial.failed req tookEffect left) := by
    intro tookEffect left failure mem
    rcases List.mem_append.mp mem with pre | isLast
    · exact standing.inScope failure pre
    · rw [List.mem_singleton.mp isLast]
      exact within
  refine tries_ask ?_ ?_ ?_
  · intro ans left effect
    obtain ⟨named, isKept, goesOn⟩ := effects _ ans left standing.fact standing.named effect
    have always := Trial.always_moved standing.always named
    cases ans with
    | ok value => exact ⟨standing.inScope, always, named, goesOn value rfl⟩
    | error err => exact ⟨standing.inScope, always, named, isKept⟩
  · intro err _
    exact ⟨inScope _ _, Trial.always_failed standing.always standing.named, standing.named,
      keeps _ standing.fact⟩
  · intro ans left err effect _
    obtain ⟨named, isKept, _⟩ := effects _ ans left standing.fact standing.named effect
    exact ⟨inScope _ _, Trial.always_failed standing.always named, named, isKept⟩

/-- The link is at the new release and the receipt still the old one. -/
def Switched (active : List String) (releaseId : String) (receipt : Option Receipt)
    (st : Deployment) : Prop :=
  st.current = .release releaseId ∧ st.receipt = receipt ∧ st.active = some active

variable {active : List String}

theorem await_health_standing (attempts : Nat) {units : List String}
    (standing : Standing host prev releaseId
      (fun st => Switched active releaseId receipt st ∧ st.restarted = some units) trial) :
    Tries (tools host) (Returns
      (fun healthy => Standing host prev releaseId fun st =>
        Switched active releaseId receipt st ∧ st.restarted = some units ∧
          (healthy = true → st.healthy = some true))
      fun _ => Standing host prev releaseId (Switched active releaseId receipt))
      (awaitHealth attempts) trial := by
  induction attempts generalizing trial with
  | zero =>
    refine safe_pure (standing_weaken standing ?_)
    rintro st ⟨switched, isRestarted⟩
    exact ⟨switched, isRestarted, fun impossible => nomatch impossible⟩
  | succ attempts ih =>
    have asked := @standing_within _ _ _ _ .health _ (Switched active releaseId receipt)
      (fun healthy st => Switched active releaseId receipt st ∧ st.restarted = some units ∧
        st.healthy = some healthy) rfl standing (fun _ holds => holds.1) (by
          rintro st _ _ ⟨switched, isRestarted⟩ named ⟨⟩
          refine ⟨named, switched, ?_⟩
          rintro value ⟨⟩
          exact ⟨switched, isRestarted, rfl⟩)
    refine safe_then asked (fun _ _ switched => switched) ?_
    intro healthy after standing
    split
    · rename_i isHealthy
      refine safe_pure (standing_weaken standing ?_)
      rintro st ⟨switched, isRestarted, isAnswer⟩
      exact ⟨switched, isRestarted, fun _ => isHealthy ▸ isAnswer⟩
    split
    · refine safe_pure (standing_weaken standing ?_)
      rintro st ⟨switched, isRestarted, _⟩
      exact ⟨switched, isRestarted, fun impossible => nomatch impossible⟩
    · have slept := @standing_within _ _ _ _ .sleep _ (Switched active releaseId receipt)
        (fun _ st => Switched active releaseId receipt st ∧ st.restarted = some units) rfl
        standing (fun _ holds => holds.1) (by
          rintro st _ _ ⟨switched, isRestarted, _⟩ named ⟨⟩
          exact ⟨named, switched, fun _ _ => ⟨switched, isRestarted⟩⟩)
      refine safe_then slept (fun _ _ switched => switched) ?_
      intro _ rested standing
      exact ih standing

theorem restart_and_wait_standing (units : List String)
    (standing : Standing host prev releaseId (Switched active releaseId receipt) trial) :
    Tries (tools host) (Returns
      (fun _ => Standing host prev releaseId fun st => Switched active releaseId receipt st ∧
        st.restarted = some units ∧ (units ≠ [] → st.healthy = some true))
      fun _ => Standing host prev releaseId (Switched active releaseId receipt))
      (restartAndWait units) trial := by
  have restarted := @standing_within _ _ _ _ (.restartUnits units) _
    (Switched active releaseId receipt)
    (fun _ st => Switched active releaseId receipt st ∧ st.restarted = some units) rfl
    standing (fun _ holds => holds) (by
      rintro st _ _ switched named ⟨⟩
      exact ⟨named, switched, fun _ _ => ⟨switched, rfl⟩⟩)
  refine safe_then restarted (fun _ _ switched => switched) ?_
  intro _ after standing
  split
  · rename_i noUnits
    refine safe_pure (standing_weaken standing ?_)
    rintro st ⟨switched, isRestarted⟩
    exact ⟨switched, isRestarted, fun someUnits => absurd noUnits someUnits⟩
  · refine safe_then (await_health_standing _ standing) (fun _ _ switched => switched) ?_
    intro healthy waited standing
    split
    · rename_i isHealthy
      refine safe_pure (standing_weaken standing ?_)
      rintro st ⟨switched, isRestarted, answered⟩
      exact ⟨switched, isRestarted, fun _ => answered isHealthy⟩
    · exact safe_raise (standing_weaken standing fun _ holds => holds.1)

theorem roll_back_raised {units : List String} {err : DeployError} {manifest : ReleaseManifest}
    (readable : host.manifests prev = some manifest)
    (fits : schemaCompatible host manifest host.databaseRevision = .ok true)
    (standing : Standing host prev releaseId (Switched active releaseId receipt) trial) :
    Tries (tools host) (Returns (fun _ _ => False) fun _ => Raised host prev releaseId receipt)
      (rollBack host (some prev) host.databaseRevision units err) trial := by
  have spares (st : Deployment) (switched : Switched active releaseId receipt st) :
      prev = releaseId ↔ Untouched prev receipt st :=
    eq_comm.trans (untouched_at switched.1 switched.2.1)
  refine standing_step (fun found st => Switched active releaseId receipt st ∧ found = manifest)
    standing spares ?_ (fun _ _ raised => raised) ?_
  · intro st ans left switched named effect
    cases effect with
    | manifest found =>
      rw [readable] at found
      cases found
      exact ⟨named, spares _ switched, switched, rfl⟩
    | noManifest missing =>
      rw [readable] at missing
      cases missing
  intro found read standing
  rw [standing.fact.2, fits]
  have switchedBack := @switch_standing host prev releaseId receipt _ _ prev standing
    (fun _ _ holds => holds) (fun _ _ => .inl rfl) (fun _ holds => spares _ holds.1)
    fun _ holds => holds.1.2.1
  change Tries (tools host) _ (switch prev >>= _) read
  refine safe_then switchedBack (fun _ _ raised => raised) ?_
  intro _ back standing
  have untouched : Standing host prev releaseId (Untouched prev receipt) back := by
    refine standing_weaken standing ?_
    rintro st ⟨pre, ⟨switched, _⟩, rfl⟩
    exact ⟨rfl, switched.2.1⟩
  have restarted := @standing_within _ _ _ _ (.restartUnits units) _ (Untouched prev receipt)
    (fun _ => Untouched prev receipt) rfl untouched (fun _ holds => holds) (by
      rintro st _ _ untouched named ⟨⟩
      exact ⟨.inl untouched.1, untouched, fun _ _ => untouched⟩)
  refine safe_then restarted ?_ ?_
  · intro _ after standing
    exact raised_of_standing standing standing.fact
  · intro _ after standing
    exact safe_raise (raised_of_standing standing standing.fact)

/-- The link is at the new release, whose units run, and the receipt still the old one. -/
def Running (active : List String) (releaseId : String) (receipt : Option Receipt)
    (st : Deployment) : Prop :=
  st.current = .release releaseId ∧ st.receipt = receipt ∧ Restarted active st

theorem write_receipt_standing
    (standing : Standing host prev releaseId (Running active releaseId receipt) trial) :
    Tries (tools host) (Returns
      (fun _ => Standing host prev releaseId (Activated host prev releaseId))
      fun _ => Raised host prev releaseId receipt)
      (writeReceipt (renewed host prev releaseId)) trial := by
  have spares (st : Deployment) (running : Running active releaseId receipt st) :
      prev = releaseId ↔ Untouched prev receipt st :=
    eq_comm.trans (untouched_at running.1 running.2.1)
  refine standing_step (fun _ => Running active releaseId receipt) standing spares
    ?_ (fun _ _ raised => raised) ?_
  · rintro st _ _ running named ⟨⟩
    exact ⟨named, spares st running, running⟩
  intro _ made standing
  refine standing_step (fun _ st => Running active releaseId receipt st ∧
    st.nextReceipt = some (renewed host prev releaseId)) standing spares
    ?_ (fun _ _ raised => raised) ?_
  · rintro st _ _ running named ⟨⟩
    exact ⟨named, spares st running, running, rfl⟩
  intro _ written standing
  refine standing_step (fun _ st => Running active releaseId receipt st ∧
    st.nextReceipt = some (renewed host prev releaseId)) standing
    (fun _ holds => spares _ holds.1) ?_ (fun _ _ raised => raised) ?_
  · rintro st _ _ holds named ⟨⟩
    exact ⟨named, spares st holds.1, holds⟩
  intro _ narrowed standing
  refine standing_step (fun _ => Activated host prev releaseId) standing
    (fun _ holds => spares _ holds.1) ?_ (fun _ _ raised => raised) ?_
  · rintro st ans left ⟨⟨isCurrent, _, restarted⟩, isNext⟩ named effect
    cases effect with
    | replaceReceipt present =>
      rw [isNext] at present
      cases present
      exact ⟨named, untouched_renewed isCurrent rfl, isCurrent, ⟨active, restarted⟩, rfl⟩
    | noReceiptToReplace missing =>
      rw [isNext] at missing
      cases missing
  intro _ replaced standing
  have spared (st : Deployment) (activated : Activated host prev releaseId st) :=
    @untouched_renewed prev releaseId receipt _ st activated.1 activated.2.2
  refine standing_attempt (fun _ => Activated host prev releaseId) standing spared ?_
  rintro st _ _ activated named ⟨⟩
  exact ⟨named, spared st activated, activated⟩

/-- Nothing has happened yet to the link and the receipt; the new release is verified. -/
def Verified (prev releaseId : String) (receipt : Option Receipt) (st : Deployment) : Prop :=
  Untouched prev receipt st ∧ releaseId ∈ st.verified

theorem current_release_standing
    (standing : Standing host prev releaseId (Verified prev releaseId receipt) trial) :
    Tries (tools host) (Returns
      (fun found => Standing host prev releaseId fun st =>
        Verified prev releaseId receipt st ∧ found = some prev)
      fun _ => Raised host prev releaseId receipt) currentRelease trial := by
  refine standing_step (fun link st => Verified prev releaseId receipt st ∧
    link = .release prev) standing (fun _ holds => iff_of_true trivial holds.1)
    ?_ (fun _ _ raised => raised) ?_
  · rintro st _ _ holds named ⟨⟩
    exact ⟨named, iff_of_true trivial holds.1, holds, holds.1.1⟩
  intro link read standing
  obtain ⟨verified, rfl⟩ := standing.fact
  dsimp only
  split
  · exact safe_pure (standing_weaken standing fun _ holds => ⟨holds.1, rfl⟩)
  · exact safe_raise (raised_of_standing standing verified.1)

theorem activate_settled {manifest : ReleaseManifest}
    (readable : host.manifests prev = some manifest)
    (fits : schemaCompatible host manifest host.databaseRevision = .ok true)
    (standing : Standing host prev releaseId (Untouched prev receipt) trial) :
    Tries (tools host) (Returns
      (fun _ => Standing host prev releaseId (Activated host prev releaseId))
      fun _ => Raised host prev releaseId receipt) (activate host releaseId) trial := by
  unfold activate
  split
  · exact safe_raise (raised_of_standing standing standing.fact)
  refine standing_step (fun _ => Verified prev releaseId receipt) standing
    (fun _ untouched => iff_of_true trivial untouched) ?_ (fun _ _ raised => raised) ?_
  · rintro st _ _ untouched named ⟨⟩
    exact ⟨.inl untouched.1, iff_of_true trivial untouched, untouched, List.mem_cons_self⟩
  intro _ verified standing
  refine standing_step (fun revision st => Verified prev releaseId receipt st ∧
    revision = host.databaseRevision) standing (fun _ holds => iff_of_true trivial holds.1)
    ?_ (fun _ _ raised => raised) ?_
  · rintro st _ _ holds named ⟨⟩
    exact ⟨named, iff_of_true trivial holds.1, holds, rfl⟩
  intro revision inspected standing
  obtain rfl := standing.fact.2
  refine standing_step (fun found st => Verified prev releaseId receipt st ∧
    host.manifests releaseId = some found) standing (fun _ holds => iff_of_true rfl holds.1.1)
    ?_ (fun _ _ raised => raised) ?_
  · rintro st ans left ⟨holds, _⟩ named effect
    have spared := iff_of_true (Eq.refl releaseId) holds.1
    cases effect with
    | manifest found => exact ⟨named, spared, holds, found⟩
    | noManifest missing => exact ⟨named, spared, holds.1⟩
  intro found read standing
  obtain ⟨_, isFound⟩ := standing.fact
  cases isCompatible : schemaCompatible host found host.databaseRevision with
  | error err => exact raised_of_standing standing standing.fact.1.1
  | ok compatible =>
    change Tries (tools host) _ (if compatible = false then _ else _) read
    split
    · exact safe_raise (raised_of_standing standing standing.fact.1.1)
    rename_i isTrue
    rw [Bool.not_eq_false] at isTrue
    rw [isTrue] at isCompatible
    have verified := standing_weaken standing fun _ holds => holds.1
    refine safe_then (current_release_standing verified) (fun _ _ raised => raised) ?_
    intro cur looked standing
    obtain rfl := standing.fact.2
    refine standing_step (fun active st => Verified prev releaseId receipt st ∧
      st.active = some active) standing (fun _ holds => iff_of_true trivial holds.1.1)
      ?_ (fun _ _ raised => raised) ?_
    · rintro st _ _ ⟨holds, _⟩ named ⟨⟩
      exact ⟨named, iff_of_true trivial holds.1, holds, rfl⟩
    intro active listed standing
    have switched := @switch_standing host prev releaseId receipt _ _ releaseId standing
      (fun _ _ holds => holds)
      (fun st holds => .inr ⟨rfl, holds.1.2, found, isFound, isCompatible⟩)
      (fun _ holds => iff_of_true rfl holds.1.1) fun _ holds => holds.1.1.2
    refine safe_then switched (fun _ _ raised => raised) ?_
    intro _ linked standing
    have isSwitched : Standing host prev releaseId (Switched active releaseId receipt) linked := by
      refine standing_weaken standing ?_
      rintro st ⟨pre, ⟨⟨untouched, _⟩, isActive⟩, rfl⟩
      exact ⟨rfl, untouched.2, isActive⟩
    have handled : Tries (tools host) (Returns
        (fun _ => Standing host prev releaseId fun st => Switched active releaseId receipt st ∧
          st.restarted = some (active.filter (restartableApplicationUnits.contains ·)) ∧
          (active.filter (restartableApplicationUnits.contains ·) ≠ [] → st.healthy = some true))
        fun _ => Raised host prev releaseId receipt)
        ((restartAndWait (active.filter (restartableApplicationUnits.contains ·))).handle
          (rollBack host (some prev) host.databaseRevision
            (active.filter (restartableApplicationUnits.contains ·)))) linked := by
      refine safe_handle _ (restart_and_wait_standing _ isSwitched) ?_
      intro err failed standing
      refine safe_weaken (roll_back_raised readable fits standing) ?_
      intro out after raised
      cases out with
      | ok res => exact raised.elim
      | error err => exact raised
    refine safe_then handled (fun _ _ raised => raised) ?_
    intro _ restarted standing
    exact write_receipt_standing (standing_weaken standing fun st holds =>
      ⟨holds.1.1, holds.1.2.1, holds.1.2.2, holds.2⟩)

/-- Whatever fails, the link names the previous release or the verified new one; and the activation
is all or nothing exactly if no call fails while nothing brings the previous release back. -/
theorem activation_all_or_nothing {manifest : ReleaseManifest} {start : Deployment}
    {out : Except DeployError Unit} {after : DeployTrial} (linked : start.current = .release prev)
    (readable : host.manifests prev = some manifest)
    (fits : schemaCompatible host manifest host.databaseRevision = .ok true)
    (runs : Runs (attempting (tools host)) 0 (activate host releaseId) (.start start) out after) :
    after.Always (Named host prev releaseId) ∧ (Returns (fun _ => Activated host prev releaseId)
          (fun _ => Untouched prev start.receipt) out after.state ↔
        FailsUntouched host prev releaseId start.receipt after) := by
  have isNamed : Named host prev releaseId start := .inl linked
  have standing : Standing host prev releaseId (Untouched prev start.receipt)
      (.start start) :=
    ⟨by simp [InScope, Trial.start], Trial.always_start isNamed, isNamed, linked, rfl⟩
  have settled := runs_ensured (activate_settled readable fits standing) runs
  have harmless : ∀ trial : DeployTrial, InScope trial →
      FailsUntouched host prev releaseId start.receipt trial :=
    fun trial inScope failure mem => spares_in_scope (inScope failure mem)
  cases out with
  | ok res =>
    have activated : Standing host prev releaseId (Activated host prev releaseId) after :=
      settled
    exact ⟨activated.always, fun _ => harmless _ activated.inScope, fun _ => activated.fact⟩
  | error err =>
    have raised : Raised host prev releaseId start.receipt after := settled
    refine ⟨raised.always, ?_⟩
    rcases raised.ended with ⟨earlier, failure, isFailures, inScope, spared⟩ |
      ⟨inScope, untouched⟩
    · refine spared.symm.trans ⟨?_, fun fails => fails failure (by simp [isFailures])⟩
      intro isSpared other mem
      rw [isFailures] at mem
      rcases List.mem_append.mp mem with isEarlier | isLast
      · exact spares_in_scope (inScope other isEarlier)
      · rw [List.mem_singleton.mp isLast]
        exact isSpared
    · exact ⟨fun _ => harmless _ inScope, fun _ => untouched⟩

end Activation

namespace Sample

def digit (char : Char) : Option Nat :=
  if '0' ≤ char ∧ char ≤ '9' then some (char.toNat - 48) else none

def host : DeploymentHost where
  decimal := digit
  manifests releaseId :=
    if releaseId = "0.12.0" ∨ releaseId = "0.13.0" then
      some ⟨some "0012_operator_sessions", some "0020_probe_observations"⟩
    else none
  databaseRevision := "0014_camera_access"

def start : Deployment where
  current := .release "0.12.0"
  nextLink := none
  receipt := some ⟨"0.12.0", none, "0014_camera_access"⟩
  nextReceipt := none
  verified := []
  active := none
  restarted := none
  healthy := none

def act (st : Deployment) : (req : Call) → Except DeployError (Answer req) × Deployment
  | .verify releaseId => (.ok (), { st with verified := releaseId :: st.verified })
  | .databaseRevision _ => (.ok host.databaseRevision, st)
  | .readManifest releaseId =>
    match host.manifests releaseId with
    | some manifest => (.ok manifest, st)
    | none => (.error (.deploymentError "invalid_release_manifest"), st)
  | .readCurrent => (.ok st.current, st)
  | .activeUnits =>
    (.ok ["rtsp-proxy-web.service"], { st with active := some ["rtsp-proxy-web.service"] })
  | .nextLinkExists _ => (.ok st.nextLink.isSome, st)
  | .unlinkNextLink _ =>
    if st.nextLink.isSome = true then (.ok (), { st with nextLink := none })
    else (.error .other, st)
  | .symlink releaseId =>
    if st.nextLink.isSome = true then (.error .other, st)
    else (.ok (), { st with nextLink := some releaseId })
  | .replaceCurrent _ =>
    match st.nextLink with
    | some releaseId => (.ok (), { st with current := .release releaseId, nextLink := none })
    | none => (.error .other, st)
  | .restartUnits units => (.ok (), { st with restarted := some units, healthy := none })
  | .health => (.ok true, { st with healthy := some true })
  | .writeNextReceipt receipt => (.ok (), { st with nextReceipt := some receipt })
  | .replaceReceipt =>
    match st.nextReceipt with
    | some receipt => (.ok (), { st with receipt := some receipt, nextReceipt := none })
    | none => (.error .other, st)
  | .makeRoot _ => (.ok (), st)
  | .syncRoot _ => (.ok (), st)
  | .sleep => (.ok (), st)
  | .makeReceiptDirectory => (.ok (), st)
  | .chmodNextReceipt => (.ok (), st)
  | .syncReceiptDirectory => (.ok (), st)

theorem act_effect (st : Deployment) (req : Call) :
    Effect host st req (act st req).1 (act st req).2 := by
  cases req with
  | readManifest releaseId =>
    cases found : host.manifests releaseId with
    | some manifest =>
      simp only [act, found]
      exact .manifest found
    | none =>
      simp only [act, found]
      exact .noManifest found
  | unlinkNextLink releaseId =>
    unfold act
    split_ifs with present
    · exact .unlinkNextLink releaseId present
    · exact .nothingToUnlink releaseId (by simpa using present)
  | symlink releaseId =>
    unfold act
    split_ifs with present
    · exact .symlinkExists releaseId present
    · exact .symlink releaseId (by simpa using present)
  | replaceCurrent releaseId =>
    cases next : st.nextLink with
    | some target =>
      simp only [act, next]
      exact .replaceCurrent releaseId next
    | none =>
      simp only [act, next]
      exact .nothingToReplace releaseId next
  | replaceReceipt =>
    cases next : st.nextReceipt with
    | some receipt =>
      simp only [act, next]
      exact .replaceReceipt next
    | none =>
      simp only [act, next]
      exact .noReceiptToReplace next
  | _ => constructor

/-- An activation of release 0.13.0 whose calls fail as the script says. -/
def run (script : List (Option Bool)) : Except DeployError Unit × DeployTrial :=
  execute act (fun _ => .other) (activate host "0.13.0") script (.start start)

theorem run_runs (script : List (Option Bool)) :
    Runs (attempting (tools host)) 0 (activate host "0.13.0") (.start start) (run script).1
      (run script).2 :=
  execute_runs act_effect (fun _ => trivial) _ _ _

/-- The sync of the directory fails after the link was replaced. -/
def unsynced : List (Option Bool) := List.replicate 9 none ++ [some false]

end Sample

open Sample

/-- The link stays at the new release although the activation raised. -/
theorem unsynced_link_stays :
    ∃ (out : Except DeployError Unit) (after : DeployTrial),
      Runs (attempting (tools host)) 0 (activate host "0.13.0") (.start start)
        out after ∧
      out = .error .other ∧ after.state.current = .release "0.13.0" ∧
      ¬ Returns (fun _ => Activated host "0.12.0" "0.13.0")
        (fun _ => Untouched "0.12.0" start.receipt) out after.state := by
  have isOutcome : (run unsynced).1 = .error .other := by decide +kernel
  have isCurrent : (run unsynced).2.state.current = .release "0.13.0" := by
    decide +kernel
  refine ⟨_, _, run_runs unsynced, isOutcome, isCurrent, ?_⟩
  rw [isOutcome]
  rintro ⟨untouched, _⟩
  rw [isCurrent] at untouched
  exact absurd untouched (by decide)

theorem activation_all_or_nothing_healthy :
    (run []).1 = .ok () ∧ (run []).2.Always (Named host "0.12.0" "0.13.0") ∧
      (Returns (fun _ => Activated host "0.12.0" "0.13.0")
          (fun _ => Untouched "0.12.0" start.receipt) (run []).1
          (run []).2.state ↔
        FailsUntouched host "0.12.0" "0.13.0" start.receipt (run []).2) := by
  have fits : schemaCompatible host
      ⟨some "0012_operator_sessions", some "0020_probe_observations"⟩
      host.databaseRevision = .ok true := by
    decide +kernel
  exact ⟨by decide +kernel, activation_all_or_nothing rfl rfl fits (run_runs [])⟩

end RtspProxy.Deploy
