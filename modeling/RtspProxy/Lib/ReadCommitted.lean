import RtspProxy.Lib.Program
import Mathlib.Data.List.Induction

/-!
# Transactions that read what is committed

A server keeps one committed database and runs the transactions of any number of
threads. A statement reads a snapshot: the committed database with the thread's
own writes over it. A row is locked until the transaction ends, and the lock
answers with the row as it is by then, which may be newer than the snapshot.
Writes wait in the transaction until its commit puts all of them into the
database at once; a rollback, or the end of the thread, drops them. Any call may
fail, and the answer of a commit may be lost before or after it took effect.

The trail is the history of the server: every commit with what it reports and
the databases before and after it, and the ends of threads.

A `Discipline` says what a commit has to respect, and what the lock of a key keeps
`still`; facts that survive the others are `Kept`. When every transaction is `Ready`
at its commit, the trail is a `History`, whatever the interleaving.
-/

namespace RtspProxy.Lib.ReadCommitted

open Lib.Program Prog List

/-- How a database is read and written, and which writes its constraints accept. -/
structure Schema (Database Write Key : Type) (Value : Key → Type) where
  read : Database → (key : Key) → Value key
  apply : Database → Write → Database
  accepts : Database → Write → Bool

structure Commit (Database Event : Type) where
  thread : Nat
  /-- The length of the trail when the last statement took its snapshot. -/
  since : Nat
  event : Event
  before : Database
  after : Database

inductive Entry (Database Event : Type)
  | committed (commit : Commit Database Event)
  | ended (tid : Nat)

def Entry.thread {Database Event : Type} : Entry Database Event → Nat
  | .committed commit => commit.thread
  | .ended tid => tid

structure Server (Database Write Key Event : Type) where
  database : Database
  pending : Nat → List Write
  holder : Key → Option Nat
  seen : Nat → Nat
  trail : List (Entry Database Event)

inductive Call (Write Key Event : Type)
  | snapshot
  | lock (key : Key)
  | put (write : Write)
  | clock
  /-- A question to tables that are not modelled. -/
  | consult
  | commit (event : Event)
  | rollback

section Servers

variable {Database Write Key Event Moment Error : Type} {Value : Key → Type}

abbrev Answer (Database Write Key Event Moment : Type) (Value : Key → Type) :
    Call Write Key Event → Type
  | .snapshot => Database
  | .lock key => Value key
  | .put _ => Unit
  | .clock => Moment
  | .consult => Bool
  | .commit _ => Unit
  | .rollback => Unit

/-- What the environment decides about one call. -/
structure Chance (Moment : Type) where
  fault : Fault
  moment : Moment
  verdict : Bool

namespace Server

variable (schema : Schema Database Write Key Value) (srv : Server Database Write Key Event)

def start (db : Database) : Server Database Write Key Event where
  database := db
  pending _ := []
  holder _ := none
  seen _ := 0
  trail := []

def view (tid : Nat) : Database := (srv.pending tid).foldl schema.apply srv.database

def look (tid : Nat) : Server Database Write Key Event :=
  { srv with
    seen := fun other => if other = tid then srv.trail.length else srv.seen other }

def acquire [DecidableEq Key] (tid : Nat) (key : Key) : Server Database Write Key Event :=
  { srv with
    holder := fun other => if other = key then some tid else srv.holder other }

def write (tid : Nat) (write : Write) : Server Database Write Key Event :=
  { srv with
    pending := fun other =>
      if other = tid then srv.pending tid ++ [write] else srv.pending other }

/-- The end of a transaction: its writes and its locks are gone. -/
def release (tid : Nat) : Server Database Write Key Event :=
  { srv with
    pending := fun other => if other = tid then [] else srv.pending other
    holder := fun key => if srv.holder key = some tid then none else srv.holder key }

def record (tid : Nat) (event : Event) : Commit Database Event where
  thread := tid
  since := srv.seen tid
  event := event
  before := srv.database
  after := srv.view schema tid

def commit (tid : Nat) (event : Event) : Server Database Write Key Event :=
  { srv.release tid with
    database := srv.view schema tid
    trail := srv.trail ++ [.committed (srv.record schema tid event)] }

def leave (tid : Nat) : Server Database Write Key Event :=
  { srv.release tid with trail := srv.trail ++ [.ended tid] }

/-- The answer to a call that does not fail; a lock somebody else holds has none yet. -/
def effect [DecidableEq Key] (rejected : Error) (tid : Nat) (chance : Chance Moment) :
    (req : Call Write Key Event) →
      Option (Except Error (Answer Database Write Key Event Moment Value req) ×
        Server Database Write Key Event)
  | .snapshot => some (.ok (srv.view schema tid), srv.look tid)
  | .lock key =>
    if srv.holder key = none ∨ srv.holder key = some tid then
      some (.ok (schema.read (srv.view schema tid) key), srv.acquire tid key)
    else none
  | .put write =>
    if schema.accepts (srv.view schema tid) write = true then
      some (.ok (), srv.write tid write)
    else some (.error rejected, srv)
  | .clock => some (.ok chance.moment, srv)
  | .consult => some (.ok chance.verdict, srv)
  | .commit event => some (.ok (), srv.commit schema tid event)
  | .rollback => some (.ok (), srv.release tid)

def faultOf (req : Call Write Key Event) (fault : Fault) : Fault :=
  match req with
  | .rollback => .none
  | _ => fault

/-- A call may fail before it takes effect, while it waits for a lock, or after it took effect. -/
def perform [DecidableEq Key] (rejected : Error) (tid : Nat) (req : Call Write Key Event)
    (chance : Chance Moment) :
    Option (Except Error (Answer Database Write Key Event Moment Value req) ×
      Server Database Write Key Event) :=
  match faultOf req chance.fault with
  | .before => some (.error rejected, srv)
  | .none => srv.effect schema rejected tid chance req
  | .after => (srv.effect schema rejected tid chance req).map fun res =>
    (.error rejected, res.2)

end Server

/-- Every call is one atomic step of the server; a thread that ends is rolled back. -/
def machine [DecidableEq Key] (schema : Schema Database Write Key Value) (Event Moment : Type)
    (rejected : Error) :
    Machine (Call Write Key Event) (Answer Database Write Key Event Moment Value) Error
      (Server Database Write Key Event) where
  exec tid srv req ans after :=
    ∃ chance : Chance Moment, srv.perform schema rejected tid req chance = some (ans, after)
  leave tid srv := srv.leave tid

abbrev ServerProg (Database Write Key Event Moment : Type) (Value : Key → Type) (Error : Type) :=
  Prog (Call Write Key Event) (Answer Database Write Key Event Moment Value) Error

/-- `with engine.begin()`: the block commits what it reports, and an exception rolls it back. -/
def transaction {Result : Type}
    (body : ServerProg Database Write Key Event Moment Value Error (Result × Event)) :
    ServerProg Database Write Key Event Moment Value Error Result :=
  (body >>= fun out => Prog.ask (.commit out.2) >>= fun _ => pure out.1).handle
    fun error => Prog.ask .rollback >>= fun _ => Prog.raise error

def run (tid : Nat) (trail : List (Entry Database Event)) : List Event :=
  trail.foldl (fun events entry =>
    match entry with
    | .committed commit => if commit.thread = tid then events ++ [commit.event] else events
    | .ended other => if other = tid then [] else events) []

def replay (init : Database) (trail : List (Entry Database Event)) : Database :=
  trail.foldl (fun db entry =>
    match entry with
    | .committed commit => commit.after
    | .ended _ => db) init

variable {tid : Nat}

theorem run_append_others {trail more : List (Entry Database Event)}
    (others : ∀ entry ∈ more, entry.thread ≠ tid) :
    run tid (trail ++ more) = run tid trail := by
  induction more using reverseRecOn with
  | nil => rw [append_nil]
  | append_singleton more entry ih =>
    have inner : run tid (trail ++ more) = run tid trail :=
      ih fun other mem => others other (mem_append_left _ mem)
    have differ : entry.thread ≠ tid := others entry (by simp)
    rw [← inner, ← append_assoc]
    unfold run
    rw [foldl_append]
    cases entry with
    | committed commit => exact if_neg differ
    | ended other => exact if_neg differ

variable {commit : Commit Database Event}

theorem run_committed {trail : List (Entry Database Event)} :
    run commit.thread (trail ++ [.committed commit]) = run commit.thread trail ++ [commit.event] := by
  unfold run
  rw [foldl_append]
  exact if_pos rfl

variable {first last : List (Entry Database Event)}

theorem mem_run (running : Entry.ended commit.thread ∉ last) :
    commit.event ∈ run commit.thread (first ++ .committed commit :: last) := by
  induction last using reverseRecOn with
  | nil =>
    rw [run_committed]
    simp
  | append_singleton last entry ih =>
    rw [mem_append, mem_singleton, not_or] at running
    have inner := ih running.1
    have isAppend : first ++ Entry.committed commit :: (last ++ [entry]) =
        (first ++ .committed commit :: last) ++ [entry] := by simp
    rw [isAppend]
    unfold run at inner ⊢
    rw [foldl_append]
    cases entry with
    | committed other =>
      dsimp only [foldl]
      split_ifs
      · exact mem_append_left _ inner
      · exact inner
    | ended other =>
      have differ : other ≠ commit.thread := fun same => running.2 (same ▸ rfl)
      dsimp only [foldl]
      rw [if_neg differ]
      exact inner

theorem split_append_singleton {Item : Type} {items first last : List Item} {item added : Item}
    (split : items ++ [added] = first ++ item :: last) :
    (last = [] ∧ item = added ∧ first = items) ∨
      ∃ rest, last = rest ++ [added] ∧ items = first ++ item :: rest := by
  rcases eq_nil_or_concat last with rfl | ⟨rest, final, rfl⟩
  · obtain ⟨sameItems, sameItem⟩ := append_inj' split rfl
    exact .inl ⟨rfl, (singleton_inj.mp sameItem).symm, sameItems.symm⟩
  · have isAppend : items ++ [added] = (first ++ item :: rest) ++ [final] := by
      rw [split]
      simp
    obtain ⟨sameItems, sameItem⟩ := append_inj' isAppend rfl
    rw [singleton_inj.mp sameItem]
    exact .inr ⟨rest, by simp, sameItems⟩

theorem foldl_written {Row : Type} (apply : Database → Write → Database)
    (get : Database → Option Row) (written : Write → Option Row) (put : Row → Write)
    (one : ∀ db write, get (apply db write) = (written write).or (get db))
    (puts : ∀ write row, written write = some row ↔ write = put row)
    (writes : List Write) (db : Database) :
    (∃ row, put row ∈ writes ∧ get (writes.foldl apply db) = some row) ∨
    ((∀ row, put row ∉ writes) ∧ get (writes.foldl apply db) = get db) := by
  induction writes generalizing db with
  | nil => exact .inr ⟨by simp, rfl⟩
  | cons write rest ih =>
    rw [foldl_cons]
    rcases ih (apply db write) with ⟨row, mem, found⟩ | ⟨absent, found⟩
    · exact .inl ⟨row, mem_cons_of_mem _ mem, found⟩
    · rw [found, one]
      cases isWritten : written write with
      | none =>
        refine .inr ⟨fun row mem => ?_, rfl⟩
        rcases mem_cons.mp mem with same | later
        · rw [(puts write row).mpr same.symm] at isWritten
          cases isWritten
        · exact absent row later
      | some row =>
        exact .inl ⟨row, (puts write row).mp isWritten ▸ mem_cons_self, rfl⟩

/-- What commits respect, and what a lock keeps still. -/
structure Discipline (Database Key Event : Type) where
  step : List (Entry Database Event) → Commit Database Event → Prop
  still : Key → Database → Database → Prop
  advances : Database → Database → Prop
  still_refl : ∀ key db, still key db db
  advances_refl : ∀ db, advances db db
  step_advances : ∀ trail commit, step trail commit → advances commit.before commit.after

/-- Trails in which every commit starts from the database the last one left and respects the
discipline. -/
inductive History (disc : Discipline Database Key Event) (init : Database) :
    List (Entry Database Event) → Database → Prop
  | start : History disc init [] init
  | committed {trail : List (Entry Database Event)} {commit : Commit Database Event}
      (earlier : History disc init trail commit.before)
      (respects : disc.step trail commit) :
      History disc init (trail ++ [.committed commit]) commit.after
  | ended {trail : List (Entry Database Event)} {db : Database} (tid : Nat)
      (earlier : History disc init trail db) :
      History disc init (trail ++ [.ended tid]) db

section Histories

variable {disc : Discipline Database Key Event} {init db : Database}
  {trail : List (Entry Database Event)}

theorem history_replay (hist : History disc init trail db) :
    replay init trail = db := by
  induction hist with
  | start => rfl
  | committed earlier respects ih =>
    unfold replay
    rw [foldl_append]
    rfl
  | ended tid earlier ih =>
    unfold replay at ih ⊢
    rw [foldl_append]
    exact ih

theorem history_earlier (hist : History disc init (first ++ last) db) :
    History disc init first (replay init first) := by
  induction last using reverseRecOn generalizing db with
  | nil =>
    rw [append_nil] at hist
    rw [history_replay hist]
    exact hist
  | append_singleton last entry ih =>
    rw [← append_assoc] at hist
    generalize isTrail : first ++ last ++ [entry] = whole at hist
    cases hist with
    | start => simp at isTrail
    | committed earlier respects =>
      rw [← (append_inj' isTrail rfl).1] at earlier
      exact ih earlier
    | ended tid earlier =>
      rw [← (append_inj' isTrail rfl).1] at earlier
      exact ih earlier

theorem history_step
    (hist : History disc init (first ++ .committed commit :: last) db) :
    History disc init first commit.before ∧ disc.step first commit := by
  have isAppend : first ++ Entry.committed commit :: last =
      (first ++ [.committed commit]) ++ last := by simp
  rw [isAppend] at hist
  have upTo := history_earlier hist
  generalize isTrail : first ++ [Entry.committed commit] = whole at upTo
  generalize replay init whole = reached at upTo
  cases upTo with
  | start => simp at isTrail
  | committed earlier respects =>
    obtain ⟨sameTrail, sameEntry⟩ := append_inj' isTrail rfl
    cases singleton_inj.mp sameEntry
    rw [sameTrail]
    exact ⟨earlier, respects⟩
  | ended tid earlier =>
    have sameEntry := singleton_inj.mp (append_inj' isTrail rfl).2
    cases sameEntry

theorem history_after
    (hist : History disc init (first ++ .committed commit :: last) db) :
    History disc init (first ++ [.committed commit]) commit.after := by
  obtain ⟨earlier, respects⟩ := history_step hist
  exact .committed earlier respects

end Histories

variable (disc : Discipline Database Key Event)

/-- What a thread sees of other threads and of its own calls inside a transaction. -/
structure Near (tid : Nat) (before after : Server Database Write Key Event) : Prop where
  held : ∀ key, before.holder key = some tid → after.holder key = some tid
  still : ∀ key, before.holder key = some tid →
    disc.still key before.database after.database
  advances : disc.advances before.database after.database
  trail : ∃ more, after.trail = before.trail ++ more ∧ ∀ entry ∈ more, entry.thread ≠ tid

/-- Facts a thread can rely on until its transaction ends. -/
def Kept (tid : Nat) (fact : Server Database Write Key Event → Prop) : Prop :=
  ∀ pre after, Near disc tid pre after → fact pre → fact after

/-- A transaction in progress: its writes, what its last statement saw and what it relies on. -/
structure Holds (tid : Nat) (writes : List Write) (since : Nat)
    (fact : Server Database Write Key Event → Prop) (srv : Server Database Write Key Event) :
    Prop where
  pending : srv.pending tid = writes
  seen : srv.seen tid = since
  fact : fact srv

variable {disc}

variable {after : Server Database Write Key Event}

theorem near_same {pre : Server Database Write Key Event}
    (held : ∀ key, pre.holder key = some tid → after.holder key = some tid)
    (sameDatabase : after.database = pre.database) (sameTrail : after.trail = pre.trail) :
    Near disc tid pre after where
  held := held
  still key _ := by
    rw [sameDatabase]
    exact disc.still_refl key pre.database
  advances := by
    rw [sameDatabase]
    exact disc.advances_refl pre.database
  trail := ⟨[], by rw [sameTrail, append_nil], by simp⟩

variable {srv : Server Database Write Key Event}

theorem holds_idle (idle : srv.pending tid = []) :
    Holds tid [] (srv.seen tid) (fun _ => True) srv :=
  ⟨idle, rfl, trivial⟩

section Kept

variable {tid : Nat} {fact further : Server Database Write Key Event → Prop}

theorem kept_and (first : Kept disc tid fact) (second : Kept disc tid further) :
    Kept disc tid fun srv => fact srv ∧ further srv := by
  intro pre after near both
  exact ⟨first pre after near both.1, second pre after near both.2⟩

theorem kept_true : Kept disc tid fun _ : Server Database Write Key Event => True :=
  fun _ _ _ _ => trivial

theorem kept_run {events : List Event} :
    Kept disc tid fun srv : Server Database Write Key Event =>
      run tid srv.trail = events := by
  intro pre after near isRun
  obtain ⟨more, grown, others⟩ := near.trail
  rw [grown, run_append_others others]
  exact isRun

theorem kept_replay {init : Database} {length : Nat} {db : Database} :
    Kept disc tid fun srv : Server Database Write Key Event =>
      length ≤ srv.trail.length ∧ replay init (srv.trail.take length) = db := by
  intro pre after near seen
  obtain ⟨more, grown, _⟩ := near.trail
  rw [grown, take_append_of_le_length seen.1, length_append]
  exact ⟨Nat.le_add_right_of_le seen.1, seen.2⟩

end Kept

variable (disc) (schema : Schema Database Write Key Value)

/-- The server when a thread may make a call: only a commit has to respect something. -/
def Permitted (tid : Nat) (srv : Server Database Write Key Event) :
    Call Write Key Event → Prop
  | .commit event => disc.step srv.trail (srv.record schema tid event) ∧
      ∀ key, srv.holder key ≠ some tid →
        disc.still key srv.database (srv.view schema tid)
  | _ => True

/-- What a call of one thread may look like to the others. -/
def Effect (actor : Nat) (pre after : Server Database Write Key Event) : Prop :=
  ∀ tid, tid ≠ actor → Near disc tid pre after ∧
    after.pending tid = pre.pending tid ∧ after.seen tid = pre.seen tid

variable {disc schema}

variable {actor : Nat}

theorem effect_refl : Effect disc actor srv srv :=
  fun _ _ => ⟨near_same (fun _ => id) rfl rfl, rfl, rfl⟩

theorem effect_look : Effect disc actor srv (srv.look actor) :=
  fun _ differ => ⟨near_same (fun _ => id) rfl rfl, rfl, if_neg differ⟩

theorem effect_write {write : Write} : Effect disc actor srv (srv.write actor write) :=
  fun _ differ => ⟨near_same (fun _ => id) rfl rfl, if_neg differ, rfl⟩

variable {key : Key}

theorem effect_acquire [DecidableEq Key]
    (free : srv.holder key = none ∨ srv.holder key = some actor) :
    Effect disc actor srv (srv.acquire actor key) := by
  intro tid differ
  refine ⟨near_same ?_ rfl rfl, rfl, rfl⟩
  intro other isHeld
  have otherKey : other ≠ key := by
    rintro rfl
    rcases free with isFree | own
    · rw [isFree] at isHeld
      cases isHeld
    · rw [own] at isHeld
      exact differ (Option.some.inj isHeld).symm
  exact (if_neg otherKey).trans isHeld

theorem release_held (differ : tid ≠ actor) (isHeld : srv.holder key = some tid) :
    (srv.release actor).holder key = some tid := by
  have notOwn : srv.holder key ≠ some actor := by
    rw [isHeld]
    exact fun same => differ (Option.some.inj same)
  exact (if_neg notOwn).trans isHeld

theorem effect_release : Effect disc actor srv (srv.release actor) :=
  fun _ differ =>
    ⟨near_same (fun _ => release_held differ) rfl rfl, if_neg differ, rfl⟩

theorem effect_leave : Effect disc actor srv (srv.leave actor) := by
  intro tid differ
  refine ⟨?_, if_neg differ, rfl⟩
  exact
    { held := fun _ => release_held differ
      still := fun key _ => disc.still_refl key srv.database
      advances := disc.advances_refl srv.database
      trail := ⟨[.ended actor], rfl, by simpa [Entry.thread] using differ.symm⟩ }

theorem effect_commit {event : Event}
    (permitted : Permitted disc schema actor srv (.commit event)) :
    Effect disc actor srv (srv.commit schema actor event) := by
  intro tid differ
  refine ⟨?_, if_neg differ, rfl⟩
  exact
    { held := fun _ => release_held differ
      still := fun key isHeld => permitted.2 key (by
        rw [isHeld]
        exact fun same => differ (Option.some.inj same))
      advances := disc.step_advances _ _ permitted.1
      trail := ⟨[.committed (srv.record schema actor event)], rfl, by
        simpa [Entry.thread, Server.record] using differ.symm⟩ }

variable [DecidableEq Key] {rejected : Error}

variable {req : Call Write Key Event}

variable {chance : Chance Moment}

variable {ans : Except Error (Answer Database Write Key Event Moment Value req)}

theorem effect_inside (notCommit : ∀ event, req ≠ .commit event)
    (isEffect : srv.effect schema rejected tid chance req = some (ans, after)) :
    after.database = srv.database ∧ after.trail = srv.trail ∧
      Effect disc tid srv after := by
  cases req with
  | snapshot =>
    cases isEffect
    exact ⟨rfl, rfl, effect_look⟩
  | lock key =>
    dsimp only [Server.effect] at isEffect
    split at isEffect
    · rename_i free
      cases isEffect
      exact ⟨rfl, rfl, effect_acquire free⟩
    · cases isEffect
  | put write =>
    dsimp only [Server.effect] at isEffect
    split at isEffect
    · cases isEffect
      exact ⟨rfl, rfl, effect_write⟩
    · cases isEffect
      exact ⟨rfl, rfl, effect_refl⟩
  | clock =>
    cases isEffect
    exact ⟨rfl, rfl, effect_refl⟩
  | consult =>
    cases isEffect
    exact ⟨rfl, rfl, effect_refl⟩
  | commit event => exact absurd rfl (notCommit event)
  | rollback =>
    cases isEffect
    exact ⟨rfl, rfl, effect_release⟩

theorem perform_inside (notCommit : ∀ event, req ≠ .commit event)
    (acted : srv.perform schema rejected tid req chance = some (ans, after)) :
    after.database = srv.database ∧ after.trail = srv.trail ∧
      Effect disc tid srv after := by
  unfold Server.perform at acted
  split at acted
  · cases acted
    exact ⟨rfl, rfl, effect_refl⟩
  · exact effect_inside notCommit acted
  · obtain ⟨⟨given, changed⟩, isEffect, struck⟩ := Option.map_eq_some_iff.mp acted
    cases struck
    exact effect_inside notCommit isEffect

theorem perform_commit {event : Event} {ans : Except Error Unit}
    (acted : srv.perform schema rejected tid (.commit event) chance = some (ans, after)) :
    after = srv.commit schema tid event ∨ (ans = .error rejected ∧ after = srv) := by
  unfold Server.perform at acted
  split at acted
  · cases acted
    exact .inr ⟨rfl, rfl⟩
  · cases acted
    exact .inl rfl
  · cases acted
    exact .inl rfl

variable (disc schema Moment rejected)

/-- Locks, the trail and the permission to commit, as a contract between the threads. -/
def protocol (init : Database) :
    Protocol (machine schema Event Moment rejected) where
  invariant srv := History disc init srv.trail srv.database
  effect := Effect disc
  permitted := Permitted disc schema
  sound := by
    rintro tid srv req ans after hist permitted ⟨chance, acted⟩
    by_cases isCommit : ∃ event, req = .commit event
    · obtain ⟨event, rfl⟩ := isCommit
      rcases perform_commit acted with rfl | ⟨_, rfl⟩
      · exact ⟨.committed hist permitted.1, effect_commit permitted⟩
      · exact ⟨hist, effect_refl⟩
    · have inside : after.database = srv.database ∧ after.trail = srv.trail ∧
          Effect disc tid srv after :=
        perform_inside (fun event isRequest => isCommit ⟨event, isRequest⟩) acted
      rw [inside.1, inside.2.1]
      exact ⟨hist, inside.2.2⟩
  leaves tid srv hist := ⟨.ended tid hist, effect_leave⟩

/-- A transaction may commit this event whatever the others do, and then `post` holds. -/
def Ready (tid : Nat) (event : Event) (post : Server Database Write Key Event → Prop)
    (init : Database) (srv : Server Database Write Key Event) : Prop :=
  ∃ writes since fact, Kept disc tid fact ∧ Holds tid writes since fact srv ∧
    ∀ cur, History disc init cur.trail cur.database → Holds tid writes since fact cur →
      Permitted disc schema tid cur (.commit event) ∧ post (cur.commit schema tid event)

/-- A part of a transaction: safe among the others, with what it returns; exceptions end it. -/
abbrev SafeInside {Result : Type} (init : Database) (tid : Nat)
    (ret : Result → Server Database Write Key Event → Prop)
    (prog : ServerProg Database Write Key Event Moment Value Error Result)
    (srv : Server Database Write Key Event) : Prop :=
  SafeAmong (protocol Moment disc schema rejected init) tid
    (Returns ret fun _ _ => True) prog srv

variable {disc schema Moment rejected}

section Rules

variable {init : Database} {tid since : Nat} {writes : List Write}
  {fact : Server Database Write Key Event → Prop} {srv : Server Database Write Key Event}

theorem holds_stable (kept : Kept disc tid fact) :
    Stable (protocol Moment disc schema rejected init) tid
      (Holds tid writes since fact) := by
  rintro pre after _ _ ⟨actor, differ, effect⟩ holds
  obtain ⟨near, samePending, sameSeen⟩ := effect tid differ.symm
  exact ⟨samePending.trans holds.pending, sameSeen.trans holds.seen, kept pre after near holds.fact⟩

variable {Result : Type} {ret : Result → Server Database Write Key Event → Prop}

variable (kept : Kept disc tid fact)

include kept

variable (holds : Holds tid writes since fact srv)

include holds

theorem bind_snapshot
    {next : Database → ServerProg Database Write Key Event Moment Value Error Result}
    (continues : ∀ after, History disc init after.trail after.database →
      Holds tid writes after.trail.length fact after →
      SafeInside Moment disc schema rejected init tid ret
        (next (after.view schema tid)) after) :
    SafeInside Moment disc schema rejected init tid ret
      (Prog.ask (Call.snapshot : Call Write Key Event) >>= next) srv := by
  have asked : SafeAmong (protocol Moment disc schema rejected init) tid
      (Returns (fun db after => db = after.view schema tid ∧
        History disc init after.trail after.database ∧
        Holds tid writes after.trail.length fact after) fun _ _ => True)
      (Prog.ask (Call.snapshot : Call Write Key Event)) srv := by
    refine safe_ask (holds_stable kept) holds (fun _ _ _ => trivial) ?_
    rintro cur ans after hist still ⟨chance, acted⟩
    unfold Server.perform at acted
    split at acted
    · cases acted
      trivial
    · cases acted
      exact ⟨rfl, hist, still.pending, if_pos rfl,
        kept cur _ (near_same (fun _ => id) rfl rfl) still.fact⟩
    · cases acted
      trivial
  refine safe_then asked (fun _ _ _ => trivial) ?_
  rintro db after ⟨rfl, hist, still⟩
  exact continues after hist still

theorem bind_lock {next : Value key → ServerProg Database Write Key Event Moment Value Error Result}
    (continues : ∀ after, Holds tid writes since fact after → after.holder key = some tid →
      SafeInside Moment disc schema rejected init tid ret
        (next (schema.read (after.view schema tid) key)) after) :
    SafeInside Moment disc schema rejected init tid ret
      (Prog.ask (Call.lock key : Call Write Key Event) >>= next) srv := by
  have asked : SafeAmong (protocol Moment disc schema rejected init) tid
      (Returns (fun value after => value = schema.read (after.view schema tid) key ∧
        Holds tid writes since fact after ∧ after.holder key = some tid) fun _ _ => True)
      (Prog.ask (Call.lock key : Call Write Key Event)) srv := by
    refine safe_ask (holds_stable kept) holds (fun _ _ _ => trivial) ?_
    rintro cur ans after _ still ⟨chance, acted⟩
    unfold Server.perform at acted
    split at acted
    · cases acted
      trivial
    · dsimp only [Server.effect] at acted
      split at acted
      · cases acted
        refine ⟨rfl, ⟨still.pending, still.seen, kept cur _ (near_same ?_ rfl rfl) still.fact⟩,
          if_pos rfl⟩
        intro other isHeld
        dsimp only [Server.acquire]
        split_ifs
        · rfl
        · exact isHeld
      · cases acted
    · obtain ⟨res, _, struck⟩ := Option.map_eq_some_iff.mp acted
      cases struck
      trivial
  refine safe_then asked (fun _ _ _ => trivial) ?_
  rintro value after ⟨rfl, still, isHeld⟩
  exact continues after still isHeld

theorem bind_put {write : Write}
    {next : Unit → ServerProg Database Write Key Event Moment Value Error Result}
    (continues : ∀ after, Holds tid (writes ++ [write]) since fact after →
      SafeInside Moment disc schema rejected init tid ret (next ()) after) :
    SafeInside Moment disc schema rejected init tid ret
      (Prog.ask (.put write) >>= next) srv := by
  have asked : SafeAmong (protocol Moment disc schema rejected init) tid
      (Returns (fun _ after => Holds tid (writes ++ [write]) since fact after) fun _ _ => True)
      (Prog.ask (.put write)) srv := by
    refine safe_ask (holds_stable kept) holds (fun _ _ _ => trivial) ?_
    rintro cur ans after _ still ⟨chance, acted⟩
    unfold Server.perform at acted
    split at acted
    · cases acted
      trivial
    · dsimp only [Server.effect] at acted
      split at acted
      · cases acted
        refine ⟨?_, still.seen, kept cur _ (near_same (fun _ => id) rfl rfl) still.fact⟩
        rw [← still.pending]
        exact if_pos rfl
      · cases acted
        trivial
    · obtain ⟨res, _, struck⟩ := Option.map_eq_some_iff.mp acted
      cases struck
      trivial
  refine safe_then asked (fun _ _ _ => trivial) ?_
  intro _ after still
  exact continues after still

theorem bind_outside (outside : req = .clock ∨ req = .consult)
    {next : Answer Database Write Key Event Moment Value req →
      ServerProg Database Write Key Event Moment Value Error Result}
    (continues : ∀ ans after, Holds tid writes since fact after →
      SafeInside Moment disc schema rejected init tid ret (next ans) after) :
    SafeInside Moment disc schema rejected init tid ret
      (Prog.ask req >>= next) srv := by
  have asked : SafeAmong (protocol Moment disc schema rejected init) tid
      (Returns (fun _ after => Holds tid writes since fact after) fun _ _ => True)
      (Prog.ask req) srv := by
    refine safe_ask (holds_stable kept) holds ?_ ?_
    · intro _ _ _
      rcases outside with rfl | rfl
      · trivial
      · trivial
    · rintro cur ans after _ still ⟨chance, acted⟩
      unfold Server.perform at acted
      split at acted
      · cases acted
        trivial
      · rcases outside with rfl | rfl
        · cases acted
          exact still
        · cases acted
          exact still
      · obtain ⟨res, _, struck⟩ := Option.map_eq_some_iff.mp acted
        cases struck
        trivial
  exact safe_then asked (fun _ _ _ => trivial) continues

omit holds

omit kept

theorem safe_transaction {post : Result → Server Database Write Key Event → Prop}
    {body : ServerProg Database Write Key Event Moment Value Error (Result × Event)}
    (ready : SafeAmong (protocol Moment disc schema rejected init) tid
      (Returns (fun out => Ready disc schema tid out.2 (post out.1) init)
        fun _ _ => True) body srv) :
    SafeAmong (protocol Moment disc schema rejected init) tid
      (Returns (fun res after => after.pending tid = [] ∧ post res after)
        fun _ after => after.pending tid = [])
      (transaction body) srv := by
  refine safe_handle (fun _ _ => True) ?_ ?_
  · refine safe_then ready (fun _ _ _ => trivial) ?_
    rintro ⟨res, event⟩ middle ⟨writes, since, fact, kept, holds, commits⟩
    have asked : SafeAmong (protocol Moment disc schema rejected init) tid
        (Returns (fun _ after => after.pending tid = [] ∧ post res after) fun _ _ => True)
        (Prog.ask (.commit event)) middle := by
      refine safe_ask (holds_stable kept) holds ?_ ?_
      · intro cur hist still
        exact (commits cur hist still).1
      · rintro cur ans after hist still ⟨chance, acted⟩
        rcases perform_commit acted with rfl | ⟨rfl, _⟩
        · cases ans with
          | ok _ => exact ⟨if_pos rfl, (commits cur hist still).2⟩
          | error _ => trivial
        · trivial
    refine safe_then asked (fun _ _ _ => trivial) ?_
    intro _ after committed
    exact safe_pure committed
  · intro error middle _
    have asked : SafeAmong (protocol Moment disc schema rejected init) tid
        (Returns (fun _ after => after.pending tid = []) fun _ after =>
          after.pending tid = [])
        (Prog.ask .rollback) middle := by
      have anything : Stable (protocol Moment disc schema rejected init) tid
          (fun _ => True) := fun _ _ _ _ _ _ => trivial
      refine safe_ask anything trivial (fun _ _ _ => trivial) ?_
      rintro cur ans after _ _ ⟨chance, acted⟩
      cases acted
      exact if_pos rfl
    refine safe_then asked (fun _ _ dropped => dropped) ?_
    intro _ after dropped
    exact safe_raise dropped

end Rules

end Servers

end RtspProxy.Lib.ReadCommitted
