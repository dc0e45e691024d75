import Mathlib.Data.List.Sort
import Mathlib.Tactic.Common

/-!
# Records in the order of a key

`inOrder` is `ORDER BY key`, `beyond` the records after a cursor. On records
with distinct keys the order is strict, a record stands behind exactly those
with smaller keys, and reading a page and moving the cursor to its last record
drops the page from what is beyond.
-/

namespace RtspProxy.Lib.Keyset

open List

variable {Record Key : Type} [LinearOrder Key] (key : Record → Key)

/-- `ORDER BY key`. -/
def inOrder (records : List Record) : List Record :=
  records.insertionSort fun left right => key left ≤ key right

def After (cursor : Option Key) (reached : Key) : Prop := ∀ passed ∈ cursor, passed < reached

instance (cursor : Option Key) (reached : Key) : Decidable (After cursor reached) :=
  inferInstanceAs (Decidable (∀ passed ∈ cursor, passed < reached))

def beyond (cursor : Option Key) (records : List Record) : List Record :=
  inOrder key (records.filter fun rec => After cursor (key rec))

variable {key}

variable {records : List Record} {rec : Record}

theorem mem_in_order :
    rec ∈ inOrder key records ↔ rec ∈ records :=
  mem_insertionSort _

theorem length_in_order (records : List Record) : (inOrder key records).length = records.length :=
  length_insertionSort _ _

theorem perm_in_order (records : List Record) : (inOrder key records).Perm records :=
  perm_insertionSort _ _

theorem in_order_strict (distinct : (records.map key).Nodup) :
    (inOrder key records).Pairwise fun left right => key left < key right := by
  have total : Std.Total fun left right : Record => key left ≤ key right :=
    ⟨fun left right => le_total (key left) (key right)⟩
  have transitive : IsTrans Record fun left right => key left ≤ key right :=
    ⟨fun _ _ _ => le_trans⟩
  have sorted := pairwise_insertionSort (fun left right => key left ≤ key right) records
  have differ : (inOrder key records).Pairwise fun left right => key left ≠ key right := by
    have nodup : ((inOrder key records).map key).Nodup :=
      ((perm_in_order records).map key).nodup_iff.mpr distinct
    exact pairwise_map.mp nodup
  apply (sorted.and differ).imp
  intro left right both
  exact lt_of_le_of_ne both.1 both.2

variable {cursor : Option Key}

theorem mem_beyond :
    rec ∈ beyond key cursor records ↔ rec ∈ records ∧ After cursor (key rec) := by
  unfold beyond
  rw [mem_in_order, mem_filter, decide_eq_true_iff]

theorem length_beyond (cursor : Option Key) (records : List Record) :
    (beyond key cursor records).length = records.countP fun rec => After cursor (key rec) := by
  unfold beyond
  rw [length_in_order, countP_eq_length_filter]

theorem beyond_strict (distinct : (records.map key).Nodup) :
    (beyond key cursor records).Pairwise fun left right => key left < key right :=
  in_order_strict (distinct.sublist (filter_sublist.map key))

theorem count_before {pre post : List Record}
    (strict : (pre ++ rec :: post).Pairwise fun left right => key left < key right) :
    (pre ++ rec :: post).countP (fun other => key other < key rec) = pre.length := by
  rw [pairwise_append, pairwise_cons] at strict
  have smaller : pre.countP (fun other => key other < key rec) = pre.length := by
    rw [countP_eq_length]
    intro other mem
    exact decide_eq_true (strict.2.2 other mem rec mem_cons_self)
  have larger : post.countP (fun other => key other < key rec) = 0 := by
    rw [countP_eq_zero]
    intro other mem
    have less := strict.2.1.1 other mem
    simpa using less.le
  simp [smaller, larger]

theorem strict_ext {first second : List Record}
    (firstStrict : first.Pairwise fun left right => key left < key right)
    (secondStrict : second.Pairwise fun left right => key left < key right)
    (same : ∀ rec, rec ∈ first ↔ rec ∈ second) : first = second := by
  have asymmetric : Std.Antisymm fun left right : Record => key left < key right :=
    ⟨fun _ _ less greater => (lt_asymm less greater).elim⟩
  have irreflexive : Std.Irrefl fun left right : Record => key left < key right :=
    ⟨fun rec => lt_irrefl (key rec)⟩
  exact firstStrict.eq_of_mem_iff secondStrict same

theorem beyond_advance {limit : Nat} {last : Record} (distinct : (records.map key).Nodup)
    (isLast : ((beyond key cursor records).take limit).getLast? = some last) :
    beyond key (some (key last)) records = (beyond key cursor records).drop limit := by
  obtain ⟨front, isFront⟩ : ∃ front, (beyond key cursor records).take limit = front ++ [last] :=
    getLast?_eq_some_iff.mp isLast
  have whole : front ++ [last] ++ (beyond key cursor records).drop limit =
      beyond key cursor records := by
    rw [← isFront, take_append_drop]
  have strict : (beyond key cursor records).Pairwise fun left right => key left < key right :=
    beyond_strict distinct
  have parts := strict
  rw [← whole, pairwise_append, pairwise_append] at parts
  obtain ⟨⟨_, _, frontSmaller⟩, dropStrict, dropLarger⟩ := parts
  apply strict_ext (beyond_strict distinct) dropStrict
  intro rec
  rw [mem_beyond]
  constructor
  · intro found
    have larger : key last < key rec := found.2 _ rfl
    have lastMember : last ∈ beyond key cursor records := by
      rw [← whole]
      simp
    have mem : rec ∈ beyond key cursor records := by
      refine mem_beyond.mpr ⟨found.1, ?_⟩
      intro passed isCursor
      exact ((mem_beyond.mp lastMember).2 passed isCursor).trans larger
    rw [← whole, mem_append, mem_append] at mem
    rcases mem with (inFront | isLastRecord) | inDrop
    · have smaller := frontSmaller rec inFront last mem_cons_self
      exact (lt_asymm larger smaller).elim
    · rw [mem_singleton.mp isLastRecord] at larger
      exact (lt_irrefl _ larger).elim
    · exact inDrop
  · intro inDrop
    refine ⟨(mem_beyond.mp (mem_of_mem_drop inDrop)).1, ?_⟩
    intro passed isLastKey
    cases isLastKey
    exact dropLarger last (by simp) rec inDrop

variable (key)

/-- The next page and the cursor after it. A scan that finds nothing beyond its cursor starts over. -/
def nextPage (limit : Nat) (cursor : Option Key) (records : List Record) :
    List Record × Option Key :=
  let rows := (beyond key cursor records).take limit
  let start := if rows = [] then none else cursor
  let rows := if rows = [] then (beyond key none records).take limit else rows
  (rows, (rows.getLast?.map key).or start)

/-- At most `pages` further pages end with the one that holds the record. -/
inductive Due (limit pages : Nat) (cursor : Option Key) (records : List Record) (wanted : Record) :
    Prop
  | ahead (post : After cursor (key wanted))
      (short : records.countP (fun rec => After cursor (key rec) ∧ key rec < key wanted) <
        pages * limit)
  | behind (passed : ¬After cursor (key wanted)) (first second : Nat)
      (within : first + second ≤ pages)
      (left : records.countP (fun rec => After cursor (key rec)) ≤ first * limit)
      (whole : records.length ≤ second * limit)

variable {key} {limit pages : Nat} {cursor : Option Key} {records : List Record} {wanted : Record}

theorem count_beyond :
    (beyond key cursor records).countP (fun rec => key rec < key wanted) =
      records.countP fun rec => After cursor (key rec) ∧ key rec < key wanted := by
  unfold beyond
  rw [(perm_in_order _).countP_eq, countP_filter]
  apply countP_congr
  intro rec _
  simp [and_comm]

theorem count_of_split {front rest : List Record} (distinct : (records.map key).Nodup)
    (split : beyond key cursor records = front ++ wanted :: rest) :
    records.countP (fun rec => After cursor (key rec) ∧ key rec < key wanted) =
      front.length := by
  have strict : (beyond key cursor records).Pairwise fun left right => key left < key right :=
    beyond_strict distinct
  rw [split] at strict
  rw [← count_before strict, ← split, count_beyond]

theorem take_ne_nil (pos : 0 < limit) {rows : List Record} (some : rows ≠ []) :
    rows.take limit ≠ [] := by
  intro isNil
  rcases take_eq_nil_iff.mp isNil with isZero | isEmpty
  · omega
  · exact some isEmpty

theorem next_page_some (pos : 0 < limit) (some : beyond key cursor records ≠ []) :
    ∃ last, ((beyond key cursor records).take limit).getLast? = .some last ∧
      nextPage key limit cursor records =
        ((beyond key cursor records).take limit, .some (key last)) := by
  have rows := take_ne_nil pos some
  refine ⟨_, getLast?_eq_some_getLast rows, ?_⟩
  simp only [nextPage, if_neg rows, getLast?_eq_some_getLast rows]
  rfl

theorem next_page_wraps (none : beyond key cursor records = []) :
    nextPage key limit cursor records = nextPage key limit .none records := by
  simp [nextPage, none]

theorem mem_of_mem_page (onPage : wanted ∈ (nextPage key limit cursor records).1) :
    wanted ∈ records := by
  simp only [nextPage] at onPage
  split_ifs at onPage
  · exact (mem_beyond.mp (mem_of_mem_take onPage)).1
  · exact (mem_beyond.mp (mem_of_mem_take onPage)).1

theorem passed_of_some (pos : 0 < limit) (distinct : (records.map key).Nodup)
    (some : beyond key cursor records ≠ [])
    (onPage : wanted ∈ (nextPage key limit cursor records).1) :
    ¬After (nextPage key limit cursor records).2 (key wanted) := by
  obtain ⟨last, isLast, isNext⟩ := next_page_some pos some
  rw [isNext] at onPage ⊢
  intro post
  have mem := (mem_beyond.mp (mem_of_mem_take onPage)).1
  have inDrop : wanted ∈ (beyond key cursor records).drop limit := by
    rw [← beyond_advance distinct isLast]
    exact mem_beyond.mpr ⟨mem, post⟩
  have nodup : (beyond key cursor records).Nodup := by
    apply (beyond_strict distinct).imp
    intro left right less same
    exact less.ne (congrArg key same)
  exact disjoint_take_drop nodup le_rfl onPage inDrop

theorem page_passed (pos : 0 < limit) (distinct : (records.map key).Nodup)
    (onPage : wanted ∈ (nextPage key limit cursor records).1) :
    ¬After (nextPage key limit cursor records).2 (key wanted) := by
  by_cases exhausted : beyond key cursor records = []
  · rw [next_page_wraps exhausted] at onPage ⊢
    by_cases empty : beyond key none records = []
    · simp [nextPage, empty] at onPage
    · exact passed_of_some pos distinct empty onPage
  · exact passed_of_some pos distinct exhausted onPage

theorem count_lt_length (mem : wanted ∈ records) :
    records.countP (fun rec => After cursor (key rec) ∧ key rec < key wanted) <
      records.length := by
  apply lt_of_le_of_ne countP_le_length
  intro all
  have isSmaller := countP_eq_length.mp all wanted mem
  exact lt_irrefl _ (of_decide_eq_true isSmaller).2

theorem ahead_next (pos : 0 < limit) (distinct : (records.map key).Nodup)
    (mem : wanted ∈ records) (post : After cursor (key wanted))
    (short : records.countP (fun rec => After cursor (key rec) ∧ key rec < key wanted) <
      (pages + 1) * limit) :
    wanted ∈ (nextPage key limit cursor records).1 ∨
      Due key limit pages (nextPage key limit cursor records).2 records wanted := by
  obtain ⟨front, rest, split⟩ := append_of_mem (mem_beyond.mpr ⟨mem, post⟩)
  rw [count_of_split distinct split] at short
  have some : beyond key cursor records ≠ [] := ne_nil_of_mem (mem_beyond.mpr ⟨mem, post⟩)
  obtain ⟨last, isLast, isNext⟩ := next_page_some pos some
  rw [isNext]
  by_cases onPage : front.length < limit
  · left
    rw [split, take_append, mem_append]
    right
    obtain ⟨further, isFurther⟩ : ∃ further, limit - front.length = further + 1 :=
      ⟨limit - front.length - 1, by omega⟩
    rw [isFurther]
    exact mem_cons_self
  · right
    have left := beyond_advance distinct isLast
    rw [split, drop_append_of_le_length (by omega)] at left
    have stillBeyond : wanted ∈ beyond key (.some (key last)) records := by
      rw [left]
      simp
    refine .ahead (mem_beyond.mp stillBeyond).2 ?_
    rw [count_of_split distinct left, length_drop]
    rw [Nat.succ_mul] at short
    omega

theorem due_next (pos : 0 < limit) (distinct : (records.map key).Nodup)
    (mem : wanted ∈ records) (due : Due key limit (pages + 1) cursor records wanted) :
    wanted ∈ (nextPage key limit cursor records).1 ∨
      Due key limit pages (nextPage key limit cursor records).2 records wanted := by
  cases due with
  | ahead post short => exact ahead_next pos distinct mem post short
  | behind passed first second within left whole =>
    by_cases exhausted : beyond key cursor records = []
    · -- the scan starts over, and the record is somewhere in it
      rw [next_page_wraps exhausted]
      apply ahead_next pos distinct mem
      · intro passed isNone
        cases isNone
      · calc _ < records.length := count_lt_length mem
          _ ≤ second * limit := whole
          _ ≤ (pages + 1) * limit := Nat.mul_le_mul_right limit (by omega)
    · right
      obtain ⟨last, isLast, isNext⟩ := next_page_some pos exhausted
      rw [isNext]
      have isBeyond : last ∈ beyond key cursor records :=
        mem_of_mem_take (mem_of_getLast? isLast)
      have stillPassed : ¬After (some (key last)) (key wanted) := by
        intro isAfter
        apply passed
        intro reached isCursor
        exact ((mem_beyond.mp isBeyond).2 reached isCursor).trans (isAfter _ rfl)
      have some : 0 < (beyond key cursor records).length := length_pos_of_ne_nil exhausted
      rw [← length_beyond] at left
      obtain ⟨fewer, rfl⟩ : ∃ fewer, first = fewer + 1 := by
        cases first with
        | zero => omega
        | succ fewer => exact ⟨fewer, rfl⟩
      refine .behind stillPassed fewer second (by omega) ?_ whole
      rw [← length_beyond, beyond_advance distinct isLast, length_drop]
      rw [Nat.succ_mul] at left
      omega

theorem not_due_zero (mem : wanted ∈ records) : ¬Due key limit 0 cursor records wanted := by
  intro due
  have some := length_pos_of_mem mem
  cases due with
  | ahead post short => omega
  | behind passed first second within left whole =>
    have isZero : second = 0 := by omega
    rw [isZero] at whole
    omega

theorem due_twice (mem : wanted ∈ records) (whole : records.length ≤ pages * limit) :
    Due key limit (2 * pages) cursor records wanted := by
  have some := length_pos_of_mem mem
  have atMost : ∀ test : Record → Bool, records.countP test ≤ pages * limit :=
    fun test => countP_le_length.trans whole
  by_cases post : After cursor (key wanted)
  · refine .ahead post (lt_of_le_of_lt (atMost _) ?_)
    rw [Nat.mul_assoc, Nat.two_mul]
    omega
  · exact .behind post pages pages (by omega) (atMost _) whole

/-- Records that were passed may move to the end of the order. If any does, none may stay behind. -/
theorem due_moved {moved : Record → Record} (mem : wanted ∈ records)
    (moves : ∀ rec ∈ records, moved rec = rec ∨
      ¬After cursor (key rec) ∧ ∀ other ∈ records, key other < key (moved rec))
    (calm : (∀ rec ∈ records, moved rec = rec) ∨
      ∀ rec ∈ records, After cursor (key (moved rec)))
    (due : Due key limit pages cursor records wanted) :
    Due key limit pages cursor (records.map moved) (moved wanted) := by
  cases due with
  | ahead post short =>
    have stays : moved wanted = wanted := by
      rcases moves wanted mem with same | ⟨passed, _⟩
      · exact same
      · exact (passed post).elim
    rw [stays]
    refine .ahead post (lt_of_le_of_lt ?_ short)
    rw [countP_map]
    apply countP_mono_left
    intro rec isRecord counted
    rcases moves rec isRecord with same | ⟨_, larger⟩
    · rw [Function.comp_apply, same] at counted
      exact counted
    · have pre := (of_decide_eq_true counted).2
      exact (lt_asymm pre (larger wanted mem)).elim
  | behind passed first second within left whole =>
    rcases calm with same | noneLeft
    · have unmoved : records.map moved = records := by
        rw [map_congr_left same]
        exact map_id records
      rw [unmoved, same wanted mem]
      exact .behind passed first second within left whole
    · refine .ahead (noneLeft wanted mem) ?_
      calc _ < (records.map moved).length := count_lt_length (mem_map_of_mem mem)
        _ = records.length := length_map moved
        _ ≤ second * limit := whole
        _ ≤ pages * limit := Nat.mul_le_mul_right limit (by omega)

end RtspProxy.Lib.Keyset
