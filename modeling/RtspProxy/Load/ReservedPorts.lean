import Mathlib.Data.Finset.Sort
import Mathlib.Data.Int.Interval
import Mathlib.Data.List.Chain
import Mathlib.Data.List.DropRight
import Mathlib.Data.List.Infix
import Mathlib.Data.List.SplitBy
import Mathlib.Data.Set.Card
import RtspProxy.Lib.Raising

/-!
# The canonical text of the reserved ports

`normalize_linux_reserved_ports`, and the capacity that
`parse_linux_ephemeral_port_settings` computes from a second reading of its text.
-/

namespace RtspProxy.Load.ReservedPorts

open List Lib.Raising

/-- `str` of a port. -/
def text (port : Int) : List Char := Nat.toDigits 10 port.toNat

/-- What Python itself provides, with its documented behaviour on ASCII text. -/
structure Python where
  isSpace : Char → Bool
  /-- The `\d` of a pattern. -/
  isDigit : Char → Bool
  int : List Char → Except String Int
  sha256Hex : List Char → List Char
  digit : ∀ char, char.isDigit → isDigit char ∧ isSpace char = false
  space : isSpace ' ' ∧ isSpace ',' = false ∧ isSpace '-' = false
  int_text : ∀ port, 1 ≤ port → port ≤ 65535 → int (text port) = .ok port

section
variable (py : Python)

def strip (raw : List Char) : List Char :=
  (raw.dropWhile py.isSpace).rdropWhile py.isSpace

/-- The tokens that both loops run over: none of an empty body. -/
def tokens (body : List Char) : List (List Char) :=
  if body = [] then [] else body.splitOn ','

/-- The first and the last part of `token.split("-", 1)`. -/
def parts (token : List Char) : List Char × List Char :=
  (token.takeWhile (· != '-'), if '-' ∈ token then (token.dropWhile (· != '-')).tail else token)

/-- `re.fullmatch(r"\d+(?:-\d+)?", token)`. -/
def isRange (token : List Char) : Bool :=
  !(parts token).1.isEmpty && (parts token).1.all py.isDigit &&
    !(parts token).2.isEmpty && (parts token).2.all py.isDigit

def bounds (token : List Char) : Except String (Int × Int) := do
  return (← py.int (parts token).1, ← py.int (parts token).2)

abbrev span (first last : Int) : Finset Int := @Finset.Icc _ _ Int.instLocallyFiniteOrder first last

def reserve (reserved : Finset Int) (token : List Char) : Except String (Finset Int) := do
  raiseIf (isRange py token = false) "invalid_reserved_port_range"
  let range ← bounds py token
  raiseIf (¬(1 ≤ range.1 ∧ range.1 ≤ range.2 ∧ range.2 ≤ 65535)) "invalid_reserved_port_range"
  return reserved ∪ span range.1 range.2

/-- The local `reserved` of the first function. -/
def reservedPorts (raw : List Char) : Except String (Finset Int) :=
  (tokens (strip py raw)).foldlM (reserve py) ∅

/-- `enumerate(sorted(reserved))`, the index second. -/
def listing (reserved : Finset Int) : List (Int × Nat) := reserved.sort.zipIdx

/-- The groups of `itertools.groupby`, by port less index. -/
def groups (reserved : Finset Int) : List (List (Int × Nat)) :=
  (listing reserved).splitBy fun item next => item.1 - item.2 == next.1 - next.2

def canonicalToken : List (Int × Nat) → List Char
  | [] => []
  | item :: rest =>
    let last := (rest.getLast?.getD item).1
    if item.1 = last then text item.1 else text item.1 ++ '-' :: text last

def canonical (reserved : Finset Int) : List Char :=
  [','].intercalate ((groups reserved).map canonicalToken)

def normalizeLinuxReservedPorts (raw : List Char) : Except String (List Char) :=
  canonical <$> reservedPorts py raw

/-- `port_range.split()` read as two integers. -/
def fields (portRange : List Char) : Except String (Int × Int) :=
  match (portRange.splitOnP py.isSpace).filter (!·.isEmpty) with
  | [start, finish] => do return (← py.int start, ← py.int finish)
  | _ => throw "invalid_ephemeral_port_range"

def normalizeLinuxEphemeralPortRange (portRange : List Char) : Except String (List Char) := do
  let range ← fields py portRange
  raiseIf (¬(1 ≤ range.1 ∧ range.1 ≤ range.2 ∧ range.2 ≤ 65535)) "invalid_ephemeral_port_range"
  return text range.1 ++ ' ' :: text range.2

/-- The second loop, which checks nothing. -/
def reserveAgain (reserved : Finset Int) (token : List Char) : Except String (Finset Int) := do
  let range ← bounds py token
  return reserved ∪ span range.1 range.2

def parseLinuxEphemeralPortSettings (portRange raw : List Char) :
    Except String (Int × Int × Int × List Char) := do
  let canonicalRange ← normalizeLinuxEphemeralPortRange py portRange
  let range ← fields py canonicalRange
  let body ← normalizeLinuxReservedPorts py raw
  let reserved ← (tokens body).foldlM (reserveAgain py) ∅
  let capacity := range.2 - range.1 + 1 -
    (reserved.filter fun port => range.1 ≤ port ∧ port ≤ range.2).card
  raiseIf (capacity ≤ 0) "ephemeral_port_capacity_exhausted_by_reservations"
  return (range.1, range.2, capacity, py.sha256Hex body)

/-- The port lies in a range that the text writes down. -/
def Denotes (raw : List Char) (port : Int) : Prop :=
  ∃ token ∈ tokens (strip py raw), ∃ start finish,
    bounds py token = .ok (start, finish) ∧ start ≤ port ∧ port ≤ finish

end

section
variable {py : Python}

theorem reserve_ok {reserved next : Finset Int} {token : List Char} :
    reserve py reserved token = .ok next ↔
      isRange py token ∧ ∃ range, bounds py token = .ok range ∧
        (1 ≤ range.1 ∧ range.1 ≤ range.2 ∧ range.2 ≤ 65535) ∧
        reserved ∪ span range.1 range.2 = next := by
  simp [reserve, bind_ok, map_ok]

variable {body : List (List Char)}

variable {reserved final : Finset Int}

variable (run : body.foldlM (reserve py) reserved = .ok final)

include run

theorem run_again :
    body.foldlM (reserveAgain py) reserved = .ok final := by
  induction body generalizing reserved with
  | nil => exact run
  | cons token rest step =>
    rw [foldlM_cons, bind_ok] at run ⊢
    obtain ⟨next, first, later⟩ := run
    obtain ⟨-, range, read, -, union⟩ := reserve_ok.mp first
    exact ⟨next, bind_ok.mpr ⟨range, read, pure_ok.mpr union⟩, step later⟩

theorem run_spec (port : Int) :
    port ∈ final ↔ port ∈ reserved ∨ ∃ token ∈ body, ∃ range,
      bounds py token = .ok range ∧ range.1 ≤ port ∧ port ≤ range.2 := by
  induction body generalizing reserved with
  | nil => simp_all [pure_ok]
  | cons token rest step =>
    rw [foldlM_cons, bind_ok] at run
    obtain ⟨next, first, later⟩ := run
    obtain ⟨-, range, read, -, rfl⟩ := reserve_ok.mp first
    rw [step later]
    simp only [Finset.mem_union, Finset.mem_Icc, or_assoc, exists_mem_cons_iff, read,
      Except.ok.injEq, exists_eq_left']

theorem run_valid (valid : ∀ port ∈ reserved, 1 ≤ port ∧ port ≤ 65535) :
    ∀ port ∈ final, 1 ≤ port ∧ port ≤ 65535 := by
  induction body generalizing reserved with
  | nil => simp_all [pure_ok]
  | cons token rest step =>
    rw [foldlM_cons, bind_ok] at run
    obtain ⟨next, first, later⟩ := run
    obtain ⟨-, range, -, range, rfl⟩ := reserve_ok.mp first
    refine step later fun port member => ?_
    rcases Finset.mem_union.mp member with old | new
    · exact valid port old
    · have := Finset.mem_Icc.mp new
      omega

omit run

theorem run_accepts
    (accepted : ∀ token ∈ body, isRange py token ∧ ∃ range, bounds py token = .ok range ∧
      1 ≤ range.1 ∧ range.1 ≤ range.2 ∧ range.2 ≤ 65535) (reserved : Finset Int) :
    ∃ final, body.foldlM (reserve py) reserved = .ok final := by
  induction body generalizing reserved with
  | nil => exact ⟨reserved, rfl⟩
  | cons token rest step =>
    obtain ⟨isRange, range, read, valid⟩ := accepted token mem_cons_self
    obtain ⟨final, later⟩ := step (fun other member => accepted other (mem_cons_of_mem _ member))
      (reserved ∪ span range.1 range.2)
    refine ⟨final, ?_⟩
    rw [foldlM_cons, bind_ok]
    exact ⟨_, reserve_ok.mpr ⟨isRange, range, read, valid, rfl⟩, later⟩

end

/-! ## The groups are runs of consecutive ports -/

def Consecutive (item next : Int × Nat) : Prop := next.1 = item.1 + 1

theorem indices_count (ports : List Int) (index : Nat) :
    (ports.zipIdx index).IsChain fun item next => next.2 = item.2 + 1 := by
  induction ports generalizing index with
  | nil => exact .nil
  | cons port rest step =>
    cases rest with
    | nil => exact .singleton _
    | cons next later => exact isChain_cons_cons.mpr ⟨rfl, step (index + 1)⟩

theorem group_consecutive {reserved : Finset Int} {group : List (Int × Nat)}
    (member : group ∈ groups reserved) : group.IsChain Consecutive := by
  have inside : group <:+: listing reserved := by
    rw [← flatten_splitBy _ (listing reserved)]
    exact infix_of_mem_flatten member
  obtain ⟨left, right, around⟩ := inside
  have chain : (listing reserved).IsChain _ := indices_count reserved.sort 0
  rw [← around] at chain
  have counted := isChain_iff_getElem.mp chain.left_of_append.right_of_append
  have grouped := isChain_iff_getElem.mp (isChain_of_mem_splitBy member)
  refine isChain_iff_getElem.mpr fun index bound => ?_
  have key := eq_of_beq (grouped index bound)
  have count := counted index bound
  unfold Consecutive
  omega

theorem mem_groups (reserved : Finset Int) (port : Int) :
    port ∈ reserved ↔ ∃ group ∈ groups reserved, port ∈ group.map Prod.fst := by
  have listed : (groups reserved).flatten.map Prod.fst = reserved.sort := by
    rw [groups, flatten_splitBy, listing, zipIdx_map_fst]
  rw [← Finset.mem_sort (· ≤ ·), ← listed, map_flatten]
  simp

theorem run_mem {item : Int × Nat} {rest : List (Int × Nat)}
    (chain : (item :: rest).IsChain Consecutive) (port : Int) :
    port ∈ (item :: rest).map Prod.fst ↔ item.1 ≤ port ∧ port ≤ (rest.getLast?.getD item).1 := by
  induction rest generalizing item port with
  | nil =>
    simp
    omega
  | cons next later step =>
    obtain ⟨successor, chain⟩ := isChain_cons_cons.mp chain
    have ends := ((step chain next.1).mp mem_cons_self).2
    rw [getLast?_cons, Option.getD_some, map_cons, mem_cons, step chain]
    unfold Consecutive at successor
    omega

theorem text_digits {port : Int} {char : Char} (member : char ∈ text port) : char.isDigit :=
  Nat.isDigit_of_mem_toDigits (by decide) (by decide) member

theorem text_no_dash (port : Int) : '-' ∉ text port := fun member =>
  absurd (text_digits member) (by decide)

theorem text_plain (port : Int) : ∀ char ∈ text port, (char != '-') = true :=
  fun _ member => bne_iff_ne.mpr fun dash => text_no_dash port (dash ▸ member)

theorem text_parts (port : Int) : parts (text port) = (text port, text port) := by
  simp [parts, text_no_dash, takeWhile_eq_self_iff.mpr (text_plain port)]

theorem range_parts (first last : Int) :
    parts (text first ++ '-' :: text last) = (text first, text last) := by
  simp [parts, takeWhile_append_of_pos (text_plain first),
    dropWhile_append_of_pos (text_plain first)]

theorem token_parts (item : Int × Nat) (rest : List (Int × Nat)) :
    parts (canonicalToken (item :: rest)) = (text item.1, text (rest.getLast?.getD item).1) := by
  simp only [canonicalToken]
  split_ifs with same
  · rw [text_parts, ← same]
  · exact range_parts ..

section
variable {py : Python}

theorem token_read (py : Python) {item : Int × Nat} {rest : List (Int × Nat)}
    (positive : 1 ≤ item.1) (ordered : item.1 ≤ (rest.getLast?.getD item).1)
    (bounded : (rest.getLast?.getD item).1 ≤ 65535) :
    isRange py (canonicalToken (item :: rest)) ∧ bounds py (canonicalToken (item :: rest)) =
        .ok (item.1, (rest.getLast?.getD item).1) := by
  constructor
  · have digits (port : Int) : (text port).all py.isDigit := all_eq_true.mpr
      fun char member => (py.digit char (text_digits member)).1
    have some (port : Int) : (text port).isEmpty = false :=
      isEmpty_eq_false_iff.mpr Nat.toDigits_ne_nil
    simp [isRange, token_parts, digits, some]
  · rw [bounds, token_parts, py.int_text _ positive (ordered.trans bounded),
      py.int_text _ (positive.trans ordered) bounded]
    rfl

theorem token_chars {char : Char} {group : List (Int × Nat)}
    (member : char ∈ canonicalToken group) : char.isDigit ∨ char = '-' := by
  cases group with
  | nil => exact absurd member not_mem_nil
  | cons item rest =>
    simp only [canonicalToken] at member
    split_ifs at member with same
    · exact .inl (text_digits member)
    · rcases mem_append.mp member with first | last
      · exact .inl (text_digits first)
      · exact (mem_cons.mp last).symm.imp_left text_digits

theorem intercalate_chars {pieces : List (List Char)} {char : Char}
    (member : char ∈ [','].intercalate pieces) : char = ',' ∨ ∃ piece ∈ pieces, char ∈ piece := by
  induction pieces with
  | nil => exact absurd member not_mem_nil
  | cons piece rest step =>
    cases rest with
    | nil => exact .inr ⟨piece, mem_cons_self, by simpa using member⟩
    | cons next later =>
      rw [intercalate_cons_cons] at member
      simp only [mem_append, mem_singleton] at member
      rcases member with (here | comma) | there
      · exact .inr ⟨piece, mem_cons_self, here⟩
      · exact .inl comma
      · exact (step there).imp_right fun ⟨piece, held, inside⟩ =>
          ⟨piece, mem_cons_of_mem _ held, inside⟩

theorem strip_canonical (reserved : Finset Int) :
    strip py (canonical reserved) = canonical reserved := by
  have plain : ∀ char ∈ canonical reserved, py.isSpace char = false := by
    intro char member
    rcases intercalate_chars member with rfl | ⟨piece, held, inside⟩
    · exact py.space.2.1
    · obtain ⟨group, -, rfl⟩ := mem_map.mp held
      rcases token_chars inside with digit | rfl
      · exact (py.digit char digit).2
      · exact py.space.2.2
  have left : (canonical reserved).dropWhile py.isSpace = canonical reserved :=
    dropWhile_eq_self_iff.mpr fun _ => by simp [plain]
  rw [strip, left]
  exact rdropWhile_eq_self_iff.mpr fun _ => by simp [plain]

theorem tokens_canonical (reserved : Finset Int) :
    tokens (canonical reserved) = (groups reserved).map canonicalToken := by
  have commas : ∀ token ∈ (groups reserved).map canonicalToken, ',' ∉ token := by
    intro token member comma
    obtain ⟨group, -, rfl⟩ := mem_map.mp member
    exact absurd (token_chars comma) (by decide)
  cases groupsOf : groups reserved with
  | nil => simp [tokens, canonical, groupsOf]
  | cons group rest =>
    rw [groupsOf] at commas
    have split := splitOn_intercalate ',' commas (cons_ne_nil _ _)
    have filled : canonical reserved ≠ [] := by
      intro empty
      rw [canonical, groupsOf] at empty
      rw [empty] at split
      have first : [] = canonicalToken group := by simpa using congrArg head? split
      have member : group ∈ groups reserved := groupsOf ▸ mem_cons_self
      obtain ⟨item, later, rfl⟩ := exists_cons_of_ne_nil (ne_nil_of_mem_splitBy member)
      have digits := congrArg Prod.fst (token_parts item later)
      rw [← first] at digits
      exact Nat.toDigits_ne_nil digits.symm
    rw [tokens, if_neg filled, canonical, groupsOf, split]

theorem group_read (py : Python) {reserved : Finset Int}
    (valid : ∀ port ∈ reserved, 1 ≤ port ∧ port ≤ 65535) {group : List (Int × Nat)}
    (member : group ∈ groups reserved) :
    isRange py (canonicalToken group) ∧ ∃ range,
      bounds py (canonicalToken group) = .ok range ∧
      (1 ≤ range.1 ∧ range.1 ≤ range.2 ∧ range.2 ≤ 65535) ∧
      ∀ port, port ∈ group.map Prod.fst ↔ range.1 ≤ port ∧ port ≤ range.2 := by
  obtain ⟨item, rest, rfl⟩ := exists_cons_of_ne_nil (ne_nil_of_mem_splitBy member)
  have run := run_mem (group_consecutive member)
  have ordered := ((run item.1).mp mem_cons_self).2
  have held (port : Int) (inside : port ∈ (item :: rest).map Prod.fst) : port ∈ reserved :=
    (mem_groups ..).mpr ⟨_, member, inside⟩
  have first := valid item.1 (held _ mem_cons_self)
  have last := valid _ (held _ ((run _).mpr ⟨ordered, le_refl _⟩))
  obtain ⟨isRange, read⟩ := token_read py first.1 ordered last.2
  exact ⟨isRange, _, read, ⟨first.1, ordered, last.2⟩, run⟩

/-- The second reading of a canonical text gives the set it was written from. -/
theorem canonical_read {reserved : Finset Int}
    (valid : ∀ port ∈ reserved, 1 ≤ port ∧ port ≤ 65535) :
    (tokens (canonical reserved)).foldlM (reserve py) ∅ = .ok reserved := by
  have accepted : ∀ token ∈ tokens (canonical reserved), isRange py token ∧ ∃ range,
      bounds py token = .ok range ∧ 1 ≤ range.1 ∧ range.1 ≤ range.2 ∧ range.2 ≤ 65535 := by
    intro token member
    obtain ⟨group, inside, rfl⟩ := mem_map.mp (tokens_canonical reserved ▸ member)
    obtain ⟨isRange, range, read, ordered, -⟩ := group_read py valid inside
    exact ⟨isRange, range, read, ordered⟩
  obtain ⟨final, run⟩ := run_accepts accepted ∅
  suffices same : final = reserved from same ▸ run
  ext port
  rw [run_spec run, mem_groups reserved, tokens_canonical]
  simp only [Finset.notMem_empty, false_or, mem_map, exists_exists_and_eq_and]
  refine exists_congr fun group => and_congr_right fun inside => ?_
  obtain ⟨-, range, read, -, members⟩ := group_read py valid inside
  simp only [read, Except.ok.injEq, exists_eq_left']
  exact (members port).symm.trans mem_map

variable {raw : List Char} {reserved : Finset Int}

variable (accepted : reservedPorts py raw = .ok reserved)

include accepted

theorem reserved_valid :
    ∀ port ∈ reserved, 1 ≤ port ∧ port ≤ 65535 :=
  run_valid accepted (by simp)

theorem reserved_denotes (port : Int) :
    port ∈ reserved ↔ Denotes py raw port := by
  rw [run_spec accepted]
  simp only [Finset.notMem_empty, false_or, Denotes, Prod.exists]

theorem canonical_reserved :
    reservedPorts py (canonical reserved) = .ok reserved := by
  rw [reservedPorts, strip_canonical, canonical_read (reserved_valid accepted)]

omit accepted

theorem fields_canonical {range : Int × Int}
    (valid : 1 ≤ range.1 ∧ range.1 ≤ range.2 ∧ range.2 ≤ 65535) :
    fields py (text range.1 ++ ' ' :: text range.2) = .ok range := by
  have plain (port : Int) : ∀ char ∈ text port, py.isSpace char = false :=
    fun char member => (py.digit char (text_digits member)).2
  have some (port : Int) : (text port).isEmpty = false :=
    isEmpty_eq_false_iff.mpr Nat.toDigits_ne_nil
  rw [fields, splitOnP_append_cons_of_forall_mem (plain _) _ py.space.1,
    splitOnP_eq_singleton (plain _)]
  obtain ⟨first, ordered, last⟩ := valid
  simp [some, py.int_text _ first (ordered.trans last),
    py.int_text _ (first.trans ordered) last, bind, Except.bind, pure, Except.pure]

theorem parse_spec {portRange : List Char} {start finish capacity : Int} {digest : List Char}
    (accepted : reservedPorts py raw = .ok reserved)
    (parsed : parseLinuxEphemeralPortSettings py portRange raw =
      .ok (start, finish, capacity, digest)) :
    fields py portRange = .ok (start, finish) ∧ start ≤ finish ∧
      finish - start + 1 - (reserved.filter fun port => start ≤ port ∧ port ≤ finish).card =
        capacity ∧
      py.sha256Hex (canonical reserved) = digest := by
  obtain ⟨canonicalRange, rangeRead, range, fieldsRead, body, bodyRead, ports, portsRead, _, -,
    done⟩ := by simpa only [parseLinuxEphemeralPortSettings, bind_ok] using parsed
  obtain ⟨written, writtenRead, _, valid, rfl⟩ := by
    simpa only [normalizeLinuxEphemeralPortRange, bind_ok, pure_ok] using rangeRead
  have ordered := not_not.mp (raise_if_ok.mp valid)
  rw [fields_canonical ordered] at fieldsRead
  obtain rfl := Except.ok.inj fieldsRead
  obtain rfl : canonical reserved = body :=
    Except.ok.inj ((map_ok.mpr ⟨reserved, accepted, rfl⟩).symm.trans bodyRead)
  rw [run_again (canonical_read (reserved_valid accepted))] at portsRead
  obtain rfl := Except.ok.inj portsRead
  obtain ⟨rfl, rfl, rfl, rfl⟩ := by simpa only [pure_ok, Prod.mk.injEq] using done
  exact ⟨writtenRead, ordered.2.1, rfl, rfl⟩

/-- The capacity counts the ports of the range outside the reserved set. -/
theorem capacity_counts {start finish : Int} (ordered : start ≤ finish)
    (members : ∀ port, port ∈ reserved ↔ Denotes py raw port) :
    finish - start + 1 - (reserved.filter fun port => start ≤ port ∧ port ≤ finish).card =
      ({port | (start ≤ port ∧ port ≤ finish) ∧ ¬Denotes py raw port}.ncard : Int) := by
  have free : {port | (start ≤ port ∧ port ≤ finish) ∧ ¬Denotes py raw port} =
      ((Finset.Icc start finish \ reserved : Finset Int) : Set Int) := by
    ext port
    simp [members]
  have taken : (reserved.filter fun port => start ≤ port ∧ port ≤ finish) =
      Finset.Icc start finish ∩ reserved := by
    ext port
    simp [and_comm]
  have total := Finset.card_sdiff_add_card_inter (Finset.Icc start finish) reserved
  have size := Int.card_Icc_of_le start finish (by omega)
  rw [free, Set.ncard_coe_finset, taken]
  omega

end

/-- The canonical text and the capacity, for every text that is accepted. -/
theorem reserved_ports_canonical (py : Python) (raw canon : List Char)
    (accepted : normalizeLinuxReservedPorts py raw = .ok canon) :
    (∀ port, Denotes py canon port ↔ Denotes py raw port) ∧
    normalizeLinuxReservedPorts py canon = .ok canon ∧
    (∀ other otherCanon, normalizeLinuxReservedPorts py other = .ok otherCanon →
      (canon = otherCanon ↔ ∀ port, Denotes py raw port ↔ Denotes py other port)) ∧
    ∀ portRange start finish capacity digest,
      parseLinuxEphemeralPortSettings py portRange raw = .ok (start, finish, capacity, digest) →
      fields py portRange = .ok (start, finish) ∧
      capacity = {port | (start ≤ port ∧ port ≤ finish) ∧ ¬Denotes py raw port}.ncard ∧
      digest = py.sha256Hex canon := by
  obtain ⟨reserved, read, rfl⟩ := map_ok.mp accepted
  have again := canonical_reserved read
  refine ⟨fun port => ?_, map_ok.mpr ⟨reserved, again, rfl⟩, ?_, ?_⟩
  · rw [← reserved_denotes again, ← reserved_denotes read]
  · intro other otherCanon acceptedOther
    obtain ⟨others, readOther, rfl⟩ := map_ok.mp acceptedOther
    have sets : reserved = others ↔
        ∀ port, Denotes py raw port ↔ Denotes py other port := by
      simp only [Finset.ext_iff, ← reserved_denotes read, ← reserved_denotes readOther]
    rw [← sets]
    refine ⟨fun same => ?_, congrArg canonical⟩
    exact Except.ok.inj (again.symm.trans (same ▸ canonical_reserved readOther))
  · intro portRange start finish capacity digest parsed
    obtain ⟨fieldsRead, ordered, rfl, rfl⟩ := parse_spec read parsed
    exact ⟨fieldsRead, capacity_counts ordered (reserved_denotes read), rfl⟩

/-- The functions of Python on plain digits. -/
def ascii : Python where
  isSpace char := char == ' '
  isDigit := Char.isDigit
  int digits :=
    if digits.all Char.isDigit && !digits.isEmpty then .ok (Nat.ofDigitChars 10 digits 0)
    else .error "invalid literal for int()"
  sha256Hex := id
  digit char digit := ⟨digit, beq_eq_false_iff_ne.mpr fun blank => by simp [blank] at digit⟩
  space := by decide
  int_text port positive _ := by
    have digits : (text port).all Char.isDigit := all_eq_true.mpr fun _ => text_digits
    have some : (text port).isEmpty = false := isEmpty_eq_false_iff.mpr Nat.toDigits_ne_nil
    rw [if_pos (by simp [digits, some]), text, Nat.ofDigitChars_ten_toDigits,
      Int.toNat_of_nonneg (by omega)]

def overlapping : List Char := ['3', '-', '4', ',', '1', '-', '3']

theorem overlapping_read : normalizeLinuxReservedPorts ascii overlapping = .ok ['1', '-', '4'] := by
  have read : reservedPorts ascii overlapping = .ok [1, 2, 3, 4].toFinset := by
    have split : tokens (strip ascii overlapping) = [['3', '-', '4'], ['1', '-', '3']] := by decide
    have upper : bounds ascii ['3', '-', '4'] = .ok (3, 4) := by rfl
    have lower : bounds ascii ['1', '-', '3'] = .ok (1, 3) := by rfl
    rw [reservedPorts, split, foldlM_cons, bind_ok]
    refine ⟨_, reserve_ok.mpr ⟨by decide, _, upper, by decide, rfl⟩, ?_⟩
    rw [foldlM_cons, bind_ok]
    exact ⟨_, reserve_ok.mpr ⟨by decide, _, lower, by decide, by decide⟩, rfl⟩
  refine map_ok.mpr ⟨_, read, ?_⟩
  rw [canonical, groups, listing, (toFinset_sort (r := (· ≤ ·)) (by decide)).mpr (by decide)]
  rfl

/-- Overlapping ranges that are not in order. -/
theorem reserved_ports_canonical_sample :
    (∀ port, Denotes ascii ['1', '-', '4'] port ↔ Denotes ascii overlapping port) ∧
    normalizeLinuxReservedPorts ascii ['1', '-', '4'] = .ok ['1', '-', '4'] ∧
    (∀ other otherCanon, normalizeLinuxReservedPorts ascii other = .ok otherCanon →
      (['1', '-', '4'] = otherCanon ↔
        ∀ port, Denotes ascii overlapping port ↔ Denotes ascii other port)) ∧
    ∀ portRange start finish capacity digest,
      parseLinuxEphemeralPortSettings ascii portRange overlapping =
        .ok (start, finish, capacity, digest) →
      fields ascii portRange = .ok (start, finish) ∧
      capacity = {port | (start ≤ port ∧ port ≤ finish) ∧ ¬Denotes ascii overlapping port}.ncard ∧
      digest = ['1', '-', '4'] :=
  reserved_ports_canonical ascii overlapping ['1', '-', '4'] overlapping_read

end RtspProxy.Load.ReservedPorts
