import Mathlib.Tactic.Ring
import RtspProxy.Lib.Json

/-!
# The text of a UUID

`str(uuid)` is 32 lowercase hexadecimal digits in groups of 8, 4, 4, 4 and 12. `UUID(text)` also
takes upper case, other groups, curly braces and the prefixes of a URN.
-/

namespace RtspProxy.Lib.Uuid

open List

/-- The lowest `width` hexadecimal digits of a number, the highest first. -/
def hexText : Nat → Nat → List Char
  | 0, _ => []
  | width + 1, val => hexText width (val / 16) ++ [Json.hexDigit val]

/-- `str(uuid)`. -/
def uuidText (id : BitVec 128) : String :=
  String.ofList (hexText 8 (id.toNat / 16 ^ 24) ++ '-' :: hexText 4 (id.toNat / 16 ^ 20) ++
    '-' :: hexText 4 (id.toNat / 16 ^ 16) ++ '-' :: hexText 4 (id.toNat / 16 ^ 12) ++
    '-' :: hexText 12 id.toNat)

def hexValue (c : Char) : Option Nat :=
  if '0' ≤ c ∧ c ≤ '9' then some (c.toNat - 48)
  else if 'a' ≤ c ∧ c ≤ 'f' then some (c.toNat - 87)
  else if 'A' ≤ c ∧ c ≤ 'F' then some (c.toNat - 55)
  else none

/-- The number that hexadecimal digits spell, after what was read before them. -/
def readHex : Nat → List Char → Option Nat
  | val, [] => some val
  | val, c :: rest => (hexValue c).bind fun digit => readHex (val * 16 + digit) rest

/-- `text.replace(needle, "")`. -/
def remove (needle : List Char) : Nat → List Char → List Char
  | 0, text => text
  | _, [] => []
  | fuel + 1, c :: rest =>
    if needle.isPrefixOf (c :: rest) = true then remove needle fuel ((c :: rest).drop needle.length)
    else c :: remove needle fuel rest

/-- `text.strip("\x7b\x7d")`. -/
def stripBraces (text : List Char) : List Char :=
  let isBrace : Char → Bool := fun c => c == '\x7b' || c == '\x7d'
  ((text.dropWhile isBrace).reverse.dropWhile isBrace).reverse

/-- `UUID(text)`. -/
def parseUuid (text : String) : Option (BitVec 128) :=
  let text := remove "urn:".toList text.toList.length text.toList
  let text := remove "uuid:".toList text.length text
  let hex := (stripBraces text).filter (· ≠ '-')
  if hex.length = 32 then (readHex 0 hex).map (BitVec.ofNat 128) else none

example : uuidText 0x00112233445566778899aabbccddeeff#128 =
    "00112233-4455-6677-8899-aabbccddeeff" := by decide +kernel

example : parseUuid "urn:uuid:\x7b00112233-4455-6677-8899-AABBCCDDEEFF\x7d" =
    some 0x00112233445566778899aabbccddeeff#128 := by decide +kernel

theorem hex_digit_value (val : Nat) : hexValue (Json.hexDigit val) = some (val % 16) := by
  have each : ∀ digit, digit < 16 → hexValue ("0123456789abcdef".toList.getD digit '0') =
      some digit := by decide
  exact each (val % 16) (Nat.mod_lt _ (by decide))

theorem hex_digit_plain (val : Nat) :
    Json.hexDigit val ≠ '-' ∧ Json.hexDigit val ≠ ':' ∧ Json.hexDigit val ≠ '\x7b' ∧
      Json.hexDigit val ≠ '\x7d' := by
  have each : ∀ digit, digit < 16 → "0123456789abcdef".toList.getD digit '0' ≠ '-' ∧
      "0123456789abcdef".toList.getD digit '0' ≠ ':' ∧
      "0123456789abcdef".toList.getD digit '0' ≠ '\x7b' ∧
      "0123456789abcdef".toList.getD digit '0' ≠ '\x7d' := by decide
  exact each (val % 16) (Nat.mod_lt _ (by decide))

@[simp] theorem hex_text_length (width val : Nat) : (hexText width val).length = width := by
  induction width generalizing val with
  | zero => rfl
  | succ width ih => simp [hexText, ih]

theorem hex_text_member {width val : Nat} {c : Char} (mem : c ∈ hexText width val) :
    ∃ digit, c = Json.hexDigit digit := by
  induction width generalizing val with
  | zero => cases mem
  | succ width ih =>
    rcases mem_append.mp mem with pre | isLast
    · exact ih pre
    · exact ⟨val, mem_singleton.mp isLast⟩

theorem hex_text_append (first second val : Nat) :
    hexText first (val / 16 ^ second) ++ hexText second val = hexText (first + second) val := by
  induction second generalizing val with
  | zero => simp [hexText]
  | succ second ih =>
    have shifted : val / 16 ^ (second + 1) = val / 16 / 16 ^ second := by
      rw [Nat.pow_succ, Nat.mul_comm, Nat.div_div_eq_div_mul]
    rw [hexText, ← append_assoc, shifted, ih, ← Nat.add_assoc, hexText]

theorem read_hex_append (pre : Nat) (first second : List Char) :
    readHex pre (first ++ second) = (readHex pre first).bind fun val =>
      readHex val second := by
  induction first generalizing pre with
  | nil => rfl
  | cons c rest ih =>
    rw [cons_append, readHex, readHex]
    cases hexValue c with
    | none => rfl
    | some digit => exact ih _

theorem read_hex_text (width pre val : Nat) :
    readHex pre (hexText width val) = some (pre * 16 ^ width + val % 16 ^ width) := by
  induction width generalizing pre val with
  | zero => simp [hexText, readHex, Nat.mod_one]
  | succ width ih =>
    rw [hexText, read_hex_append, ih, Option.bind_some, readHex, hex_digit_value,
      Option.bind_some, readHex]
    congr 1
    have split : val % 16 ^ (width + 1) = 16 * (val / 16 % 16 ^ width) + val % 16 := by
      rw [Nat.pow_succ, Nat.mul_comm (16 ^ width) 16, Nat.mod_mul, Nat.add_comm]
    rw [split]
    ring

theorem remove_absent {needle : List Char} {mark : Char} (marked : mark ∈ needle) (fuel : Nat)
    {text : List Char} (absent : mark ∉ text) : remove needle fuel text = text := by
  induction fuel generalizing text with
  | zero =>
    cases text <;> rfl
  | succ fuel ih =>
    cases text with
    | nil => rfl
    | cons c rest =>
      have noPrefix : ¬ needle.isPrefixOf (c :: rest) = true := by
        intro isPrefix
        exact absent (( isPrefixOf_iff_prefix.mp isPrefix).subset marked)
      rw [remove, if_neg noPrefix, ih fun later => absent (mem_cons_of_mem _ later)]

theorem strip_braces_plain {text : List Char} (plain : ∀ c ∈ text, c ≠ '\x7b' ∧ c ≠ '\x7d') :
    stripBraces text = text := by
  have kept : ∀ {other : List Char}, (∀ c ∈ other, c ≠ '\x7b' ∧ c ≠ '\x7d') →
      other.dropWhile (fun c => c == '\x7b' || c == '\x7d') = other := by
    intro other isPlain
    cases other with
    | nil => rfl
    | cons c rest =>
      have isOther := isPlain c mem_cons_self
      rw [dropWhile_cons_of_neg]
      simp [isOther]
  rw [stripBraces, kept plain, kept fun c mem => plain c (mem_reverse.mp mem), reverse_reverse]

theorem uuid_text_plain {id : BitVec 128} {c : Char} (mem : c ∈ (uuidText id).toList) :
    c = '-' ∨ ∃ digit, c = Json.hexDigit digit := by
  rw [uuidText, String.toList_ofList] at mem
  simp only [mem_append, mem_cons] at mem
  rcases mem with (((group | isDash | group) | isDash | group) | isDash | group) | isDash | group
  all_goals first
    | exact .inl isDash
    | exact .inr (hex_text_member group)

theorem filter_hex_text (width val : Nat) :
    (hexText width val).filter (· ≠ '-') = hexText width val := by
  rw [filter_eq_self]
  intro c mem
  obtain ⟨digit, rfl⟩ := hex_text_member mem
  exact decide_eq_true (hex_digit_plain digit).1

theorem filter_uuid_text (id : BitVec 128) :
    (uuidText id).toList.filter (· ≠ '-') = hexText 32 id.toNat := by
  have groups : hexText 8 (id.toNat / 16 ^ 24) ++ hexText 4 (id.toNat / 16 ^ 20) ++
      hexText 4 (id.toNat / 16 ^ 16) ++ hexText 4 (id.toNat / 16 ^ 12) ++ hexText 12 id.toNat =
        hexText 32 id.toNat := by
    have first := hex_text_append 8 4 (id.toNat / 16 ^ 20)
    have second := hex_text_append 12 4 (id.toNat / 16 ^ 16)
    have third := hex_text_append 16 4 (id.toNat / 16 ^ 12)
    have last := hex_text_append 20 12 id.toNat
    rw [Nat.div_div_eq_div_mul, ← Nat.pow_add] at first second third
    rw [first, second, third, last]
  rw [uuidText, String.toList_ofList]
  simp only [filter_append, filter_cons, filter_hex_text, ne_eq, not_true_eq_false,
    decide_false, Bool.false_eq_true, if_false]
  exact groups

theorem parse_uuid_text (id : BitVec 128) : parseUuid (uuidText id) = some id := by
  have noColon : ':' ∉ (uuidText id).toList := by
    intro mem
    rcases uuid_text_plain mem with isDash | ⟨digit, isDigit⟩
    · exact absurd isDash (by decide)
    · exact (hex_digit_plain digit).2.1 isDigit.symm
  have noBrace : ∀ c ∈ (uuidText id).toList, c ≠ '{' ∧ c ≠ '}' := by
    intro c mem
    rcases uuid_text_plain mem with rfl | ⟨digit, rfl⟩
    · decide
    · exact (hex_digit_plain digit).2.2
  have small : id.toNat % 16 ^ 32 = id.toNat := Nat.mod_eq_of_lt id.isLt
  have urn : ':' ∈ "urn:".toList := by decide
  have uuid : ':' ∈ "uuid:".toList := by decide
  unfold parseUuid
  simp only [remove_absent urn _ noColon, remove_absent uuid _ noColon,
    strip_braces_plain noBrace, filter_uuid_text, hex_text_length, if_true]
  rw [read_hex_text, small, Nat.zero_mul, Nat.zero_add, Option.map_some, BitVec.ofNat_toNat,
    BitVec.setWidth_eq]

end RtspProxy.Lib.Uuid
