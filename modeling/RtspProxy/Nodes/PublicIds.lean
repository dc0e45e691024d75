import Mathlib.Data.List.TakeWhile
import Mathlib.Data.Nat.Digits.Lemmas
import RtspProxy.Nodes.Registration

/-!
# Public identifiers

`generate_public_id` writes 16 random bytes in base32: 26 characters carry 130 bits, of which the
last two are zero. With the digits read as a number this number is four times the one the bytes
spell, so the last character is one of the eight that `PublicId` admits there.
-/

namespace RtspProxy.Nodes

open List Nat

/-- `int.from_bytes(data)`. -/
def fromBytes (data : List UInt8) : Nat := ofDigits 256 (data.map UInt8.toNat).reverse

def b32Char (digit : Nat) : Char := "ABCDEFGHIJKLMNOPQRSTUVWXYZ234567".toList.getD digit '='

def b32Pair (bits : Nat) : List Nat := [bits / 32, bits % 32]

def b32Quantum (quantum : Nat) : List Nat :=
  b32Pair (quantum >>> 30) ++ b32Pair ((quantum >>> 20) &&& 0x3ff) ++
    b32Pair ((quantum >>> 10) &&& 0x3ff) ++ b32Pair (quantum &&& 0x3ff)

def b32Quanta : List UInt8 → List Nat
  | first :: second :: third :: fourth :: fifth :: rest =>
    b32Quantum (fromBytes [first, second, third, fourth, fifth]) ++ b32Quanta rest
  | _ => []

/-- `base64.b32encode`. -/
def b32encode (data : List UInt8) : List Char :=
  let leftover := data.length % 5
  let padded := if leftover = 0 then data else data ++ replicate (5 - leftover) 0
  let encoded := (b32Quanta padded).map b32Char
  let padding := [0, 6, 4, 3, 1].getD leftover 0
  encoded.take (encoded.length - padding) ++ replicate padding '='

/-- `text.rstrip("=")`. -/
def stripPadding (text : List Char) : List Char := (text.reverse.dropWhile (· = '=')).reverse

/-- `token` is what `secrets.token_bytes(16)` returns. -/
def generatePublicId (token : List UInt8) : String :=
  String.ofList (stripPadding ((b32encode token).map Char.toLower))

def publicChar (digit : Nat) : Char := (b32Char digit).toLower

theorem public_char_accepted : ∀ digit < 32, publicChar digit ≠ '=' ∧
    ((('a' ≤ publicChar digit ∧ publicChar digit ≤ 'z') ∨
      ('2' ≤ publicChar digit ∧ publicChar digit ≤ '7')) ∧
    (digit % 4 = 0 ↔ publicChar digit ∈ "aeimquy4".toList)) := by
  decide

def publicDigit (char : Char) : Nat :=
  "abcdefghijklmnopqrstuvwxyz234567".toList.idxOf char

theorem public_digit_char : ∀ digit < 32, publicDigit (publicChar digit) = digit := by
  decide

theorem public_digits_chars {digits : List Nat} (below : ∀ digit ∈ digits, digit < 32) :
    (digits.map publicChar).map publicDigit = digits := by
  rw [map_map]
  exact (map_congr_left fun digit mem =>
    public_digit_char digit (below digit mem)).trans (map_id digits)

theorem public_char_of_code :
    (∀ code < 123, 97 ≤ code → publicChar (code - 97) = Char.ofNat code) ∧
      ∀ code < 56, 50 ≤ code → publicChar (code - 24) = Char.ofNat code := by
  decide

theorem exists_public_char {char : Char}
    (accepted : ('a' ≤ char ∧ char ≤ 'z') ∨ ('2' ≤ char ∧ char ≤ '7')) :
    ∃ digit < 32, publicChar digit = char := by
  have code : Char.ofNat char.toNat = char := Char.ofNat_toNat char
  rcases accepted with ⟨least, most⟩ | ⟨least, most⟩
  · have isLeast : 97 ≤ char.toNat := least
    have isMost : char.toNat ≤ 122 := most
    refine ⟨char.toNat - 97, by omega, ?_⟩
    rw [public_char_of_code.1 _ (by omega) isLeast, code]
  · have isLeast : 50 ≤ char.toNat := least
    have isMost : char.toNat ≤ 55 := most
    refine ⟨char.toNat - 24, by omega, ?_⟩
    rw [public_char_of_code.2 _ (by omega) isLeast, code]

theorem from_bytes_lt (data : List UInt8) : fromBytes data < 256 ^ data.length := by
  unfold fromBytes
  simpa using ofDigits_lt_base_pow_length (by decide : 1 < 256)
    (l := (data.map UInt8.toNat).reverse) (by
      intro digit mem
      obtain ⟨byte, _, rfl⟩ := mem_map.mp (mem_reverse.mp mem)
      exact byte.toNat_lt)

theorem from_bytes_append (left right : List UInt8) :
    fromBytes (left ++ right) = fromBytes left * 256 ^ right.length + fromBytes right := by
  unfold fromBytes
  rw [map_append, reverse_append, ofDigits_append, length_reverse, length_map]
  ring

theorem quantum_digits {quantum : List UInt8} (length : quantum.length = 5) :
    ofDigits 32 (b32Quantum (fromBytes quantum)).reverse = fromBytes quantum ∧
      ∀ digit ∈ b32Quantum (fromBytes quantum), digit < 32 := by
  have small := from_bytes_lt quantum
  rw [length] at small
  have mask (val : Nat) : val &&& 0x3ff = val % 1024 :=
    and_two_pow_sub_one_eq_mod val 10
  simp only [b32Quantum, b32Pair, mask, shiftRight_eq_div_pow]
  constructor
  · simp only [cons_append, nil_append, reverse_cons, reverse_nil, ofDigits_cons, ofDigits_nil]
    omega
  · simp only [cons_append, nil_append, mem_cons, not_mem_nil, or_false]
    omega

theorem from_bytes_injective {left right : List UInt8} (length : left.length = right.length)
    (same : fromBytes left = fromBytes right) : left = right := by
  have bytes (data : List UInt8) : ∀ digit ∈ (data.map UInt8.toNat).reverse, digit < 256 := by
    intro digit mem
    obtain ⟨byte, _, rfl⟩ := mem_map.mp (mem_reverse.mp mem)
    exact byte.toNat_lt
  have digits := ofDigits_inj_of_len_eq (by decide : 1 < 256) (by simpa using length)
    (bytes left) (bytes right) same
  exact map_injective_iff.mpr (fun _ _ => UInt8.toNat.inj) (reverse_injective digits)

def publicDigits (token : List UInt8) : List Nat :=
  (b32Quanta (token ++ replicate 4 0)).take 26

theorem quanta_eq (b0 b1 b2 b3 b4 b5 b6 b7 b8 b9 b10 b11 b12 b13 b14 b15 : UInt8) :
    b32Quanta ([b0, b1, b2, b3, b4, b5, b6, b7, b8, b9, b10, b11, b12, b13, b14, b15] ++
        replicate 4 0) =
      b32Quantum (fromBytes [b0, b1, b2, b3, b4]) ++
        (b32Quantum (fromBytes [b5, b6, b7, b8, b9]) ++
          (b32Quantum (fromBytes [b10, b11, b12, b13, b14]) ++
            b32Quantum (fromBytes [b15, 0, 0, 0, 0]))) := by
  simp only [replicate, cons_append, nil_append, b32Quanta, append_nil]

theorem quantum_length (quantum : Nat) : (b32Quantum quantum).length = 8 := rfl

/-- The fourth quantum holds the last byte alone: its first two digits are eight bits and two
zeros. -/
theorem last_quantum (byte : UInt8) :
    ofDigits 32 ((b32Quantum (fromBytes [byte, 0, 0, 0, 0])).take 2).reverse = 4 * byte.toNat := by
  have small := byte.toNat_lt
  simp only [b32Quantum, b32Pair, fromBytes, shiftRight_eq_div_pow, map_cons,
    map_nil, reverse_cons, reverse_nil, nil_append, cons_append,
    take_succ_cons, take_zero, ofDigits_cons, ofDigits_nil, UInt8.toNat_zero]
  omega

variable {token : List UInt8}

theorem public_digits_value (length : token.length = 16) :
    (publicDigits token).length = 26 ∧ (∀ digit ∈ publicDigits token, digit < 32) ∧
      ofDigits 32 (publicDigits token).reverse = 4 * fromBytes token := by
  match token, length with
  | [b0, b1, b2, b3, b4, b5, b6, b7, b8, b9, b10, b11, b12, b13, b14, b15], _ =>
    obtain ⟨value0, below0⟩ := quantum_digits (rfl : [b0, b1, b2, b3, b4].length = 5)
    obtain ⟨value1, below1⟩ := quantum_digits (rfl : [b5, b6, b7, b8, b9].length = 5)
    obtain ⟨value2, below2⟩ := quantum_digits (rfl : [b10, b11, b12, b13, b14].length = 5)
    obtain ⟨_, below3⟩ := quantum_digits (rfl : [b15, 0, 0, 0, 0].length = 5)
    have last := last_quantum b15
    unfold publicDigits
    rw [quanta_eq]
    generalize fromBytes [b15, 0, 0, 0, 0] = quantum3 at *
    have val : fromBytes ([b0, b1, b2, b3, b4] ++ ([b5, b6, b7, b8, b9] ++
        ([b10, b11, b12, b13, b14] ++ [b15]))) =
        fromBytes [b0, b1, b2, b3, b4] * 256 ^ 11 + (fromBytes [b5, b6, b7, b8, b9] * 256 ^ 6 +
          (fromBytes [b10, b11, b12, b13, b14] * 256 ^ 1 + fromBytes [b15])) := by
      rw [from_bytes_append, from_bytes_append, from_bytes_append]
      rfl
    have single : fromBytes [b15] = b15.toNat := ofDigits_singleton
    rw [single] at val
    change _ ∧ _ ∧ _ = 4 * fromBytes ([b0, b1, b2, b3, b4] ++ ([b5, b6, b7, b8, b9] ++
        ([b10, b11, b12, b13, b14] ++ [b15])))
    rw [val]
    generalize fromBytes [b0, b1, b2, b3, b4] = quantum0 at *
    generalize fromBytes [b5, b6, b7, b8, b9] = quantum1 at *
    generalize fromBytes [b10, b11, b12, b13, b14] = quantum2 at *
    have digits : (b32Quantum quantum0 ++ (b32Quantum quantum1 ++ (b32Quantum quantum2 ++
        b32Quantum quantum3))).take 26 = b32Quantum quantum0 ++ (b32Quantum quantum1 ++
          (b32Quantum quantum2 ++ (b32Quantum quantum3).take 2)) := rfl
    rw [digits]
    refine ⟨rfl, ?_, ?_⟩
    · intro digit mem
      rcases mem_append.mp mem with first | mem
      · exact below0 digit first
      rcases mem_append.mp mem with second | mem
      · exact below1 digit second
      rcases mem_append.mp mem with third | mem
      · exact below2 digit third
      · exact below3 digit (mem_of_mem_take mem)
    · have short : ((b32Quantum quantum3).take 2).length = 2 := rfl
      simp only [reverse_append, ofDigits_append, length_append,
        length_reverse, short, quantum_length, reduceAdd]
      rw [value0, value1, value2, last]
      omega

theorem quanta_length (length : token.length = 16) :
    (b32Quanta (token ++ replicate 4 0)).length = 32 := by
  match token, length with
  | [b0, b1, b2, b3, b4, b5, b6, b7, b8, b9, b10, b11, b12, b13, b14, b15], _ =>
    rw [quanta_eq]
    rfl

theorem generate_public_id_eq (length : token.length = 16) :
    generatePublicId token = String.ofList ((publicDigits token).map publicChar) := by
  obtain ⟨count, below, _⟩ := public_digits_value length
  have encoded : b32encode token = (publicDigits token).map b32Char ++ replicate 6 '=' := by
    unfold b32encode publicDigits
    rw [length, map_take]
    simp only [length_map]
    change take ((b32Quanta (token ++ replicate 4 0)).length - 6) _ ++ _ = _
    rw [quanta_length length]
    rfl
  unfold generatePublicId stripPadding
  rw [encoded, map_append, map_map, map_replicate, reverse_append, reverse_replicate]
  congr 1
  have padding : (replicate 6 ('='.toLower) ++
      ((publicDigits token).map (Char.toLower ∘ b32Char)).reverse).dropWhile (· = '=') =
        ((publicDigits token).map (Char.toLower ∘ b32Char)).reverse := by
    rw [dropWhile_append_of_pos]
    · refine dropWhile_eq_self_iff.mpr fun nonempty => ?_
      have mem := mem_reverse.mp (getElem_mem nonempty)
      obtain ⟨digit, isDigit, same⟩ := mem_map.mp mem
      rw [← same]
      exact fun padding => (public_char_accepted digit (below digit isDigit)).1
        (of_decide_eq_true padding)
    · intro char mem
      rw [eq_of_mem_replicate mem]
      decide
  rw [padding, reverse_reverse]
  rfl

theorem public_digits_injective {left right : List Nat} (length : left.length = right.length)
    (leftBelow : ∀ digit ∈ left, digit < 32) (rightBelow : ∀ digit ∈ right, digit < 32)
    (same : ofDigits 32 left.reverse = ofDigits 32 right.reverse) : left = right := by
  refine reverse_injective (ofDigits_inj_of_len_eq (by decide : 1 < 32)
    (by simpa using length) ?_ ?_ same)
  · exact fun digit mem => leftBelow digit (mem_reverse.mp mem)
  · exact fun digit mem => rightBelow digit (mem_reverse.mp mem)

theorem generated_canonical (length : token.length = 16) :
    isCanonicalPublicId (generatePublicId token) = true := by
  obtain ⟨count, below, val⟩ := public_digits_value length
  obtain ⟨first, last, split⟩ : ∃ first last, publicDigits token = first ++ [last] :=
    ⟨_, _, (dropLast_concat_getLast (ne_nil_of_length_eq_add_one count)).symm⟩
  have isLast : last % 4 = 0 := by
    rw [split, reverse_append, reverse_singleton, singleton_append, ofDigits_cons] at val
    omega
  have countFirst : first.length = 25 := by
    rw [split, length_append, length_singleton] at count
    omega
  rw [split] at below
  unfold isCanonicalPublicId
  rw [generate_public_id_eq length, split, String.toList_ofList, map_append, take_left'
    (by simpa using countFirst), drop_left' (by simpa using countFirst)]
  have accepted := public_char_accepted last (below last (by simp))
  simp only [length_append, length_map, countFirst, map_cons, map_nil,
    length_singleton, all_map, Bool.and_eq_true, all_eq_true, all_cons,
    all_nil, beq_self_eq_true, true_and, and_true]
  refine ⟨fun digit mem => ?_, by simpa using accepted.2.2.mp isLast⟩
  simpa using (public_char_accepted digit (below digit (mem_append_left _ mem))).2.1

theorem generated_injective {left right : List UInt8} (isLeft : left.length = 16)
    (isRight : right.length = 16) (same : generatePublicId left = generatePublicId right) :
    left = right := by
  obtain ⟨leftCount, leftBelow, leftValue⟩ := public_digits_value isLeft
  obtain ⟨rightCount, rightBelow, rightValue⟩ := public_digits_value isRight
  rw [generate_public_id_eq isLeft, generate_public_id_eq isRight] at same
  have digits : publicDigits left = publicDigits right := by
    rw [← public_digits_chars leftBelow, ← public_digits_chars rightBelow,
      String.ofList_injective same]
  rw [digits, rightValue] at leftValue
  exact from_bytes_injective (isLeft.trans isRight.symm) (by omega)

variable {val : String}

theorem canonical_chars (canonical : isCanonicalPublicId val = true) :
    ∃ first last, val.toList = first ++ [last] ∧ first.length = 25 ∧
      last ∈ "aeimquy4".toList ∧ ∀ char ∈ val.toList, publicDigit char < 32 ∧
        publicChar (publicDigit char) = char := by
  simp only [isCanonicalPublicId, Bool.and_eq_true, beq_iff_eq, all_eq_true] at canonical
  obtain ⟨⟨count, ranges⟩, lasts⟩ := canonical
  obtain ⟨first, last, split⟩ : ∃ first last, val.toList = first ++ [last] :=
    ⟨_, _, (dropLast_concat_getLast (ne_nil_of_length_eq_add_one count)).symm⟩
  have countFirst : first.length = 25 := by
    rw [split, length_append, length_singleton] at count
    omega
  rw [split, take_left' countFirst] at ranges
  rw [split, drop_left' countFirst] at lasts
  have isLast : last ∈ "aeimquy4".toList := by simpa using lasts last (by simp)
  refine ⟨first, last, split, countFirst, isLast, fun char mem => ?_⟩
  obtain ⟨digit, below, rfl⟩ : ∃ digit < 32, publicChar digit = char := by
    rw [split] at mem
    rcases mem_append.mp mem with inFirst | atEnd
    · exact exists_public_char (by simpa using ranges char inFirst)
    · rw [mem_singleton.mp atEnd]
      refine exists_public_char ?_
      simp only [String.reduceToList, mem_cons, not_mem_nil, or_false] at isLast
      rcases isLast with rfl | rfl | rfl | rfl | rfl | rfl | rfl | rfl <;> decide
  rw [public_digit_char digit below]
  exact ⟨below, rfl⟩

theorem canonical_digits (canonical : isCanonicalPublicId val = true) :
    ∃ digits : List Nat, digits.length = 26 ∧ (∀ digit ∈ digits, digit < 32) ∧
      digits.map publicChar = val.toList ∧
      ∃ quarter < 256 ^ 16, ofDigits 32 digits.reverse = 4 * quarter := by
  obtain ⟨first, last, split, countFirst, isLast, readBack⟩ := canonical_chars canonical
  have count : (val.toList.map publicDigit).length = 26 := by simp [split, countFirst]
  have below : ∀ digit ∈ val.toList.map publicDigit, digit < 32 := by
    intro digit mem
    obtain ⟨char, isCharacter, rfl⟩ := mem_map.mp mem
    exact (readBack char isCharacter).1
  refine ⟨val.toList.map publicDigit, count, below, ?_, ?_⟩
  · rw [map_map]
    exact (map_congr_left fun char mem => (readBack char mem).2).trans
      (map_id val.toList)
  · have small := ofDigits_lt_base_pow_length (by decide : 1 < 32)
      (l := (val.toList.map publicDigit).reverse) fun digit mem =>
        below digit (mem_reverse.mp mem)
    rw [length_reverse, count] at small
    have isMultiple : publicDigit last % 4 = 0 := by
      obtain ⟨isBelow, isChar⟩ := readBack last (by rw [split]; simp)
      exact (public_char_accepted _ isBelow).2.2.mpr (isChar.symm ▸ isLast)
    refine ⟨ofDigits 32 (val.toList.map publicDigit).reverse / 4, by omega, ?_⟩
    simp only [split, map_append, map_cons, map_nil, reverse_append,
      reverse_singleton, singleton_append, ofDigits_cons]
    omega

theorem exists_token {number : Nat} (small : number < 256 ^ 16) :
    ∃ token : List UInt8, token.length = 16 ∧ fromBytes token = number := by
  obtain ⟨bytes, ⟨count, isBytes⟩, rfl⟩ :=
    (bijOn_ofDigits (by decide : 1 < 256) 16).surjOn small
  refine ⟨bytes.reverse.map UInt8.ofNat, by simpa using count, ?_⟩
  unfold fromBytes
  congr 1
  rw [map_map, ← map_reverse, reverse_reverse]
  exact (map_congr_left fun byte mem =>
    UInt8.toNat_ofNat_of_lt' (isBytes byte mem)).trans (map_id bytes)

/-- Reading an identifier as a number gives a multiple of four, and its quarter the bytes. -/
theorem generated_of_canonical (canonical : isCanonicalPublicId val = true) :
    ∃ token : List UInt8, token.length = 16 ∧ generatePublicId token = val := by
  obtain ⟨digits, count, below, chars, quarter, small, isNumber⟩ := canonical_digits canonical
  obtain ⟨token, length, rfl⟩ := exists_token small
  obtain ⟨tokenCount, tokenBelow, isToken⟩ := public_digits_value length
  refine ⟨token, length, ?_⟩
  have same : publicDigits token = digits :=
    public_digits_injective (tokenCount.trans count.symm) tokenBelow below
      (isToken.trans isNumber.symm)
  rw [generate_public_id_eq length, same, chars, String.ofList_toList]

/-- The 128-bit values and the accepted identifiers correspond one to one. -/
theorem public_ids_bijective :
    (∀ token : List UInt8, token.length = 16 →
      ∃ id, CameraControl.parsePublicId (generatePublicId token) = .ok id ∧
        id.value = generatePublicId token) ∧
    (∀ left right : List UInt8, left.length = 16 → right.length = 16 → left ≠ right →
      generatePublicId left ≠ generatePublicId right) ∧
    ∀ val id, CameraControl.parsePublicId val = .ok id →
      ∃! token : List UInt8, token.length = 16 ∧ generatePublicId token = val := by
  refine ⟨fun token length => ?_, fun left right isLeft isRight differ same => ?_,
    fun val id parsed => ?_⟩
  · exact ⟨⟨_, generated_canonical length⟩, dif_pos (generated_canonical length), rfl⟩
  · exact differ (generated_injective isLeft isRight same)
  · unfold CameraControl.parsePublicId at parsed
    split at parsed
    · next canonical =>
      obtain ⟨token, length, encodes⟩ := generated_of_canonical canonical
      refine ⟨token, ⟨length, encodes⟩, fun other ⟨otherLength, otherEncodes⟩ => ?_⟩
      exact generated_injective otherLength length (otherEncodes.trans encodes.symm)
    · nomatch parsed

theorem public_ids_bijective_counting :
    (∃ id, CameraControl.parsePublicId (generatePublicId ((range 16).map .ofNat)) = .ok id ∧
      id.value = "aaaqeayeaudaocajbifqydiob4") ∧
    ∃! token : List UInt8, token.length = 16 ∧
      generatePublicId token = "aaaqeayeaudaocajbifqydiob4" := by
  have encodes : generatePublicId ((range 16).map .ofNat) = "aaaqeayeaudaocajbifqydiob4" := by
    decide +kernel
  obtain ⟨id, parsed, val⟩ := public_ids_bijective.1 ((range 16).map .ofNat) rfl
  refine ⟨⟨id, parsed, val.trans encodes⟩, public_ids_bijective.2.2 _ id ?_⟩
  rw [← encodes]
  exact parsed

end RtspProxy.Nodes
