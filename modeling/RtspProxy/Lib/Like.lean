import Mathlib.Data.List.Infix
import Mathlib.Tactic.Common

/-!
# `LIKE` patterns

In `text LIKE pattern ESCAPE escape` a percent sign stands for any text, an
underscore for one character, and what follows the escape character for itself.
`escaped` takes that meaning from every character of a text.
-/

namespace RtspProxy.Lib.Like

open List

inductive Token
  | literal (c : Char)
  | anyChar
  | anyText

def Token.unescaped (c : Char) : Token :=
  if c = '%' then anyText else if c = '_' then anyChar else literal c

/-- `none` is the error for a pattern that ends with its escape character. -/
def tokens (escape : Char) : List Char → Option (List Token)
  | [] => some []
  | [c] => if c = escape then none else some [.unescaped c]
  | c :: next :: rest =>
    if c = escape then (tokens escape rest).map (.literal next :: ·)
    else (tokens escape (next :: rest)).map (.unescaped c :: ·)

def matching : List Token → List Char → Bool
  | [], text => text.isEmpty
  | .literal c :: rest, text => text.head? = some c && matching rest text.tail
  | .anyChar :: rest, text => !text.isEmpty && matching rest text.tail
  | .anyText :: rest, text => text.tails.any (matching rest)

def like (escape : Char) (pattern text : List Char) : Option Bool :=
  (tokens escape pattern).map fun read => matching read text

/-- `text.replace(c, new)`. -/
def replaceChar (c : Char) (new text : List Char) : List Char :=
  text.flatMap fun other => if other = c then new else [other]

def escaped (text : List Char) : List Char :=
  replaceChar '_' ['\\', '_'] (replaceChar '%' ['\\', '%'] (replaceChar '\\' ['\\', '\\'] text))

variable {escape c : Char}

theorem tokens_cons (plain : c ≠ escape) (rest : List Char) :
    tokens escape (c :: rest) = (tokens escape rest).map (.unescaped c :: ·) := by
  cases rest <;> simp [tokens, plain]

theorem tokens_escape (next : Char) (rest : List Char) :
    tokens escape (escape :: next :: rest) = (tokens escape rest).map (.literal next :: ·) := by
  simp [tokens]

theorem tokens_escaped (text rest : List Char) :
    tokens '\\' (escaped text ++ rest) = (tokens '\\' rest).map (text.map Token.literal ++ ·) := by
  induction text with
  | nil => simp [escaped, replaceChar]
  | cons c text ih =>
    have isCons : escaped (c :: text) = escaped [c] ++ escaped text := by
      simp [escaped, replaceChar]
    have one : tokens '\\' (escaped [c] ++ (escaped text ++ rest)) =
        (tokens '\\' (escaped text ++ rest)).map (.literal c :: ·) := by
      by_cases special : c = '\\' ∨ c = '%' ∨ c = '_'
      · rcases special with rfl | rfl | rfl <;> exact tokens_escape _ _
      · simp only [not_or] at special
        have isOwn : escaped [c] = [c] := by simp [escaped, replaceChar, special]
        rw [isOwn, singleton_append, tokens_cons special.1, Token.unescaped,
          if_neg special.2.1, if_neg special.2.2]
    rw [isCons, append_assoc, one, ih, Option.map_map]
    rfl

theorem matching_literals (needle : List Char) (rest : List Token) (text : List Char) :
    matching (needle.map .literal ++ rest) text = true ↔
      ∃ post, text = needle ++ post ∧ matching rest post = true := by
  induction needle generalizing text with
  | nil => simp
  | cons c needle ih =>
    cases text with
    | nil => simp [matching]
    | cons d text =>
      simp only [map_cons, cons_append, matching, head?_cons, tail_cons,
        Bool.and_eq_true, decide_eq_true_eq, ih, Option.some.injEq, cons.injEq]
      constructor
      · rintro ⟨rfl, post, rfl, matches'⟩
        exact ⟨post, ⟨rfl, rfl⟩, matches'⟩
      · rintro ⟨post, ⟨rfl, rfl⟩, matches'⟩
        exact ⟨rfl, post, rfl, matches'⟩

theorem matching_contains (needle text : List Char) :
    matching (.anyText :: needle.map .literal ++ [.anyText]) text = true ↔ needle <:+: text := by
  have anything : ∀ post, matching [.anyText] post = true := by
    intro post
    rw [matching, any_eq_true]
    exact ⟨[], (mem_tails ..).mpr nil_suffix, rfl⟩
  rw [cons_append, matching, any_eq_true]
  constructor
  · rintro ⟨tail, isTail, found⟩
    obtain ⟨post, rfl, _⟩ := (matching_literals _ _ _).mp found
    obtain ⟨pre, isText⟩ := (mem_tails ..).mp isTail
    exact ⟨pre, post, by rw [← isText, append_assoc]⟩
  · rintro ⟨pre, post, isText⟩
    refine ⟨needle ++ post, (mem_tails ..).mpr ⟨pre, ?_⟩, ?_⟩
    · rw [← isText, append_assoc]
    · exact (matching_literals _ _ _).mpr ⟨post, rfl, anything post⟩

theorem like_contains (needle text : List Char) :
    like '\\' ('%' :: escaped needle ++ ['%']) text = some (decide (needle <:+: text)) := by
  have read : tokens '\\' ('%' :: escaped needle ++ ['%']) =
      some (.anyText :: needle.map .literal ++ [.anyText]) := by
    rw [cons_append, tokens_cons (by decide), tokens_escaped]
    rfl
  rw [like, read, Option.map_some, Option.some_inj, Bool.eq_iff_iff, decide_eq_true_iff]
  exact matching_contains needle text

end RtspProxy.Lib.Like
