import BracketBalance.Proofs.Neutral

namespace BracketBalance

/-- The token says the same as the first, and stands where that would stand with new bytes in place of
old ones at the offset. -/
structure Token.Displaced (offset old new : Nat) (a b : Token) : Prop where
  kind : a.kind = b.kind
  lexeme : a.lexeme = b.lexeme
  before : a.start.offset < offset → b.start.offset = a.start.offset
  after : offset ≤ a.start.offset → b.start.offset + old = a.start.offset + new

/-- Tokens that pass and leave what waits as it was may be left out. -/
theorem Rules.unmatched_insert {rules : Rules} {before inserted after : List Token}
    (h : rules.Passes (rules.leftover [] before) inserted (rules.leftover [] before)) :
    rules.unmatched (before ++ (inserted ++ after)) = rules.unmatched (before ++ after) := by
  obtain ⟨hl, hs⟩ := h.leftover after
  simp only [unmatched, strays_append _ _ before, leftover_append _ _ before, hs, hl]

section

variable (filename : String) (source : Option Nat)

/-- A neutral text after code leaves only its size behind. -/
theorem unmatched_marks_insert {before inserted : List Char} (after : List Char)
    (hb : Region.code.afterAll before = .code) (hi : Neutral inserted) :
    Rules.standard.unmatched
        (Region.code.marks filename source .origin (before ++ (inserted ++ after))) =
      Rules.standard.unmatched (Region.code.marks filename source .origin before ++
        Region.code.marks filename source ((Position.origin.advanceAll before).advanceAll inserted)
          after) := by
  -- no quotation mark waits where code goes on, so what is inserted closes nothing that waits
  have hg := Guarded.fresh.marks filename source .origin before
  rw [hb] at hg
  rw [Region.marks_append, hb, Region.marks_append, hi.code]
  exact Rules.unmatched_insert (hi.passes hg _)

theorem displaced_marks_before (old new : Nat) (text : List Char) :
    List.Forall₂ (Token.Displaced (Utf8.size text) old new)
      (Region.code.marks filename source .origin text)
      (Region.code.marks filename source .origin text) := by
  apply List.forall₂_same.mpr
  intro mark hm
  have ho := (Region.offset_of_mem_marks filename source mark hm).2
  have hz : Position.origin.offset = 0 := rfl
  exact ⟨rfl, rfl, fun _ => rfl, fun h => by omega⟩

theorem displaced_marks_after {offset old new : Nat} {p q : Position} (hp : offset ≤ p.offset)
    (hq : q.offset + old = p.offset + new) (text : List Char) :
    List.Forall₂ (Token.Displaced offset old new) (Region.code.marks filename source p text)
      (Region.code.marks filename source q text) := by
  have step : ∀ p q : Position, ∀ c : Char,
      offset ≤ p.offset ∧ q.offset + old = p.offset + new →
        offset ≤ (p.advance c).offset ∧
          (q.advance c).offset + old = (p.advance c).offset + new := by
    intro p q c h
    rw [Position.advance_offset, Position.advance_offset]
    omega
  refine (Region.marks_forall₂ filename source source step .code ⟨hp, hq⟩ text).imp ?_
  intro a b h
  exact ⟨h.kind, h.lexeme, fun hlt => absurd h.start.1 (Nat.not_le.mpr hlt), fun _ => h.start.2⟩

variable {before one other : List Char} (after : List Char)

/-- One neutral text for another: the same is unmatched, displaced by the difference in size. -/
theorem unmatched_marks_exchange (hb : Region.code.afterAll before = .code) (hone : Neutral one)
    (hother : Neutral other) :
    List.Forall₂ (Token.Displaced (Utf8.size before) (Utf8.size one) (Utf8.size other))
      (Rules.standard.unmatched
        (Region.code.marks filename source .origin (before ++ (one ++ after))))
      (Rules.standard.unmatched
        (Region.code.marks filename source .origin (before ++ (other ++ after)))) := by
  rw [unmatched_marks_insert filename source after hb hone,
    unmatched_marks_insert filename source after hb hother]
  apply Rules.unmatched_forall₂ (fun _ _ h => h.kind) .standard
  apply List.rel_append
  · exact displaced_marks_before filename source _ _ before
  · apply displaced_marks_after
    · simp only [Position.advanceAll_offset]
      omega
    · simp only [Position.advanceAll_offset]
      omega

end

/-- Texts that are whole whatever stands inside: a string, a comment with its line feed, a group of
balanced text in brackets. -/
inductive Complete : List Char → Prop
  | string {body : List Char} (inside : StringBody body) : Complete ('"' :: body ++ ['"'])
  | comment {line : List Char} (inside : '\n' ∉ line) : Complete (';' :: line ++ ['\n'])
  | group {opener closer : Char} {inner : List Char}
      (single : Mode.entering (.startingWith (some opener)) = .bracket)
      (pairs : Kind.pairs (.startingWith (some opener)) (.startingWith (some closer)) = true)
      (inside : Neutral inner) : Complete (opener :: inner ++ [closer])

theorem Complete.neutral {text : List Char} (h : Complete text) : Neutral text := by
  cases h with
  | string inside => exact .string inside
  | comment inside => exact .comment inside
  | group single pairs inside => exact .group single pairs inside

namespace Checker

variable {before one other : List Char}

/-- Which neutral text stands after code does not show in the answers, but for places after it. -/
theorem answers_exchange (hb : Region.code.afterAll before = .code) (hone : Neutral one)
    (hother : Neutral other) (after : List Char) (filename : String) (source : Option Nat)
    (calls : Nat) :
    List.Forall₂ (Token.Displaced (Utf8.size before) (Utf8.size one) (Utf8.size other))
      (answers (before ++ (one ++ after)) filename source calls)
      (answers (before ++ (other ++ after)) filename source calls) := by
  apply answers_forall₂ (unmatched_marks_exchange filename source after hb hone hother)
  refine ⟨rfl, rfl, ?_, ?_⟩
  · intro h
    simp only [Piece.token, Position.ofText, Utf8.size_append] at h
    omega
  · intro h
    simp only [Piece.token, Position.ofText, Utf8.size_append]
    omega

/-- A balanced text that does not end in a comment, put where a text outside strings and comments goes
on, changes no answer: each is the same token, moved by the bytes put in if they stand before it. Nor
does it matter what stands there inside a complete string, comment or group. -/
theorem answers_insert (before inserted after : List Char) (filename : String)
    (source : Option Nat)
    (outside : EndsOutside (Lexer.ofChars before filename source).drain.tokens)
    (balanced : (fresh (Lexer.ofChars inserted filename source)).check.1.token.isEnd = true)
    (uncommented : ∀ last ∈ (Lexer.ofChars inserted filename source).drain.tokens.getLast?,
      last.kind ≠ .comment) (calls : Nat) :
    (answers (before ++ after) filename source calls).length = calls ∧
      List.Forall₂ (Token.Displaced (Utf8.size before) 0 (Utf8.size inserted))
        (answers (before ++ after) filename source calls)
        (answers (before ++ inserted ++ after) filename source calls) ∧
      ∀ one other, Complete one → Complete other →
        List.Forall₂ (Token.Displaced (Utf8.size before) (Utf8.size one) (Utf8.size other))
          (answers (before ++ one ++ after) filename source calls)
          (answers (before ++ other ++ after) filename source calls) := by
  have hb := outside.afterAll
  have hi := neutral_of_check balanced uncommented
  simp only [List.append_assoc]
  refine ⟨length_answers _ _ _ _, ?_, ?_⟩
  · exact answers_exchange hb .nil hi after filename source calls
  · intro one other hone hother
    exact answers_exchange hb hone.neutral hother.neutral after filename source calls

/-- A parenthesis in a string, between a mismatched pair and a stray brace. -/
theorem answers_insert_string :
    EndsOutside (Lexer.ofChars ['(', ']'] "" none).drain.tokens ∧
      (fresh (Lexer.ofChars ['"', ')', '"'] "" none)).check.1.token.isEnd = true ∧
      (∀ last ∈ (Lexer.ofChars ['"', ')', '"'] "" none).drain.tokens.getLast?,
        last.kind ≠ .comment) ∧
      List.Forall₂ (Token.Displaced 2 0 3) (answers ['(', ']', ')', '}'] "" none 3)
        (answers ['(', ']', '"', ')', '"', ')', '}'] "" none 3) := by
  have outside : EndsOutside (Lexer.ofChars ['(', ']'] "" none).drain.tokens := by
    rw [(Lexer.drain_eq_layout _ _ _).1]
    exact ⟨by decide, by decide⟩
  have balanced : (fresh (Lexer.ofChars ['"', ')', '"'] "" none)).check.1.token.isEnd = true := by
    rw [check_token]
    decide
  have uncommented : ∀ last ∈ (Lexer.ofChars ['"', ')', '"'] "" none).drain.tokens.getLast?,
      last.kind ≠ .comment := by
    rw [(Lexer.drain_eq_layout _ _ _).1]
    decide
  refine ⟨outside, balanced, uncommented, ?_⟩
  exact (answers_insert ['(', ']'] ['"', ')', '"'] [')', '}'] "" none outside balanced uncommented
    3).2.1

end Checker

end BracketBalance
