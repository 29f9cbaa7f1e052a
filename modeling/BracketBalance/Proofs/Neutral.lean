import BracketBalance.Proofs.Reduction
import BracketBalance.Proofs.Guard

namespace BracketBalance

/-- Over openers that they could not close, tokens pass as they do over nothing. -/
theorem Rules.Passes.frame {rules : Rules} {waiting tokens left under : List Token}
    (h : rules.Passes waiting tokens left)
    (hu : ∀ token, rules.opens token.kind = true → rules.matchesTop under token = false) :
    rules.Passes (waiting ++ under) tokens (left ++ under) := by
  induction h with
  | nil => exact .nil
  | @cons waiting next left token tokens first _ ih =>
    refine .cons ?_ ih
    have hj := rules.judged waiting token
    rw [first] at hj
    cases hj with
    | pass _ opens closes ends => exact judge_of_neutral opens closes ends _
    | push _ opens unmatched =>
      apply judge_of_opens opens
      cases waiting with
      | nil => exact fun _ => hu token opens
      | cons top below => exact unmatched
    | pop _ closes pairs => exact judge_of_pairs closes pairs

namespace Region

def quoted : Region → Bool
  | code | comment => false
  | string | escape => true

/-- Quotation marks lead into strings and out of them, and nothing else does. -/
theorem quoted_after_iff (region : Region) (c : Char) :
    (region.after c).quoted = region.quoted ↔ region.delimiter? c ≠ some .quote := by
  cases region with
  | code =>
    cases hk : Kind.startingWith (some c) <;> simp only [after, delimiter?, hk] <;> decide
  | string =>
    simp only [after, delimiter?]
    by_cases hq : c = '"'
    · simp only [hq, ↓reduceIte]
      decide
    · by_cases hb : c = '\\' <;> simp only [hq, hb, ↓reduceIte] <;> decide
  | escape => exact iff_of_true rfl (by simp [delimiter?])
  | comment =>
    refine iff_of_true ?_ (by simp [delimiter?])
    simp only [after]
    split <;> rfl

theorem count_delimiters_cons (region : Region) (c : Char) (text : List Char) :
    (region.delimiters (c :: text)).count .quote =
      (if region.delimiter? c = some .quote then 1 else 0) +
        ((region.after c).delimiters text).count .quote := by
  rw [delimiters, List.count_append]
  cases region.delimiter? c with
  | none => rfl
  | some kind => cases kind <;> rfl

/-- An even number of quotation marks leads out of strings as often as into them. -/
theorem quoted_afterAll_iff (region : Region) (text : List Char) :
    (region.afterAll text).quoted = region.quoted ↔
      (region.delimiters text).count .quote % 2 = 0 := by
  induction text generalizing region with
  | nil => exact iff_of_true rfl rfl
  | cons c text ih =>
    have ih := ih (region.after c)
    have hc := region.quoted_after_iff c
    rw [afterAll_cons, count_delimiters_cons]
    by_cases hd : region.delimiter? c = some .quote
    · -- the mark changes sides, and what follows changes them back an odd number of times
      have hn : (region.after c).quoted = !region.quoted :=
        Bool.eq_not.mpr (fun h => absurd hd (hc.mp h))
      rw [hn, Bool.eq_not] at ih
      rw [if_pos hd, ← not_iff_not, ← ne_eq, ih]
      omega
    · rw [if_neg hd, Nat.zero_add, ← ih, hc.mpr hd]

/-- Code goes on where a comment breaks off, if anything does. -/
theorem afterAll_breaks {lexeme rest : List Char} (h : BreaksAfter lexeme rest) (hr : rest ≠ []) :
    comment.afterAll rest = code.afterAll rest := by
  rcases h with rfl | ⟨more, rfl⟩ | ⟨⟨more, rfl⟩, -⟩
  · exact absurd rfl hr
  · rfl
  · rfl

end Region

theorem getLast?_kind_cons {pieces : List Piece} {kind : Kind}
    (h : pieces.getLast?.map Piece.kind = some kind) (piece : Piece) :
    (piece :: pieces).getLast?.map Piece.kind = some kind := by
  obtain ⟨last, hl, hk⟩ := Option.map_eq_some_iff.mp h
  rw [List.getLast?_cons, hl]
  exact congrArg some hk

theorem Tiles.getLast?_comment {text : List Char} {pieces : List Piece} (h : Tiles text pieces)
    (hc : Region.code.afterAll text = .comment) :
    pieces.getLast?.map Piece.kind = some .comment := by
  induction h with
  | nil => cases hc
  | @bracket c rest pieces single _ ih =>
    rw [Region.afterAll_cons, (Region.code_single single).1] at hc
    exact getLast?_kind_cons (ih hc) _
  | run kind_eq _ alike _ _ ih =>
    rw [Region.afterAll_append, (Region.quiet_run kind_eq alike).1] at hc
    exact getLast?_kind_cons (ih hc) _
  | @comment line rest pieces unbroken breaks tiles ih =>
    by_cases hr : rest = []
    · subst hr
      obtain rfl : [] = pieces := tiles.slices
      rfl
    · rw [List.cons_append, Region.afterAll_cons, Region.code_after_semicolon, Region.afterAll_append,
        (Region.quiet_comment unbroken).1, Region.afterAll_breaks breaks hr] at hc
      exact getLast?_kind_cons (ih hc) _
  | empty _ ih => exact getLast?_kind_cons (getLast?_kind_cons (ih hc) _) _
  | string _ body _ ih =>
    rw [List.cons_append, Region.afterAll_cons, Region.code_after_quote, Region.afterAll_append,
      body.quiet.1] at hc
    exact getLast?_kind_cons (getLast?_kind_cons (getLast?_kind_cons (ih hc) _) _) _
  | opened => cases hc
  | unfinished _ data =>
    rw [Region.afterAll_cons, Region.code_after_quote] at hc
    rcases data with body | ⟨body, rfl, hb⟩
    · rw [body.quiet.1] at hc
      cases hc
    · rw [Region.afterAll_append, hb.quiet.1] at hc
      cases hc

namespace Lexer

variable {text : List Char} {filename : String} {source : Option Nat}

theorem countP_quote_drain (text : List Char) (filename : String) (source : Option Nat) :
    (ofChars text filename source).drain.tokens.countP (·.kind == .quote) =
      (Region.code.delimiters text).count .quote := by
  rw [← Region.slices_delimiters, List.count_filter rfl, ← drain_ofChars text filename source,
    List.count, List.countP_map, List.countP_map]
  rfl

/-- A text whose last token is no comment does not end in one. -/
theorem afterAll_ne_comment
    (h : ∀ last ∈ (ofChars text filename source).drain.tokens.getLast?, last.kind ≠ .comment) :
    Region.code.afterAll text ≠ .comment := by
  intro hc
  have hl := (slices_eq_iff_tiles.mp rfl : Tiles text _).getLast?_comment hc
  rw [← drain_ofChars text filename source, List.getLast?_map, Option.map_map] at hl
  obtain ⟨last, hl, hk⟩ := Option.map_eq_some_iff.mp hl
  exact h last hl hk

end Lexer

structure EndsOutside (tokens : List Token) : Prop where
  even : tokens.countP (·.kind == .quote) % 2 = 0
  uncommented : ∀ last ∈ tokens.getLast?, last.kind ≠ .comment

theorem EndsOutside.afterAll {text : List Char} {filename : String} {source : Option Nat}
    (h : EndsOutside (Lexer.ofChars text filename source).drain.tokens) :
    Region.code.afterAll text = .code := by
  have hq := h.even
  rw [Lexer.countP_quote_drain, ← Region.quoted_afterAll_iff] at hq
  have hc := Lexer.afterAll_ne_comment h.uncommented
  cases ha : Region.code.afterAll text with
  | code => rfl
  | comment => exact absurd ha hc
  | string | escape =>
    rw [ha] at hq
    cases hq

/-- The delimiters are balanced, and code goes on after the text. -/
structure Neutral (text : List Char) : Prop where
  code : Region.code.afterAll text = .code
  balanced : Rules.standard.Balanced (Region.code.delimiters text)

namespace Neutral

variable {filename : String} {source : Option Nat}

theorem nil : Neutral [] := ⟨rfl, .nil⟩

theorem string {body : List Char} (h : StringBody body) : Neutral ('"' :: body ++ ['"']) := by
  have ha : Region.code.afterAll ('"' :: body) = .string := h.quiet.1
  have hd : Region.code.delimiters ('"' :: body) = [.quote] :=
    congrArg (List.cons Kind.quote) h.quiet.2
  constructor
  · rw [Region.afterAll_append, ha]
    rfl
  · rw [Region.delimiters_append, ha, hd]
    exact .wrap .nil rfl rfl rfl

theorem comment {line : List Char} (h : '\n' ∉ line) : Neutral (';' :: line ++ ['\n']) := by
  have hq := Region.quiet_comment h
  have ha : Region.code.afterAll (';' :: line) = .comment := hq.1
  have hd : Region.code.delimiters (';' :: line) = [] := hq.2
  constructor
  · rw [Region.afterAll_append, ha]
    rfl
  · rw [Region.delimiters_append, ha, hd]
    exact .nil

theorem group {opener closer : Char} {inner : List Char}
    (single : Mode.entering (.startingWith (some opener)) = .bracket)
    (pairs : Kind.pairs (.startingWith (some opener)) (.startingWith (some closer)) = true)
    (h : Neutral inner) : Neutral (opener :: inner ++ [closer]) := by
  have closes : Mode.entering (.startingWith (some closer)) = .bracket := by
    generalize Kind.startingWith (some opener) = kind at single pairs
    generalize Kind.startingWith (some closer) = other at pairs
    cases kind <;> cases single <;> cases other <;> first | rfl | cases pairs
  obtain ⟨hao, hdo⟩ := Region.code_single single
  obtain ⟨hac, hdc⟩ := Region.code_single closes
  have ha : Region.code.afterAll (opener :: inner) = .code := by
    rw [Region.afterAll_cons, hao, h.code]
  have hd : Region.code.delimiters (opener :: inner) =
      .startingWith (some opener) :: Region.code.delimiters inner := by
    rw [Region.delimiters, hao, hdo]
    rfl
  obtain ⟨ho, hc⟩ := Kind.closes_of_pairs pairs
  constructor
  · rw [Region.afterAll_append, ha]
    exact hac
  · rw [Region.delimiters_append, ha, hd, Region.delimiters, hdc]
    exact .wrap h.balanced ho hc pairs

/-- Where no quotation mark waits, a neutral text leaves what waits as it was. -/
theorem passes {text : List Char} (h : Neutral text) {waiting : List Token}
    (hw : Guarded waiting .code) (place : Position) :
    Rules.standard.Passes waiting (Region.code.marks filename source place text) waiting := by
  have hb := h.balanced
  rw [← Region.map_kind_marks filename source .code place,
    ← Rules.passes_iff_balanced Rules.standard_selfPaired
      (Region.ends_of_mem_marks filename source)] at hb
  exact hb.frame (fun token ho => Rules.matchesTop_of_opens hw ho)

end Neutral

/-- A text that is balanced for a check, and whose last token is no comment, is neutral. -/
theorem Checker.neutral_of_check {text : List Char} {filename : String} {source : Option Nat}
    (balanced : (fresh (Lexer.ofChars text filename source)).check.1.token.isEnd = true)
    (uncommented : ∀ last ∈ (Lexer.ofChars text filename source).drain.tokens.getLast?,
      last.kind ≠ .comment) : Neutral text := by
  have hp := (check_isEnd_iff_passes text filename source).mp balanced
  have hb := hp.balanced
  rw [Region.map_kind_marks] at hb
  refine ⟨?_, hb⟩
  have hg := Guarded.fresh.marks filename source .origin text
  rw [hp.leftover_eq] at hg
  have hc := Lexer.afterAll_ne_comment uncommented
  cases ha : Region.code.afterAll text with
  | code => rfl
  | comment => exact absurd ha hc
  | string | escape =>
    rw [ha] at hg
    obtain ⟨_, _, h, -⟩ := hg
    cases h

end BracketBalance
