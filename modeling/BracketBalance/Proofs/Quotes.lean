import BracketBalance.Proofs.Beginnings
import BracketBalance.Proofs.Neutral
import BracketBalance.Proofs.Repair

namespace BracketBalance

def quotes (tokens : List Token) : List Token :=
  tokens.filter (·.kind == .quote)

structure GuardsQuotes (read waiting : List Token) : Prop where
  openers : ∀ opener ∈ waiting, opener.kind ∈ [.openParen, .openBracket, .openBrace, .quote]
  top : (∃ top ∈ waiting.head?, top.kind = .quote) ↔ (quotes read).length % 2 = 1
  others : ∀ opener ∈ waiting.tail, opener.kind ≠ .quote

/-- What a quotation mark does to what waits, given the tokens read before it. -/
structure Toggles (read : List Token) (mark : Token) (waiting after : List Token) : Prop where
  pushed : (quotes read).length % 2 = 0 → after = mark :: waiting
  popped : (quotes read).length % 2 = 1 →
    ∃ opening, (quotes read).getLast? = some opening ∧ waiting = opening :: after

/-- A string begins after these characters, and the text does not end it. -/
def EndsInString (earlier text : List Char) : Prop :=
  ∃ data, text = earlier ++ '"' :: data ∧ Region.code.afterAll earlier = .code ∧ Unfinished data

theorem quotes_concat (tokens : List Token) (token : Token) :
    quotes (tokens ++ [token]) = quotes tokens ++ if token.kind = .quote then [token] else [] := by
  rw [quotes, List.filter_append]
  by_cases hk : token.kind = .quote <;> simp [quotes, hk]

theorem Kind.mem_of_opens {kind : Kind} (h : kind.opens = true) :
    kind ∈ [openParen, openBracket, openBrace, quote] := by
  revert h
  cases kind <;> decide

namespace Guarded

variable {waiting : List Token} {region : Region}

theorem not_mem_of_not_quoted (h : Guarded waiting region) (hr : region.quoted = false) :
    ∀ opener ∈ waiting, opener.kind ≠ .quote := by
  cases region with
  | code | comment => exact h
  | string | escape => cases hr

theorem exists_of_quoted (h : Guarded waiting region) (hr : region.quoted = true) :
    ∃ opening below, waiting = opening :: below ∧ opening.kind = .quote ∧
      ∀ opener ∈ below, opener.kind ≠ .quote := by
  cases region with
  | code | comment => cases hr
  | string | escape => exact h

theorem top_iff (h : Guarded waiting region) :
    (∃ top ∈ waiting.head?, top.kind = .quote) ↔ region.quoted = true := by
  cases hr : region.quoted with
  | false =>
    refine iff_of_false ?_ (by simp)
    rintro ⟨top, ht, hk⟩
    exact h.not_mem_of_not_quoted hr top (List.mem_of_mem_head? ht) hk
  | true =>
    obtain ⟨opening, below, rfl, hk, -⟩ := h.exists_of_quoted hr
    exact iff_of_true ⟨opening, rfl, hk⟩ rfl

theorem tail (h : Guarded waiting region) : ∀ opener ∈ waiting.tail, opener.kind ≠ .quote := by
  cases hr : region.quoted with
  | false => exact fun opener ho => h.not_mem_of_not_quoted hr opener (List.mem_of_mem_tail ho)
  | true =>
    obtain ⟨opening, below, rfl, -, hb⟩ := h.exists_of_quoted hr
    exact hb

theorem last (h : Guarded waiting region) {read : List Token} (token : Token)
    (hl : ∀ top ∈ waiting.head?, top.kind = .quote → (quotes read).getLast? = some top) :
    ∀ top ∈ ((Rules.standard.judge waiting token).waiting waiting).head?, top.kind = .quote →
      (quotes (read ++ [token])).getLast? = some top := by
  intro top ht hk
  rw [quotes_concat]
  rcases Rules.mem_waiting_judge (List.mem_of_mem_head? ht) with hm | ⟨rfl, -⟩
  · cases hr : region.quoted with
    | false => exact absurd hk (h.not_mem_of_not_quoted hr top hm)
    | true =>
      obtain ⟨opening, below, rfl, ho, hb⟩ := h.exists_of_quoted hr
      by_cases hq : token.kind = .quote
      · -- the string is closed, and no other quotation mark waits below it
        rw [Rules.judge_closing ho hq below] at ht
        exact absurd hk (hb top (List.mem_of_mem_head? ht))
      · rw [if_neg hq, List.append_nil]
        rcases List.mem_cons.mp hm with rfl | hm
        · exact hl top rfl hk
        · exact absurd hk (hb top hm)
  · rw [if_pos hk, List.getLast?_concat]

/-- A quotation mark opens outside strings and closes inside. -/
theorem toggles (h : Guarded waiting region) {read : List Token} {mark : Token}
    (hm : mark.kind = .quote) (hr : region.quoted = true ↔ (quotes read).length % 2 = 1)
    (hl : ∀ top ∈ waiting.head?, top.kind = .quote → (quotes read).getLast? = some top) :
    Toggles read mark waiting ((Rules.standard.judge waiting mark).waiting waiting) where
  pushed he := by
    have hq : region.quoted = false := by
      rw [← Bool.not_eq_true, hr]
      omega
    rw [Rules.judge_opening hm (h.not_mem_of_not_quoted hq)]
    rfl
  popped ho := by
    obtain ⟨opening, below, rfl, hk, -⟩ := h.exists_of_quoted (hr.mpr ho)
    rw [Rules.judge_closing hk hm below]
    exact ⟨opening, hl opening rfl hk, rfl⟩

end Guarded

/-- Code begins with something after which it goes on, or with a string or a comment that is not ended. -/
theorem code_cases (text : List Char) :
    text = [] ∨
      (∃ p rest, text = p ++ rest ∧ p ≠ [] ∧ Region.code.afterAll p = .code) ∨
      (∃ data, text = '"' :: data ∧ Unfinished data) ∨ ∃ line, text = ';' :: line ∧ '\n' ∉ line := by
  cases text with
  | nil => exact .inl rfl
  | cons c text =>
    right
    by_cases hq : Kind.startingWith (some c) = .quote
    · obtain rfl := Kind.startingWith_eq_quote_iff.mp hq
      obtain ⟨body, rest, rfl, hb, rfl | rfl | ⟨more, rfl⟩⟩ := exists_stringBody text
      · exact .inr (.inl ⟨body, by rw [List.append_nil], .inl hb⟩)
      · exact .inr (.inl ⟨body ++ ['\\'], rfl, .inr ⟨body, rfl, hb⟩⟩)
      · exact .inl ⟨'"' :: body ++ ['"'], more, by simp, by simp, (Neutral.string hb).code⟩
    by_cases hc : Kind.startingWith (some c) = .comment
    · obtain rfl := Kind.startingWith_eq_comment_iff.mp hc
      obtain ⟨line, rest, rfl, hl, rfl | ⟨more, rfl⟩⟩ := exists_line text
      · exact .inr (.inr ⟨line, by rw [List.append_nil], hl⟩)
      · exact .inl ⟨';' :: line ++ ['\n'], more, by simp, by simp, (Neutral.comment hl).code⟩
    · have hp : Region.code.after c = .code := by
        unfold Region.after
        cases hk : Kind.startingWith (some c) <;> simp_all
      exact .inl ⟨[c], text, rfl, List.cons_ne_nil _ _, hp⟩

/-- A text that is in a string at its end has begun it somewhere. -/
theorem exists_endsInString {text : List Char} (h : (Region.code.afterAll text).quoted = true) :
    ∃ earlier, EndsInString earlier text := by
  rcases code_cases text with rfl | ⟨p, rest, rfl, hne, hp⟩ | ⟨data, rfl, hd⟩ | ⟨line, rfl, hl⟩
  · cases h
  · rw [Region.afterAll_append, hp] at h
    have hlt : rest.length < (p ++ rest).length := by
      have hpos := List.length_pos_of_ne_nil hne
      rw [List.length_append]
      omega
    obtain ⟨earlier, data, rfl, he, hd⟩ := exists_endsInString h
    exact ⟨p ++ earlier, data, by rw [List.append_assoc], by rw [Region.afterAll_append, hp, he], hd⟩
  · exact ⟨[], data, rfl, rfl, hd⟩
  · rw [Region.afterAll_cons, Region.code_after_semicolon, (Region.quiet_comment hl).1] at h
    cases h
termination_by text.length

section

variable (text : List Char) (filename : String) (source : Option Nat)

/-- After any number of tokens, what waits is guarded by the region in which the next one begins. -/
theorem guarded_take (n : Nat) :
    let tokens := (Lexer.ofChars text filename source).drain.tokens
    ∃ region : Region, Guarded (Rules.standard.leftover [] (tokens.take n)) region ∧
      (region.quoted = true ↔ (quotes (tokens.take n)).length % 2 = 1) := by
  intro tokens
  -- the tokens so far are those of a shorter text
  generalize hs : spelling n (Region.code.slices text) = shorter
  have ht : (Lexer.ofChars shorter filename source).drain.tokens = tokens.take n :=
    hs ▸ Lexer.drain_spelling n text filename source
  refine ⟨Region.code.afterAll shorter, ?_, ?_⟩
  · have hg := Guarded.fresh.marks filename source .origin shorter
    rwa [(Checker.strays_marks shorter filename source).2, ht] at hg
  · have hq := Region.code.quoted_afterAll_iff shorter
    rw [← Lexer.countP_quote_drain shorter filename source, ht, List.countP_eq_length_filter] at hq
    have hc : Region.code.quoted = false := rfl
    rw [hc, ← Bool.not_eq_true] at hq
    change _ ↔ (quotes (tokens.take n)).length % 2 = 0 at hq
    rw [← not_iff_not, hq]
    omega

theorem last_take (n : Nat) :
    let tokens := (Lexer.ofChars text filename source).drain.tokens
    ∀ top ∈ (Rules.standard.leftover [] (tokens.take n)).head?, top.kind = .quote →
      (quotes (tokens.take n)).getLast? = some top := by
  intro tokens
  induction n with
  | zero => nofun
  | succ n ih =>
    by_cases hn : n < tokens.length
    · obtain ⟨region, hg, -⟩ := guarded_take text filename source n
      rw [List.take_succ_eq_append_getElem hn, Rules.leftover_append]
      exact hg.last tokens[n] ih
    · have hl : tokens.length ≤ n := Nat.not_lt.mp hn
      rw [List.take_of_length_le hl] at ih
      rwa [List.take_of_length_le (Nat.le_succ_of_le hl)]

theorem leftover_endsInString {earlier : List Char} (h : EndsInString earlier text) :
    Rules.standard.leftover [] (Region.code.marks filename source .origin text) =
      Piece.quote.token filename source (.ofText earlier) ::
        Rules.standard.leftover [] (Region.code.marks filename source .origin earlier) := by
  obtain ⟨data, rfl, he, hd⟩ := h
  have hg := Guarded.fresh.marks filename source .origin earlier
  rw [he] at hg
  have hm : Region.code.marks filename source (.ofText earlier) ('"' :: data) =
      [Piece.quote.token filename source (.ofText earlier)] := by
    rw [Region.marks, Region.code_after_quote, Region.marks_unfinished _ _ hd]
    rfl
  rw [Region.marks_append, he, Position.advanceAll_origin, hm, Rules.leftover_append]
  change (Rules.standard.judge _ _).waiting _ = _
  rw [Rules.judge_opening rfl hg]
  rfl

end

namespace Checker

open TokenStream

section

variable (text : List Char) (filename : String) (source : Option Nat)

theorem answers_prefix (calls : Nat) :
    answers text filename source calls <+:
      Rules.standard.unmatched (Region.code.marks filename source .origin text) ++
        List.replicate calls (Piece.ending.token filename source (.ofText text)) := by
  rw [List.prefix_iff_getElem?]
  intro i hi
  have hc : i < calls := length_answers text filename source calls ▸ hi
  simp only [answers_eq, List.getElem_map, List.getElem_range, List.getElem?_append]
  split
  · next hlt => rw [List.getElem?_eq_getElem hlt, Option.getD_some]
  · next hge =>
    rw [List.getElem?_eq_none (Nat.not_lt.mp hge), Option.getD_none, List.getElem?_replicate,
      if_pos (by omega)]

/-- Unless a text ends in a string, no quotation mark is unmatched. If it does, the one of that string
is, between the closers and the brackets that are. -/
theorem unmatched_cases :
    let unmatched := Rules.standard.unmatched (Region.code.marks filename source .origin text)
    (∀ token ∈ unmatched, token.kind ≠ .quote) ∨
      ∃ earlier strays below, EndsInString earlier text ∧
        unmatched = strays ++ Piece.quote.token filename source (.ofText earlier) :: below ∧
        (∀ token ∈ strays, token.kind ∈ [.closeParen, .closeBracket, .closeBrace]) ∧
        ∀ token ∈ below, token.kind ∈ [.openParen, .openBracket, .openBrace] := by
  intro unmatched
  have hstrays : ∀ token ∈ Rules.standard.strays []
      (Region.code.marks filename source .origin text),
      token.kind ∈ [.closeParen, .closeBracket, .closeBrace] := by
    intro token hm
    obtain ⟨ho, hc⟩ := Rules.closes_of_mem_strays (Region.ends_of_mem_marks filename source) token hm
    exact Kind.mem_of_closes ho hc
  have hopens : ∀ token ∈ Rules.standard.leftover []
      (Region.code.marks filename source .origin text), token.kind.opens = true :=
    Rules.standard.opens_of_mem_leftover (by simp)
  have hg := Guarded.fresh.marks filename source .origin text
  cases hr : (Region.code.afterAll text).quoted with
  | false =>
    left
    intro token hm
    rcases List.mem_append.mp hm with hm | hm
    · intro hk
      simpa [hk] using hstrays token hm
    · exact hg.not_mem_of_not_quoted hr token hm
  | true =>
    right
    obtain ⟨earlier, he⟩ := exists_endsInString hr
    have hl := leftover_endsInString text filename source he
    have htail := hg.tail
    rw [hl] at hopens htail
    refine ⟨earlier, _, _, he, congrArg (_ ++ ·) hl, hstrays, ?_⟩
    intro token hm
    have hk := Kind.mem_of_opens (hopens token (List.mem_cons_of_mem _ hm))
    have hq := htail token hm
    simpa [hq] using hk

/-- The same of what is unmatched with ends after it. -/
theorem unmatched_append_cases {ends : List Token} (h : ∀ token ∈ ends, token.kind = .endOfText) :
    let all := Rules.standard.unmatched (Region.code.marks filename source .origin text) ++ ends
    (∀ token ∈ all, token.kind ≠ .quote) ∨
      ∃ earlier strays below, EndsInString earlier text ∧
        all = strays ++ Piece.quote.token filename source (.ofText earlier) :: below ∧
        (∀ token ∈ strays, token.kind ∈ [.closeParen, .closeBracket, .closeBrace]) ∧
        ∀ token ∈ below, token.kind ∈ [.openParen, .openBracket, .openBrace, .endOfText] := by
  intro all
  rcases unmatched_cases text filename source with hu | ⟨earlier, strays, below, he, hu, hs, hb⟩
  · left
    intro token hm
    rcases List.mem_append.mp hm with hm | hm
    · exact hu token hm
    · simp [h token hm]
  · right
    refine ⟨earlier, strays, below ++ ends, he, ?_, hs, ?_⟩
    · rw [← List.cons_append, ← List.append_assoc, ← hu]
    · intro token hm
      rcases List.mem_append.mp hm with hm | hm
      · exact List.mem_append_left [.endOfText] (hb token hm)
      · simp [h token hm]

/-- A quotation mark among the answers is that of the string in which the text ends. What comes before
it closes, and what comes after it opens or is the end. -/
theorem answers_quote {calls : Nat} {before after : List Token} {quote : Token}
    (ha : answers text filename source calls = before ++ quote :: after)
    (hq : quote.kind = .quote) :
    (∀ token ∈ before, token.kind ∈ [.closeParen, .closeBracket, .closeBrace]) ∧
      (∀ token ∈ after, token.kind ∈ [.openParen, .openBracket, .openBrace, .endOfText]) ∧
      ∃ earlier, EndsInString earlier text ∧
        quote = Piece.quote.token filename source (.ofText earlier) := by
  obtain ⟨beyond, hall⟩ := answers_prefix text filename source calls
  have hends : ∀ token ∈ List.replicate calls (Piece.ending.token filename source (.ofText text)),
      token.kind = .endOfText := by
    intro token hm
    rw [List.eq_of_mem_replicate hm]
    rfl
  rw [ha, List.append_assoc, List.cons_append] at hall
  rcases unmatched_append_cases text filename source hends with
    hn | ⟨earlier, strays, below, he, hu, hs, hb⟩
  · have hm : quote ∈ before ++ quote :: (after ++ beyond) := by simp
    exact absurd hq (hn quote (hall ▸ hm))
  · rw [hu] at hall
    have hns : quote ∉ strays := by
      intro hm
      simpa [hq] using hs quote hm
    have hnb : quote ∉ below := by
      intro hm
      simpa [hq] using hb quote hm
    obtain ⟨rfl, rfl, rfl⟩ := (List.append_cons_inj_of_notMem hns hnb).mp hall.symm
    exact ⟨hs, fun token hm => hb token (List.mem_append_left beyond hm), earlier, he, rfl⟩

/-- The quotation mark of a string in which the text ends is answered with some time. -/
theorem exists_answers_quote {earlier : List Char} (h : EndsInString earlier text) :
    ∃ calls, Piece.quote.token filename source (.ofText earlier) ∈
      answers text filename source calls := by
  have ha := answers_unmatched text filename source
  refine ⟨_, ha ▸ List.mem_append_left _ ?_⟩
  rw [Rules.unmatched, leftover_endsInString text filename source h]
  simp

/-- As long as no end has been read, quotation marks toggle. -/
theorem guardsQuotes_turns {m : Nat}
    (he : ∀ token ∈ firsts m (Lexer.ofChars text filename source), token.isEnd = false) :
    let lexer := Lexer.ofChars text filename source
    GuardsQuotes (firsts m lexer) (turns m (fresh lexer)).waiting ∧
      ((nth m lexer).kind = .quote → Toggles (firsts m lexer) (nth m lexer)
        (turns m (fresh lexer)).waiting (turns (m + 1) (fresh lexer)).waiting) := by
  intro lexer
  have hy := Lexer.yields text filename source
  have hm := hy.le_length (Lexer.isEnd_drain_last _) he
  have hw : ∀ m, (turns m (fresh lexer)).waiting = Rules.standard.leftover [] (firsts m lexer) :=
    waiting_turns hy []
  obtain ⟨region, hg, hr⟩ := guarded_take text filename source m
  have hl : ∀ top ∈ (Rules.standard.leftover [] (lexer.drain.tokens.take m)).head?, _ :=
    last_take text filename source m
  have ho : ∀ opener ∈ Rules.standard.leftover [] (firsts m lexer), opener.kind.opens = true :=
    Rules.standard.opens_of_mem_leftover (by simp)
  rw [← hy.firsts_eq_take hm] at hg hr hl
  rw [hw, hw]
  refine ⟨⟨fun opener hm => Kind.mem_of_opens (ho opener hm), hg.top_iff.trans hr, hg.tail⟩, ?_⟩
  intro hq
  have ht := hg.toggles hq hr hl
  rwa [firsts_succ, Rules.leftover_append]

/-- How a check keeps quotation marks. Between calls it stands where some of the tokens have been read
one by one. Before the end is read, only openers wait, one that is a quotation mark waits just when an
odd number of them has been read, on top of the others, and each of them opens or closes a string in
turn. Of all the answers a quotation mark comes after the closers and before the other openers; it is
that of the string in which the text ends, and there is one if the text ends in a string. -/
theorem keeps_quotes :
    let lexer := Lexer.ofChars text filename source
    (∀ calls, ∃ m, ((fresh lexer).checks calls).2 = turns m (fresh lexer) ∧
      ((fresh lexer).checks calls).1.flatMap (·.read.reverse) = firsts m lexer) ∧
    (∀ m, (∀ token ∈ firsts m lexer, token.isEnd = false) →
      GuardsQuotes (firsts m lexer) (turns m (fresh lexer)).waiting ∧
        ((nth m lexer).kind = .quote → Toggles (firsts m lexer) (nth m lexer)
          (turns m (fresh lexer)).waiting (turns (m + 1) (fresh lexer)).waiting)) ∧
    (∀ calls before quote after,
      answers text filename source calls = before ++ quote :: after → quote.kind = .quote →
      (∀ token ∈ before, token.kind ∈ [.closeParen, .closeBracket, .closeBrace]) ∧
        (∀ token ∈ after, token.kind ∈ [.openParen, .openBracket, .openBrace, .endOfText]) ∧
        ∃ earlier, EndsInString earlier text ∧
          quote = Piece.quote.token filename source (.ofText earlier)) ∧
    ∀ earlier, EndsInString earlier text → ∃ calls,
      Piece.quote.token filename source (.ofText earlier) ∈ answers text filename source calls := by
  intro lexer
  refine ⟨fun calls => ?_, fun m => guardsQuotes_turns text filename source,
    fun calls before quote after => answers_quote text filename source,
    fun earlier => exists_answers_quote text filename source⟩
  obtain ⟨-, m, hm, hr, -⟩ := checks_turns Rules.standard_endsApart (Lexer.isEnd_drain_last lexer)
    (Lexer.yields text filename source) [] calls
  exact ⟨m, hm, hr⟩

end

/-- A stray closer, an opener, and a string that stays open: its quotation mark is pushed, and answered
with between the two. -/
theorem keeps_quotes_open :
    let text := [')', '(', '"', '[']
    let lexer := Lexer.ofChars text "" none
    let mark : Token := ⟨.quote, "\"", none, "", ⟨1, 3, 2⟩, ⟨1, 4, 3⟩⟩
    (∀ token ∈ firsts 2 lexer, token.isEnd = false) ∧ nth 2 lexer = mark ∧
      Toggles (firsts 2 lexer) mark (turns 2 (fresh lexer)).waiting
        (turns 3 (fresh lexer)).waiting ∧
      answers text "" none 3 = [⟨.closeParen, ")", none, "", ⟨1, 1, 0⟩, ⟨1, 2, 1⟩⟩, mark,
        ⟨.openParen, "(", none, "", ⟨1, 2, 1⟩, ⟨1, 3, 2⟩⟩] ∧
      ∃ earlier, EndsInString earlier text ∧ mark = Piece.quote.token "" none (.ofText earlier) := by
  intro text lexer mark
  obtain ⟨-, hturns, hanswers, -⟩ := keeps_quotes text "" none
  have hends : ∀ token ∈ firsts 2 lexer, token.isEnd = false := by decide +kernel
  have hmark : nth 2 lexer = mark := by decide +kernel
  have hall : answers text "" none 3 = [⟨.closeParen, ")", none, "", ⟨1, 1, 0⟩, ⟨1, 2, 1⟩⟩, mark,
      ⟨.openParen, "(", none, "", ⟨1, 2, 1⟩, ⟨1, 3, 2⟩⟩] := by decide +kernel
  obtain ⟨-, htoggles⟩ := hturns 2 hends
  obtain ⟨-, -, hstring⟩ := hanswers 3 [_] mark [_] hall rfl
  rw [hmark] at htoggles
  exact ⟨hends, hmark, htoggles rfl, hall, hstring⟩

end Checker

end BracketBalance
