import BracketBalance.Proofs.Erasure
import BracketBalance.Proofs.Progress
import BracketBalance.Proofs.Quotes
import BracketBalance.Proofs.Recognition

namespace BracketBalance

namespace Rules

variable {rules : Rules}

def ClosedBy (rules : Rules) (after : List Token) (opener : Token) : Prop :=
  ∃ inside closer rest, after = inside ++ closer :: rest ∧ rules.closes closer.kind = true ∧
    rules.pairs opener.kind closer.kind = true ∧ rules.Balanced (inside.map Token.kind)

/-- What becomes of an opener that was pushed on others and has been followed by some tokens, when more
pass. -/
inductive StaysOrCloses (rules : Rules) (opener : Token) (below before tokens left : List Token) : Prop
  | stays {above : List Token} (under : left = above ++ opener :: below)
  | closes (inside : List Token) (closer : Token) (rest : List Token)
      (read : tokens = inside ++ closer :: rest)
      (closes : rules.closes closer.kind = true) (pairs : rules.pairs opener.kind closer.kind = true)
      (balanced : rules.Balanced ((before ++ inside).map Token.kind))
      (others : rules.Passes below rest left)

theorem StaysOrCloses.cons {opener token : Token} {below before tokens left : List Token}
    (h : rules.StaysOrCloses opener below (before ++ [token]) tokens left) :
    rules.StaysOrCloses opener below before (token :: tokens) left := by
  cases h with
  | stays under => exact .stays under
  | closes inside closer rest read closes pairs balanced others =>
    rw [List.append_assoc] at balanced
    exact .closes (token :: inside) closer rest (congrArg (token :: ·) read) closes pairs balanced others

/-- What waits above an opener is what the tokens after it leave waiting. When more pass, the opener stays
where it is, or one of them closes it. -/
theorem Passes.stays_or_closes {before above below tokens left : List Token} {opener : Token}
    (hf : rules.Factors before above) (h : rules.Passes (above ++ opener :: below) tokens left) :
    rules.StaysOrCloses opener below before tokens left := by
  generalize hw : above ++ opener :: below = waiting at h
  induction h generalizing before above with
  | nil => exact .stays hw.symm
  | @cons waiting next left token tokens first rest ih =>
    have hj := rules.judged waiting token
    rw [first] at hj
    cases hj with
    | pass _ opens closes _ =>
      have inside : rules.Balanced ([token].map Token.kind) := .neutral opens closes
      exact (ih (hf.append inside) hw).cons
    | push _ opens _ => exact (ih (hf.push opens) (congrArg (token :: ·) hw)).cons
    | pop _ closes pairs =>
      cases above with
      | nil =>
        obtain ⟨rfl, rfl⟩ := List.cons.inj hw
        rw [← List.append_nil before] at hf
        exact .closes [] token tokens rfl closes pairs hf.balanced rest
      | cons top above =>
        obtain ⟨rfl, hnext⟩ := List.cons.inj hw
        exact (ih (hf.pop closes pairs) hnext).cons

theorem Passes.mem_or_mem {waiting tokens left : List Token} {opener : Token}
    (h : rules.Passes waiting tokens left) (hm : opener ∈ left) :
    opener ∈ waiting ∨ opener ∈ tokens := by
  rw [← h.leftover_eq] at hm
  exact mem_leftover hm

/-- Tokens that close an opener, and balanced ones between, take it away and nothing else. -/
theorem Passes.length_of_closed (self : rules.SelfPaired) (apart : rules.EndsApart)
    {below inside rest left : List Token} {opener closer : Token}
    (hs : rules.Settled ((opener :: below).map Token.kind))
    (hc : rules.closes closer.kind = true) (hp : rules.pairs opener.kind closer.kind = true)
    (hb : rules.Balanced (inside.map Token.kind))
    (h : rules.Passes (opener :: below) (inside ++ closer :: rest) left) :
    ∃ next, rules.Passes (opener :: below) (inside ++ [closer]) next ∧ rules.Passes next rest left ∧
      next.length = below.length := by
  have unended : ∀ token ∈ inside, rules.ends token.kind = false := fun token hm =>
    h.not_ends apart token (List.mem_append_left _ hm)
  obtain ⟨middle, hinside, hkinds⟩ := passes_of_balanced self hs hb unended
  obtain ⟨middle', hinside', hrest⟩ := h.split
  obtain rfl := hinside.unique hinside'
  cases hrest with
  | @cons _ next _ _ _ first rest =>
    cases middle with
    | nil => cases hkinds
    | cons top others =>
      obtain ⟨htop, hothers⟩ := List.cons.inj hkinds
      have hpop : rules.judge (top :: others) closer = .proceed others :=
        judge_of_pairs hc (htop ▸ hp)
      obtain rfl := Verdict.proceed.inj (hpop.symm.trans first)
      refine ⟨others, hinside.append (.cons hpop .nil), rest, ?_⟩
      simpa using congrArg List.length hothers

/-- Whether an opener still waits when some tokens have passed: it does unless one of them closes it. -/
theorem Passes.mem_iff_not_closedBy (self : rules.SelfPaired) (apart : rules.EndsApart)
    {below after left : List Token} {opener : Token}
    (hs : rules.Settled ((opener :: below).map Token.kind))
    (h : rules.Passes (opener :: below) after left) (hw : opener ∉ below) (ha : opener ∉ after) :
    opener ∈ left ↔ ¬ rules.ClosedBy after opener := by
  have hnone : rules.Factors [] [] := .base .nil
  constructor
  · rintro hm ⟨inside, closer, rest, rfl, hc, hp, hb⟩
    obtain ⟨next, hclosed, hrest, hlength⟩ := h.length_of_closed self apart hs hc hp hb
    cases stays_or_closes hnone hclosed with
    | @stays above under =>
      rw [under, List.length_append, List.length_cons] at hlength
      omega
    | closes _ _ others read _ _ _ hothers =>
      -- what waits then has waited below, and the opener is not read again
      have hafter : ∀ token ∈ others ++ rest, token ∈ inside ++ closer :: rest := by
        intro token hr
        rw [List.append_cons, read]
        rcases List.mem_append.mp hr with hr | hr <;> simp [hr]
      rcases (hothers.append hrest).mem_or_mem hm with hm | hm
      · exact hw hm
      · exact ha (hafter _ hm)
  · intro hn
    cases stays_or_closes hnone h with
    | @stays above under =>
      rw [under]
      exact List.mem_append_right _ List.mem_cons_self
    | closes inside closer rest read closes pairs balanced _ =>
      exact absurd ⟨inside, closer, rest, read, closes, pairs, balanced⟩ hn

/-- A token that does not close what waits on top closes no opener below either. -/
theorem Passes.closedBy_concat_iff (self : rules.SelfPaired) (apart : rules.EndsApart)
    {below after left : List Token} {opener last : Token}
    (hs : rules.Settled ((opener :: below).map Token.kind))
    (h : rules.Passes (opener :: below) after left)
    (hl : rules.closes last.kind = true → rules.matchesTop left last = false) :
    rules.ClosedBy (after ++ [last]) opener ↔ rules.ClosedBy after opener := by
  constructor
  · rintro ⟨inside, closer, rest, heq, hc, hp, hb⟩
    rcases List.eq_nil_or_concat rest with rfl | ⟨rest, token, rfl⟩
    · obtain ⟨rfl, hlast⟩ := List.append_inj' heq rfl
      obtain rfl : last = closer := List.singleton_inj.mp hlast
      have unended := h.not_ends apart
      obtain ⟨middle, hinside, hkinds⟩ := passes_of_balanced self hs hb unended
      obtain rfl := hinside.unique h
      cases middle with
      | nil => cases hkinds
      | cons top others =>
        obtain ⟨htop, -⟩ := List.cons.inj hkinds
        have hmatch : rules.pairs top.kind last.kind = false := hl hc
        rw [htop, hp] at hmatch
        cases hmatch
    · rw [List.concat_eq_append, ← List.cons_append, ← List.append_assoc] at heq
      obtain ⟨rfl, -⟩ := List.append_inj' heq rfl
      exact ⟨inside, closer, rest, rfl, hc, hp, hb⟩
  · rintro ⟨inside, closer, rest, rfl, hc, hp, hb⟩
    exact ⟨inside, closer, rest ++ [last], by simp, hc, hp, hb⟩

end Rules

/-- A token opens something when it is read after others: a bracket whatever they are, a quotation mark unless
they have begun a string. -/
def OpensAfter (before : List Token) (token : Token) : Prop :=
  token.kind ∈ [.openParen, .openBracket, .openBrace] ∨
    token.kind = .quote ∧ (quotes before).length % 2 = 0

/-- One of these tokens opens something that no other of them closes. -/
def LeftOpen (tokens : List Token) (opener : Token) : Prop :=
  ∃ before after, tokens = before ++ opener :: after ∧ OpensAfter before opener ∧
    ¬ Rules.standard.ClosedBy after opener

theorem OpensAfter.opens {before : List Token} {token : Token} (h : OpensAfter before token) :
    token.kind.opens = true := by
  rcases h with hk | ⟨hk, -⟩
  · generalize token.kind = kind at hk
    revert hk
    cases kind <;> decide
  · rw [hk]
    rfl

namespace Guarded

variable {waiting before : List Token} {region : Region} {token : Token}

/-- What opens something is pushed. -/
theorem judge_of_opensAfter (h : Guarded waiting region)
    (hr : region.quoted = true ↔ (quotes before).length % 2 = 1) (ho : OpensAfter before token) :
    Rules.standard.judge waiting token = .proceed (token :: waiting) := by
  have hopens := ho.opens
  rcases ho with hk | ⟨hk, he⟩
  · apply Rules.judge_of_opens hopens
    intro hc
    have hq := (Kind.opens_and_closes_iff _).mp ⟨hopens, hc⟩
    simp [hq] at hk
  · have hq : region.quoted = false := by
      rw [← Bool.not_eq_true, hr]
      omega
    exact Rules.judge_opening hk (h.not_mem_of_not_quoted hq)

theorem opensAfter_of_mem (h : Guarded waiting region)
    (hr : region.quoted = true ↔ (quotes before).length % 2 = 1) (hw : token ∉ waiting)
    (hm : token ∈ (Rules.standard.judge waiting token).waiting waiting) : OpensAfter before token := by
  rcases Rules.mem_waiting_judge hm with hm' | ⟨-, hopens⟩
  · exact absurd hm' hw
  · have hk := Kind.mem_of_opens hopens
    by_cases hq : token.kind = .quote
    · refine .inr ⟨hq, ?_⟩
      by_contra hodd
      -- a quotation mark that closes a string is not pushed
      obtain ⟨opening, below, rfl, ho, -⟩ := h.exists_of_quoted (hr.mpr (by omega))
      rw [Rules.judge_closing ho hq below] at hm
      exact hw (List.mem_cons_of_mem _ hm)
    · exact .inl (by simpa [hq] using hk)

/-- A token that is read once waits in the end if it opens something that is not closed. -/
theorem mem_iff (h : Guarded waiting region)
    (hr : region.quoted = true ↔ (quotes before).length % 2 = 1) {after left : List Token} {last : Token}
    (hs : Rules.standard.Settled (waiting.map Token.kind))
    (hp : Rules.standard.Passes waiting (token :: after) left) (hw : token ∉ waiting) (ha : token ∉ after)
    (hl : last.kind.closes = true → Rules.standard.matchesTop left last = false) :
    token ∈ left ↔ OpensAfter before token ∧ ¬ Rules.standard.ClosedBy (after ++ [last]) token := by
  cases hp with
  | @cons _ next _ _ _ first rest =>
    have pushed : OpensAfter before token →
        (token ∈ left ↔ ¬ Rules.standard.ClosedBy (after ++ [last]) token) := by
      intro ho
      have hj := h.judge_of_opensAfter hr ho
      obtain rfl := Verdict.proceed.inj (hj.symm.trans first)
      have hs' : Rules.standard.Settled ((token :: waiting).map Token.kind) := by
        have hs' := hs.judge token
        rwa [hj] at hs'
      rw [rest.closedBy_concat_iff Rules.standard_selfPaired Rules.standard_endsApart hs' hl]
      exact rest.mem_iff_not_closedBy Rules.standard_selfPaired Rules.standard_endsApart hs' hw ha
    constructor
    · intro hm
      have hnext : token ∈ (Rules.standard.judge waiting token).waiting waiting := by
        rw [first]
        exact (rest.mem_or_mem hm).resolve_right ha
      have ho := h.opensAfter_of_mem hr hw hnext
      exact ⟨ho, (pushed ho).mp hm⟩
    · rintro ⟨ho, hc⟩
      exact (pushed ho).mpr hc

end Guarded

namespace Lexer

open TokenStream

section

variable (text : List Char) (filename : String) (source : Option Nat)

theorem size_spelling_lt {i n : Nat} (hi : i < n) (hn : n ≤ (Region.code.slices text).length) :
    Utf8.size (spelling i (Region.code.slices text)) <
      Utf8.size (spelling n (Region.code.slices text)) := by
  have ht : Tiles text (Region.code.slices text) := slices_eq_iff_tiles.mp rfl
  have step : ∀ k < (Region.code.slices text).length,
      Utf8.size (spelling k (Region.code.slices text)) <
        Utf8.size (spelling (k + 1) (Region.code.slices text)) := by
    intro k hk
    obtain ⟨c, lexeme, hlexeme⟩ :=
      List.exists_cons_of_ne_nil (ht.lexeme_ne_nil _ (List.getElem_mem hk))
    have hpos := c.utf8Size_pos
    rw [spelling_succ, List.getElem?_eq_getElem hk, Option.getD_some, hlexeme, Utf8.size_append,
      Utf8.size_cons]
    omega
  induction hi with
  | refl => exact step i hn
  | step _ ih => exact Nat.lt_trans (ih (Nat.le_of_succ_le hn)) (step _ hn)

/-- Up to the first end no token is given twice. -/
theorem nodup_firsts {n : Nat} (hn : n ≤ (Region.code.slices text).length + 1) :
    (firsts n (ofChars text filename source)).Nodup := by
  induction n with
  | zero => exact List.nodup_nil
  | succ n ih =>
    rw [firsts_succ, List.nodup_append]
    refine ⟨ih (Nat.le_of_succ_le hn), List.pairwise_singleton _ _, ?_⟩
    intro token hm other ho he
    obtain rfl := List.mem_singleton.mp ho
    obtain ⟨i, hi, rfl⟩ := mem_firsts_iff.mp hm
    have hlt := size_spelling_lt text hi (Nat.le_of_succ_le_succ hn)
    have hstart := congrArg (·.start.offset) he
    simp only [nth_start] at hstart
    exact absurd hstart (Nat.ne_of_lt hlt)

/-- No more tokens pass than stand before the end. -/
theorem le_length_of_passes {n : Nat} {left : List Token}
    (hp : Rules.standard.Passes [] (firsts n (ofChars text filename source)) left) :
    n ≤ (Region.code.slices text).length := by
  have hn := (yields text filename source).le_length (isEnd_drain_last _)
    (hp.not_ends Rules.standard_endsApart)
  rwa [length_drain] at hn

/-- One of the first tokens of a text waits after them if it opens something that is not closed. -/
theorem mem_iff_of_passes {before after left : List Token} {last token : Token}
    (hread : before ++ token :: after <+: (ofChars text filename source).drain.tokens)
    (hnodup : (before ++ token :: after).Nodup)
    (hp : Rules.standard.Passes [] (before ++ token :: after) left)
    (hl : last.kind.closes = true → Rules.standard.matchesTop left last = false) :
    token ∈ left ↔ OpensAfter before token ∧ ¬ Rules.standard.ClosedBy (after ++ [last]) token := by
  obtain ⟨waiting, hbefore, hafter⟩ := hp.split
  have htake : before = (ofChars text filename source).drain.tokens.take before.length :=
    List.prefix_iff_eq_take.mp ((List.prefix_append _ _).trans hread)
  obtain ⟨region, hg, hr⟩ := guarded_take text filename source before.length
  rw [← htake, hbefore.leftover_eq] at hg
  rw [← htake] at hr
  obtain ⟨-, hlater, hearlier⟩ := List.nodup_append.mp hnodup
  have hw : token ∉ waiting := by
    intro hm
    have hm := (hbefore.mem_or_mem hm).resolve_left List.not_mem_nil
    exact hearlier token hm token List.mem_cons_self rfl
  have hs : Rules.standard.Settled (waiting.map Token.kind) := by
    rw [← hbefore.leftover_eq]
    exact Rules.Settled.leftover Rules.standard.settled_nil before
  exact hg.mem_iff hr hs hafter hw (List.nodup_cons.mp hlater).1 hl

/-- What waits after the first tokens of a text, and a token after them that opens and closes nothing: just
what all of these leave open. -/
theorem mem_iff_leftOpen {n : Nat} {left : List Token} {last token : Token}
    (hp : Rules.standard.Passes [] (firsts n (ofChars text filename source)) left)
    (ho : last.kind.opens = false)
    (hl : last.kind.closes = true → Rules.standard.matchesTop left last = false) :
    token ∈ left ↔ LeftOpen (firsts n (ofChars text filename source) ++ [last]) token := by
  have hy := yields text filename source
  have hnodup := nodup_firsts text filename source
    (Nat.le_succ_of_le (le_length_of_passes text filename source hp))
  have hread : firsts n (ofChars text filename source) <+:
      (ofChars text filename source).drain.tokens := by
    have hn := hy.le_length (isEnd_drain_last _) (hp.not_ends Rules.standard_endsApart)
    rw [hy.firsts_eq_take hn]
    exact List.take_prefix _ _
  generalize firsts n (ofChars text filename source) = passed at hp hnodup hread ⊢
  constructor
  · intro hm
    have hpassed := (hp.mem_or_mem hm).resolve_left List.not_mem_nil
    obtain ⟨before, after, rfl⟩ := List.append_of_mem hpassed
    refine ⟨before, after ++ [last], ?_, ?_⟩
    · rw [List.append_assoc, List.cons_append]
    · exact (mem_iff_of_passes text filename source hread hnodup hp hl).mp hm
  · rintro ⟨before, after, heq, hopen, hclosed⟩
    rcases List.eq_nil_or_concat after with rfl | ⟨after, other, rfl⟩
    · obtain ⟨-, hlast⟩ := List.append_inj' heq rfl
      obtain rfl : last = token := List.singleton_inj.mp hlast
      rw [hopen.opens] at ho
      cases ho
    · rw [List.concat_eq_append, ← List.cons_append, ← List.append_assoc] at heq
      obtain ⟨rfl, hlast⟩ := List.append_inj' heq rfl
      obtain rfl : last = other := List.singleton_inj.mp hlast
      rw [List.concat_eq_append] at hclosed
      exact (mem_iff_of_passes text filename source hread hnodup hp hl).mpr ⟨hopen, hclosed⟩

end

end Lexer

end BracketBalance
