import BracketBalance.Proofs.Accounts
import BracketBalance.Proofs.Marks

namespace BracketBalance

/-- Verdicts of one sort, with related openers waiting and related tokens to blame. -/
inductive Verdict.Related (related : Token → Token → Prop) : Verdict → Verdict → Prop
  | proceed {waiting waiting' : List Token} (left : List.Forall₂ related waiting waiting') :
      Related related (.proceed waiting) (.proceed waiting')
  | balanced : Related related .balanced .balanced
  | unbalanced {culprit culprit' : Token} {waiting waiting' : List Token}
      (blamed : related culprit culprit') (left : List.Forall₂ related waiting waiting') :
      Related related (.unbalanced culprit waiting) (.unbalanced culprit' waiting')

namespace Rules

variable {rules : Rules}

theorem strays_append (rules : Rules) (waiting a b : List Token) :
    rules.strays waiting (a ++ b) =
      rules.strays waiting a ++ rules.strays (rules.leftover waiting a) b := by
  induction a generalizing waiting with
  | nil => rfl
  | cons token a ih =>
    rw [List.cons_append, strays, ih, strays, List.append_assoc]
    rfl

theorem leftover_append (rules : Rules) (waiting a b : List Token) :
    rules.leftover waiting (a ++ b) = rules.leftover (rules.leftover waiting a) b :=
  List.foldl_append

/-- What waits after a token waited before, or is the token and opens. -/
theorem mem_waiting_judge {waiting : List Token} {token opener : Token}
    (h : opener ∈ (rules.judge waiting token).waiting waiting) :
    opener ∈ waiting ∨ opener = token ∧ rules.opens token.kind = true := by
  have hj := rules.judged waiting token
  generalize rules.judge waiting token = verdict at hj h
  cases hj with
  | pass | stray | complete => exact .inl h
  | push _ opens _ =>
    rcases List.mem_cons.mp h with rfl | h
    · exact .inr ⟨rfl, opens⟩
    · exact .inl h
  | pop | unclosed => exact .inl (List.mem_cons_of_mem _ h)

theorem opens_of_mem_leftover (rules : Rules) {waiting tokens : List Token}
    (hw : ∀ opener ∈ waiting, rules.opens opener.kind = true) :
    ∀ opener ∈ rules.leftover waiting tokens, rules.opens opener.kind = true := by
  induction tokens generalizing waiting with
  | nil => exact hw
  | cons token tokens ih =>
    apply ih
    intro opener hm
    rcases mem_waiting_judge hm with hm | ⟨rfl, opens⟩
    · exact hw opener hm
    · exact opens

/-- A stray token has been read. It closes, and does not open. -/
theorem of_mem_strays {waiting tokens : List Token}
    (he : ∀ token ∈ tokens, rules.ends token.kind = false) :
    ∀ token ∈ rules.strays waiting tokens,
      token ∈ tokens ∧ rules.opens token.kind = false ∧ rules.closes token.kind = true := by
  induction tokens generalizing waiting with
  | nil => simp [strays]
  | cons token tokens ih =>
    obtain ⟨het, hes⟩ := List.forall_mem_cons.mp he
    intro stray hm
    rcases List.mem_append.mp hm with hm | hm
    · have hj := rules.judged waiting token
      generalize rules.judge waiting token = verdict at hj hm
      cases hj with
      | pass | push | pop | complete => simp [Verdict.culprit?] at hm
      | stray _ opens closes _ _ =>
        obtain rfl : stray = token := by simpa [Verdict.culprit?] using hm
        exact ⟨List.mem_cons_self, opens, closes⟩
      | unclosed _ _ _ ends => simp [het] at ends
    · obtain ⟨hread, hkind⟩ := ih hes stray hm
      exact ⟨List.mem_cons_of_mem _ hread, hkind⟩

theorem closes_of_mem_strays {waiting tokens : List Token}
    (he : ∀ token ∈ tokens, rules.ends token.kind = false) :
    ∀ token ∈ rules.strays waiting tokens,
      rules.opens token.kind = false ∧ rules.closes token.kind = true := by
  intro token hm
  exact (of_mem_strays he token hm).2

/-- Where nothing is stray, the tokens pass. -/
theorem passes_of_strays {waiting tokens : List Token}
    (he : ∀ token ∈ tokens, rules.ends token.kind = false) (h : rules.strays waiting tokens = []) :
    rules.Passes waiting tokens (rules.leftover waiting tokens) := by
  induction tokens generalizing waiting with
  | nil => exact .nil
  | cons token tokens ih =>
    obtain ⟨het, hes⟩ := List.forall_mem_cons.mp he
    obtain ⟨hc, hs⟩ := List.append_eq_nil_iff.mp h
    have hj := rules.judged waiting token
    generalize hv : rules.judge waiting token = verdict at hj hc
    have hleft : rules.leftover waiting (token :: tokens) =
        rules.leftover (verdict.waiting waiting) tokens := by
      rw [← hv]
      rfl
    rw [hv] at hs
    cases hj with
    | pass | push | pop => exact .cons hv (hleft ▸ ih hes hs)
    | stray => cases hc
    | unclosed _ _ _ ends | complete _ _ _ ends => simp [het] at ends

theorem Passes.append {waiting middle left a b : List Token} (h : rules.Passes waiting a middle)
    (hb : rules.Passes middle b left) : rules.Passes waiting (a ++ b) left := by
  induction h with
  | nil => exact hb
  | cons first _ ih => exact .cons first (ih hb)

theorem Passes.leftover_eq {waiting tokens left : List Token} (h : rules.Passes waiting tokens left) :
    rules.leftover waiting tokens = left := by
  have hl := (h.leftover []).1
  rwa [List.append_nil] at hl

theorem Passes.strays_eq {waiting tokens left : List Token} (h : rules.Passes waiting tokens left) :
    rules.strays waiting tokens = [] := by
  have hs := (h.leftover []).2
  rwa [List.append_nil] at hs

/-- Tokens that neither open nor close may be left out, if they end no text. -/
theorem strays_filter {keep : Kind → Bool}
    (hk : ∀ kind, keep kind = false → rules.opens kind = false ∧ rules.closes kind = false)
    {tokens : List Token} (he : ∀ token ∈ tokens, rules.ends token.kind = false)
    (waiting : List Token) :
    rules.strays waiting (tokens.filter (fun token => keep token.kind)) =
        rules.strays waiting tokens ∧
      rules.leftover waiting (tokens.filter (fun token => keep token.kind)) =
        rules.leftover waiting tokens := by
  induction tokens generalizing waiting with
  | nil => exact ⟨rfl, rfl⟩
  | cons token tokens ih =>
    obtain ⟨het, hes⟩ := List.forall_mem_cons.mp he
    cases h : keep token.kind with
    | true =>
      obtain ⟨hs, hl⟩ := ih hes ((rules.judge waiting token).waiting waiting)
      rw [List.filter_cons_of_pos (p := fun token : Token => keep token.kind) h, strays, strays, hs]
      exact ⟨rfl, hl⟩
    | false =>
      obtain ⟨ho, hc⟩ := hk _ h
      have hj := judge_of_neutral ho hc het waiting
      rw [List.filter_cons_of_neg (p := fun token : Token => keep token.kind) (by simp [h])]
      obtain ⟨hs, hl⟩ := ih hes waiting
      rw [hs, hl]
      simp [strays, leftover, hj, Verdict.culprit?, Verdict.waiting]

def unmatched (rules : Rules) (tokens : List Token) : List Token :=
  rules.strays [] tokens ++ rules.leftover [] tokens

/-- Nothing is unmatched just when all the tokens pass and leave nothing waiting. -/
theorem unmatched_eq_nil_iff {tokens : List Token}
    (he : ∀ token ∈ tokens, rules.ends token.kind = false) :
    rules.unmatched tokens = [] ↔ rules.Passes [] tokens [] := by
  constructor
  · intro h
    obtain ⟨hs, hl⟩ := List.append_eq_nil_iff.mp h
    have hp := passes_of_strays he hs
    rwa [hl] at hp
  · intro h
    rw [unmatched, h.strays_eq, h.leftover_eq]
    rfl

section

variable {related : Token → Token → Prop} (hk : ∀ a b, related a b → a.kind = b.kind)
include hk

theorem action_congr {waiting waiting' : List Token} {token token' : Token}
    (hw : List.Forall₂ related waiting waiting') (ht : related token token') :
    rules.action waiting token = rules.action waiting' token' := by
  have hm : rules.matchesTop waiting token = rules.matchesTop waiting' token' ∧
      waiting.isEmpty = waiting'.isEmpty := by
    cases hw with
    | nil => exact ⟨rfl, rfl⟩
    | cons htop _ => simp [matchesTop, hk _ _ ht, hk _ _ htop]
  rw [action, hm.1, hm.2, hk _ _ ht]
  rfl

/-- Related tokens meet related verdicts. -/
theorem judge_related (rules : Rules) {waiting waiting' : List Token} {token token' : Token}
    (hw : List.Forall₂ related waiting waiting') (ht : related token token') :
    Verdict.Related related (rules.judge waiting token) (rules.judge waiting' token') := by
  rw [judge_eq, judge_eq, ← action_congr hk hw ht, ← hk _ _ ht]
  cases rules.action waiting token with
  | pass =>
    cases rules.ends token.kind with
    | true => exact .balanced
    | false => exact .proceed hw
  | pop =>
    apply Verdict.Related.proceed
    cases hw with
    | nil => exact .nil
    | cons _ hbelow => exact hbelow
  | push => exact .proceed (.cons ht hw)
  | report =>
    cases he : rules.ends token.kind with
    | false =>
      have he' : rules.ends token'.kind = false := hk _ _ ht ▸ he
      simp only [blame_of_not_ends he, blame_of_not_ends he']
      exact .unbalanced ht hw
    | true =>
      have he' : rules.ends token'.kind = true := hk _ _ ht ▸ he
      cases hw with
      | nil =>
        simp only [blame_nil]
        exact .unbalanced ht .nil
      | cons htop hbelow =>
        simp only [blame_of_ends he, blame_of_ends he']
        exact .unbalanced htop hbelow

/-- So they leave related openers waiting and blame related tokens. -/
theorem judge_forall₂ (rules : Rules) {waiting waiting' : List Token} {token token' : Token}
    (hw : List.Forall₂ related waiting waiting') (ht : related token token') :
    List.Forall₂ related (rules.judge waiting token).culprit?.toList
        (rules.judge waiting' token').culprit?.toList ∧
      List.Forall₂ related ((rules.judge waiting token).waiting waiting)
        ((rules.judge waiting' token').waiting waiting') := by
  have hv := judge_related hk rules hw ht
  generalize rules.judge waiting token = verdict at hv
  generalize rules.judge waiting' token' = verdict' at hv
  cases hv with
  | proceed left => exact ⟨.nil, left⟩
  | balanced => exact ⟨.nil, hw⟩
  | unbalanced blamed left => exact ⟨.cons blamed .nil, left⟩

theorem strays_forall₂ (rules : Rules) {tokens tokens' : List Token}
    (ht : List.Forall₂ related tokens tokens') :
    ∀ {waiting waiting' : List Token}, List.Forall₂ related waiting waiting' →
      List.Forall₂ related (rules.strays waiting tokens) (rules.strays waiting' tokens') ∧
        List.Forall₂ related (rules.leftover waiting tokens) (rules.leftover waiting' tokens') := by
  induction ht with
  | nil => exact fun hw => ⟨.nil, hw⟩
  | cons htoken _ ih =>
    intro waiting waiting' hw
    obtain ⟨hculprit, hwaiting⟩ := judge_forall₂ hk rules hw htoken
    obtain ⟨hs, hl⟩ := ih hwaiting
    exact ⟨List.rel_append hculprit hs, hl⟩

theorem unmatched_forall₂ (rules : Rules) {tokens tokens' : List Token}
    (ht : List.Forall₂ related tokens tokens') :
    List.Forall₂ related (rules.unmatched tokens) (rules.unmatched tokens') := by
  obtain ⟨hs, hl⟩ := strays_forall₂ hk rules ht .nil
  exact List.rel_append hs hl

end

end Rules

theorem forall₂_getD {α : Type} {related : α → α → Prop} {a b : List α} {x y : α}
    (h : List.Forall₂ related a b) (hd : related x y) (i : Nat) :
    related (a[i]?.getD x) (b[i]?.getD y) := by
  induction h generalizing i with
  | nil => exact hd
  | cons head _ ih =>
    cases i with
    | zero => exact head
    | succ i => exact ih i

namespace Checker

/-- What a new checker answers on a text, asked so many times. -/
def answers (text : List Char) (filename : String) (source : Option Nat) (calls : Nat) :
    List Token :=
  ((fresh (Lexer.ofChars text filename source)).checks calls).1.map Answer.token

variable (text : List Char) (filename : String) (source : Option Nat)

/-- The marks leave the same strays and openers as all the tokens do. -/
theorem strays_marks :
    Rules.standard.strays [] (Region.code.marks filename source .origin text) =
        Rules.standard.strays [] (Lexer.ofChars text filename source).drain.tokens ∧
      Rules.standard.leftover [] (Region.code.marks filename source .origin text) =
        Rules.standard.leftover [] (Lexer.ofChars text filename source).drain.tokens := by
  have hk : ∀ kind, Kind.delimits kind = false →
      Rules.standard.opens kind = false ∧ Rules.standard.closes kind = false := by
    intro kind h
    simpa [Kind.delimits, Rules.standard] using h
  rw [← Lexer.filter_drain]
  exact Rules.strays_filter hk (Lexer.isEnd_of_mem_drain _) []

theorem unmatched_marks :
    Rules.standard.unmatched (Region.code.marks filename source .origin text) =
      Rules.standard.unmatched (Lexer.ofChars text filename source).drain.tokens := by
  obtain ⟨hs, hl⟩ := strays_marks text filename source
  rw [Rules.unmatched, hs, hl]
  rfl

/-- The marks without a partner, and then the end for ever. -/
theorem answers_eq (calls : Nat) :
    answers text filename source calls = (List.range calls).map fun i =>
      (Rules.standard.unmatched (Region.code.marks filename source .origin text))[i]?.getD
        (Piece.ending.token filename source (.ofText text)) := by
  rw [unmatched_marks, ← (Lexer.drain_eq_layout text filename source).2]
  exact checks_tokens Rules.standard_endsApart (Lexer.isEnd_drain_last _)
    (Lexer.yields text filename source) (Lexer.isEnd_of_mem_drain _) [] calls

theorem length_answers (calls : Nat) : (answers text filename source calls).length = calls := by
  rw [answers_eq, List.length_map, List.length_range]

/-- So many calls as there are marks without a partner, and one more for the end. -/
theorem answers_unmatched :
    let marks := Region.code.marks filename source .origin text
    answers text filename source ((Rules.standard.unmatched marks).length + 1) =
      Rules.standard.unmatched marks ++ [Piece.ending.token filename source (.ofText text)] := by
  intro marks
  rw [answers_eq]
  apply List.ext_getElem
  · simp
  · intro i hi hi'
    rw [List.getElem_map, List.getElem_range, List.getElem_append]
    split
    · next hlt => rw [List.getElem?_eq_getElem hlt, Option.getD_some]
    · next hge =>
      rw [List.getElem?_eq_none (Nat.not_lt.mp hge), Option.getD_none, List.getElem_singleton]

theorem answers_one : answers text filename source 1 =
    [(fresh (Lexer.ofChars text filename source)).check.1.token] := by
  rw [answers, checks, check?_eq]
  rfl

/-- The first answer of all. -/
theorem check_token :
    (fresh (Lexer.ofChars text filename source)).check.1.token =
      (Rules.standard.unmatched (Region.code.marks filename source .origin text)).head?.getD
        (Piece.ending.token filename source (.ofText text)) := by
  have hc := answers_one text filename source
  rw [answers_eq] at hc
  simpa [List.head?_eq_getElem?] using hc.symm

/-- The first answer is the end just when all the marks pass and leave nothing waiting. -/
theorem check_isEnd_iff_passes :
    (fresh (Lexer.ofChars text filename source)).check.1.token.isEnd = true ↔
      Rules.standard.Passes [] (Region.code.marks filename source .origin text) [] := by
  have he : ∀ mark ∈ Region.code.marks filename source .origin text,
      Rules.standard.ends mark.kind = false := Region.ends_of_mem_marks filename source
  rw [← Rules.unmatched_eq_nil_iff he, check_token]
  cases hu : Rules.standard.unmatched (Region.code.marks filename source .origin text) with
  | nil => simp [Token.isEnd, Piece.token, Piece.ending]
  | cons token others =>
    have hm : token ∈ Rules.standard.unmatched (Region.code.marks filename source .origin text) :=
      hu ▸ List.mem_cons_self
    have hn : token.isEnd = false := by
      rcases List.mem_append.mp hm with hm | hm
      · have hs := Rules.closes_of_mem_strays he token hm
        exact Rules.standard_endsApart.not_ends (.inr hs.2)
      · have ho := Rules.standard.opens_of_mem_leftover (by simp) token hm
        exact Rules.standard_endsApart.not_ends (.inl ho)
    simp [hn]

variable {text filename source}

/-- Texts with related marks and ends have related answers. -/
theorem answers_forall₂ {related : Token → Token → Prop} {text' : List Char} {filename' : String}
    {source' : Option Nat}
    (hm : List.Forall₂ related
      (Rules.standard.unmatched (Region.code.marks filename source .origin text))
      (Rules.standard.unmatched (Region.code.marks filename' source' .origin text')))
    (he : related (Piece.ending.token filename source (.ofText text))
      (Piece.ending.token filename' source' (.ofText text'))) (calls : Nat) :
    List.Forall₂ related (answers text filename source calls)
      (answers text' filename' source' calls) := by
  rw [answers_eq, answers_eq, List.forall₂_map_left_iff, List.forall₂_map_right_iff,
    List.forall₂_same]
  exact fun i _ => forall₂_getD hm he i

end Checker

end BracketBalance
