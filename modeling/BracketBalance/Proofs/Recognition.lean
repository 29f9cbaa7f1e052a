import Mathlib.Data.List.TakeWhile
import BracketBalance.Proofs.Reduction
import BracketBalance.Proofs.Calls

namespace BracketBalance

namespace Rules

variable {rules : Rules}

def beforeEnd (rules : Rules) (tokens : List Token) : List Token :=
  tokens.takeWhile (fun token => !rules.ends token.kind)

/-- The first token that ends a text, if a last one comes after the others for ever. -/
def firstEnd (rules : Rules) (tokens : List Token) (last : Token) : Token :=
  (tokens.find? (fun token => rules.ends token.kind)).getD last

theorem ends_firstEnd {last : Token} (tokens : List Token) (h : rules.ends last.kind = true) :
    rules.ends (rules.firstEnd tokens last).kind = true := by
  unfold firstEnd
  cases hf : tokens.find? (fun token => rules.ends token.kind) with
  | none => exact h
  | some token => simpa using List.find?_some hf

theorem beforeEnd_append {passed rest : List Token}
    (h : ∀ token ∈ passed, rules.ends token.kind = false) :
    rules.beforeEnd (passed ++ rest) = passed ++ rules.beforeEnd rest :=
  List.takeWhile_append_of_pos (fun token hm => by simp [h token hm])

theorem firstEnd_append {passed rest : List Token} {last : Token}
    (h : ∀ token ∈ passed, rules.ends token.kind = false) :
    rules.firstEnd (passed ++ rest) last = rules.firstEnd rest last := by
  have hp : passed.find? (fun token => rules.ends token.kind) = none := by
    simpa using h
  simp [firstEnd, List.find?_append, hp]

theorem beforeEnd_of_forall {tokens : List Token}
    (h : ∀ token ∈ tokens, rules.ends token.kind = false) : rules.beforeEnd tokens = tokens :=
  List.takeWhile_eq_self_iff.mpr (fun token hm => by simp [h token hm])

theorem head_of_ends {rest : List Token} {last : Token}
    (h : rules.ends (rest.head?.getD last).kind = true) :
    rules.beforeEnd rest = [] ∧ rules.firstEnd rest last = rest.head?.getD last := by
  cases rest with
  | nil => exact ⟨rfl, rfl⟩
  | cons token rest =>
    have ht : rules.ends token.kind = true := h
    simp [beforeEnd, firstEnd, ht]

theorem Passes.unique {waiting tokens left left' : List Token} (h : rules.Passes waiting tokens left)
    (h' : rules.Passes waiting tokens left') : left = left' := by
  induction h with
  | nil => cases h'; rfl
  | cons first _ ih =>
    cases h' with
    | cons first' rest' =>
      obtain rfl := Verdict.proceed.inj (first.symm.trans first')
      exact ih rest'

theorem Passes.split {waiting left a b : List Token} (h : rules.Passes waiting (a ++ b) left) :
    ∃ next, rules.Passes waiting a next ∧ rules.Passes next b left := by
  induction a generalizing waiting with
  | nil => exact ⟨waiting, .nil, h⟩
  | cons token a ih =>
    cases h with
    | cons first rest =>
      obtain ⟨next, ha, hb⟩ := ih rest
      exact ⟨next, .cons first ha, hb⟩

end Rules

variable {σ : Type} [TokenStream σ] {stream : σ} {rules : Rules} {tokens : List Token} {last : Token}

/-- A fresh checker always answers. It answers with an end exactly when the tokens before the first one
pass and leave nothing waiting, and the end that it gives is that first one. -/
theorem Checker.check?_fresh (apart : rules.EndsApart) (hl : rules.ends last.kind = true)
    (h : TokenStream.Yields stream rules tokens last) :
    ∃ answer after, (Checker.fresh stream).check? = some (answer, after) ∧
      (rules.ends answer.token.kind = true ↔ rules.Passes [] (rules.beforeEnd tokens) []) ∧
      (rules.ends answer.token.kind = true → answer.token = rules.firstEnd tokens last) := by
  obtain ⟨passed, rest, left, answer, rfl, hp, ha, -, hcheck⟩ :=
    Checker.check?_of_yields apart hl h []
  refine ⟨answer, _, hcheck, ?_⟩
  have hgo := hp.not_ends apart
  rw [Rules.beforeEnd_append hgo, Rules.firstEnd_append hgo]
  obtain ⟨-, hconc, -, -⟩ := Rules.concludes_of_judge apart ha
  generalize hleft : (rules.judge left (rest.head?.getD last)).waiting left = final at hconc
  generalize htoken : rest.head?.getD last = token at ha hconc hleft
  cases hconc with
  | stray opens closes unmatched =>
    have he := apart.not_ends (.inr closes)
    refine ⟨iff_of_false (by simp [he]) ?_, fun h => by simp [he] at h⟩
    intro hpass
    cases rest with
    | nil =>
      obtain rfl : last = answer.token := htoken
      simp [he] at hl
    | cons first rest =>
      obtain rfl : first = answer.token := htoken
      have hb : rules.beforeEnd (answer.token :: rest) = answer.token :: rules.beforeEnd rest := by
        simp [Rules.beforeEnd, he]
      rw [hb] at hpass
      obtain ⟨next, hn, hrest⟩ := hpass.split
      obtain rfl := hp.unique hn
      cases hrest with
      | cons first _ => simp [first, Verdict.answer?] at ha
  | @unclosed top token below ends =>
    have he := apart.not_ends (.inl (hp.opens (by simp) answer.token List.mem_cons_self))
    refine ⟨iff_of_false (by simp [he]) ?_, fun h => by simp [he] at h⟩
    rw [← htoken] at ends
    rw [(Rules.head_of_ends ends).1, List.append_nil]
    exact fun hpass => absurd (hp.unique hpass) (List.cons_ne_nil _ _)
  | complete ends =>
    rw [← htoken] at ends ⊢
    obtain ⟨hb, hf⟩ := Rules.head_of_ends ends
    rw [hb, hf, List.append_nil]
    exact ⟨iff_of_true ends hp, fun _ => rfl⟩

/-- A replay that ends with an end: the first call answers with the first end of the stream if and only
if the kinds of the tokens before it are balanced. -/
theorem Replay.answers_end_iff_balanced (replay : Replay) (apart : replay.rules.EndsApart)
    (self : replay.rules.SelfPaired) (ends : replay.rules.ends replay.last.kind = true) :
    ∃ answer after, (Checker.fresh replay).check? = some (answer, after) ∧
      (answer.token = replay.rules.firstEnd replay.tokens replay.last ↔
        replay.rules.Balanced ((replay.rules.beforeEnd replay.tokens).map Token.kind)) := by
  obtain ⟨answer, after, hcheck, hiff, hfirst⟩ :=
    Checker.check?_fresh apart ends (Replay.yields replay.rules replay.tokens replay.last)
  refine ⟨answer, after, hcheck, ?_⟩
  have hbefore : ∀ token ∈ replay.rules.beforeEnd replay.tokens,
      replay.rules.ends token.kind = false := by
    intro token hm
    simpa using List.mem_takeWhile_imp hm
  rw [← Rules.passes_iff_balanced self hbefore, ← hiff]
  constructor
  · intro h
    rw [h]
    exact Rules.ends_firstEnd replay.tokens ends
  · exact hfirst

/-- Quotation marks, nested around brackets and side by side, before two ends. -/
theorem Replay.answers_end_quotes :
    let replay : Replay := ⟨.standard, [Token.bare .quote, .bare .openParen, .bare .closeParen,
      .bare .quote, .bare .quote, .bare .quote, .bare .endOfText, .bare .closeBrace], .bare .endOfText⟩
    replay.rules.EndsApart ∧ replay.rules.SelfPaired ∧ replay.rules.ends replay.last.kind = true ∧
      ∃ answer after, (Checker.fresh replay).check? = some (answer, after) ∧
        answer.token = .bare .endOfText := by
  intro replay
  refine ⟨Rules.standard_endsApart, Rules.standard_selfPaired, rfl, ?_⟩
  obtain ⟨answer, after, hcheck, hiff⟩ :=
    replay.answers_end_iff_balanced Rules.standard_endsApart Rules.standard_selfPaired rfl
  refine ⟨answer, after, hcheck, hiff.mpr ?_⟩
  have parens : Rules.standard.Balanced [.openParen, .closeParen] := .wrap .nil rfl rfl rfl
  have quotes : Rules.standard.Balanced [.quote, .quote] := .wrap .nil rfl rfl rfl
  have nested : Rules.standard.Balanced [.quote, .openParen, .closeParen, .quote] :=
    .wrap parens rfl rfl rfl
  exact nested.append quotes

end BracketBalance
