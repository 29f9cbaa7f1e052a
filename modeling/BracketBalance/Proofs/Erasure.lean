import BracketBalance.Proofs.Reduction
import BracketBalance.Proofs.Unmatched

namespace BracketBalance

/-- Sequences of kinds that hold no end and close whatever they open. -/
inductive SelfContained : List Kind → Prop
  | nil : SelfContained []
  | plain {kind : Kind} (h : kind ∈ [.comment, .stringData, .symbol, .whitespace]) :
      SelfContained [kind]
  | append {a b : List Kind} (left : SelfContained a) (right : SelfContained b) :
      SelfContained (a ++ b)
  | wrap {inner : List Kind} {opener closer : Kind} (inside : SelfContained inner)
      (pairs : opener.pairs closer = true) : SelfContained (opener :: inner ++ [closer])

namespace SelfContained

variable {kinds : List Kind}

theorem balanced (h : SelfContained kinds) : Rules.standard.Balanced kinds := by
  induction h with
  | nil => exact .nil
  | @plain kind h =>
    have hk : kind.opens = false ∧ kind.closes = false := by
      revert h
      cases kind <;> decide
    exact .neutral hk.1 hk.2
  | append _ _ iha ihb => exact iha.append ihb
  | wrap _ pairs ih =>
    obtain ⟨opens, closes⟩ := Kind.closes_of_pairs pairs
    exact .wrap ih opens closes pairs

theorem not_ends (h : SelfContained kinds) :
    ∀ kind ∈ kinds, Rules.standard.ends kind = false := by
  induction h with
  | nil => simp
  | @plain kind h =>
    intro other hm
    obtain rfl := List.mem_singleton.mp hm
    revert h
    cases other <;> decide
  | append _ _ iha ihb =>
    intro kind hm
    rcases List.mem_append.mp hm with hm | hm
    · exact iha kind hm
    · exact ihb kind hm
  | wrap _ pairs ih =>
    obtain ⟨opens, closes⟩ := Kind.closes_of_pairs pairs
    intro kind hm
    rcases List.mem_append.mp hm with hm | hm
    · rcases List.mem_cons.mp hm with rfl | hm
      · exact Rules.standard_endsApart.not_ends (.inl opens)
      · exact ih kind hm
    · obtain rfl := List.mem_singleton.mp hm
      exact Rules.standard_endsApart.not_ends (.inr closes)

end SelfContained

namespace Rules

variable {rules : Rules}

theorem replies_append (rules : Rules) (waiting a b : List Token) :
    rules.replies waiting (a ++ b) =
      rules.replies waiting a ++ rules.replies (rules.leftover waiting a) b := by
  induction a generalizing waiting with
  | nil => rfl
  | cons token a ih =>
    rw [List.cons_append, replies, ih, replies, List.append_assoc]
    rfl

/-- Whatever a token comes to, no opener waits on one that it could have closed. -/
theorem Settled.judge {waiting : List Token} (h : rules.Settled (waiting.map Token.kind))
    (token : Token) :
    rules.Settled (((rules.judge waiting token).waiting waiting).map Token.kind) := by
  have hj := rules.judged waiting token
  generalize rules.judge waiting token = verdict at hj
  cases hj with
  | pass | stray | complete => exact h
  | push _ opens unmatched => exact h.push opens (by rwa [closesTop_map])
  | pop | unclosed => exact h.tail

theorem Settled.leftover {waiting : List Token} (h : rules.Settled (waiting.map Token.kind))
    (tokens : List Token) : rules.Settled ((rules.leftover waiting tokens).map Token.kind) := by
  induction tokens generalizing waiting with
  | nil => exact h
  | cons token tokens ih => exact ih (h.judge token)

/-- Over settled openers balanced tokens pass, and leave openers of the same kinds. -/
theorem passes_of_balanced (self : rules.SelfPaired) {waiting inner : List Token}
    (settled : rules.Settled (waiting.map Token.kind))
    (balanced : rules.Balanced (inner.map Token.kind))
    (unended : ∀ token ∈ inner, rules.ends token.kind = false) :
    ∃ left, rules.Passes waiting inner left ∧ left.map Token.kind = waiting.map Token.kind := by
  apply passes_of_reduce? _ unended
  exact balanced.reduce? self _ settled

section

variable {related : Token → Token → Prop} (hk : ∀ a b, related a b → a.kind = b.kind)
include hk

theorem replies_forall₂ (rules : Rules) {tokens tokens' : List Token}
    (ht : List.Forall₂ related tokens tokens') :
    ∀ {waiting waiting' : List Token}, List.Forall₂ related waiting waiting' →
      List.Forall₂ related (rules.replies waiting tokens) (rules.replies waiting' tokens') := by
  induction ht with
  | nil => exact fun _ => .nil
  | @cons token token' _ _ htoken _ ih =>
    intro waiting waiting' hw
    have hv := judge_related hk rules hw htoken
    have hwaiting := (judge_forall₂ hk rules hw htoken).2
    apply List.rel_append _ (ih hwaiting)
    generalize rules.judge waiting token = verdict at hv
    generalize rules.judge waiting' token' = verdict' at hv
    cases hv with
    | proceed => exact .nil
    | balanced => exact .cons htoken .nil
    | unbalanced blamed _ => exact .cons blamed .nil

end

end Rules

def SameKind (a b : Token) : Prop :=
  a.kind = b.kind

theorem sameKind_forall₂_iff {a b : List Token} :
    List.Forall₂ SameKind a b ↔ a.map Token.kind = b.map Token.kind := by
  rw [← List.forall₂_eq_eq_eq, List.forall₂_map_left_iff, List.forall₂_map_right_iff]
  rfl

namespace Rules

variable {rules : Rules}

/-- Over openers of the same kinds, the same tokens are answered in the same kinds. -/
theorem replies_sameKind (rules : Rules) {waiting waiting' : List Token}
    (hw : List.Forall₂ SameKind waiting waiting') (tokens : List Token) :
    List.Forall₂ SameKind (rules.replies waiting tokens ++ rules.leftover waiting tokens)
      (rules.replies waiting' tokens ++ rules.leftover waiting' tokens) := by
  have hk : ∀ a b, SameKind a b → a.kind = b.kind := fun _ _ h => h
  have ht : List.Forall₂ SameKind tokens tokens := List.forall₂_same.mpr (fun _ _ => rfl)
  exact List.rel_append (replies_forall₂ hk rules ht hw) (strays_forall₂ hk rules ht hw).2

/-- Balanced tokens among others leave no trace in the kinds of what is answered. -/
theorem replies_erase (self : rules.SelfPaired) (before : List Token) {inner : List Token}
    (balanced : rules.Balanced (inner.map Token.kind))
    (unended : ∀ token ∈ inner, rules.ends token.kind = false) (rest : List Token) :
    List.Forall₂ SameKind
      (rules.replies [] (before ++ inner ++ rest) ++ rules.leftover [] (before ++ inner ++ rest))
      (rules.replies [] (before ++ rest) ++ rules.leftover [] (before ++ rest)) := by
  have settled : rules.Settled ((rules.leftover [] before).map Token.kind) :=
    Settled.leftover rules.settled_nil before
  obtain ⟨left, hp, hl⟩ := passes_of_balanced self settled balanced unended
  rw [List.append_assoc, replies_append, hp.replies, leftover_append, (hp.leftover rest).1,
    replies_append, leftover_append, List.append_assoc, List.append_assoc]
  apply List.rel_append
  · exact List.forall₂_same.mpr (fun _ _ => rfl)
  · exact rules.replies_sameKind (sameKind_forall₂_iff.mpr hl) rest

end Rules

namespace Replay

/-- Self-contained tokens may be left out of what is replayed, wherever they stand and whatever waits
there: every call returns all the same, and with a token of the same kind. -/
theorem kinds_erase (before inner rest : List Token) (last : Token)
    (contained : SelfContained (inner.map Token.kind)) (ends : last.isEnd = true) (calls : Nat) :
    let whole : Replay := ⟨.standard, before ++ inner ++ rest, last⟩
    let erased : Replay := ⟨.standard, before ++ rest, last⟩
    ((Checker.fresh whole).checks calls).1.length = calls ∧
      ((Checker.fresh erased).checks calls).1.length = calls ∧
      ((Checker.fresh whole).checks calls).1.map (·.token.kind) =
        ((Checker.fresh erased).checks calls).1.map (·.token.kind) := by
  intro whole erased
  have unended : ∀ token ∈ inner, Rules.standard.ends token.kind = false := by
    intro token hm
    exact contained.not_ends token.kind (List.mem_map_of_mem hm)
  have apart := Rules.standard_endsApart
  have hwhole := Replay.yields .standard (before ++ inner ++ rest) last
  have herased := Replay.yields .standard (before ++ rest) last
  refine ⟨(Checker.checks_turns apart ends hwhole [] calls).1,
    (Checker.checks_turns apart ends herased [] calls).1, ?_⟩
  have hr := Rules.replies_erase Rules.standard_selfPaired before contained.balanced unended rest
  have ha : List.Forall₂ SameKind (((Checker.fresh whole).checks calls).1.map Answer.token)
      (((Checker.fresh erased).checks calls).1.map Answer.token) := by
    have hw := Checker.checks_replies apart ends hwhole [] calls
    have he := Checker.checks_replies apart ends herased [] calls
    rw [Checker.fresh, hw, Checker.fresh, he, List.forall₂_map_left_iff, List.forall₂_map_right_iff,
      List.forall₂_same]
    intro i _
    exact forall₂_getD hr rfl i
  simpa only [List.map_map, Function.comp_def] using sameKind_forall₂_iff.mp ha

/-- Two strings and a pair of brackets around a third one, after an end that an opener waits at, a stray
closer and a quotation mark that waits. -/
theorem kinds_erase_strings :
    let before := [Token.bare .openParen, .bare .endOfText, .bare .closeBrace, .bare .quote]
    let inner := [Token.bare .quote, .bare .stringData, .bare .quote, .bare .quote, .bare .quote,
      .bare .openBracket, .bare .quote, .bare .quote, .bare .closeBracket]
    let rest := [Token.bare .quote, .bare .closeBracket, .bare .openBrace]
    let whole : Replay := ⟨.standard, before ++ inner ++ rest, .bare .endOfText⟩
    SelfContained (inner.map Token.kind) ∧ (Token.bare .endOfText).isEnd = true ∧
      ((Checker.fresh whole).checks 5).1.map (·.token.kind) =
        [.openParen, .closeBrace, .closeBracket, .openBrace, .endOfText] := by
  intro before inner rest whole
  have quotes : SelfContained [.quote, .quote] := .wrap .nil rfl
  have string : SelfContained [.quote, .stringData, .quote] := .wrap (.plain (by decide)) rfl
  have group : SelfContained [.openBracket, .quote, .quote, .closeBracket] := .wrap quotes rfl
  have contained : SelfContained (inner.map Token.kind) := (string.append quotes).append group
  refine ⟨contained, rfl, ?_⟩
  rw [(kinds_erase before inner rest (.bare .endOfText) contained rfl 5).2.2]
  decide

end Replay

end BracketBalance
