import BracketBalance.Proofs.Beginnings

namespace BracketBalance

namespace Checker

open TokenStream

variable {σ : Type} [TokenStream σ] {stream : σ} {rules : Rules} {tokens waiting : List Token}
  {last : Token}

/-- What holds of a checker under these rules, however far it goes on. -/
structure Orderly (rules : Rules) (checker : Checker σ) : Prop where
  /-- Whatever waits, in the midst of a call or after it, opens. -/
  opens : ∀ m, ∀ opener ∈ (turns m checker).waiting, rules.opens opener.kind = true
  /-- Nothing waits where an end is let pass. -/
  accepts : ∀ m, rules.action (turns m checker).waiting (nth m checker.stream) = .pass →
    rules.ends (nth m checker.stream).kind = true → (turns m checker).waiting = []
  /-- A call that returns is a number of turns, and has its answer from the token of the last one. -/
  returns : ∀ n answer after, checkWithin n [] checker = some (answer, after) →
    ∃ m, after = turns (m + 1) checker ∧
      rules.Answered (firsts m checker.stream).reverse (nth m checker.stream)
        (turns m checker).waiting answer after.waiting

theorem opens_turns (h : Yields stream rules tokens last)
    (hw : ∀ opener ∈ waiting, rules.opens opener.kind = true) (m : Nat) :
    ∀ opener ∈ (turns m (⟨waiting, stream⟩ : Checker σ)).waiting, rules.opens opener.kind = true := by
  rw [waiting_turns h]
  exact rules.opens_of_mem_leftover hw

theorem orderly_of_yields (h : Yields stream rules tokens last)
    (hw : ∀ opener ∈ waiting, rules.opens opener.kind = true) :
    Orderly rules (⟨waiting, stream⟩ : Checker σ) where
  opens := opens_turns h hw
  accepts m pass ends := (Rules.action_eq_pass_iff.mp pass).2.2 ends
  returns n answer after hc := by
    obtain ⟨m, -, rfl, -, hanswer⟩ := exists_turn_of_checkWithin hc
    have hv := verdict_turns h waiting m
    rw [hv, List.append_nil] at hanswer
    refine ⟨m, rfl, ?_⟩
    rw [turns_add, turns, turns, turn, hv]
    exact Rules.answered_of_judge hanswer

end Checker

namespace Replay

open Checker

/-- After any number of calls, on any tokens and under any rules. -/
theorem orderly (replay : Replay) (calls : Nat) :
    Orderly replay.rules ((fresh replay).checks calls).2 := by
  have hy := Replay.yields replay.rules replay.tokens replay.last
  have hnone : ∀ opener ∈ ([] : List Token), replay.rules.opens opener.kind = true := nofun
  obtain ⟨m, hm⟩ := exists_turns_checks calls (fresh replay)
  have hstream : (turns m (fresh replay)).stream = TokenStream.after m replay := turns_stream m _
  rw [hm]
  exact orderly_of_yields (hstream ▸ hy.drop m) (opens_turns hy hnone m)

-- an end that closes as well: it takes the parenthesis away, blames the bracket, and then stands alone
example :
    let rules : Rules := { Rules.standard with ends := (· == .closeParen) }
    let replay : Replay := ⟨rules, [.bare .openBracket, .bare .openParen], .bare .closeParen⟩
    ((fresh replay).checks 2).1.map (fun answer => (answer.token.kind, answer.read.length)) =
      [(.openBracket, 4), (.closeParen, 1)] := by
  decide

end Replay

end BracketBalance
