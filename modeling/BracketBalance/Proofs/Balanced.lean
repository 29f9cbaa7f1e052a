import BracketBalance.Proofs.Judgement

namespace BracketBalance.Rules

variable {rules : Rules}

inductive Balanced (rules : Rules) : List Kind → Prop
  | nil : Balanced rules []
  | neutral {kind : Kind} (opens : rules.opens kind = false) (closes : rules.closes kind = false) :
      Balanced rules [kind]
  | append {a b : List Kind} (left : Balanced rules a) (right : Balanced rules b) :
      Balanced rules (a ++ b)
  | wrap {inner : List Kind} {opener closer : Kind} (inside : Balanced rules inner)
      (opens : rules.opens opener = true) (closes : rules.closes closer = true)
      (pairs : rules.pairs opener closer = true) : Balanced rules (opener :: inner ++ [closer])

/-- The tokens are those that wait, the last one first, with balanced ones before, between and after
them. -/
inductive Factors (rules : Rules) : List Token → List Token → Prop
  | base {inner : List Token} (inside : rules.Balanced (inner.map Token.kind)) :
      Factors rules inner []
  | opener {before inner waiting : List Token} {token : Token} (older : Factors rules before waiting)
      (opens : rules.opens token.kind = true) (inside : rules.Balanced (inner.map Token.kind)) :
      Factors rules (before ++ token :: inner) (token :: waiting)

theorem Factors.balanced {tokens : List Token} (h : rules.Factors tokens []) :
    rules.Balanced (tokens.map Token.kind) := by
  cases h with
  | base inside => exact inside

theorem Factors.append {tokens waiting inner : List Token} (h : rules.Factors tokens waiting)
    (hi : rules.Balanced (inner.map Token.kind)) : rules.Factors (tokens ++ inner) waiting := by
  cases h with
  | base inside =>
    apply Factors.base
    rw [List.map_append]
    exact .append inside hi
  | opener older opens inside =>
    rw [List.append_assoc, List.cons_append]
    apply Factors.opener older opens
    rw [List.map_append]
    exact .append inside hi

/-- The last opener with what follows it: when it is taken away, the rest is still cut. -/
theorem Factors.split {tokens waiting : List Token} {top : Token}
    (h : rules.Factors tokens (top :: waiting)) :
    ∃ before inner, tokens = before ++ top :: inner ∧ rules.Factors before waiting ∧
      rules.opens top.kind = true ∧ rules.Balanced (inner.map Token.kind) := by
  cases h with
  | opener older opens inside => exact ⟨_, _, rfl, older, opens, inside⟩

theorem Factors.push {tokens waiting : List Token} {token : Token}
    (h : rules.Factors tokens waiting) (ho : rules.opens token.kind = true) :
    rules.Factors (tokens ++ [token]) (token :: waiting) :=
  .opener h ho .nil

theorem Factors.pop {tokens waiting : List Token} {top token : Token}
    (h : rules.Factors tokens (top :: waiting)) (hc : rules.closes token.kind = true)
    (hp : rules.pairs top.kind token.kind = true) :
    rules.Factors (tokens ++ [token]) waiting := by
  obtain ⟨before, inner, rfl, older, opens, inside⟩ := h.split
  have hw : rules.Balanced ((top :: inner ++ [token]).map Token.kind) := by
    simpa using Balanced.wrap inside opens hc hp
  simpa using older.append hw

theorem Factors.judge {tokens waiting left : List Token} {token : Token}
    (h : rules.Factors tokens waiting) (hj : rules.judge waiting token = .proceed left) :
    rules.Factors (tokens ++ [token]) left := by
  have cases := rules.judged waiting token
  rw [hj] at cases
  cases cases with
  | pass _ opens closes _ => exact h.append (.neutral opens closes)
  | push _ opens _ => exact h.push opens
  | pop _ closes pairs => exact h.pop closes pairs

theorem Factors.passes {before waiting tokens left : List Token}
    (h : rules.Factors before waiting) (hp : rules.Passes waiting tokens left) :
    rules.Factors (before ++ tokens) left := by
  induction hp generalizing before with
  | nil => simpa using h
  | cons first _ ih => simpa using ih (h.judge first)

/-- What passes a check that nothing waits in, and leaves nothing waiting, is balanced. -/
theorem Passes.balanced {tokens : List Token} (h : rules.Passes [] tokens []) :
    rules.Balanced (tokens.map Token.kind) := by
  have hf : rules.Factors [] [] := .base .nil
  exact (hf.passes h).balanced

end BracketBalance.Rules
