import BracketBalance.Proofs.Beginnings
import BracketBalance.Proofs.Patience

namespace BracketBalance

namespace Checker

open TokenStream

variable {σ τ : Type} [TokenStream σ] [TokenStream τ]

/-- With more time a call that has returned returns the same. -/
theorem checkWithin_add {n : Nat} {read : List Token} {checker : Checker σ}
    {result : Answer × Checker σ} (h : checkWithin n read checker = some result) (more : Nat) :
    checkWithin (n + more) read checker = some result := by
  induction n generalizing read checker with
  | zero => cases h
  | succ n ih =>
    rw [Nat.succ_add, checkWithin_succ]
    rw [checkWithin_succ] at h
    cases ha : checker.verdict.answer? (next checker.stream).1 read with
    | some answer =>
      rw [ha] at h
      exact h
    | none =>
      rw [ha] at h
      exact ih h

/-- A call that returns has made a turn for every token that it has read. -/
theorem after_of_checkWithin {n : Nat} {checker after : Checker σ} {answer : Answer}
    (h : checkWithin n [] checker = some (answer, after)) :
    after = turns answer.read.length checker := by
  obtain ⟨m, -, rfl, -, hanswer⟩ := exists_turn_of_checkWithin h
  rw [Verdict.read_of_answer? hanswer, List.append_nil, List.length_cons, List.length_reverse,
    length_firsts]

def drawn (answers : List Answer) : Nat :=
  (answers.flatMap (·.read)).length

/-- However many calls, and whether or not all of them return, the checker has made a turn for every token
drawn. -/
theorem turns_drawn (calls : Nat) (checker : Checker σ) :
    (checker.checks calls).2 = turns (drawn (checker.checks calls).1) checker := by
  induction calls generalizing checker with
  | zero => rfl
  | succ calls ih =>
    rw [checks]
    cases hc : checker.check? with
    | none => rfl
    | some result =>
      obtain ⟨answer, after⟩ := result
      obtain rfl := after_of_checkWithin hc
      simp only [drawn, List.flatMap_cons, List.length_append, turns_add]
      exact ih _

/-- However far it goes on, the checker gives up no call that would return in more time. -/
def Patient (checker : Checker σ) : Prop :=
  ∀ m, (turns m checker).check? = none → ∀ n, checkWithin n [] (turns m checker) = none

theorem Patient.turns {checker : Checker σ} (h : checker.Patient) (m : Nat) :
    (turns m checker).Patient := by
  intro n
  rw [← turns_add]
  exact h (m + n)

theorem Patient.never {checker : Checker σ} (h : checker.Patient) (hc : checker.check? = none)
    (n : Nat) : checkWithin n [] checker = none :=
  h 0 hc n

/-- The same openers wait in both checkers, and their streams give the same tokens under the same rules. -/
structure Imitates (a : Checker σ) (b : Checker τ) : Prop where
  waiting : a.waiting = b.waiting
  rules : ∀ n, TokenStream.rules (after n a.stream) = TokenStream.rules (after n b.stream)
  nth : ∀ n, nth n a.stream = nth n b.stream

variable {rules : Rules} {tokens : List Token} {last : Token}

theorem patient_of_yields {stream : σ} (h : Yields stream rules tokens last) (waiting : List Token) :
    (⟨waiting, stream⟩ : Checker σ).Patient := by
  intro m
  have hstream : (Checker.turns m (⟨waiting, stream⟩ : Checker σ)).stream = after m stream :=
    turns_stream m _
  have hm := check?_eq_none_iff (h.drop m) (Checker.turns m (⟨waiting, stream⟩ : Checker σ)).waiting
  rw [← hstream] at hm
  exact hm.mp

theorem imitates_of_yields {stream : σ} {other : τ} (h : Yields stream rules tokens last)
    (k : Yields other rules tokens last) (waiting : List Token) :
    Imitates (⟨waiting, stream⟩ : Checker σ) (⟨waiting, other⟩ : Checker τ) where
  waiting := rfl
  rules n := by rw [h.rules, k.rules]
  nth n := by rw [h.nth, k.nth]

namespace Imitates

variable {a : Checker σ} {b : Checker τ}

theorem next (h : a.Imitates b) :
    (TokenStream.next a.stream).1 = (TokenStream.next b.stream).1 :=
  h.nth 0

theorem verdict (h : a.Imitates b) : a.verdict = b.verdict := by
  have hrules : TokenStream.rules a.stream = TokenStream.rules b.stream := h.rules 0
  rw [Checker.verdict, Checker.verdict, h.waiting, h.next, hrules]

theorem turn (h : a.Imitates b) : a.turn.Imitates b.turn where
  waiting := by rw [Checker.turn, Checker.turn, h.verdict, h.waiting]
  rules n := h.rules (n + 1)
  nth n := h.nth (n + 1)

theorem turns (h : a.Imitates b) (n : Nat) : (turns n a).Imitates (turns n b) := by
  induction n generalizing a b with
  | zero => exact h
  | succ n ih => exact ih h.turn

/-- In the same time the same calls return, with the same answers. -/
theorem checkWithin (h : a.Imitates b) (n : Nat) (read : List Token) :
    (checkWithin n read a).map Prod.fst = (checkWithin n read b).map Prod.fst := by
  induction n generalizing a b read with
  | zero => rfl
  | succ n ih =>
    rw [checkWithin_succ, checkWithin_succ, h.verdict, h.next]
    cases b.verdict.answer? (TokenStream.next b.stream).1 read with
    | some answer => rfl
    | none => exact ih h.turn _

/-- Where neither gives up a call that would return in more time, a call of the one is a call of the
other. -/
theorem check? (h : a.Imitates b) (ha : a.Patient) (hb : b.Patient) :
    a.check?.map Prod.fst = b.check?.map Prod.fst := by
  have hsame : ∀ n, (Checker.checkWithin n [] a).map Prod.fst =
      (Checker.checkWithin n [] b).map Prod.fst := fun n => h.checkWithin n []
  cases hca : a.check? with
  | none =>
    have hnever := hsame b.patience
    rw [ha.never hca] at hnever
    exact hnever
  | some result =>
    cases hcb : b.check? with
    | none =>
      have hnever := hsame a.patience
      rw [hb.never hcb] at hnever
      rw [← hnever]
      exact congrArg (Option.map Prod.fst) hca.symm
    | some other =>
      -- with the patience of both, each call has returned
      have hlong := hsame (a.patience + b.patience)
      rw [checkWithin_add hca, Nat.add_comm, checkWithin_add hcb] at hlong
      exact hlong

theorem checks (h : a.Imitates b) (ha : a.Patient) (hb : b.Patient) (calls : Nat) :
    (a.checks calls).1 = (b.checks calls).1 := by
  induction calls generalizing a b with
  | zero => rfl
  | succ calls ih =>
    have hcheck := h.check? ha hb
    rw [Checker.checks, Checker.checks]
    cases hca : a.check? with
    | none =>
      rw [hca] at hcheck
      rw [Option.map_eq_none_iff.mp hcheck.symm]
    | some result =>
      obtain ⟨answer, after⟩ := result
      rw [hca] at hcheck
      obtain ⟨⟨other, after'⟩, hcb, hanswer⟩ := Option.map_eq_some_iff.mp hcheck.symm
      obtain rfl : other = answer := hanswer
      obtain rfl := after_of_checkWithin hca
      obtain rfl := after_of_checkWithin hcb
      rw [hcb]
      simp only [ih (h.turns _) (ha.turns _) (hb.turns _)]

end Imitates

/-- Streams that yield the same cannot be told apart by any number of calls. -/
theorem checks_of_yields {stream : σ} {other : τ} (h : Yields stream rules tokens last)
    (k : Yields other rules tokens last) (waiting : List Token) (calls : Nat) :
    ((⟨waiting, stream⟩ : Checker σ).checks calls).1 =
      ((⟨waiting, other⟩ : Checker τ).checks calls).1 :=
  (imitates_of_yields h k waiting).checks (patient_of_yields h waiting) (patient_of_yields k waiting)
    calls

end Checker

namespace Replay

open Checker TokenStream

/-- A checker over a text and one over the replay of the tokens before its end: every call returns the same
token, after the same tokens have been drawn, and leaves both checkers after so many turns. -/
theorem checks_ofLexer (text : List Char) (filename : String) (source : Option Nat) :
    let lexer := Lexer.ofChars text filename source
    ∃ count, (∀ n, (nth n lexer).isEnd = true ↔ count ≤ n) ∧
      ofLexer lexer = ⟨.standard, firsts count lexer, nth count lexer⟩ ∧
      ∀ calls,
        let answers := ((fresh lexer).checks calls).1
        answers.length = calls ∧ ((fresh (ofLexer lexer)).checks calls).1 = answers ∧
          ((fresh lexer).checks calls).2 = turns (drawn answers) (fresh lexer) ∧
          ((fresh (ofLexer lexer)).checks calls).2 =
            turns (drawn answers) (fresh (ofLexer lexer)) := by
  intro lexer
  have hlexer := Lexer.yields text filename source
  have hreplay := Replay.yields .standard lexer.drain.tokens lexer.drain.last
  refine ⟨lexer.drain.tokens.length, ?_, ?_, ?_⟩
  · rw [Lexer.length_drain]
    exact fun n => Lexer.isEnd_nth_iff n text filename source
  · rw [hlexer.firsts_eq_take (Nat.le_refl _), List.take_length, hlexer.nth,
      List.getElem?_eq_none (Nat.le_refl _)]
    rfl
  · intro calls answers
    have hanswers : ((fresh (ofLexer lexer)).checks calls).1 = answers :=
      checks_of_yields hreplay hlexer [] calls
    have hreturns :=
      (checks_turns Rules.standard_endsApart (Lexer.isEnd_drain_last lexer) hlexer [] calls).1
    refine ⟨hreturns, hanswers, turns_drawn calls _, ?_⟩
    rw [← hanswers]
    exact turns_drawn calls _

end Replay

end BracketBalance
