import BracketBalance.Proofs.Accounts

namespace BracketBalance

namespace Rules

variable {rules : Rules} {token : Token}

/-- What opens, and what neither closes nor ends, lets a check go on whatever waits. -/
theorem proceeds_of_opens_or (h : rules.opens token.kind = true ∨
    rules.closes token.kind = false ∧ rules.ends token.kind = false) (waiting : List Token) :
    (rules.judge waiting token).proceeds = true := by
  have hj := rules.judged waiting token
  generalize rules.judge waiting token = verdict at hj
  cases hj with
  | pass | push | pop => rfl
  | stray _ opens closes => simp [opens, closes] at h
  | unclosed _ opens _ ends | complete _ opens _ ends => simp [opens, ends] at h

/-- What cannot open, and closes or ends, lets a check go on only by taking an opener away. -/
theorem length_waiting_of_proceeds {waiting : List Token} (opens : rules.opens token.kind = false)
    (closes : rules.closes token.kind = true ∨ rules.ends token.kind = true)
    (h : (rules.judge waiting token).proceeds = true) :
    waiting.length = ((rules.judge waiting token).waiting waiting).length + 1 := by
  have hj := rules.judged waiting token
  generalize rules.judge waiting token = verdict at h hj
  cases hj with
  | pass _ _ hc he => simp [hc, he] at closes
  | push _ ho => simp [opens] at ho
  | pop => rfl
  | stray | unclosed | complete => cases h

/-- Only a push makes more openers wait. -/
theorem length_waiting_judge_le (rules : Rules) (waiting : List Token) (token : Token) :
    ((rules.judge waiting token).waiting waiting).length ≤
      waiting.length + if rules.action waiting token = .push then 1 else 0 := by
  have hj := rules.judged waiting token
  generalize rules.judge waiting token = verdict at hj
  cases hj with
  | push acts => simp [acts, Verdict.waiting]
  | pass | stray | complete => exact Nat.le_add_right _ _
  | pop | unclosed => exact Nat.le_trans (Nat.le_succ _) (Nat.le_add_right _ _)

end Rules

namespace Checker

open TokenStream

variable {σ : Type} [TokenStream σ] {stream : σ} {rules : Rules} {tokens waiting : List Token}
  {last : Token}

def action (checker : Checker σ) : Action :=
  (TokenStream.rules checker.stream).action checker.waiting (TokenStream.next checker.stream).1

def pushes : Nat → Checker σ → Nat
  | 0, _ => 0
  | n + 1, checker => (if checker.action = .push then 1 else 0) + pushes n checker.turn

theorem pushes_add (m n : Nat) (checker : Checker σ) :
    pushes (m + n) checker = pushes m checker + pushes n (turns m checker) := by
  induction m generalizing checker with
  | zero => simp [pushes, turns]
  | succ m ih => rw [Nat.succ_add, pushes, ih, pushes, turns, Nat.add_assoc]

theorem pushes_mono {m n : Nat} (h : m ≤ n) (checker : Checker σ) :
    pushes m checker ≤ pushes n checker := by
  obtain ⟨k, rfl⟩ := Nat.exists_eq_add_of_le h
  rw [pushes_add]
  exact Nat.le_add_right _ _

theorem pushes_le (n : Nat) (checker : Checker σ) : pushes n checker ≤ n := by
  induction n generalizing checker with
  | zero => exact Nat.le_refl 0
  | succ n ih =>
    have hrest := ih checker.turn
    rw [pushes]
    split <;> omega

/-- No more openers wait than waited before and have been pushed since. -/
theorem length_waiting_turns_le (n : Nat) (checker : Checker σ) :
    (turns n checker).waiting.length ≤ checker.waiting.length + pushes n checker := by
  induction n generalizing checker with
  | zero => exact Nat.le_refl _
  | succ n ih =>
    have hrest := ih checker.turn
    have hturn : checker.turn.waiting.length ≤ checker.waiting.length + _ :=
      (TokenStream.rules checker.stream).length_waiting_judge_le checker.waiting _
    rw [turns, pushes, action]
    omega

section

variable (opens : rules.opens last.kind = false)
  (closes : rules.closes last.kind = true ∨ rules.ends last.kind = true)
include opens closes

/-- Where only the last token is left, a check goes on for no more turns than openers wait. -/
theorem le_length_waiting (h : Yields stream rules [] last) {n : Nat}
    (hgo : ∀ m < n, (turns m (⟨waiting, stream⟩ : Checker σ)).verdict.proceeds = true) :
    n ≤ waiting.length := by
  induction n generalizing stream waiting with
  | zero => exact Nat.zero_le _
  | succ n ih =>
    obtain ⟨hfirst, hrest⟩ := Nat.forall_lt_succ_left.mp hgo
    have hv : verdict ⟨waiting, stream⟩ = rules.judge waiting last := by
      rw [verdict, h.rules_eq, h.first]
      rfl
    rw [turns, hv] at hfirst
    simp only [turns, turn_eq h] at hrest
    have hlength := Rules.length_waiting_of_proceeds opens closes hfirst
    have hle := ih h.tail hrest
    rw [List.head?_nil, Option.getD_none] at hle
    omega

/-- A check goes on through the tokens that are held, and then for no more turns than openers wait. -/
theorem le_of_proceeds (h : Yields stream rules tokens last) {n : Nat}
    (hgo : ∀ m < n, (turns m (⟨waiting, stream⟩ : Checker σ)).verdict.proceeds = true) :
    n ≤ tokens.length + waiting.length + pushes tokens.length ⟨waiting, stream⟩ := by
  by_cases hn : n ≤ tokens.length
  · omega
  have hdrop : Yields (turns tokens.length (⟨waiting, stream⟩ : Checker σ)).stream rules [] last := by
    have hdrop := h.drop tokens.length
    rwa [List.drop_length, ← turns_stream tokens.length ⟨waiting, stream⟩] at hdrop
  have hrest : n - tokens.length ≤
      (turns tokens.length (⟨waiting, stream⟩ : Checker σ)).waiting.length := by
    apply le_length_waiting opens closes hdrop
    intro m hm
    have hgoes := hgo (tokens.length + m) (by omega)
    rwa [turns_add] at hgoes
  have hwaiting := length_waiting_turns_le tokens.length (⟨waiting, stream⟩ : Checker σ)
  simp only at hwaiting
  omega

/-- So a call returns, and within its patience. -/
theorem check?_of_closes (h : Yields stream rules tokens last) (waiting : List Token) :
    ∃ answer, check? ⟨waiting, stream⟩ =
        some (answer, turns answer.read.length (⟨waiting, stream⟩ : Checker σ)) ∧
      answer.read.length ≤ tokens.length + waiting.length +
        pushes answer.read.length ⟨waiting, stream⟩ + 1 := by
  cases hc : check? (⟨waiting, stream⟩ : Checker σ) with
  | none =>
    have hle := le_of_proceeds opens closes h (checkWithin_eq_none_iff.mp hc)
    have hheld := h.length_le
    have hpushes := pushes_le tokens.length (⟨waiting, stream⟩ : Checker σ)
    simp only [patience] at hle
    omega
  | some result =>
    obtain ⟨answer, after⟩ := result
    obtain ⟨m, -, rfl, hgo, hanswer⟩ := exists_turn_of_checkWithin hc
    have hread : answer.read.length = m + 1 := by
      rw [Verdict.read_of_answer? hanswer]
      simp [length_firsts]
    have hle := le_of_proceeds opens closes h hgo
    refine ⟨answer, by rw [hread], ?_⟩
    rw [hread]
    by_cases hm : m ≤ tokens.length
    · omega
    · have hmono := pushes_mono (show tokens.length ≤ m + 1 by omega) (⟨waiting, stream⟩ : Checker σ)
      omega

end

/-- Where the last token opens, or neither closes nor ends, a check that has gone on through all the tokens
that are held goes on for ever. -/
theorem checkWithin_eq_none_of_opens_or (h : Yields stream rules tokens last)
    (hl : rules.opens last.kind = true ∨
      rules.closes last.kind = false ∧ rules.ends last.kind = false)
    {n : Nat} (hn : tokens.length ≤ n) (hc : checkWithin n [] ⟨waiting, stream⟩ = none) (m : Nat) :
    checkWithin m [] (⟨waiting, stream⟩ : Checker σ) = none := by
  have hgo := checkWithin_eq_none_iff.mp hc
  apply checkWithin_eq_none_iff.mpr
  intro i _
  by_cases hi : i < n
  · exact hgo i hi
  · have hlast : nth i stream = last := by
      rw [h.nth, List.getElem?_eq_none (by omega), Option.getD_none]
    rw [verdict_turns h, hlast]
    exact Rules.proceeds_of_opens_or hl _

/-- What a call does not come to within its patience it never comes to. -/
theorem check?_eq_none_iff (h : Yields stream rules tokens last) (waiting : List Token) :
    check? (⟨waiting, stream⟩ : Checker σ) = none ↔
      ∀ n, checkWithin n [] (⟨waiting, stream⟩ : Checker σ) = none := by
  constructor
  · intro hc
    by_cases hl : rules.opens last.kind = true ∨
        rules.closes last.kind = false ∧ rules.ends last.kind = false
    · have hpatience : tokens.length ≤ patience (⟨waiting, stream⟩ : Checker σ) := by
        have hheld := h.length_le
        simp only [patience]
        omega
      exact checkWithin_eq_none_of_opens_or h hl hpatience hc
    · obtain ⟨opens, closes⟩ := not_or.mp hl
      have hcloses : rules.closes last.kind = true ∨ rules.ends last.kind = true := by
        cases hcl : rules.closes last.kind with
        | true => exact .inl rfl
        | false => exact .inr (by simpa [hcl] using closes)
      obtain ⟨answer, ha, -⟩ :=
        check?_of_closes (Bool.eq_false_iff.mpr opens) hcloses h waiting
      rw [hc] at ha
      cases ha
  · exact fun hn => hn _

/-- Whatever waits, and whatever a replay still holds: if its last token cannot open, and closes or ends,
the call returns, having read no more tokens than are held, wait and have been pushed, and one more. In all
other cases a call that does not return before it has read what is held never does. -/
theorem returns_within (checker : Checker Replay) :
    let rules := checker.stream.rules
    let last := checker.stream.last.kind
    (rules.opens last = false → rules.closes last = true ∨ rules.ends last = true →
      ∃ answer, checker.check? = some (answer, turns answer.read.length checker) ∧
        answer.read.length ≤ checker.stream.tokens.length + checker.waiting.length +
          pushes answer.read.length checker + 1) ∧
    (rules.opens last = true ∨ rules.closes last = false ∧ rules.ends last = false →
      ∀ n, checker.stream.tokens.length ≤ n → checkWithin n [] checker = none →
        ∀ m, checkWithin m [] checker = none) := by
  intro rules last
  have hy := Replay.yields checker.stream.rules checker.stream.tokens checker.stream.last
  constructor
  · intro opens closes
    exact check?_of_closes opens closes hy checker.waiting
  · intro hl n hn hc
    exact checkWithin_eq_none_of_opens_or hy hl hn hc

/-- Closing parentheses for ever, asked a second time, close two that open late before one is reported;
quotation marks for ever only open and close. -/
theorem returns_within_late_openers :
    let closing : Replay := ⟨.standard, [.bare .closeBrace, .bare .openParen, .bare .openParen],
      .bare .closeParen⟩
    let later := ((fresh closing).checks 1).2
    let quoting := fresh (⟨.standard, [.bare .symbol], .bare .quote⟩ : Replay)
    Rules.standard.opens .closeParen = false ∧ Rules.standard.closes .closeParen = true ∧
      (∃ answer, later.check? = some (answer, turns answer.read.length later) ∧
        answer.read.length ≤ 2 + 0 + pushes answer.read.length later + 1) ∧
      later.check?.map (·.1.read.length) = some 5 ∧ pushes 5 later = 2 ∧
      Rules.standard.opens .quote = true ∧ checkWithin 1 [] quoting = none ∧
      ∀ m, checkWithin m [] quoting = none := by
  intro closing later quoting
  have hnone : checkWithin 1 [] quoting = none := rfl
  refine ⟨rfl, rfl, (returns_within later).1 rfl (.inl rfl), by decide, by decide, rfl, hnone, ?_⟩
  exact (returns_within quoting).2 (.inl rfl) 1 (Nat.le_refl 1) hnone

end Checker

end BracketBalance
