import BracketBalance.Proofs.Judgement
import BracketBalance.Proofs.Stream

namespace BracketBalance

namespace Rules

variable {rules : Rules}

/-- The last token of a call, over the tokens read before it and the openers that wait when it is read: the
answer that it brings about, and the openers that it leaves waiting. -/
inductive Answered (rules : Rules) (read : List Token) (token : Token) :
    List Token → Answer → List Token → Prop
  /-- A token that can only close, and does not close the last opener. -/
  | stray {waiting : List Token} (opens : rules.opens token.kind = false)
      (closes : rules.closes token.kind = true)
      (unmatched : ∀ top ∈ waiting.head?, rules.pairs top.kind token.kind = false)
      (ends : rules.ends token.kind = true → waiting = []) :
      Answered rules read token waiting
        ⟨token, some (.ofCulprit token waiting), token :: read⟩ waiting
  /-- An end, while something waits that it does not close. -/
  | unclosed {top : Token} {below : List Token} (opens : rules.opens token.kind = false)
      (unmatched : rules.closes token.kind = true → rules.pairs top.kind token.kind = false)
      (ends : rules.ends token.kind = true) :
      Answered rules read token (top :: below)
        ⟨top, some (.ofCulprit top below), token :: read⟩ below
  /-- An end that closes nothing, and nothing waits. -/
  | complete (opens : rules.opens token.kind = false) (closes : rules.closes token.kind = false)
      (ends : rules.ends token.kind = true) :
      Answered rules read token [] ⟨token, none, token :: read⟩ []

/-- The same, where the kinds that end are apart: the token that the call returns for its last one, and the
openers that it leaves waiting. -/
inductive Concludes (rules : Rules) : List Token → Token → Token → List Token → Prop
  | stray {waiting : List Token} {token : Token} (opens : rules.opens token.kind = false)
      (closes : rules.closes token.kind = true)
      (unmatched : ∀ top ∈ waiting.head?, rules.pairs top.kind token.kind = false) :
      Concludes rules waiting token token waiting
  | unclosed {top token : Token} {below : List Token} (ends : rules.ends token.kind = true) :
      Concludes rules (top :: below) token top below
  | complete {token : Token} (ends : rules.ends token.kind = true) :
      Concludes rules [] token token []

theorem matchesTop_eq_false_iff {waiting : List Token} {token : Token} :
    rules.matchesTop waiting token = false ↔
      ∀ top ∈ waiting.head?, rules.pairs top.kind token.kind = false := by
  cases waiting <;> simp [matchesTop]

/-- Whatever the rules, only these tokens have an answer. -/
theorem answered_of_judge {waiting read : List Token} {token : Token} {answer : Answer}
    (h : (rules.judge waiting token).answer? token read = some answer) :
    rules.Answered read token waiting answer ((rules.judge waiting token).waiting waiting) := by
  have hj := rules.judged waiting token
  generalize rules.judge waiting token = verdict at h hj
  cases hj with
  | pass | push | pop => cases h
  | stray _ opens closes unmatched ends =>
    cases h
    exact .stray opens closes (matchesTop_eq_false_iff.mp unmatched) ends
  | unclosed _ opens unmatched ends =>
    cases h
    exact .unclosed opens unmatched ends
  | complete _ opens closes ends =>
    cases h
    exact .complete opens closes ends

/-- Where the kinds that end are apart, a token with an answer is a stray closer or an end. -/
theorem concludes_of_judge (apart : rules.EndsApart) {waiting read : List Token} {token : Token}
    {answer : Answer} (h : (rules.judge waiting token).answer? token read = some answer) :
    answer.read = token :: read ∧
      rules.Concludes waiting token answer.token ((rules.judge waiting token).waiting waiting) ∧
      (answer.reported = false → rules.ends token.kind = true ∧ waiting = []) ∧
      (answer.reported = true → rules.ends token.kind = true → waiting ≠ []) := by
  have ha := answered_of_judge h
  generalize (rules.judge waiting token).waiting waiting = left at ha
  cases ha with
  | stray opens closes unmatched ends =>
    refine ⟨rfl, .stray opens closes unmatched, nofun, ?_⟩
    intro _ he
    simp [(apart _ he).2] at closes
  | unclosed _ _ ends => exact ⟨rfl, .unclosed ends, nofun, fun _ _ => List.cons_ne_nil _ _⟩
  | complete _ _ ends => exact ⟨rfl, .complete ends, fun _ => ⟨ends, rfl⟩, nofun⟩

/-- The end of a text always has an answer. -/
theorem answer?_of_ends (apart : rules.EndsApart) {token : Token} (h : rules.ends token.kind = true)
    (waiting read : List Token) :
    ((rules.judge waiting token).answer? token read).isSome = true := by
  obtain ⟨ho, hc⟩ := apart _ h
  have hj := rules.judged waiting token
  generalize rules.judge waiting token = verdict at hj
  cases hj <;> simp_all [Verdict.answer?]

/-- Tokens before an end pass up to one that has an answer. -/
theorem exists_passes (apart : rules.EndsApart) {last : Token}
    (hl : rules.ends last.kind = true) (tokens waiting : List Token) :
    ∃ passed rest left, tokens = passed ++ rest ∧ rules.Passes waiting passed left ∧
      ∀ read, ((rules.judge left (rest.head?.getD last)).answer? (rest.head?.getD last) read).isSome =
        true := by
  induction tokens generalizing waiting with
  | nil => exact ⟨[], [], waiting, rfl, .nil, answer?_of_ends apart hl waiting⟩
  | cons token tokens ih =>
    cases hv : rules.judge waiting token with
    | proceed next =>
      obtain ⟨passed, rest, left, rfl, hp, ha⟩ := ih next
      exact ⟨token :: passed, rest, left, rfl, .cons hv hp, ha⟩
    | balanced =>
      exact ⟨[], token :: tokens, waiting, rfl, .nil, fun _ => by simp [hv, Verdict.answer?]⟩
    | unbalanced culprit left =>
      exact ⟨[], token :: tokens, waiting, rfl, .nil, fun _ => by simp [hv, Verdict.answer?]⟩

end Rules

namespace Checker

variable {σ : Type} [TokenStream σ]

def verdict (checker : Checker σ) : Verdict :=
  (TokenStream.rules checker.stream).judge checker.waiting (TokenStream.next checker.stream).1

def turn (checker : Checker σ) : Checker σ :=
  ⟨checker.verdict.waiting checker.waiting, (TokenStream.next checker.stream).2⟩

def turns : Nat → Checker σ → Checker σ
  | 0, checker => checker
  | n + 1, checker => turns n checker.turn

/-- A call goes on, turn after turn, until a verdict has an answer. -/
theorem checkWithin_succ (n : Nat) (read : List Token) (checker : Checker σ) :
    checkWithin (n + 1) read checker =
      match checker.verdict.answer? (TokenStream.next checker.stream).1 read with
      | some answer => some (answer, checker.turn)
      | none => checkWithin n ((TokenStream.next checker.stream).1 :: read) checker.turn := by
  rw [checkWithin]
  simp only [turn]
  cases hv : checker.verdict <;> simp [verdict] at hv <;>
    simp [hv, Verdict.answer?, Verdict.waiting]

theorem turns_add (m n : Nat) (checker : Checker σ) :
    turns (m + n) checker = turns n (turns m checker) := by
  induction m generalizing checker with
  | zero => simp [turns]
  | succ m ih => rw [Nat.succ_add]; exact ih _

theorem turns_stream (n : Nat) (checker : Checker σ) :
    (turns n checker).stream = TokenStream.after n checker.stream := by
  induction n generalizing checker with
  | zero => rfl
  | succ n ih => exact ih _

/-- A call that does not return has gone on at every turn. -/
theorem checkWithin_eq_none_iff {n : Nat} {read : List Token} {checker : Checker σ} :
    checkWithin n read checker = none ↔ ∀ m < n, (turns m checker).verdict.proceeds = true := by
  induction n generalizing read checker with
  | zero => simp [checkWithin]
  | succ n ih =>
    rw [checkWithin_succ, Nat.forall_lt_succ_left, turns, ← Verdict.answer?_eq_none_iff]
    cases ha : checker.verdict.answer? (TokenStream.next checker.stream).1 read with
    | some answer => simp
    | none => simpa [turns] using ih

/-- A call that returns goes on for some turns, and then comes to a verdict that has its answer. -/
theorem exists_turn_of_checkWithin {n : Nat} {read : List Token} {checker after : Checker σ}
    {answer : Answer} (h : checkWithin n read checker = some (answer, after)) :
    ∃ m < n, after = turns (m + 1) checker ∧
      (∀ i < m, (turns i checker).verdict.proceeds = true) ∧
      (turns m checker).verdict.answer? (TokenStream.nth m checker.stream)
        ((TokenStream.firsts m checker.stream).reverse ++ read) = some answer := by
  induction n generalizing read checker with
  | zero => cases h
  | succ n ih =>
    rw [checkWithin_succ] at h
    cases ha : checker.verdict.answer? (TokenStream.next checker.stream).1 read with
    | some first =>
      simp only [ha] at h
      cases h
      exact ⟨0, Nat.succ_pos n, rfl, nofun, ha⟩
    | none =>
      simp only [ha] at h
      obtain ⟨m, hm, hafter, hgo, hanswer⟩ := ih h
      refine ⟨m + 1, Nat.succ_lt_succ hm, hafter, ?_, ?_⟩
      · exact Nat.forall_lt_succ_left.mpr ⟨Verdict.answer?_eq_none_iff.mp ha, hgo⟩
      · rw [TokenStream.firsts, List.reverse_cons, List.append_assoc]
        exact hanswer

/-- So many calls that return are so many turns. -/
theorem exists_turns_checks (calls : Nat) (checker : Checker σ) :
    ∃ m, (checker.checks calls).2 = turns m checker := by
  induction calls generalizing checker with
  | zero => exact ⟨0, rfl⟩
  | succ calls ih =>
    rw [checks]
    cases hc : checker.check? with
    | none => exact ⟨0, rfl⟩
    | some result =>
      obtain ⟨answer, after⟩ := result
      obtain ⟨k, -, rfl, -, -⟩ := exists_turn_of_checkWithin hc
      obtain ⟨m, hm⟩ := ih (turns (k + 1) checker)
      refine ⟨k + 1 + m, ?_⟩
      rw [turns_add (k + 1) m checker, ← hm]

variable {stream : σ} {rules : Rules} {tokens waiting : List Token} {last : Token}

theorem turn_eq (h : TokenStream.Yields stream rules tokens last) (waiting : List Token) :
    turn ⟨waiting, stream⟩ =
      ⟨(rules.judge waiting (tokens.head?.getD last)).waiting waiting,
        (TokenStream.next stream).2⟩ := by
  simp only [turn, verdict, h.rules_eq, h.first]

/-- Tokens that pass take a call only as far as the openers that they leave. -/
theorem checkWithin_of_passes {passed left : List Token} (hp : rules.Passes waiting passed left) :
    ∀ {stream : σ}, TokenStream.Yields stream rules (passed ++ tokens) last →
      ∀ n read, checkWithin (passed.length + n) read ⟨waiting, stream⟩ =
        checkWithin n (passed.reverse ++ read) (turns passed.length ⟨waiting, stream⟩) ∧
      turns passed.length ⟨waiting, stream⟩ = ⟨left, TokenStream.after passed.length stream⟩ := by
  induction hp with
  | nil => simp [turns, TokenStream.after]
  | @cons waiting next left token passed first rest ih =>
    intro stream h n read
    have ht : (TokenStream.next stream).1 = token := h.first
    have hturn : turn ⟨waiting, stream⟩ = ⟨next, (TokenStream.next stream).2⟩ := by
      rw [turn_eq h]
      simp [first, Verdict.waiting]
    have hv : verdict ⟨waiting, stream⟩ = .proceed next := by
      simp only [verdict, h.rules_eq, ht, first]
    obtain ⟨hc, hs⟩ := ih h.tail n (token :: read)
    constructor
    · rw [List.length_cons, Nat.succ_add, checkWithin_succ, hv, ht, hturn, turns, hturn]
      simpa [Verdict.answer?] using hc
    · rw [List.length_cons, turns, hturn]
      exact hs

/-- Every call over a stream that ends reads tokens that pass, then one that has an answer. -/
theorem check?_of_yields (apart : rules.EndsApart) (hl : rules.ends last.kind = true)
    (h : TokenStream.Yields stream rules tokens last) (waiting : List Token) :
    ∃ passed rest left answer, tokens = passed ++ rest ∧ rules.Passes waiting passed left ∧
      (rules.judge left (rest.head?.getD last)).answer? (rest.head?.getD last) passed.reverse =
        some answer ∧
      turns passed.length ⟨waiting, stream⟩ = ⟨left, TokenStream.after passed.length stream⟩ ∧
      check? ⟨waiting, stream⟩ = some (answer, turns (passed.length + 1) ⟨waiting, stream⟩) := by
  obtain ⟨passed, rest, left, rfl, hp, ha⟩ := Rules.exists_passes apart hl tokens waiting
  obtain ⟨answer, ha⟩ := Option.isSome_iff_exists.mp (ha passed.reverse)
  have hlen := h.length_le
  obtain ⟨n, hn⟩ : ∃ n, patience ⟨waiting, stream⟩ = passed.length + (n + 1) := by
    refine ⟨patience ⟨waiting, stream⟩ - passed.length - 1, ?_⟩
    simp only [patience, List.length_append] at hlen ⊢
    omega
  obtain ⟨hc, ht⟩ := checkWithin_of_passes hp h (n + 1) []
  have hrest : TokenStream.Yields (TokenStream.after passed.length stream) rules rest last := by
    simpa using h.drop passed.length
  refine ⟨passed, rest, left, answer, rfl, hp, ha, ht, ?_⟩
  rw [check?, hn, hc, checkWithin_succ, ht, List.append_nil, turns_add, ht]
  simp only [verdict, hrest.rules_eq, hrest.first, ha, turns]

end Checker

end BracketBalance
