import BracketBalance.Checker

namespace BracketBalance

namespace Verdict

def waiting (before : List Token) : Verdict → List Token
  | proceed after => after
  | balanced => before
  | unbalanced _ after => after

def culprit? : Verdict → Option Token
  | unbalanced culprit _ => some culprit
  | _ => none

def answer? (token : Token) (read : List Token) : Verdict → Option Answer
  | proceed _ => none
  | balanced => some ⟨token, none, token :: read⟩
  | unbalanced culprit waiting => some ⟨culprit, some (.ofCulprit culprit waiting), token :: read⟩

def proceeds : Verdict → Bool
  | proceed _ => true
  | _ => false

def reply? (token : Token) : Verdict → Option Token
  | proceed _ => none
  | balanced => some token
  | unbalanced culprit _ => some culprit

theorem answer?_eq_none_iff {verdict : Verdict} {token : Token} {read : List Token} :
    verdict.answer? token read = none ↔ verdict.proceeds = true := by
  cases verdict <;> simp [answer?, proceeds]

/-- An answer is given when its last token has been read. -/
theorem read_of_answer? {verdict : Verdict} {token : Token} {read : List Token} {answer : Answer}
    (h : verdict.answer? token read = some answer) : answer.read = token :: read := by
  cases verdict with
  | proceed => cases h
  | balanced | unbalanced => cases h; rfl

end Verdict

namespace Rules

variable {rules : Rules}

/-- Kinds that end a text neither open nor close. -/
def EndsApart (rules : Rules) : Prop :=
  ∀ kind, rules.ends kind = true → rules.opens kind = false ∧ rules.closes kind = false

theorem EndsApart.not_ends (apart : rules.EndsApart) {kind : Kind}
    (h : rules.opens kind = true ∨ rules.closes kind = true) : rules.ends kind = false := by
  cases he : rules.ends kind with
  | false => rfl
  | true =>
    obtain ⟨ho, hc⟩ := apart kind he
    simp [ho, hc] at h

theorem standard_endsApart : standard.EndsApart := by
  intro kind h
  cases kind <;> first | exact ⟨rfl, rfl⟩ | cases h

@[simp] theorem blame_nil (rules : Rules) (token : Token) :
    rules.blame [] token = .unbalanced token [] := by
  unfold blame
  split
  · contradiction
  · rfl

theorem blame_of_ends {top token : Token} {below : List Token}
    (h : rules.ends token.kind = true) :
    rules.blame (top :: below) token = .unbalanced top below := by
  simp only [blame, h]

theorem blame_of_not_ends {waiting : List Token} {token : Token}
    (h : rules.ends token.kind = false) :
    rules.blame waiting token = .unbalanced token waiting := by
  simp only [blame, h]

/-- The verdicts that a token can meet, with the action and what else brings each of them about. -/
inductive Judged (rules : Rules) (token : Token) : List Token → Verdict → Prop
  | pass {waiting : List Token} (acts : rules.action waiting token = .pass)
      (opens : rules.opens token.kind = false) (closes : rules.closes token.kind = false)
      (ends : rules.ends token.kind = false) : Judged rules token waiting (.proceed waiting)
  | push {waiting : List Token} (acts : rules.action waiting token = .push)
      (opens : rules.opens token.kind = true)
      (unmatched : rules.closes token.kind = true → rules.matchesTop waiting token = false) :
      Judged rules token waiting (.proceed (token :: waiting))
  | pop {top : Token} {below : List Token} (acts : rules.action (top :: below) token = .pop)
      (closes : rules.closes token.kind = true) (pairs : rules.pairs top.kind token.kind = true) :
      Judged rules token (top :: below) (.proceed below)
  | stray {waiting : List Token} (acts : rules.action waiting token = .report)
      (opens : rules.opens token.kind = false) (closes : rules.closes token.kind = true)
      (unmatched : rules.matchesTop waiting token = false)
      (ends : rules.ends token.kind = true → waiting = []) :
      Judged rules token waiting (.unbalanced token waiting)
  | unclosed {top : Token} {below : List Token} (acts : rules.action (top :: below) token = .report)
      (opens : rules.opens token.kind = false)
      (unmatched : rules.closes token.kind = true → rules.pairs top.kind token.kind = false)
      (ends : rules.ends token.kind = true) :
      Judged rules token (top :: below) (.unbalanced top below)
  | complete (acts : rules.action [] token = .pass) (opens : rules.opens token.kind = false)
      (closes : rules.closes token.kind = false) (ends : rules.ends token.kind = true) :
      Judged rules token [] .balanced

theorem judge_eq (rules : Rules) (waiting : List Token) (token : Token) :
    rules.judge waiting token =
      match rules.action waiting token with
      | .pass => if rules.ends token.kind then .balanced else .proceed waiting
      | .pop => .proceed waiting.tail
      | .push => .proceed (token :: waiting)
      | .report => rules.blame waiting token := rfl

/-- What neither opens, closes nor ends leaves all as it is. -/
theorem judge_of_neutral {token : Token} (opens : rules.opens token.kind = false)
    (closes : rules.closes token.kind = false) (ends : rules.ends token.kind = false)
    (waiting : List Token) : rules.judge waiting token = .proceed waiting := by
  have ha : rules.action waiting token = .pass := by simp [action, opens, closes, ends]
  rw [judge_eq, ha, ends]
  rfl

/-- What opens waits, unless it closes the last opener. -/
theorem judge_of_opens {waiting : List Token} {token : Token}
    (opens : rules.opens token.kind = true)
    (unmatched : rules.closes token.kind = true → rules.matchesTop waiting token = false) :
    rules.judge waiting token = .proceed (token :: waiting) := by
  have ha : rules.action waiting token = .push := by simpa [action, opens] using unmatched
  rw [judge_eq, ha]

/-- A closer that fits the last opener takes it away. -/
theorem judge_of_pairs {top token : Token} {below : List Token}
    (closes : rules.closes token.kind = true) (pairs : rules.pairs top.kind token.kind = true) :
    rules.judge (top :: below) token = .proceed below := by
  have ha : rules.action (top :: below) token = .pop := by
    simp [action, matchesTop, closes, pairs]
  rw [judge_eq, ha]
  rfl

/-- A closer without a partner is to blame itself, unless it stands for the end and something waits. -/
theorem judged_unmatched {waiting : List Token} {token : Token}
    (acts : rules.action waiting token = .report) (opens : rules.opens token.kind = false)
    (closes : rules.closes token.kind = true) (unmatched : rules.matchesTop waiting token = false) :
    rules.Judged token waiting (rules.blame waiting token) := by
  cases waiting with
  | nil => exact blame_nil rules token ▸ .stray acts opens closes unmatched (fun _ => rfl)
  | cons top below =>
    cases he : rules.ends token.kind with
    | true => exact blame_of_ends he ▸ .unclosed acts opens (fun _ => unmatched) he
    | false =>
      rw [blame_of_not_ends he]
      exact .stray acts opens closes unmatched (fun h => by simp [he] at h)

theorem judged (rules : Rules) (waiting : List Token) (token : Token) :
    rules.Judged token waiting (rules.judge waiting token) := by
  rw [judge_eq]
  cases ho : rules.opens token.kind with
  | true =>
    cases hm : rules.closes token.kind && rules.matchesTop waiting token with
    | true =>
      have ha : rules.action waiting token = .pop := by simp [action, ho, hm]
      obtain ⟨hc, hm⟩ := Bool.and_eq_true_iff.mp hm
      rw [ha]
      cases waiting with
      | nil => cases hm
      | cons top below => exact .pop ha hc hm
    | false =>
      have ha : rules.action waiting token = .push := by simp [action, ho, hm]
      rw [ha]
      exact .push ha ho (by simpa using hm)
  | false =>
    cases hc : rules.closes token.kind with
    | true =>
      cases hm : rules.matchesTop waiting token with
      | true =>
        have ha : rules.action waiting token = .pop := by simp [action, ho, hc, hm]
        rw [ha]
        cases waiting with
        | nil => cases hm
        | cons top below => exact .pop ha hc hm
      | false =>
        have ha : rules.action waiting token = .report := by simp [action, ho, hc, hm]
        rw [ha]
        exact judged_unmatched ha ho hc hm
    | false =>
      cases he : rules.ends token.kind with
      | true =>
        cases waiting with
        | nil =>
          have ha : rules.action [] token = .pass := by simp [action, ho, hc, he]
          simpa [ha] using Judged.complete ha ho hc he
        | cons top below =>
          have ha : rules.action (top :: below) token = .report := by simp [action, ho, hc, he]
          simpa [ha, blame_of_ends he] using Judged.unclosed ha ho (by simp [hc]) he
      | false =>
        have ha : rules.action waiting token = .pass := by simp [action, ho, hc, he]
        simpa [ha] using Judged.pass ha ho hc he

/-- A token that goes on leaves every waiting opener an opener. -/
theorem opens_of_judge {waiting left : List Token} {token : Token}
    (h : rules.judge waiting token = .proceed left)
    (hw : ∀ opener ∈ waiting, rules.opens opener.kind = true) :
    ∀ opener ∈ left, rules.opens opener.kind = true := by
  have hj := rules.judged waiting token
  rw [h] at hj
  cases hj with
  | pass => exact hw
  | push _ opens _ => exact List.forall_mem_cons.mpr ⟨opens, hw⟩
  | pop => exact (List.forall_mem_cons.mp hw).2

/-- The tokens are read one after the other, and none of them ends the check. -/
inductive Passes (rules : Rules) : List Token → List Token → List Token → Prop
  | nil {waiting : List Token} : Passes rules waiting [] waiting
  | cons {waiting next left : List Token} {token : Token} {tokens : List Token}
      (first : rules.judge waiting token = .proceed next) (rest : Passes rules next tokens left) :
      Passes rules waiting (token :: tokens) left

theorem Passes.opens {waiting tokens left : List Token} (h : Passes rules waiting tokens left)
    (hw : ∀ opener ∈ waiting, rules.opens opener.kind = true) :
    ∀ opener ∈ left, rules.opens opener.kind = true := by
  induction h with
  | nil => exact hw
  | cons first _ ih => exact ih (opens_of_judge first hw)

theorem Passes.not_ends {waiting tokens left : List Token} (h : Passes rules waiting tokens left)
    (apart : rules.EndsApart) : ∀ token ∈ tokens, rules.ends token.kind = false := by
  induction h with
  | nil => simp
  | @cons waiting next left token tokens first _ ih =>
    refine List.forall_mem_cons.mpr ⟨?_, ih⟩
    have hj := rules.judged waiting token
    rw [first] at hj
    cases he : rules.ends token.kind with
    | false => rfl
    | true =>
      obtain ⟨ho, hc⟩ := apart _ he
      cases hj <;> simp_all

end Rules

end BracketBalance
