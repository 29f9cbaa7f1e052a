import BracketBalance.Token

namespace BracketBalance

structure Rules where
  opens : Kind → Bool
  closes : Kind → Bool
  /-- The kinds that stand for the end of the text. -/
  ends : Kind → Bool
  /-- The first kind is closed by the second. -/
  pairs : Kind → Kind → Bool

inductive Action
  | pass
  | pop
  | push
  | report
  deriving DecidableEq, Repr

/-- What has become of a check after one more token. -/
inductive Verdict
  /-- The check goes on with these openers waiting. -/
  | proceed (waiting : List Token)
  | balanced
  /-- A token without its partner, and the openers that wait beside it. -/
  | unbalanced (culprit : Token) (waiting : List Token)
  deriving DecidableEq, Repr

namespace Rules

/-- Brackets of three shapes and quotation marks, in a text that ends once. -/
def standard : Rules where
  opens := Kind.opens
  closes := Kind.closes
  ends := (· == .endOfText)
  pairs := Kind.pairs

def matchesTop (rules : Rules) (waiting : List Token) (token : Token) : Bool :=
  match waiting with
  | [] => false
  | top :: _ => rules.pairs top.kind token.kind

/-- A token that can open is pushed unless it closes the last waiting opener; one that can only close
pops that opener or is reported; the end is reported while anything waits. -/
def action (rules : Rules) (waiting : List Token) (token : Token) : Action :=
  if rules.opens token.kind then
    if rules.closes token.kind && rules.matchesTop waiting token then .pop else .push
  else if rules.closes token.kind then
    if rules.matchesTop waiting token then .pop else .report
  else if rules.ends token.kind then
    if waiting.isEmpty then .pass else .report
  else .pass

/-- At the end of the text the last waiting opener is to blame, elsewhere the token itself. -/
def blame (rules : Rules) (waiting : List Token) (token : Token) : Verdict :=
  match rules.ends token.kind, waiting with
  | true, top :: below => .unbalanced top below
  | _, _ => .unbalanced token waiting

def judge (rules : Rules) (waiting : List Token) (token : Token) : Verdict :=
  match rules.action waiting token with
  | .pass => if rules.ends token.kind then .balanced else .proceed waiting
  | .pop => .proceed waiting.tail
  | .push => .proceed (token :: waiting)
  | .report => rules.blame waiting token

theorem blame_ne_proceed (rules : Rules) (waiting left : List Token) (token : Token) :
    rules.blame waiting token ≠ .proceed left := by
  unfold blame
  split <;> simp

theorem blame_ne_balanced (rules : Rules) (waiting : List Token) (token : Token) :
    rules.blame waiting token ≠ .balanced := by
  unfold blame
  split <;> simp

theorem action_eq_pass_iff {rules : Rules} {waiting : List Token} {token : Token} :
    rules.action waiting token = .pass ↔
      rules.opens token.kind = false ∧ rules.closes token.kind = false ∧
      (rules.ends token.kind = true → waiting = []) := by
  unfold action
  cases rules.opens token.kind <;> cases rules.closes token.kind <;>
    cases rules.ends token.kind <;> cases rules.matchesTop waiting token <;>
    cases waiting <;> simp

/-- A text is found balanced only when every opener has been closed. -/
theorem eq_nil_of_judge_eq_balanced {rules : Rules} {waiting : List Token} {token : Token}
    (h : rules.judge waiting token = .balanced) : waiting = [] := by
  unfold judge at h
  split at h
  · next pass =>
    split at h
    · next ends => exact (action_eq_pass_iff.mp pass).2.2 ends
    · cases h
  · cases h
  · cases h
  · exact absurd h (blame_ne_balanced _ _ _)

theorem judge_standard_end {waiting left : List Token} {token : Token} (h : token.isEnd = true) :
    standard.judge waiting token ≠ .proceed left := by
  rw [Token.isEnd_iff] at h
  cases waiting <;>
    simp [judge, action, standard, Kind.opens, Kind.closes, h, blame_ne_proceed]

end Rules

end BracketBalance
