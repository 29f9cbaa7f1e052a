import BracketBalance.Lexer
import BracketBalance.Log.Event
import BracketBalance.Rules

namespace BracketBalance

/-- A source of tokens without end, and the rules that its tokens follow. -/
class TokenStream (σ : Type) where
  next : σ → Token × σ
  /-- A bound on the tokens still to come before the stream only repeats itself. -/
  unread : σ → Nat
  rules : σ → Rules

structure Answer where
  /-- The end of the text if everything balances, and otherwise a token without its partner. -/
  token : Token
  /-- What is logged of a token that is found without its partner. -/
  complaint : Option Event
  /-- The tokens read for this answer, the last one first. -/
  read : List Token
  deriving DecidableEq, Repr

/-- The token was found without its partner. -/
def Answer.reported (answer : Answer) : Bool :=
  answer.complaint.isSome

structure Checker (σ : Type) where
  /-- The openers that wait for their closers, the last one first. -/
  waiting : List Token
  stream : σ

namespace Checker

variable {σ : Type}

def fresh (stream : σ) : Checker σ := ⟨[], stream⟩

/-- Reads until there is an answer, but at most so many tokens. -/
def checkWithin [TokenStream σ] :
    Nat → List Token → Checker σ → Option (Answer × Checker σ)
  | 0, _, _ => none
  | n + 1, read, checker =>
    let (token, after) := TokenStream.next checker.stream
    match (TokenStream.rules checker.stream).judge checker.waiting token with
    | .proceed waiting => checkWithin n (token :: read) ⟨waiting, after⟩
    | .balanced => some (⟨token, none, token :: read⟩, ⟨checker.waiting, after⟩)
    | .unbalanced culprit waiting =>
      some (⟨culprit, some (.ofCulprit culprit waiting), token :: read⟩, ⟨waiting, after⟩)

/-- A number of tokens after which a check that has not been answered never will be: a stream that only
repeats a closing token can still close what waits, one opener at a time. -/
def patience [TokenStream σ] (checker : Checker σ) : Nat :=
  2 * TokenStream.unread checker.stream + checker.waiting.length + 1

def check? [TokenStream σ] (checker : Checker σ) : Option (Answer × Checker σ) :=
  checkWithin checker.patience [] checker

def checks [TokenStream σ] : Nat → Checker σ → List Answer × Checker σ
  | 0, checker => ([], checker)
  | n + 1, checker =>
    match checker.check? with
    | none => ([], checker)
    | some (answer, after) =>
      let (more, last) := checks n after
      (answer :: more, last)

end Checker

instance : TokenStream Lexer where
  next := Lexer.next
  unread := Lexer.work
  rules _ := .standard

/-- A stream in which less is left to come whenever a check goes on. -/
class FiniteStream (σ : Type) [TokenStream σ] : Prop where
  unread_lt : ∀ (stream : σ) (waiting left : List Token),
    (TokenStream.rules stream).judge waiting (TokenStream.next stream).1 = .proceed left →
      TokenStream.unread (TokenStream.next stream).2 < TokenStream.unread stream

instance : FiniteStream Lexer where
  unread_lt lexer waiting left proceeds := by
    cases hend : lexer.next.1.isEnd with
    | true => exact absurd proceeds (Rules.judge_standard_end hend)
    | false => exact Lexer.next_work hend

namespace Checker

variable {σ : Type} [TokenStream σ] [FiniteStream σ]

theorem isSome_checkWithin (n : Nat) (read : List Token) (checker : Checker σ)
    (h : TokenStream.unread checker.stream < n) : (checkWithin n read checker).isSome := by
  induction n generalizing read checker with
  | zero => omega
  | succ n ih =>
    unfold checkWithin
    simp only
    split
    · next waiting judged =>
      have hlt := FiniteStream.unread_lt checker.stream _ _ judged
      exact ih _ _ (Nat.lt_of_lt_of_le hlt (Nat.le_of_lt_succ h))
    · rfl
    · rfl

theorem isSome_check? (checker : Checker σ) : checker.check?.isSome :=
  isSome_checkWithin _ _ _ (by simp only [patience]; omega)

def check (checker : Checker σ) : Answer × Checker σ :=
  checker.check?.get checker.isSome_check?

theorem check?_eq (checker : Checker σ) : checker.check? = some checker.check := by
  simp [check]

end Checker

end BracketBalance
