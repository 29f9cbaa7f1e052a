import BracketBalance.Checker

namespace BracketBalance

inductive Operation
  | next
  /-- Ask a new checker so many times. -/
  | check (calls : Nat)
  | mark (source : Nat)
  deriving DecidableEq, Repr

structure Outcome where
  answers : List Token
  /-- The tokens taken from the text, in order. -/
  taken : List Token
  lexer : Lexer
  deriving DecidableEq, Repr

namespace Operation

def perform (lexer : Lexer) : Operation → Outcome
  | next =>
    let (token, after) := lexer.next
    ⟨[token], [token], after⟩
  | check calls =>
    let (answers, after) := (Checker.fresh lexer).checks calls
    ⟨answers.map Answer.token, answers.flatMap (·.read.reverse), after.stream⟩
  | mark source => ⟨[], [], lexer.mark source⟩

def performAll : Lexer → List Operation → List Outcome
  | _, [] => []
  | lexer, operation :: operations =>
    let outcome := operation.perform lexer
    outcome :: performAll outcome.lexer operations

def left (lexer : Lexer) (operations : List Operation) : Lexer :=
  operations.foldl (fun lexer operation => (operation.perform lexer).lexer) lexer

end Operation

end BracketBalance
