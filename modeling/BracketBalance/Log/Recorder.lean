import BracketBalance.Checker

namespace BracketBalance

/-- A lexer that logs each token as it is read. -/
structure Recorder where
  lexer : Lexer
  /-- What has been logged, the last event first. -/
  log : List Event
  deriving DecidableEq, Repr

namespace Recorder

def next (recorder : Recorder) : Token × Recorder :=
  let (token, after) := recorder.lexer.next
  (token, ⟨after, .ofToken token :: recorder.log⟩)

instance : TokenStream Recorder where
  next := next
  unread recorder := TokenStream.unread recorder.lexer
  rules recorder := TokenStream.rules recorder.lexer

instance : FiniteStream Recorder where
  unread_lt recorder := FiniteStream.unread_lt recorder.lexer

end Recorder

end BracketBalance
