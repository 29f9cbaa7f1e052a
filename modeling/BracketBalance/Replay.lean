import BracketBalance.Checker

namespace BracketBalance

structure Replay where
  rules : Rules
  tokens : List Token
  /-- What is given when nothing else is left. -/
  last : Token

namespace Replay

def next (replay : Replay) : Token × Replay :=
  match replay.tokens with
  | [] => (replay.last, replay)
  | token :: tokens => (token, { replay with tokens := tokens })

instance : TokenStream Replay where
  next := next
  unread replay := replay.tokens.length
  rules := rules

def ofLexer (lexer : Lexer) : Replay where
  rules := .standard
  tokens := lexer.drain.tokens
  last := lexer.drain.last

end Replay

end BracketBalance
