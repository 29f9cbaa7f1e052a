import BracketBalance.Token

namespace BracketBalance

/-- The file, the line on which the token ends, the column in which it begins, and the token. -/
def Token.report (token : Token) : String :=
  token.filename ++ ":" ++ toString token.stop.line ++ ":" ++ toString token.start.column ++
    ":  '" ++ token.lexeme ++ "' is causing an imbalance"

end BracketBalance
