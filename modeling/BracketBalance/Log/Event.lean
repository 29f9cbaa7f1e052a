import BracketBalance.Log.Level
import BracketBalance.Text.Quoted
import BracketBalance.Token

namespace BracketBalance

/-- What the program tells its log. -/
inductive Event
  /-- A token has been read, which begins in this place. -/
  | token (kind : Kind) (lexeme : String) (line column : Nat)
  /-- A token has no partner: the line where it ends, the column where it begins, and how many openers wait
  beside it. -/
  | unbalanced (kind : Kind) (line column pending : Nat)
  | checked (file : String) (balanced : Bool)
  deriving DecidableEq, Repr

namespace Event

def ofToken (t : Token) : Event :=
  token t.kind t.lexeme t.start.line t.start.column

def ofCulprit (culprit : Token) (waiting : List Token) : Event :=
  unbalanced culprit.kind culprit.stop.line culprit.start.column waiting.length

def level : Event → Level
  | token .. => .trace
  | unbalanced .. => .debug
  | checked .. => .debug

/-- The event is shown where so much is asked for. -/
def within (limit : Level) (event : Event) : Bool :=
  event.level.rank ≤ limit.rank

def target : Event → String
  | token .. => "bracka::lexer"
  | unbalanced .. => "bracka::balance_checker"
  | checked .. => "bracka::arguments"

def fields : Event → List String
  | token .. => ["message", "kind", "lexeme", "line", "column"]
  | unbalanced .. => ["message", "kind", "line", "column", "pending"]
  | checked .. => ["message", "file", "balanced"]

def message : Event → String
  | token kind lexeme line column =>
    "token kind=" ++ kind.spelling ++ " lexeme=" ++ Quoted.quote lexeme ++
      " line=" ++ toString line ++ " column=" ++ toString column
  | unbalanced kind line column pending =>
    "unbalanced token kind=" ++ kind.spelling ++ " line=" ++ toString line ++
      " column=" ++ toString column ++ " pending=" ++ toString pending
  | checked file balanced => "checked file=" ++ file ++ " balanced=" ++ toString balanced

end Event

end BracketBalance
