import BracketBalance.Log.Event

namespace BracketBalance

/-- A name or a text as it comes from outside, which need not be UTF-8. -/
abbrev Bytes := List UInt8

structure Exit where
  status : Nat
  stdout : String
  stderr : String
  deriving DecidableEq, Repr

/-- What the program leaves to others: reading its arguments, and keeping its log. -/
structure Platform where
  /-- The files that the arguments name, or what is left behind if they ask for anything else. -/
  parse : List Bytes → Except Exit (List Bytes)
  /-- The events that the text of a variable asks for, unless it is not set or cannot be read. -/
  requested : Option Bytes → Option (Event → Bool)
  filter : String → Event → Bool
  /-- The events that reach the log, of those that a program gives, when these are asked for. -/
  deliver : (Event → Bool) → List Event → List Event
  /-- The line of the log for an event, given how many stand before it. -/
  line : Nat → Event → String

namespace Platform

/-- The events that are asked for: warnings, if the variable asks for nothing. -/
def shown (platform : Platform) (log : Option Bytes) : Event → Bool :=
  (platform.requested log).getD (platform.filter "warn")

end Platform

end BracketBalance
