import BracketBalance.Log.Directive
import BracketBalance.Text.Utf8

namespace BracketBalance

abbrev Filter := List Directive

namespace Filter

def pieces : List Char → List (List Char)
  | [] => [[]]
  | c :: text =>
    if c = ',' then [] :: pieces text
    else
      match pieces text with
      | [] => [[c]]
      | piece :: rest => (c :: piece) :: rest

def ofText? (text : List Char) : Option Filter :=
  ((pieces text).filter (! ·.isEmpty)).mapM Directive.ofText?

def ofBytes? (text : List UInt8) : Option Filter :=
  (Utf8.decode? text).bind ofText?

/-- Of the directives that speak of an event the most particular one decides, and of equal ones the last. -/
def governing (filter : Filter) (event : Event) : Option Directive :=
  filter.foldl (fun best directive =>
    if directive.covers event && best.all (·.yieldsTo directive) then some directive else best) none

def shows (filter : Filter) (event : Event) : Bool :=
  match filter.governing event with
  | none => false
  | some directive => event.within directive.level

end Filter

end BracketBalance
