import BracketBalance.Text.Alphanumeric

namespace BracketBalance.Pattern

/-- How a pattern is understood, as far as it decides whether it can be. -/
structure Flags where
  /-- A letter stands for itself in either case. -/
  ignoreCase : Bool
  /-- Characters are those of Unicode, and not bytes. -/
  unicode : Bool
  /-- There may be room between the parts. -/
  verbose : Bool
  deriving DecidableEq, Repr

namespace Flags

def standard : Flags := ⟨false, true, false⟩

/-- Switches the flag of a letter on or off. Four flags change what a pattern matches only. -/
def set? (flags : Flags) (letter : Char) (on : Bool) : Option Flags :=
  match letter with
  | 'i' => some { flags with ignoreCase := on }
  | 'u' => some { flags with unicode := on }
  | 'x' => some { flags with verbose := on }
  | 'm' | 's' | 'U' | 'R' => some flags
  | _ => none

/-- Flags by their letters up to a colon or a closing bracket, and the text from there on. No letter
stands twice, and those after a dash, which is not the last, are switched off. What has been seen comes
with the last letter first. -/
def read? (flags : Flags) (seen : List Char) : List Char → Option (Flags × List Char)
  | [] => none
  | c :: text =>
    if c = ':' ∨ c = ')' then
      if seen.head? = some '-' then none else some (flags, c :: text)
    else if seen.contains c then none
    else if c = '-' then flags.read? ('-' :: seen) text
    else
      match flags.set? c (!seen.contains '-') with
      | some flags => flags.read? (c :: seen) text
      | none => none

end Flags

def isNameChar (first : Bool) (c : Char) : Bool :=
  if first then c == '_' || Alphanumeric.isAlphabetic c
  else c == '_' || c == '.' || c == '[' || c == ']' || Alphanumeric.isAlphanumeric c

/-- The name of a group up to a closing angle bracket, and the text after it; what has been read of the
name is reversed. -/
def readName? (name : List Char) : List Char → Option (List Char × List Char)
  | [] => none
  | c :: text =>
    if c = '>' then
      if name.isEmpty then none else some (name.reverse, text)
    else if isNameChar name.isEmpty c then readName? (c :: name) text
    else none

end BracketBalance.Pattern
