import BracketBalance.Pattern.Atom
import BracketBalance.Pattern.Nesting

namespace BracketBalance.Pattern

structure Group where
  before : Branches
  flags : Flags
  deriving DecidableEq, Repr

structure Reading where
  flags : Flags
  names : List (List Char)
  /-- The groups that are open, the innermost one first. -/
  groups : List Group
  branches : Branches
  brackets : List Bracket
  deriving DecidableEq, Repr

namespace Reading

def start : Reading := ⟨.standard, [], [], .empty, []⟩

def add (r : Reading) (depth : Nat) (repeatable : Bool) : Reading :=
  { r with branches.current := r.branches.current.add depth repeatable }

def openGroup (r : Reading) (flags : Flags) : Reading :=
  { r with flags, branches := .empty, groups := ⟨r.branches, r.flags⟩ :: r.groups }

def closeGroup? (r : Reading) : Option Reading :=
  match r.groups with
  | [] => none
  | group :: groups =>
    some ({ r with flags := group.flags, branches := group.before, groups }.add
      (r.branches.depth + 1) true)

def openNamed? (r : Reading) (text : List Char) : Option (Reading × List Char) :=
  match readName? [] text with
  | none => none
  | some (name, text) =>
    if r.names.contains name then none
    else some ({ r with names := name :: r.names }.openGroup r.flags, text)

/-- Reads what follows the round bracket of a group: a name, flags, or the group itself. Flags without a
group hold up to the end of the group around them. -/
def readGroup? (r : Reading) (text : List Char) : Option (Reading × List Char) :=
  match skip r.flags.verbose text with
  | '?' :: 'P' :: '<' :: text => r.openNamed? text
  | '?' :: '<' :: text => r.openNamed? text
  | '?' :: text =>
    match r.flags.read? [] text with
    | some (flags, ':' :: text) => some (r.openGroup flags, text)
    | some (flags, _ :: after) =>
      if text.head? = some ')' then none else some ({ r with flags }.add 0 false, after)
    | _ => none
  | text => some (r.openGroup r.flags, text)

/-- Opens a set, of which the text after the square bracket is at hand. Only in Unicode can a set hold the
characters that are not named. -/
def openSet? (r : Reading) (text : List Char) : Option (Reading × List Char) :=
  let r : Reading := { r with brackets := .empty :: r.brackets }
  match skip r.flags.verbose text with
  | '^' :: text => if r.flags.unicode then some (r, text) else none
  | text => some (r, text)

def closeSet (r : Reading) (bracket : Bracket) (brackets : List Bracket) : Reading :=
  match brackets with
  | [] => { r with brackets := [] }.add bracket.depth true
  | outer :: brackets => { r with brackets := outer.add bracket.depth :: brackets }

def classNames : List String :=
  ["alnum", "alpha", "ascii", "blank", "cntrl", "digit", "graph", "lower", "print", "punct", "space",
    "upper", "word", "xdigit"]

/-- A class of ASCII in the text after a square bracket: whether the other characters are meant, and the
text after the class. -/
def readClass? : List Char → Option (Bool × List Char)
  | ':' :: text =>
    let others := text.head? = some '^'
    match (if others then text.tail else text).span (· != ':') with
    | (name, ':' :: ']' :: text) =>
      if classNames.contains (String.ofList name) then some (others, text) else none
    | _ => none
  | _ => none

def knowsClass (flags : Flags) (others : Bool) : Bool :=
  if flags.unicode then !flags.ignoreCase else !others

/-- Reads a member of a set, or a range of them. A dash makes a range unless the set ends after it or
another dash follows. -/
def readMember? (r : Reading) (bracket : Bracket) (brackets : List Bracket) (text : List Char) :
    Option (Reading × List Char) :=
  let r : Reading := { r with brackets := bracket.add 0 :: brackets }
  let verbose := r.flags.verbose
  match Atom.read? verbose text with
  | none => none
  | some (low, text) =>
    let single := if low.isMember r.flags then some (r, text) else none
    match skip verbose text with
    | '-' :: text =>
      if glance verbose text = some ']' ∨ glance verbose text = some '-' then single
      else
        match Atom.read? verbose (skip verbose text) with
        | none => none
        | some (high, text) => if low.boundsRange r.flags high then some (r, text) else none
    | _ => single

/-- Reads a part of the innermost set. Dashes at its beginning stand for themselves, and so does a closing
bracket in their place. Two equal signs combine what is before them with what is after them. -/
def readInSet? (r : Reading) (bracket : Bracket) (brackets : List Bracket) (text : List Char) :
    Option (Reading × List Char) :=
  let put (bracket : Bracket) : Reading := { r with brackets := bracket :: brackets }
  match text with
  | [] => none
  | c :: rest =>
    if bracket.fresh && (c == '-' || c == ']' && bracket.count == 0) then
      if (Atom.char c).isMember r.flags then
        some (put { bracket.add 0 with fresh := c == '-' }, rest)
      else none
    else
      match c, rest with
      | '[', rest =>
        match readClass? rest with
        | some (others, rest) =>
          if knowsClass r.flags others then some (put (bracket.add 0), rest) else none
        | none => r.openSet? rest
      | ']', rest => some (r.closeSet bracket brackets, rest)
      | '-', '-' :: rest | '&', '&' :: rest | '~', '~' :: rest => some (put bracket.combine, rest)
      | _, _ => r.readMember? bracket brackets text

def readRepetition? (r : Reading) (text : List Char) : Option (Reading × List Char) :=
  r.branches.current.repeat?.map fun current =>
    ({ r with branches.current := current }, if text.head? = some '?' then text.tail else text)

/-- Reads a part of the pattern outside all sets. A dot, which is any character, needs Unicode. -/
def readOutside? (r : Reading) (text : List Char) : Option (Reading × List Char) :=
  match text with
  | '(' :: text => r.readGroup? text
  | ')' :: text => r.closeGroup?.map fun r => (r, text)
  | '|' :: text => some ({ r with branches := r.branches.next }, text)
  | '[' :: text => r.openSet? text
  | '*' :: text | '+' :: text | '?' :: text => r.readRepetition? text
  | '\x7b' :: _ => none
  | '.' :: text => if r.flags.unicode then some (r.add 0 true, text) else none
  | '^' :: text | '$' :: text => some (r.add 0 true, text)
  | text =>
    match Atom.read? r.flags.verbose text with
    | some (atom, text) => if atom.stands r.flags then some (r.add 0 true, text) else none
    | none => none

def read? (r : Reading) (text : List Char) : Option (Reading × List Char) :=
  match r.brackets with
  | [] => r.readOutside? text
  | bracket :: brackets => r.readInSet? bracket brackets text

/-- Reads all parts of a text. Every part takes at least one character, so that a text has no more parts
than characters; the number bounds the parts. -/
def run (r : Reading) : Nat → List Char → Option Reading
  | bound, text =>
    match skip r.flags.verbose text, bound with
    | [], _ => some r
    | _, 0 => none
    | part, bound + 1 =>
      match r.read? part with
      | none => none
      | some (r, rest) => r.run bound rest

def isComplete (r : Reading) : Bool :=
  r.groups.isEmpty && r.brackets.isEmpty && r.branches.depth ≤ depthLimit

end Reading

def isPattern (text : List Char) : Bool :=
  match Reading.start.run text.length text with
  | some r => r.isComplete
  | none => false

end BracketBalance.Pattern
