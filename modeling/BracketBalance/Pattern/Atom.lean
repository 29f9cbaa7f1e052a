import BracketBalance.Pattern.Flags
import BracketBalance.Pattern.Room

namespace BracketBalance.Pattern

inductive Atom
  /-- A character by itself or after a backslash. -/
  | char (c : Char)
  /-- A character by the number of a byte. -/
  | byte (c : Char)
  /-- The digits, the blanks or the characters of words, or all other characters. -/
  | kind (others : Bool)
  | wordEdge
  | textEdge
  deriving DecidableEq, Repr

namespace Atom

def stands (flags : Flags) : Atom → Bool
  | char _ => !(flags.unicode && flags.ignoreCase)
  | byte c => if flags.unicode then !flags.ignoreCase else c.toNat < 128
  | kind others => !flags.unicode && !others
  | wordEdge => !flags.unicode
  | textEdge => true

def isMember (flags : Flags) : Atom → Bool
  | char c | byte c => if flags.unicode then !flags.ignoreCase else c.toNat < 128
  | kind others => !flags.unicode && !others
  | wordEdge | textEdge => false

def boundsRange (flags : Flags) (low high : Atom) : Bool :=
  match low, high with
  | char a, char b | char a, byte b | byte a, char b | byte a, byte b =>
    low.isMember flags && high.isMember flags && a ≤ b
  | _, _ => false

def digit? (c : Char) : Option Nat :=
  if c.isDigit then some (c.toNat - '0'.toNat)
  else if 'a' ≤ c ∧ c ≤ 'f' then some (c.toNat - 'a'.toNat + 10)
  else if 'A' ≤ c ∧ c ≤ 'F' then some (c.toNat - 'A'.toNat + 10)
  else none

def readCode? (verbose : Bool) : Nat → Nat → List Char → Option (Char × List Char)
  | 0, value, text => if value.isValidChar then some (Char.ofNat value, text) else none
  | missing + 1, value, text =>
    match skip verbose text with
    | [] => none
    | c :: text =>
      match digit? c with
      | none => none
      | some digit => readCode? verbose missing (value * 16 + digit) text

def control? (letter : Char) : Option Char :=
  match letter with
  | 'a' => some '\x07'
  | 't' => some '\t'
  | 'n' => some '\n'
  | 'v' => some '\x0b'
  | 'f' => some '\x0c'
  | 'r' => some '\r'
  | _ => none

/-- The atom after a backslash, and the text after it. Every character of ASCII that is no letter, digit
or angle bracket may stand there for itself. -/
def readEscape? (verbose : Bool) : List Char → Option (Atom × List Char)
  | [] => none
  | c :: text =>
    match c with
    | 'x' => (readCode? verbose 2 0 text).map fun code => (byte code.1, code.2)
    | 'u' => (readCode? verbose 4 0 text).map fun code => (char code.1, code.2)
    | 'U' => (readCode? verbose 8 0 text).map fun code => (char code.1, code.2)
    | 'd' | 's' | 'w' => some (kind false, text)
    | 'D' | 'S' | 'W' => some (kind true, text)
    | 'b' | 'B' | '<' | '>' => some (wordEdge, text)
    | 'A' | 'z' => some (textEdge, text)
    | c =>
      match control? c with
      | some c => some (char c, text)
      | none =>
        if c.toNat < 128 && !c.isAlphanum then some (char c, text) else none

/-- The atom that a text begins with, where no character but the backslash has a meaning. -/
def read? (verbose : Bool) : List Char → Option (Atom × List Char)
  | [] => none
  | '\\' :: text => readEscape? verbose text
  | c :: text => some (char c, text)

end Atom

end BracketBalance.Pattern
