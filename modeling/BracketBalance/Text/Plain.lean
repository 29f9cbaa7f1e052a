namespace BracketBalance.Plain

inductive Mode
  | ground
  | escape
  | escapeMore
  /-- A sequence with parameters, up to a letter. -/
  | control
  /-- A command of the operating system, up to a bell. -/
  | command
  | device
  | deviceParameter
  | deviceMore
  /-- A string that a string terminator ends. -/
  | string
  deriving DecidableEq, Repr

/-- A reader of text; while it shows text it is at no control character. -/
structure Reader where
  mode : Mode
  showing : Bool
  deriving DecidableEq, Repr

def isBreak (c : Char) : Bool :=
  c == '\t' || c == '\n' || c == '\x0c' || c == '\r'

def within (low high : Nat) (c : Char) : Bool :=
  low ≤ c.toNat && c.toNat ≤ high

def holdsTerminator (c : Char) : Bool :=
  (String.utf8EncodeChar c).contains 0x9C

namespace Mode

def keeps (mode : Mode) (c : Char) : Bool :=
  match mode with
  | ground => isBreak c || within 0x20 0x7E c || 0x80 ≤ c.toNat
  | escape | escapeMore | control => isBreak c
  | _ => false

def afterPart (mode : Mode) (c : Char) : Mode :=
  match mode with
  | ground => ground
  | escape =>
    if within 0x20 0x2F c then escapeMore
    else
      match c with
      | '[' => control
      | ']' => command
      | 'P' => device
      | 'X' | '^' | '_' => string
      | c => if within 0x30 0x7E c then ground else escape
  | escapeMore => if within 0x30 0x7E c then ground else escapeMore
  | control => if within 0x40 0x7E c then ground else control
  | command => if c = '\x07' then ground else command
  | device =>
    if within 0x40 0x7E c then string
    else if within 0x30 0x3F c then deviceParameter
    else if within 0x20 0x2F c then deviceMore
    else device
  | deviceParameter =>
    if within 0x3C 0x7E c then string
    else if within 0x20 0x2F c then deviceMore
    else deviceParameter
  | deviceMore => if within 0x30 0x7E c then string else deviceMore
  | string => if holdsTerminator c then ground else string

/-- The mode after any character: an escape begins a sequence, and two controls break one off. -/
def after (mode : Mode) (c : Char) : Mode :=
  if c = '\x1b' then escape
  else if c = '\x18' || c = '\x1a' then ground
  else mode.afterPart c

end Mode

namespace Reader

def start : Reader := ⟨.ground, true⟩

/-- Whether the reader keeps a character, and the reader after it. While text is shown, it goes on to
the next control character. -/
def read (reader : Reader) (c : Char) : Bool × Reader :=
  if reader.showing && Mode.ground.keeps c || reader.mode.keeps c then
    (true, ⟨if 0x80 ≤ c.toNat then .ground else reader.mode, true⟩)
  else (false, ⟨reader.mode.after c, false⟩)

def keep (reader : Reader) : List Char → List Char
  | [] => []
  | c :: text =>
    let (kept, after) := reader.read c
    if kept then c :: after.keep text else after.keep text

end Reader

def plain (text : String) : String :=
  String.ofList (Reader.start.keep text.toList)

end BracketBalance.Plain
