import BracketBalance.Log.Event
import BracketBalance.Log.Field
import BracketBalance.Log.Level
import BracketBalance.Text.Alphanumeric
import BracketBalance.Text.Blank
import BracketBalance.Text.Utf8

namespace BracketBalance

structure Directive where
  /-- What the target of an event begins with. -/
  target : List Char
  span : Option (List Char)
  field : Option Field
  level : Level
  deriving DecidableEq, Repr

namespace Directive

def everywhere (level : Level) : Directive := ⟨[], none, none, level⟩

/-- Bytes that are read, each beside the one that is kept for it. -/
abbrev Reading := List (UInt8 × UInt8)

def kept (reading : Reading) : List UInt8 := reading.map Prod.snd

def isOneOf (characters : List Char) (read : UInt8 × UInt8) : Bool :=
  characters.any fun c => c.toUInt8 == read.1

def begins (c : Char) : Bool :=
  c == '[' || c == '-' || c == ':' || c == '_' || Alphanumeric.isAlphanumeric c

def levelOf? (text : List UInt8) : Option Level :=
  if text.isEmpty then some .trace else Level.ofText? (Utf8.decode text)

def levelAfterSpan? (reading : Reading) (ending : List UInt8) : Option Level :=
  match reading with
  | [] => some .trace
  | sign :: rest => if isOneOf ['='] sign then levelOf? (kept rest ++ ending) else none

/-- The directive for a target, from the bracket of its span on. -/
def ofSpan? (target : List Char) (reading : Reading) (ending : List UInt8) : Option Directive :=
  let (span, rest) := reading.span fun c => !isOneOf [']', '\x7b'] c
  match rest with
  | [] => none
  | sign :: rest =>
    if isOneOf [']'] sign then
      (levelAfterSpan? rest ending).map fun level =>
        ⟨target, some (Utf8.decode (kept span)), none, level⟩
    else
      let (text, rest) := rest.span fun c => !isOneOf ['\x7d'] c
      match Field.ofText? (Utf8.decode (kept text)), rest with
      | some field, _ :: sign :: rest =>
        if isOneOf [']'] sign then
          (levelAfterSpan? rest ending).map fun level =>
            ⟨target, if span.isEmpty then none else some (Utf8.decode (kept span)), some field, level⟩
        else none
      | _, _ => none

/-- A directive by its text, which is read without the blanks around it. What is kept of it is counted from
the blanks before it, though, byte by byte, and what ends with the directive is kept with the blanks after
it. -/
def ofText? (text : List Char) : Option Directive :=
  let bytes := text.flatMap String.utf8EncodeChar
  let trimmed := Blank.trim text
  let reading := (trimmed.flatMap String.utf8EncodeChar).zip bytes
  let ending := bytes.drop reading.length
  if !trimmed.head?.any begins then none
  else
    match reading.span fun c => !isOneOf ['=', '['] c with
    | (_, []) =>
      match Level.ofText? text with
      | some level => some (everywhere level)
      | none => some ⟨text, none, none, .trace⟩
    | (target, sign :: rest) =>
      let target := Utf8.decode (kept target)
      if isOneOf ['['] sign then ofSpan? target rest ending
      else (levelOf? (kept rest ++ ending)).map fun level => ⟨target, none, none, level⟩

/-- The directive speaks of an event: of no span, as the program has none, and of no value, as values are
looked for in spans only. -/
def covers (directive : Directive) (event : Event) : Bool :=
  directive.span.isNone && directive.target.isPrefixOf event.target.toList &&
    directive.field.all fun field =>
      field.value.isNone && event.fields.contains (String.ofList field.name)

def fieldName (directive : Directive) : List Char :=
  (directive.field.map Field.name).getD []

/-- Where both directives speak of an event, the second one decides: it has the longer target, or the
greater name of a field with a target as long. -/
def yieldsTo (a b : Directive) : Bool :=
  a.target.length < b.target.length ||
    a.target.length == b.target.length && !decide (b.fieldName < a.fieldName)

end Directive

end BracketBalance
