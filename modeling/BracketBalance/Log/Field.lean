import BracketBalance.Pattern.Reading

namespace BracketBalance

structure Field where
  name : List Char
  value : Option (List Char)
  deriving DecidableEq, Repr

namespace Field

/-- A power of ten after a number, which is a sign and digits. -/
def isExponent (text : List Char) : Bool :=
  match text with
  | [] => true
  | e :: power =>
    let digits := if power.head? = some '+' ∨ power.head? = some '-' then power.tail else power
    (e == 'e' || e == 'E') && !digits.isEmpty && digits.all Char.isDigit

/-- A number without its sign: digits with a point among them or beside them and a power of ten, or the
name of an infinite number or of none. -/
def isMagnitude (text : List Char) : Bool :=
  let (whole, rest) := text.span Char.isDigit
  let (fraction, rest) :=
    if rest.head? = some '.' then rest.tail.span Char.isDigit else ([], rest)
  !(whole.isEmpty && fraction.isEmpty) && isExponent rest ||
    ["inf", "infinity", "nan"].contains (String.ofList (text.map Char.toLower))

def isValue (value : List Char) : Bool :=
  match value with
  | '+' :: magnitude => isMagnitude magnitude
  | value => Pattern.isPattern value

/-- A field by its text, in which the value is what stands after the first equals sign and before the
next one. -/
def ofText? (text : List Char) : Option Field :=
  if text.isEmpty then none
  else
    match text.span (· != '=') with
    | (name, []) => some ⟨name, none⟩
    | (name, _ :: rest) =>
      let value := rest.takeWhile (· != '=')
      if isValue value then some ⟨name, some value⟩ else none

end Field

end BracketBalance
