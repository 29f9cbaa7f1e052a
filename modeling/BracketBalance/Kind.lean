namespace BracketBalance

inductive Kind
  | endOfText
  | openBrace
  | closeBrace
  | openBracket
  | closeBracket
  | comment
  | openParen
  | closeParen
  | quote
  | stringData
  | symbol
  | whitespace
  deriving DecidableEq, Repr, Inhabited

namespace Kind

def all : List Kind :=
  [endOfText, openBrace, closeBrace, openBracket, closeBracket, comment, openParen, closeParen, quote,
    stringData, symbol, whitespace]

def rank (kind : Kind) : Nat := kind.ctorIdx

instance : Ord Kind := ⟨fun a b => compare a.rank b.rank⟩

def spelling : Kind → String
  | endOfText => "Eof"
  | openBrace => "BraceL"
  | closeBrace => "BraceR"
  | openBracket => "BracketL"
  | closeBracket => "BracketR"
  | comment => "Comment"
  | openParen => "ParenL"
  | closeParen => "ParenR"
  | quote => "QuotationMark"
  | stringData => "StringData"
  | symbol => "Symbol"
  | whitespace => "Whitespace"

/-- The kind of token that starts with a character outside strings and comments; no character stands
for the end of the text. -/
def startingWith : Option Char → Kind
  | none => endOfText
  | some '(' => openParen
  | some '[' => openBracket
  | some '{' => openBrace
  | some ')' => closeParen
  | some ']' => closeBracket
  | some '}' => closeBrace
  | some '"' => quote
  | some ';' => comment
  | some ' ' | some '\t' | some '\n' | some '\r' => whitespace
  | some _ => symbol

def opens : Kind → Bool
  | openParen | openBracket | openBrace | quote => true
  | _ => false

def closes : Kind → Bool
  | closeParen | closeBracket | closeBrace | quote => true
  | _ => false

def closer? : Kind → Option Kind
  | openParen => some closeParen
  | openBracket => some closeBracket
  | openBrace => some closeBrace
  | quote => some quote
  | _ => none

def pairs (opener closer : Kind) : Bool :=
  opener.closer? == some closer

/-- Only the quotation mark both opens and closes. -/
theorem opens_and_closes_iff (kind : Kind) :
    (kind.opens = true ∧ kind.closes = true) ↔ kind = quote := by
  cases kind <;> decide

theorem closes_of_pairs {opener closer : Kind} (h : pairs opener closer = true) :
    opener.opens = true ∧ closer.closes = true := by
  cases opener <;> cases closer <;> first | exact ⟨rfl, rfl⟩ | cases h

/-- Every closing kind has exactly one opening kind. -/
theorem pairs_left_unique {a b closer : Kind} (ha : pairs a closer = true)
    (hb : pairs b closer = true) : a = b := by
  cases a <;> cases b <;> first | rfl | (cases closer <;> cases ha <;> cases hb)

theorem startingWith_ne_endOfText (c : Char) : startingWith (some c) ≠ endOfText := by
  unfold startingWith
  split <;> simp_all

theorem startingWith_ne_stringData (c : Option Char) : startingWith c ≠ stringData := by
  unfold startingWith
  split <;> simp

end Kind

end BracketBalance
