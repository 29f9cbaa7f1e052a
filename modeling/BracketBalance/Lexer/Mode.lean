import BracketBalance.Kind

namespace BracketBalance

/-- What the character just read belongs to. -/
inductive Mode
  | start
  | bracket
  | comment
  /-- A carriage return in a comment, which may begin the line break that ends the comment. -/
  | commentReturn
  | openQuote
  | stringData
  | escape
  | closeQuote
  | symbol
  | whitespace
  | finished
  deriving DecidableEq, Repr, Inhabited

structure Transition where
  next : Mode
  /-- The text read so far is a complete token. -/
  emits : Bool
  kind : Kind
  deriving DecidableEq, Repr

namespace Mode

def entering : Kind → Mode
  | .openParen | .closeParen | .openBracket | .closeBracket | .openBrace | .closeBrace => bracket
  | .comment => comment
  | .endOfText => finished
  | .quote => openQuote
  | .stringData => stringData
  | .symbol => symbol
  | .whitespace => whitespace

def inString : Option Char → Mode
  | none => finished
  | some '"' => closeQuote
  | some '\\' => escape
  | some _ => stringData

/-- What a mode makes of the character read in it, given the one that comes next. -/
def transition (mode : Mode) (read upcoming : Option Char) : Transition :=
  let ahead := Kind.startingWith upcoming
  match mode with
  | start => ⟨entering ahead, false, .startingWith read⟩
  | bracket | closeQuote => ⟨entering ahead, true, .startingWith read⟩
  | openQuote => ⟨inString upcoming, true, .startingWith read⟩
  | stringData => ⟨inString upcoming, upcoming == none || upcoming == some '"', .stringData⟩
  | escape =>
    match upcoming with
    | none => ⟨finished, true, .stringData⟩
    | some _ => ⟨stringData, false, .stringData⟩
  | whitespace => ⟨entering ahead, ahead != .whitespace, .startingWith read⟩
  | symbol => ⟨entering ahead, ahead != .symbol, .startingWith read⟩
  | comment | commentReturn =>
    match upcoming with
    | none => ⟨finished, true, .comment⟩
    | some '\n' => ⟨whitespace, true, .comment⟩
    | some '\r' => ⟨commentReturn, false, .comment⟩
    | some _ => ⟨comment, false, .comment⟩
  | finished => ⟨entering ahead, true, .endOfText⟩

theorem entering_ne_start (kind : Kind) : entering kind ≠ start := by
  cases kind <;> decide

theorem entering_startingWith_eq_finished_iff {c : Option Char} :
    entering (.startingWith c) = finished ↔ c = none := by
  cases c with
  | none => decide
  | some c =>
    have h := Kind.startingWith_ne_endOfText c
    cases hk : Kind.startingWith (some c) <;> simp_all [entering]

theorem inString_ne_start (c : Option Char) : inString c ≠ start := by
  unfold inString
  split <;> decide

theorem inString_eq_finished_iff {c : Option Char} : inString c = finished ↔ c = none := by
  unfold inString
  split <;> simp

theorem transition_next_ne_start (mode : Mode) (read upcoming : Option Char) :
    (mode.transition read upcoming).next ≠ start := by
  cases mode <;> simp only [transition] <;>
    first
    | exact entering_ne_start _
    | exact inString_ne_start _
    | (split <;> decide)

/-- The last mode is entered at the end of the text and nowhere else. -/
theorem transition_next_eq_finished_iff {mode : Mode} {read upcoming : Option Char} :
    (mode.transition read upcoming).next = finished ↔ upcoming = none := by
  cases mode <;> simp only [transition] <;>
    first
    | exact entering_startingWith_eq_finished_iff
    | exact inString_eq_finished_iff
    | (split <;> simp)

/-- At the end of the text whatever has been read is a complete token. -/
theorem transition_emits_at_end {mode : Mode} {read : Option Char} (h : mode ≠ start) :
    (mode.transition read none).emits = true := by
  cases mode <;> first | rfl | exact absurd rfl h

end Mode

end BracketBalance
