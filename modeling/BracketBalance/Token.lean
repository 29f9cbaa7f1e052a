import BracketBalance.Kind
import BracketBalance.Position

namespace BracketBalance

structure Token where
  kind : Kind
  lexeme : String
  /-- Which of several sources the token was read from. -/
  source : Option Nat
  filename : String
  start : Position
  stop : Position
  deriving DecidableEq, Repr, Inhabited

namespace Token

def isEnd (token : Token) : Bool :=
  token.kind == .endOfText

/-- Kind, lexeme and source agree; places and file names may differ. -/
def Alike (a b : Token) : Prop :=
  a.kind = b.kind ∧ a.lexeme = b.lexeme ∧ a.source = b.source

instance (a b : Token) : Decidable (a.Alike b) :=
  inferInstanceAs (Decidable (_ ∧ _ ∧ _))

theorem isEnd_iff {token : Token} : token.isEnd = true ↔ token.kind = .endOfText := by
  simp [isEnd]

theorem Alike.refl (a : Token) : a.Alike a := ⟨rfl, rfl, rfl⟩

theorem Alike.symm {a b : Token} (h : a.Alike b) : b.Alike a :=
  ⟨h.1.symm, h.2.1.symm, h.2.2.symm⟩

theorem Alike.trans {a b c : Token} (h : a.Alike b) (k : b.Alike c) : a.Alike c :=
  ⟨h.1.trans k.1, h.2.1.trans k.2.1, h.2.2.trans k.2.2⟩

end Token

end BracketBalance
