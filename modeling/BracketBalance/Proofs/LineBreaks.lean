import BracketBalance.Report
import BracketBalance.Proofs.Unmatched

namespace BracketBalance

/-- The text with a line feed in place of each carriage return and line feed. -/
def unixLines : List Char → List Char
  | [] => []
  | '\r' :: '\n' :: text => '\n' :: unixLines text
  | c :: text => c :: unixLines text

section

variable {c : Char} {text a b : List Char}

theorem unixLines_cons (h : ¬ (c = '\r' ∧ text.head? = some '\n')) :
    unixLines (c :: text) = c :: unixLines text := by
  rw [unixLines]
  rintro rest rfl rfl
  exact h ⟨rfl, rfl⟩

theorem unixLines_cons_of_ne (h : c ≠ '\r') (text : List Char) :
    unixLines (c :: text) = c :: unixLines text :=
  unixLines_cons (fun hc => h hc.1)

theorem unixLines_return (h : text.head? = some '\n') :
    unixLines ('\r' :: text) = unixLines text := by
  obtain ⟨rest, rfl⟩ := List.head?_eq_some_iff.mp h
  rw [unixLines, unixLines_cons_of_ne (by decide)]

/-- Parts are treated one by one, unless a carriage return and a line feed meet between them. -/
theorem unixLines_append (h : a.getLast? = some '\r' → b.head? ≠ some '\n') :
    unixLines (a ++ b) = unixLines a ++ unixLines b := by
  induction a with
  | nil => rfl
  | cons c a ih =>
    cases a with
    | nil =>
      have hb : ¬ (c = '\r' ∧ b.head? = some '\n') := fun hc => h (by rw [hc.1]; rfl) hc.2
      have hn : ¬ (c = '\r' ∧ ([] : List Char).head? = some '\n') := nofun
      rw [List.singleton_append, unixLines_cons hb, unixLines_cons hn]
      rfl
    | cons d a =>
      have ih := ih h
      by_cases hc : c = '\r' ∧ d = '\n'
      · obtain ⟨rfl, rfl⟩ := hc
        rw [List.cons_append, unixLines_return rfl, ih, unixLines_return rfl]
      · have hb : ¬ (c = '\r' ∧ (d :: a ++ b).head? = some '\n') := by simpa using hc
        have hn : ¬ (c = '\r' ∧ (d :: a).head? = some '\n') := by simpa using hc
        rw [List.cons_append, unixLines_cons hb, ih, unixLines_cons hn]
        rfl

theorem unixLines_of_not_mem (h : '\n' ∉ text) : unixLines text = text := by
  induction text with
  | nil => rfl
  | cons c text ih =>
    have hn := List.not_mem_of_not_mem_cons h
    rw [unixLines_cons (fun hc => hn (List.mem_of_head? hc.2)), ih hn]

theorem mem_of_mem_unixLines (h : c ∈ unixLines text) : c ∈ text := by
  fun_induction unixLines text with
  | case1 => exact h
  | case2 text ih =>
    rcases List.mem_cons.mp h with rfl | h
    · simp
    · simp [ih h]
  | case3 d text _ ih =>
    rcases List.mem_cons.mp h with rfl | h
    · exact List.mem_cons_self
    · exact List.mem_cons_of_mem _ (ih h)

theorem unixLines_ne_nil (h : text ≠ []) : unixLines text ≠ [] := by
  fun_cases unixLines text with
  | case1 => exact absurd rfl h
  | case2 => exact List.cons_ne_nil _ _
  | case3 => exact List.cons_ne_nil _ _

/-- If the text began with a carriage return, it may begin with a line feed now: both are blanks. -/
theorem startingWith_unixLines (text : List Char) :
    Kind.startingWith (unixLines text).head? = Kind.startingWith text.head? := by
  fun_cases unixLines text <;> rfl

end

namespace Position

structure Aligned (p q : Position) : Prop where
  line : p.line = q.line
  column : p.column = q.column

theorem Aligned.refl (p : Position) : Aligned p p := ⟨rfl, rfl⟩

variable {p q : Position}

theorem Aligned.advance (h : Aligned p q) (c : Char) : Aligned (p.advance c) (q.advance c) := by
  unfold Position.advance
  split
  · exact ⟨congrArg (· + 1) h.line, rfl⟩
  · exact ⟨h.line, congrArg (· + 1) h.column⟩

/-- A line feed leads to the beginning of the next line, whatever stood before it. -/
theorem Aligned.lineBreak (h : Aligned p q) :
    Aligned ((p.advance '\r').advance '\n') (q.advance '\n') :=
  ⟨congrArg (· + 1) h.line, rfl⟩

protected theorem Aligned.unixLines (h : Aligned p q) (text : List Char) :
    Aligned (p.advanceAll text) (q.advanceAll (unixLines text)) := by
  fun_induction unixLines text generalizing p q with
  | case1 => exact h
  | case2 text ih => exact ih h.lineBreak
  | case3 c text _ ih => exact ih (h.advance c)

theorem aligned_ofText (text : List Char) : Aligned (ofText text) (ofText (unixLines text)) := by
  rw [← advanceAll_origin, ← advanceAll_origin]
  exact (Aligned.refl origin).unixLines text

end Position

open Position (Aligned)

namespace Region

/-- After a line feed it does not matter whether a carriage return stood before it. -/
theorem after_break (region : Region) : (region.after '\r').after '\n' = region.after '\n' := by
  cases region <;> rfl

theorem delimiter?_return (region : Region) : region.delimiter? '\r' = none := by
  cases region <;> rfl

theorem delimiter?_feed (region : Region) : region.delimiter? '\n' = none := by
  cases region <;> rfl

/-- Without its carriage returns a text has the same marks in the same lines and columns. -/
theorem marks_unixLines (filename : String) (source : Option Nat) (region : Region)
    {p q : Position} (h : Aligned p q) (text : List Char) :
    List.Forall₂ (Token.Corresponds Aligned) (region.marks filename source p text)
      (region.marks filename source q (unixLines text)) := by
  fun_induction unixLines text generalizing region p q with
  | case1 => exact .nil
  | case2 text ih =>
    rw [marks_of_delimiter?_eq_none _ _ region.delimiter?_return,
      marks_of_delimiter?_eq_none _ _ (delimiter?_feed _),
      marks_of_delimiter?_eq_none _ _ region.delimiter?_feed, after_break]
    exact ih _ h.lineBreak
  | case3 c text _ ih => exact marks_cons_forall₂ h (h.advance c) (ih _ (h.advance c))

end Region

protected theorem StringBody.unixLines {body : List Char} (h : StringBody body) :
    StringBody (unixLines body) := by
  induction h with
  | nil => exact .nil
  | @plain c body quote backslash _ ih =>
    by_cases hc : c = '\r' ∧ body.head? = some '\n'
    · obtain ⟨rfl, hb⟩ := hc
      rwa [unixLines_return hb]
    · rw [unixLines_cons hc]
      exact .plain quote backslash ih
  | @escape body c _ ih =>
    rw [unixLines_cons_of_ne (by decide)]
    by_cases hc : c = '\r' ∧ body.head? = some '\n'
    · -- the backslash takes the line feed in place of the carriage return
      obtain ⟨rfl, hb⟩ := hc
      obtain ⟨rest, rfl⟩ := List.head?_eq_some_iff.mp hb
      rw [unixLines_cons_of_ne (by decide)] at ih
      rw [unixLines_return hb, unixLines_cons_of_ne (by decide)]
      cases ih with
      | plain _ _ rest => exact .escape '\n' rest
    · rw [unixLines_cons hc]
      exact .escape c ih

protected theorem Unfinished.unixLines {lexeme : List Char} (h : Unfinished lexeme) :
    Unfinished (unixLines lexeme) := by
  rcases h with body | ⟨body, rfl, hb⟩
  · exact .inl body.unixLines
  · rw [unixLines_append (by simp)]
    exact .inr ⟨_, rfl, hb.unixLines⟩

protected def Piece.unixLines (piece : Piece) : Piece where
  kind := piece.kind
  lexeme := unixLines piece.lexeme

def DoubleReturn (text : List Char) : Prop :=
  ['\r', '\r', '\n'] <:+: text

theorem DoubleReturn.append_left {b : List Char} (h : DoubleReturn b) (a : List Char) :
    DoubleReturn (a ++ b) :=
  h.trans (List.suffix_append a b).isInfix

/-- Where a comment breaks off, it still does when carriage returns after it are left out, and it does
not end in one that is. -/
protected theorem BreaksAfter.unixLines {line rest : List Char} (h : BreaksAfter line rest)
    (hr : ¬ DoubleReturn (line ++ rest)) :
    BreaksAfter line (unixLines rest) ∧ (line.getLast? = some '\r' → rest.head? ≠ some '\n') := by
  rcases h with rfl | ⟨more, rfl⟩ | ⟨⟨more, rfl⟩, hl⟩
  · exact ⟨.inl rfl, fun _ => by simp⟩
  · refine ⟨.inr (.inr ⟨⟨unixLines more, rfl⟩, ?_⟩), fun _ => by simp⟩
    intro hl
    obtain ⟨before, rfl⟩ := List.getLast?_eq_some_iff.mp hl
    exact hr ⟨before, more, by simp⟩
  · exact ⟨.inr (.inr ⟨⟨unixLines more, rfl⟩, hl⟩), fun h => absurd h hl⟩

/-- Without its carriage returns a text is cut into the same pieces without theirs. -/
protected theorem Tiles.unixLines {text : List Char} {pieces : List Piece} (h : Tiles text pieces)
    (hr : ¬ DoubleReturn text) :
    Tiles (unixLines text) (pieces.map Piece.unixLines) := by
  induction h with
  | nil => exact .nil
  | @bracket c rest pieces single _ ih =>
    have hc : c ≠ '\r' := by
      rintro rfl
      cases single
    have hp : Piece.unixLines ⟨.startingWith (some c), [c]⟩ = ⟨.startingWith (some c), [c]⟩ := by
      rw [Piece.unixLines, unixLines_cons_of_ne hc]
      rfl
    rw [unixLines_cons_of_ne hc, List.map_cons, hp]
    exact .bracket single (ih (fun h => hr (h.append_left [c])))
  | @run kind lexeme rest pieces kind_eq lexeme_ne alike stops _ ih =>
    -- a line feed after a carriage return is a blank as well, and the run would not stop before it
    have seam : lexeme.getLast? = some '\r' → rest.head? ≠ some '\n' := by
      intro hl hh
      have hk : Kind.whitespace = kind := alike '\r' (List.mem_of_getLast? hl)
      rw [hh] at stops
      exact stops hk
    rw [unixLines_append seam]
    refine .run kind_eq (unixLines_ne_nil lexeme_ne) ?_ ?_ (ih (fun h => hr (h.append_left lexeme)))
    · intro c hc
      exact alike c (mem_of_mem_unixLines hc)
    · rwa [startingWith_unixLines]
  | @comment line rest pieces unbroken breaks _ ih =>
    obtain ⟨hb, seam⟩ := breaks.unixLines hr
    have hl : unixLines (';' :: line) = ';' :: line :=
      unixLines_of_not_mem (List.not_mem_cons_of_ne_of_not_mem (by decide) unbroken)
    have hp : Piece.unixLines ⟨.comment, ';' :: line⟩ = ⟨.comment, ';' :: line⟩ := by
      rw [Piece.unixLines, hl]
    rw [unixLines_append seam, hl, List.map_cons, hp]
    exact .comment unbroken hb (ih (fun h => hr (h.append_left (';' :: line))))
  | @empty rest pieces _ ih =>
    rw [unixLines_cons_of_ne (by decide), unixLines_cons_of_ne (by decide)]
    exact .empty (ih (fun h => hr (h.append_left ['"', '"'])))
  | @string lexeme rest pieces lexeme_ne body _ ih =>
    have ht : unixLines ('"' :: lexeme ++ '"' :: rest) =
        '"' :: unixLines lexeme ++ '"' :: unixLines rest := by
      rw [unixLines_append (by simp), unixLines_cons_of_ne (by decide),
        unixLines_cons_of_ne (by decide)]
    have hrest : ¬ DoubleReturn rest := by
      intro h
      apply hr
      simpa using h.append_left ('"' :: lexeme ++ ['"'])
    rw [ht]
    exact .string (unixLines_ne_nil lexeme_ne) body.unixLines (ih hrest)
  | opened => exact .opened
  | unfinished lexeme_ne data =>
    rw [unixLines_cons_of_ne (by decide)]
    exact .unfinished (unixLines_ne_nil lexeme_ne) data.unixLines

namespace Lexer

variable {text : List Char}

theorem slices_unixLines (hr : ¬ DoubleReturn text) :
    Region.code.slices (unixLines text) = (Region.code.slices text).map Piece.unixLines := by
  have h : Tiles text (Region.code.slices text) := slices_eq_iff_tiles.mp rfl
  exact (h.unixLines hr).slices

-- of two carriage returns the first belongs to the comment, and is then the one before the line feed
example : Region.code.slices (unixLines [';', '\r', '\r', '\n']) ≠
    (Region.code.slices [';', '\r', '\r', '\n']).map Piece.unixLines := by decide

theorem getD_map_unixLines (pieces : List Piece) (n : Nat) :
    (pieces.map Piece.unixLines)[n]?.getD .ending = (pieces[n]?.getD .ending).unixLines := by
  rw [List.getElem?_map]
  cases pieces[n]? <;> rfl

theorem aligned_spelling (n : Nat) (pieces : List Piece) :
    Aligned (.ofText (spelling n pieces))
      (.ofText (spelling n (pieces.map Piece.unixLines))) := by
  induction n with
  | zero => exact .refl _
  | succ n ih =>
    rw [spelling_succ, spelling_succ, Position.ofText_append, Position.ofText_append,
      getD_map_unixLines]
    exact ih.unixLines _

/-- The tokens of a text without its carriage returns, one by one. -/
theorem nth_unixLines (hr : ¬ DoubleReturn text) (filename : String) (source : Option Nat)
    (n : Nat) :
    let token := TokenStream.nth n (ofChars text filename source)
    let bare := TokenStream.nth n (ofChars (unixLines text) filename source)
    bare.kind = token.kind ∧ bare.lexeme.toList = unixLines token.lexeme.toList ∧
      Aligned token.start bare.start ∧ Aligned token.stop bare.stop := by
  intro token bare
  refine ⟨?_, ?_, ?_, ?_⟩
  · simp only [token, bare, nth_eq, slices_unixLines hr, getD_map_unixLines]
    rfl
  · rw [nth_lexeme, nth_lexeme, slices_unixLines hr, getD_map_unixLines]
    rfl
  · rw [nth_start, nth_start, slices_unixLines hr]
    exact aligned_spelling n _
  · rw [nth_stop, nth_stop, slices_unixLines hr]
    exact aligned_spelling (n + 1) _

end Lexer

/-- Tokens that say the same in the same line and column are reported in the same words. -/
theorem Token.Corresponds.report {a b : Token} (h : Token.Corresponds Aligned a b) :
    a.report = b.report := by
  unfold Token.report
  rw [h.filename, h.stop.line, h.start.column, h.lexeme]

namespace Checker

theorem answers_unixLines (text : List Char) (filename : String) (source : Option Nat)
    (calls : Nat) :
    List.Forall₂ (Token.Corresponds Aligned) (answers text filename source calls)
      (answers (unixLines text) filename source calls) := by
  apply answers_forall₂
  · apply Rules.unmatched_forall₂ (fun _ _ h => h.kind) .standard
    exact Region.marks_unixLines filename source .code (.refl .origin) text
  · have ha := Position.aligned_ofText text
    exact ⟨rfl, rfl, rfl, ha, ha⟩

/-- A text and the same text without its carriage returns before line feeds: the answers say the same in
the same lines and columns, and are reported in the same words. So do the tokens one by one, but for the
carriage returns in their lexemes, if nowhere two carriage returns stand before a line feed. -/
theorem indifferent_to_returns (text : List Char) (filename : String) (source : Option Nat) :
    (∀ calls, (answers text filename source calls).length = calls ∧
      List.Forall₂ (Token.Corresponds Aligned) (answers text filename source calls)
        (answers (unixLines text) filename source calls) ∧
      (answers text filename source calls).map Token.report =
        (answers (unixLines text) filename source calls).map Token.report) ∧
    (¬ DoubleReturn text → ∀ n,
      let token := TokenStream.nth n (Lexer.ofChars text filename source)
      let bare := TokenStream.nth n (Lexer.ofChars (unixLines text) filename source)
      bare.kind = token.kind ∧ bare.lexeme.toList = unixLines token.lexeme.toList ∧
        Aligned token.start bare.start ∧ Aligned token.stop bare.stop) := by
  refine ⟨fun calls => ?_, fun hr n => Lexer.nth_unixLines hr filename source n⟩
  have ha := answers_unixLines text filename source calls
  refine ⟨length_answers text filename source calls, ha, ?_⟩
  rw [← List.forall₂_eq_eq_eq, List.forall₂_map_left_iff, List.forall₂_map_right_iff]
  exact ha.imp fun _ _ h => h.report

/-- A comment before a carriage return and line feed, and a string with another after a backslash. -/
theorem indifferent_to_returns_string :
    let text := [';', '(', '\r', '\n', '"', '\\', '\r', '\n', '"', ')']
    ¬ DoubleReturn text ∧ ∀ n,
      let token := TokenStream.nth n (Lexer.ofChars text "" none)
      let bare := TokenStream.nth n (Lexer.ofChars (unixLines text) "" none)
      bare.kind = token.kind ∧ bare.lexeme.toList = unixLines token.lexeme.toList ∧
        Aligned token.start bare.start ∧ Aligned token.stop bare.stop := by
  intro text
  have hr : ¬ DoubleReturn text := by
    unfold DoubleReturn
    decide
  exact ⟨hr, (indifferent_to_returns text "" none).2 hr⟩

end Checker

end BracketBalance
