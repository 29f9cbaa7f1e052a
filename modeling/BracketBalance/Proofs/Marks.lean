import Mathlib.Data.List.Forall2
import BracketBalance.Proofs.Layout

namespace BracketBalance

/-- The tokens say the same, and stand at places that are related. -/
structure Token.Corresponds (related : Position → Position → Prop) (a b : Token) : Prop where
  kind : a.kind = b.kind
  lexeme : a.lexeme = b.lexeme
  filename : a.filename = b.filename
  start : related a.start b.start
  stop : related a.stop b.stop

theorem Token.Corresponds.isEnd {related : Position → Position → Prop} {a b : Token}
    (h : a.Corresponds related b) : a.isEnd = b.isEnd := by
  rw [Token.isEnd, h.kind]
  rfl

namespace Region

variable (filename : String) (source : Option Nat)

def marks : Region → Position → List Char → List Token
  | _, _, [] => []
  | region, place, c :: text =>
    ((region.delimiter? c).map fun kind => Piece.token ⟨kind, [c]⟩ filename source place).toList ++
      marks (region.after c) (place.advance c) text

theorem marks_of_delimiter?_eq_none {region : Region} {c : Char}
    (h : region.delimiter? c = none) (place : Position) (text : List Char) :
    region.marks filename source place (c :: text) =
      (region.after c).marks filename source (place.advance c) text := by
  rw [marks, h]
  rfl

theorem marks_append (region : Region) (place : Position) (a b : List Char) :
    region.marks filename source place (a ++ b) = region.marks filename source place a ++
      (region.afterAll a).marks filename source (place.advanceAll a) b := by
  induction a generalizing region place with
  | nil => rfl
  | cons c a ih => simp [marks, ih, afterAll_cons]

theorem map_kind_marks (region : Region) (place : Position) (text : List Char) :
    (region.marks filename source place text).map Token.kind = region.delimiters text := by
  induction text generalizing region place with
  | nil => rfl
  | cons c text ih =>
    rw [marks, List.map_append, ih, delimiters]
    cases region.delimiter? c <;> rfl

theorem Quiet.marks {region : Region} {text : List Char} (h : region.Quiet text)
    (place : Position) : region.marks filename source place text = [] := by
  have hk := map_kind_marks filename source region place text
  rw [h.2] at hk
  exact List.map_eq_nil_iff.mp hk

theorem delimits_of_delimiter? {region : Region} {c : Char} {kind : Kind}
    (h : region.delimiter? c = some kind) : kind.delimits = true := by
  cases region with
  | code =>
    have hf : (some (Kind.startingWith (some c))).filter Kind.delimits = some kind := h
    exact (Option.filter_eq_some_iff.mp hf).2
  | string =>
    simp only [delimiter?] at h
    split at h
    · cases h
      rfl
    · cases h
  | escape | comment => cases h

theorem exists_of_mem_marks {region : Region} {place : Position} {text : List Char} {token : Token}
    (h : token ∈ region.marks filename source place text) :
    ∃ before c after kind, text = before ++ c :: after ∧
      (region.afterAll before).delimiter? c = some kind ∧
      token = Piece.token ⟨kind, [c]⟩ filename source (place.advanceAll before) := by
  induction text generalizing region place with
  | nil => cases h
  | cons c text ih =>
    rcases List.mem_append.mp h with hm | hm
    · obtain ⟨kind, hk, rfl⟩ := Option.map_eq_some_iff.mp (Option.mem_toList.mp hm)
      exact ⟨[], c, text, kind, rfl, hk, rfl⟩
    · obtain ⟨before, d, after, kind, rfl, hd, rfl⟩ := ih hm
      exact ⟨c :: before, d, after, kind, rfl, hd, rfl⟩

theorem delimits_of_mem_marks {region : Region} {place : Position} {text : List Char} :
    ∀ token ∈ region.marks filename source place text, token.kind.delimits = true := by
  intro token hm
  obtain ⟨before, c, after, kind, rfl, hd, rfl⟩ := exists_of_mem_marks filename source hm
  exact delimits_of_delimiter? hd

theorem ends_of_mem_marks {region : Region} {place : Position} {text : List Char} :
    ∀ token ∈ region.marks filename source place text,
      Rules.standard.ends token.kind = false := by
  intro token hm
  have hd := delimits_of_mem_marks filename source token hm
  cases hk : token.kind <;> rw [hk] at hd <;> first | rfl | cases hd

theorem offset_of_mem_marks {region : Region} {place : Position} {text : List Char} :
    ∀ token ∈ region.marks filename source place text,
      place.offset ≤ token.start.offset ∧
        token.start.offset < place.offset + Utf8.size text := by
  intro token hm
  obtain ⟨before, c, after, kind, rfl, -, rfl⟩ := exists_of_mem_marks filename source hm
  have hc := c.utf8Size_pos
  simp only [Piece.token, Position.advanceAll_offset, Utf8.size_append, Utf8.size_cons]
  omega

variable {filename source} in
theorem marks_cons_forall₂ {other : Option Nat} {related : Position → Position → Prop}
    {region : Region} {p q : Position} {c : Char} {text text' : List Char} (h : related p q)
    (hc : related (p.advance c) (q.advance c))
    (ht : List.Forall₂ (Token.Corresponds related)
      ((region.after c).marks filename source (p.advance c) text)
      ((region.after c).marks filename other (q.advance c) text')) :
    List.Forall₂ (Token.Corresponds related) (region.marks filename source p (c :: text))
      (region.marks filename other q (c :: text')) := by
  apply List.rel_append
  · cases region.delimiter? c with
    | none => exact .nil
    | some kind => exact .cons ⟨rfl, rfl, rfl, h, hc⟩ .nil
  · exact ht

/-- Wherever a text stands and whatever source it is, its marks are the same, at places that
correspond. -/
theorem marks_forall₂ (other : Option Nat) {related : Position → Position → Prop}
    (step : ∀ p q c, related p q → related (p.advance c) (q.advance c)) (region : Region)
    {p q : Position} (h : related p q) (text : List Char) :
    List.Forall₂ (Token.Corresponds related) (region.marks filename source p text)
      (region.marks filename other q text) := by
  induction text generalizing region p q with
  | nil => exact .nil
  | cons c text ih =>
    have hc := step p q c h
    exact marks_cons_forall₂ h hc (ih (region.after c) hc)

/-- Brackets are delimiters. -/
theorem code_single {c : Char} (h : Mode.entering (.startingWith (some c)) = .bracket) :
    code.after c = code ∧ code.delimiter? c = some (.startingWith (some c)) := by
  cases hk : Kind.startingWith (some c) <;> simp only [hk, Mode.entering, reduceCtorEq] at h <;>
    exact ⟨by simp only [after, hk], by simp only [delimiter?, hk]; rfl⟩

theorem quiet_run {kind : Kind} (hk : kind = .symbol ∨ kind = .whitespace) {lexeme : List Char}
    (alike : ∀ c ∈ lexeme, Kind.startingWith (some c) = kind) : code.Quiet lexeme := by
  induction lexeme with
  | nil => exact ⟨rfl, rfl⟩
  | cons c lexeme ih =>
    obtain ⟨hc, alike⟩ := List.forall_mem_cons.mp alike
    have ha : code.after c = code := by
      rcases hk with rfl | rfl <;> simp only [after, hc]
    have hd : code.delimiter? c = none := by
      rcases hk with rfl | rfl <;> simp only [delimiter?, hc] <;> rfl
    exact .cons ha hd (ih alike)

/-- Where a comment breaks off, the text goes on as code does. -/
theorem marks_breaks {lexeme rest : List Char} (h : BreaksAfter lexeme rest) (place : Position) :
    comment.marks filename source place rest = code.marks filename source place rest := by
  rcases h with rfl | ⟨more, rfl⟩ | ⟨⟨more, rfl⟩, -⟩ <;> rfl

/-- The data of a string is quiet, and after it the text is still in the string. -/
theorem marks_data {lexeme : List Char} (h : StringBody lexeme) (place : Position)
    (rest : List Char) : string.marks filename source place (lexeme ++ rest) =
      string.marks filename source (place.advanceAll lexeme) rest := by
  rw [marks_append, h.quiet.marks, h.quiet.1]
  rfl

theorem marks_unfinished {lexeme : List Char} (h : Unfinished lexeme) (place : Position) :
    string.marks filename source place lexeme = [] := by
  rcases h with body | ⟨body, rfl, hb⟩
  · exact body.quiet.marks _ _ place
  · rw [marks_data _ _ hb]
    rfl

end Region

variable {filename : String} {source : Option Nat}

theorem filter_layout_of_delimits {piece : Piece} (h : piece.kind.delimits = true)
    (place : Position) (pieces : List Piece) :
    (layout filename source place (piece :: pieces)).filter (fun token => token.kind.delimits) =
      piece.token filename source place ::
        (layout filename source (place.advanceAll piece.lexeme) pieces).filter
          (fun token => token.kind.delimits) :=
  List.filter_cons_of_pos h

theorem filter_layout_of_not {piece : Piece} (h : piece.kind.delimits = false)
    (place : Position) (pieces : List Piece) :
    (layout filename source place (piece :: pieces)).filter (fun token => token.kind.delimits) =
      (layout filename source (place.advanceAll piece.lexeme) pieces).filter
        (fun token => token.kind.delimits) :=
  List.filter_cons_of_neg (by simpa [Piece.token] using h)

/-- The pieces of a text that open or close, laid out, are its marks. -/
theorem Tiles.filter_layout {text : List Char} {pieces : List Piece} (h : Tiles text pieces)
    (place : Position) :
    (layout filename source place pieces).filter (fun token => token.kind.delimits) =
      Region.code.marks filename source place text := by
  induction h generalizing place with
  | nil => rfl
  | @bracket c rest pieces single _ ih =>
    obtain ⟨ha, hd⟩ := Region.code_single single
    have hk : (Kind.startingWith (some c)).delimits = true := by
      cases hk : Kind.startingWith (some c) <;> rw [hk] at single <;> first | rfl | cases single
    rw [filter_layout_of_delimits hk, ih, Region.marks, ha, hd]
    rfl
  | @run kind lexeme rest pieces kind_eq lexeme_ne alike stops _ ih =>
    have hq := Region.quiet_run kind_eq alike
    have hk : kind.delimits = false := by
      rcases kind_eq with rfl | rfl <;> rfl
    rw [filter_layout_of_not hk, ih, Region.marks_append, hq.marks, hq.1]
    rfl
  | @comment line rest pieces unbroken breaks _ ih =>
    have hq := Region.quiet_comment unbroken
    rw [filter_layout_of_not rfl, ih, List.cons_append, Region.marks, Region.code_after_semicolon,
      Region.marks_append, hq.marks, hq.1, Region.marks_breaks _ _ breaks]
    rfl
  | empty _ ih =>
    rw [filter_layout_of_delimits rfl, filter_layout_of_delimits rfl, ih]
    rfl
  | string lexeme_ne body _ ih =>
    rw [filter_layout_of_delimits rfl, filter_layout_of_not rfl, filter_layout_of_delimits rfl, ih,
      List.cons_append, Region.marks, Region.code_after_quote, Region.marks_data _ _ body]
    rfl
  | opened => rfl
  | @unfinished lexeme lexeme_ne data =>
    rw [Region.marks, Region.code_after_quote, Region.marks_unfinished _ _ data]
    rfl

theorem Lexer.filter_drain (text : List Char) (filename : String) (source : Option Nat) :
    (Lexer.ofChars text filename source).drain.tokens.filter (fun token => token.kind.delimits) =
      Region.code.marks filename source .origin text := by
  rw [(Lexer.drain_eq_layout text filename source).1]
  exact (slices_eq_iff_tiles.mp rfl).filter_layout .origin

end BracketBalance
