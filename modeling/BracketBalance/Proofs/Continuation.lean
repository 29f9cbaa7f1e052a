import BracketBalance.Proofs.Layout

namespace BracketBalance

/-- A comment that ends in a carriage return gives it back when a line feed comes after it. -/
def Piece.GivesBack (piece : Piece) (more : List Char) : Prop :=
  piece.kind = .comment ∧ piece.lexeme.getLast? = some '\r' ∧ more.head? = some '\n'

/-- What comes of the last piece of a text when more is written after it. -/
structure Piece.ContinuedBy (more : List Char) (piece longer : Piece) : Prop where
  kind : longer.kind = piece.kind
  whole : piece.kind.delimits = true → longer = piece
  grows : ¬ piece.GivesBack more → piece.lexeme <+: longer.lexeme
  givesBack : piece.GivesBack more → longer.lexeme ++ ['\r'] = piece.lexeme

/-- What comes of the pieces of a text when more is written after it: all but the last stay. -/
inductive Continued (more : List Char) : List Piece → List Piece → Prop
  | nil {after : List Piece} : Continued more [] after
  | last {piece longer : Piece} {after : List Piece} (continues : piece.ContinuedBy more longer) :
      Continued more [piece] (longer :: after)
  | cons {piece next : Piece} {pieces after : List Piece}
      (rest : Continued more (next :: pieces) after) :
      Continued more (piece :: next :: pieces) (piece :: after)

variable {more : List Char}

theorem Piece.not_givesBack {piece : Piece} (h : piece.kind ≠ .comment) :
    ¬ piece.GivesBack more := by
  intro hg
  exact h hg.1

theorem Piece.ContinuedBy.refl {piece : Piece} (h : piece.kind ≠ .comment) :
    piece.ContinuedBy more piece where
  kind := rfl
  whole _ := rfl
  grows _ := List.prefix_rfl
  givesBack hg := absurd hg (not_givesBack h)

/-- A piece of no delimiter may grow at its end. -/
theorem Piece.ContinuedBy.append {kind : Kind} (hc : kind ≠ .comment) (hd : kind.delimits = false)
    (lexeme beyond : List Char) :
    Piece.ContinuedBy more ⟨kind, lexeme⟩ ⟨kind, lexeme ++ beyond⟩ where
  kind := rfl
  whole h := absurd h (by simp [hd])
  grows _ := List.prefix_append _ _
  givesBack hg := absurd hg (not_givesBack hc)

/-- A piece that is no comment stays, whether others follow or not. -/
theorem Continued.keep {piece : Piece} {pieces after : List Piece} (hk : piece.kind ≠ .comment)
    (h : Continued more pieces after) : Continued more (piece :: pieces) (piece :: after) := by
  cases pieces with
  | nil => exact .last (.refl hk)
  | cons next pieces => exact .cons h

theorem StringBody.append {a b : List Char} (ha : StringBody a) (hb : StringBody b) :
    StringBody (a ++ b) := by
  induction ha with
  | nil => exact hb
  | plain quote backslash _ ih => exact .plain quote backslash ih
  | escape c _ ih => exact .escape c ih

namespace Region

/-- A run goes on in what comes after it. -/
theorem exists_slices_run {kind : Kind} (hk : kind = .symbol ∨ kind = .whitespace)
    {lexeme : List Char} (hne : lexeme ≠ [])
    (hc : ∀ c ∈ lexeme, Kind.startingWith (some c) = kind) (more : List Char) :
    ∃ beyond after, code.slices (lexeme ++ more) = ⟨kind, lexeme ++ beyond⟩ :: after := by
  have he : kind ≠ .endOfText := by
    rcases hk with rfl | rfl <;> decide
  obtain ⟨beyond, rest, rfl, hb, hs⟩ := exists_run kind he more
  refine ⟨beyond, code.slices rest, ?_⟩
  rw [← List.append_assoc]
  apply slices_run hk _ _ hs
  · simp [hne]
  · intro c hm
    rcases List.mem_append.mp hm with hm | hm
    · exact hc c hm
    · exact hb c hm

theorem exists_slices_body {lexeme : List Char} (hne : lexeme ≠ []) (hb : StringBody lexeme)
    (more : List Char) :
    ∃ beyond after, string.slices (lexeme ++ more) = ⟨.stringData, lexeme ++ beyond⟩ :: after := by
  obtain ⟨body, rest, rfl, hbody, hrest⟩ := exists_stringBody more
  have hnonempty : lexeme ++ body ≠ [] := by simp [hne]
  rw [← List.append_assoc]
  rcases hrest with rfl | rfl | ⟨tail, rfl⟩
  · exact ⟨body, _, slices_data hnonempty (hb.append hbody) (.inl rfl)⟩
  · refine ⟨body ++ ['\\'], [], ?_⟩
    rw [← List.append_assoc]
    exact slices_unfinished (by simp) (.inr ⟨_, rfl, hb.append hbody⟩)
  · exact ⟨body, _, slices_data hnonempty (hb.append hbody) (.inr ⟨tail, rfl⟩)⟩

theorem exists_slices_data {lexeme : List Char} (hne : lexeme ≠ []) (hu : Unfinished lexeme)
    (more : List Char) :
    ∃ beyond after, string.slices (lexeme ++ more) = ⟨.stringData, lexeme ++ beyond⟩ :: after := by
  rcases hu with hb | ⟨body, rfl, hb⟩
  · exact exists_slices_body hne hb more
  · cases more with
    | nil =>
      refine ⟨[], [], ?_⟩
      rw [List.append_nil]
      exact slices_unfinished hne (.inr ⟨body, rfl, hb⟩)
    | cons c more =>
      have hescape : StringBody (body ++ ['\\', c]) := hb.append (.escape c .nil)
      obtain ⟨beyond, after, hs⟩ := exists_slices_body (by simp) hescape more
      refine ⟨c :: beyond, after, ?_⟩
      simpa using hs

/-- A comment goes on in what comes after it. -/
theorem exists_slices_line {line : List Char} (hn : '\n' ∉ line)
    (hg : ¬ Piece.GivesBack ⟨.comment, ';' :: line⟩ more) :
    ∃ beyond after,
      code.slices (';' :: line ++ more) = ⟨.comment, ';' :: line ++ beyond⟩ :: after := by
  obtain ⟨beyond, rest, rfl, hb, hr⟩ := exists_comment more
  have hline : '\n' ∉ line ++ beyond := by simp [hn, hb]
  have hbreaks : BreaksAfter (';' :: (line ++ beyond)) rest := by
    rcases hr with rfl | hp | ⟨hp, hl⟩
    · exact .inl rfl
    · exact .inr (.inl hp)
    · refine .inr (.inr ⟨hp, ?_⟩)
      intro hlast
      cases beyond with
      | nil =>
        obtain ⟨tail, rfl⟩ := hp
        rw [List.append_nil] at hlast
        exact hg ⟨rfl, hlast, rfl⟩
      | cons c beyond =>
        rw [← List.cons_append, List.getLast?_append_of_ne_nil _ (List.cons_ne_nil c beyond)] at hlast
        exact hl hlast
  refine ⟨beyond, code.slices rest, ?_⟩
  rw [← List.append_assoc]
  exact slices_comment hline hbreaks

/-- If it has to give its last character back, the text is cut just before that. -/
theorem exists_slices_return {line : List Char} (hn : '\n' ∉ line)
    (hg : Piece.GivesBack ⟨.comment, ';' :: line⟩ more) :
    ∃ body after, line = body ++ ['\r'] ∧
      code.slices (';' :: line ++ more) = ⟨.comment, ';' :: body⟩ :: after := by
  obtain ⟨-, hlast, hhead⟩ := hg
  obtain ⟨before, hb⟩ := List.getLast?_eq_some_iff.mp hlast
  obtain ⟨tail, rfl⟩ := List.head?_eq_some_iff.mp hhead
  cases before with
  | nil => cases hb
  | cons c body =>
    obtain ⟨rfl, rfl⟩ := List.cons.inj hb
    refine ⟨body, code.slices ('\r' :: '\n' :: tail), rfl, ?_⟩
    have hbody : '\n' ∉ body := by
      intro hm
      exact hn (List.mem_append_left _ hm)
    have hs := slices_comment hbody (.inr (.inl ⟨tail, rfl⟩))
    simpa using hs

theorem exists_slices_comment {line : List Char} (hn : '\n' ∉ line) (more : List Char) :
    ∃ longer after, code.slices (';' :: line ++ more) = longer :: after ∧
      Piece.ContinuedBy more ⟨.comment, ';' :: line⟩ longer := by
  by_cases hg : Piece.GivesBack ⟨.comment, ';' :: line⟩ more
  · obtain ⟨body, after, rfl, hs⟩ := exists_slices_return hn hg
    refine ⟨_, after, hs, rfl, nofun, ?_, ?_⟩
    · intro h
      exact absurd hg h
    · intro _
      rfl
  · obtain ⟨beyond, after, hs⟩ := exists_slices_line hn hg
    refine ⟨_, after, hs, rfl, nofun, ?_, ?_⟩
    · intro _
      exact List.prefix_append _ _
    · intro h
      exact absurd h hg

end Region

/-- The pieces of a text are continued in a text that begins with it. -/
theorem Tiles.continued {text : List Char} {pieces : List Piece} (h : Tiles text pieces)
    (more : List Char) : Continued more pieces (Region.code.slices (text ++ more)) := by
  induction h with
  | nil => exact .nil
  | @bracket c rest pieces single _ ih =>
    have hk : Kind.startingWith (some c) ≠ .comment := by
      intro hk
      simp [hk, Mode.entering] at single
    rw [List.cons_append, Region.slices_bracket single]
    exact ih.keep hk
  | @run kind lexeme rest pieces kind_eq lexeme_ne alike stops tiles ih =>
    have hc : kind ≠ .comment ∧ kind.delimits = false := by
      rcases kind_eq with rfl | rfl <;> exact ⟨by decide, rfl⟩
    cases rest with
    | nil =>
      obtain rfl : [] = pieces := tiles.slices
      obtain ⟨beyond, after, hs⟩ := Region.exists_slices_run kind_eq lexeme_ne alike more
      rw [List.append_nil, hs]
      exact .last (.append hc.1 hc.2 lexeme beyond)
    | cons c rest =>
      have hs : Kind.startingWith (c :: rest ++ more).head? ≠ kind := stops
      rw [List.append_assoc, Region.slices_run kind_eq lexeme_ne alike hs]
      exact ih.keep hc.1
  | @comment line rest pieces unbroken breaks tiles ih =>
    cases rest with
    | nil =>
      obtain rfl : [] = pieces := tiles.slices
      obtain ⟨longer, after, hs, hl⟩ := Region.exists_slices_comment unbroken more
      rw [List.append_nil, hs]
      exact .last hl
    | cons c rest =>
      have hb : BreaksAfter (';' :: line) (c :: rest ++ more) := by
        rcases breaks with hb | hp | ⟨hp, hr⟩
        · cases hb
        · exact .inr (.inl (hp.trans (List.prefix_append _ _)))
        · exact .inr (.inr ⟨hp.trans (List.prefix_append _ _), hr⟩)
      rw [List.append_assoc, Region.slices_comment unbroken hb]
      cases pieces with
      | nil => cases tiles.flatMap_lexeme
      | cons next pieces => exact .cons ih
  | empty _ ih =>
    rw [List.cons_append, List.cons_append, Region.slices_opening, Region.slices_closing]
    exact (ih.keep (by decide)).keep (by decide)
  | string lexeme_ne body _ ih =>
    rw [List.append_assoc, List.cons_append, List.cons_append, Region.slices_opening,
      Region.slices_data lexeme_ne body (.inr ⟨_, rfl⟩), Region.slices_closing]
    exact ((ih.keep (by decide)).keep (by simp)).keep (by decide)
  | opened =>
    rw [List.singleton_append, Region.slices_opening]
    exact .last (.refl (by decide))
  | @unfinished lexeme lexeme_ne data =>
    obtain ⟨beyond, after, hs⟩ := Region.exists_slices_data lexeme_ne data more
    rw [List.cons_append, Region.slices_opening, hs]
    exact .cons (.last (.append (by decide) rfl lexeme beyond))

structure Token.ContinuedBy (more : List Char) (last token : Token) : Prop where
  piece : last.piece.ContinuedBy more token.piece
  start : token.start = last.start
  whole : last.kind.delimits = true → token = last

theorem Piece.ContinuedBy.token {piece longer : Piece} (h : piece.ContinuedBy more longer)
    (filename : String) (source : Option Nat) (place : Position) :
    (piece.token filename source place).ContinuedBy more (longer.token filename source place) where
  piece := by simpa [Token.piece, Piece.token] using h
  start := rfl
  whole hd := by rw [h.whole hd]

theorem Continued.tokens {pieces after : List Piece} (h : Continued more pieces after)
    (filename : String) (source : Option Nat) (place : Position) {before : List Token} {last : Token}
    (hl : layout filename source place pieces = before ++ [last]) :
    ∃ token rest, layout filename source place after = before ++ token :: rest ∧
      last.ContinuedBy more token := by
  induction h generalizing place before with
  | nil => simp [layout] at hl
  | @last piece longer after continues =>
    obtain ⟨rfl, rfl⟩ : before = [] ∧ last = piece.token filename source place := by
      cases before with
      | nil => exact ⟨rfl, (List.cons.inj hl).1.symm⟩
      | cons token before => simp [layout] at hl
    exact ⟨_, _, rfl, continues.token filename source place⟩
  | @cons piece next pieces after _ ih =>
    cases before with
    | nil => simp [layout] at hl
    | cons token before =>
      obtain ⟨rfl, htail⟩ := List.cons.inj hl
      obtain ⟨token, rest, hs, hc⟩ := ih _ htail
      exact ⟨token, rest, congrArg (List.cons _) hs, hc⟩

namespace Lexer

/-- With more written after a text, all its tokens but the last stay as they are. In the place of the last
stands one of the same kind that begins there too: the same one if it opens or closes, and otherwise one
whose lexeme goes on, or that has given a carriage return back to the line feed after it. -/
theorem tokens_append (text more : List Char) (filename : String) (source : Option Nat)
    {before : List Token} {last : Token}
    (h : (ofChars text filename source).drain.tokens = before ++ [last]) :
    ∃ token after, (ofChars (text ++ more) filename source).drain.tokens =
      before ++ token :: after ∧ last.ContinuedBy more token := by
  have ht : Tiles text (Region.code.slices text) := slices_eq_iff_tiles.mp rfl
  rw [(drain_eq_layout text filename source).1] at h
  rw [(drain_eq_layout (text ++ more) filename source).1]
  exact (ht.continued more).tokens filename source .origin h

/-- A comment after a bracket, and a line feed written after its carriage return. -/
theorem tokens_append_return :
    (ofChars [')', ';', '\r'] "" none).drain.tokens =
        [⟨.closeParen, ")", none, "", ⟨1, 1, 0⟩, ⟨1, 2, 1⟩⟩] ++
          [⟨.comment, ";\r", none, "", ⟨1, 2, 1⟩, ⟨1, 4, 3⟩⟩] ∧
      ∃ token after, (ofChars ([')', ';', '\r'] ++ ['\n', '(']) "" none).drain.tokens =
          ⟨.closeParen, ")", none, "", ⟨1, 1, 0⟩, ⟨1, 2, 1⟩⟩ :: token :: after ∧
        token.start = ⟨1, 2, 1⟩ ∧ token.lexeme.toList ++ ['\r'] = [';', '\r'] := by
  have h : (ofChars [')', ';', '\r'] "" none).drain.tokens =
      [⟨.closeParen, ")", none, "", ⟨1, 1, 0⟩, ⟨1, 2, 1⟩⟩] ++
        [⟨.comment, ";\r", none, "", ⟨1, 2, 1⟩, ⟨1, 4, 3⟩⟩] := by decide +kernel
  obtain ⟨token, after, ht, hc⟩ := tokens_append [')', ';', '\r'] ['\n', '('] "" none h
  exact ⟨h, token, after, ht, hc.start, hc.piece.givesBack ⟨rfl, rfl, rfl⟩⟩

end Lexer

end BracketBalance
