import BracketBalance.Proofs.Literal
import BracketBalance.Proofs.Slices

namespace BracketBalance

def Piece.quote : Piece := ⟨.quote, ['"']⟩

/-- A comment may end where this is left of the text: at the end, before a carriage return and a line
feed, or before a line feed with no carriage return ahead of it. -/
def BreaksAfter (lexeme rest : List Char) : Prop :=
  rest = [] ∨ ['\r', '\n'] <+: rest ∨ ['\n'] <+: rest ∧ lexeme.getLast? ≠ some '\r'

/-- The data of a string that is followed by nothing; its last character may be a lone backslash. -/
def Unfinished (lexeme : List Char) : Prop :=
  StringBody lexeme ∨ ∃ body, lexeme = body ++ ['\\'] ∧ StringBody body

inductive Tiles : List Char → List Piece → Prop
  | nil : Tiles [] []
  | bracket {c : Char} {rest : List Char} {pieces : List Piece}
      (single : Mode.entering (.startingWith (some c)) = .bracket) (more : Tiles rest pieces) :
      Tiles (c :: rest) (⟨.startingWith (some c), [c]⟩ :: pieces)
  | run {kind : Kind} {lexeme rest : List Char} {pieces : List Piece}
      (kind_eq : kind = .symbol ∨ kind = .whitespace) (lexeme_ne : lexeme ≠ [])
      (alike : ∀ c ∈ lexeme, Kind.startingWith (some c) = kind)
      (stops : Kind.startingWith rest.head? ≠ kind) (more : Tiles rest pieces) :
      Tiles (lexeme ++ rest) (⟨kind, lexeme⟩ :: pieces)
  | comment {line rest : List Char} {pieces : List Piece} (unbroken : '\n' ∉ line)
      (breaks : BreaksAfter (';' :: line) rest) (more : Tiles rest pieces) :
      Tiles (';' :: line ++ rest) (⟨.comment, ';' :: line⟩ :: pieces)
  | empty {rest : List Char} {pieces : List Piece} (more : Tiles rest pieces) :
      Tiles ('"' :: '"' :: rest) (.quote :: .quote :: pieces)
  | string {lexeme rest : List Char} {pieces : List Piece} (lexeme_ne : lexeme ≠ [])
      (body : StringBody lexeme) (more : Tiles rest pieces) :
      Tiles ('"' :: lexeme ++ '"' :: rest) (.quote :: ⟨.stringData, lexeme⟩ :: .quote :: pieces)
  | opened : Tiles ['"'] [.quote]
  | unfinished {lexeme : List Char} (lexeme_ne : lexeme ≠ []) (data : Unfinished lexeme) :
      Tiles ('"' :: lexeme) [.quote, ⟨.stringData, lexeme⟩]

namespace Region

theorem slices_bracket {c : Char} (h : Mode.entering (.startingWith (some c)) = .bracket)
    (rest : List Char) :
    code.slices (c :: rest) = ⟨.startingWith (some c), [c]⟩ :: code.slices rest := by
  have hm : code.mode (some c) = .bracket := h
  unfold slices
  rw [List.head?_cons, hm, Mode.slices_of_emits rfl rfl rfl, mode_code]
  rfl

theorem slices_opening (rest : List Char) :
    code.slices ('"' :: rest) = .quote :: string.slices rest := by
  unfold slices
  rw [mode_string]
  exact Mode.slices_of_emits rfl rfl rfl

theorem slices_closing (rest : List Char) :
    string.slices ('"' :: rest) = .quote :: code.slices rest := by
  unfold slices
  rw [mode_code]
  exact Mode.slices_of_emits rfl rfl rfl

theorem transition_run {kind : Kind} (hk : kind = .symbol ∨ kind = .whitespace) {c : Char}
    (hc : Kind.startingWith (some c) = kind) (upcoming : Option Char) :
    (Mode.entering kind).transition (some c) upcoming =
      ⟨.entering (.startingWith upcoming), Kind.startingWith upcoming != kind, kind⟩ := by
  rcases hk with rfl | rfl <;> simp [Mode.transition, Mode.entering, hc]

theorem entering_slices_run {kind : Kind} (hk : kind = .symbol ∨ kind = .whitespace) {c : Char}
    {lexeme rest : List Char} (hc : ∀ d ∈ c :: lexeme, Kind.startingWith (some d) = kind)
    (hs : Kind.startingWith rest.head? ≠ kind) (pending : List Char) :
    (Mode.entering kind).slices pending (c :: lexeme ++ rest) =
      ⟨kind, pending ++ c :: lexeme⟩ :: code.slices rest := by
  induction lexeme generalizing c pending with
  | nil =>
    have ht := transition_run hk (hc c List.mem_cons_self) rest.head?
    have hn : Lexer.keepsReturn (.entering kind) (.entering (.startingWith rest.head?)) = false := by
      rcases hk with rfl | rfl <;> rfl
    rw [List.singleton_append, Mode.slices_of_emits ht (by simpa using hs) hn, slices, mode_code]
  | cons d lexeme ih =>
    obtain ⟨hcc, hd⟩ := List.forall_mem_cons.mp hc
    have ht := transition_run hk hcc (some d)
    rw [hd d List.mem_cons_self] at ht
    rw [List.cons_append, List.cons_append, Mode.slices_of_waits ht (by simp)]
    simpa using ih hd (pending ++ [c])

theorem slices_run {kind : Kind} (hk : kind = .symbol ∨ kind = .whitespace)
    {lexeme rest : List Char} (hne : lexeme ≠ [])
    (hc : ∀ c ∈ lexeme, Kind.startingWith (some c) = kind)
    (hs : Kind.startingWith rest.head? ≠ kind) :
    code.slices (lexeme ++ rest) = ⟨kind, lexeme⟩ :: code.slices rest := by
  obtain ⟨c, lexeme, rfl⟩ := List.exists_cons_of_ne_nil hne
  rw [slices, mode_code, List.cons_append, List.head?_cons, hc c List.mem_cons_self]
  exact entering_slices_run hk hc hs []

def inLine (c : Char) : Mode :=
  if c = '\r' then .commentReturn else .comment

theorem transition_inLine (c : Char) (upcoming : Option Char) :
    (inLine c).transition (some c) upcoming = Mode.comment.transition (some c) upcoming := by
  unfold inLine
  split <;> rfl

/-- A carriage return before a line feed belongs to the blanks, whichever way the lexer came to it. -/
theorem inLine_slices_break (pending rest : List Char) :
    (inLine '\r').slices pending ('\r' :: '\n' :: rest) =
      ⟨.comment, pending⟩ :: code.slices ('\r' :: '\n' :: rest) := by
  rw [inLine, if_pos rfl, Mode.slices_of_keeps rfl rfl rfl]
  rfl

theorem inLine_slices {c : Char} {line rest : List Char} (hn : '\n' ∉ line)
    (hb : BreaksAfter (c :: line) rest) (pending : List Char) :
    (inLine c).slices pending (c :: line ++ rest) =
      ⟨.comment, pending ++ c :: line⟩ :: code.slices rest := by
  induction line generalizing c pending with
  | nil =>
    rw [List.singleton_append]
    rcases hb with rfl | ⟨more, rfl⟩ | ⟨⟨more, rfl⟩, hr⟩
    · refine (Mode.slices_of_emits (transition_inLine c none) rfl ?_).trans rfl
      simp [Lexer.keepsReturn, Mode.transition]
    · refine (Mode.slices_of_waits (transition_inLine c (some '\r')) rfl).trans ?_
      exact inLine_slices_break (pending ++ [c]) more
    · have hi : inLine c = .comment := by
        simpa [inLine] using hr
      rw [hi]
      exact Mode.slices_of_emits rfl rfl rfl
  | cons d line ih =>
    have hd := List.ne_of_not_mem_cons hn
    have hb : BreaksAfter (d :: line) rest := by
      simpa [BreaksAfter] using hb
    have ih := ih (List.not_mem_of_not_mem_cons hn) hb (pending ++ [c])
    have ht : (inLine c).transition (some c) (some d) = ⟨inLine d, false, .comment⟩ := by
      rw [transition_inLine]
      unfold inLine
      simp only [Mode.transition]
      split <;> simp_all
    rw [List.cons_append, List.cons_append, Mode.slices_of_waits ht rfl]
    simpa using ih

theorem slices_comment {line rest : List Char} (hn : '\n' ∉ line)
    (hb : BreaksAfter (';' :: line) rest) :
    code.slices (';' :: line ++ rest) = ⟨.comment, ';' :: line⟩ :: code.slices rest :=
  inLine_slices hn hb []

-- of two carriage returns only the one before the line feed is left to the blanks
example : code.slices [';', 'a', '\r', '\r', '\n'] =
    [⟨.comment, [';', 'a', '\r']⟩, ⟨.whitespace, ['\r', '\n']⟩] := by decide

/-- What may stand after the data of a string: a quotation mark or nothing, and only nothing after a
lone backslash. -/
def DataEnds (tail rest : List Char) : Prop :=
  tail = [] ∧ (rest = [] ∨ ∃ more, rest = '"' :: more) ∨ tail = ['\\'] ∧ rest = []

theorem stringData_slices {body tail rest : List Char} (hb : StringBody body)
    (he : DataEnds tail rest)
    (h : body ++ tail ≠ [] → ∀ pending,
      (Mode.inString (body ++ tail ++ rest).head?).slices pending (body ++ tail ++ rest) =
        ⟨.stringData, pending ++ (body ++ tail)⟩ :: string.slices rest)
    (c : Char) (pending : List Char) :
    Mode.stringData.slices pending (c :: (body ++ tail ++ rest)) =
      ⟨.stringData, pending ++ c :: (body ++ tail)⟩ :: string.slices rest := by
  by_cases hn : body ++ tail = []
  · obtain ⟨rfl, rfl⟩ := List.append_eq_nil_iff.mp hn
    rcases he with ⟨-, hr⟩ | ⟨h, -⟩
    · have hs : string.slices rest = (Mode.inString rest.head?).slices [] rest := by
        rw [slices, mode_string]
      rw [hs]
      rcases hr with rfl | ⟨more, rfl⟩
      · exact Mode.slices_of_emits rfl rfl rfl
      · exact Mode.slices_of_emits rfl rfl rfl
    · cases h
  · obtain ⟨d, hd, hq⟩ : ∃ d, (body ++ tail ++ rest).head? = some d ∧ d ≠ '"' := by
      cases hb with
      | nil =>
        rcases he with ⟨rfl, -⟩ | ⟨rfl, -⟩
        · exact absurd rfl hn
        · exact ⟨_, rfl, by decide⟩
      | plain quote => exact ⟨_, rfl, quote⟩
      | escape => exact ⟨_, rfl, by decide⟩
    have ht : Mode.stringData.transition (some c) (body ++ tail ++ rest).head? =
        ⟨.inString (body ++ tail ++ rest).head?, false, .stringData⟩ := by
      rw [hd]
      simp [Mode.transition, hq]
    rw [Mode.slices_of_waits ht rfl, h hn]
    simp

theorem inString_slices {body tail rest : List Char} (hb : StringBody body)
    (he : DataEnds tail rest) (hne : body ++ tail ≠ []) (pending : List Char) :
    (Mode.inString (body ++ tail ++ rest).head?).slices pending (body ++ tail ++ rest) =
      ⟨.stringData, pending ++ (body ++ tail)⟩ :: string.slices rest := by
  induction hb generalizing pending with
  | nil =>
    rcases he with ⟨rfl, -⟩ | ⟨rfl, rfl⟩
    · exact absurd rfl hne
    · exact Mode.slices_of_emits rfl rfl rfl
  | @plain c body quote backslash hb ih =>
    have hm : Mode.inString (some c) = .stringData := by
      simp [inString_some, quote, backslash]
    rw [List.cons_append, List.cons_append, List.head?_cons, hm]
    exact stringData_slices hb he ih c pending
  | @escape body c hb ih =>
    have hw : Mode.escape.slices pending ('\\' :: c :: (body ++ tail ++ rest)) =
        Mode.stringData.slices (pending ++ ['\\']) (c :: (body ++ tail ++ rest)) :=
      Mode.slices_of_waits rfl rfl
    have hs := stringData_slices hb he ih c (pending ++ ['\\'])
    exact hw.trans (by simpa using hs)

theorem slices_data {lexeme rest : List Char} (hne : lexeme ≠ []) (hb : StringBody lexeme)
    (hr : rest = [] ∨ ∃ more, rest = '"' :: more) :
    string.slices (lexeme ++ rest) = ⟨.stringData, lexeme⟩ :: string.slices rest := by
  have hs := inString_slices hb (.inl ⟨rfl, hr⟩) (by simpa using hne) []
  rw [slices, mode_string]
  simpa using hs

theorem slices_unfinished {lexeme : List Char} (hne : lexeme ≠ []) (hu : Unfinished lexeme) :
    string.slices lexeme = [⟨.stringData, lexeme⟩] := by
  have hn : string.slices [] = [] := rfl
  rw [slices, mode_string]
  rcases hu with hb | ⟨body, rfl, hb⟩
  · have hs := inString_slices hb (.inl ⟨rfl, .inl rfl⟩) (by simpa using hne) []
    simpa [hn] using hs
  · have hs := inString_slices hb (.inr ⟨rfl, rfl⟩) hne []
    simpa [hn] using hs

end Region

theorem Tiles.slices {text : List Char} {pieces : List Piece} (h : Tiles text pieces) :
    Region.code.slices text = pieces := by
  induction h with
  | nil => rfl
  | bracket single _ ih => rw [Region.slices_bracket single, ih]
  | run kind_eq lexeme_ne alike stops _ ih =>
    rw [Region.slices_run kind_eq lexeme_ne alike stops, ih]
  | comment unbroken breaks _ ih => rw [Region.slices_comment unbroken breaks, ih]
  | empty _ ih => rw [Region.slices_opening, Region.slices_closing, ih]
  | string lexeme_ne body _ ih =>
    rw [List.cons_append, Region.slices_opening,
      Region.slices_data lexeme_ne body (.inr ⟨_, rfl⟩), Region.slices_closing, ih]
  | opened => rfl
  | unfinished lexeme_ne data =>
    rw [Region.slices_opening, Region.slices_unfinished lexeme_ne data]

/-- A run of one kind reaches up to the first character of another. -/
theorem exists_run (kind : Kind) (hk : kind ≠ .endOfText) (text : List Char) :
    ∃ lexeme rest, text = lexeme ++ rest ∧ (∀ c ∈ lexeme, Kind.startingWith (some c) = kind) ∧
      Kind.startingWith rest.head? ≠ kind := by
  induction text with
  | nil => exact ⟨[], [], rfl, by simp, hk.symm⟩
  | cons c text ih =>
    by_cases hc : Kind.startingWith (some c) = kind
    · obtain ⟨lexeme, rest, rfl, hl, hr⟩ := ih
      exact ⟨c :: lexeme, rest, rfl, List.forall_mem_cons.mpr ⟨hc, hl⟩, hr⟩
    · exact ⟨[], c :: text, rfl, by simp, hc⟩

/-- A comment stops before the break of its line. -/
theorem exists_comment (text : List Char) :
    ∃ line rest, text = line ++ rest ∧ '\n' ∉ line ∧ BreaksAfter (';' :: line) rest := by
  obtain ⟨line, rest, rfl, hl, hr⟩ := exists_line text
  rcases hr with rfl | ⟨more, rfl⟩
  · exact ⟨line, [], rfl, hl, .inl rfl⟩
  · by_cases hc : (';' :: line).getLast? = some '\r'
    · obtain ⟨before, rfl⟩ : ∃ before, line = before ++ ['\r'] := by
        obtain ⟨before, hb⟩ := List.getLast?_eq_some_iff.mp hc
        cases before with
        | nil => cases hb
        | cons _ before => exact ⟨before, (List.cons.inj hb).2⟩
      refine ⟨before, '\r' :: '\n' :: more, by simp, fun h => hl (by simp [h]), ?_⟩
      exact .inr (.inl ⟨more, rfl⟩)
    · exact ⟨line, '\n' :: more, rfl, hl, .inr (.inr ⟨⟨more, rfl⟩, hc⟩)⟩

theorem exists_tiles (text : List Char) : ∃ pieces, Tiles text pieces := by
  match text with
  | [] => exact ⟨[], .nil⟩
  | c :: text =>
    have hd := Kind.startingWith_ne_stringData (some c)
    have he := Kind.startingWith_ne_endOfText c
    by_cases hb : Mode.entering (.startingWith (some c)) = .bracket
    · obtain ⟨pieces, h⟩ := exists_tiles text
      exact ⟨_, .bracket hb h⟩
    by_cases hq : Kind.startingWith (some c) = .quote
    · obtain rfl := Kind.startingWith_eq_quote_iff.mp hq
      obtain ⟨body, rest, rfl, hbody, hrest⟩ := exists_stringBody text
      by_cases hne : body = []
      · subst hne
        rcases hrest with rfl | rfl | ⟨more, rfl⟩
        · exact ⟨_, .opened⟩
        · exact ⟨_, .unfinished (by simp) (.inr ⟨[], rfl, .nil⟩)⟩
        · obtain ⟨pieces, h⟩ := exists_tiles more
          exact ⟨_, .empty h⟩
      · rcases hrest with rfl | rfl | ⟨more, rfl⟩
        · rw [List.append_nil]
          exact ⟨_, .unfinished hne (.inl hbody)⟩
        · exact ⟨_, .unfinished (by simp) (.inr ⟨body, rfl, hbody⟩)⟩
        · obtain ⟨pieces, h⟩ := exists_tiles more
          exact ⟨_, .string hne hbody h⟩
    by_cases hc : Kind.startingWith (some c) = .comment
    · obtain rfl := Kind.startingWith_eq_comment_iff.mp hc
      obtain ⟨line, rest, rfl, hl, hr⟩ := exists_comment text
      obtain ⟨pieces, h⟩ := exists_tiles rest
      exact ⟨_, .comment hl hr h⟩
    · have hk : Kind.startingWith (some c) = .symbol ∨ Kind.startingWith (some c) = .whitespace := by
        cases hk : Kind.startingWith (some c) <;> simp_all [Mode.entering]
      obtain ⟨lexeme, rest, rfl, hl, hr⟩ := exists_run _ he text
      obtain ⟨pieces, h⟩ := exists_tiles rest
      exact ⟨_, .run hk (by simp) (List.forall_mem_cons.mpr ⟨rfl, hl⟩) hr h⟩
termination_by text.length

/-- A text is cut into the pieces that tile it, and there is one such tiling. -/
theorem slices_eq_iff_tiles {text : List Char} {pieces : List Piece} :
    Region.code.slices text = pieces ↔ Tiles text pieces := by
  constructor
  · rintro rfl
    obtain ⟨pieces, h⟩ := exists_tiles text
    rw [h.slices]
    exact h
  · exact Tiles.slices

end BracketBalance
