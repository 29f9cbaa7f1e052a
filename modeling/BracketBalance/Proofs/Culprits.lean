import BracketBalance.Report
import BracketBalance.Proofs.Quotes

namespace BracketBalance

inductive Concluded : List Char → Prop
  | nil : Concluded []
  | plain {c : Char} {rest : List Char} (quote : c ≠ '"') (semicolon : c ≠ ';')
      (more : Concluded rest) : Concluded (c :: rest)
  | string {body rest : List Char} (inside : StringBody body) (more : Concluded rest) :
      Concluded ('"' :: body ++ '"' :: rest)
  | comment {line rest : List Char} (inside : '\n' ∉ line) (more : Concluded rest) :
      Concluded (';' :: line ++ '\n' :: rest)

/-- In this line and column of the text, counted from one, stands this character, after all these. -/
def Addresses (line column : Nat) (before : List Char) (c : Char) (text : List Char) : Prop :=
  ∃ earlier lead tail later, text.splitOn '\n' = earlier ++ (lead ++ c :: tail) :: later ∧
    before = earlier.flatMap (· ++ ['\n']) ++ lead ∧
    line = earlier.length + 1 ∧ column = lead.length + 1

/-- The token is one character of the text, and its report leads there. -/
structure Token.PointsAt (token : Token) (before : List Char) (c : Char) (text : List Char) :
    Prop where
  delimits : c ∈ ['(', ')', '[', ']', '{', '}', '"']
  lexeme : token.lexeme = String.singleton c
  offset : token.start.offset = Utf8.size before
  stop : token.stop = ⟨token.start.line, token.start.column + 1, token.start.offset + 1⟩
  address : Addresses token.stop.line token.start.column before c text
  report : token.report = token.filename ++ ":" ++ toString token.stop.line ++ ":" ++
    toString token.start.column ++ ":  '" ++ String.singleton c ++ "' is causing an imbalance"

namespace Region

theorem code_after_of_ne {c : Char} (hq : c ≠ '"') (hs : c ≠ ';') : code.after c = code := by
  have hquote : Kind.startingWith (some c) ≠ .quote := mt Kind.startingWith_eq_quote_iff.mp hq
  have hcomment : Kind.startingWith (some c) ≠ .comment := mt Kind.startingWith_eq_comment_iff.mp hs
  simp only [after]

/-- What opens or closes in code. -/
theorem mem_of_delimiter?_code {c : Char} {kind : Kind} (h : code.delimiter? c = some kind) :
    kind = Kind.startingWith (some c) ∧ c ∈ ['(', ')', '[', ']', '{', '}', '"'] := by
  have hf : (some (Kind.startingWith (some c))).filter Kind.delimits = some kind := h
  obtain ⟨hk, hd⟩ := Option.filter_eq_some_iff.mp hf
  obtain rfl := Option.some.inj hk
  refine ⟨rfl, ?_⟩
  unfold Kind.startingWith at hd
  split at hd <;> simp_all [Kind.delimits, Kind.opens, Kind.closes]

/-- Elsewhere only quotation marks open or close. -/
theorem eq_code_of_delimiter? {region : Region} {c : Char} {kind : Kind}
    (h : region.delimiter? c = some kind) (hk : kind ≠ .quote) : region = code := by
  cases region with
  | code => rfl
  | string =>
    simp only [delimiter?] at h
    split at h
    · exact absurd (Option.some.inj h).symm hk
    · cases h
  | escape | comment => cases h

end Region

namespace Concluded

theorem afterAll {text : List Char} (h : Concluded text) : Region.code.afterAll text = .code := by
  induction h with
  | nil => rfl
  | plain quote semicolon _ ih =>
    rw [Region.afterAll_cons, Region.code_after_of_ne quote semicolon]
    exact ih
  | string inside _ ih =>
    rw [List.append_cons, Region.afterAll_append, (Neutral.string inside).code]
    exact ih
  | comment inside _ ih =>
    rw [List.append_cons, Region.afterAll_append, (Neutral.comment inside).code]
    exact ih

theorem of_afterAll {text : List Char} (h : Region.code.afterAll text = .code) : Concluded text := by
  match text with
  | [] => exact .nil
  | c :: text =>
    by_cases hq : c = '"'
    · subst hq
      rw [Region.afterAll_cons, Region.code_after_quote] at h
      obtain ⟨body, rest, rfl, hb, hr⟩ := exists_stringBody text
      rw [Region.afterAll_append, hb.quiet.1] at h
      rcases hr with rfl | rfl | ⟨more, rfl⟩
      · cases h
      · cases h
      · exact .string hb (of_afterAll h)
    by_cases hs : c = ';'
    · subst hs
      rw [Region.afterAll_cons, Region.code_after_semicolon] at h
      obtain ⟨line, rest, rfl, hl, hr⟩ := exists_line text
      rw [Region.afterAll_append, (Region.quiet_comment hl).1] at h
      rcases hr with rfl | ⟨more, rfl⟩
      · cases h
      · exact .comment hl (of_afterAll h)
    · rw [Region.afterAll_cons, Region.code_after_of_ne hq hs] at h
      exact .plain hq hs (of_afterAll h)
termination_by text.length

end Concluded

/-- Nothing has been left open just where code goes on. -/
theorem concluded_iff {text : List Char} : Concluded text ↔ Region.code.afterAll text = .code :=
  ⟨Concluded.afterAll, Concluded.of_afterAll⟩

theorem splitOn_lines {earlier : List (List Char)} (h : ∀ line ∈ earlier, '\n' ∉ line)
    (rest : List Char) : (earlier.flatMap (· ++ ['\n']) ++ rest).splitOn '\n' =
      earlier ++ rest.splitOn '\n' := by
  induction earlier with
  | nil => rfl
  | cons line earlier ih =>
    obtain ⟨hl, he⟩ := List.forall_mem_cons.mp h
    rw [List.flatMap_cons, List.append_assoc, List.append_assoc, List.singleton_append,
      List.splitOn_append_cons_self_of_not_mem hl, ih he]
    rfl

/-- The place after a text, told by its lines. -/
theorem exists_lines (text : List Char) :
    ∃ (earlier : List (List Char)) (lead : List Char),
      text = earlier.flatMap (· ++ ['\n']) ++ lead ∧ (∀ line ∈ earlier, '\n' ∉ line) ∧
      '\n' ∉ lead ∧ (Position.ofText text).line = earlier.length + 1 ∧
      (Position.ofText text).column = lead.length + 1 := by
  induction text using List.reverseRecOn with
  | nil => exact ⟨[], [], rfl, by simp, by simp, rfl, rfl⟩
  | append_singleton text c ih =>
    obtain ⟨earlier, lead, rfl, he, hlead, hl, hc⟩ := ih
    rw [Position.ofText_concat, Position.advance]
    by_cases hn : c = '\n'
    · subst hn
      refine ⟨earlier ++ [lead], [], by simp, ?_, by simp, ?_, ?_⟩
      · intro line hm
        rcases List.mem_append.mp hm with hm | hm
        · exact he line hm
        · rwa [List.mem_singleton.mp hm]
      · simp [hl]
      · simp
    · refine ⟨earlier, lead ++ [c], by simp, he, ?_, ?_, ?_⟩
      · simp [hlead, Ne.symm hn]
      · simp [hl, hn]
      · simp [hc, hn]

/-- The line and the column after a text lead to the character that follows it. -/
theorem addresses_ofText (before : List Char) {c : Char} (hc : c ≠ '\n') (after : List Char) :
    Addresses (Position.ofText before).line (Position.ofText before).column before c
      (before ++ c :: after) := by
  obtain ⟨earlier, lead, hb, he, hlead, hl, hcol⟩ := exists_lines before
  obtain ⟨tail, rest, rfl, ht, hr⟩ := exists_line after
  have hrow : '\n' ∉ lead ++ c :: tail := by simp [hlead, ht, Ne.symm hc]
  -- the line of the character goes on to the next line feed, or to the end of the text
  obtain ⟨later, hs⟩ : ∃ later, ((lead ++ c :: tail) ++ rest).splitOn '\n' =
      (lead ++ c :: tail) :: later := by
    rcases hr with rfl | ⟨more, rfl⟩
    · exact ⟨[], by rw [List.append_nil, List.splitOn_eq_singleton hrow]⟩
    · exact ⟨_, List.splitOn_append_cons_self_of_not_mem hrow more⟩
  refine ⟨earlier, lead, tail, later, ?_, hb, hl, hcol⟩
  rw [hb, List.append_assoc, splitOn_lines he, ← hs, List.append_assoc]
  rfl

/-- What opens or closes in code is one byte long, and stays in its line. -/
theorem Position.advance_of_mem {c : Char} (h : c ∈ ['(', ')', '[', ']', '{', '}', '"'])
    (place : Position) : place.advance c = ⟨place.line, place.column + 1, place.offset + 1⟩ := by
  simp only [List.mem_cons, List.not_mem_nil, or_false] at h
  rcases h with rfl | rfl | rfl | rfl | rfl | rfl | rfl <;> rfl

/-- A delimiter of code points at itself. -/
theorem Token.pointsAt_of_delimiter? {c : Char} {kind : Kind} (filename : String)
    (source : Option Nat) (before : List Char) (h : Region.code.delimiter? c = some kind)
    (after : List Char) :
    (Piece.token ⟨kind, [c]⟩ filename source (.ofText before)).PointsAt before c
      (before ++ c :: after) := by
  obtain ⟨-, hm⟩ := Region.mem_of_delimiter?_code h
  have hn : c ≠ '\n' := by
    rintro rfl
    revert hm
    decide
  have hstop := Position.advance_of_mem hm (.ofText before)
  have hline : ((Position.ofText before).advance c).line = (Position.ofText before).line := by
    rw [hstop]
  refine ⟨hm, rfl, rfl, hstop, ?_, rfl⟩
  change Addresses ((Position.ofText before).advance c).line _ _ _ _
  rw [hline]
  exact addresses_ofText before hn after

namespace Checker

variable {text : List Char} {filename : String} {source : Option Nat}

/-- Before the end a checker answers with marks of its text. -/
theorem mem_marks_of_mem_answers {calls : Nat} {token : Token}
    (hm : token ∈ answers text filename source calls) (he : token.isEnd = false) :
    token ∈ Region.code.marks filename source .origin text := by
  obtain ⟨beyond, hall⟩ := answers_prefix text filename source calls
  have hi : token ∈ answers text filename source calls ++ beyond := List.mem_append_left _ hm
  rw [hall] at hi
  rcases List.mem_append.mp hi with hu | hend
  · rcases List.mem_append.mp hu with hs | hl
    · exact (Rules.of_mem_strays (Region.ends_of_mem_marks filename source) token hs).1
    · exact (Rules.mem_leftover hl).resolve_left List.not_mem_nil
  · rw [List.eq_of_mem_replicate hend] at he
    cases he

/-- Before the end a checker answers with a bracket of code, or with the quotation mark of a string that
the text does not end. -/
theorem exists_culprit {calls : Nat} {token : Token}
    (hm : token ∈ answers text filename source calls) (he : token.isEnd = false) :
    ∃ before c after kind, text = before ++ c :: after ∧ Region.code.afterAll before = .code ∧
      Region.code.delimiter? c = some kind ∧
      token = Piece.token ⟨kind, [c]⟩ filename source (.ofText before) ∧
      (c = '"' → Unfinished after) := by
  by_cases hk : token.kind = .quote
  · obtain ⟨answered, others, ha⟩ := List.append_of_mem hm
    obtain ⟨-, -, earlier, ⟨data, rfl, hcode, hu⟩, rfl⟩ := answers_quote text filename source ha hk
    exact ⟨earlier, '"', data, .quote, rfl, hcode, rfl, rfl, fun _ => hu⟩
  · -- in a string only a quotation mark is a mark, and in a comment nothing is
    obtain ⟨before, c, after, kind, rfl, hd, rfl⟩ :=
      Region.exists_of_mem_marks filename source (mem_marks_of_mem_answers hm he)
    have hcode := Region.eq_code_of_delimiter? hd hk
    rw [hcode] at hd
    refine ⟨before, c, after, kind, rfl, hcode, hd, by rw [Position.advanceAll_origin], ?_⟩
    rintro rfl
    exact absurd (Region.mem_of_delimiter?_code hd).1 hk

/-- Whatever a checker answers with before the end is one character of its text, outside every string
and every comment: a bracket, or the quotation mark of a string that the text does not end. The line
where the token ends and the column where it begins, which its report prints, lead to this character. -/
theorem answers_point (text : List Char) (filename : String) (source : Option Nat) (calls : Nat) :
    ∀ token ∈ answers text filename source calls, token.isEnd = false →
      ∃ before c after, text = before ++ c :: after ∧ token.PointsAt before c text ∧
        Concluded before ∧ (c = '"' → Unfinished after) := by
  intro token hm he
  obtain ⟨before, c, after, kind, rfl, hcode, hd, rfl, hu⟩ := exists_culprit hm he
  exact ⟨before, c, after, rfl, Token.pointsAt_of_delimiter? filename source before hd after,
    concluded_iff.mpr hcode, hu⟩

/-- A stray closer and a string that stays open, in the third line of a text: the second answer is the
quotation mark, and its report leads there. -/
theorem answers_point_third_line :
    let text := ['"', 'é', '\n', '"', ';', '(', '\n', 'λ', ')', '[', '"', '\\', '"']
    let mark : Token := ⟨.quote, "\"", none, "a.rkt", ⟨3, 4, 12⟩, ⟨3, 5, 13⟩⟩
    mark ∈ answers text "a.rkt" none 2 ∧ mark.isEnd = false ∧
      mark.report = "a.rkt:3:4:  '\"' is causing an imbalance" ∧
      ∃ before c after, text = before ++ c :: after ∧ mark.PointsAt before c text ∧
        Concluded before ∧ (c = '"' → Unfinished after) := by
  intro text mark
  have hm : mark ∈ answers text "a.rkt" none 2 := by decide +kernel
  exact ⟨hm, rfl, by decide +kernel, answers_point text "a.rkt" none 2 mark hm rfl⟩

end Checker

end BracketBalance
