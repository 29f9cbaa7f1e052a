import BracketBalance.Proofs.Literal
import BracketBalance.Proofs.Recognition
import BracketBalance.Proofs.Slices

namespace BracketBalance

def brackets : List (Char × Char) :=
  [('(', ')'), ('[', ']'), ('{', '}')]

/-- Texts made of plain characters, strings and lines of comment, put one after the other and into
brackets. -/
inductive Program : List Char → Prop
  | nil : Program []
  | plain {c : Char} (plain : c ∉ ['(', ')', '[', ']', '{', '}', '"', ';']) : Program [c]
  | string {body : List Char} (inside : StringBody body) : Program ('"' :: body ++ ['"'])
  | comment {line : List Char} (inside : '\n' ∉ line) : Program (';' :: line ++ ['\n'])
  | append {a b : List Char} (left : Program a) (right : Program b) : Program (a ++ b)
  | wrap {inner : List Char} {opener closer : Char} (pair : (opener, closer) ∈ brackets)
      (inside : Program inner) : Program (opener :: inner ++ [closer])

theorem mem_brackets_iff {opener closer : Char} : (opener, closer) ∈ brackets ↔
    opener = '(' ∧ closer = ')' ∨ opener = '[' ∧ closer = ']' ∨ opener = '{' ∧ closer = '}' := by
  simp [brackets]

section

variable {opener closer : Char}

/-- What an opener and its closer are to the rules. -/
theorem kinds_of_mem_brackets (h : (opener, closer) ∈ brackets) :
    Kind.opens (.startingWith (some opener)) = true ∧
      Kind.closes (.startingWith (some opener)) = false ∧
      Kind.opens (.startingWith (some closer)) = false ∧
      Kind.closes (.startingWith (some closer)) = true ∧
      Kind.pairs (.startingWith (some opener)) (.startingWith (some closer)) = true := by
  rcases mem_brackets_iff.mp h with ⟨rfl, rfl⟩ | ⟨rfl, rfl⟩ | ⟨rfl, rfl⟩ <;> decide

theorem mem_brackets_of_pairs {other opened : Char} (ho : (opener, other) ∈ brackets)
    (hc : (opened, closer) ∈ brackets)
    (hp : Kind.pairs (.startingWith (some opener)) (.startingWith (some closer)) = true) :
    (opener, closer) ∈ brackets := by
  rcases mem_brackets_iff.mp ho with ⟨rfl, rfl⟩ | ⟨rfl, rfl⟩ | ⟨rfl, rfl⟩ <;>
    rcases mem_brackets_iff.mp hc with ⟨rfl, rfl⟩ | ⟨rfl, rfl⟩ | ⟨rfl, rfl⟩ <;>
    first
    | exact hc
    | exact absurd hp (by decide)

end

/-- Every character is plain, begins a string or a comment, or is one of a pair. -/
theorem char_cases (c : Char) :
    c ∉ ['(', ')', '[', ']', '{', '}', '"', ';'] ∨ c = '"' ∨ c = ';' ∨
      (∃ closer, (c, closer) ∈ brackets) ∨ ∃ opener, (opener, c) ∈ brackets := by
  by_cases h : c ∈ ['(', ')', '[', ']', '{', '}', '"', ';']
  · simp only [List.mem_cons, List.not_mem_nil, or_false] at h
    simp only [mem_brackets_iff]
    rcases h with rfl | rfl | rfl | rfl | rfl | rfl | rfl | rfl <;> simp
  · exact .inl h

namespace Region

theorem quiet_plain {c : Char} (h : c ∉ ['(', ')', '[', ']', '{', '}', '"', ';']) :
    code.Quiet [c] := by
  have hk : Kind.startingWith (some c) = .symbol ∨ Kind.startingWith (some c) = .whitespace := by
    unfold Kind.startingWith
    split <;> simp_all
  have ha : code.after c = code := by
    rcases hk with hk | hk <;> simp only [after, hk]
  have hd : code.delimiter? c = none := by
    rcases hk with hk | hk <;> simp only [delimiter?, hk] <;> rfl
  exact .cons ha hd ⟨rfl, rfl⟩

theorem code_bracket {opener closer c : Char} (h : (opener, closer) ∈ brackets)
    (hc : c = opener ∨ c = closer) (rest : List Char) :
    code.after c = code ∧
      code.delimiters (c :: rest) = .startingWith (some c) :: code.delimiters rest := by
  rcases mem_brackets_iff.mp h with ⟨rfl, rfl⟩ | ⟨rfl, rfl⟩ | ⟨rfl, rfl⟩ <;>
    rcases hc with rfl | rfl <;> exact ⟨rfl, rfl⟩

theorem code_string {body : List Char} (h : StringBody body) :
    code.afterAll ('"' :: body ++ ['"']) = code ∧
      code.delimiters ('"' :: body ++ ['"']) = [.quote, .quote] := by
  obtain ⟨ho, hd⟩ := h.quiet
  constructor
  · rw [afterAll_append]
    exact congrArg (fun region : Region => region.afterAll ['"']) ho
  · rw [List.cons_append, delimiters, show code.after '"' = string from rfl, delimiters_append, hd, ho]
    rfl

theorem code_comment {line : List Char} (h : '\n' ∉ line) : code.Quiet (';' :: line ++ ['\n']) := by
  obtain ⟨ho, hd⟩ := quiet_comment h
  constructor
  · rw [afterAll_append]
    exact congrArg (fun region : Region => region.afterAll ['\n']) ho
  · rw [List.cons_append, delimiters, show code.after ';' = comment from rfl, delimiters_append, hd,
      ho]
    rfl

theorem delimiters_open_comment {line : List Char} (h : '\n' ∉ line) :
    code.delimiters (';' :: line) = [] := by
  rw [delimiters, show code.after ';' = comment from rfl, (quiet_comment h).2]
  rfl

end Region

namespace Program

variable {p : List Char}

theorem afterAll (h : Program p) : Region.code.afterAll p = .code := by
  induction h with
  | nil => rfl
  | plain plain => exact (Region.quiet_plain plain).1
  | string inside => exact (Region.code_string inside).1
  | comment inside => exact (Region.code_comment inside).1
  | append _ _ iha ihb => rw [Region.afterAll_append, iha, ihb]
  | wrap pair _ ih =>
    rw [List.cons_append, Region.afterAll_cons, (Region.code_bracket pair (.inl rfl) []).1,
      Region.afterAll_append, ih]
    exact (Region.code_bracket pair (.inr rfl) []).1

theorem balanced (h : Program p) : Rules.standard.Balanced (Region.code.delimiters p) := by
  induction h with
  | nil => exact .nil
  | plain plain =>
    rw [(Region.quiet_plain plain).2]
    exact .nil
  | string inside =>
    rw [(Region.code_string inside).2]
    exact .wrap .nil rfl rfl rfl
  | comment inside =>
    rw [(Region.code_comment inside).2]
    exact .nil
  | append left _ iha ihb =>
    rw [Region.delimiters_append, left.afterAll]
    exact .append iha ihb
  | @wrap inner opener closer pair inside ih =>
    obtain ⟨ho, -, -, hc, hp⟩ := kinds_of_mem_brackets pair
    rw [List.cons_append, (Region.code_bracket pair (.inl rfl) _).2, Region.delimiters_append,
      inside.afterAll, (Region.code_bracket pair (.inr rfl) []).2]
    exact .wrap ih ho hc hp

/-- A program leaves what waits as it was. -/
theorem reduce?_append (h : Program p) {opened : List Kind} (hs : Rules.standard.Settled opened)
    (rest : List Char) :
    Rules.standard.reduce? opened (Region.code.delimiters (p ++ rest)) =
      Rules.standard.reduce? opened (Region.code.delimiters rest) := by
  rw [Region.delimiters_append, Rules.reduce?_append,
    h.balanced.reduce? Rules.standard_selfPaired opened hs, h.afterAll]
  rfl

end Program

/-- The text closes what is open, the last one first, with programs in between; a last line of comment
need not end. -/
inductive Completes : List Char → List Char → Prop
  | program {p : List Char} (program : Program p) : Completes [] p
  | comment {p line : List Char} (program : Program p) (inside : '\n' ∉ line) :
      Completes [] (p ++ ';' :: line)
  | closer {p rest below : List Char} {opener closer : Char} (program : Program p)
      (pair : (opener, closer) ∈ brackets) (older : Completes below rest) :
      Completes (opener :: below) (p ++ closer :: rest)

namespace Completes

variable {opened text : List Char}

theorem append {p : List Char} (hp : Program p) (h : Completes opened text) :
    Completes opened (p ++ text) := by
  cases h with
  | program program => exact .program (.append hp program)
  | comment program inside =>
    rw [← List.append_assoc]
    exact .comment (.append hp program) inside
  | closer program pair older =>
    rw [← List.append_assoc]
    exact .closer (.append hp program) pair older

theorem unclose {opener : Char} (h : Completes (opener :: opened) text) :
    Completes opened (opener :: text) := by
  cases h with
  | @closer p rest _ _ closer program pair older =>
    simpa using older.append (.wrap pair program)

end Completes

def openedKinds (opened : List Char) : List Kind :=
  opened.map fun c => .startingWith (some c)

section

variable {opened : List Char} (ho : ∀ c ∈ opened, ∃ closer, (c, closer) ∈ brackets)
include ho

theorem settled_openedKinds : Rules.standard.Settled (openedKinds opened) := by
  induction opened with
  | nil => exact Rules.settled_nil _
  | cons c opened ih =>
    obtain ⟨⟨closer, pair⟩, hrest⟩ := List.forall_mem_cons.mp ho
    obtain ⟨opens, closes, -⟩ := kinds_of_mem_brackets pair
    exact (ih hrest).push opens (fun hc => by simp [Rules.standard, closes] at hc)

/-- No quotation mark waits in code. -/
theorem closesTop_quote : Rules.standard.closesTop (openedKinds opened) .quote = false := by
  cases opened with
  | nil => rfl
  | cons c opened =>
    obtain ⟨closer, pair⟩ := (List.forall_mem_cons.mp ho).1
    rcases mem_brackets_iff.mp pair with ⟨rfl, rfl⟩ | ⟨rfl, rfl⟩ | ⟨rfl, rfl⟩ <;> rfl

/-- A string that does not end leaves its quotation mark waiting. -/
theorem reduce?_open_string {body rest : List Char} (hb : StringBody body)
    (hr : rest = [] ∨ rest = ['\\']) :
    Rules.standard.reduce? (openedKinds opened) (Region.code.delimiters ('"' :: (body ++ rest))) =
      some (.quote :: openedKinds opened) := by
  have hd : Region.code.delimiters ('"' :: (body ++ rest)) = [.quote] := by
    rw [Region.delimiters, show Region.code.after '"' = .string from rfl, Region.delimiters_append,
      hb.quiet.1, hb.quiet.2]
    rcases hr with rfl | rfl <;> rfl
  rw [hd, Rules.reduce?_cons, Rules.absorb?_push rfl (fun _ => closesTop_quote ho)]
  rfl

/-- A closer is absorbed only by its own opener. -/
theorem exists_opener_of_absorb? {opener closer : Char} {left : List Kind}
    (pair : (opener, closer) ∈ brackets)
    (h : Rules.standard.absorb? (openedKinds opened) (.startingWith (some closer)) = some left) :
    ∃ top below, opened = top :: below ∧ (top, closer) ∈ brackets ∧ left = openedKinds below := by
  obtain ⟨-, -, opens, closes, -⟩ := kinds_of_mem_brackets pair
  have hc : Rules.standard.closes (.startingWith (some closer)) = true := closes
  have hn : Rules.standard.opens (.startingWith (some closer)) = false := opens
  cases opened with
  | nil => simp [Rules.absorb?, openedKinds, Rules.closesTop, hc, hn] at h
  | cons top below =>
    obtain ⟨⟨other, hother⟩, -⟩ := List.forall_mem_cons.mp ho
    by_cases hp : Rules.standard.pairs (.startingWith (some top)) (.startingWith (some closer)) = true
    · refine ⟨top, below, rfl, mem_brackets_of_pairs hother pair hp, ?_⟩
      exact Option.some.inj (h.symm.trans (Rules.absorb?_pop hc hp))
    · simp [Rules.absorb?, openedKinds, Rules.closesTop, hc, hn, hp] at h

end

/-- A text whose delimiters close what is open. -/
theorem completes_of_reduce? {opened text : List Char}
    (ho : ∀ c ∈ opened, ∃ closer, (c, closer) ∈ brackets)
    (h : Rules.standard.reduce? (openedKinds opened) (Region.code.delimiters text) = some []) :
    Completes opened text := by
  have skip (p rest : List Char) (hp : Program p) (ht : text = p ++ rest) :
      Rules.standard.reduce? (openedKinds opened) (Region.code.delimiters rest) = some [] := by
    rw [ht, hp.reduce?_append (settled_openedKinds ho)] at h
    exact h
  match text with
  | [] =>
    obtain rfl : opened = [] := by simpa [Region.delimiters, openedKinds] using h
    exact .program .nil
  | c :: text =>
    rcases char_cases c with hc | rfl | rfl | ⟨closer, pair⟩ | ⟨opener, pair⟩
    · have hp : Program [c] := .plain hc
      exact (completes_of_reduce? ho (skip [c] text hp rfl)).append hp
    · obtain ⟨body, rest, rfl, hb, hr⟩ := exists_stringBody text
      rcases hr with hr | hr | ⟨more, rfl⟩
      · cases (reduce?_open_string ho hb (.inl hr)).symm.trans h
      · cases (reduce?_open_string ho hb (.inr hr)).symm.trans h
      · have hp : Program ('"' :: body ++ ['"']) := .string hb
        simpa using (completes_of_reduce? ho (skip _ more hp (by simp))).append hp
    · obtain ⟨line, rest, rfl, hl, hr⟩ := exists_line text
      rcases hr with rfl | ⟨more, rfl⟩
      · rw [List.append_nil, Region.delimiters_open_comment hl] at h
        obtain rfl : opened = [] := by simpa [openedKinds] using h
        simpa using Completes.comment .nil hl
      · have hp : Program (';' :: line ++ ['\n']) := .comment hl
        simpa using (completes_of_reduce? ho (skip _ more hp (by simp))).append hp
    · obtain ⟨opens, closes, -⟩ := kinds_of_mem_brackets pair
      rw [(Region.code_bracket pair (.inl rfl) text).2, Rules.reduce?_cons,
        Rules.absorb?_push opens (fun hc => by simp [Rules.standard, closes] at hc)] at h
      exact (completes_of_reduce? (List.forall_mem_cons.mpr ⟨⟨closer, pair⟩, ho⟩) h).unclose
    · rw [(Region.code_bracket pair (.inr rfl) text).2, Rules.reduce?_cons] at h
      obtain ⟨left, ha, hrest⟩ := Option.bind_eq_some_iff.mp h
      obtain ⟨top, below, rfl, hp, rfl⟩ := exists_opener_of_absorb? ho pair ha
      exact .closer .nil hp (completes_of_reduce? (List.forall_mem_cons.mp ho).2 hrest)
termination_by text.length

/-- The delimiters of a text close each other exactly in programs, which a comment without a line break
may follow. -/
theorem reduce?_delimiters_iff {text : List Char} :
    Rules.standard.reduce? [] (Region.code.delimiters text) = some [] ↔
      Program text ∨ ∃ p line, text = p ++ ';' :: line ∧ Program p ∧ '\n' ∉ line := by
  constructor
  · intro h
    have hc : Completes [] text := completes_of_reduce? (by simp) h
    cases hc with
    | program program => exact .inl program
    | comment program inside => exact .inr ⟨_, _, rfl, program, inside⟩
  · rintro (hp | ⟨p, line, rfl, hp, hl⟩)
    · exact hp.balanced.reduce? Rules.standard_selfPaired [] (Rules.settled_nil _)
    · rw [hp.reduce?_append (Rules.settled_nil _), Region.delimiters_open_comment hl]
      rfl

/-- The first check of a text answers with its end exactly when the text is a program, or a program and
after it a comment up to the end. -/
theorem Checker.check_isEnd_iff_program (text : List Char) (filename : String)
    (source : Option Nat) :
    (Checker.fresh (Lexer.ofChars text filename source)).check.1.token.isEnd = true ↔
      Program text ∨ ∃ p line, text = p ++ ';' :: line ∧ Program p ∧ '\n' ∉ line := by
  obtain ⟨answer, after, hcheck, hiff, -⟩ := Checker.check?_fresh Rules.standard_endsApart
    (Lexer.isEnd_drain_last _) (Lexer.yields text filename source)
  rw [Checker.check?_eq, Option.some.injEq] at hcheck
  rw [Rules.beforeEnd_of_forall (Lexer.isEnd_of_mem_drain _)] at hiff
  rw [hcheck, ← reduce?_delimiters_iff]
  refine hiff.trans ?_
  have hk : (Lexer.ofChars text filename source).drain.tokens.map Token.kind =
      (Region.code.slices text).map Piece.kind := by
    rw [← Lexer.drain_ofChars text filename source, List.map_map]
    rfl
  rw [Rules.passes_iff_reduce? (Lexer.isEnd_of_mem_drain _), hk, ← Region.slices_delimiters,
    Rules.reduce?_filter (fun kind h => by simpa [Kind.delimits, Rules.standard] using h)]

end BracketBalance
