import BracketBalance.Proofs.Guard

namespace BracketBalance

def Kind.closing? : Kind → Option Char
  | openParen => some ')'
  | openBracket => some ']'
  | openBrace => some '}'
  | quote => some '"'
  | _ => none

theorem Kind.isSome_closing? (kind : Kind) : kind.closing?.isSome = kind.opens := by
  cases kind <;> rfl

theorem Kind.mem_of_closes {kind : Kind} (ho : kind.opens = false) (hc : kind.closes = true) :
    kind ∈ [closeParen, closeBracket, closeBrace] := by
  cases kind <;>
    first
    | decide
    | exact absurd ho (by decide)
    | exact absurd hc (by decide)

def closing (openers : List Token) : List Char :=
  openers.filterMap fun opener => opener.kind.closing?

theorem closing_cons {opener : Token} {c : Char} (h : opener.kind.closing? = some c)
    (below : List Token) : closing (opener :: below) = c :: closing below := by
  simp [closing, h]

variable {filename : String} {source : Option Nat}

theorem passes_closer (filename : String) (source : Option Nat) {opener : Token}
    (ho : opener.kind.opens = true) (hq : opener.kind ≠ .quote) :
    ∃ c, opener.kind.closing? = some c ∧ Region.code.after c = .code ∧
      ∀ place below, Rules.standard.Passes (opener :: below)
        (Region.code.marks filename source place [c]) below := by
  have pop (kind : Kind) (place : Position) (below : List Token) (c : Char)
      (hc : kind.closes = true) (hp : Kind.pairs opener.kind kind = true) :
      Rules.standard.Passes (opener :: below) [Piece.token ⟨kind, [c]⟩ filename source place] below :=
    .cons (Rules.judge_of_pairs hc hp) .nil
  cases hk : opener.kind with
  | openParen =>
    exact ⟨')', rfl, rfl, fun place below => pop .closeParen place below ')' rfl (by rw [hk]; rfl)⟩
  | openBracket =>
    exact ⟨']', rfl, rfl, fun place below => pop .closeBracket place below ']' rfl (by rw [hk]; rfl)⟩
  | openBrace =>
    exact ⟨'}', rfl, rfl, fun place below => pop .closeBrace place below '}' rfl (by rw [hk]; rfl)⟩
  | quote => exact absurd hk hq
  | endOfText | closeBrace | closeBracket | comment | closeParen | stringData | symbol | whitespace =>
    rw [hk] at ho
    cases ho

/-- In code, where no quotation mark waits, the closers of all that waits balance it. -/
theorem passes_closing_code {openers : List Token}
    (ho : ∀ opener ∈ openers, opener.kind.opens = true) (hg : Guarded openers .code)
    (place : Position) :
    Rules.standard.Passes openers (Region.code.marks filename source place (closing openers)) [] := by
  induction openers generalizing place with
  | nil => exact .nil
  | cons opener below ih =>
    obtain ⟨hopener, hbelow⟩ := List.forall_mem_cons.mp ho
    obtain ⟨hq, hg⟩ := List.forall_mem_cons.mp hg
    obtain ⟨c, hc, ha, hp⟩ := passes_closer filename source hopener hq
    rw [closing_cons hc, Region.marks_cons, ha]
    exact (hp place below).append (ih hbelow hg _)

/-- In a string the first closer is its quotation mark, and code goes on after it. -/
theorem passes_closing_string {openers : List Token}
    (ho : ∀ opener ∈ openers, opener.kind.opens = true) (hg : Guarded openers .string)
    (place : Position) :
    Rules.standard.Passes openers (Region.string.marks filename source place (closing openers))
      [] := by
  obtain ⟨opening, below, rfl, hk, hg⟩ := hg
  have hc : opening.kind.closing? = some '"' := by
    rw [hk]
    rfl
  have hj : Rules.standard.judge (opening :: below) (Piece.quote.token filename source place) =
      .proceed below := Rules.judge_closing hk rfl below
  rw [closing_cons hc]
  exact .cons hj (passes_closing_code (List.forall_mem_cons.mp ho).2 hg _)

/-- After a line feed the closers of all that waits balance it, whatever region the feed stands in. -/
theorem passes_closing {openers : List Token} {region : Region}
    (ho : ∀ opener ∈ openers, opener.kind.opens = true) (hg : Guarded openers region)
    (place : Position) :
    Rules.standard.Passes openers
      (region.marks filename source place ('\n' :: closing openers)) [] := by
  cases region with
  | code | comment => exact passes_closing_code ho hg _
  | string | escape => exact passes_closing_string ho hg _

namespace Checker

variable {text : List Char}

/-- A stray closer is the first answer on every text that begins with this one. -/
theorem check_append_of_stray {stray : Token} {others : List Token}
    (h : Rules.standard.strays [] (Region.code.marks filename source .origin text) = stray :: others)
    (more : List Char) :
    (fresh (Lexer.ofChars (text ++ more) filename source)).check.1.token = stray := by
  rw [check_token, Region.marks_append, Rules.unmatched, Rules.strays_append, h]
  rfl

/-- A text without stray closers is balanced by a line feed and the closers of what it leaves open. -/
theorem check_closing
    (h : Rules.standard.strays [] (Region.code.marks filename source .origin text) = []) :
    let openers := Rules.standard.leftover [] (Region.code.marks filename source .origin text)
    (fresh (Lexer.ofChars (text ++ '\n' :: closing openers) filename source)).check.1.token.isEnd =
      true := by
  intro openers
  have hp := Rules.passes_of_strays (Region.ends_of_mem_marks filename source) h
  have ho : ∀ opener ∈ openers, opener.kind.opens = true :=
    Rules.standard.opens_of_mem_leftover (by simp)
  have hg : Guarded openers (Region.code.afterAll text) :=
    Guarded.fresh.marks filename source .origin text
  rw [check_isEnd_iff_passes, Region.marks_append]
  exact hp.append (passes_closing ho hg _)

/-- Without stray closers the first answer is an opener or the end. -/
theorem check_kind_of_no_strays
    (h : Rules.standard.strays [] (Region.code.marks filename source .origin text) = []) :
    (fresh (Lexer.ofChars text filename source)).check.1.token.kind ∉
      [.closeParen, .closeBracket, .closeBrace] := by
  rw [check_token, Rules.unmatched, h, List.nil_append]
  cases hl : Rules.standard.leftover [] (Region.code.marks filename source .origin text) with
  | nil => simp [Piece.token, Piece.ending]
  | cons opener others =>
    have hm : opener ∈ Rules.standard.leftover [] (Region.code.marks filename source .origin text) :=
      hl ▸ List.mem_cons_self
    have ho : opener.kind.opens = true :=
      Rules.standard.opens_of_mem_leftover (by simp) opener hm
    intro hk
    simp only [List.head?_cons, Option.getD_some, List.mem_cons, List.not_mem_nil, or_false] at hk
    rcases hk with hk | hk | hk <;> rw [hk] at ho <;> cases ho

/-- If the first answer on a text is a closing bracket, it is the first answer on every text that begins
so, and none of these is balanced. Otherwise the answers up to the end are openers, and a line feed with
their closers completes the text to a balanced one. -/
theorem stray_persists_or_completes (text : List Char) (filename : String) (source : Option Nat) :
    let first := (fresh (Lexer.ofChars text filename source)).check.1.token
    (first.kind ∈ [.closeParen, .closeBracket, .closeBrace] → ∀ more : List Char,
      (fresh (Lexer.ofChars (text ++ more) filename source)).check.1.token = first ∧
        (fresh (Lexer.ofChars (text ++ more) filename source)).check.1.token.isEnd = false) ∧
    (first.kind ∉ [.closeParen, .closeBracket, .closeBrace] → ∃ openers last,
      answers text filename source (openers.length + 1) = openers ++ [last] ∧
      (∀ opener ∈ openers, opener.isEnd = false ∧ opener.kind.closing?.isSome) ∧
      last.isEnd = true ∧
      (fresh (Lexer.ofChars (text ++ '\n' :: closing openers) filename source)).check.1.token.isEnd =
        true) := by
  intro first
  cases hs : Rules.standard.strays [] (Region.code.marks filename source .origin text) with
  | nil =>
    have hk := check_kind_of_no_strays hs
    refine ⟨fun hf => absurd hf hk, fun _ => ?_⟩
    have hu : Rules.standard.unmatched (Region.code.marks filename source .origin text) =
        Rules.standard.leftover [] (Region.code.marks filename source .origin text) := by
      rw [Rules.unmatched, hs, List.nil_append]
    have ha := answers_unmatched text filename source
    simp only [hu] at ha
    refine ⟨_, _, ha, ?_, rfl, check_closing hs⟩
    intro opener hm
    have ho : opener.kind.opens = true :=
      Rules.standard.opens_of_mem_leftover (by simp) opener hm
    exact ⟨Rules.standard_endsApart.not_ends (.inl ho), by rw [Kind.isSome_closing?, ho]⟩
  | cons stray others =>
    have hf : first = stray := by
      have hf := check_append_of_stray hs []
      rwa [List.append_nil] at hf
    have hstray := Rules.closes_of_mem_strays (Region.ends_of_mem_marks filename source) stray
      (hs ▸ List.mem_cons_self)
    have hk := Kind.mem_of_closes hstray.1 hstray.2
    have he : stray.isEnd = false := Rules.standard_endsApart.not_ends (.inr hstray.2)
    rw [hf]
    refine ⟨fun _ more => ?_, fun hn => absurd hk hn⟩
    rw [check_append_of_stray hs more]
    exact ⟨rfl, he⟩

/-- A parenthesis that closes no bracket, and a string that a backslash cuts off. -/
theorem stray_paren_persists_and_string_completes :
    ((fresh (Lexer.ofChars ['[', ')'] "" none)).check.1.token.kind = .closeParen ∧
      ∀ more : List Char, (fresh (Lexer.ofChars (['[', ')'] ++ more) "" none)).check.1.token =
          (fresh (Lexer.ofChars ['[', ')'] "" none)).check.1.token ∧
        (fresh (Lexer.ofChars (['[', ')'] ++ more) "" none)).check.1.token.isEnd = false) ∧
    ((fresh (Lexer.ofChars ['(', '"', '\\'] "" none)).check.1.token.kind = .quote ∧
      ∃ openers last, answers ['(', '"', '\\'] "" none (openers.length + 1) = openers ++ [last] ∧
        (fresh (Lexer.ofChars (['(', '"', '\\'] ++ '\n' :: closing openers) "" none)).check.1.token.isEnd
          = true) := by
  have hparen : (fresh (Lexer.ofChars ['[', ')'] "" none)).check.1.token.kind = .closeParen := by
    rw [check_token]
    decide
  have hquote : (fresh (Lexer.ofChars ['(', '"', '\\'] "" none)).check.1.token.kind = .quote := by
    rw [check_token]
    decide
  refine ⟨⟨hparen, ?_⟩, hquote, ?_⟩
  · have hk : (fresh (Lexer.ofChars ['[', ')'] "" none)).check.1.token.kind ∈
        [.closeParen, .closeBracket, .closeBrace] := by
      rw [hparen]
      decide
    exact (stray_persists_or_completes ['[', ')'] "" none).1 hk
  · have hk : (fresh (Lexer.ofChars ['(', '"', '\\'] "" none)).check.1.token.kind ∉
        [.closeParen, .closeBracket, .closeBrace] := by
      rw [hquote]
      decide
    obtain ⟨openers, last, ha, -, -, hc⟩ := (stray_persists_or_completes ['(', '"', '\\'] "" none).2 hk
    exact ⟨openers, last, ha, hc⟩

end Checker

end BracketBalance
