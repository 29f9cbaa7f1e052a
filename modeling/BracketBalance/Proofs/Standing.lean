import BracketBalance.Proofs.Labels
import BracketBalance.Proofs.Quotes
import BracketBalance.Proofs.Safety

namespace BracketBalance

/-- A quotation mark among these tokens has begun a string that none of them has ended. -/
def oddQuotes (tokens : List Token) : Bool :=
  (quotes tokens).length % 2 == 1

theorem oddQuotes_concat (tokens : List Token) (token : Token) :
    oddQuotes (tokens ++ [token]) = (oddQuotes tokens ^^ (token.kind == .quote)) := by
  rw [oddQuotes, oddQuotes, quotes_concat]
  by_cases hk : token.kind = .quote
  · rw [if_pos hk, hk, List.length_append, List.length_singleton]
    rcases Nat.mod_two_eq_zero_or_one (quotes tokens).length with h | h <;> simp [Nat.add_mod, h]
  · have hb : (token.kind == .quote) = false := beq_eq_false_iff_ne.mpr hk
    rw [if_neg hk, List.append_nil, hb, Bool.xor_false]

/-- Of what comes after the carriage return of a comment, only a line feed begins blanks. -/
theorem Mode.upcoming_of_whitespace {read upcoming : Option Char}
    (h : (Mode.commentReturn.transition read upcoming).next = .whitespace) : upcoming = some '\n' := by
  simp only [Mode.transition] at h
  split at h
  · cases h
  · rfl
  · cases h
  · cases h

namespace Region

def between (quoted : Bool) : Region :=
  if quoted then string else code

theorem quoted_between (quoted : Bool) : (between quoted).quoted = quoted := by
  cases quoted <;> rfl

theorem mode_ne_start (region : Region) (c : Option Char) : region.mode c ≠ .start := by
  cases c with
  | none => cases region <;> decide
  | some c =>
    cases region with
    | code => exact Mode.entering_ne_start _
    | string => exact Mode.inString_ne_start _
    | escape => exact Mode.noConfusion
    | comment =>
      simp only [mode]
      split
      · decide
      · split <;> decide

theorem mode_eq_finished_iff {region : Region} {c : Option Char} :
    region.mode c = .finished ↔ c = none := by
  cases c with
  | none => cases region <;> decide
  | some c =>
    refine iff_of_false ?_ (Option.some_ne_none c)
    cases region with
    | code => exact mt Mode.entering_startingWith_eq_finished_iff.mp (Option.some_ne_none c)
    | string => exact mt Mode.inString_eq_finished_iff.mp (Option.some_ne_none c)
    | escape => exact Mode.noConfusion
    | comment =>
      simp only [mode]
      split
      · decide
      · split <;> decide

theorem between_mode_ne_commentReturn (quoted : Bool) (c : Option Char) :
    (between quoted).mode c ≠ .commentReturn := by
  cases quoted with
  | false =>
    rw [between, if_neg Bool.false_ne_true, mode_code]
    exact Mode.entering_ne_commentReturn _
  | true =>
    rw [between, if_pos rfl, mode_string]
    exact Mode.inString_ne_commentReturn _

section

variable {region : Region} {c : Char} {upcoming : Option Char}

/-- In a comment only a line feed or the end completes the token. -/
theorem mode_comment_of_emits {mode : Mode} (hm : mode = .comment ∨ mode = .commentReturn)
    (he : (mode.transition (some c) upcoming).emits = true) :
    comment.mode upcoming = code.mode upcoming := by
  rcases hm with rfl | rfl <;>
  · simp only [Mode.transition] at he
    split at he
    · rfl
    · rfl
    · cases he
    · cases he

/-- After a complete token the next character is read as code or as part of a string. -/
theorem mode_after_of_emits
    (he : ((region.mode (some c)).transition (some c) upcoming).emits = true) :
    (region.after c).mode upcoming = (between (region.after c).quoted).mode upcoming := by
  cases region with
  | code =>
    cases hk : Kind.startingWith (some c) with
    | comment =>
      have hm : code.mode (some c) = .comment := congrArg Mode.entering hk
      rw [Kind.startingWith_eq_comment_iff.mp hk, code_after_semicolon]
      exact mode_comment_of_emits (.inl hm) he
    | _ =>
      simp only [after, hk]
      rfl
  | string =>
    by_cases hq : c = '"'
    · subst hq
      rfl
    by_cases hb : c = '\\'
    · subst hb
      cases upcoming with
      | none => rfl
      | some => cases he
    · rw [after_string_of_plain hq hb]
      rfl
  | escape => rfl
  | comment =>
    by_cases hn : c = '\n'
    · subst hn
      rfl
    · have ha : comment.after c = comment := by simp [after, hn]
      have hm : comment.mode (some c) = .comment ∨ comment.mode (some c) = .commentReturn := by
        by_cases hr : c = '\r' <;> simp [mode, hn, hr]
      rw [ha]
      exact mode_comment_of_emits hm he

theorem quoted_after_of_waits
    (he : ((region.mode (some c)).transition (some c) upcoming).emits = false) :
    (region.after c).quoted = region.quoted := by
  rw [quoted_after_iff, transition_delimiter region c upcoming, he]
  exact (Option.some_ne_none _).symm

theorem quoted_after_of_emits
    (he : ((region.mode (some c)).transition (some c) upcoming).emits = true) :
    (region.after c).quoted =
      (region.quoted ^^ (((region.mode (some c)).transition (some c) upcoming).kind == .quote)) := by
  have hq := region.quoted_after_iff c
  rw [transition_delimiter region c upcoming, he, if_pos rfl] at hq
  generalize ((region.mode (some c)).transition (some c) upcoming).kind = kind at hq ⊢
  by_cases hk : kind = .quote
  · subst hk
    have hn : (region.after c).quoted ≠ region.quoted := mt hq.mp (fun h => h rfl)
    rw [Bool.eq_not.mpr hn]
    cases region.quoted <;> rfl
  · have hn : (some kind).filter Kind.delimits ≠ some .quote := by
      intro h
      exact hk (Option.some.inj (Option.filter_eq_some_iff.mp h).1)
    rw [hq.mpr hn, beq_eq_false_iff_ne.mpr hk, Bool.xor_false]

end

end Region

namespace Lexer

open TokenStream

variable {lexer : Lexer} {region : Region} {token : Token}

def Reads (region : Region) (lexer : Lexer) : Prop :=
  lexer.mode = region.mode lexer.rest.head?

theorem reads_of_start (h : lexer.mode = .start) : lexer.round.2.Reads .code := by
  rw [Reads, round_mode, round_rest, read_of_start h, Region.mode_code, change, h, read_of_start h]
  rfl

theorem Reads.mode_ne_start (h : lexer.Reads region) : lexer.mode ≠ .start := by
  rw [h]
  exact region.mode_ne_start _

theorem Reads.mode_eq_finished_iff (h : lexer.Reads region) :
    lexer.mode = .finished ↔ lexer.rest = [] := by
  rw [h, Region.mode_eq_finished_iff, List.head?_eq_none_iff]

/-- A round goes on in the region after the character that it reads. -/
theorem Reads.round (h : lexer.Reads region) {c : Char} {rest : List Char} (hr : lexer.rest = c :: rest) :
    lexer.change = (region.mode (some c)).transition (some c) rest.head? ∧
      lexer.round.2.rest = rest ∧ lexer.round.2.Reads (region.after c) := by
  have hf : lexer.mode ≠ .finished := by
    rw [ne_eq, h.mode_eq_finished_iff, hr]
    exact List.cons_ne_nil _ _
  have hchange : lexer.change = (region.mode (some c)).transition (some c) rest.head? := by
    rw [change_of_reading hr h.mode_ne_start hf, h, hr]
    rfl
  have hrest : lexer.round.2.rest = rest := by
    rw [round_rest, read_of_reading hr h.mode_ne_start hf]
  refine ⟨hchange, hrest, ?_⟩
  rw [Reads, round_mode, hrest, hchange]
  exact region.transition_next c _

/-- While a token goes on, the lexer stays inside a string or outside. -/
theorem Reads.round_of_none (h : lexer.Reads region) (hn : lexer.round.1 = none) :
    ∃ other : Region, other.quoted = region.quoted ∧ lexer.round.2.Reads other := by
  have hne : lexer.rest ≠ [] := mt h.mode_eq_finished_iff.mpr (mode_ne_finished_of_none hn)
  obtain ⟨c, rest, hr⟩ := List.exists_cons_of_ne_nil hne
  obtain ⟨hchange, -, hreads⟩ := h.round hr
  have he := round_eq_none_iff.mp hn
  rw [hchange] at he
  exact ⟨region.after c, Region.quoted_after_of_waits he, hreads⟩

/-- A token leaves it in code or in a string, and only a quotation mark leads from one to the other. -/
theorem Reads.round_of_some (h : lexer.Reads region) (ht : lexer.round.1 = some token) :
    lexer.round.2.Reads (.between (region.quoted ^^ (token.kind == .quote))) := by
  have he := change_emits_of_some ht
  cases hr : lexer.rest with
  | nil =>
    have hrest : lexer.round.2.rest = [] := by rw [round_rest, read_of_rest_eq_nil hr, hr]
    rw [Reads, hrest, round_mode, change_next_eq_finished_iff.mpr (round_rest lexer ▸ hrest)]
    exact (Region.mode_eq_finished_iff.mpr rfl).symm
  | cons c rest =>
    obtain ⟨hchange, hrest, hreads⟩ := h.round hr
    have hkind := round_kind ht
    rw [hchange] at he hkind
    rw [Reads, hreads, hrest, hkind, ← Region.quoted_after_of_emits he]
    exact Region.mode_after_of_emits he

theorem Reads.next (h : lexer.Reads region) :
    lexer.next.2.Reads (.between (region.quoted ^^ (lexer.next.1.kind == .quote))) := by
  fun_induction Lexer.next lexer generalizing region with
  | case1 lexer token ht => exact h.round_of_some ht
  | case2 lexer hn ih =>
    obtain ⟨other, hquoted, hreads⟩ := h.round_of_none hn
    rw [← hquoted]
    exact ih hreads

/-- Nothing is pending, but perhaps the carriage return of a line break that ends a comment. -/
def Rests (lexer : Lexer) : Prop :=
  lexer.pending = [] ∨
    lexer.pending = ['\r'] ∧ lexer.mode = .whitespace ∧ lexer.rest.head? = some '\n'

theorem Poised.rests_round (h : lexer.Poised) (hr : lexer.AtReturn) (ht : lexer.round.1 = some token) :
    lexer.round.2.Rests := by
  by_cases hf : lexer.mode = .finished
  · rw [h.round_of_finished hf]
    exact .inl (h.finished hf).1
  have hs := mode_ne_start_of_some ht
  obtain ⟨c, rest, hrest⟩ := List.exists_cons_of_ne_nil (mt (h.ends hs).mpr hf)
  have he := change_emits_of_some ht
  obtain ⟨_, -, hpending⟩ := round_of_emits hrest hs hf he
  split at hpending
  · next hk =>
    simp only [keepsReturn, Bool.and_eq_true, beq_iff_eq] at hk
    obtain ⟨hm, hn⟩ := hk
    have hc := hr hm
    rw [hrest] at hc
    obtain rfl : c = '\r' := Option.some.inj hc
    refine .inr ⟨hpending.2, by rw [round_mode, hn], ?_⟩
    rw [round_rest, read_of_reading hrest hs hf]
    rw [change_of_reading hrest hs hf, hm] at hn
    exact Mode.upcoming_of_whitespace hn
  · exact .inl hpending.2

theorem Poised.rests_next (h : lexer.Poised) (hr : lexer.AtReturn) : lexer.next.2.Rests := by
  fun_induction Lexer.next lexer with
  | case1 lexer token ht => exact h.rests_round hr ht
  | case2 lexer hn ih => exact ih h.round .round

/-- A lexer that stands in a text after some tokens have been given. -/
structure Standing (text : List Char) (given : List Token) (lexer : Lexer) : Prop where
  /-- What is unread is the text from the offset on, and the position is that of the text before it. -/
  rest : lexer.rest = Utf8.drop lexer.position.offset text
  position : lexer.position = .ofText (Utf8.take lexer.position.offset text)
  /-- The next token begins at the position, or one carriage return before it. -/
  start : lexer.start = lexer.position ∨
    ∃ before, Utf8.take lexer.position.offset text = before ++ ['\r'] ∧ lexer.start = .ofText before ∧
      lexer.mode = .whitespace ∧ lexer.rest.head? = some '\n'
  begins : lexer.mode = .start ↔ given = []
  ends : given ≠ [] → (lexer.mode = .finished ↔ lexer.rest = [])
  holdsNothing : lexer.mode ≠ .commentReturn
  /-- The next character and the quotation marks so far tell the mode in which it is read. -/
  outside : given ≠ [] → (quotes given).length % 2 = 0 →
    ∀ c ∈ lexer.rest.head?, lexer.mode = .entering (.startingWith (some c))
  inside : given ≠ [] → (quotes given).length % 2 = 1 →
    ∀ c ∈ lexer.rest.head?, lexer.mode =
      if c = '"' then .closeQuote else if c = '\\' then .escape else .stringData

variable {text : List Char} {given : List Token}

/-- The position cuts the text behind what has been read. -/
theorem Within.exists_cut (h : lexer.Within text) :
    ∃ before, Utf8.take lexer.position.offset text = before ++ lexer.pending.reverse ∧
      Utf8.drop lexer.position.offset text = lexer.rest ∧ lexer.start = .ofText before ∧
      lexer.position = .ofText (before ++ lexer.pending.reverse) := by
  obtain ⟨before, htext, hstart, hposition⟩ := h.exists_position
  have hoffset : lexer.position.offset = Utf8.size (before ++ lexer.pending.reverse) :=
    congrArg Position.offset hposition
  rw [← List.append_assoc] at htext
  refine ⟨before, ?_, ?_, hstart, hposition⟩
  · rw [hoffset, htext]
    exact Utf8.take_append _ _
  · rw [hoffset, htext]
    exact Utf8.drop_append _ _

/-- A lexer stands as its region tells, once a token has been given. -/
theorem Within.standing_of_reads (h : lexer.Within text) (hr : lexer.Rests)
    (hs : given = [] → lexer.mode = .start)
    (hm : given ≠ [] → lexer.Reads (.between (oddQuotes given))) : Standing text given lexer := by
  obtain ⟨before, htake, hdrop, hstart, hposition⟩ := h.exists_cut
  exact {
    rest := hdrop.symm
    position := by rw [htake, hposition]
    start := by
      rcases hr with hp | ⟨hp, hmode, hnext⟩
      · left
        rw [hstart, hposition, hp, List.reverse_nil, List.append_nil]
      · right
        rw [hp] at htake
        exact ⟨before, htake, hstart, hmode, hnext⟩
    begins := by
      refine ⟨?_, hs⟩
      intro hmode
      by_contra hne
      exact (hm hne).mode_ne_start hmode
    ends := fun hne => (hm hne).mode_eq_finished_iff
    holdsNothing := by
      by_cases hne : given = []
      · rw [hs hne]
        exact Mode.noConfusion
      · rw [hm hne]
        exact Region.between_mode_ne_commentReturn _ _
    outside := by
      intro hne heven c hc
      have hreads := hm hne
      rw [oddQuotes, heven] at hreads
      rw [hreads, hc]
      rfl
    inside := by
      intro hne hodd c hc
      have hreads := hm hne
      rw [oddQuotes, hodd] at hreads
      rw [hreads, hc]
      exact Region.inString_some c }

section

variable (text : List Char) (filename : String) (source : Option Nat)

theorem reads_after (n : Nat) :
    (after (n + 1) (ofChars text filename source)).Reads
      (.between (oddQuotes (firsts (n + 1) (ofChars text filename source)))) := by
  induction n with
  | zero =>
    have hs : (ofChars text filename source).mode = .start := rfl
    have hn := next_of_none (round_of_start hs)
    have hreads := (reads_of_start hs).next
    rw [← hn] at hreads
    rw [firsts_succ, oddQuotes_concat]
    exact hreads
  | succ n ih =>
    have hreads := ih.next
    rw [Region.quoted_between] at hreads
    rw [firsts_succ, oddQuotes_concat, after_add]
    exact hreads

theorem ready_after (n : Nat) : (after n (ofChars text filename source)).Ready text := by
  induction n with
  | zero => exact ready_ofChars text filename source
  | succ n ih =>
    rw [after_add]
    exact ih.next

theorem rests_after (n : Nat) : (after n (ofChars text filename source)).Rests := by
  cases n with
  | zero => exact .inl rfl
  | succ n =>
    rw [after_add]
    exact ((poised_ofChars text filename source).after n).rests_next
      (ready_after text filename source n).atReturn

/-- How a lexer on a text stands after any number of tokens. -/
theorem standing (n : Nat) :
    Standing text (firsts n (ofChars text filename source)) (after n (ofChars text filename source)) := by
  apply (ready_after text filename source n).standing_of_reads (rests_after text filename source n)
  · intro hnone
    have hlength := length_firsts n (ofChars text filename source)
    rw [hnone] at hlength
    rw [← hlength]
    rfl
  · intro hsome
    cases n with
    | zero => exact absurd rfl hsome
    | succ n => exact reads_after text filename source n

-- between a comment and its line break, and inside a string
example :
    let lexer := ofChars [';', '\r', '\n', '"', '\\', '"'] "" none
    let standing := fun n => ((after n lexer).mode, (after n lexer).start, (after n lexer).position)
    standing 1 = (.whitespace, ⟨1, 2, 1⟩, ⟨1, 3, 2⟩) ∧
      standing 3 = (.escape, ⟨2, 2, 4⟩, ⟨2, 2, 4⟩) := by
  decide +kernel

end

end Lexer

end BracketBalance
