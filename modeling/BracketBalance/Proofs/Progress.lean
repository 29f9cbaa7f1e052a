import BracketBalance.Proofs.Labels
import BracketBalance.Proofs.Layout

namespace BracketBalance

structure Token.EndsAt (place : Position) (token : Token) : Prop where
  isEnd : token.isEnd = true
  lexeme : token.lexeme = ""
  start : token.start = place
  stop : token.stop = place

namespace Lexer

open TokenStream

variable {lexer : Lexer}

/-- The next token, if it takes no more than so many rounds. -/
def nextWithin : Nat → Lexer → Option (Token × Lexer)
  | 0, _ => none
  | n + 1, lexer =>
    match lexer.round.1 with
    | some token => some (token, lexer.round.2)
    | none => nextWithin n lexer.round.2

/-- Where a token goes on, a character has been read and another one is left. -/
theorem rest_read_ne_nil (hs : lexer.mode ≠ .start) (hn : lexer.round.1 = none) :
    lexer.read.2.rest ≠ [] := by
  intro hr
  have he : lexer.change.emits = true := by
    unfold change
    rw [hr]
    exact Mode.transition_emits_at_end hs
  rw [round_eq_none_iff.mp hn] at he
  cases he

theorem length_rest_read_of_none (hs : lexer.mode ≠ .start) (hn : lexer.round.1 = none) :
    lexer.read.2.rest.length + 1 = lexer.rest.length := by
  cases hr : lexer.rest with
  | nil =>
    have hne := rest_read_ne_nil hs hn
    rw [read_of_rest_eq_nil hr] at hne
    exact absurd hr hne
  | cons c rest =>
    rw [read_of_reading hr hs (mode_ne_finished_of_none hn)]
    rfl

theorem length_rest_read_le (lexer : Lexer) : lexer.read.2.rest.length ≤ lexer.rest.length := by
  obtain ⟨mode, rest, pending, start, position, filename, source⟩ := lexer
  cases mode <;> cases rest <;> simp [read]

/-- Once the first token has begun, a token takes at most one round more than characters are unread. -/
theorem nextWithin_of_begun (hs : lexer.mode ≠ .start) {n : Nat} (hn : lexer.rest.length < n) :
    nextWithin n lexer = some lexer.next := by
  induction n generalizing lexer with
  | zero => omega
  | succ n ih =>
    rw [nextWithin]
    cases hr : lexer.round.1 with
    | some token => rw [next_of_some hr]
    | none =>
      have hlength := length_rest_read_of_none hs hr
      rw [next_of_none hr]
      apply ih lexer.round_mode_ne_start
      rw [round_rest]
      omega

theorem nextWithin_eq_next (lexer : Lexer) :
    nextWithin (lexer.rest.length + 2) lexer = some lexer.next := by
  by_cases hs : lexer.mode = .start
  · rw [nextWithin, round_of_start hs, next_of_none (round_of_start hs)]
    apply nextWithin_of_begun lexer.round_mode_ne_start
    rw [round_rest, read_of_start hs]
    exact Nat.lt_succ_self _
  · exact nextWithin_of_begun hs (by omega)

/-- The end is given only when nothing is unread. -/
theorem Poised.rest_of_isEnd (h : lexer.Poised) (he : lexer.next.1.isEnd = true) :
    lexer.rest = [] := by
  fun_induction Lexer.next lexer with
  | case1 lexer token ht =>
    have hf := h.mode_of_isEnd ht he
    exact (h.ends (by simp [hf])).mp hf
  | case2 lexer hn ih =>
    have hrest := ih h.round he
    rw [round_rest] at hrest
    by_cases hs : lexer.mode = .start
    · rwa [read_of_start hs] at hrest
    · exact absurd hrest (rest_read_ne_nil hs hn)

/-- Any other token takes a character, also one that begins with a character held back. -/
theorem Poised.length_rest_next_lt (h : lexer.Poised) (he : lexer.next.1.isEnd = false) :
    lexer.next.2.rest.length < lexer.rest.length := by
  fun_induction Lexer.next lexer with
  | case1 lexer token ht =>
    have hs := mode_ne_start_of_some ht
    have hf : lexer.mode ≠ .finished := by
      intro hf
      rw [h.round_of_finished hf] at ht
      cases ht
      cases he
    obtain ⟨c, rest, hr⟩ := List.exists_cons_of_ne_nil (fun hr => hf ((h.ends hs).mpr hr))
    rw [round_rest, read_of_reading hr hs hf, hr]
    exact Nat.lt_succ_self _
  | case2 lexer hn ih =>
    have hlt := ih h.round he
    have hle := lexer.length_rest_read_le
    rw [round_rest] at hlt
    omega

-- the blanks after a comment begin with a carriage return that has been read, and take the line feed
example :
    let lexer := ofChars [';', '\r', '\n'] "" none
    (after 1 lexer).rest = ['\n'] ∧ (nth 1 lexer).lexeme = "\r\n" ∧ (after 2 lexer).rest = [] := by
  decide +kernel

/-- So many tokens before the end take at least as many characters. -/
theorem Poised.length_rest_after_le (h : lexer.Poised) {n : Nat}
    (hn : ∀ i < n, (nth i lexer).isEnd = false) :
    (TokenStream.after n lexer).rest.length + n ≤ lexer.rest.length := by
  induction n generalizing lexer with
  | zero => exact Nat.le_refl _
  | succ n ih =>
    obtain ⟨hfirst, hothers⟩ := Nat.forall_lt_succ_left.mp hn
    have hlt := h.length_rest_next_lt hfirst
    have hle := ih h.next hothers
    rw [TokenStream.after]
    exact Nat.le_trans (Nat.succ_le_succ hle) hlt

structure Ended (place : Position) (lexer : Lexer) : Prop where
  poised : lexer.Poised
  next : lexer.next.1.EndsAt place

variable {place : Position}

theorem Ended.next_eq (h : lexer.Ended place) : lexer.next.2.next = lexer.next :=
  h.poised.next_of_isEnd h.next.isEnd

theorem Ended.read (h : lexer.Ended place) : lexer.next.2.Ended place where
  poised := h.poised.next
  next := by
    rw [h.next_eq]
    exact h.next

theorem Ended.mark (h : lexer.Ended place) (source : Nat) : (lexer.mark source).Ended place where
  poised := h.poised.label lexer.filename (some source)
  next := by
    have hnext : (lexer.mark source).next = _ := lexer.next_label lexer.filename (some source)
    rw [hnext]
    exact ⟨h.next.isEnd, h.next.lexeme, h.next.start, h.next.stop⟩

theorem Ended.after (h : lexer.Ended place) (n : Nat) : (after n lexer).Ended place := by
  induction n generalizing lexer with
  | zero => exact h
  | succ n ih => exact ih h.read

theorem Ended.yields (h : lexer.Ended place) : Yields lexer .standard [] lexer.next.1 := by
  have hy := h.poised.yields
  rwa [drain_of_isEnd h.next.isEnd] at hy

/-- Whatever is done at the end, only the end is answered and taken. -/
theorem Ended.perform (h : lexer.Ended place) (operation : Operation) :
    (∀ token ∈ (operation.perform lexer).answers ++ (operation.perform lexer).taken,
        token.EndsAt place) ∧
      (operation.perform lexer).lexer.Ended place := by
  cases operation with
  | next => exact ⟨by simpa [Operation.perform] using h.next, h.read⟩
  | mark source => exact ⟨by simp [Operation.perform], h.mark source⟩
  | check calls =>
    have hy := h.yields
    have hanswers : ((Operation.check calls).perform lexer).answers = _ :=
      Checker.checks_tokens Rules.standard_endsApart h.next.isEnd hy (by simp) [] calls
    obtain ⟨-, n, hlast, htaken, -⟩ :=
      Checker.checks_turns Rules.standard_endsApart h.next.isEnd hy [] calls
    have htaken : ((Operation.check calls).perform lexer).taken = firsts n lexer := htaken
    have hstream : ((Operation.check calls).perform lexer).lexer = TokenStream.after n lexer :=
      (congrArg Checker.stream hlast).trans (Checker.turns_stream n _)
    rw [hanswers, htaken, hstream]
    refine ⟨?_, h.after n⟩
    intro token hm
    rcases List.mem_append.mp hm with hm | hm
    · obtain ⟨i, -, rfl⟩ := List.mem_map.mp hm
      exact h.next
    · obtain ⟨i, -, rfl⟩ := mem_firsts_iff.mp hm
      rw [hy.nth]
      exact h.next

theorem Ended.left (h : lexer.Ended place) (operations : List Operation) :
    (Operation.left lexer operations).Ended place := by
  induction operations generalizing lexer with
  | nil => exact h
  | cons operation operations ih => exact ih (h.perform operation).2

theorem Ended.performAll (h : lexer.Ended place) (operations : List Operation) :
    ∀ outcome ∈ Operation.performAll lexer operations,
      ∀ token ∈ outcome.answers ++ outcome.taken, token.EndsAt place := by
  induction operations generalizing lexer with
  | nil => nofun
  | cons operation operations ih =>
    obtain ⟨htokens, hafter⟩ := h.perform operation
    exact List.forall_mem_cons.mpr ⟨htokens, ih hafter⟩

/-- The way of a lexer through a text, with so many tokens before the end. -/
structure Course (text : List Char) (begun : Lexer) (count : Nat) : Prop where
  /-- A text has no more tokens than characters. -/
  count_le : count ≤ text.length
  ends : ∀ n, (nth n begun).isEnd = true ↔ count ≤ n
  /-- A token before the end takes at least one character, and is not empty. -/
  takes : ∀ n < count, (after (n + 1) begun).rest.length < (after n begun).rest.length ∧
    (nth n begun).lexeme ≠ ""
  /-- Nothing is unread when the end comes first. -/
  unread : (after count begun).rest = []
  /-- From then on the end is all that is answered and taken, where the text ends. -/
  ended : ∀ operations, ∀ outcome ∈ Operation.performAll (after count begun) operations,
    ∀ token ∈ outcome.answers ++ outcome.taken, token.EndsAt (.ofText text)
  /-- Every later token is the end, where the text ends. -/
  stays : ∀ n, count ≤ n → (nth n begun).EndsAt (.ofText text)
  /-- So is the one answer to reading on, whatever has been done since the end came first. -/
  answers : ∀ operations, ∃ token, token.EndsAt (.ofText text) ∧
    (Operation.next.perform (Operation.left (after count begun) operations)).answers = [token]

section

variable (text : List Char) (filename : String) (source : Option Nat)

theorem isEnd_nth_of_lt {n : Nat} (h : n < (Region.code.slices text).length) :
    (nth n (ofChars text filename source)).isEnd = false := by
  rw [Bool.eq_false_iff, ne_eq, isEnd_nth_iff]
  exact Nat.not_le.mpr h

theorem nth_lexeme_ne_empty {n : Nat} (h : n < (Region.code.slices text).length) :
    (nth n (ofChars text filename source)).lexeme ≠ "" := by
  have ht : Tiles text (Region.code.slices text) := slices_eq_iff_tiles.mp rfl
  have hne := ht.lexeme_ne_nil _ (List.getElem_mem h)
  have hlexeme := nth_lexeme n text filename source
  rw [List.getElem?_eq_getElem h, Option.getD_some] at hlexeme
  intro he
  rw [he] at hlexeme
  exact hne hlexeme.symm

/-- After its last piece a text has ended, in the place behind all its characters. -/
theorem ended_after_slices :
    (after (Region.code.slices text).length (ofChars text filename source)).Ended (.ofText text) where
  poised := (poised_ofChars text filename source).after _
  next := by
    have hnext := nth_eq (Region.code.slices text).length text filename source
    rw [List.getElem?_eq_none (Nat.le_refl _), Option.getD_none, spelling_of_length_le (Nat.le_refl _),
      flatMap_slices] at hnext
    change (nth _ _).EndsAt _
    rw [hnext]
    exact ⟨rfl, rfl, rfl, rfl⟩

theorem course_ofChars :
    Course text (ofChars text filename source) (Region.code.slices text).length where
  count_le := by
    have hle := (poised_ofChars text filename source).length_rest_after_le
      (fun _ hn => isEnd_nth_of_lt text filename source hn)
    exact Nat.le_trans (Nat.le_add_left _ _) hle
  ends n := isEnd_nth_iff n text filename source
  takes n hn := by
    have hlt := ((poised_ofChars text filename source).after n).length_rest_next_lt
      (isEnd_nth_of_lt text filename source hn)
    rw [after_add]
    exact ⟨hlt, nth_lexeme_ne_empty text filename source hn⟩
  unread := by
    have hended := ended_after_slices text filename source
    exact hended.poised.rest_of_isEnd hended.next.isEnd
  ended := (ended_after_slices text filename source).performAll
  stays n hn := by
    obtain ⟨more, rfl⟩ := Nat.exists_eq_add_of_le hn
    have hended := (ended_after_slices text filename source).after more
    rw [← after_add] at hended
    exact hended.next
  answers operations := by
    have hended := (ended_after_slices text filename source).left operations
    exact ⟨_, hended.next, rfl⟩

end

/-- Every call of a lexer comes to its token, and every text to its end. -/
theorem progresses :
    (∀ lexer : Lexer, nextWithin (lexer.rest.length + 2) lexer = some lexer.next) ∧
    ∀ (text : List Char) (filename : String) (source : Option Nat),
      ∃ count, Course text (ofChars text filename source) count :=
  ⟨nextWithin_eq_next, fun text filename source => ⟨_, course_ofChars text filename source⟩⟩

end Lexer

end BracketBalance
