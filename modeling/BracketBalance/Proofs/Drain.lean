import BracketBalance.Proofs.Stream

namespace BracketBalance.Lexer

/-- Nothing is pending before the first token and after the last, and the last comes with the end of the
text. -/
structure Poised (lexer : Lexer) : Prop where
  start : lexer.mode = .start → lexer.pending = [] ∧ lexer.start = lexer.position
  finished : lexer.mode = .finished → lexer.pending = [] ∧ lexer.start = lexer.position
  ends : lexer.mode ≠ .start → (lexer.mode = .finished ↔ lexer.rest = [])

theorem poised_ofChars (text : List Char) (filename : String) (source : Option Nat) :
    (ofChars text filename source).Poised where
  start _ := ⟨rfl, rfl⟩
  finished h := by cases h
  ends h := absurd rfl h

variable {lexer : Lexer}

/-- At the end a round gives an end token, and nothing changes. -/
theorem Poised.round_of_finished (h : lexer.Poised) (hm : lexer.mode = .finished) :
    lexer.round = (some ⟨.endOfText, "", lexer.source, lexer.filename, lexer.position, lexer.position⟩,
      lexer) := by
  obtain ⟨hp, hs⟩ := h.finished hm
  have hr : lexer.rest = [] := (h.ends (by simp [hm])).mp hm
  obtain ⟨mode, rest, pending, start, position, filename, source⟩ := lexer
  simp only at hm hp hs hr
  subst hm hp hs hr
  rfl

/-- The round after which nothing is left gives a token of all that was pending. -/
theorem round_pending_of_last (hs : lexer.mode ≠ .start) (hn : lexer.change.next = .finished) :
    lexer.round.2.pending = [] ∧ lexer.round.2.start = lexer.round.2.position := by
  have hr : lexer.read.2.rest.head? = none := by
    rw [change_next_eq_finished_iff.mp hn]
    rfl
  have he : lexer.change.emits = true := by
    unfold change
    rw [hr]
    exact Mode.transition_emits_at_end hs
  have hk : keepsReturn lexer.mode lexer.change.next = false := by
    simp [keepsReturn, hn]
  unfold round
  simp only [he, hk, ↓reduceIte]
  exact ⟨rfl, rfl⟩

theorem Poised.round (h : lexer.Poised) : lexer.round.2.Poised where
  start hm := absurd hm lexer.round_mode_ne_start
  finished hm := by
    rw [round_mode] at hm
    by_cases hs : lexer.mode = .start
    · have he := change_emits_of_start hs
      obtain ⟨hp, hq⟩ := h.start hs
      unfold Lexer.round
      simp only [he, changed, read_of_start hs, Bool.false_eq_true, ↓reduceIte]
      exact ⟨hp, hq⟩
    · exact round_pending_of_last hs hm
  ends _ := by
    rw [round_mode, round_rest]
    exact change_next_eq_finished_iff

theorem change_emits_of_some {token : Token} (h : lexer.round.1 = some token) :
    lexer.change.emits = true := by
  rw [← Bool.not_eq_false, ← round_eq_none_iff, h]
  exact Option.some_ne_none _

theorem mode_ne_start_of_some {token : Token} (h : lexer.round.1 = some token) :
    lexer.mode ≠ .start := by
  intro hs
  rw [round_of_start hs] at h
  cases h

/-- A round gives an end token only where the lexer is finished. -/
theorem Poised.mode_of_isEnd {token : Token} (h : lexer.Poised) (ht : lexer.round.1 = some token)
    (he : token.isEnd = true) : lexer.mode = .finished := by
  have hk : lexer.change.kind = .endOfText := (round_kind ht).symm.trans (Token.isEnd_iff.mp he)
  by_cases hf : lexer.mode = .finished
  · exact hf
  · have hs := mode_ne_start_of_some ht
    obtain ⟨c, rest, hr⟩ : ∃ c rest, lexer.rest = c :: rest :=
      List.exists_cons_of_ne_nil (fun hr => hf ((h.ends hs).mpr hr))
    have hread : lexer.read.1 = some c := by rw [read_of_reading hr hs hf]
    have hc := Kind.startingWith_ne_endOfText c
    unfold change at hk
    rw [hread] at hk
    cases hm : lexer.mode <;> simp only [hm, Mode.transition] at hk <;>
      first
      | exact absurd hm hs
      | exact absurd hm hf
      | exact absurd hk hc
      | cases hk
      | (split at hk <;> cases hk)

theorem Poised.next (h : lexer.Poised) : lexer.next.2.Poised := by
  fun_induction Lexer.next lexer with
  | case1 lexer token ht => exact h.round
  | case2 lexer hn ih => exact ih h.round

/-- After an end token the lexer stays where it is, and gives that token again. -/
theorem Poised.next_of_isEnd (h : lexer.Poised) (he : lexer.next.1.isEnd = true) :
    lexer.next.2.next = lexer.next := by
  fun_induction Lexer.next lexer with
  | case1 lexer token ht =>
    have hr := h.round_of_finished (h.mode_of_isEnd ht he)
    rw [hr] at ht ⊢
    obtain rfl := Option.some.inj ht
    rw [next_of_some (by rw [hr]), hr]
  | case2 lexer hn ih => exact ih h.round he

theorem drain_of_isEnd (h : lexer.next.1.isEnd = true) :
    lexer.drain = ⟨[], lexer.next.1, lexer.next.2⟩ := by
  rw [drain]
  simp [h]

theorem drain_of_token (h : lexer.next.1.isEnd = false) :
    lexer.drain = { lexer.next.2.drain with
      tokens := lexer.next.1 :: lexer.next.2.drain.tokens } := by
  rw [drain]
  simp [h]

theorem isEnd_of_mem_drain (lexer : Lexer) : ∀ token ∈ lexer.drain.tokens, token.isEnd = false := by
  fun_induction drain lexer with
  | case1 lexer step h more ih => exact List.forall_mem_cons.mpr ⟨h, ih⟩
  | case2 => simp

theorem isEnd_drain_last (lexer : Lexer) : lexer.drain.last.isEnd = true := by
  fun_induction drain lexer with
  | case1 lexer step h more ih => exact ih
  | case2 lexer step h => simpa using h

/-- A poised lexer gives what it is drained of, and its end for ever. -/
theorem Poised.yields (h : lexer.Poised) :
    TokenStream.Yields lexer .standard lexer.drain.tokens lexer.drain.last := by
  fun_induction drain lexer with
  | case1 lexer step he more ih =>
    have hy := ih h.next
    exact .of_next rfl rfl (Nat.lt_of_le_of_lt hy.length_le (next_work he)) hy
  | case2 lexer step he =>
    refine .of_next rfl rfl (Nat.zero_le _) (.of_fixed ?_ rfl)
    exact h.next_of_isEnd (by simpa using he)

theorem yields (text : List Char) (filename : String) (source : Option Nat) :
    TokenStream.Yields (ofChars text filename source) .standard
      (ofChars text filename source).drain.tokens (ofChars text filename source).drain.last :=
  (poised_ofChars text filename source).yields

end BracketBalance.Lexer
