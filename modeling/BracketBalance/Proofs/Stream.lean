import BracketBalance.Replay

namespace BracketBalance

namespace TokenStream

variable {σ : Type} [TokenStream σ] {stream : σ} {rules : Rules} {tokens : List Token} {last : Token}

def after : Nat → σ → σ
  | 0, stream => stream
  | n + 1, stream => after n (next stream).2

def nth (n : Nat) (stream : σ) : Token :=
  (next (after n stream)).1

def firsts : Nat → σ → List Token
  | 0, _ => []
  | n + 1, stream => (next stream).1 :: firsts n (next stream).2

theorem mem_firsts_iff {token : Token} {n : Nat} {stream : σ} :
    token ∈ firsts n stream ↔ ∃ i < n, nth i stream = token := by
  induction n generalizing stream with
  | zero => simp [firsts]
  | succ n ih =>
    rw [firsts, List.mem_cons, ih, Nat.exists_lt_succ_left]
    exact or_congr_left eq_comm

/-- The stream gives these tokens in order, and then the last one for ever. -/
structure Yields (stream : σ) (rules : Rules) (tokens : List Token) (last : Token) : Prop where
  nth : ∀ n, nth n stream = tokens[n]?.getD last
  rules : ∀ n, TokenStream.rules (after n stream) = rules
  /-- No more tokens are to come than the stream says. -/
  unread : ∀ n, (tokens.drop n).length ≤ unread (after n stream)

theorem after_add (m n : Nat) (stream : σ) : after (m + n) stream = after n (after m stream) := by
  induction m generalizing stream with
  | zero => simp [after]
  | succ m ih => rw [Nat.succ_add]; exact ih _

theorem firsts_succ (n : Nat) (stream : σ) :
    firsts (n + 1) stream = firsts n stream ++ [nth n stream] := by
  induction n generalizing stream with
  | zero => rfl
  | succ n ih => rw [firsts, ih]; rfl

theorem length_firsts (n : Nat) (stream : σ) : (firsts n stream).length = n := by
  induction n generalizing stream with
  | zero => rfl
  | succ n ih => rw [firsts, List.length_cons, ih]

theorem firsts_add (m n : Nat) (stream : σ) :
    firsts (m + n) stream = firsts m stream ++ firsts n (after m stream) := by
  induction m generalizing stream with
  | zero => simp [firsts, after]
  | succ m ih => rw [Nat.succ_add]; simp [firsts, after, ih]

theorem Yields.first (h : Yields stream rules tokens last) :
    (next stream).1 = tokens.head?.getD last := by
  simpa [TokenStream.nth, after, List.head?_eq_getElem?] using h.nth 0

theorem Yields.rules_eq (h : Yields stream rules tokens last) : TokenStream.rules stream = rules :=
  h.rules 0

theorem Yields.length_le (h : Yields stream rules tokens last) :
    tokens.length ≤ TokenStream.unread stream :=
  h.unread 0

theorem Yields.tail (h : Yields stream rules tokens last) :
    Yields (next stream).2 rules tokens.tail last where
  nth n := by simpa [TokenStream.nth, after] using h.nth (n + 1)
  rules n := h.rules (n + 1)
  unread n := by
    have := h.unread (n + 1)
    simp only [List.length_drop, List.length_tail, after] at this ⊢
    omega

theorem Yields.drop (h : Yields stream rules tokens last) (n : Nat) :
    Yields (after n stream) rules (tokens.drop n) last := by
  induction n generalizing stream tokens with
  | zero => simpa [after] using h
  | succ n ih => simpa [after] using ih h.tail

theorem Yields.after_passed {passed rest : List Token}
    (h : Yields stream rules (passed ++ rest) last) :
    Yields (after (passed.length + 1) stream) rules rest.tail last := by
  have hr : Yields (after passed.length stream) rules rest last := by
    simpa using h.drop passed.length
  rw [after_add]
  exact hr.tail

theorem Yields.nth_length {passed rest : List Token} (h : Yields stream rules (passed ++ rest) last) :
    TokenStream.nth passed.length stream = rest.head?.getD last := by
  rw [h.nth, List.getElem?_append_right (Nat.le_refl _), Nat.sub_self, List.head?_eq_getElem?]

theorem Yields.firsts {passed rest : List Token} (h : Yields stream rules (passed ++ rest) last) :
    firsts (passed.length + 1) stream = passed ++ [rest.head?.getD last] := by
  induction passed generalizing stream with
  | nil => simpa [TokenStream.firsts] using h.first
  | cons token passed ih =>
    have hf : (next stream).1 = token := h.first
    rw [List.length_cons, TokenStream.firsts, hf, ih h.tail, List.cons_append]

/-- What a stream yields, put together from its next token and from what comes after that. -/
theorem Yields.of_next (hn : (next stream).1 = tokens.head?.getD last)
    (hr : TokenStream.rules stream = rules) (hu : tokens.length ≤ TokenStream.unread stream)
    (h : Yields (next stream).2 rules tokens.tail last) : Yields stream rules tokens last where
  nth n := by
    cases n with
    | zero => simpa [TokenStream.nth, after, List.head?_eq_getElem?] using hn
    | succ n => simpa [TokenStream.nth, after] using h.nth n
  rules n := by
    cases n with
    | zero => exact hr
    | succ n => exact h.rules n
  unread n := by
    cases n with
    | zero => exact hu
    | succ n =>
      have := h.unread n
      simp only [List.length_drop, List.length_tail, after] at this ⊢
      omega

/-- A stream that stays where it is gives one token only. -/
theorem Yields.of_fixed (hn : next stream = (last, stream)) (hr : TokenStream.rules stream = rules) :
    Yields stream rules [] last := by
  have hf : ∀ n, after n stream = stream := by
    intro n
    induction n with
    | zero => rfl
    | succ n ih => rw [after, hn]; exact ih
  exact ⟨fun n => by simp [TokenStream.nth, hf, hn], fun n => by rw [hf, hr], fun n => by simp⟩

end TokenStream

/-- A replay yields what it holds. -/
theorem Replay.yields (rules : Rules) (tokens : List Token) (last : Token) :
    TokenStream.Yields (⟨rules, tokens, last⟩ : Replay) rules tokens last := by
  induction tokens with
  | nil => exact .of_fixed rfl rfl
  | cons token tokens ih => exact .of_next rfl rfl (Nat.le_refl _) ih

def Token.bare (kind : Kind) : Token :=
  ⟨kind, "", none, "", .origin, .origin⟩

end BracketBalance
