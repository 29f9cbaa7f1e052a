import BracketBalance.Proofs.Unmatched

namespace BracketBalance

/-- A quotation mark waits in a string only, and there on top of all that waits. -/
def Guarded (waiting : List Token) : Region → Prop
  | .code | .comment => ∀ opener ∈ waiting, opener.kind ≠ .quote
  | .string | .escape => ∃ opening below, waiting = opening :: below ∧ opening.kind = .quote ∧
      ∀ opener ∈ below, opener.kind ≠ .quote

namespace Rules

variable {rules : Rules}

/-- Where no quotation mark waits, no opener closes anything. -/
theorem matchesTop_of_opens {waiting : List Token} {token : Token}
    (hw : ∀ opener ∈ waiting, opener.kind ≠ .quote) (ho : standard.opens token.kind = true) :
    standard.matchesTop waiting token = false := by
  cases waiting with
  | nil => rfl
  | cons top below =>
    have htop := hw top List.mem_cons_self
    cases hp : standard.matchesTop (top :: below) token with
    | false => rfl
    | true =>
      have hc : token.kind.closes = true := (Kind.closes_of_pairs hp).2
      have hk : token.kind = .quote := (Kind.opens_and_closes_iff _).mp ⟨ho, hc⟩
      have hp : Kind.pairs top.kind .quote = true := hk ▸ hp
      exact absurd (Kind.pairs_left_unique hp rfl) htop

/-- A quotation mark opens a string where none waits. -/
theorem judge_opening {waiting : List Token} {token : Token} (hk : token.kind = .quote)
    (hw : ∀ opener ∈ waiting, opener.kind ≠ .quote) :
    standard.judge waiting token = .proceed (token :: waiting) := by
  have ho : standard.opens token.kind = true := by
    rw [hk]
    rfl
  exact judge_of_opens ho (fun _ => matchesTop_of_opens hw ho)

/-- Where one waits on top, a quotation mark closes the string. -/
theorem judge_closing {opening token : Token} (ho : opening.kind = .quote)
    (hk : token.kind = .quote) (below : List Token) :
    standard.judge (opening :: below) token = .proceed below := by
  apply judge_of_pairs
  · rw [hk]
    rfl
  · rw [ho, hk]
    rfl

/-- What is left over waited before or was read since. -/
theorem mem_leftover {waiting tokens : List Token} {opener : Token}
    (h : opener ∈ rules.leftover waiting tokens) : opener ∈ waiting ∨ opener ∈ tokens := by
  induction tokens generalizing waiting with
  | nil => exact .inl h
  | cons token tokens ih =>
    rcases ih h with hm | hm
    · rcases mem_waiting_judge hm with hm | ⟨rfl, -⟩
      · exact .inl hm
      · exact .inr List.mem_cons_self
    · exact .inr (List.mem_cons_of_mem _ hm)

end Rules

variable (filename : String) (source : Option Nat)

theorem Region.marks_singleton (region : Region) (place : Position) (c : Char) :
    region.marks filename source place [c] = ((region.delimiter? c).map fun kind =>
      Piece.token ⟨kind, [c]⟩ filename source place).toList := by
  rw [marks, marks, List.append_nil]

theorem Region.marks_cons (region : Region) (place : Position) (c : Char) (text : List Char) :
    region.marks filename source place (c :: text) = region.marks filename source place [c] ++
      (region.after c).marks filename source (place.advance c) text :=
  region.marks_append filename source place [c] text

/-- Outside strings a character other than a quotation mark opens none. -/
theorem Region.code_of_not_quote {c : Char} (h : Kind.startingWith (some c) ≠ .quote)
    (place : Position) : (code.after c = code ∨ code.after c = comment) ∧
      ∀ mark ∈ code.marks filename source place [c], mark.kind ≠ .quote := by
  constructor
  · unfold after
    cases hk : Kind.startingWith (some c) <;> simp_all
  · intro mark hm
    rw [marks_singleton] at hm
    obtain ⟨kind, hk, rfl⟩ := Option.map_eq_some_iff.mp (Option.mem_toList.mp hm)
    have hf : (some (Kind.startingWith (some c))).filter Kind.delimits = some kind := hk
    obtain rfl := Option.some.inj (Option.filter_eq_some_iff.mp hf).1
    exact h

namespace Guarded

variable {waiting : List Token} {region : Region}

theorem mark_code (h : Guarded waiting .code) (place : Position) (c : Char) :
    Guarded (Rules.standard.leftover waiting (Region.code.marks filename source place [c]))
      (Region.code.after c) := by
  by_cases hq : Kind.startingWith (some c) = .quote
  · obtain rfl := Kind.startingWith_eq_quote_iff.mp hq
    refine ⟨Piece.quote.token filename source place, waiting, ?_, rfl, h⟩
    have hj : Rules.standard.judge waiting (Piece.quote.token filename source place) =
        .proceed (Piece.quote.token filename source place :: waiting) := Rules.judge_opening rfl h
    change (Rules.standard.judge waiting (Piece.quote.token filename source place)).waiting waiting = _
    rw [hj]
    rfl
  · obtain ⟨ha, hm⟩ := Region.code_of_not_quote filename source hq place
    have hw : ∀ opener ∈ Rules.standard.leftover waiting
        (Region.code.marks filename source place [c]), opener.kind ≠ .quote := by
      intro opener ho
      rcases Rules.mem_leftover ho with ho | ho
      · exact h opener ho
      · exact hm opener ho
    rcases ha with ha | ha <;> rw [ha] <;> exact hw

theorem mark_string (h : Guarded waiting .string) (place : Position) (c : Char) :
    Guarded (Rules.standard.leftover waiting (Region.string.marks filename source place [c]))
      (Region.string.after c) := by
  by_cases hq : c = '"'
  · subst hq
    obtain ⟨opening, below, rfl, hk, hb⟩ := h
    have hj : Rules.standard.judge (opening :: below) (Piece.quote.token filename source place) =
        .proceed below := Rules.judge_closing hk rfl below
    change ∀ opener ∈ (Rules.standard.judge (opening :: below)
      (Piece.quote.token filename source place)).waiting (opening :: below), opener.kind ≠ .quote
    rw [hj]
    exact hb
  · rw [Region.marks_singleton, Region.delimiter?_string_of_ne hq]
    by_cases hb : c = '\\'
    · subst hb
      exact h
    · rw [Region.after_string_of_plain hq hb]
      exact h

/-- One more character keeps the guard. -/
theorem mark (h : Guarded waiting region) (place : Position) (c : Char) :
    Guarded (Rules.standard.leftover waiting (region.marks filename source place [c]))
      (region.after c) := by
  cases region with
  | code => exact h.mark_code filename source place c
  | string => exact h.mark_string filename source place c
  | escape => exact h
  | comment =>
    by_cases hn : c = '\n'
    · subst hn
      exact h
    · have ha : Region.comment.after c = .comment := by simp [Region.after, hn]
      rw [ha]
      exact h

theorem marks (h : Guarded waiting region) (place : Position) (text : List Char) :
    Guarded (Rules.standard.leftover waiting (region.marks filename source place text))
      (region.afterAll text) := by
  induction text generalizing waiting region place with
  | nil => exact h
  | cons c text ih =>
    rw [Region.marks_cons, Rules.leftover_append, Region.afterAll_cons]
    exact ih (h.mark filename source place c) _

theorem fresh : Guarded [] .code := by
  intro opener hm
  cases hm

end Guarded

end BracketBalance
