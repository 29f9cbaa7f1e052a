import BracketBalance.Proofs.Walks

namespace BracketBalance

namespace Position

namespace Move

def char : Move → Char
  | forward c | back c => c

def bytes : Move → Int
  | forward c => c.utf8Size
  | back c => -c.utf8Size

def columns : Move → Int
  | forward _ => 1
  | back _ => -1

def opposite : Move → Move
  | forward c => back c
  | back c => forward c

/-- What stops a move that takes a sum out of range. -/
def fault : Move → Fault
  | forward _ => .overflow
  | back _ => .underflow

def complaint : Move → String
  | forward _ => "attempt to add with overflow"
  | back _ => "attempt to subtract with overflow"

theorem message_fault (m : Move) : m.fault.message = m.complaint := by
  cases m <;> rfl

end Move

theorem Fault.message_injective : Function.Injective Fault.message := by
  intro a b
  cases a <;> cases b <;> decide +kernel

def offsetSum (p : Position) (moves : List Move) : Int :=
  moves.foldl (fun sum m => sum + m.bytes) p.offset

def columnSum (p : Position) (moves : List Move) : Int :=
  moves.foldl (fun sum m => sum + m.columns) p.column

/-- Neither sum is negative or passes the limit. -/
def SumsFit (p : Position) (moves : List Move) : Prop :=
  (0 ≤ p.offsetSum moves ∧ p.offsetSum moves ≤ limit) ∧
    0 ≤ p.columnSum moves ∧ p.columnSum moves ≤ limit

instance (p : Position) (moves : List Move) : Decidable (p.SumsFit moves) :=
  inferInstanceAs (Decidable ((_ ∧ _) ∧ _ ∧ _))

def summed (p : Position) (moves : List Move) : Position where
  line := p.line
  column := (p.columnSum moves).toNat
  offset := (p.offsetSum moves).toNat

section

variable {p q : Position} {m : Move} {moves : List Move}

theorem offsetSum_concat (p : Position) (moves : List Move) (m : Move) :
    p.offsetSum (moves ++ [m]) = p.offsetSum moves + m.bytes := by
  simp [offsetSum]

theorem columnSum_concat (p : Position) (moves : List Move) (m : Move) :
    p.columnSum (moves ++ [m]) = p.columnSum moves + m.columns := by
  simp [columnSum]

theorem summed_nil (p : Position) : p.summed [] = p := by
  simp [summed, offsetSum, columnSum]

theorem Fits.sumsFit_nil (hp : p.Fits) : p.SumsFit [] := by
  obtain ⟨-, hc, ho⟩ := hp
  simp only [SumsFit, offsetSum, columnSum, List.foldl_nil]
  omega

theorem SumsFit.eq_summed_iff (h : p.SumsFit moves) :
    q = p.summed moves ↔ q.line = p.line ∧ (q.column : Int) = p.columnSum moves ∧
      (q.offset : Int) = p.offsetSum moves := by
  obtain ⟨⟨ho, -⟩, hc, -⟩ := h
  obtain ⟨line, column, offset⟩ := q
  simp only [summed, mk.injEq]
  omega

/-- One more move goes on to where the sums tell, unless it takes one of them out of range. -/
theorem Fits.move?_summed (hp : p.Fits) (h : p.SumsFit moves) (hm : m.char ≠ '\n') :
    (p.summed moves).move? m =
      if p.SumsFit (moves ++ [m]) then .ok (p.summed (moves ++ [m])) else .error m.fault := by
  obtain ⟨⟨ho, hol⟩, hc, hcl⟩ := h
  obtain ⟨hl, -, -⟩ := hp
  cases m with
  | forward c =>
    rw [Move.char] at hm
    have hadvance : (p.summed moves).advance c = p.summed (moves ++ [.forward c]) := by
      simp only [advance, if_neg hm, summed, offsetSum_concat, columnSum_concat, Move.bytes,
        Move.columns, mk.injEq, true_and]
      omega
    have hfits : (p.summed (moves ++ [.forward c])).Fits ↔ p.SumsFit (moves ++ [.forward c]) := by
      simp only [Fits, SumsFit, summed, offsetSum_concat, columnSum_concat, Move.bytes, Move.columns]
      omega
    simp only [move?, advance?, hadvance, hfits, Move.fault]
  | back c =>
    rw [Move.char] at hm
    have hretreat : (p.summed moves).retreat c = p.summed (moves ++ [.back c]) := by
      simp only [retreat, summed, offsetSum_concat, columnSum_concat, Move.bytes, Move.columns,
        mk.injEq, true_and]
      omega
    have hfits : (c.utf8Size ≤ (p.summed moves).offset ∧ 1 ≤ (p.summed moves).column) ↔
        p.SumsFit (moves ++ [.back c]) := by
      simp only [SumsFit, summed, offsetSum_concat, columnSum_concat, Move.bytes, Move.columns]
      omega
    simp only [move?, retreat?, if_neg hm, hfits, hretreat, Move.fault]

theorem Fits.move?_summed_eq_ok_iff (hp : p.Fits) (h : p.SumsFit moves) (hm : m.char ≠ '\n') :
    (p.summed moves).move? m = .ok q ↔
      p.SumsFit (moves ++ [m]) ∧ q = p.summed (moves ++ [m]) := by
  rw [hp.move?_summed h hm]
  split <;> simp_all [eq_comm]

theorem Fits.move?_summed_eq_error_iff (hp : p.Fits) (h : p.SumsFit moves) (hm : m.char ≠ '\n')
    {fault : Fault} :
    (p.summed moves).move? m = .error fault ↔ ¬p.SumsFit (moves ++ [m]) ∧ fault = m.fault := by
  rw [hp.move?_summed h hm]
  split <;> simp_all [eq_comm]

section

variable (hm : ∀ m ∈ moves, m.char ≠ '\n')
include hm

/-- The first moves come to an end just if the sums have always been in range, and then to the place that
they tell. -/
theorem Fits.arrival_take_eq_ok_iff (hp : p.Fits) {i : Nat} (hi : i ≤ moves.length) :
    p.arrival (moves.take i) = .ok q ↔
      (∀ j ≤ i, p.SumsFit (moves.take j)) ∧ q = p.summed (moves.take i) := by
  -- the sums are always counted from where the walk begins, so the start stays fixed
  induction i generalizing q with
  | zero => simp [arrival_nil, hp.sumsFit_nil, summed_nil, eq_comm]
  | succ i ih =>
    have htake : moves.take (i + 1) = moves.take i ++ [moves[i]] :=
      List.take_succ_eq_append_getElem hi
    have hchar : moves[i].char ≠ '\n' := hm _ (List.getElem_mem hi)
    rw [htake, arrival_concat_eq_ok_iff]
    simp only [ih (Nat.le_of_succ_le hi)]
    constructor
    · rintro ⟨_, ⟨hbefore, rfl⟩, hmove⟩
      obtain ⟨hsum, rfl⟩ := (hp.move?_summed_eq_ok_iff (hbefore i i.le_refl) hchar).mp hmove
      refine ⟨fun j hj => ?_, rfl⟩
      rcases Nat.le_succ_iff.mp hj with hj | rfl
      · exact hbefore j hj
      · exact htake ▸ hsum
    · rintro ⟨hsums, rfl⟩
      have hbefore : ∀ j ≤ i, p.SumsFit (moves.take j) := fun j hj => hsums j (Nat.le_succ_of_le hj)
      refine ⟨_, ⟨hbefore, rfl⟩, ?_⟩
      rw [hp.move?_summed_eq_ok_iff (hbefore i i.le_refl) hchar, ← htake]
      exact ⟨hsums (i + 1) (i + 1).le_refl, rfl⟩

theorem Fits.arrival_eq_ok_iff (hp : p.Fits) :
    p.arrival moves = .ok q ↔ (∀ j ≤ moves.length, p.SumsFit (moves.take j)) ∧
      q.line = p.line ∧ (q.column : Int) = p.columnSum moves ∧
        (q.offset : Int) = p.offsetSum moves := by
  have harrival := hp.arrival_take_eq_ok_iff (q := q) hm moves.length.le_refl
  rw [List.take_length] at harrival
  rw [harrival]
  apply and_congr_right
  intro hsums
  have hsum := hsums moves.length moves.length.le_refl
  rw [List.take_length] at hsum
  exact hsum.eq_summed_iff

/-- The move that stops a walk is the first that takes a sum out of range. -/
theorem Fits.walk_getElem?_eq_error_iff (hp : p.Fits) {i : Nat} {fault : Fault} :
    (p.walk moves)[i]? = some (.error fault) ↔
      ∃ m, moves[i]? = some m ∧ (∀ j ≤ i, p.SumsFit (moves.take j)) ∧
        ¬p.SumsFit (moves.take (i + 1)) ∧ fault = m.fault := by
  rw [walk_getElem?_eq_some_iff]
  constructor
  · rintro ⟨m, q, hi, harrival, hmove⟩
    obtain ⟨hlt, rfl⟩ := List.getElem?_eq_some_iff.mp hi
    obtain ⟨hbefore, rfl⟩ := (hp.arrival_take_eq_ok_iff hm hlt.le).mp harrival
    obtain ⟨hout, rfl⟩ := (hp.move?_summed_eq_error_iff (hbefore i i.le_refl)
      (hm _ (List.getElem_mem hlt))).mp hmove.symm
    rw [← List.take_succ_eq_append_getElem hlt] at hout
    exact ⟨_, hi, hbefore, hout, rfl⟩
  · rintro ⟨m, hi, hbefore, hout, rfl⟩
    obtain ⟨hlt, rfl⟩ := List.getElem?_eq_some_iff.mp hi
    refine ⟨_, _, hi, (hp.arrival_take_eq_ok_iff hm hlt.le).mpr ⟨hbefore, rfl⟩, Eq.symm ?_⟩
    rw [hp.move?_summed_eq_error_iff (hbefore i i.le_refl) (hm _ (List.getElem_mem hlt)),
      ← List.take_succ_eq_append_getElem hlt]
    exact ⟨hout, rfl⟩

end

/-- A move within a line that succeeds is undone by its opposite. -/
theorem Fits.move?_opposite (hp : p.Fits) (hm : m.char ≠ '\n') (h : p.move? m = .ok q) :
    q.Fits ∧ q.move? m.opposite = .ok p := by
  cases m with
  | forward c =>
    rw [Move.char] at hm
    obtain ⟨fits, rfl⟩ := advance?_eq_ok_iff.mp h
    refine ⟨fits, retreat?_eq_ok_iff.mpr ⟨hm, ?_, (retreat_advance p hm).symm⟩⟩
    simp [advance, hm]
  | back c =>
    obtain ⟨hc, ⟨hs, hcol⟩, rfl⟩ := retreat?_eq_ok_iff.mp h
    have hadvance : (p.retreat c).advance c = p := p.advance_retreat hc hs hcol
    refine ⟨?_, advance?_eq_ok_iff.mpr ⟨hadvance.symm ▸ hp, hadvance.symm⟩⟩
    unfold Fits at hp
    simp only [Fits, retreat]
    omega

/-- The opposite moves in reverse lead back from the end of a walk within a line. -/
theorem Fits.arrival_undo (hp : p.Fits) (hm : ∀ m ∈ moves, m.char ≠ '\n')
    (h : p.arrival moves = .ok q) : q.arrival (moves.map .opposite).reverse = .ok p := by
  induction moves generalizing p with
  | nil =>
    cases h
    rfl
  | cons m moves ih =>
    obtain ⟨hfirst, hmoves⟩ := List.forall_mem_cons.mp hm
    obtain ⟨r, hmove, hrest⟩ := arrival_cons_eq_ok_iff.mp h
    obtain ⟨hr, hback⟩ := hp.move?_opposite hfirst hmove
    rw [List.map_cons, List.reverse_cons, arrival_concat_eq_ok_iff]
    exact ⟨r, ih hr hmoves hrest, hback⟩

theorem Fits.arrival_map_back (hp : p.Fits) {text : List Char} (ht : '\n' ∉ text)
    (h : p.arrival (text.map .forward) = .ok q) : q.arrival (text.reverse.map .back) = .ok p := by
  have hm : ∀ m ∈ text.map Move.forward, m.char ≠ '\n' := by
    intro m hmem
    obtain ⟨c, hc, rfl⟩ := List.mem_map.mp hmem
    exact ne_of_mem_of_not_mem hc ht
  have hundo := hp.arrival_undo hm h
  rwa [List.map_map, ← List.map_reverse] at hundo

theorem Fits.advance?_of_retreat? (hp : p.Fits) {c : Char} (h : p.retreat? c = .ok q) :
    q.advance? c = .ok p :=
  (hp.move?_opposite (m := .back c) (retreat?_eq_ok_iff.mp h).1 h).2

end

/-- A walk within a line stops at the first move that takes the offset or the column out of range, as an
overflow if it is a move forward and as an underflow if it is one back. If it ends, it ends where the sums
tell. So the way over a text and back ends where it began, and so does a step back and forward again. -/
theorem walk_within_line (p : Position) (moves : List Move) (hp : p.Fits)
    (hm : ∀ m ∈ moves, m.char ≠ '\n') :
    (∀ (i : Nat) (fault : Fault), (p.walk moves)[i]? = some (.error fault) ↔
      ∃ m, moves[i]? = some m ∧ (∀ j ≤ i, p.SumsFit (moves.take j)) ∧
        ¬p.SumsFit (moves.take (i + 1)) ∧ fault.message = m.complaint) ∧
    (∀ q, p.arrival moves = .ok q ↔ (∀ j ≤ moves.length, p.SumsFit (moves.take j)) ∧
      q.line = p.line ∧ (q.column : Int) = p.columnSum moves ∧
        (q.offset : Int) = p.offsetSum moves) ∧
    (∀ (text : List Char) (q : Position), '\n' ∉ text → p.arrival (text.map .forward) = .ok q →
      q.arrival (text.reverse.map .back) = .ok p) ∧
    ∀ c q, p.retreat? c = .ok q → q.advance? c = .ok p := by
  refine ⟨?_, fun q => hp.arrival_eq_ok_iff hm, fun text q => hp.arrival_map_back,
    fun c q => hp.advance?_of_retreat?⟩
  intro i fault
  simp only [← Move.message_fault, Fault.message_injective.eq_iff]
  exact hp.walk_getElem?_eq_error_iff hm

/-- The column comes to its limit twice, but it is the offset that the last move takes out of range. -/
theorem walk_within_line_underflow :
    let p : Position := ⟨7, limit - 1, 3⟩
    let moves : List Move := [.forward 'é', .back 'a', .forward 'x', .back '😀', .back '😀']
    p.Fits ∧ (∀ m ∈ moves, m.char ≠ '\n') ∧ (p.walk moves)[4]? = some (.error .underflow) ∧
      p.arrival (moves.take 4) = .ok ⟨7, limit - 1, 1⟩ := by
  intro p moves
  have hp : p.Fits := by decide
  have hm : ∀ m ∈ moves, m.char ≠ '\n' := by decide
  obtain ⟨hstop, -⟩ := walk_within_line p moves hp hm
  obtain ⟨-, hend, -⟩ := walk_within_line p (moves.take 4) hp (by decide)
  exact ⟨hp, hm, (hstop 4 .underflow).mpr ⟨.back '😀', rfl, by decide, by decide, rfl⟩,
    (hend _).mpr (by decide)⟩

end Position

end BracketBalance
