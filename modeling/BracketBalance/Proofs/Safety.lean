import BracketBalance.Proofs.Cursor
import BracketBalance.Proofs.Layout

namespace BracketBalance

namespace Utf8

theorem isBoundary_append (a b : List Char) : IsBoundary (size a) (a ++ b) := by
  rw [IsBoundary, take_append]

theorem slice?_append (a b c : List Char) :
    slice? (size a) (size a + size b) (a ++ (b ++ c)) = some b := by
  have hstop : IsBoundary (size a + size b) (a ++ (b ++ c)) := by
    rw [← size_append, ← List.append_assoc]
    exact isBoundary_append _ _
  have hslice : slice (size a) (size a + size b) (a ++ (b ++ c)) = b := by
    rw [slice, ← size_append, ← List.append_assoc, take_append, drop_append]
  rw [slice?, if_pos ⟨Nat.le_add_right _ _, isBoundary_append _ _, hstop⟩, hslice]

end Utf8

/-- The most bytes that a text in memory can have, `2 ^ 63 - 1`. -/
def Utf8.maxSize : Nat := 9223372036854775807

/-- Every place in a text that a machine can hold has coordinates that fit. -/
theorem Position.fits_ofText {text before : List Char} (hb : before <+: text)
    (ht : Utf8.size text ≤ Utf8.maxSize) : (ofText before).Fits := by
  obtain ⟨rest, rfl⟩ := hb
  have hlength := Utf8.length_le_size before
  have hlines : before.count '\n' ≤ before.length := List.count_le_length
  have hcolumns : (before.rtakeWhile (· ≠ '\n')).length ≤ before.length :=
    (List.rtakeWhile_suffix _ _).length_le
  rw [Utf8.size_append, Utf8.maxSize] at ht
  refine ⟨?_, ?_, ?_⟩ <;> simp only [ofText, limit] <;> omega

/-- There is room to go back over the last character of a text. -/
theorem Position.retreat?_ofText (before : List Char) {c : Char} (hc : c ≠ '\n') :
    (ofText (before ++ [c])).retreat? c = .ok ((ofText (before ++ [c])).retreat c) := by
  refine retreat?_eq_ok_iff.mpr ⟨hc, ?_, rfl⟩
  rw [ofText_concat, advance, if_neg hc]
  exact ⟨Nat.le_add_left _ _, Nat.le_add_left _ _⟩

def Lexer.cursor (text : List Char) (lexer : Lexer) : Cursor where
  text := text
  mode := lexer.mode
  rest := lexer.rest
  start := lexer.start
  position := lexer.position
  filename := lexer.filename
  source := lexer.source

namespace Lexer

/-- The text is what lies before the next token, what is pending and what has not been read, and the
lexer has counted it right. -/
structure Within (text : List Char) (lexer : Lexer) : Prop where
  position : lexer.position = lexer.start.advanceAll lexer.pending.reverse
  before : ∃ before, text = before ++ (lexer.pending.reverse ++ lexer.rest) ∧
    lexer.start = .ofText before

theorem within_ofChars (text : List Char) (filename : String) (source : Option Nat) :
    (ofChars text filename source).Within text where
  position := rfl
  before := ⟨[], rfl, rfl⟩

variable {text : List Char} {lexer : Lexer}

theorem Within.mark (h : lexer.Within text) (source : Nat) : (lexer.mark source).Within text where
  position := h.position
  before := h.before

theorem Within.changed (h : lexer.read.2.Within text) : lexer.changed.Within text where
  position := h.position
  before := h.before

theorem Within.exists_position (h : lexer.Within text) :
    ∃ before, text = before ++ (lexer.pending.reverse ++ lexer.rest) ∧
      lexer.start = .ofText before ∧ lexer.position = .ofText (before ++ lexer.pending.reverse) := by
  obtain ⟨before, htext, hstart⟩ := h.before
  refine ⟨before, htext, hstart, ?_⟩
  rw [h.position, hstart, Position.ofText_append]

theorem Within.sited (h : lexer.Within text) :
    lexer.Sited lexer.filename lexer.source (.ofText text) where
  filename := rfl
  source := rfl
  position := h.position
  goal := by
    obtain ⟨before, htext, -, hp⟩ := h.exists_position
    rw [hp, ← Position.ofText_append, htext, List.append_assoc]

theorem Within.fits (h : lexer.Within text) (ht : Utf8.size text ≤ Utf8.maxSize) :
    lexer.position.Fits := by
  obtain ⟨before, htext, -, hp⟩ := h.exists_position
  rw [hp]
  refine Position.fits_ofText ⟨lexer.rest, ?_⟩ ht
  rw [htext, List.append_assoc]

theorem Within.read (h : lexer.Within text) : lexer.read.2.Within text := by
  by_cases hs : lexer.mode = .start
  · rwa [read_of_start hs]
  by_cases hf : lexer.mode = .finished
  · rwa [read_of_finished hf]
  cases hr : lexer.rest with
  | nil => rwa [read_of_rest_eq_nil hr]
  | cons c rest =>
    have hsited := h.sited.read.1
    obtain ⟨before, htext, hstart⟩ := h.before
    rw [read_of_reading hr hs hf] at hsited ⊢
    refine ⟨hsited.position, before, ?_, hstart⟩
    rw [htext, hr, List.reverse_cons, List.append_assoc, List.singleton_append]

/-- Nothing stops the cursor from reading what the lexer reads. -/
theorem Within.cursor_read (h : lexer.Within text) (ht : Utf8.size text ≤ Utf8.maxSize) :
    (lexer.cursor text).read = .ok (lexer.read.1, lexer.read.2.cursor text) := by
  have hfits := h.read.fits ht
  obtain ⟨mode, rest, pending, start, position, filename, source⟩ := lexer
  cases rest with
  | nil => cases mode <;> rfl
  | cons c rest =>
    cases mode with
    | start | finished => rfl
    | _ =>
      have hadvance : position.advance? c = .ok (position.advance c) :=
        Position.advance?_eq_ok_iff.mpr ⟨hfits, rfl⟩
      simp only [Cursor.read, Lexer.cursor, hadvance]
      rfl

theorem pending_emit (lexer : Lexer) (kind : Kind) (keepsLast : Bool) :
    lexer.pending.reverse = (lexer.emit kind keepsLast).1.lexeme.toList ++
      (lexer.emit kind keepsLast).2.pending.reverse := by
  unfold emit
  split
  · next c before hp => simp [cut, hp]
  · simp [cut]

/-- A token lies between two places in the text, and the next one begins where it stops. -/
theorem Within.emit (h : lexer.Within text) (kind : Kind) {keepsLast : Bool}
    (hk : keepsLast = true → lexer.pending.head? = some '\r') :
    (lexer.emit kind keepsLast).2.Within text ∧
      Utf8.slice? lexer.start.offset (lexer.emit kind keepsLast).1.stop.offset text =
        some (lexer.emit kind keepsLast).1.lexeme.toList := by
  obtain ⟨htoken, hstop, hafter⟩ := h.sited.emit kind hk
  obtain ⟨before, htext, hstart⟩ := h.before
  have hpending := lexer.pending_emit kind keepsLast
  have hrest := emit_rest lexer kind keepsLast
  generalize lexer.emit kind keepsLast = emitted at *
  obtain ⟨token, after⟩ := emitted
  have hplace : token.stop = .ofText (before ++ token.lexeme.toList) := by
    rw [Position.ofText_append, ← hstart]
    exact congrArg Token.stop htoken
  rw [hpending, ← hrest, List.append_assoc] at htext
  refine ⟨⟨hafter.position, before ++ token.lexeme.toList, ?_, ?_⟩, ?_⟩
  · rw [List.append_assoc]
    exact htext
  · rw [hstop, hplace]
  · rw [hstart, hplace, htext]
    have hoffset : (Position.ofText (before ++ token.lexeme.toList)).offset =
        Utf8.size before + Utf8.size token.lexeme.toList := Utf8.size_append _ _
    rw [hoffset]
    exact Utf8.slice?_append _ _ _

/-- What the cursor finds before its position is what has been read. -/
theorem Within.cursor_slice (h : lexer.Within text) :
    ∃ before, lexer.position = .ofText (before ++ lexer.pending.reverse) ∧
      (lexer.cursor text).slice 0 lexer.position.offset = .ok (before ++ lexer.pending.reverse) := by
  obtain ⟨before, htext, -, hposition⟩ := h.exists_position
  have hpart := Utf8.slice?_append [] (before ++ lexer.pending.reverse) lexer.rest
  rw [Utf8.size_nil, Nat.zero_add, List.nil_append, List.append_assoc before, ← htext] at hpart
  refine ⟨before, hposition, Cursor.slice_of ?_⟩
  rw [hposition]
  exact hpart

/-- A character that is kept back is the carriage return just read, so the cursor finds where the token
stops. -/
theorem Within.cursor_stop (h : lexer.Within text) (kind : Kind) {keepsLast : Bool}
    (hk : keepsLast = true → lexer.pending.head? = some '\r') :
    (lexer.cursor text).stop keepsLast = .ok (lexer.emit kind keepsLast).1.stop := by
  cases keepsLast with
  | false => rfl
  | true =>
    obtain ⟨pending, hp⟩ := List.head?_eq_some_iff.mp (hk rfl)
    obtain ⟨before, hposition, hslice⟩ := h.cursor_slice
    rw [hp, List.reverse_cons, ← List.append_assoc] at hposition hslice
    have hreturn : (before ++ pending.reverse ++ ['\r']).getLast? = some '\r' := List.getLast?_concat
    have hretreat : lexer.position.retreat? '\r' = .ok (lexer.position.retreat '\r') := by
      rw [hposition]
      exact Position.retreat?_ofText _ (by decide)
    have hstop : (lexer.emit kind true).1.stop = lexer.position.retreat '\r' := by
      unfold Lexer.emit
      rw [hp]
      rfl
    have hat : (lexer.cursor text).position = lexer.position := rfl
    rw [hstop, Cursor.stop, if_pos rfl, hat, hslice, hretreat]
    show (if _ then _ else _) = _
    rw [if_pos hreturn]
    rfl

theorem Within.cursor_cut (h : lexer.Within text) (kind : Kind) {keepsLast : Bool}
    (hk : keepsLast = true → lexer.pending.head? = some '\r') :
    (lexer.cursor text).cut kind (lexer.emit kind keepsLast).1.stop =
      .ok ((lexer.emit kind keepsLast).1, (lexer.emit kind keepsLast).2.cursor text) := by
  obtain ⟨-, hslice⟩ := h.emit kind hk
  have hpart : (lexer.cursor text).slice lexer.start.offset (lexer.emit kind keepsLast).1.stop.offset =
      .ok (lexer.emit kind keepsLast).1.lexeme.toList := Cursor.slice_of hslice
  have htoken : (lexer.emit kind keepsLast).1 =
      ⟨kind, (lexer.emit kind keepsLast).1.lexeme, lexer.source, lexer.filename, lexer.start,
        (lexer.emit kind keepsLast).1.stop⟩ := by
    unfold Lexer.emit
    split <;> rfl
  have hcursor : (lexer.emit kind keepsLast).2.cursor text =
      { lexer.cursor text with start := (lexer.emit kind keepsLast).1.stop } := by
    unfold Lexer.emit
    split <;> rfl
  rw [hcursor]
  conv => rhs; rw [htoken]
  rw [Cursor.cut, show (lexer.cursor text).start = lexer.start from rfl, hpart]
  show Except.ok _ = _
  rw [String.ofList_toList]
  rfl

structure Ready (text : List Char) (lexer : Lexer) : Prop extends Within text lexer where
  atReturn : lexer.AtReturn

theorem ready_ofChars (text : List Char) (filename : String) (source : Option Nat) :
    (ofChars text filename source).Ready text :=
  ⟨within_ofChars text filename source, nofun⟩

theorem Ready.mark (h : lexer.Ready text) (source : Nat) : (lexer.mark source).Ready text :=
  ⟨h.toWithin.mark source, h.atReturn⟩

/-- What a comment gives back is the carriage return that has just been read. -/
theorem Ready.head_pending (h : lexer.Ready text)
    (hk : keepsReturn lexer.mode lexer.change.next = true) :
    lexer.changed.pending.head? = some '\r' := by
  apply h.atReturn.head_pending
  simp only [keepsReturn, Bool.and_eq_true, beq_iff_eq] at hk
  exact hk.1

theorem Ready.round (h : lexer.Ready text) : lexer.round.2.Ready text := by
  have hc : lexer.changed.Within text := h.read.changed
  suffices hw : lexer.round.2.Within text from ⟨hw, .round⟩
  unfold Lexer.round
  dsimp only
  split
  · exact (hc.emit lexer.change.kind h.head_pending).1
  · exact hc

theorem Ready.next (h : lexer.Ready text) : lexer.next.2.Ready text := by
  fun_induction Lexer.next lexer with
  | case1 lexer token hround => exact h.round
  | case2 lexer hn ih => exact ih h.round

/-- One round: nothing stops the cursor, and it does as the lexer. -/
theorem Ready.cursor_round (h : lexer.Ready text) (ht : Utf8.size text ≤ Utf8.maxSize) :
    (lexer.cursor text).round = .ok (lexer.round.1, lexer.round.2.cursor text) ∧
      lexer.round.2.Ready text := by
  have hc : lexer.changed.Within text := h.read.changed
  have hread := h.cursor_read ht
  refine ⟨?_, h.round⟩
  unfold Lexer.round
  dsimp only
  split
  · next emits =>
    have hstop := hc.cursor_stop lexer.change.kind h.head_pending
    have hcut := hc.cursor_cut lexer.change.kind h.head_pending
    exact Cursor.round_of_emits hread rfl emits hstop hcut
  · next waits => exact Cursor.round_of_waits hread rfl (by simpa using waits)

theorem Ready.cursor_next (h : lexer.Ready text) (ht : Utf8.size text ≤ Utf8.maxSize) :
    (lexer.cursor text).next = .ok (lexer.next.1, lexer.next.2.cursor text) ∧
      lexer.next.2.Ready text := by
  fun_induction Lexer.next lexer with
  | case1 lexer token hround =>
    obtain ⟨hc, hready⟩ := h.cursor_round ht
    rw [hround] at hc
    exact ⟨Cursor.next_of_some hc, hready⟩
  | case2 lexer hn ih =>
    obtain ⟨hc, hready⟩ := h.cursor_round ht
    rw [hn] at hc
    rw [Cursor.next_of_none hc]
    exact ih hready

end Lexer

namespace Checker

def onCursor (text : List Char) (checker : Checker Lexer) : Checker Cursor :=
  ⟨checker.waiting, checker.stream.cursor text⟩

variable {text : List Char}

/-- Token after token up to an answer. The end is accepted only when nothing waits, whatever the checker
has been left with. -/
theorem cursor_checkWithin (ht : Utf8.size text ≤ Utf8.maxSize) {n : Nat} {read : List Token}
    {checker after : Checker Lexer} {answer : Answer} (h : checker.stream.Ready text)
    (hc : checkWithin n read checker = some (answer, after)) :
    Cursor.check (checker.onCursor text) = .ok (answer.token, after.onCursor text) ∧
      after.stream.Ready text := by
  induction n generalizing read checker with
  | zero => cases hc
  | succ n ih =>
    obtain ⟨hnext, hready⟩ := h.cursor_next ht
    have hstream : (checker.onCursor text).stream.next =
        .ok (checker.stream.next.1, checker.stream.next.2.cursor text) := hnext
    rw [Cursor.check_eq hstream]
    simp only [checkWithin, TokenStream.next, TokenStream.rules] at hc
    simp only [onCursor]
    cases hj : Rules.standard.judge checker.waiting checker.stream.next.1 with
    | proceed waiting =>
      rw [hj] at hc
      exact ih hready hc
    | balanced =>
      rw [hj] at hc
      cases hc
      have hempty : checker.waiting.isEmpty = true := by
        rw [Rules.eq_nil_of_judge_eq_balanced hj]
        rfl
      exact ⟨if_pos hempty, hready⟩
    | unbalanced culprit waiting =>
      rw [hj] at hc
      cases hc
      exact ⟨rfl, hready⟩

theorem cursor_check (ht : Utf8.size text ≤ Utf8.maxSize) {checker : Checker Lexer}
    (h : checker.stream.Ready text) :
    Cursor.check (checker.onCursor text) =
        .ok (checker.check.1.token, checker.check.2.onCursor text) ∧
      checker.check.2.stream.Ready text :=
  cursor_checkWithin ht h checker.check?_eq

theorem cursor_checks (ht : Utf8.size text ≤ Utf8.maxSize) (calls : Nat) {checker : Checker Lexer}
    (h : checker.stream.Ready text) :
    Cursor.checks calls (checker.onCursor text) =
        .ok ((checker.checks calls).1.map Answer.token, (checker.checks calls).2.onCursor text) ∧
      (checker.checks calls).2.stream.Ready text := by
  induction calls generalizing checker with
  | zero => exact ⟨rfl, h⟩
  | succ calls ih =>
    obtain ⟨hcheck, hready⟩ := cursor_check ht h
    obtain ⟨hchecks, hlast⟩ := ih hready
    rw [checks, check?_eq]
    refine ⟨?_, hlast⟩
    rw [Cursor.checks, hcheck]
    show Cursor.checks calls _ >>= _ = _
    rw [hchecks]
    rfl

end Checker

namespace Cursor

theorem perform_eq_ok {text : List Char} (ht : Utf8.size text ≤ Utf8.maxSize) {lexer : Lexer}
    (h : lexer.Ready text) (operation : Operation) :
    (lexer.cursor text).perform operation =
        .ok ((operation.perform lexer).answers, (operation.perform lexer).lexer.cursor text) ∧
      (operation.perform lexer).lexer.Ready text := by
  cases operation with
  | next =>
    obtain ⟨hnext, hready⟩ := h.cursor_next ht
    refine ⟨?_, hready⟩
    rw [perform, hnext]
    rfl
  | check calls =>
    have hfresh : (Checker.fresh lexer).stream.Ready text := h
    obtain ⟨hchecks, hready⟩ := Checker.cursor_checks ht calls hfresh
    refine ⟨?_, hready⟩
    show checks calls ((Checker.fresh lexer).onCursor text) >>= _ = _
    rw [hchecks]
    rfl
  | mark source => exact ⟨rfl, h.mark source⟩

theorem performAll_eq_ok {text : List Char} (ht : Utf8.size text ≤ Utf8.maxSize) {lexer : Lexer}
    (h : lexer.Ready text) (operations : List Operation) :
    (lexer.cursor text).performAll operations =
      .ok ((Operation.performAll lexer operations).map Outcome.answers) := by
  induction operations generalizing lexer with
  | nil => rfl
  | cons operation operations ih =>
    obtain ⟨hperform, hready⟩ := perform_eq_ok ht h operation
    rw [performAll, hperform]
    show performAll _ operations >>= _ = _
    rw [ih hready]
    rfl

/-- No operation on a text that a machine can hold breaks off. -/
theorem never_panics (text : List Char) (filename : String) (source : Option Nat)
    (operations : List Operation) (ht : Utf8.size text ≤ Utf8.maxSize) :
    (ofChars text filename source).performAll operations =
      .ok ((Operation.performAll (Lexer.ofChars text filename source) operations).map
        Outcome.answers) :=
  performAll_eq_ok ht (Lexer.ready_ofChars text filename source) operations

/-- A comment that gives its carriage return back, a change of source, and a string that stays open. -/
theorem never_panics_return :
    let text := [';', 'é', '\r', '\n', '"', ')']
    let operations : List Operation := [.next, .mark 1, .next, .check 2]
    Utf8.size text ≤ Utf8.maxSize ∧
      (ofChars text "" none).performAll operations =
        .ok [[⟨.comment, ";é", none, "", ⟨1, 1, 0⟩, ⟨1, 3, 3⟩⟩],
          [],
          [⟨.whitespace, "\r\n", some 1, "", ⟨1, 3, 3⟩, ⟨2, 1, 5⟩⟩],
          [⟨.quote, "\"", some 1, "", ⟨2, 1, 5⟩, ⟨2, 2, 6⟩⟩,
            ⟨.endOfText, "", some 1, "", ⟨2, 3, 7⟩, ⟨2, 3, 7⟩⟩]] := by
  intro text operations
  have ht : Utf8.size text ≤ Utf8.maxSize := by decide
  have hrun := never_panics text "" none operations ht
  exact ⟨ht, hrun.trans (congrArg Except.ok (by decide +kernel))⟩

end Cursor

end BracketBalance
