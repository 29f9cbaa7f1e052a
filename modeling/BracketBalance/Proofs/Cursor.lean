import BracketBalance.Operation
import BracketBalance.Proofs.Places

namespace BracketBalance

namespace Utf8

/-- The offset lies before, between or after the characters of a text, and not within one or beyond. -/
def IsBoundary (n : Nat) (text : List Char) : Prop :=
  size (take n text) = n

instance (n : Nat) (text : List Char) : Decidable (IsBoundary n text) :=
  inferInstanceAs (Decidable (_ = _))

def slice? (start stop : Nat) (text : List Char) : Option (List Char) :=
  if start ≤ stop ∧ IsBoundary start text ∧ IsBoundary stop text then some (slice start stop text)
  else none

end Utf8

inductive Panic
  | fault (fault : Position.Fault)
  /-- No part of the text begins and ends at these offsets. -/
  | badSlice (start stop : Nat)
  /-- A comment is to give back a carriage return that the text does not have there. -/
  | noReturn
  | unclosed (count : Nat)
  deriving DecidableEq, Repr

/-- What goes on to the end has gone on at every step. -/
theorem Panic.bind_eq_ok {α β : Type} {result : Except Panic α} {next : α → Except Panic β} {b : β}
    (h : result >>= next = .ok b) : ∃ a, result = .ok a ∧ next a = .ok b := by
  cases result with
  | error panic => cases h
  | ok a => exact ⟨a, rfl, h⟩

theorem Lexer.map_kind_round (lexer : Lexer) : lexer.round.1.map Token.kind =
    if lexer.change.emits then some lexer.change.kind else none := by
  unfold Lexer.round
  dsimp only
  split
  · rw [Option.map_some, Lexer.emit_kind]
  · rfl

structure Cursor where
  text : List Char
  mode : Mode
  rest : List Char
  start : Position
  position : Position
  filename : String
  source : Option Nat
  deriving DecidableEq, Repr

namespace Cursor

def ofChars (text : List Char) (filename : String) (source : Option Nat) : Cursor where
  text := text
  mode := .start
  rest := text
  start := .origin
  position := .origin
  filename := filename
  source := source

def mark (cursor : Cursor) (source : Nat) : Cursor :=
  { cursor with source := some source }

def slice (cursor : Cursor) (start stop : Nat) : Except Panic (List Char) :=
  match Utf8.slice? start stop cursor.text with
  | some part => .ok part
  | none => .error (.badSlice start stop)

def read (cursor : Cursor) : Except Panic (Option Char × Cursor) :=
  match cursor.mode, cursor.rest with
  | .start, _ | .finished, _ | _, [] => .ok (none, cursor)
  | _, c :: rest => do
    let position ← (cursor.position.advance? c).mapError .fault
    return (some c, { cursor with rest := rest, position := position })

def stop (cursor : Cursor) (keepsLast : Bool) : Except Panic Position :=
  if keepsLast then do
    let before ← cursor.slice 0 cursor.position.offset
    if before.getLast? = some '\r' then (cursor.position.retreat? '\r').mapError .fault
    else .error .noReturn
  else .ok cursor.position

def cut (cursor : Cursor) (kind : Kind) (stop : Position) : Except Panic (Token × Cursor) := do
  let lexeme ← cursor.slice cursor.start.offset stop.offset
  let token := {
    kind := kind
    lexeme := String.ofList lexeme
    source := cursor.source
    filename := cursor.filename
    start := cursor.start
    stop := stop }
  return (token, { cursor with start := stop })

def round (cursor : Cursor) : Except Panic (Option Token × Cursor) := do
  let (consumed, after) ← cursor.read
  let change := cursor.mode.transition consumed after.rest.head?
  let changed := { after with mode := change.next }
  if change.emits then
    let stop ← changed.stop (Lexer.keepsReturn cursor.mode change.next)
    let (token, after) ← changed.cut change.kind stop
    return (some token, after)
  else return (none, changed)

section

variable {cursor after last : Cursor} {consumed : Option Char} {change : Transition}

theorem slice_of {start stop : Nat} {part : List Char}
    (h : Utf8.slice? start stop cursor.text = some part) : cursor.slice start stop = .ok part := by
  rw [slice, h]

-- the first byte of a character of two
example : (ofChars ['é'] "" none).slice 0 1 = .error (.badSlice 0 1) := by decide

theorem round_of_waits (hr : cursor.read = .ok (consumed, after))
    (hc : cursor.mode.transition consumed after.rest.head? = change) (he : change.emits = false) :
    cursor.round = .ok (none, { after with mode := change.next }) := by
  rw [round, hr]
  show (if _ then _ else _) = _
  rw [hc, if_neg (by simp [he])]
  rfl

theorem round_of_emits {place : Position} {token : Token} (hr : cursor.read = .ok (consumed, after))
    (hc : cursor.mode.transition consumed after.rest.head? = change) (he : change.emits = true)
    (hs : stop { after with mode := change.next } (Lexer.keepsReturn cursor.mode change.next) =
      .ok place)
    (ht : cut { after with mode := change.next } change.kind place = .ok (token, last)) :
    cursor.round = .ok (some token, last) := by
  rw [round, hr]
  show (if _ then _ else _) = _
  rw [hc, if_pos he, hs]
  show cut _ _ _ >>= _ = _
  rw [ht]
  rfl

end

def lexer (cursor : Cursor) : Lexer where
  mode := cursor.mode
  rest := cursor.rest
  pending := []
  start := cursor.start
  position := cursor.position
  filename := cursor.filename
  source := cursor.source

variable {cursor after : Cursor}

theorem read_eq_ok {consumed : Option Char} (h : cursor.read = .ok (consumed, after)) :
    consumed = cursor.lexer.read.1 ∧ after.rest = cursor.lexer.read.2.rest := by
  obtain ⟨text, mode, rest, start, position, filename, source⟩ := cursor
  cases rest with
  | nil => cases mode <;> cases h <;> exact ⟨rfl, rfl⟩
  | cons c rest =>
    cases mode with
    | start | finished =>
      cases h
      exact ⟨rfl, rfl⟩
    | _ =>
      obtain ⟨place, -, hread⟩ := Panic.bind_eq_ok h
      cases hread
      exact ⟨rfl, rfl⟩

/-- A round of the cursor, if nothing stops it, leaves as much work as one of the lexer does, and ends a token
where that one does. -/
theorem round_eq_ok {token? : Option Token} (h : cursor.round = .ok (token?, after)) :
    after.lexer.work = cursor.lexer.round.2.work ∧
      token?.map Token.kind = cursor.lexer.round.1.map Token.kind := by
  obtain ⟨⟨consumed, reached⟩, hread, h⟩ := Panic.bind_eq_ok h
  obtain ⟨hc, hr⟩ := read_eq_ok hread
  have hchange : cursor.mode.transition consumed reached.rest.head? = cursor.lexer.change := by
    rw [hc, hr]
    rfl
  simp only [hchange] at h
  rw [Lexer.work_eq, Lexer.work_eq, Lexer.round_mode, Lexer.round_rest, ← hr,
    Lexer.map_kind_round]
  split at h
  · next emits =>
    obtain ⟨place, -, h⟩ := Panic.bind_eq_ok h
    obtain ⟨⟨token, last⟩, hcut, h⟩ := Panic.bind_eq_ok h
    obtain ⟨lexeme, -, hcut⟩ := Panic.bind_eq_ok hcut
    cases hcut
    cases h
    exact ⟨rfl, (if_pos emits).symm⟩
  · next waits =>
    cases h
    exact ⟨rfl, (if_neg waits).symm⟩

theorem round_work_of_none (h : cursor.round = .ok (none, after)) :
    after.lexer.work < cursor.lexer.work := by
  obtain ⟨hwork, hk⟩ := round_eq_ok h
  rw [hwork]
  exact Lexer.round_work_of_none (Option.map_eq_none_iff.mp hk.symm)

theorem round_work_of_token {token : Token} (h : cursor.round = .ok (some token, after))
    (he : token.isEnd = false) : after.lexer.work < cursor.lexer.work := by
  obtain ⟨hwork, hk⟩ := round_eq_ok h
  rw [hwork]
  apply Lexer.round_work
  intro hf
  obtain ⟨hemits, hkind⟩ := Lexer.change_emits_of_finished hf
  rw [Lexer.map_kind_round, if_pos hemits, hkind] at hk
  simp [Token.isEnd, Option.some.inj hk] at he

def next (cursor : Cursor) : Except Panic (Token × Cursor) :=
  match _ : cursor.round with
  | .error panic => .error panic
  | .ok (some token, after) => .ok (token, after)
  | .ok (none, after) => next after
termination_by cursor.lexer.work
decreasing_by exact round_work_of_none ‹_›

theorem next_of_some {token : Token} (h : cursor.round = .ok (some token, after)) :
    cursor.next = .ok (token, after) := by
  rw [next]
  split <;> simp_all

theorem next_of_none (h : cursor.round = .ok (none, after)) : cursor.next = after.next := by
  rw [next]
  split <;> simp_all

/-- Every token but the end lowers the work. -/
theorem next_work {token : Token} (h : cursor.next = .ok (token, after))
    (he : token.isEnd = false) : after.lexer.work < cursor.lexer.work := by
  fun_induction next cursor with
  | case1 => cases h
  | case2 cursor first last hround =>
    cases h
    exact round_work_of_token hround he
  | case3 cursor reached hround ih => exact Nat.lt_trans (ih h) (round_work_of_none hround)

/-- A check only goes on after a token that is not the end. -/
theorem next_work_of_proceed {token : Token} {waiting left : List Token}
    (h : cursor.next = .ok (token, after)) (hj : Rules.standard.judge waiting token = .proceed left) :
    after.lexer.work < cursor.lexer.work := by
  cases he : token.isEnd with
  | true => exact absurd hj (Rules.judge_standard_end he)
  | false => exact next_work h he

def check (checker : Checker Cursor) : Except Panic (Token × Checker Cursor) :=
  match _ : checker.stream.next with
  | .error panic => .error panic
  | .ok (token, after) =>
    match _ : Rules.standard.judge checker.waiting token with
    | .proceed waiting => check ⟨waiting, after⟩
    | .balanced =>
      if checker.waiting.isEmpty then .ok (token, ⟨checker.waiting, after⟩)
      else .error (.unclosed checker.waiting.length)
    | .unbalanced culprit waiting => .ok (culprit, ⟨waiting, after⟩)
termination_by checker.stream.lexer.work
decreasing_by exact next_work_of_proceed ‹_› ‹_›

theorem check_eq {checker : Checker Cursor} {token : Token}
    (h : checker.stream.next = .ok (token, after)) :
    check checker =
      match Rules.standard.judge checker.waiting token with
      | .proceed waiting => check ⟨waiting, after⟩
      | .balanced =>
        if checker.waiting.isEmpty then .ok (token, ⟨checker.waiting, after⟩)
        else .error (.unclosed checker.waiting.length)
      | .unbalanced culprit waiting => .ok (culprit, ⟨waiting, after⟩) := by
  rw [check]
  split
  · next panic hp =>
    rw [hp] at h
    cases h
  · next read reached hn =>
    rw [hn] at h
    cases h
    split <;> simp_all

def checks : Nat → Checker Cursor → Except Panic (List Token × Checker Cursor)
  | 0, checker => .ok ([], checker)
  | n + 1, checker => do
    let (answer, after) ← check checker
    let (more, last) ← checks n after
    return (answer :: more, last)

def perform (cursor : Cursor) : Operation → Except Panic (List Token × Cursor)
  | .next => do
    let (token, after) ← cursor.next
    return ([token], after)
  | .check calls => do
    let (answers, after) ← checks calls (Checker.fresh cursor)
    return (answers, after.stream)
  | .mark source => return ([], cursor.mark source)

def performAll (cursor : Cursor) : List Operation → Except Panic (List (List Token))
  | [] => .ok []
  | operation :: operations => do
    let (answers, after) ← cursor.perform operation
    let more ← after.performAll operations
    return answers :: more

end Cursor

end BracketBalance
