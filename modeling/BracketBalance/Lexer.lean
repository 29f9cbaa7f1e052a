import BracketBalance.Lexer.Mode
import BracketBalance.Token

namespace BracketBalance

structure Lexer where
  mode : Mode
  rest : List Char
  /-- What has been read since the last token, the last character first. -/
  pending : List Char
  /-- Where the pending characters begin. -/
  start : Position
  position : Position
  filename : String
  source : Option Nat
  deriving DecidableEq, Repr, Inhabited

namespace Lexer

def ofChars (text : List Char) (filename : String) (source : Option Nat) : Lexer where
  mode := .start
  rest := text
  pending := []
  start := .origin
  position := .origin
  filename := filename
  source := source

def mark (lexer : Lexer) (source : Nat) : Lexer :=
  { lexer with source := some source }

/-- Reads a character, if one is left; nothing is read before the first token has begun and after the
last one has ended. -/
def read (lexer : Lexer) : Option Char × Lexer :=
  match lexer.mode, lexer.rest with
  | .start, _ | .finished, _ | _, [] => (none, lexer)
  | _, c :: rest =>
    (some c, { lexer with
      rest := rest
      pending := c :: lexer.pending
      position := lexer.position.advance c })

def change (lexer : Lexer) : Transition :=
  lexer.mode.transition lexer.read.1 lexer.read.2.rest.head?

def changed (lexer : Lexer) : Lexer :=
  { lexer.read.2 with mode := lexer.change.next }

/-- Makes a token of a stretch of text that ends at a place, and begins the next token there with what
is kept back. -/
def cut (lexer : Lexer) (kind : Kind) (lexeme kept : List Char) (stop : Position) : Token × Lexer :=
  ({ kind := kind
     lexeme := String.ofList lexeme.reverse
     source := lexer.source
     filename := lexer.filename
     start := lexer.start
     stop := stop },
   { lexer with pending := kept, start := stop })

/-- Makes a token of the pending characters, or of all but the last if that one is to be kept. -/
def emit (lexer : Lexer) (kind : Kind) (keepsLast : Bool) : Token × Lexer :=
  match keepsLast, lexer.pending with
  | true, c :: before => lexer.cut kind before [c] (lexer.position.retreat c)
  | _, pending => lexer.cut kind pending [] lexer.position

/-- A carriage return at the end of a comment belongs to the line break after it. -/
def keepsReturn (mode next : Mode) : Bool :=
  mode == .commentReturn && next == .whitespace

/-- Reads one character at most, and gives a token if one is complete. -/
def round (lexer : Lexer) : Option Token × Lexer :=
  let change := lexer.change
  if change.emits then
    let (token, after) := lexer.changed.emit change.kind (keepsReturn lexer.mode change.next)
    (some token, after)
  else (none, lexer.changed)

/-- A bound on the rounds up to the end of the text. -/
def work (lexer : Lexer) : Nat :=
  lexer.rest.length +
    match lexer.mode with
    | .start => 2
    | .finished => 0
    | _ => 1

@[simp] theorem emit_rest (lexer : Lexer) (kind : Kind) (keepsLast : Bool) :
    (lexer.emit kind keepsLast).2.rest = lexer.rest := by
  unfold emit
  split <;> rfl

@[simp] theorem emit_mode (lexer : Lexer) (kind : Kind) (keepsLast : Bool) :
    (lexer.emit kind keepsLast).2.mode = lexer.mode := by
  unfold emit
  split <;> rfl

@[simp] theorem emit_kind (lexer : Lexer) (kind : Kind) (keepsLast : Bool) :
    (lexer.emit kind keepsLast).1.kind = kind := by
  unfold emit
  split <;> rfl

theorem read_of_reading {lexer : Lexer} {c : Char} {rest : List Char} (hr : lexer.rest = c :: rest)
    (hs : lexer.mode ≠ .start) (hf : lexer.mode ≠ .finished) :
    lexer.read = (some c, { lexer with
      rest := rest
      pending := c :: lexer.pending
      position := lexer.position.advance c }) := by
  unfold read
  rw [hr]
  cases hm : lexer.mode <;> first | rfl | contradiction

theorem read_of_start {lexer : Lexer} (h : lexer.mode = .start) : lexer.read = (none, lexer) := by
  unfold read
  rw [h]

theorem read_of_finished {lexer : Lexer} (h : lexer.mode = .finished) :
    lexer.read = (none, lexer) := by
  unfold read
  rw [h]

theorem read_of_rest_eq_nil {lexer : Lexer} (h : lexer.rest = []) : lexer.read = (none, lexer) := by
  unfold read
  rw [h]
  cases lexer.mode <;> rfl

@[simp] theorem round_rest (lexer : Lexer) : lexer.round.2.rest = lexer.read.2.rest := by
  unfold round
  simp only
  split
  · exact emit_rest _ _ _
  · rfl

@[simp] theorem round_mode (lexer : Lexer) : lexer.round.2.mode = lexer.change.next := by
  unfold round
  simp only
  split
  · exact emit_mode _ _ _
  · rfl

theorem round_eq_none_iff {lexer : Lexer} : lexer.round.1 = none ↔ lexer.change.emits = false := by
  unfold round
  simp only
  split <;> simp_all

theorem round_kind {lexer : Lexer} {token : Token} (h : lexer.round.1 = some token) :
    token.kind = lexer.change.kind := by
  unfold round at h
  simp only at h
  split at h
  · cases h
    exact emit_kind _ _ _
  · cases h

theorem change_next_ne_start (lexer : Lexer) : lexer.change.next ≠ .start :=
  Mode.transition_next_ne_start _ _ _

theorem round_mode_ne_start (lexer : Lexer) : lexer.round.2.mode ≠ .start := by
  rw [round_mode]
  exact lexer.change_next_ne_start

theorem change_next_eq_finished_iff {lexer : Lexer} :
    lexer.change.next = .finished ↔ lexer.read.2.rest = [] := by
  unfold change
  rw [Mode.transition_next_eq_finished_iff, List.head?_eq_none_iff]

theorem work_eq (lexer : Lexer) :
    lexer.work = lexer.rest.length +
      (if lexer.mode = .start then 2 else if lexer.mode = .finished then 0 else 1) := by
  unfold work
  cases lexer.mode <;> rfl

/-- Every round lowers the work, but for those at the end. -/
theorem round_work {lexer : Lexer} (h : lexer.mode ≠ .finished) :
    lexer.round.2.work < lexer.work := by
  have hn := lexer.change_next_ne_start
  have hf := lexer.change_next_eq_finished_iff
  simp only [work_eq, round_rest, round_mode, hn, hf, h, if_false]
  by_cases hs : lexer.mode = .start
  · rw [read_of_start hs]
    split <;> simp_all
  · cases hr : lexer.rest with
    | nil => simp [read_of_rest_eq_nil hr, hr, hs]
    | cons c rest =>
      rw [read_of_reading hr hs h]
      split <;> simp_all

theorem change_emits_of_finished {lexer : Lexer} (h : lexer.mode = .finished) :
    lexer.change.emits = true ∧ lexer.change.kind = .endOfText := by
  simp [change, h, Mode.transition]

theorem change_emits_of_start {lexer : Lexer} (h : lexer.mode = .start) :
    lexer.change.emits = false := by
  simp [change, h, Mode.transition]

theorem round_of_start {lexer : Lexer} (h : lexer.mode = .start) : lexer.round.1 = none :=
  round_eq_none_iff.mpr (change_emits_of_start h)

theorem mode_ne_finished_of_none {lexer : Lexer} (h : lexer.round.1 = none) :
    lexer.mode ≠ .finished := by
  intro hf
  have he := (change_emits_of_finished hf).1
  rw [round_eq_none_iff.mp h] at he
  cases he

theorem round_work_of_none {lexer : Lexer} (h : lexer.round.1 = none) :
    lexer.round.2.work < lexer.work :=
  round_work (mode_ne_finished_of_none h)

def next (lexer : Lexer) : Token × Lexer :=
  match _ : lexer.round.1 with
  | some token => (token, lexer.round.2)
  | none => next lexer.round.2
termination_by lexer.work
decreasing_by exact round_work_of_none ‹_›

theorem next_of_some {lexer : Lexer} {token : Token} (h : lexer.round.1 = some token) :
    lexer.next = (token, lexer.round.2) := by
  rw [next]
  split <;> simp_all

theorem next_of_none {lexer : Lexer} (h : lexer.round.1 = none) :
    lexer.next = lexer.round.2.next := by
  rw [next]
  split <;> simp_all

/-- Every token but the end lowers the work. -/
theorem next_work {lexer : Lexer} (h : lexer.next.1.isEnd = false) :
    lexer.next.2.work < lexer.work := by
  fun_induction next lexer with
  | case1 lexer token ht =>
    apply round_work
    intro hf
    have hk := (round_kind ht).trans (change_emits_of_finished hf).2
    simp [Token.isEnd, hk] at h
  | case2 lexer hn ih => exact Nat.lt_trans (ih h) (round_work_of_none hn)

structure Reading where
  tokens : List Token
  last : Token
  lexer : Lexer
  deriving DecidableEq, Repr

def drain (lexer : Lexer) : Reading :=
  let step := lexer.next
  if _ : step.1.isEnd = false then
    let more := drain step.2
    { more with tokens := step.1 :: more.tokens }
  else ⟨[], step.1, step.2⟩
termination_by lexer.work
decreasing_by exact next_work ‹_›

def take : Nat → Lexer → List Token × Lexer
  | 0, lexer => ([], lexer)
  | n + 1, lexer =>
    let (token, after) := lexer.next
    let (more, last) := take n after
    (token :: more, last)

end Lexer

end BracketBalance
