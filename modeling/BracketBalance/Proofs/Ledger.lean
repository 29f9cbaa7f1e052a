import BracketBalance.Proofs.Balanced

namespace BracketBalance

inductive Fate
  | settled
  | waiting
  | reported
  deriving DecidableEq, Repr

structure Entry where
  token : Token
  fate : Fate
  deriving DecidableEq, Repr

abbrev Ledger := List Entry

namespace Ledger

def read (ledger : Ledger) : List Token :=
  ledger.reverse.map Entry.token

def waiting (ledger : Ledger) : List Token :=
  (ledger.filter (fun entry => entry.fate = .waiting)).map Entry.token

def reported (ledger : Ledger) : List Token :=
  (ledger.reverse.filter (fun entry => entry.fate = .reported)).map Entry.token

def kept (ledger : Ledger) : List Token :=
  (ledger.reverse.filter (fun entry => entry.fate ≠ .reported)).map Entry.token

/-- The last token that waits meets another fate. -/
def resolve (fate : Fate) : Ledger → Ledger
  | [] => []
  | entry :: older =>
    if entry.fate = .waiting then ⟨entry.token, fate⟩ :: older else entry :: resolve fate older

@[simp] theorem waiting_append (newer older : Ledger) :
    waiting (newer ++ older) = waiting newer ++ waiting older := by
  simp [waiting]

@[simp] theorem kept_append (newer older : Ledger) :
    kept (newer ++ older) = kept older ++ kept newer := by
  simp [kept]

@[simp] theorem waiting_cons_waiting (token : Token) (ledger : Ledger) :
    waiting (⟨token, .waiting⟩ :: ledger) = token :: waiting ledger := by
  simp [waiting]

theorem waiting_cons_of_ne {fate : Fate} (h : fate ≠ .waiting) (token : Token) (ledger : Ledger) :
    waiting (⟨token, fate⟩ :: ledger) = waiting ledger := by
  simp [waiting, h]

theorem resolve_append {newer : Ledger} (h : newer.waiting = []) (fate : Fate) (token : Token)
    (older : Ledger) :
    resolve fate (newer ++ ⟨token, .waiting⟩ :: older) = newer ++ ⟨token, fate⟩ :: older := by
  induction newer with
  | nil => simp [resolve]
  | cons entry newer ih =>
    obtain ⟨other, state⟩ := entry
    by_cases hs : state = .waiting
    · subst hs
      simp at h
    · rw [waiting_cons_of_ne hs] at h
      simp [resolve, hs, ih h]

end Ledger

namespace Rules

variable {rules : Rules}

def enter (rules : Rules) (ledger : Ledger) (token : Token) : Ledger :=
  match rules.action ledger.waiting token with
  | .pass => ⟨token, .settled⟩ :: ledger
  | .push => ⟨token, .waiting⟩ :: ledger
  | .pop => ⟨token, .settled⟩ :: ledger.resolve .settled
  | .report =>
    if rules.ends token.kind then ⟨token, .settled⟩ :: ledger.resolve .reported
    else ⟨token, .reported⟩ :: ledger

def ledger (rules : Rules) (tokens : List Token) : Ledger :=
  tokens.foldl rules.enter []

/-- Between the entries that wait, before and after them, what has not been reported is balanced. -/
inductive Accounted (rules : Rules) : Ledger → Prop
  | base {ledger : Ledger} (quiet : ledger.waiting = [])
      (inside : rules.Balanced (ledger.kept.map Token.kind)) : Accounted rules ledger
  | opener {newer older : Ledger} {token : Token} (rest : Accounted rules older)
      (opens : rules.opens token.kind = true) (quiet : newer.waiting = [])
      (inside : rules.Balanced (newer.kept.map Token.kind)) :
      Accounted rules (newer ++ ⟨token, .waiting⟩ :: older)

theorem Accounted.factors {ledger : Ledger} (h : rules.Accounted ledger) :
    rules.Factors ledger.kept ledger.waiting := by
  induction h with
  | base quiet inside =>
    rw [quiet]
    exact .base inside
  | @opener newer older token rest opens quiet inside ih =>
    have hk : Ledger.kept (newer ++ ⟨token, .waiting⟩ :: older) = older.kept ++ token :: newer.kept := by
      simp [Ledger.kept]
    rw [Ledger.waiting_append, quiet, Ledger.waiting_cons_waiting, hk]
    exact ih.opener opens inside

theorem Accounted.append {newer ledger : Ledger} (h : rules.Accounted ledger)
    (quiet : newer.waiting = []) (inside : rules.Balanced (newer.kept.map Token.kind)) :
    rules.Accounted (newer ++ ledger) := by
  cases h with
  | base hn hi =>
    apply Accounted.base
    · simp [quiet, hn]
    · rw [Ledger.kept_append, List.map_append]
      exact hi.append inside
  | opener rest opens hn hi =>
    rw [← List.append_assoc]
    apply Accounted.opener rest opens
    · simp [quiet, hn]
    · rw [Ledger.kept_append, List.map_append]
      exact hi.append inside

/-- The last entry that waits, with the newer and the older ones. -/
theorem Accounted.split {ledger : Ledger} {top : Token} {below : List Token}
    (h : rules.Accounted ledger) (hw : ledger.waiting = top :: below) :
    ∃ newer older : Ledger, ledger = newer ++ ⟨top, .waiting⟩ :: older ∧ rules.Accounted older ∧
      rules.opens top.kind = true ∧ newer.waiting = [] ∧ older.waiting = below ∧
      rules.Balanced (newer.kept.map Token.kind) := by
  cases h with
  | base quiet _ => simp [quiet] at hw
  | opener rest opens quiet inside =>
    simp only [Ledger.waiting_append, quiet, Ledger.waiting_cons_waiting, List.nil_append,
      List.cons.injEq] at hw
    obtain ⟨rfl, rfl⟩ := hw
    exact ⟨_, _, rfl, rest, opens, quiet, rfl, inside⟩

theorem Accounted.settle {ledger : Ledger} {token : Token} (h : rules.Accounted ledger)
    (opens : rules.opens token.kind = false) (closes : rules.closes token.kind = false) :
    rules.Accounted (⟨token, .settled⟩ :: ledger) := by
  have quiet : Ledger.waiting [⟨token, .settled⟩] = [] := rfl
  exact h.append quiet (.neutral opens closes)

/-- What is reported leaves no trace in what is kept. -/
theorem Accounted.reject {ledger : Ledger} (h : rules.Accounted ledger) (token : Token) :
    rules.Accounted (⟨token, .reported⟩ :: ledger) := by
  have quiet : Ledger.waiting [⟨token, .reported⟩] = [] := rfl
  exact h.append quiet .nil

theorem Accounted.push {ledger : Ledger} {token : Token} (h : rules.Accounted ledger)
    (opens : rules.opens token.kind = true) : rules.Accounted (⟨token, .waiting⟩ :: ledger) := by
  have quiet : Ledger.waiting [] = [] := rfl
  exact h.opener opens quiet .nil

/-- The partner of the last token that waits settles both. -/
theorem Accounted.close {newer older : Ledger} {top token : Token} (rest : rules.Accounted older)
    (opens : rules.opens top.kind = true) (quiet : newer.waiting = [])
    (inside : rules.Balanced (newer.kept.map Token.kind)) (closes : rules.closes token.kind = true)
    (pairs : rules.pairs top.kind token.kind = true) :
    rules.Accounted (⟨token, .settled⟩ :: (newer ++ ⟨top, .settled⟩ :: older)) := by
  have hw : rules.Balanced (Ledger.kept (⟨token, .settled⟩ :: newer ++ [⟨top, .settled⟩]) |>.map
      Token.kind) := by
    simpa [Ledger.kept] using Balanced.wrap inside opens closes pairs
  have hn : Ledger.waiting (⟨token, .settled⟩ :: newer ++ [⟨top, .settled⟩]) = [] := by
    rw [Ledger.waiting_append, Ledger.waiting_cons_of_ne (by decide), quiet]
    rfl
  simpa using rest.append hn hw

/-- When the last token that waits is reported at the end, what stood around it comes together. -/
theorem Accounted.report {newer older : Ledger} {top token : Token} (rest : rules.Accounted older)
    (quiet : newer.waiting = []) (inside : rules.Balanced (newer.kept.map Token.kind))
    (opens : rules.opens token.kind = false) (closes : rules.closes token.kind = false) :
    rules.Accounted (⟨token, .settled⟩ :: (newer ++ ⟨top, .reported⟩ :: older)) := by
  exact ((rest.reject top).append quiet inside).settle opens closes

/-- One more token keeps the account. -/
theorem Accounted.enter (apart : rules.EndsApart) {ledger : Ledger} (h : rules.Accounted ledger)
    (token : Token) : rules.Accounted (rules.enter ledger token) := by
  have hj := rules.judged ledger.waiting token
  generalize hw : ledger.waiting = waiting at hj
  generalize rules.judge waiting token = verdict at hj
  cases hj with
  | pass acts opens closes _ | complete acts opens closes _ =>
    simp only [Rules.enter, hw, acts]
    exact h.settle opens closes
  | push acts opens _ =>
    simp only [Rules.enter, hw, acts]
    exact h.push opens
  | pop acts closes pairs =>
    obtain ⟨newer, older, rfl, rest, opens, quiet, -, inside⟩ := h.split hw
    simp only [Rules.enter, hw, acts, Ledger.resolve_append quiet]
    exact rest.close opens quiet inside closes pairs
  | stray acts _ closes _ _ =>
    have he := apart.not_ends (.inr closes)
    simp only [Rules.enter, hw, acts, he, Bool.false_eq_true, ↓reduceIte]
    exact h.reject token
  | unclosed acts _ _ ends =>
    obtain ⟨newer, older, rfl, rest, -, quiet, -, inside⟩ := h.split hw
    simp only [Rules.enter, hw, acts, ends, ↓reduceIte, Ledger.resolve_append quiet]
    exact rest.report quiet inside (apart _ ends).1 (apart _ ends).2

/-- The ledger follows the checker: the same tokens wait, and the same ones are reported. -/
theorem enter_follows (apart : rules.EndsApart) {ledger : Ledger} (h : rules.Accounted ledger)
    (token : Token) :
    (rules.enter ledger token).waiting =
        (rules.judge ledger.waiting token).waiting ledger.waiting ∧
      (rules.enter ledger token).read = ledger.read ++ [token] ∧
      (rules.enter ledger token).reported.Perm
        (ledger.reported ++ (rules.judge ledger.waiting token).culprit?.toList) ∧
      (rules.ends token.kind = false → (rules.enter ledger token).reported =
        ledger.reported ++ (rules.judge ledger.waiting token).culprit?.toList) := by
  have hj := rules.judged ledger.waiting token
  generalize hw : ledger.waiting = waiting at hj
  generalize rules.judge waiting token = verdict at hj
  cases hj with
  | pass acts | complete acts =>
    have hr : Ledger.reported (⟨token, .settled⟩ :: ledger) = ledger.reported := by
      simp [Ledger.reported]
    simp only [Rules.enter, hw, acts, hr, Verdict.culprit?, Option.toList_none, List.append_nil]
    exact ⟨hw, by simp [Ledger.read], .refl _, fun _ => trivial⟩
  | push acts =>
    have hr : Ledger.reported (⟨token, .waiting⟩ :: ledger) = ledger.reported := by
      simp [Ledger.reported]
    simp only [Rules.enter, hw, acts, hr, Verdict.culprit?, Option.toList_none, List.append_nil]
    exact ⟨by simp [hw, Verdict.waiting], by simp [Ledger.read], .refl _, fun _ => trivial⟩
  | @pop top _ acts =>
    obtain ⟨newer, older, rfl, -, -, quiet, hb, -⟩ := h.split hw
    have hr : Ledger.reported (⟨token, .settled⟩ :: (newer ++ ⟨top, .settled⟩ :: older)) =
        Ledger.reported (newer ++ ⟨top, .waiting⟩ :: older) := by
      simp [Ledger.reported]
    simp only [Rules.enter, hw, acts, Ledger.resolve_append quiet, hr, Verdict.culprit?,
      Option.toList_none, List.append_nil]
    exact ⟨by simp [Ledger.waiting_cons_of_ne, quiet, hb, Verdict.waiting], by simp [Ledger.read],
      .refl _, fun _ => trivial⟩
  | stray acts _ closes _ _ =>
    have he := apart.not_ends (.inr closes)
    have hr : Ledger.reported (⟨token, .reported⟩ :: ledger) = ledger.reported ++ [token] := by
      simp [Ledger.reported]
    simp only [Rules.enter, hw, acts, he, Bool.false_eq_true, ↓reduceIte, hr, Verdict.culprit?,
      Option.toList_some]
    exact ⟨by simp [Ledger.waiting_cons_of_ne, hw, Verdict.waiting], by simp [Ledger.read],
      .refl _, fun _ => trivial⟩
  | @unclosed top _ acts _ _ ends =>
    obtain ⟨newer, older, rfl, -, -, quiet, hb, -⟩ := h.split hw
    have hnew : Ledger.reported (⟨token, .settled⟩ :: (newer ++ ⟨top, .reported⟩ :: older)) =
        older.reported ++ top :: newer.reported := by
      simp [Ledger.reported]
    have hold : Ledger.reported (newer ++ ⟨top, .waiting⟩ :: older) =
        older.reported ++ newer.reported := by
      simp [Ledger.reported]
    simp only [Rules.enter, hw, acts, ends, ↓reduceIte, Ledger.resolve_append quiet, hnew, hold,
      Verdict.culprit?, Option.toList_some, List.append_assoc]
    refine ⟨by simp [Ledger.waiting_cons_of_ne, quiet, hb, Verdict.waiting], by simp [Ledger.read],
      ?_, nofun⟩
    exact (List.perm_append_singleton top newer.reported).symm.append_left older.reported

end Rules

end BracketBalance
