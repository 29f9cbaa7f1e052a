import BracketBalance.Operation
import BracketBalance.Proofs.Accounts
import BracketBalance.Proofs.Drain
import BracketBalance.Proofs.Unmatched

namespace BracketBalance

def Token.label (filename : String) (source : Option Nat) (token : Token) : Token :=
  { token with filename := filename, source := source }

def Lexer.label (filename : String) (source : Option Nat) (lexer : Lexer) : Lexer :=
  { lexer with filename := filename, source := source }

def Verdict.label (filename : String) (source : Option Nat) : Verdict → Verdict
  | proceed waiting => proceed (waiting.map (.label filename source))
  | balanced => balanced
  | unbalanced culprit waiting =>
    unbalanced (culprit.label filename source) (waiting.map (.label filename source))

def Answer.label (filename : String) (source : Option Nat) (answer : Answer) : Answer where
  token := answer.token.label filename source
  complaint := answer.complaint
  read := answer.read.map (.label filename source)

def Checker.label (filename : String) (source : Option Nat) (checker : Checker Lexer) :
    Checker Lexer where
  waiting := checker.waiting.map (.label filename source)
  stream := checker.stream.label filename source

def Outcome.label (filename : String) (source : Option Nat) (outcome : Outcome) : Outcome where
  answers := outcome.answers.map (.label filename source)
  taken := outcome.taken.map (.label filename source)
  lexer := outcome.lexer.label filename source

namespace Operation

def marking? : Operation → Option Nat
  | mark source => some source
  | next | check _ => none

/-- The source that has been marked last, if any has. -/
def latest (source : Option Nat) (operations : List Operation) : Option Nat :=
  (operations.filterMap marking?).getLast?.or source

def unmarked : Operation → Operation
  | mark _ => mark 0
  | operation => operation

end Operation

section

variable (filename : String) (source : Option Nat)

namespace Lexer

theorem read_label (lexer : Lexer) :
    (lexer.label filename source).read = (lexer.read.1, lexer.read.2.label filename source) := by
  obtain ⟨mode, rest, pending, start, position, name, mark⟩ := lexer
  cases mode <;> cases rest <;> rfl

theorem change_label (lexer : Lexer) : (lexer.label filename source).change = lexer.change := by
  rw [change, read_label]
  rfl

theorem changed_label (lexer : Lexer) :
    (lexer.label filename source).changed = lexer.changed.label filename source := by
  rw [changed, read_label, change_label]
  rfl

theorem emit_label (lexer : Lexer) (kind : Kind) (keepsLast : Bool) :
    (lexer.label filename source).emit kind keepsLast =
      ((lexer.emit kind keepsLast).1.label filename source,
        (lexer.emit kind keepsLast).2.label filename source) := by
  obtain ⟨mode, rest, pending, start, position, name, mark⟩ := lexer
  cases keepsLast <;> cases pending <;> rfl

/-- A round puts the labels on what it gives, and does not look at them. -/
theorem round_label (lexer : Lexer) :
    (lexer.label filename source).round =
      (lexer.round.1.map (.label filename source), lexer.round.2.label filename source) := by
  unfold round
  simp only [change_label, changed_label, emit_label]
  split <;> rfl

theorem next_label (lexer : Lexer) :
    (lexer.label filename source).next =
      (lexer.next.1.label filename source, lexer.next.2.label filename source) := by
  have hround := lexer.round_label filename source
  fun_induction next lexer with
  | case1 lexer token ht =>
    rw [ht] at hround
    rw [next_of_some (congrArg Prod.fst hround), hround]
  | case2 lexer hn ih =>
    rw [hn] at hround
    rw [next_of_none (congrArg Prod.fst hround), hround]
    exact ih (round_label filename source _)

variable {lexer : Lexer}

theorem Poised.after (h : lexer.Poised) (n : Nat) : (TokenStream.after n lexer).Poised := by
  induction n generalizing lexer with
  | zero => exact h
  | succ n ih => exact ih h.next

theorem Poised.label (h : lexer.Poised) : (lexer.label filename source).Poised :=
  ⟨h.start, h.finished, h.ends⟩

end Lexer

namespace TokenStream

theorem after_label (n : Nat) (lexer : Lexer) :
    after n (lexer.label filename source) = (after n lexer).label filename source := by
  induction n generalizing lexer with
  | zero => rfl
  | succ n ih =>
    have hnext : next (lexer.label filename source) = _ := lexer.next_label filename source
    rw [after, hnext]
    exact ih _

theorem firsts_label (n : Nat) (lexer : Lexer) :
    firsts n (lexer.label filename source) = (firsts n lexer).map (.label filename source) := by
  induction n generalizing lexer with
  | zero => rfl
  | succ n ih =>
    have hnext : next (lexer.label filename source) = _ := lexer.next_label filename source
    rw [firsts, hnext, firsts, List.map_cons, ← ih]
    rfl

end TokenStream

namespace Rules

theorem blame_label (rules : Rules) (waiting : List Token) (token : Token) :
    rules.blame (waiting.map (.label filename source)) (token.label filename source) =
      (rules.blame waiting token).label filename source := by
  cases waiting with
  | nil =>
    rw [List.map_nil, blame_nil, blame_nil]
    rfl
  | cons top below =>
    cases he : rules.ends token.kind with
    | true =>
      have hl : rules.ends (token.label filename source).kind = true := he
      rw [List.map_cons, blame_of_ends hl, blame_of_ends he]
      rfl
    | false =>
      have hl : rules.ends (token.label filename source).kind = false := he
      rw [blame_of_not_ends hl, blame_of_not_ends he]
      rfl

theorem judge_label (rules : Rules) (waiting : List Token) (token : Token) :
    rules.judge (waiting.map (.label filename source)) (token.label filename source) =
      (rules.judge waiting token).label filename source := by
  have hw : List.Forall₂ (fun a b : Token => a.kind = b.kind)
      (waiting.map (.label filename source)) waiting := by
    rw [List.forall₂_map_left_iff, List.forall₂_same]
    exact fun _ _ => rfl
  have ha : rules.action (waiting.map (.label filename source)) (token.label filename source) =
      rules.action waiting token := action_congr (fun _ _ h => h) hw rfl
  rw [judge_eq, judge_eq, ha]
  cases rules.action waiting token with
  | pass =>
    show (if rules.ends token.kind then _ else _) = Verdict.label _ _ (if _ then _ else _)
    split <;> rfl
  | pop =>
    show Verdict.proceed _ = .proceed _
    rw [List.map_tail]
  | push => rfl
  | report => exact rules.blame_label filename source waiting token

end Rules

theorem Event.ofCulprit_label (culprit : Token) (waiting : List Token) :
    ofCulprit (culprit.label filename source) (waiting.map (.label filename source)) =
      ofCulprit culprit waiting := by
  rw [ofCulprit, List.length_map]
  rfl

namespace Checker

/-- A check with other labels reads the same tokens and comes to the same answer. -/
theorem checkWithin_label (n : Nat) (read : List Token) (checker : Checker Lexer) :
    checkWithin n (read.map (.label filename source)) (checker.label filename source) =
      (checkWithin n read checker).map
        (Prod.map (.label filename source) (.label filename source)) := by
  induction n generalizing read checker with
  | zero => rfl
  | succ n ih =>
    have hnext : (checker.label filename source).stream.next = _ :=
      checker.stream.next_label filename source
    have hjudge : Rules.standard.judge (checker.label filename source).waiting _ = _ :=
      Rules.standard.judge_label filename source checker.waiting checker.stream.next.1
    simp only [checkWithin, TokenStream.next, TokenStream.rules, hnext, hjudge]
    cases Rules.standard.judge checker.waiting checker.stream.next.1 with
    | proceed waiting => exact ih (checker.stream.next.1 :: read) ⟨waiting, checker.stream.next.2⟩
    | balanced => rfl
    | unbalanced culprit waiting => simp [Verdict.label, Event.ofCulprit_label, Answer.label, Checker.label]

theorem patience_label (checker : Checker Lexer) :
    (checker.label filename source).patience = checker.patience := by
  simp only [patience, label, List.length_map]
  rfl

theorem checks_label (calls : Nat) (checker : Checker Lexer) :
    (checker.label filename source).checks calls =
      ((checker.checks calls).1.map (.label filename source),
        (checker.checks calls).2.label filename source) := by
  induction calls generalizing checker with
  | zero => rfl
  | succ calls ih =>
    have hcheck := checkWithin_label filename source checker.patience [] checker
    have hcalled : checkWithin checker.patience [] checker = some checker.check := checker.check?_eq
    rw [hcalled, ← patience_label filename source] at hcheck
    have hlabel : (checker.label filename source).check? = _ := hcheck
    simp only [checks, hlabel, check?_eq, Option.map_some, Prod.map, ih]
    rfl

end Checker

namespace Operation

/-- With other labels an operation goes the same way, and keeps the source that it marks. -/
theorem perform_label (operation : Operation) (lexer : Lexer) :
    operation.perform (lexer.label filename source) =
      (operation.perform lexer).label filename (operation.marking?.or source) := by
  cases operation with
  | next =>
    simp only [perform, lexer.next_label filename source]
    rfl
  | check calls =>
    have hchecks : (Checker.fresh (lexer.label filename source)).checks calls = _ :=
      (Checker.fresh lexer).checks_label filename source calls
    have hread : ∀ answer : Answer, (answer.label filename source).read.reverse =
        answer.read.reverse.map (.label filename source) := by
      intro answer
      exact List.map_reverse.symm
    simp only [perform, hchecks, Outcome.label, List.map_map, List.flatMap_map, List.map_flatMap, hread]
    rfl
  | mark id => rfl

/-- Operations that mark different sources, if any, do the same but for the labels. -/
theorem perform_unmarked {lexer lexer' : Lexer} {operation operation' : Operation}
    (hl : lexer.label filename source = lexer'.label filename source)
    (ho : operation.unmarked = operation'.unmarked) :
    (operation.perform lexer).label filename source =
      (operation'.perform lexer').label filename source := by
  have hsame : ∀ operation : Operation, operation.marking? = none →
      (operation.perform lexer).label filename source =
        (operation.perform lexer').label filename source := by
    intro operation hn
    have hleft := operation.perform_label filename source lexer
    have hright := operation.perform_label filename source lexer'
    rw [hn, Option.none_or] at hleft hright
    rw [← hleft, ← hright, hl]
  cases operation with
  | next =>
    cases operation' with
    | next => exact hsame next rfl
    | check _ | mark _ => cases ho
  | check calls =>
    cases operation' with
    | check _ =>
      cases ho
      exact hsame (check calls) rfl
    | next | mark _ => cases ho
  | mark id =>
    cases operation' with
    | mark _ => exact congrArg (Outcome.mk [] []) hl
    | next | check _ => cases ho

theorem latest_cons (source : Option Nat) (operation : Operation) (operations : List Operation) :
    latest source (operation :: operations) = latest (operation.marking?.or source) operations := by
  unfold latest
  cases operation with
  | next | check _ => rfl
  | mark id =>
    have hmark : (mark id :: operations).filterMap marking? = id :: operations.filterMap marking? := rfl
    rw [hmark, List.getLast?_cons]
    cases (operations.filterMap marking?).getLast? <;> rfl

/-- What an operation takes and answers with bears the labels of its lexer. -/
theorem perform_labels (operation : Operation) (lexer : Lexer) :
    (operation.perform lexer).lexer.filename = lexer.filename ∧
      (operation.perform lexer).lexer.source = operation.marking?.or lexer.source ∧
      ∀ token ∈ (operation.perform lexer).answers ++ (operation.perform lexer).taken,
        token.filename = lexer.filename ∧ token.source = lexer.source := by
  -- a lexer with its own labels is the same lexer, so the outcome is labelled with them
  have hself : operation.perform lexer =
      (operation.perform lexer).label lexer.filename (operation.marking?.or lexer.source) :=
    operation.perform_label lexer.filename lexer.source lexer
  refine ⟨congrArg (·.lexer.filename) hself, congrArg (·.lexer.source) hself, ?_⟩
  intro token hm
  cases operation with
  | next | check _ =>
    rw [hself] at hm
    simp only [Outcome.label, ← List.map_append] at hm
    obtain ⟨original, -, rfl⟩ := List.mem_map.mp hm
    exact ⟨rfl, rfl⟩
  | mark id => cases hm

/-- An operation takes the next tokens of the text, and leaves its lexer after them. -/
theorem exists_perform_taken {lexer : Lexer} (h : lexer.Poised) (operation : Operation) :
    ∃ n, (operation.perform lexer).taken = TokenStream.firsts n lexer ∧
      (operation.perform lexer).lexer.label filename source =
        (TokenStream.after n lexer).label filename source := by
  cases operation with
  | next => exact ⟨1, rfl, rfl⟩
  | check calls =>
    obtain ⟨-, n, hlast, hread, -⟩ := Checker.checks_turns Rules.standard_endsApart
      (Lexer.isEnd_drain_last lexer) h.yields [] calls
    have hstream : ((check calls).perform lexer).lexer = TokenStream.after n lexer :=
      (congrArg Checker.stream hlast).trans (Checker.turns_stream n _)
    exact ⟨n, hread, by rw [hstream]⟩
  | mark id => exact ⟨0, rfl, rfl⟩

/-- However operations follow one another, they take the tokens of the text from the first on. -/
theorem exists_taken {lexer : Lexer} (h : lexer.Poised) (operations : List Operation) :
    ∃ n, ((performAll lexer operations).flatMap Outcome.taken).map (.label filename source) =
      TokenStream.firsts n (lexer.label filename source) := by
  induction operations generalizing lexer with
  | nil => exact ⟨0, rfl⟩
  | cons operation operations ih =>
    obtain ⟨m, htaken, hlexer⟩ := exists_perform_taken filename source h operation
    -- the labels aside, the next operation begins where a plain reading of so many tokens stops
    have hpoised : (operation.perform lexer).lexer.Poised := by
      have hafter := (Lexer.Poised.after h m).label filename source
      rw [← hlexer] at hafter
      exact ⟨hafter.start, hafter.finished, hafter.ends⟩
    obtain ⟨n, hrest⟩ := ih hpoised
    refine ⟨m + n, ?_⟩
    rw [performAll, List.flatMap_cons, List.map_append, htaken, hrest, hlexer, TokenStream.firsts_add]
    simp only [TokenStream.firsts_label, TokenStream.after_label]

/-- Every token bears the source that was marked last before the operation which took it. -/
theorem labels_of_mem (lexer : Lexer) (operations : List Operation) :
    ∀ i outcome, (performAll lexer operations)[i]? = some outcome →
      ∀ token ∈ outcome.answers ++ outcome.taken, token.filename = lexer.filename ∧
        token.source = latest lexer.source (operations.take i) := by
  induction operations generalizing lexer with
  | nil => simp [performAll]
  | cons operation operations ih =>
    obtain ⟨hname, hsource, htokens⟩ := operation.perform_labels lexer
    intro i outcome ho token hm
    cases i with
    | zero =>
      obtain rfl := Option.some.inj ho
      exact htokens token hm
    | succ i =>
      have hlast := ih _ i outcome ho token hm
      rw [hname, hsource, ← latest_cons] at hlast
      exact hlast

/-- Operations that differ in nothing but the sources they mark go the same way on lexers that differ in
their labels. -/
theorem performAll_label {lexer lexer' : Lexer}
    (hl : lexer.label filename source = lexer'.label filename source)
    {operations operations' : List Operation}
    (ho : operations.map unmarked = operations'.map unmarked) :
    (performAll lexer operations).map (Outcome.label filename source) =
      (performAll lexer' operations').map (Outcome.label filename source) := by
  induction operations generalizing lexer lexer' operations' with
  | nil =>
    obtain rfl := List.map_eq_nil_iff.mp ho.symm
    rfl
  | cons operation operations ih =>
    obtain ⟨operation', operations', rfl, hfirst, hrest⟩ := List.map_eq_cons_iff.mp ho.symm
    have hstep := perform_unmarked filename source hl hfirst.symm
    simp only [performAll, List.map_cons]
    rw [hstep, ih (congrArg Outcome.lexer hstep) hrest.symm]

end Operation

end

namespace Operation

/-- Operations of any kind may follow one another: together they take the first tokens of the text, as
reading it without interruption gives them, and each token bears the source that was marked last before
it was taken. Neither the name of the file nor any source has to do with what is taken or answered. -/
theorem tokens_undisturbed (text : List Char) (filename : String) (source : Option Nat)
    (operations : List Operation) :
    let lexer := Lexer.ofChars text filename source
    let outcomes := performAll lexer operations
    (∃ n, List.Forall₂ (Token.Corresponds Eq) (outcomes.flatMap Outcome.taken)
      (TokenStream.firsts n lexer)) ∧
    (∀ i outcome, outcomes[i]? = some outcome → ∀ token ∈ outcome.answers ++ outcome.taken,
      token.source = latest source (operations.take i)) ∧
    ∀ filename' source' operations', operations'.map unmarked = operations.map unmarked →
      (performAll (Lexer.ofChars text filename' source') operations').map
          (Outcome.label filename source) = outcomes.map (Outcome.label filename source) := by
  intro lexer outcomes
  have hlabels := labels_of_mem lexer operations
  refine ⟨?_, ?_, ?_⟩
  · obtain ⟨n, htaken⟩ := exists_taken filename source (Lexer.poised_ofChars text filename source)
      operations
    have hself : lexer.label filename source = lexer := rfl
    refine ⟨n, ?_⟩
    rw [← hself, ← htaken, List.forall₂_map_right_iff, List.forall₂_same]
    intro token hm
    obtain ⟨outcome, ho, hm⟩ := List.mem_flatMap.mp hm
    obtain ⟨i, hi⟩ := List.mem_iff_getElem?.mp ho
    have hname := (hlabels i outcome hi token (List.mem_append_right _ hm)).1
    exact ⟨rfl, rfl, hname, rfl, rfl⟩
  · intro i outcome ho token hm
    exact (hlabels i outcome ho token hm).2
  · intro filename' source' operations' ho
    have hl : (Lexer.ofChars text filename' source').label filename source =
        lexer.label filename source := rfl
    exact performAll_label filename source hl ho

/-- Sources marked between a comment and the line break after it, within a string and behind the last
token, and a check that begins within the string. -/
theorem tokens_undisturbed_in_string :
    let text := [';', 'é', '\r', '\n', '"', 'a', '"', ')']
    let operations : List Operation := [.next, .mark 7, .next, .next, .mark 3, .check 1, .mark 9, .next]
    let others : List Operation := [.next, .mark 0, .next, .next, .mark 0, .check 1, .mark 0, .next]
    let lexer := Lexer.ofChars text "a.rkt" none
    let outcomes := performAll lexer operations
    others.map unmarked = operations.map unmarked ∧
      outcomes.map (fun outcome => outcome.taken.map fun token => (token.lexeme, token.source)) =
        [[(";é", none)], [], [("\r\n", some 7)], [("\"", some 7)], [],
          [("a", some 3), ("\"", some 3), (")", some 3)], [], [("", some 9)]] ∧
      (∃ n, List.Forall₂ (Token.Corresponds Eq) (outcomes.flatMap Outcome.taken)
        (TokenStream.firsts n lexer)) ∧
      (performAll (Lexer.ofChars text "b.rkt" (some 1)) others).map (Outcome.label "a.rkt" none) =
        outcomes.map (Outcome.label "a.rkt" none) := by
  intro text operations others lexer outcomes
  obtain ⟨htaken, -, hsame⟩ := tokens_undisturbed text "a.rkt" none operations
  have ho : others.map unmarked = operations.map unmarked := rfl
  exact ⟨ho, by decide +kernel, htaken, hsame "b.rkt" (some 1) others ho⟩

end Operation

end BracketBalance
