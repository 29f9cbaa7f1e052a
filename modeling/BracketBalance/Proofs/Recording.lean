import BracketBalance.Log.Recorder
import BracketBalance.Proofs.Calls

namespace BracketBalance.Checker

def unlogged (checker : Checker Recorder) : Checker Lexer :=
  ⟨checker.waiting, checker.stream.lexer⟩

theorem turn_unlogged (checker : Checker Recorder) : checker.turn.unlogged = checker.unlogged.turn :=
  rfl

theorem turn_log (checker : Checker Recorder) :
    checker.turn.stream.log = .ofToken checker.stream.lexer.next.1 :: checker.stream.log := rfl

/-- The log has no part in a check. -/
theorem checkWithin_unlogged (n : Nat) (read : List Token) (checker : Checker Recorder) :
    checkWithin n read checker.unlogged = (checkWithin n read checker).map (Prod.map id unlogged) := by
  induction n generalizing read checker with
  | zero => rfl
  | succ n ih =>
    have hverdict : checker.unlogged.verdict = checker.verdict := rfl
    have hnext : (TokenStream.next checker.unlogged.stream).1 = (TokenStream.next checker.stream).1 := rfl
    rw [checkWithin_succ, checkWithin_succ, hverdict, hnext, ← turn_unlogged]
    cases checker.verdict.answer? (TokenStream.next checker.stream).1 read with
    | some answer => rfl
    | none => exact ih _ _

theorem check_unlogged (checker : Checker Recorder) :
    checker.unlogged.check = (checker.check.1, checker.check.2.unlogged) := by
  have hwithin := checkWithin_unlogged checker.patience [] checker
  have hcalled : checkWithin checker.patience [] checker = some checker.check := checker.check?_eq
  have hunlogged : checkWithin checker.patience [] checker.unlogged = some checker.unlogged.check :=
    checker.unlogged.check?_eq
  rw [hcalled, hunlogged] at hwithin
  exact Option.some.inj hwithin

/-- Where the log holds the tokens that have been read, it holds those read for an answer after it. -/
theorem log_of_checkWithin {n : Nat} {read : List Token} {checker after : Checker Recorder}
    {answer : Answer} (h : checkWithin n read checker = some (answer, after))
    (hl : checker.stream.log = read.map .ofToken) :
    after.stream.log = answer.read.map .ofToken := by
  induction n generalizing read checker with
  | zero => cases h
  | succ n ih =>
    rw [checkWithin_succ] at h
    have hturn : checker.turn.stream.log =
        ((TokenStream.next checker.stream).1 :: read).map .ofToken := by
      rw [turn_log, hl]
      rfl
    cases ha : checker.verdict.answer? (TokenStream.next checker.stream).1 read with
    | none =>
      rw [ha] at h
      exact ih h hturn
    | some answered =>
      rw [ha] at h
      obtain ⟨rfl, rfl⟩ := Prod.mk.inj (Option.some.inj h)
      rw [hturn, Verdict.read_of_answer? ha]

/-- A check that is logged from its beginning comes to the same answer, and its log is the tokens read. -/
theorem check_recorded (lexer : Lexer) :
    let recorded := (fresh (Recorder.mk lexer [])).check
    recorded.1 = (fresh lexer).check.1 ∧
      recorded.2.stream.log.reverse = (fresh lexer).check.1.read.reverse.map .ofToken := by
  intro recorded
  have hanswer : (fresh lexer).check.1 = recorded.1 :=
    congrArg Prod.fst (check_unlogged (fresh (Recorder.mk lexer [])))
  have hlog : recorded.2.stream.log = recorded.1.read.map .ofToken :=
    log_of_checkWithin (check?_eq _) rfl
  rw [hanswer, hlog, List.map_reverse]
  exact ⟨rfl, rfl⟩

end BracketBalance.Checker
