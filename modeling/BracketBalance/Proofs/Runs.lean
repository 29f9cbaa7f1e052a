import BracketBalance.CommandLine.Run
import BracketBalance.Proofs.LineBreaks
import BracketBalance.Proofs.Platforms
import BracketBalance.Proofs.Recording

namespace BracketBalance

namespace Checker

/-- The same text as another source is answered with the same tokens. -/
theorem answers_sources (text : List Char) (filename : String) (source other : Option Nat)
    (calls : Nat) :
    List.Forall₂ (Token.Corresponds Position.Aligned) (answers text filename source calls)
      (answers text filename other calls) := by
  apply answers_forall₂
  · apply Rules.unmatched_forall₂ (fun _ _ h => h.kind) .standard
    exact Region.marks_forall₂ filename source other (fun _ _ c h => h.advance c) .code
      (.refl .origin) text
  · exact ⟨rfl, rfl, rfl, .refl _, .refl _⟩

theorem check_sources (text : List Char) (filename : String) (source other : Option Nat) :
    Token.Corresponds Position.Aligned (fresh (Lexer.ofChars text filename source)).check.1.token
      (fresh (Lexer.ofChars text filename other)).check.1.token := by
  have h := answers_sources text filename source other 1
  rw [answers_one, answers_one, List.forall₂_cons] at h
  exact h.1

end Checker

namespace SourceFile

def isReadable (file : SourceFile) : Bool :=
  file.content.isOk

/-- The line that reports the file when nothing else is checked. -/
def line? (file : SourceFile) : Option String :=
  match file.content with
  | .error _ => none
  | .ok bytes =>
    let lexer := Lexer.ofChars (Utf8.decode bytes) (Utf8.decodeString file.path) none
    let token := (Checker.fresh lexer).check.1.token
    if token.isEnd then none else some token.report

end SourceFile

namespace Inspection

theorem token_ofBytes (index : Nat) (path bytes : Bytes) :
    (ofBytes index path bytes).token = (Checker.fresh (Lexer.ofChars (Utf8.decode bytes)
      (Utf8.decodeString path) (some index))).check.1.token :=
  congrArg Answer.token (Checker.check_recorded _).1

/-- A file has the same line wherever it stands in a run. -/
theorem line?_ofBytes (index : Nat) (path bytes : Bytes) :
    (ofBytes index path bytes).line? = SourceFile.line? ⟨path, .ok bytes⟩ := by
  have h := Checker.check_sources (Utf8.decode bytes) (Utf8.decodeString path) (some index) none
  simp only [line?, token_ofBytes, SourceFile.line?, h.isEnd, h.report]

end Inspection

namespace Run

/-- One more file that can be read: its line, and then the rest of the run unless writing it failed. -/
theorem ofFiles_ok (sink : Sink) (index : Nat) (path bytes : Bytes) (files : List SourceFile) :
    ofFiles sink index (⟨path, .ok bytes⟩ :: files) =
      let inspection := Inspection.ofBytes index path bytes
      let rest := ofFiles sink (index + 1) files
      match sink, inspection.line? with
      | .refusing cause, some _ => ⟨[], inspection.events, some (.write cause)⟩
      | _, line? => ⟨line?.toList ++ rest.lines, inspection.events ++ rest.events, rest.failure⟩ := by
  rw [ofFiles.eq_def]
  dsimp only
  generalize Inspection.ofBytes index path bytes = inspection
  cases sink <;> cases inspection.line? <;> rfl

end Run

namespace Platform

variable {platform : Platform}

theorem program_of_parse {arguments paths : List Bytes} (parsed : platform.parse arguments = .ok paths)
    (log : Option Bytes) (sink : Sink) (read : Nat → Bytes → Except String Bytes) :
    platform.program arguments log sink read =
      platform.exit log (Run.ofFiles sink 0 (SourceFile.readAll read paths)) := by
  rw [program, parsed]
  rfl

end Platform

end BracketBalance
