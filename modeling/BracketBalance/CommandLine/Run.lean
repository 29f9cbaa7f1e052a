import BracketBalance.CommandLine.Standard
import BracketBalance.Log.Recorder
import BracketBalance.Report

namespace BracketBalance

inductive Failure
  | read (path : Bytes) (cause : String)
  | write (cause : String)
  deriving DecidableEq, Repr

def Failure.message : Failure → String
  | read path cause => "Failed to read `" ++ Utf8.decodeString path ++ "`: " ++ cause
  | write cause => "Failed to write report: " ++ cause

inductive Sink
  | accepting
  /-- Every write fails, and this is why. -/
  | refusing (cause : String)
  deriving DecidableEq, Repr

def Sink.written (sink : Sink) (text : String) : String :=
  match sink with
  | .accepting => text
  | .refusing _ => ""

structure SourceFile where
  path : Bytes
  content : Except String Bytes

/-- The files with some paths, given what comes of reading each of them in its place. -/
def SourceFile.readAll (read : Nat → Bytes → Except String Bytes) (paths : List Bytes) :
    List SourceFile :=
  paths.mapIdx fun index path => ⟨path, read index path⟩

structure Inspection where
  token : Token
  events : List Event
  deriving DecidableEq, Repr

namespace Inspection

/-- Checks the text of a file; the index is its place in the run, counted from zero. -/
def ofBytes (index : Nat) (path content : Bytes) : Inspection :=
  let filename := Utf8.decodeString path
  let lexer := Lexer.ofChars (Utf8.decode content) filename (some index)
  let (answer, after) := (Checker.fresh (Recorder.mk lexer [])).check
  ⟨answer.token, after.stream.log.reverse ++ answer.complaint.toList ++
    [.checked filename answer.token.isEnd]⟩

def line? (inspection : Inspection) : Option String :=
  if inspection.token.isEnd then none else some inspection.token.report

end Inspection

structure Run where
  lines : List String
  events : List Event
  failure : Option Failure
  deriving DecidableEq, Repr

namespace Run

def ofFiles (sink : Sink) : Nat → List SourceFile → Run
  | _, [] => ⟨[], [], none⟩
  | index, ⟨path, content⟩ :: files =>
    match content with
    | .error cause => ⟨[], [], some (.read path cause)⟩
    | .ok bytes =>
      let inspection := Inspection.ofBytes index path bytes
      match inspection.line?, sink with
      | some _, .refusing cause => ⟨[], inspection.events, some (.write cause)⟩
      | line?, _ =>
        let rest := ofFiles sink (index + 1) files
        ⟨line?.toList ++ rest.lines, inspection.events ++ rest.events, rest.failure⟩

def unlines (lines : List String) : String :=
  String.join (lines.map (· ++ "\n"))

end Run

namespace Platform

variable (platform : Platform)

/-- What a run leaves behind: its report, and its log with the reason why it stopped after it. -/
def exit (log : Option Bytes) (run : Run) : Exit :=
  let events := platform.deliver (platform.shown log) run.events
  let text := Run.unlines (events.mapIdx platform.line)
  match run.failure with
  | none => ⟨0, Run.unlines run.lines, text⟩
  | some failure => ⟨1, Run.unlines run.lines, text ++ "error: " ++ failure.message ++ "\n"⟩

def filesToRead : Except Exit (List Bytes) → List Bytes
  | .ok paths => paths
  | .error _ => []

/-- What the program leaves behind, by what is asked of it, the variable that asks for a log, what it
writes to, and what came of reading the files. -/
def respond (asked : Except Exit (List Bytes)) (log : Option Bytes) (sink : Sink)
    (files : List SourceFile) : Exit :=
  match asked with
  | .error exit => { exit with stdout := sink.written exit.stdout }
  | .ok _ => platform.exit log (Run.ofFiles sink 0 files)

def program (arguments : List Bytes) (log : Option Bytes) (sink : Sink)
    (read : Nat → Bytes → Except String Bytes) : Exit :=
  let asked := platform.parse arguments
  platform.respond asked log sink (SourceFile.readAll read (filesToRead asked))

end Platform

/-- What the program leaves behind, by its arguments, when reading a path has one outcome. -/
def program (arguments : List Bytes) (log : Option Bytes) (sink : Sink)
    (read : Bytes → Except String Bytes) : Exit :=
  Platform.standard.program arguments log sink fun _ => read

end BracketBalance
