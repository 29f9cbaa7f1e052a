import BracketBalance.Proofs.Openers
import BracketBalance.Proofs.Runs

namespace BracketBalance

open TokenStream

namespace Rules

variable {rules : Rules}

theorem Factors.sublist {tokens waiting : List Token} (h : rules.Factors tokens waiting) :
    waiting.reverse.Sublist tokens := by
  induction h with
  | base => exact List.nil_sublist _
  | opener _ _ _ ih =>
    rw [List.reverse_cons]
    exact ih.append (List.singleton_sublist.mpr List.mem_cons_self)

namespace Concludes

variable {waiting left : List Token} {token result : Token}

/-- The token that concludes a check opens nothing, and closes nothing. -/
theorem matchesTop (h : rules.Concludes waiting token result left) (apart : rules.EndsApart) :
    rules.opens token.kind = false ∧
      (rules.closes token.kind = true → rules.matchesTop waiting token = false) := by
  cases h with
  | stray opens _ unmatched => exact ⟨opens, fun _ => matchesTop_eq_false_iff.mpr unmatched⟩
  | unclosed ends | complete ends =>
    obtain ⟨opens, closes⟩ := apart _ ends
    refine ⟨opens, ?_⟩
    intro h
    rw [closes] at h
    cases h

theorem sublist (h : rules.Concludes waiting token result left) : left.Sublist waiting := by
  cases h with
  | stray => exact List.Sublist.refl _
  | unclosed => exact List.sublist_cons_self _ _
  | complete => exact List.Sublist.refl _

/-- What is left waiting is what waited, apart from the result. -/
theorem mem_iff (h : rules.Concludes waiting token result left)
    (hw : ∀ opener ∈ waiting, rules.opens opener.kind = true) (hd : waiting.Nodup) (opener : Token) :
    opener ∈ left ↔ opener ∈ waiting ∧ opener ≠ result := by
  cases h with
  | stray opens =>
    refine (and_iff_left_of_imp ?_).symm
    rintro hm rfl
    rw [hw opener hm] at opens
    cases opens
  | @unclosed top _ below =>
    have hn := (List.nodup_cons.mp hd).1
    rw [List.mem_cons]
    constructor
    · intro hm
      refine ⟨.inr hm, ?_⟩
      rintro rfl
      exact hn hm
    · rintro ⟨rfl | hm, hne⟩
      · exact absurd rfl hne
      · exact hm
  | complete => simp

/-- A check stops at the end if it blames an opener, and otherwise at what it answers with. -/
theorem stops (h : standard.Concludes waiting token result left)
    (hw : ∀ opener ∈ waiting, opener.kind.opens = true) :
    if result.kind.opens then token.isEnd = true else token = result := by
  cases h with
  | stray opens =>
    rw [if_neg]
    exact Bool.eq_false_iff.mp opens
  | unclosed ends =>
    rw [if_pos (hw _ List.mem_cons_self)]
    exact ends
  | complete ends =>
    rw [if_neg]
    exact Bool.eq_false_iff.mp (standard_endsApart _ ends).1

end Concludes

/-- Where openers wait, an answer comes with a complaint unless it is the end. -/
theorem complaint_of_judge {waiting read : List Token} {token : Token} {answer : Answer}
    (hw : ∀ opener ∈ waiting, opener.kind.opens = true)
    (h : (standard.judge waiting token).answer? token read = some answer) :
    answer.complaint = if answer.token.isEnd then none else
      some (.ofCulprit answer.token ((standard.judge waiting token).waiting waiting)) := by
  have ha := answered_of_judge h
  generalize (standard.judge waiting token).waiting waiting = left at ha
  cases ha with
  | stray _ closes =>
    have he : token.isEnd = false := standard_endsApart.not_ends (.inr closes)
    rw [if_neg (Bool.eq_false_iff.mp he)]
  | @unclosed top below =>
    have he : top.isEnd = false :=
      standard_endsApart.not_ends (.inl (hw top List.mem_cons_self))
    rw [if_neg (Bool.eq_false_iff.mp he)]
  | complete _ _ ends =>
    have he : token.isEnd = true := ends
    rw [if_pos he]

end Rules

/-- What a log says of the check of a lexer that comes to some result: the tokens drawn for it, and those of
them that are pending. -/
structure Mirrors (lexer : Lexer) (result : Token) (drawn pending : List Token) (log : List Event) :
    Prop where
  answers : (Checker.fresh lexer).check.1.token = result
  /-- The tokens are those that the lexer gives before it is left, in order, and no two are the same. -/
  leaves : (Checker.fresh lexer).check.2.stream = after drawn.length lexer
  draws : drawn = firsts drawn.length lexer
  distinct : drawn.Nodup
  /-- The last one is the end if an opener is to blame, and otherwise the result. -/
  stops : ∃ last ∈ drawn.getLast?, if result.kind.opens then last.isEnd = true else last = result
  /-- Pending are the openers that no token drawn closes, but for the one to blame. -/
  ordered : pending.Sublist drawn
  mem_pending_iff : ∀ token, token ∈ pending ↔ LeftOpen drawn token ∧ token ≠ result
  logs : log =
    drawn.map (fun token => .token token.kind token.lexeme token.start.line token.start.column) ++
    (if result.isEnd then []
      else [.unbalanced result.kind result.stop.line result.start.column pending.length]) ++
    [.checked lexer.filename result.isEnd]

namespace Checker

variable (text : List Char) (filename : String) (source : Option Nat)

variable {answer : Answer} {after : Checker Lexer}

/-- How a text is checked: tokens that pass are drawn, then one that concludes the check, and an answer comes
with a complaint unless it is the end. -/
theorem exists_drawn (h : (fresh (Lexer.ofChars text filename source)).check = (answer, after)) :
    let lexer := Lexer.ofChars text filename source
    ∃ n left, Rules.standard.Passes [] (firsts n lexer) left ∧
      answer.read.reverse = firsts (n + 1) lexer ∧ after.stream = TokenStream.after (n + 1) lexer ∧
      Rules.standard.Concludes left (nth n lexer) answer.token after.waiting ∧
      answer.complaint =
        if answer.token.isEnd then none else some (.ofCulprit answer.token after.waiting) := by
  intro lexer
  have apart := Rules.standard_endsApart
  have hy := Lexer.yields text filename source
  obtain ⟨passed, rest, left, answered, htokens, hp, hanswer, hturns, hcheck⟩ :=
    check?_of_yields apart (Lexer.isEnd_drain_last lexer) hy []
  rw [htokens] at hy
  have hcheck : (answer, after) = (answered, turns (passed.length + 1) (fresh lexer)) := by
    rw [← h]
    exact Option.some.inj ((check?_eq (fresh lexer)).symm.trans hcheck)
  obtain ⟨rfl, rfl⟩ := Prod.mk.inj hcheck
  have hstream := turns_stream (passed.length + 1) (fresh lexer)
  have hwaiting : (turns (passed.length + 1) (fresh lexer)).waiting =
      (Rules.standard.judge left (nth passed.length lexer)).waiting left := by
    rw [hy.nth_length]
    exact congrArg Checker.waiting (turns_of_passed hy hturns)
  have hfirsts := hy.firsts
  rw [firsts_succ] at hfirsts
  obtain ⟨hpassed, -⟩ := List.append_inj' hfirsts rfl
  rw [← hy.nth_length] at hanswer
  obtain ⟨hread, hconcludes, -, -⟩ := Rules.concludes_of_judge apart hanswer
  have hopens : ∀ opener ∈ left, opener.kind.opens = true := hp.opens (by simp)
  rw [hwaiting]
  refine ⟨passed.length, left, ?_, ?_, hstream, hconcludes, Rules.complaint_of_judge hopens hanswer⟩
  · rw [hpassed]
    exact hp
  · rw [hread, List.reverse_cons, List.reverse_reverse, firsts_succ, hpassed]

theorem mirrors :
    let answer := (fresh (Lexer.ofChars text filename source)).check.1
    ∃ drawn pending, Mirrors (Lexer.ofChars text filename source) answer.token drawn pending
      (answer.read.reverse.map .ofToken ++ answer.complaint.toList ++
        [.checked filename answer.token.isEnd]) := by
  cases h : (fresh (Lexer.ofChars text filename source)).check with | mk answer after
  dsimp only
  obtain ⟨n, left, hp, hread, hstream, hconcludes, hcomplaint⟩ := exists_drawn text filename source h
  generalize hlexer : Lexer.ofChars text filename source = lexer at *
  have hname : lexer.filename = filename := by rw [← hlexer]; rfl
  have hn : n ≤ (Region.code.slices text).length :=
    Lexer.le_length_of_passes text filename source (hlexer ▸ hp)
  have hdistinct : (firsts (n + 1) lexer).Nodup :=
    hlexer ▸ Lexer.nodup_firsts text filename source (Nat.succ_le_succ hn)
  have hordered : left.reverse.Sublist (firsts n lexer) := by
    have hnone : Rules.standard.Factors [] [] := .base .nil
    exact (hnone.passes hp).sublist
  have hearlier : (firsts n lexer).Sublist (firsts (n + 1) lexer) := by
    rw [firsts_succ]
    exact List.sublist_append_left _ _
  have hopens : ∀ opener ∈ left, Rules.standard.opens opener.kind = true := hp.opens (by simp)
  obtain ⟨hlast, hmatch⟩ := hconcludes.matchesTop Rules.standard_endsApart
  refine ⟨firsts (n + 1) lexer, after.waiting.reverse, ?_⟩
  exact {
    answers := by rw [h]
    leaves := by rw [h, length_firsts]; exact hstream
    draws := by rw [length_firsts]
    distinct := hdistinct
    stops := by
      rw [firsts_succ, List.getLast?_concat]
      exact ⟨nth n lexer, rfl, hconcludes.stops hopens⟩
    ordered := (hconcludes.sublist.reverse.trans hordered).trans hearlier
    mem_pending_iff := by
      intro token
      have hnodup : left.Nodup :=
        (List.reverse_perm left).nodup_iff.mp (hdistinct.sublist (hordered.trans hearlier))
      rw [List.mem_reverse, hconcludes.mem_iff hopens hnodup, firsts_succ]
      subst hlexer
      rw [Lexer.mem_iff_leftOpen text filename source hp hlast hmatch]
    logs := by
      rw [hread, hcomplaint, List.length_reverse, hname]
      cases answer.token.isEnd <;> rfl }

-- a closer to blame leaves all the openers pending, the end takes away the one to blame
example :
    let pending := fun text => (fresh (Lexer.ofChars text "" none)).check.2.waiting.map Token.kind
    pending ['(', '[', ')'] = [.openBracket, .openParen] ∧ pending ['(', '['] = [.openParen] := by
  decide +kernel

end Checker

/-- What is logged of a file are the tokens that its check reads, the complaint and how it came out. -/
theorem Inspection.events_ofBytes (index : Nat) (path content : Bytes) :
    let filename := Utf8.decodeString path
    let answer := (Checker.fresh (Lexer.ofChars (Utf8.decode content) filename (some index))).check.1
    (ofBytes index path content).events = answer.read.reverse.map .ofToken ++
      answer.complaint.toList ++ [.checked filename answer.token.isEnd] := by
  intro filename answer
  let recorder := Recorder.mk (Lexer.ofChars (Utf8.decode content) filename (some index)) []
  let recorded := (Checker.fresh recorder).check
  obtain ⟨hanswer, hlog⟩ : recorded.1 = answer ∧
      recorded.2.stream.log.reverse = answer.read.reverse.map .ofToken :=
    Checker.check_recorded recorder.lexer
  show recorded.2.stream.log.reverse ++ recorded.1.complaint.toList ++
    [.checked filename recorded.1.token.isEnd] = _
  rw [hanswer, hlog]

namespace SourceFile

/-- What the log says of a file that stands in some place of a run. -/
def Logged (file : SourceFile) (index : Nat) (log : List Event) : Prop :=
  ∃ content result drawn pending, file.content = .ok content ∧
    file.line? = (if result.isEnd then none else some result.report) ∧
    Mirrors (Lexer.ofChars (Utf8.decode content) (Utf8.decodeString file.path) (some index)) result drawn
      pending log

def log (file : SourceFile) (index : Nat) : List Event :=
  match file.content with
  | .error _ => []
  | .ok content => (Inspection.ofBytes index file.path content).events

theorem logged {file : SourceFile} (h : file.isReadable = true) (index : Nat) :
    file.Logged index (file.log index) := by
  obtain ⟨path, content⟩ := file
  cases content with
  | error => cases h
  | ok content =>
    obtain ⟨drawn, pending, hm⟩ :=
      Checker.mirrors (Utf8.decode content) (Utf8.decodeString path) (some index)
    rw [← Inspection.events_ofBytes] at hm
    refine ⟨content, _, drawn, pending, rfl, ?_, hm⟩
    rw [← Inspection.line?_ofBytes index path content, Inspection.line?, Inspection.token_ofBytes]

end SourceFile

namespace Run

/-- The files that a run reads: those before the first that it cannot read, and where nothing can be written,
none after the first that has a line. -/
def filesRead (sink : Sink) (files : List SourceFile) : List SourceFile :=
  let readable := files.takeWhile SourceFile.isReadable
  match sink with
  | .accepting => readable
  | .refusing _ => readable.take (readable.findIdx (·.line?.isSome) + 1)

theorem isReadable_of_mem_filesRead {sink : Sink} {files : List SourceFile} {file : SourceFile}
    (h : file ∈ filesRead sink files) : file.isReadable = true := by
  cases sink with
  | accepting => exact List.mem_takeWhile_imp h
  | refusing cause => exact List.mem_takeWhile_imp (List.mem_of_mem_take h)

theorem filesRead_cons (sink : Sink) {file : SourceFile} (h : file.isReadable = true)
    (files : List SourceFile) :
    filesRead sink (file :: files) =
      match sink, file.line? with
      | .refusing _, some _ => [file]
      | _, _ => file :: filesRead sink files := by
  rw [filesRead.eq_def, List.takeWhile_cons_of_pos h]
  cases sink with
  | accepting => rfl
  | refusing cause =>
    cases hl : file.line? with
    | some line => simp [List.findIdx_cons, hl]
    | none => simp [List.findIdx_cons, hl, filesRead]

/-- A run logs what each file that it reads does. -/
theorem events_ofFiles (sink : Sink) (index : Nat) (files : List SourceFile) :
    (ofFiles sink index files).events =
      (((filesRead sink files).zipIdx index).map fun entry => entry.1.log entry.2).flatten := by
  induction files generalizing index with
  | nil => cases sink <;> rfl
  | cons file files ih =>
    obtain ⟨path, content⟩ := file
    cases content with
    | error cause => cases sink <;> rfl
    | ok content =>
      have hfile := Inspection.line?_ofBytes index path content
      have hlog : SourceFile.log ⟨path, .ok content⟩ index =
        (Inspection.ofBytes index path content).events := rfl
      rw [filesRead_cons sink rfl, ofFiles_ok, ← hfile]
      dsimp only
      cases sink with
      | accepting => simp [List.zipIdx_cons, ih, hlog]
      | refusing cause =>
        cases (Inspection.ofBytes index path content).line? with
        | some line => simp [hlog]
        | none => simp [List.zipIdx_cons, ih, hlog]

end Run

namespace Platform

variable {platform : Platform}

theorem Documented.deliver_trace (documented : platform.Documented) (events : List Event) :
    platform.deliver (platform.shown (some "trace".toUTF8.toList)) events = events := by
  have hshown : platform.shown (some "trace".toUTF8.toList) = Event.within .trace := by
    have hrequested : platform.requested (some "trace".toUTF8.toList) = some (Event.within .trace) :=
      documented.requested .trace
    rw [shown, hrequested, Option.getD_some]
  rw [hshown, documented.deliver, List.filter_eq_self]
  intro event _
  cases event <;> rfl

/-- The log of a run that asks for all of it: the logs of the files that are read, one after the other, and at
the end why the run stopped if it did. -/
theorem log_mirrors_checks (documented : platform.Documented) {arguments paths : List Bytes}
    (parsed : platform.parse arguments = .ok paths) (sink : Sink)
    (read : Nat → Bytes → Except String Bytes) :
    let trace := some "trace".toUTF8.toList
    let files := SourceFile.readAll read paths
    let run := Run.ofFiles sink 0 files
    ∃ logs : List (List Event),
      List.Forall₂ (fun entry log => entry.1.Logged entry.2 log) (Run.filesRead sink files).zipIdx logs ∧
        platform.deliver (platform.shown trace) run.events = logs.flatten ∧
        (platform.program arguments trace sink read).stderr =
          Run.unlines (logs.flatten.mapIdx platform.line) ++
            match run.failure with
            | none => ""
            | some failure => "error: " ++ failure.message ++ "\n" := by
  intro trace files run
  have hevents : run.events = _ := Run.events_ofFiles sink 0 files
  have hdelivered : platform.deliver (platform.shown trace) run.events = run.events :=
    documented.deliver_trace run.events
  refine ⟨(Run.filesRead sink files).zipIdx.map fun entry => entry.1.log entry.2, ?_,
    hdelivered.trans hevents, ?_⟩
  · rw [List.forall₂_map_right_iff, List.forall₂_same]
    rintro ⟨file, index⟩ hm
    have hread := List.mem_of_getElem? (List.mem_zipIdx_iff_getElem?.mp hm)
    exact SourceFile.logged (Run.isReadable_of_mem_filesRead hread) index
  · have hprogram : platform.program arguments trace sink read = platform.exit trace run :=
      program_of_parse parsed trace sink read
    rw [hprogram, exit, hdelivered, ← hevents]
    cases run.failure with
    | none => rw [String.append_empty]
    | some failure => simp only [String.append_assoc]

/-- A closer that leaves an opener waiting, an opener that the end finds above another one, and a file with
nothing in it. -/
theorem log_mirrors_checks_stray :
    let paths : List Bytes := [[0x61], [0x62], [0x63]]
    let contents : List (Except String Bytes) := [.ok [0x28, 0x5D], .ok [0x28, 0x5B], .ok []]
    let read := fun (index : Nat) (_ : Bytes) => contents.getD index (.error "")
    let files := SourceFile.readAll read paths
    standard.Documented ∧ standard.parse paths = .ok paths ∧
      ∃ logs : List (List Event),
        List.Forall₂ (fun entry log => entry.1.Logged entry.2 log) files.zipIdx logs ∧
        logs.flatten = [.token .openParen "(" 1 1, .token .closeBracket "]" 1 2,
          .unbalanced .closeBracket 1 2 1, .checked "a" false,
          .token .openParen "(" 1 1, .token .openBracket "[" 1 2, .token .endOfText "" 1 3,
          .unbalanced .openBracket 1 2 1, .checked "b" false,
          .token .endOfText "" 1 1, .checked "c" true] := by
  intro paths contents read files
  have hplain : ∀ path ∈ paths, IsPlain path := by simp [paths, IsPlain]
  have hparsed : standard.parse paths = .ok paths :=
    standard_documented.parse (Names.of_plain hplain) (List.cons_ne_nil _ _)
  obtain ⟨logs, hlogs, hevents, -⟩ := log_mirrors_checks standard_documented hparsed .accepting read
  refine ⟨standard_documented, hparsed, logs, hlogs, hevents.symm.trans ?_⟩
  rw [standard_documented.deliver_trace]
  decide +kernel

end Platform

end BracketBalance
