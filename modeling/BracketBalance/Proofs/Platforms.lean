import BracketBalance.CommandLine.Standard

namespace BracketBalance

/-- An argument that is a file wherever it stands: it is not empty, and no option. -/
def IsPlain (argument : Bytes) : Prop :=
  argument ≠ [] ∧ (argument.head? = some 0x2D → argument = [0x2D])

/-- The arguments are nothing but the files, perhaps with two dashes before the last of them. -/
inductive Names : List Bytes → List Bytes → Prop
  | done : Names [] []
  | dashes {files : List Bytes} (named : ∀ file ∈ files, file ≠ []) :
      Names ([0x2D, 0x2D] :: files) files
  | file {file : Bytes} {arguments files : List Bytes} (plain : IsPlain file)
      (rest : Names arguments files) : Names (file :: arguments) (file :: files)

theorem Names.of_plain {files : List Bytes} (h : ∀ file ∈ files, IsPlain file) : Names files files := by
  induction files with
  | nil => exact .done
  | cons file files ih =>
    obtain ⟨plain, others⟩ := List.forall_mem_cons.mp h
    exact .file plain (ih others)

/-- What the program may expect of what it leaves to others. -/
structure Platform.Documented (platform : Platform) : Prop where
  /-- Files are found among the arguments in order, and two dashes are not one of them. -/
  parse : ∀ {arguments files}, Names arguments files → files ≠ [] → platform.parse arguments = .ok files
  /-- Without a file, or with one that has no name, nothing is checked. -/
  named : ∀ {arguments files}, platform.parse arguments = .ok files →
    files ≠ [] ∧ ∀ file ∈ files, file ≠ []
  unset : platform.requested none = none
  /-- The name of a level asks for all that is within it. -/
  requested : ∀ level : Level,
    platform.requested (some level.name.toUTF8.toList) = some (Event.within level)
  filter : ∀ level : Level, platform.filter level.name = Event.within level
  /-- All that is asked for reaches the log, in order. -/
  deliver : ∀ shown events, platform.deliver shown events = events.filter shown

namespace Request

/-- What is to be checked, if anything, are files, each with a name. -/
def Named : Request → Prop
  | check files => files ≠ [] ∧ ∀ file ∈ files, file ≠ []
  | help | version => True

section

variable {files : List Bytes} {asked request : Request}

theorem unlessEmpty_eq_ok_iff :
    unlessEmpty files asked = .ok request ↔ (∀ file ∈ files, file ≠ []) ∧ asked = request := by
  have hnamed : files.any List.isEmpty = false ↔ ∀ file ∈ files, file ≠ [] := by simp
  rw [← hnamed, unlessEmpty]
  cases files.any List.isEmpty <;> simp

theorem ofFiles_eq_ok_iff :
    ofFiles files = .ok request ↔ (check files).Named ∧ check files = request := by
  cases files with
  | nil => simp [ofFiles, Named]
  | cons file files =>
    have hfiles : ofFiles (file :: files) = unlessEmpty (file :: files) (check (file :: files)) := rfl
    rw [hfiles, unlessEmpty_eq_ok_iff, Named, and_iff_right (List.cons_ne_nil _ _)]

theorem ofLong_named {text : Bytes} (h : ofLong files text = .ok request) : request.Named := by
  unfold ofLong at h
  dsimp only at h
  split at h
  · next option hl _ =>
    obtain ⟨-, rfl⟩ := unlessEmpty_eq_ok_iff.mp h
    have hm : option ∈ longOptions.map Prod.snd := by
      obtain ⟨l, r, he, -⟩ := List.lookup_eq_some_iff.mp hl
      rw [he]
      simp
    simp only [longOptions, List.map_cons, List.map_nil, List.mem_cons, List.not_mem_nil,
      or_false] at hm
    rcases hm with rfl | rfl <;> trivial
  · cases h
  · cases h

theorem ofShort_named {lead : UInt8} {bytes : Bytes} (h : ofShort files lead bytes = .ok request) :
    request.Named := by
  unfold ofShort at h
  split at h
  · obtain ⟨-, rfl⟩ := unlessEmpty_eq_ok_iff.mp h
    trivial
  · obtain ⟨-, rfl⟩ := unlessEmpty_eq_ok_iff.mp h
    trivial
  · cases h

/-- The command line gets no further with files that have no name, or with none at all. -/
theorem ofArguments_named {arguments : List Bytes} (h : ofArguments files arguments = .ok request) :
    request.Named := by
  fun_induction ofArguments files arguments with
  | case1 | case2 =>
    obtain ⟨hn, rfl⟩ := ofFiles_eq_ok_iff.mp h
    exact hn
  | case3 => exact ofLong_named h
  | case4 => exact ofShort_named h
  | case5 files file arguments _ _ _ ih => exact ih h

end

theorem ofArguments_plain {file : Bytes} (h : IsPlain file) (files arguments : List Bytes) :
    ofArguments files (file :: arguments) = ofArguments (files ++ [file]) arguments := by
  obtain ⟨hne, hdash⟩ := h
  rw [ofArguments]
  · rintro rfl
    cases hdash rfl
  · rintro name rfl
    cases hdash rfl
  · rintro lead bytes rfl
    cases hdash rfl

/-- Files are counted in the order in which they are named, after those that stand before them. -/
theorem ofArguments_of_names {arguments files : List Bytes} (h : Names arguments files)
    {before : List Bytes} (hb : ∀ file ∈ before, file ≠ []) (hf : before ++ files ≠ []) :
    ofArguments before arguments = .ok (check (before ++ files)) := by
  induction h generalizing before with
  | done =>
    rw [List.append_nil] at hf ⊢
    exact ofFiles_eq_ok_iff.mpr ⟨⟨hf, hb⟩, rfl⟩
  | dashes named => exact ofFiles_eq_ok_iff.mpr ⟨⟨hf, List.forall_mem_append.mpr ⟨hb, named⟩⟩, rfl⟩
  | @file file arguments files plain _ ih =>
    have hbefore : ∀ other ∈ before ++ [file], other ≠ [] :=
      List.forall_mem_append.mpr ⟨hb, List.forall_mem_singleton.mpr plain.1⟩
    rw [ofArguments_plain plain, ih hbefore (by simp), List.append_assoc]
    rfl

theorem files_eq_ok_iff {asked : Except UsageError Request} {names : List Bytes} :
    files asked = .ok names ↔ asked = .ok (check names) := by
  cases asked with
  | error misuse => simp [files]
  | ok request => cases request <;> simp [files]

end Request

namespace Filter

theorem shows_everywhere (level : Level) : shows [.everywhere level] = Event.within level := by
  funext event
  have hcovers : (Directive.everywhere level).covers event = true := rfl
  simp only [shows, governing, List.foldl_cons, List.foldl_nil, hcovers, Option.all_none, Bool.and_true,
    if_true]
  rfl

theorem ofText?_name (level : Level) : ofText? level.name.toList = some [.everywhere level] := by
  cases level <;> decide +kernel

theorem ofBytes?_name (level : Level) :
    ofBytes? level.name.toUTF8.toList = some [.everywhere level] := by
  cases level <;> decide +kernel

end Filter

theorem Platform.standard_documented : standard.Documented where
  parse names hf := by
    have hbefore : ∀ file ∈ ([] : List Bytes), file ≠ [] := by nofun
    exact Request.files_eq_ok_iff.mpr (Request.ofArguments_of_names names hbefore hf)
  named parsed := Request.ofArguments_named (Request.files_eq_ok_iff.mp parsed)
  unset := rfl
  requested level := by
    show ((some level.name.toUTF8.toList).bind Filter.ofBytes?).map Filter.shows = _
    rw [Option.bind_some, Filter.ofBytes?_name, Option.map_some, Filter.shows_everywhere]
  filter level := by
    show ((Filter.ofText? level.name.toList).getD []).shows = _
    rw [Filter.ofText?_name, Option.getD_some, Filter.shows_everywhere]
  deliver _ _ := rfl

end BracketBalance
