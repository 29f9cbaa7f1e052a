import BracketBalance.Proofs.Culprits
import BracketBalance.Proofs.Labels

namespace BracketBalance

theorem eq_and_eq_of_append_cons {α : Type} {separator : α} {a b x y : List α}
    (hx : separator ∉ x) (hy : separator ∉ y) (h : a ++ separator :: x = b ++ separator :: y) :
    a = b ∧ x = y := by
  rcases List.append_eq_append_iff.mp h with ⟨between, rfl, hb⟩ | ⟨between, rfl, hb⟩
  · cases between with
    | nil => exact ⟨(List.append_nil a).symm, (List.cons.inj hb).2⟩
    | cons c between =>
      obtain ⟨-, rfl⟩ := List.cons.inj hb
      simp at hx
  · cases between with
    | nil => exact ⟨List.append_nil b, (List.cons.inj hb).2.symm⟩
    | cons c between =>
      obtain ⟨-, rfl⟩ := List.cons.inj hb
      simp at hy

theorem colon_not_mem_toDigits (n : Nat) : ':' ∉ Nat.toDigits 10 n := by
  intro h
  have hdigit := Nat.isDigit_of_mem_toDigits (by decide) (by decide) h
  cases hdigit

theorem eq_of_toDigits_eq {m n : Nat} (h : Nat.toDigits 10 m = Nat.toDigits 10 n) : m = n := by
  rw [← @Nat.ofDigitChars_ten_toDigits m, h, Nat.ofDigitChars_ten_toDigits]

namespace Token

/-- A report, character by character. -/
theorem toList_report (token : Token) :
    token.report.toList =
      (((token.filename.toList ++ ':' :: Nat.toDigits 10 token.stop.line) ++
          ':' :: Nat.toDigits 10 token.start.column) ++ [':', ' ', ' '] ++ '\'' :: token.lexeme.toList) ++
        "' is causing an imbalance".toList := by
  simp [report]

/-- Two tokens without a quote in them, and with one report, stand in files of one name and there in the same
line and column, and say the same. -/
theorem eq_of_report_eq {a b : Token} (ha : '\'' ∉ a.lexeme.toList) (hb : '\'' ∉ b.lexeme.toList)
    (h : a.report = b.report) : a.filename = b.filename ∧ a.stop.line = b.stop.line ∧
      a.start.column = b.start.column ∧ a.lexeme = b.lexeme := by
  have hline := congrArg String.toList h
  rw [toList_report, toList_report, List.append_cancel_right_eq] at hline
  obtain ⟨hplace, hlexeme⟩ := eq_and_eq_of_append_cons ha hb hline
  rw [List.append_cancel_right_eq] at hplace
  obtain ⟨hfile, hcolumn⟩ :=
    eq_and_eq_of_append_cons (colon_not_mem_toDigits _) (colon_not_mem_toDigits _) hplace
  obtain ⟨hname, hline⟩ :=
    eq_and_eq_of_append_cons (colon_not_mem_toDigits _) (colon_not_mem_toDigits _) hfile
  exact ⟨String.toList_injective hname, eq_of_toDigits_eq hline, eq_of_toDigits_eq hcolumn,
    String.toList_injective hlexeme⟩

-- with a quote in a lexeme, part of it may pass for the place of another token
example :
    let inside : Token := ⟨.stringData, ":2:3:  'x", none, "", ⟨1, 1, 0⟩, ⟨1, 10, 9⟩⟩
    let outside : Token := ⟨.symbol, "x", none, ":1:1:  '", ⟨2, 3, 5⟩, ⟨2, 4, 6⟩⟩
    inside.report = outside.report := by
  decide

end Token

theorem WellFormed.kind_ne_endOfText {pieces : List Piece} (h : WellFormed pieces) {piece : Piece}
    (hm : piece ∈ pieces) : piece.kind ≠ .endOfText := by
  obtain ⟨before, after, hp⟩ := List.append_of_mem hm
  have hplaced := h before piece after hp
  obtain ⟨kind, lexeme⟩ := piece
  rintro hk
  obtain rfl : kind = .endOfText := hk
  exact hplaced

theorem WellFormed.exists_lexeme {pieces : List Piece} (h : WellFormed pieces) {piece : Piece}
    (hm : piece ∈ pieces) (hd : piece.kind.delimits = true) :
    ∃ c ∈ ['(', ')', '[', ']', '{', '}', '"'], piece.lexeme = [c] := by
  obtain ⟨before, after, hp⟩ := List.append_of_mem hm
  have hplaced := h before piece after hp
  obtain ⟨kind, lexeme⟩ := piece
  cases kind with
  | endOfText | comment | stringData | symbol | whitespace => cases hd
  | quote => exact ⟨_, by decide, hplaced.1⟩
  | _ => exact ⟨_, by decide, hplaced⟩

namespace Lexer

open TokenStream

/-- A lexer on some text, put to whatever use. -/
inductive Used : Lexer → Prop
  | begun (text : List Char) (filename : String) (source : Option Nat) :
      Used (ofChars text filename source)
  | perform {lexer : Lexer} (used : Used lexer) (operation : Operation) :
      Used (operation.perform lexer).lexer

variable {lexer : Lexer}

/-- Labels aside, it has read some tokens of its text. -/
theorem Used.exists_after (h : lexer.Used) :
    ∃ text n, lexer.label "" none = after n (ofChars text "" none) ∧ lexer.Poised := by
  induction h with
  | begun text filename source => exact ⟨text, 0, rfl, poised_ofChars text filename source⟩
  | @perform lexer _ operation ih =>
    obtain ⟨text, n, hn, hp⟩ := ih
    obtain ⟨m, -, hm⟩ := Operation.exists_perform_taken "" none hp operation
    have hafter : (operation.perform lexer).lexer.label "" none =
        after (n + m) (ofChars text "" none) := by
      rw [hm, ← after_label, hn, after_add]
    have hpoised : ((operation.perform lexer).lexer.label "" none).Poised := by
      rw [hafter]
      exact (poised_ofChars text "" none).after _
    exact ⟨text, n + m, hafter, hpoised.start, hpoised.finished, hpoised.ends⟩

theorem Used.exists_piece (h : lexer.Used) (i : Nat) :
    ∃ (text : List Char) (n : Nat),
      (nth i lexer).piece = (Region.code.slices text)[n]?.getD .ending := by
  obtain ⟨text, n, hn, -⟩ := h.exists_after
  refine ⟨text, n + i, ?_⟩
  have hnext := next_label "" none (after i lexer)
  rw [← after_label, hn, ← after_add] at hnext
  have hpiece : (nth (n + i) (ofChars text "" none)).piece = (nth i lexer).piece :=
    congrArg (fun step => step.1.piece) hnext
  rw [← hpiece, nth_eq, Piece.token, Token.piece, String.toList_ofList]

theorem Used.lexeme_nth (h : lexer.Used) {i : Nat}
    (hk : (nth i lexer).kind.delimits = true ∨ (nth i lexer).isEnd = true) :
    (nth i lexer).lexeme.toList = [] ∨
      ∃ c ∈ ['(', ')', '[', ']', '{', '}', '"'], (nth i lexer).lexeme.toList = [c] := by
  obtain ⟨text, n, hn⟩ := h.exists_piece i
  have hlexeme : (nth i lexer).lexeme.toList = _ := congrArg Piece.lexeme hn
  have hkind : (nth i lexer).kind = _ := congrArg Piece.kind hn
  rw [hlexeme]
  cases hp : (Region.code.slices text)[n]? with
  | none => exact .inl rfl
  | some piece =>
    rw [hp, Option.getD_some] at hkind
    rw [Option.getD_some]
    have ht : Tiles text (Region.code.slices text) := slices_eq_iff_tiles.mp rfl
    obtain ⟨hw, -⟩ := tiles_iff_wellFormed.mp ht
    have hm := List.mem_of_getElem? hp
    rcases hk with hd | he
    · exact .inr (hw.exists_lexeme hm (hkind ▸ hd))
    · exact absurd (hkind ▸ Token.isEnd_iff.mp he) (hw.kind_ne_endOfText hm)

end Lexer

namespace Checker

open TokenStream

variable {lexer : Lexer}

/-- What a checker answers with is a delimiter that the lexer gives, or its end. -/
theorem exists_nth_of_answered (h : lexer.Used) {calls : Nat} {token : Token}
    (hm : token ∈ ((fresh lexer).checks calls).1.map Answer.token) :
    ∃ i, nth i lexer = token ∧ (token.kind.delimits = true ∨ token.isEnd = true) := by
  obtain ⟨-, -, -, hp⟩ := h.exists_after
  have hy := hp.yields
  have he : ∀ token ∈ lexer.drain.tokens, Rules.standard.ends token.kind = false :=
    Lexer.isEnd_of_mem_drain lexer
  rw [fresh, checks_tokens Rules.standard_endsApart (Lexer.isEnd_drain_last lexer) hy he [] calls] at hm
  obtain ⟨i, -, rfl⟩ := List.mem_map.mp hm
  cases hi : (Rules.standard.strays [] lexer.drain.tokens ++
      Rules.standard.leftover [] lexer.drain.tokens)[i]? with
  | none =>
    refine ⟨lexer.drain.tokens.length, ?_, .inr (Lexer.isEnd_drain_last lexer)⟩
    rw [hy.nth, List.getElem?_eq_none (Nat.le_refl _)]
  | some culprit =>
    have hculprit : culprit ∈ lexer.drain.tokens ∧ culprit.kind.delimits = true := by
      rcases List.mem_append.mp (List.mem_of_getElem? hi) with hs | hl
      · obtain ⟨hread, -, hcloses⟩ := Rules.of_mem_strays he culprit hs
        exact ⟨hread, Bool.or_eq_true_iff.mpr (.inr hcloses)⟩
      · have hopens := Rules.standard.opens_of_mem_leftover (by simp) culprit hl
        exact ⟨(Rules.mem_leftover hl).resolve_left List.not_mem_nil,
          Bool.or_eq_true_iff.mpr (.inl hopens)⟩
    obtain ⟨n, hn⟩ := List.mem_iff_getElem?.mp hculprit.1
    exact ⟨n, by rw [hy.nth, hn, Option.getD_some], .inl hculprit.2⟩

/-- So what it says is no character or one, and that a delimiter. -/
theorem lexeme_of_answered (h : lexer.Used) {calls : Nat} {token : Token}
    (hm : token ∈ ((fresh lexer).checks calls).1.map Answer.token) :
    token.lexeme.toList = [] ∨
      ∃ c ∈ ['(', ')', '[', ']', '{', '}', '"'], token.lexeme.toList = [c] := by
  obtain ⟨i, rfl, hk⟩ := exists_nth_of_answered h hm
  exact h.lexeme_nth hk

theorem quote_not_mem_lexeme (h : lexer.Used) {calls : Nat} {token : Token}
    (hm : token ∈ ((fresh lexer).checks calls).1.map Answer.token) : '\'' ∉ token.lexeme.toList := by
  rcases lexeme_of_answered h hm with hl | ⟨c, hc, hl⟩
  · rw [hl]
    exact List.not_mem_nil
  · rw [hl, List.mem_singleton]
    rintro rfl
    revert hc
    decide

/-- From a report that a checker comes to on any lexer, whatever its text and its file are called, one reads
back the name of the file, the line where the culprit ends, the column where it begins, and what it says: two
answers with one report agree in these. -/
theorem reports_read_back {lexer lexer' : Lexer} (h : lexer.Used) (h' : lexer'.Used) {calls calls' : Nat}
    {a b : Token} (ha : a ∈ ((fresh lexer).checks calls).1.map Answer.token)
    (hb : b ∈ ((fresh lexer').checks calls').1.map Answer.token) (hr : a.report = b.report) :
    a.filename = b.filename ∧ a.stop.line = b.stop.line ∧ a.start.column = b.start.column ∧
      a.lexeme = b.lexeme :=
  Token.eq_of_report_eq (quote_not_mem_lexeme h ha) (quote_not_mem_lexeme h' hb) hr

/-- Quotation marks of two texts in files that are named after a report: the first closes a string, but not
for a checker that begins inside. -/
theorem reports_read_back_in_named_file :
    let filename := "a:1:3:  '\"' is causing an imbalance"
    let lexer := (Operation.next.perform (Lexer.ofChars ['"', 'x', '"', '('] filename none)).lexer
    let lexer' := Lexer.ofChars ['é', ')', '"'] filename (some 4)
    let a : Token := ⟨.quote, "\"", none, filename, ⟨1, 3, 2⟩, ⟨1, 4, 3⟩⟩
    let b : Token := ⟨.quote, "\"", some 4, filename, ⟨1, 3, 3⟩, ⟨1, 4, 4⟩⟩
    lexer.Used ∧ lexer'.Used ∧ a ∈ ((fresh lexer).checks 2).1.map Answer.token ∧
      b ∈ ((fresh lexer').checks 3).1.map Answer.token ∧ a.report = b.report ∧
      a.filename = b.filename ∧ a.stop.line = b.stop.line ∧ a.start.column = b.start.column ∧
      a.lexeme = b.lexeme := by
  intro filename lexer lexer' a b
  have h : lexer.Used := .perform (.begun _ _ _) .next
  have h' : lexer'.Used := .begun _ _ _
  have ha : a ∈ ((fresh lexer).checks 2).1.map Answer.token := by decide +kernel
  have hb : b ∈ ((fresh lexer').checks 3).1.map Answer.token := by decide +kernel
  exact ⟨h, h', ha, hb, rfl, reports_read_back h h' ha hb rfl⟩

end Checker

end BracketBalance
