import BracketBalance.Proofs.Region

namespace BracketBalance

/-- What may stand between two quotation marks: each backslash takes the character after it. -/
inductive StringBody : List Char → Prop
  | nil : StringBody []
  | plain {c : Char} {body : List Char} (quote : c ≠ '"') (backslash : c ≠ '\\')
      (rest : StringBody body) : StringBody (c :: body)
  | escape {body : List Char} (c : Char) (rest : StringBody body) : StringBody ('\\' :: c :: body)

namespace Region

theorem after_string_of_plain {c : Char} (hq : c ≠ '"') (hb : c ≠ '\\') : string.after c = string := by
  simp [after, hq, hb]

theorem delimiter?_string_of_ne {c : Char} (hq : c ≠ '"') : string.delimiter? c = none := by
  simp [delimiter?, hq]

/-- The text leaves the region as it is, and nothing in it opens or closes. -/
def Quiet (region : Region) (text : List Char) : Prop :=
  region.afterAll text = region ∧ region.delimiters text = []

theorem Quiet.cons {region : Region} {c : Char} {text : List Char} (ha : region.after c = region)
    (hd : region.delimiter? c = none) (h : region.Quiet text) : region.Quiet (c :: text) := by
  obtain ⟨ho, hn⟩ := h
  constructor
  · rw [afterAll, List.foldl_cons, ha]
    exact ho
  · rw [delimiters, ha, hd, hn]
    rfl

theorem quiet_comment {line : List Char} (h : '\n' ∉ line) : comment.Quiet line := by
  induction line with
  | nil => exact ⟨rfl, rfl⟩
  | cons c line ih =>
    have hc := List.ne_of_not_mem_cons h
    have ha : comment.after c = comment := by simp [after, hc.symm]
    exact .cons ha rfl (ih (List.not_mem_of_not_mem_cons h))

end Region

theorem StringBody.quiet {body : List Char} (h : StringBody body) : Region.string.Quiet body := by
  induction h with
  | nil => exact ⟨rfl, rfl⟩
  | plain quote backslash _ ih =>
    exact .cons (Region.after_string_of_plain quote backslash)
      (Region.delimiter?_string_of_ne quote) ih
  | escape _ _ ih => exact ih

/-- A text in a string is a body up to its end, to a backslash at its end or to a quotation mark. -/
theorem exists_stringBody (text : List Char) :
    ∃ body rest, text = body ++ rest ∧ StringBody body ∧
      (rest = [] ∨ rest = ['\\'] ∨ ∃ more, rest = '"' :: more) := by
  match text with
  | [] => exact ⟨[], [], rfl, .nil, .inl rfl⟩
  | c :: text =>
    by_cases hq : c = '"'
    · subst hq
      exact ⟨[], _, rfl, .nil, .inr (.inr ⟨text, rfl⟩)⟩
    · by_cases hb : c = '\\'
      · subst hb
        match text with
        | [] => exact ⟨[], _, rfl, .nil, .inr (.inl rfl)⟩
        | d :: text =>
          obtain ⟨body, rest, rfl, hbody, hrest⟩ := exists_stringBody text
          exact ⟨'\\' :: d :: body, rest, rfl, .escape d hbody, hrest⟩
      · obtain ⟨body, rest, rfl, hbody, hrest⟩ := exists_stringBody text
        exact ⟨c :: body, rest, rfl, .plain hq hb hbody, hrest⟩

/-- A text in a comment is a line up to its end or to a line feed. -/
theorem exists_line (text : List Char) :
    ∃ line rest, text = line ++ rest ∧ '\n' ∉ line ∧ (rest = [] ∨ ∃ more, rest = '\n' :: more) := by
  induction text with
  | nil => exact ⟨[], [], rfl, by simp, .inl rfl⟩
  | cons c text ih =>
    by_cases hc : c = '\n'
    · subst hc
      exact ⟨[], _, rfl, by simp, .inr ⟨text, rfl⟩⟩
    · obtain ⟨line, rest, rfl, hline, hrest⟩ := ih
      exact ⟨c :: line, rest, rfl, List.not_mem_cons_of_ne_of_not_mem (Ne.symm hc) hline, hrest⟩

end BracketBalance
