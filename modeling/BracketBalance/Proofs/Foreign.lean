import BracketBalance.Proofs.Unmatched
import BracketBalance.Text.Utf8

namespace BracketBalance

namespace Utf8

section

variable {α : Type} (foreign : α → Bool) (marker : α)

/-- The list with one marker in place of each run of foreign elements, where the list may begin within a
run. -/
def blur : Bool → List α → List α
  | _, [] => []
  | inRun, a :: list =>
    if foreign a then
      if inRun then blur true list else marker :: blur true list
    else a :: blur false list

variable {foreign marker}

theorem blur_of_foreign {a : α} (h : foreign a = true) (inRun : Bool) (list : List α) :
    blur foreign marker inRun (a :: list) =
      (if inRun then [] else [marker]) ++ blur foreign marker true list := by
  cases inRun <;> simp [blur, h]

theorem blur_of_native {a : α} (h : foreign a = false) (inRun : Bool) (list : List α) :
    blur foreign marker inRun (a :: list) = a :: blur foreign marker false list := by
  simp [blur, h]

theorem blur_append {run : List α} (h : ∀ a ∈ run, foreign a = true) (list : List α) :
    blur foreign marker true (run ++ list) = blur foreign marker true list := by
  induction run with
  | nil => rfl
  | cons a run ih =>
    obtain ⟨ha, hrun⟩ := List.forall_mem_cons.mp h
    rw [List.cons_append, blur_of_foreign ha, ih hrun]
    rfl

end

def foreignByte (b : UInt8) : Bool := 0x80 ≤ b

def foreignChar (c : Char) : Bool := 0x80 ≤ c.toNat

/-- The bytes with one that begins no character in place of each run beyond ASCII. -/
def masked (bytes : List UInt8) : List UInt8 :=
  blur foreignByte 0xFF false bytes

/-- The rows of the table: the lead bytes, and what may follow them. -/
theorem tailRanges_eq_some {lead : UInt8} {ranges : List (UInt8 × UInt8)}
    (h : tailRanges lead = some ranges) :
    (lead.toNat < 0x80 ∧ ranges = []) ∨
    ((0xC2 ≤ lead.toNat ∧ lead.toNat < 0xE0) ∧ ranges = [(0x80, 0xBF)]) ∨
    (lead.toNat = 0xE0 ∧ ranges = [(0xA0, 0xBF), (0x80, 0xBF)]) ∨
    (lead.toNat = 0xED ∧ ranges = [(0x80, 0x9F), (0x80, 0xBF)]) ∨
    ((0xE0 < lead.toNat ∧ lead.toNat < 0xF0 ∧ lead.toNat ≠ 0xED) ∧
      ranges = [(0x80, 0xBF), (0x80, 0xBF)]) ∨
    (lead.toNat = 0xF0 ∧ ranges = [(0x90, 0xBF), (0x80, 0xBF), (0x80, 0xBF)]) ∨
    ((0xF0 < lead.toNat ∧ lead.toNat < 0xF4) ∧
      ranges = [(0x80, 0xBF), (0x80, 0xBF), (0x80, 0xBF)]) ∨
    (lead.toNat = 0xF4 ∧ ranges = [(0x80, 0x8F), (0x80, 0xBF), (0x80, 0xBF)]) := by
  simp only [tailRanges, ite_eq_iff, reduceCtorEq, and_false, false_or, or_false,
    Option.some.injEq, UInt8.lt_iff_toNat_lt, ← UInt8.toNat_inj, UInt8.reduceToNat] at h
  rcases h with ⟨_, rfl⟩ | ⟨_, _, ⟨_, rfl⟩ | ⟨_, ⟨_, rfl⟩ | ⟨_, ⟨_, rfl⟩ | ⟨_, ⟨_, rfl⟩ | ⟨_, ⟨_, rfl⟩ |
    ⟨_, ⟨_, rfl⟩ | ⟨_, _, rfl⟩⟩⟩⟩⟩⟩⟩
  all_goals
    simp
    omega

theorem foreign_of_mem_tailRanges {lead : UInt8} {ranges : List (UInt8 × UInt8)}
    (h : tailRanges lead = some ranges) : ∀ range ∈ ranges, 0x80 ≤ range.1 := by
  rcases tailRanges_eq_some h with ⟨-, rfl⟩ | ⟨-, rfl⟩ | ⟨-, rfl⟩ | ⟨-, rfl⟩ | ⟨-, rfl⟩ | ⟨-, rfl⟩ |
    ⟨-, rfl⟩ | ⟨-, rfl⟩ <;> simp

theorem take_fitting (ranges : List (UInt8 × UInt8)) (bytes : List UInt8) :
    bytes.take (fitting ranges bytes).length = fitting ranges bytes := by
  fun_induction fitting ranges bytes with
  | case1 low high ranges b bytes fits ih => rw [List.length_cons, List.take_succ_cons, ih]
  | case2 | case3 => rfl

theorem foreign_of_mem_fitting {ranges : List (UInt8 × UInt8)}
    (h : ∀ range ∈ ranges, 0x80 ≤ range.1) (bytes : List UInt8) :
    ∀ b ∈ fitting ranges bytes, foreignByte b = true := by
  fun_induction fitting ranges bytes with
  | case1 low high ranges b bytes fits ih =>
    obtain ⟨hlow, hranges⟩ := List.forall_mem_cons.mp h
    refine List.forall_mem_cons.mpr ⟨?_, ih hranges⟩
    simpa [foreignByte] using UInt8.le_trans hlow fits.1
  | case2 | case3 => simp

theorem foreign_of_mem_take (lead : UInt8) (bytes : List UInt8) :
    ∀ b ∈ bytes.take (first lead bytes).2, foreignByte b = true := by
  unfold first
  split
  · simp
  · next ranges hr =>
    have hf := foreign_of_mem_fitting (foreign_of_mem_tailRanges hr) bytes
    dsimp only
    split <;> rwa [take_fitting]

/-- Where all the tail fits, every byte lies in its range. -/
theorem fitting_forall₂ {ranges : List (UInt8 × UInt8)} {bytes : List UInt8}
    (h : (fitting ranges bytes).length = ranges.length) :
    List.Forall₂ (fun range b => range.1 ≤ b ∧ b ≤ range.2) ranges (fitting ranges bytes) := by
  fun_induction fitting ranges bytes with
  | case1 low high ranges b bytes fits ih => exact .cons fits (ih (by simpa using h))
  | case2 => simp at h
  | case3 ranges =>
    obtain rfl : ranges = [] := List.length_eq_zero_iff.mp h.symm
    exact .nil

theorem foreignChar_ofNat {n : Nat} (h : n < 0xD800 ∨ 0xDFFF < n ∧ n < 0x110000) :
    foreignChar (Char.ofNat n) = decide (0x80 ≤ n) := by
  have hn : (Char.ofNat n).toNat = n := by
    rw [Char.ofNat, dif_pos h]
    rfl
  rw [foreignChar, hn]

/-- A lead byte beyond ASCII with all its tail makes a character beyond ASCII: the ranges leave out the
longer ways to write a character, the surrogates, and what comes after the last code point. -/
theorem foreignChar_compose {lead : UInt8} {ranges : List (UInt8 × UInt8)} {tail : List UInt8}
    (hl : foreignByte lead = true) (hr : tailRanges lead = some ranges)
    (ht : List.Forall₂ (fun range b => range.1 ≤ b ∧ b ≤ range.2) ranges tail) :
    foreignChar (compose lead tail) = true := by
  simp only [foreignByte, decide_eq_true_eq] at hl
  rcases tailRanges_eq_some hr with ⟨hlead, rfl⟩ | ⟨hlead, rfl⟩ | ⟨hlead, rfl⟩ | ⟨hlead, rfl⟩ |
    ⟨hlead, rfl⟩ | ⟨hlead, rfl⟩ | ⟨hlead, rfl⟩ | ⟨hlead, rfl⟩
  all_goals
    simp only [List.forall₂_cons_left_iff, List.forall₂_nil_left_iff, UInt8.le_iff_toNat_le,
      UInt8.reduceToNat] at *
  · omega
  · obtain ⟨b, _, hb, rfl, rfl⟩ := ht
    have hcode : compose lead [b] = Char.ofNat (lead.toNat % 32 * 64 + b.toNat % 64) := rfl
    rw [hcode, foreignChar_ofNat (by omega), decide_eq_true_eq]
    omega
  iterate 3
    obtain ⟨b, _, hb, ⟨c, _, hc, rfl, rfl⟩, rfl⟩ := ht
    have hcode : compose lead [b, c] =
      Char.ofNat ((lead.toNat % 16 * 64 + b.toNat % 64) * 64 + c.toNat % 64) := rfl
    rw [hcode, foreignChar_ofNat (by omega), decide_eq_true_eq]
    omega
  iterate 3
    obtain ⟨b, _, hb, ⟨c, _, hc, ⟨d, _, hd, rfl, rfl⟩, rfl⟩, rfl⟩ := ht
    have hcode : compose lead [b, c, d] = Char.ofNat
      (((lead.toNat % 8 * 64 + b.toNat % 64) * 64 + c.toNat % 64) * 64 + d.toNat % 64) := rfl
    rw [hcode, foreignChar_ofNat (by omega), decide_eq_true_eq]
    omega

theorem foreignChar_first {lead : UInt8} (h : foreignByte lead = true) (bytes : List UInt8) :
    foreignChar (first lead bytes).1 = true := by
  unfold first
  split
  · rfl
  · next ranges hr =>
    dsimp only
    split
    · next hf => exact foreignChar_compose h hr (fitting_forall₂ hf)
    · rfl

theorem foreignChar_ascii {b : UInt8} (h : b < 0x80) : foreignChar (Char.ofNat b.toNat) = false := by
  have hb : b.toNat < 0x80 := h
  rw [foreignChar_ofNat (by omega), decide_eq_false_iff_not]
  omega

theorem ne_of_foreign {c d : Char} (hc : foreignChar c = true) (hd : foreignChar d = false) : c ≠ d := by
  rintro rfl
  rw [hc] at hd
  cases hd

theorem decode_marker (bytes : List UInt8) : decode (0xFF :: bytes) = replacement :: decode bytes := by
  rw [decode_cons]
  rfl

/-- One marker for each run of bytes beyond ASCII is one marker for each run of characters. -/
theorem decode_blur (inRun : Bool) (bytes : List UInt8) :
    decode (blur foreignByte 0xFF inRun bytes) = blur foreignChar replacement inRun (decode bytes) := by
  fun_induction decode bytes generalizing inRun with
  | case1 => rw [blur, decode_nil, blur]
  | case2 lead bytes c used hfirst ih =>
    cases hl : foreignByte lead with
    | false =>
      have hlt : lead < 0x80 := by simpa [foreignByte] using hl
      have hascii : first lead bytes = (Char.ofNat lead.toNat, 0) := first_ascii hlt bytes
      obtain ⟨rfl, rfl⟩ : c = Char.ofNat lead.toNat ∧ used = 0 := by
        simpa [hfirst] using hascii
      rw [blur_of_native hl, blur_of_native (foreignChar_ascii hlt), decode_ascii_cons hlt, ← ih,
        List.drop_zero]
    | true =>
      have hc : foreignChar c = true := by simpa [hfirst] using foreignChar_first hl bytes
      have hused : ∀ b ∈ bytes.take used, foreignByte b = true := by
        simpa [hfirst] using foreign_of_mem_take lead bytes
      have hrest : blur foreignByte 0xFF true bytes = blur foreignByte 0xFF true (bytes.drop used) := by
        rw [← blur_append hused (bytes.drop used), List.take_append_drop]
      rw [blur_of_foreign hl, blur_of_foreign hc, hrest, ← ih]
      cases inRun with
      | true => rfl
      | false => exact decode_marker _

end Utf8

open Utf8 (blur foreignByte foreignChar masked replacement)

def Position.SameLine (p q : Position) : Prop :=
  p.line = q.line

theorem Position.SameLine.advance {p q : Position} (h : p.SameLine q) (c : Char) :
    (p.advance c).SameLine (q.advance c) := by
  have hl : p.line = q.line := h
  unfold SameLine Position.advance
  split <;> simp [hl]

theorem Position.line_advance_of_foreign {c : Char} (h : foreignChar c = true) (p : Position) :
    (p.advance c).line = p.line := by
  rw [Position.advance, if_neg (Utf8.ne_of_foreign h rfl)]

theorem Kind.startingWith_of_foreign {c : Char} (h : foreignChar c = true) :
    startingWith (some c) = .symbol := by
  unfold startingWith
  split <;> simp_all [foreignChar]

namespace Region

/-- Characters beyond ASCII delimit nothing, and leave a region as it is unless it is an escape. -/
theorem after_of_foreign {c : Char} (h : foreignChar c = true) (region : Region) :
    region.after c = (if region = .escape then .string else region) ∧
      region.delimiter? c = none := by
  have hk := Kind.startingWith_of_foreign h
  have hne : ∀ d : Char, foreignChar d = false → c ≠ d := fun _ => Utf8.ne_of_foreign h
  cases region with
  | code => simp [after, delimiter?, hk, Kind.delimits, Kind.opens, Kind.closes]
  | string => simp [after, delimiter?, hne '"' rfl, hne '\\' rfl]
  | escape => exact ⟨rfl, rfl⟩
  | comment => simp [after, delimiter?, hne '\n' rfl]

/-- With one marker in place of each run of characters beyond ASCII a text has the same marks on the same
lines. Within a run the region is no escape: the backslash took the first character of the run. -/
theorem marks_blur (filename : String) (source : Option Nat) (region : Region) {inRun : Bool}
    (hr : inRun = true → region ≠ .escape) {p q : Position} (h : p.SameLine q) (text : List Char) :
    List.Forall₂ (Token.Corresponds Position.SameLine) (region.marks filename source p text)
      (region.marks filename source q (blur foreignChar replacement inRun text)) := by
  induction text generalizing region inRun p q with
  | nil => exact .nil
  | cons c text ih =>
    cases hc : foreignChar c with
    | false =>
      rw [Utf8.blur_of_native hc]
      have hadvance : (p.advance c).SameLine (q.advance c) := h.advance c
      exact marks_cons_forall₂ h hadvance (ih _ (fun hn : false = true => nomatch hn) hadvance)
    | true =>
      obtain ⟨ha, hd⟩ := after_of_foreign hc region
      have hp : (p.advance c).SameLine q := (Position.line_advance_of_foreign hc p).trans h
      rw [Utf8.blur_of_foreign hc, marks_of_delimiter?_eq_none _ _ hd, ha]
      cases inRun with
      | true =>
        have hrun : (if region = .escape then string else region) = region := if_neg (hr rfl)
        rw [hrun]
        exact ih _ hr hp
      | false =>
        have hmarker : foreignChar replacement = true := rfl
        obtain ⟨ham, hdm⟩ := after_of_foreign hmarker region
        have hne : (if region = .escape then string else region) ≠ escape := by
          split
          · decide
          · assumption
        rw [if_neg Bool.false_ne_true, List.singleton_append,
          marks_of_delimiter?_eq_none _ _ hdm, ham]
        exact ih _ (fun _ => hne) (hp.trans (Position.line_advance_of_foreign hmarker q).symm)

end Region

theorem Utf8.count_blur (inRun : Bool) (text : List Char) :
    (blur foreignChar replacement inRun text).count '\n' = text.count '\n' := by
  induction text generalizing inRun with
  | nil => rfl
  | cons c text ih =>
    cases hc : foreignChar c with
    | false => rw [blur_of_native hc, List.count_cons, List.count_cons, ih]
    | true =>
      have hmarker : [replacement].count '\n' = 0 := by decide
      rw [blur_of_foreign hc, List.count_append, ih, List.count_cons_of_ne (ne_of_foreign hc rfl)]
      cases inRun with
      | false => rw [if_neg Bool.false_ne_true, hmarker, Nat.zero_add]
      | true => rw [if_pos rfl, List.count_nil, Nat.zero_add]

theorem Position.sameLine_ofText (text : List Char) :
    (ofText text).SameLine (ofText (blur foreignChar replacement false text)) := by
  rw [SameLine, ofText, ofText, Utf8.count_blur]

/-- Tokens that correspond to the same tokens correspond to each other. -/
theorem Token.corresponds_of_common {a b c : List Token}
    (ha : List.Forall₂ (Corresponds Position.SameLine) a c)
    (hb : List.Forall₂ (Corresponds Position.SameLine) b c) :
    List.Forall₂ (Corresponds Position.SameLine) a b := by
  induction ha generalizing b with
  | nil =>
    cases hb
    exact .nil
  | cons head _ ih =>
    cases hb with
    | cons other rest =>
      refine .cons ⟨?_, ?_, ?_, ?_, ?_⟩ (ih rest)
      · exact head.kind.trans other.kind.symm
      · exact head.lexeme.trans other.lexeme.symm
      · exact head.filename.trans other.filename.symm
      · exact head.start.trans other.start.symm
      · exact head.stop.trans other.stop.symm

namespace Checker

/-- Characters beyond ASCII, one or many, make no difference but to columns and offsets. -/
theorem answers_blur (text : List Char) (filename : String) (source : Option Nat) (calls : Nat) :
    List.Forall₂ (Token.Corresponds Position.SameLine) (answers text filename source calls)
      (answers (blur foreignChar replacement false text) filename source calls) := by
  apply answers_forall₂
  · apply Rules.unmatched_forall₂ (fun _ _ h => h.kind) .standard
    exact Region.marks_blur filename source .code (fun hn : false = true => nomatch hn) rfl text
  · have hl := Position.sameLine_ofText text
    exact ⟨rfl, rfl, rfl, hl, hl⟩

/-- Bytes that differ only in what their runs beyond ASCII are made of: whether those are UTF-8 or not,
every call answers with the same kind and lexeme on the same lines. -/
theorem answers_of_masked {a b : List UInt8} (h : masked a = masked b) (filename : String)
    (source : Option Nat) (calls : Nat) :
    let answersOn (bytes : List UInt8) := answers (Utf8.decode bytes) filename source calls
    (answersOn a).length = calls ∧
      List.Forall₂ (Token.Corresponds Position.SameLine) (answersOn a) (answersOn b) := by
  intro answersOn
  have hblur : ∀ bytes, List.Forall₂ (Token.Corresponds Position.SameLine) (answersOn bytes)
      (answersOn (masked bytes)) := by
    intro bytes
    have hb := answers_blur (Utf8.decode bytes) filename source calls
    rwa [← Utf8.decode_blur] at hb
  refine ⟨length_answers _ filename source calls, ?_⟩
  exact Token.corresponds_of_common (hblur a) (h ▸ hblur b)

/-- In a string, after a backslash: a character that breaks off, and bytes that begin none. -/
theorem answers_of_masked_escape :
    let truncated : List UInt8 := [0x22, 0x5C, 0xE2, 0x82, 0x22, 0x29]
    let stray : List UInt8 := [0x22, 0x5C, 0xC0, 0x80, 0xFF, 0xBF, 0x22, 0x29]
    masked truncated = masked stray ∧
      List.Forall₂ (Token.Corresponds Position.SameLine)
        (answers (Utf8.decode truncated) "" none 2) (answers (Utf8.decode stray) "" none 2) := by
  intro truncated stray
  have hm : masked truncated = masked stray := by decide
  exact ⟨hm, (answers_of_masked hm "" none 2).2⟩

end Checker

end BracketBalance
