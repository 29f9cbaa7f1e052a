import BracketBalance.Lexer.Mode

namespace BracketBalance

namespace Kind

theorem startingWith_eq_quote_iff {c : Char} : startingWith (some c) = quote ↔ c = '"' := by
  unfold startingWith
  split <;> simp_all

theorem startingWith_eq_comment_iff {c : Char} : startingWith (some c) = comment ↔ c = ';' := by
  unfold startingWith
  split <;> simp_all

def delimits (kind : Kind) : Bool :=
  kind.opens || kind.closes

end Kind

inductive Region
  | code
  | string
  | escape
  | comment
  deriving DecidableEq, Repr

namespace Region

def after : Region → Char → Region
  | code, c =>
    match Kind.startingWith (some c) with
    | .quote => string
    | .comment => comment
    | _ => code
  | string, c => if c = '"' then code else if c = '\\' then escape else string
  | escape, _ => string
  | comment, c => if c = '\n' then code else comment

theorem code_after_quote : code.after '"' = string := rfl

theorem code_after_semicolon : code.after ';' = comment := rfl

def mode : Region → Option Char → Mode
  | _, none => .finished
  | code, some c => .entering (.startingWith (some c))
  | string, some c => .inString (some c)
  | escape, some _ => .stringData
  | comment, some c => if c = '\n' then .whitespace else if c = '\r' then .commentReturn else .comment

theorem mode_code (c : Option Char) : code.mode c = .entering (.startingWith c) := by
  cases c <;> rfl

theorem mode_string (c : Option Char) : string.mode c = .inString c := by
  cases c <;> rfl

theorem inString_some (c : Char) :
    Mode.inString (some c) =
      if c = '"' then .closeQuote else if c = '\\' then .escape else .stringData := by
  unfold Mode.inString
  split <;> simp_all

theorem comment_mode (upcoming : Option Char) :
    (Mode.comment.transition none upcoming).next = comment.mode upcoming := by
  cases upcoming with
  | none => rfl
  | some c =>
    simp only [Mode.transition, mode]
    split <;> simp_all

/-- A character that is read in its region's mode leads to the mode of the region after it. -/
theorem transition_next (region : Region) (c : Char) (upcoming : Option Char) :
    ((region.mode (some c)).transition (some c) upcoming).next =
      (region.after c).mode upcoming := by
  cases region with
  | code =>
    have hd := Kind.startingWith_ne_stringData (some c)
    simp only [after, mode]
    cases hk : Kind.startingWith (some c) with
    | comment => exact comment_mode upcoming
    | quote => exact (mode_string upcoming).symm
    | stringData => exact absurd hk hd
    | _ => exact (mode_code upcoming).symm
  | string =>
    simp only [mode_string, inString_some, after]
    by_cases hq : c = '"'
    · simp only [hq, ↓reduceIte]
      exact (mode_code upcoming).symm
    · by_cases hb : c = '\\'
      · subst hb
        cases upcoming <;> rfl
      · simp only [hq, hb, ↓reduceIte]
        exact (mode_string upcoming).symm
  | escape => exact (mode_string upcoming).symm
  | comment =>
    simp only [mode, after]
    by_cases hn : c = '\n'
    · simp only [hn, ↓reduceIte]
      exact (mode_code upcoming).symm
    · by_cases hr : c = '\r'
      · subst hr
        exact comment_mode upcoming
      · simp only [hn, hr, ↓reduceIte]
        exact comment_mode upcoming

def delimiter? : Region → Char → Option Kind
  | code, c => (some (Kind.startingWith (some c))).filter Kind.delimits
  | string, c => if c = '"' then some .quote else none
  | escape, _ | comment, _ => none

def delimiters : Region → List Char → List Kind
  | _, [] => []
  | region, c :: rest => (region.delimiter? c).toList ++ (region.after c).delimiters rest

def afterAll (region : Region) (text : List Char) : Region :=
  text.foldl after region

theorem afterAll_cons (region : Region) (c : Char) (text : List Char) :
    region.afterAll (c :: text) = (region.after c).afterAll text := rfl

theorem afterAll_append (region : Region) (a b : List Char) :
    region.afterAll (a ++ b) = (region.afterAll a).afterAll b :=
  List.foldl_append

theorem delimiters_append (region : Region) (a b : List Char) :
    region.delimiters (a ++ b) = region.delimiters a ++ (region.afterAll a).delimiters b := by
  induction a generalizing region with
  | nil => rfl
  | cons c a ih => simp [delimiters, ih, afterAll_cons]

/-- A delimiter is a token of its own, and every token that opens or closes is one. -/
theorem transition_delimiter (region : Region) (c : Char) (upcoming : Option Char) :
    let change := (region.mode (some c)).transition (some c) upcoming
    region.delimiter? c =
      if change.emits then (some change.kind).filter Kind.delimits else none := by
  cases region with
  | code =>
    obtain ⟨kind, hk⟩ : ∃ kind, Kind.startingWith (some c) = kind := ⟨_, rfl⟩
    simp only [delimiter?, mode, hk]
    cases kind with
    | comment =>
      simp only [Mode.transition, Mode.entering]
      split <;> rfl
    | symbol | whitespace =>
      simp only [Mode.transition, Mode.entering, hk]
      split <;> rfl
    | stringData => exact absurd hk (Kind.startingWith_ne_stringData _)
    | endOfText => exact absurd hk (Kind.startingWith_ne_endOfText c)
    | _ => simp [Mode.transition, Mode.entering, hk]
  | string =>
    simp only [delimiter?, mode_string, inString_some]
    by_cases hq : c = '"'
    · subst hq
      rfl
    · by_cases hb : c = '\\'
      · subst hb
        cases upcoming <;> rfl
      · simp only [hq, hb, ↓reduceIte, Mode.transition]
        split <;> rfl
  | escape =>
    simp only [delimiter?, mode, Mode.transition]
    exact (ite_self _).symm
  | comment =>
    simp only [delimiter?, mode]
    by_cases hn : c = '\n'
    · subst hn
      simp only [Mode.transition, ↓reduceIte]
      split <;> rfl
    · have hk : ((if c = '\r' then Mode.commentReturn else .comment).transition (some c)
          upcoming).kind = .comment := by
        split <;> simp only [Mode.transition] <;> split <;> rfl
      simp only [hn, ↓reduceIte, hk]
      exact (ite_self _).symm

end Region

end BracketBalance
