import Mathlib.Data.List.Chain
import BracketBalance.Proofs.Balanced

namespace BracketBalance.Rules

variable {rules : Rules}

def closesTop (rules : Rules) (opened : List Kind) (kind : Kind) : Bool :=
  match opened with
  | [] => false
  | top :: _ => rules.pairs top kind

/-- The kinds that wait after one more, unless it closes nothing that could be closed. -/
def absorb? (rules : Rules) (opened : List Kind) (kind : Kind) : Option (List Kind) :=
  if rules.closes kind && rules.closesTop opened kind then some opened.tail
  else if rules.opens kind then some (kind :: opened)
  else if rules.closes kind then none
  else some opened

def reduce? (rules : Rules) (opened kinds : List Kind) : Option (List Kind) :=
  kinds.foldlM rules.absorb? opened

@[simp] theorem reduce?_nil (rules : Rules) (opened : List Kind) :
    rules.reduce? opened [] = some opened := rfl

theorem reduce?_cons (rules : Rules) (opened kinds : List Kind) (kind : Kind) :
    rules.reduce? opened (kind :: kinds) =
      (rules.absorb? opened kind).bind (rules.reduce? · kinds) := rfl

theorem reduce?_append (rules : Rules) (opened a b : List Kind) :
    rules.reduce? opened (a ++ b) = (rules.reduce? opened a).bind (rules.reduce? · b) :=
  List.foldlM_append

theorem absorb?_neutral {opened : List Kind} {kind : Kind} (ho : rules.opens kind = false)
    (hc : rules.closes kind = false) : rules.absorb? opened kind = some opened := by
  simp [absorb?, ho, hc]

theorem absorb?_pop {below : List Kind} {top kind : Kind} (hc : rules.closes kind = true)
    (hp : rules.pairs top kind = true) : rules.absorb? (top :: below) kind = some below := by
  simp [absorb?, closesTop, hc, hp]

theorem absorb?_push {opened : List Kind} {kind : Kind} (ho : rules.opens kind = true)
    (hm : rules.closes kind = true → rules.closesTop opened kind = false) :
    rules.absorb? opened kind = some (kind :: opened) := by
  cases hc : rules.closes kind with
  | true => simp [absorb?, ho, hc, hm hc]
  | false => simp [absorb?, ho, hc]

theorem closesTop_map (rules : Rules) (waiting : List Token) (token : Token) :
    rules.closesTop (waiting.map Token.kind) token.kind = rules.matchesTop waiting token := by
  cases waiting <;> rfl

theorem absorb?_of_judge {waiting left : List Token} {token : Token}
    (h : rules.judge waiting token = .proceed left) :
    rules.absorb? (waiting.map Token.kind) token.kind = some (left.map Token.kind) := by
  have hj := rules.judged waiting token
  rw [h] at hj
  cases hj with
  | pass _ opens closes _ => exact absorb?_neutral opens closes
  | push _ opens unmatched => exact absorb?_push opens (by rwa [closesTop_map])
  | pop _ closes pairs => exact absorb?_pop closes pairs

theorem judge_of_absorb? {waiting : List Token} {token : Token} {opened : List Kind}
    (h : rules.absorb? (waiting.map Token.kind) token.kind = some opened)
    (he : rules.ends token.kind = false) :
    ∃ left, rules.judge waiting token = .proceed left ∧ left.map Token.kind = opened := by
  have hj := rules.judged waiting token
  generalize hv : rules.judge waiting token = verdict at hj
  cases hj with
  | pass | push | pop => exact ⟨_, rfl, Option.some.inj ((absorb?_of_judge hv).symm.trans h)⟩
  | stray _ opens closes unmatched _ =>
    simp [absorb?, closesTop_map, opens, closes, unmatched] at h
  | unclosed _ _ _ ends | complete _ _ _ ends => simp [he] at ends

theorem Passes.reduce? {waiting tokens left : List Token} (h : rules.Passes waiting tokens left) :
    rules.reduce? (waiting.map Token.kind) (tokens.map Token.kind) = some (left.map Token.kind) := by
  induction h with
  | nil => rfl
  | cons first _ ih =>
    rw [List.map_cons, reduce?_cons, absorb?_of_judge first]
    exact ih

theorem passes_of_reduce? {waiting tokens : List Token} {opened : List Kind}
    (h : rules.reduce? (waiting.map Token.kind) (tokens.map Token.kind) = some opened)
    (he : ∀ token ∈ tokens, rules.ends token.kind = false) :
    ∃ left, rules.Passes waiting tokens left ∧ left.map Token.kind = opened := by
  induction tokens generalizing waiting with
  | nil => exact ⟨waiting, .nil, Option.some.inj h⟩
  | cons token tokens ih =>
    rw [List.map_cons, reduce?_cons] at h
    obtain ⟨middle, ha, hr⟩ := Option.bind_eq_some_iff.mp h
    obtain ⟨het, hes⟩ := List.forall_mem_cons.mp he
    obtain ⟨next, hj, rfl⟩ := judge_of_absorb? ha het
    obtain ⟨left, hp, hl⟩ := ih hr hes
    exact ⟨left, .cons hj hp, hl⟩

theorem passes_iff_reduce? {tokens : List Token}
    (he : ∀ token ∈ tokens, rules.ends token.kind = false) :
    rules.Passes [] tokens [] ↔ rules.reduce? [] (tokens.map Token.kind) = some [] := by
  constructor
  · exact Passes.reduce?
  · intro h
    have hr : rules.reduce? ([].map Token.kind) (tokens.map Token.kind) = some [] := h
    obtain ⟨left, hp, hl⟩ := passes_of_reduce? hr he
    rw [List.map_eq_nil_iff] at hl
    exact hl ▸ hp

/-- Kinds that neither open nor close may be left out. -/
theorem reduce?_filter {keep : Kind → Bool}
    (hk : ∀ kind, keep kind = false → rules.opens kind = false ∧ rules.closes kind = false)
    (opened kinds : List Kind) :
    rules.reduce? opened (kinds.filter keep) = rules.reduce? opened kinds := by
  induction kinds generalizing opened with
  | nil => rfl
  | cons kind kinds ih =>
    cases h : keep kind with
    | true =>
      rw [List.filter_cons_of_pos h, reduce?_cons, reduce?_cons]
      exact Option.bind_congr (fun left _ => ih left)
    | false =>
      obtain ⟨ho, hc⟩ := hk kind h
      rw [List.filter_cons_of_neg (by simp [h]), reduce?_cons, absorb?_neutral ho hc, ih]
      rfl

/-- A kind that both opens and closes makes a pair with no kind that opens or closes but itself. -/
def SelfPaired (rules : Rules) : Prop :=
  ∀ kind other, rules.opens kind = true → rules.closes kind = true →
    (rules.opens other = true ∨ rules.closes other = true) →
    (rules.pairs kind other = true ∨ rules.pairs other kind = true) → other = kind

theorem standard_selfPaired : standard.SelfPaired := by
  intro kind other ho hc _ hp
  obtain rfl := (Kind.opens_and_closes_iff kind).mp ⟨ho, hc⟩
  cases other <;> simp [standard, Kind.pairs, Kind.closer?] at hp ⊢

/-- Only openers wait, and none of them could have closed the one below it. -/
def Settled (rules : Rules) (opened : List Kind) : Prop :=
  (∀ kind ∈ opened, rules.opens kind = true) ∧
    opened.IsChain (fun kind below => rules.closes kind = true → rules.pairs below kind = false)

theorem settled_nil (rules : Rules) : rules.Settled [] :=
  ⟨by simp, .nil⟩

theorem Settled.push {opened : List Kind} {kind : Kind} (h : rules.Settled opened)
    (ho : rules.opens kind = true)
    (hm : rules.closes kind = true → rules.closesTop opened kind = false) :
    rules.Settled (kind :: opened) := by
  refine ⟨List.forall_mem_cons.mpr ⟨ho, h.1⟩, ?_⟩
  cases opened with
  | nil => exact .singleton _
  | cons top below => exact .cons_cons hm h.2

theorem Settled.tail {opened : List Kind} {top : Kind} (h : rules.Settled (top :: opened)) :
    rules.Settled opened :=
  ⟨(List.forall_mem_cons.mp h.1).2, h.2.tail⟩

theorem Settled.closesTop {below : List Kind} {top : Kind} (h : rules.Settled (top :: below))
    (hc : rules.closes top = true) : rules.closesTop below top = false := by
  cases below with
  | nil => rfl
  | cons next _ => exact (List.isChain_cons_cons.mp h.2).1 hc

/-- Absorbing a balanced sequence changes nothing. Where the opener of a pair is taken for a closer of
what waits, its partner is pushed in its place. -/
theorem Balanced.reduce? (self : rules.SelfPaired) {kinds : List Kind} (h : rules.Balanced kinds) :
    ∀ opened, rules.Settled opened → rules.reduce? opened kinds = some opened := by
  induction h with
  | nil => exact fun _ _ => rfl
  | neutral ho hc =>
    intro opened _
    rw [reduce?_cons, absorb?_neutral ho hc]
    rfl
  | append _ _ iha ihb =>
    intro opened hs
    rw [reduce?_append, iha opened hs]
    exact ihb opened hs
  | @wrap inner opener closer _ ho hc hp ih =>
    intro opened hs
    rw [List.cons_append, reduce?_cons]
    by_cases hm : rules.closes opener = true ∧ rules.closesTop opened opener = true
    · obtain ⟨hoc, hm⟩ := hm
      obtain rfl : closer = opener := self opener closer ho hoc (.inr hc) (.inl hp)
      cases opened with
      | nil => cases hm
      | cons top below =>
        have htop := hs.1 top List.mem_cons_self
        obtain rfl : top = closer := self closer top ho hoc (.inl htop) (.inr hm)
        rw [absorb?_pop hoc hp, Option.bind_some, reduce?_append, ih below hs.tail, Option.bind_some,
          reduce?_cons, absorb?_push ho (fun _ => hs.closesTop hoc)]
        rfl
    · have hm : rules.closes opener = true → rules.closesTop opened opener = false := by
        simpa using hm
      rw [absorb?_push ho hm, Option.bind_some, reduce?_append, ih _ (hs.push ho hm),
        Option.bind_some, reduce?_cons, absorb?_pop hc hp]
      rfl

/-- Tokens that do not end a text pass a fresh check and leave nothing waiting exactly when their kinds
are balanced. -/
theorem passes_iff_balanced (self : rules.SelfPaired) {tokens : List Token}
    (he : ∀ token ∈ tokens, rules.ends token.kind = false) :
    rules.Passes [] tokens [] ↔ rules.Balanced (tokens.map Token.kind) := by
  constructor
  · exact Passes.balanced
  · intro h
    exact (passes_iff_reduce? he).mpr (h.reduce? self [] rules.settled_nil)

end BracketBalance.Rules
