import BracketBalance.Proofs.Ledger
import BracketBalance.Proofs.Calls
import BracketBalance.Proofs.Drain

namespace BracketBalance

namespace Rules

variable {rules : Rules}

def strays (rules : Rules) : List Token → List Token → List Token
  | _, [] => []
  | waiting, token :: tokens =>
    (rules.judge waiting token).culprit?.toList ++
      strays rules ((rules.judge waiting token).waiting waiting) tokens

/-- The tokens that these are answered with, wherever they come to an end. -/
def replies (rules : Rules) : List Token → List Token → List Token
  | _, [] => []
  | waiting, token :: tokens =>
    ((rules.judge waiting token).reply? token).toList ++
      replies rules ((rules.judge waiting token).waiting waiting) tokens

def leftover (rules : Rules) (waiting tokens : List Token) : List Token :=
  tokens.foldl (fun waiting token => (rules.judge waiting token).waiting waiting) waiting

theorem Passes.leftover {waiting tokens left : List Token} (h : rules.Passes waiting tokens left)
    (rest : List Token) :
    rules.leftover waiting (tokens ++ rest) = rules.leftover left rest ∧
      rules.strays waiting (tokens ++ rest) = rules.strays left rest := by
  induction h with
  | nil => exact ⟨rfl, rfl⟩
  | cons first _ ih =>
    simpa [Rules.leftover, strays, first, Verdict.waiting, Verdict.culprit?] using ih

/-- The ledger of tokens before an end holds the same strays and leftovers. -/
theorem ledger_strays (apart : rules.EndsApart) {tokens : List Token}
    (he : ∀ token ∈ tokens, rules.ends token.kind = false) {ledger : Ledger}
    (h : rules.Accounted ledger) :
    (tokens.foldl rules.enter ledger).reported =
        ledger.reported ++ rules.strays ledger.waiting tokens ∧
      (tokens.foldl rules.enter ledger).waiting = rules.leftover ledger.waiting tokens := by
  induction tokens generalizing ledger with
  | nil => simp [strays, leftover]
  | cons token tokens ih =>
    obtain ⟨het, hes⟩ := List.forall_mem_cons.mp he
    obtain ⟨hw, -, -, hr⟩ := enter_follows apart h token
    obtain ⟨hreported, hwaiting⟩ := ih hes (h.enter apart token)
    rw [List.foldl_cons, hreported, hwaiting, hw, hr het]
    exact ⟨by simp [strays], rfl⟩

theorem Passes.replies {waiting tokens left : List Token} (h : rules.Passes waiting tokens left)
    (rest : List Token) : rules.replies waiting (tokens ++ rest) = rules.replies left rest := by
  induction h with
  | nil => rfl
  | cons first _ ih => simpa [Rules.replies, first, Verdict.waiting, Verdict.reply?] using ih

/-- Before an end only strays are answered with. -/
theorem replies_eq_strays {tokens : List Token} (he : ∀ token ∈ tokens, rules.ends token.kind = false)
    (waiting : List Token) : rules.replies waiting tokens = rules.strays waiting tokens := by
  induction tokens generalizing waiting with
  | nil => rfl
  | cons token tokens ih =>
    obtain ⟨het, hes⟩ := List.forall_mem_cons.mp he
    have hr : (rules.judge waiting token).reply? token = (rules.judge waiting token).culprit? := by
      have hj := rules.judged waiting token
      generalize rules.judge waiting token = verdict at hj
      cases hj with
      | pass | push | pop | stray => rfl
      | unclosed _ _ _ ends | complete _ _ _ ends => simp [het] at ends
    rw [replies, strays, hr, ih hes]

/-- An answer is the first of the replies and leftovers to come, and the others remain. -/
theorem reply_head (apart : rules.EndsApart) {left rest read : List Token} {last : Token}
    {answer : Answer} (hl : rules.ends last.kind = true)
    (ha : (rules.judge left (rest.head?.getD last)).answer? (rest.head?.getD last) read = some answer) :
    answer.token = (rules.replies left rest ++ rules.leftover left rest).head?.getD last ∧
      rules.replies ((rules.judge left (rest.head?.getD last)).waiting left) rest.tail ++
          rules.leftover ((rules.judge left (rest.head?.getD last)).waiting left) rest.tail =
        (rules.replies left rest ++ rules.leftover left rest).tail := by
  cases rest with
  | cons token rest =>
    simp only [List.head?_cons, Option.getD_some, replies, leftover, List.foldl_cons] at ha ⊢
    generalize rules.judge left token = verdict at ha
    cases verdict with
    | proceed waiting => cases ha
    | balanced | unbalanced => cases ha; exact ⟨rfl, rfl⟩
  | nil =>
    have hj := rules.judged left last
    simp only [List.head?_nil, Option.getD_none, replies, leftover, List.foldl_nil] at ha ⊢
    generalize rules.judge left last = verdict at ha hj
    cases hj with
    | pass | push | pop => cases ha
    | stray _ _ closes _ _ => simp [(apart _ hl).2] at closes
    | unclosed | complete => cases ha; exact ⟨rfl, rfl⟩

end Rules

namespace Checker

open TokenStream

variable {σ : Type} [TokenStream σ] {stream : σ} {rules : Rules} {tokens waiting : List Token}
  {last : Token}

def culprits : Nat → Checker σ → List Token
  | 0, _ => []
  | n + 1, checker => checker.verdict.culprit?.toList ++ culprits n checker.turn

theorem culprits_add (m n : Nat) (checker : Checker σ) :
    culprits (m + n) checker = culprits m checker ++ culprits n (turns m checker) := by
  induction m generalizing checker with
  | zero => simp [culprits, turns]
  | succ m ih => rw [Nat.succ_add]; simp [culprits, turns, ih]

theorem verdict_turns (h : Yields stream rules tokens last) (waiting : List Token) (n : Nat) :
    (turns n ⟨waiting, stream⟩).verdict =
      rules.judge (turns n ⟨waiting, stream⟩).waiting (nth n stream) := by
  rw [verdict, turns_stream, h.rules n]
  rfl

theorem ledger_turns (apart : rules.EndsApart) (h : Yields stream rules tokens last) (n : Nat) :
    rules.Accounted (rules.ledger (firsts n stream)) ∧
      (rules.ledger (firsts n stream)).read = firsts n stream ∧
      (rules.ledger (firsts n stream)).waiting = (turns n (fresh stream)).waiting ∧
      (rules.ledger (firsts n stream)).reported.Perm (culprits n (fresh stream)) := by
  induction n with
  | zero => exact ⟨.base rfl .nil, rfl, rfl, .nil⟩
  | succ n ih =>
    obtain ⟨ha, hread, hwaiting, hreported⟩ := ih
    obtain ⟨hw, hr, hp, -⟩ := Rules.enter_follows apart ha (nth n stream)
    have hl : rules.ledger (firsts (n + 1) stream) =
        rules.enter (rules.ledger (firsts n stream)) (nth n stream) := by
      rw [firsts_succ, Rules.ledger, List.foldl_append]
      rfl
    have hv : (turns n (fresh stream)).verdict =
        rules.judge (turns n (fresh stream)).waiting (nth n stream) := verdict_turns h [] n
    rw [hwaiting] at hw hp
    rw [hl, turns_add, culprits_add]
    refine ⟨ha.enter apart _, by rw [hr, hread, firsts_succ], ?_, ?_⟩
    · rw [hw, ← hv]
      rfl
    · rw [← hv] at hp
      exact hp.trans (by simpa [culprits] using hreported.append_right _)

theorem culprits_of_passes {passed left : List Token} (hp : rules.Passes waiting passed left) :
    ∀ {stream : σ}, Yields stream rules (passed ++ tokens) last →
      culprits passed.length ⟨waiting, stream⟩ = [] := by
  induction hp with
  | nil => exact fun _ => rfl
  | @cons waiting next left token passed first _ ih =>
    intro stream h
    have hf : (TokenStream.next stream).1 = token := h.first
    have hv : verdict ⟨waiting, stream⟩ = .proceed next := by
      simp only [verdict, h.rules_eq, hf, first]
    have ht : turn ⟨waiting, stream⟩ = ⟨next, (TokenStream.next stream).2⟩ := by
      simp only [turn, hv, Verdict.waiting]
    rw [List.length_cons, culprits, hv, ht, ih h.tail]
    rfl

/-- A call is a number of turns, of which only the last may report. -/
theorem check?_turns (apart : rules.EndsApart) (hl : rules.ends last.kind = true)
    (h : Yields stream rules tokens last) (waiting : List Token) :
    ∃ k answer, check? ⟨waiting, stream⟩ = some (answer, turns (k + 1) ⟨waiting, stream⟩) ∧
      answer.read.reverse = firsts (k + 1) stream ∧
      culprits (k + 1) ⟨waiting, stream⟩ = if answer.reported then [answer.token] else [] := by
  obtain ⟨passed, rest, left, answer, rfl, hp, ha, ht, hc⟩ := check?_of_yields apart hl h waiting
  have hv : (turns passed.length ⟨waiting, stream⟩).verdict =
      rules.judge left (rest.head?.getD last) := by
    rw [verdict_turns h, ht, h.nth_length]
  refine ⟨passed.length, answer, hc, ?_, ?_⟩
  · rw [h.firsts, (Rules.concludes_of_judge apart ha).1]
    simp
  · rw [culprits_add, culprits_of_passes hp h, culprits, hv]
    cases hj : rules.judge left (rest.head?.getD last) <;> rw [hj] at ha <;> cases ha <;> rfl

theorem checks_turns (apart : rules.EndsApart) (hl : rules.ends last.kind = true)
    (h : Yields stream rules tokens last) (waiting : List Token) (n : Nat) :
    ((⟨waiting, stream⟩ : Checker σ).checks n).1.length = n ∧
      ∃ m, ((⟨waiting, stream⟩ : Checker σ).checks n).2 = turns m ⟨waiting, stream⟩ ∧
        ((⟨waiting, stream⟩ : Checker σ).checks n).1.flatMap (·.read.reverse) = firsts m stream ∧
        (((⟨waiting, stream⟩ : Checker σ).checks n).1.filter Answer.reported).map Answer.token =
          culprits m ⟨waiting, stream⟩ := by
  induction n generalizing stream tokens waiting with
  | zero => exact ⟨rfl, 0, rfl, rfl, rfl⟩
  | succ n ih =>
    obtain ⟨k, answer, hc, hread, hculprits⟩ := check?_turns apart hl h waiting
    have hstream : (turns (k + 1) (⟨waiting, stream⟩ : Checker σ)).stream = after (k + 1) stream :=
      turns_stream _ _
    generalize hnext : turns (k + 1) (⟨waiting, stream⟩ : Checker σ) = next at hc hstream
    obtain ⟨left, rest⟩ := next
    obtain rfl : rest = after (k + 1) stream := hstream
    obtain ⟨hlen, m, hm, hr, hcs⟩ := ih (h.drop (k + 1)) left
    have hs : (⟨waiting, stream⟩ : Checker σ).checks (n + 1) =
        (answer :: ((⟨left, after (k + 1) stream⟩ : Checker σ).checks n).1,
          ((⟨left, after (k + 1) stream⟩ : Checker σ).checks n).2) := by
      rw [checks, hc]
    rw [hs]
    refine ⟨by rw [List.length_cons, hlen], k + 1 + m, ?_, ?_, ?_⟩
    · rw [turns_add, hnext, hm]
    · rw [List.flatMap_cons, hread, hr, firsts_add (k + 1)]
    · rw [culprits_add, hculprits, hnext, ← hcs]
      cases hrep : answer.reported <;> simp [hrep]

theorem turns_of_passed {passed rest left : List Token} (h : Yields stream rules (passed ++ rest) last)
    (ht : turns passed.length (⟨waiting, stream⟩ : Checker σ) = ⟨left, after passed.length stream⟩) :
    turns (passed.length + 1) (⟨waiting, stream⟩ : Checker σ) =
      ⟨(rules.judge left (rest.head?.getD last)).waiting left, after (passed.length + 1) stream⟩ := by
  have hrest := h.drop passed.length
  rw [List.drop_left] at hrest
  rw [turns_add, ht, turns, turns, turn_eq hrest, after_add]
  rfl

/-- How a call over a stream that ends comes to its answer. -/
theorem check?_concludes (apart : rules.EndsApart) (hl : rules.ends last.kind = true)
    (h : Yields stream rules tokens last) (waiting : List Token) :
    ∃ passed token answer after, check? ⟨waiting, stream⟩ = some (answer, after) ∧
      answer.read = token :: passed ∧
      rules.Concludes (turns passed.length (⟨waiting, stream⟩ : Checker σ)).waiting token answer.token
        after.waiting := by
  obtain ⟨passed, rest, left, answer, rfl, hp, ha, ht, hc⟩ := check?_of_yields apart hl h waiting
  obtain ⟨hread, hconc, -, -⟩ := Rules.concludes_of_judge apart ha
  refine ⟨passed.reverse, rest.head?.getD last, answer, _, hc, hread, ?_⟩
  have hafter : (turns (passed.length + 1) (⟨waiting, stream⟩ : Checker σ)).waiting =
      (rules.judge left (rest.head?.getD last)).waiting left :=
    congrArg Checker.waiting (turns_of_passed h ht)
  rw [List.length_reverse, ht, hafter]
  exact hconc

/-- The answers in a row: the replies in order, then what is left over from the last to the first, then
the end for ever. -/
theorem checks_replies (apart : rules.EndsApart) (hl : rules.ends last.kind = true)
    (h : Yields stream rules tokens last) (waiting : List Token) (n : Nat) :
    ((⟨waiting, stream⟩ : Checker σ).checks n).1.map Answer.token =
      (List.range n).map fun i =>
        (rules.replies waiting tokens ++ rules.leftover waiting tokens)[i]?.getD last := by
  induction n generalizing stream tokens waiting with
  | zero => rfl
  | succ n ih =>
    obtain ⟨passed, rest, left, answer, rfl, hp, ha, ht, hc⟩ := check?_of_yields apart hl h waiting
    obtain ⟨hhead, htail⟩ := Rules.reply_head apart hl ha
    have hnext := turns_of_passed h ht
    have hs := ih h.after_passed ((rules.judge left (rest.head?.getD last)).waiting left)
    rw [(hp.leftover rest).1, hp.replies rest, List.range_succ_eq_map, checks, hc, hnext, List.map_cons,
      List.map_cons, hs, htail, hhead, List.map_map, List.head?_eq_getElem?]
    simp [Function.comp_def]

/-- Where no end is among the tokens, the replies are the strays. -/
theorem checks_tokens (apart : rules.EndsApart) (hl : rules.ends last.kind = true)
    (h : Yields stream rules tokens last) (he : ∀ token ∈ tokens, rules.ends token.kind = false)
    (waiting : List Token) (n : Nat) :
    ((⟨waiting, stream⟩ : Checker σ).checks n).1.map Answer.token =
      (List.range n).map fun i =>
        (rules.strays waiting tokens ++ rules.leftover waiting tokens)[i]?.getD last := by
  rw [checks_replies apart hl h, Rules.replies_eq_strays he]

/-- What the calls of a checker that was fresh come to, on a stream that gives these tokens and then the
end for ever. -/
structure Accounts (stream : σ) (rules : Rules) (tokens : List Token) (last : Token) : Prop where
  /-- Every call returns. -/
  returns : ∀ n, ((fresh stream).checks n).1.length = n
  /-- So many calls are so many turns; they read the tokens of the stream one after the other, and report
  what the turns report. -/
  turns : ∀ n, ∃ m, ((fresh stream).checks n).2 = Checker.turns m (fresh stream) ∧
    ((fresh stream).checks n).1.flatMap (·.read.reverse) = firsts m stream ∧
    (((fresh stream).checks n).1.filter Answer.reported).map Answer.token =
      culprits m (fresh stream)
  /-- After each turn the ledger of the tokens read has the checker's waiting openers, the same tokens as
  reported, and balanced tokens around the waiting ones when those that are reported are left out. -/
  factors : ∀ m, (rules.ledger (firsts m stream)).read = firsts m stream ∧
    (rules.ledger (firsts m stream)).waiting = (Checker.turns m (fresh stream)).waiting ∧
    (rules.ledger (firsts m stream)).reported.Perm (culprits m (fresh stream)) ∧
    rules.Factors (rules.ledger (firsts m stream)).kept (Checker.turns m (fresh stream)).waiting
  /-- After so many calls, the next one concludes from its last token and what waits before that. -/
  concludes : ∀ n, ∃ passed token answer after,
    ((fresh stream).checks n).2.check? = some (answer, after) ∧ answer.read = token :: passed ∧
    rules.Concludes (Checker.turns passed.length ((fresh stream).checks n).2).waiting token
      answer.token after.waiting
  /-- The answers are the strays in order, the leftovers from the last to the first, and then the end. -/
  answers : ∀ n, ((fresh stream).checks n).1.map Answer.token = (List.range n).map fun i =>
    ((rules.ledger tokens).reported ++ (rules.ledger tokens).waiting)[i]?.getD last

theorem accounts_of_yields (apart : rules.EndsApart) (hl : rules.ends last.kind = true)
    (he : ∀ token ∈ tokens, rules.ends token.kind = false) (h : Yields stream rules tokens last) :
    Accounts stream rules tokens last where
  returns n := (checks_turns apart hl h [] n).1
  turns n := (checks_turns apart hl h [] n).2
  factors m := by
    obtain ⟨ha, hread, hwaiting, hreported⟩ := ledger_turns apart h m
    exact ⟨hread, hwaiting, hreported, hwaiting ▸ ha.factors⟩
  concludes n := by
    obtain ⟨-, m, hm, -, -⟩ := checks_turns apart hl h [] n
    have hs : (Checker.turns m (⟨[], stream⟩ : Checker σ)).stream = after m stream :=
      turns_stream _ _
    rw [show (fresh stream).checks n = (⟨[], stream⟩ : Checker σ).checks n from rfl, hm]
    generalize Checker.turns m (⟨[], stream⟩ : Checker σ) = checker at hs
    obtain ⟨waiting, rest⟩ := checker
    obtain rfl : rest = after m stream := hs
    exact check?_concludes apart hl (h.drop m) waiting
  answers n := by
    obtain ⟨hr, hw⟩ := Rules.ledger_strays apart he (.base rfl .nil : rules.Accounted [])
    rw [Rules.ledger, hr, hw]
    exact checks_tokens apart hl h he [] n

/-- Every stream that gives finitely many tokens and then one end for ever is accounted for, if kinds that
end neither open nor close, and so is a lexer on any text. -/
theorem accounts_for_tokens :
    (∀ (σ : Type) [TokenStream σ] (stream : σ) (rules : Rules) (tokens : List Token) (last : Token),
      rules.EndsApart → rules.ends last.kind = true →
      (∀ token ∈ tokens, rules.ends token.kind = false) → Yields stream rules tokens last →
      Accounts stream rules tokens last) ∧
    ∀ (text : List Char) (filename : String) (source : Option Nat),
      Accounts (Lexer.ofChars text filename source) .standard
        (Lexer.ofChars text filename source).drain.tokens
        (Lexer.ofChars text filename source).drain.last := by
  refine ⟨fun σ _ stream rules tokens last => accounts_of_yields, ?_⟩
  intro text filename source
  exact accounts_of_yields Rules.standard_endsApart (Lexer.isEnd_drain_last _)
    (Lexer.isEnd_of_mem_drain _) (Lexer.yields text filename source)

/-- A stray closer between three openers, and a quotation mark that closes nothing. -/
theorem accounts_for_stray_tokens :
    let replay : Replay := ⟨.standard, [Token.bare .openParen, .bare .openBrace, .bare .closeBracket,
      .bare .closeBrace, .bare .quote, .bare .openParen], .bare .endOfText⟩
    replay.rules.EndsApart ∧ replay.rules.ends replay.last.kind = true ∧
      (∀ token ∈ replay.tokens, replay.rules.ends token.kind = false) ∧
      Yields replay replay.rules replay.tokens replay.last ∧
      ((fresh replay).checks 6).1.map Answer.token = [.bare .closeBracket, .bare .openParen,
        .bare .quote, .bare .openParen, .bare .endOfText, .bare .endOfText] := by
  intro replay
  have hy := Replay.yields replay.rules replay.tokens replay.last
  have he : ∀ token ∈ replay.tokens, replay.rules.ends token.kind = false := by decide
  refine ⟨Rules.standard_endsApart, rfl, he, hy, ?_⟩
  rw [(accounts_for_tokens.1 Replay replay _ _ _ Rules.standard_endsApart rfl he hy).answers 6]
  decide

end Checker

end BracketBalance
