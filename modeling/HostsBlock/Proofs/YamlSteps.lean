import HostsBlock.Proofs.YamlPlaces
import HostsBlock.Yaml.Token
import Mathlib.Logic.Relation

/-!
# From token to token

The scanner of YAML goes from token to token, and what it remembers on the way is little but spread
over many fields: the open blocks and brackets, and for each bracket the token that may still become
a key. `Step` is one token, `Steps` are any number, and a run consists of them (`Steps.run?`).

In front of each token stands what the scanner skips, and behind a token of a report that is
nothing, a space or a line end. So a state is looked at once that is `settled`.

Two kinds of places are then all that a report has: in front of a line (`AtLine`) and in front of a
text inside a line (`AtText`). Each later lemma on a part of a report leads from one of the two to
one of the two.
-/

namespace HostsBlock.Yaml

open Spot

/-- A text that nothing in front of a token may be taken for. -/
def Starts (cs : List Char) : Prop :=
  ∀ c ∈ cs.head?, isGap c = false ∧ c ≠ '#' ∧ c ≠ '\ufeff'

namespace Lexer

variable {l l' : Lexer} {p q : Spot} {cs rest : List Char} {ts : List Token}

/-! ## Steps -/

/-- The state in front of the next token. -/
def settled (l : Lexer) : Lexer := l.skipGap (l.rest.length + 1)

/-- The state behind the next token. -/
def step? (l : Lexer) : Option Lexer :=
  match l.rest with
  | [] => none
  | here :: behind => do
    let l ← l.dropStale? here
    (l.closeBlocks here.column).take? here behind

theorem step?_eq {here : Placed} {behind : List Placed} (h : l.rest = here :: behind) :
    l.step? = (l.dropStale? here).bind fun l => (l.closeBlocks here.column).take? here behind := by
  unfold step?
  rw [h]
  rfl

/-- One token further, from in front of a token to in front of the next one. -/
def Step (l l' : Lexer) : Prop :=
  ∃ m, l.step? = some m ∧ m.settled = l' ∧ l'.rest.length < l.rest.length

/-- Any number of tokens further. -/
abbrev Steps : Lexer → Lexer → Prop := Relation.ReflTransGen Step

/-- **Steps are what a run consists of.** -/
theorem Steps.run? {s s' : Lexer} (h : Steps s s') (hl : l.settled = s) {fuel : Nat}
    (hfuel : s.rest.length < fuel) :
    ∃ l' fuel', l'.settled = s' ∧ s'.rest.length < fuel' ∧ run? fuel l = run? fuel' l' := by
  induction h using Relation.ReflTransGen.head_induction_on generalizing l fuel with
  | refl => exact ⟨l, fuel, hl, hfuel, rfl⟩
  | @head s t hstep _ ih =>
      obtain ⟨m, hm, ht, hless⟩ := hstep
      obtain ⟨fuel, rfl⟩ := Nat.exists_eq_succ_of_ne_zero (Nat.ne_zero_of_lt hfuel)
      obtain ⟨l', fuel', hl', hfuel', hrun⟩ := ih ht (by omega : t.rest.length < fuel)
      refine ⟨l', fuel', hl', hfuel', ?_⟩
      -- a run first skips to the settled state, and then takes the step
      have hskip : l.skipGap (l.rest.length + 1) = s := hl
      unfold step? at hm
      rw [← hrun, Lexer.run?, hskip]
      cases hrest : s.rest with
      | nil =>
          rw [hrest] at hm
          exact absurd hm nofun
      | cons here behind =>
          rw [hrest] at hm
          dsimp only [Option.bind_eq_bind] at hm ⊢
          rw [← Option.bind_assoc, hm, Option.bind_some]

theorem dropWhile_starts (h : Starts cs) (tabs : Bool) :
    (p.place cs).dropWhile (fun x => x.char == ' ' || (tabs && x.char == '\t')) = p.place cs := by
  cases cs with
  | nil => rfl
  | cons c cs =>
      have hblank := isBlank_of_isGap (h c rfl).1
      unfold isBlank at hblank
      rw [Bool.or_eq_false_iff] at hblank
      rw [place_cons, List.dropWhile_cons_of_neg]
      rw [hblank.1, hblank.2, Bool.and_false]
      exact Bool.false_ne_true

theorem skipComment_starts (h : Starts cs) : skipComment (p.place cs) = p.place cs := by
  have hhash : cs.head?.any (· == '#') = false := by
    rw [Option.any_eq_false]
    intro c hc
    simpa using (h c hc).2.1
  unfold skipComment
  rw [startsWith_place, hhash, if_neg (by decide)]

theorem skipComment_of_head {c : Char} (hc : c ≠ '#') :
    skipComment (p.place (c :: cs)) = p.place (c :: cs) := by
  unfold skipComment
  rw [startsWith_place, List.head?_cons, Option.any_some, if_neg (by simpa using hc)]

theorem nextIs_isBreak_starts (h : Starts cs) : nextIs isBreak (p.place cs) = false := by
  rw [nextIs_place, Option.any_eq_false]
  exact fun c hc => isBreak_of_isGap (h c hc).1

/-- Only a mark of the byte order makes a difference at the very beginning. -/
theorem skipGap_succ (hrest : l.rest = p.place cs) (hmark : ∀ c ∈ cs.head?, c ≠ '\ufeff')
    (n : Nat) {s : List Placed}
    (hs : ∀ tabs : Bool, skipComment ((p.place cs).dropWhile fun x =>
      x.char == ' ' || (tabs && x.char == '\t')) = s) :
    l.skipGap (n + 1)
      = if nextIs isBreak s then
          { l with rest := s.tail, keyAllowed := l.keyAllowed || !l.inFlow }.skipGap n
        else { l with rest := s } := by
  cases cs with
  | nil =>
      rw [place_nil] at hrest hs
      rw [skipGap, hrest]
      simp only [hs]
  | cons c cs =>
      rw [place_cons] at hrest hs
      rw [skipGap, hrest]
      simp only [beq_false_of_ne (hmark c rfl), Bool.and_false, Bool.false_eq_true, if_false, hs]

theorem skipGap_starts {n : Nat} (hrest : l.rest = p.place cs) (h : Starts cs) :
    l.skipGap n = l := by
  cases n with
  | zero => rfl
  | succ n =>
      have hskip (tabs : Bool) : skipComment ((p.place cs).dropWhile fun x =>
          x.char == ' ' || (tabs && x.char == '\t')) = p.place cs := by
        rw [dropWhile_starts h, skipComment_starts h]
      rw [skipGap_succ hrest (fun c hc => (h c hc).2.2) n hskip, nextIs_isBreak_starts h, ← hrest]
      rfl

theorem settled_starts (hrest : l.rest = p.place cs) (h : Starts cs) : l.settled = l :=
  skipGap_starts hrest h

theorem settled_space (hrest : l.rest = p.place (' ' :: cs)) (h : Starts cs) :
    l.settled = { l with rest := (p.next ' ').place cs } := by
  have hskip (tabs : Bool) : skipComment ((p.place (' ' :: cs)).dropWhile fun x =>
      x.char == ' ' || (tabs && x.char == '\t')) = (p.next ' ').place cs := by
    rw [place_cons, List.dropWhile_cons_of_pos rfl, dropWhile_starts h, skipComment_starts h]
  unfold settled
  rw [skipGap_succ hrest (by rintro _ ⟨rfl⟩; decide) _ hskip, nextIs_isBreak_starts h]
  rfl

theorem settled_newline (hrest : l.rest = p.place ('\n' :: cs)) (hflow : l.inFlow = false)
    (h : Starts cs) :
    l.settled = { l with rest := (p.next '\n').place cs, keyAllowed := true } := by
  have hskip (tabs : Bool) : skipComment ((p.place ('\n' :: cs)).dropWhile fun x =>
      x.char == ' ' || (tabs && x.char == '\t')) = p.place ('\n' :: cs) := by
    have hdrop : (p.place ('\n' :: cs)).dropWhile (fun x =>
        x.char == ' ' || (tabs && x.char == '\t')) = p.place ('\n' :: cs) := by
      rw [place_cons, List.dropWhile_cons_of_neg (by simp)]
    rw [hdrop, skipComment_of_head (by decide)]
  have hbreak : nextIs isBreak (p.place ('\n' :: cs)) = true := by
    rw [nextIs_place]
    rfl
  have htail : (p.place ('\n' :: cs)).tail = (p.next '\n').place cs := by
    rw [place_cons]
    rfl
  unfold settled
  rw [skipGap_succ hrest (by rintro _ ⟨rfl⟩; decide) _ hskip, hbreak, if_pos rfl, hflow, htail,
    Bool.not_false, Bool.or_true]
  exact skipGap_starts rfl h

/-! ## What a state remembers -/

/-- No bracket is open, and nothing has to become a key. -/
def Idle (l : Lexer) : Prop :=
  ∃ c : Option Candidate, l.candidates = [c] ∧ ∀ x ∈ c, x.required = false

theorem Idle.inFlow (h : l.Idle) : l.inFlow = false := by
  obtain ⟨c, hc, -⟩ := h
  unfold Lexer.inFlow
  rw [hc]
  rfl

theorem dropStale?_eq {here : Placed}
    (h : ∀ c ∈ l.candidates, ∀ x ∈ c, (x.required && isStale here x) = false) :
    l.dropStale? here
      = some { l with candidates := l.candidates.map fun c => c.filter (!isStale here ·) } := by
  have hnone : (l.candidates.any fun c => c.any fun c => c.required && isStale here c) = false := by
    refine List.any_eq_false.mpr fun c hc => ?_
    rw [Bool.not_eq_true, Option.any_eq_false]
    exact h c hc
  unfold Lexer.dropStale?
  rw [hnone]
  rfl

theorem Idle.dropStale? (h : l.Idle) (here : Placed) :
    ∃ c : Option Candidate, l.dropStale? here = some { l with candidates := [c] }
      ∧ ∀ x ∈ c, x.required = false := by
  obtain ⟨c, hc, hfree⟩ := h
  refine ⟨c.filter (!isStale here ·), ?_, fun x hx => hfree x (Option.filter_eq_some_iff.mp hx).1⟩
  rw [dropStale?_eq, hc]
  · rfl
  · rw [hc, List.forall_mem_singleton]
    intro x hx
    rw [hfree x hx, Bool.false_and]

theorem Idle.dropCandidate? (h : l.Idle) :
    l.dropCandidate? = some { l with candidates := [none] } := by
  obtain ⟨c, hc, hfree⟩ := h
  unfold Lexer.dropCandidate?
  rw [hc]
  cases c with
  | none => exact congrArg (fun c => some { l with candidates := c }) hc
  | some x =>
      dsimp only
      rw [hfree x rfl]
      rfl

theorem Idle.addCandidate? (h : l.Idle) (here : Placed) (hcolumn : l.indent ≠ here.column) :
    ∃ c : Option Candidate, l.addCandidate? here = some { l with candidates := [c] }
      ∧ ∀ x ∈ c, x.required = false := by
  unfold Lexer.addCandidate?
  split
  · have hother : (l.indent == here.column) = false := beq_false_of_ne hcolumn
    rw [h.dropCandidate?, hother, Bool.and_false]
    exact ⟨some ⟨here, l.count, false⟩, rfl, by rintro _ ⟨rfl⟩; rfl⟩
  · -- no key may start here, and everything stays as it is
    obtain ⟨c, hc, hfree⟩ := h
    exact ⟨c, by rw [← hc], hfree⟩

theorem closeBlocks_of_le {column : Int} (h : l.indent ≤ column) : l.closeBlocks column = l := by
  have hnone : (l.indent :: l.outer).takeWhile (column < ·) = [] := by
    rw [List.takeWhile_cons_of_neg]
    simpa using h
  unfold closeBlocks
  simp only [hnone]
  split <;> rfl

/-- The step depends on what the character in front means. -/
theorem Idle.step? (h : l.Idle) {here : Placed} {behind : List Placed}
    (hrest : l.rest = here :: behind) (hindent : l.indent ≤ here.column) :
    ∃ c : Option Candidate, l.step? = { l with candidates := [c] }.take? here behind
      ∧ ∀ x ∈ c, x.required = false := by
  obtain ⟨c, hstale, hfree⟩ := h.dropStale? here
  have hclosed : { l with candidates := [c] }.closeBlocks here.column
      = { l with candidates := [c] } := closeBlocks_of_le hindent
  exact ⟨c, by rw [step?_eq hrest, hstale, Option.bind_some, hclosed], hfree⟩

/-- In front of a line of the map, which is open unless this is the first line. -/
structure AtLine (l : Lexer) (opened : Bool) (ts : List Token) (q : Spot) (cs : List Char) :
    Prop where
  rest : l.rest = q.place cs
  margin : q.column = 0
  tokens : l.tokens = ts
  idle : l.Idle
  keyAllowed : l.keyAllowed = true
  indent : l.indent = if opened then 0 else -1
  outer : l.outer = if opened then [-1] else []

/-- In front of a text inside a line. -/
structure AtText (l : Lexer) (ts : List Token) (p : Spot) (cs : List Char) : Prop where
  rest : l.rest = p.place cs
  column : 0 < p.column
  tokens : l.tokens = ts
  idle : l.Idle
  indent : l.indent = 0
  outer : l.outer = [-1]

end Lexer

end HostsBlock.Yaml
