import HostsBlock.Proofs.YamlBlocks
import HostsBlock.Proofs.YamlPlain
import HostsBlock.Proofs.YamlQuoted
import HostsBlock.Proofs.YamlSteps

/-!
# The token of a text

A text is written in one of four ways, and which one is a matter of many cases. `WrittenAs` keeps of
them what a reader relies on: with each way, what a text is like that is written so. Each way then
is one token for the scanner (`AtText.plain`, `AtText.quoted`, `AtText.block`), and so is a text in
whatever way it is written (`AtText.written`).

The token also says whether the text was written plainly. Only such a text could stand for something
else than itself, and none does (`resolve_of_isWrittenPlain`).
-/

namespace HostsBlock.Yaml

open Spot

/-! ## The four ways to write a text -/

/-- Whether a text is written as it is. -/
def isWrittenPlain (s : String) : Bool :=
  !s.toList.contains '\n' && (isPlain s.toList && !isAmbiguous s)

/-- How a text may be written, and what it is like then. -/
inductive WrittenAs (s : String) : (plain : Bool) → List Char → Prop where
  | plain (plain : isPlain s.toList = true) (ne_nil : s.toList ≠ []) : WrittenAs s true s.toList
  | double : WrittenAs s false (doubleQuoted s.toList)
  | block (printable : ∀ c ∈ s.toList, isPrintable c = true) (ne_nil : s.toList ≠ []) :
    WrittenAs s false (block s.toList)
  | single (printable : ∀ c ∈ s.toList, isPrintable c = true) (oneLine : '\n' ∉ s.toList)
    (noSpaceBreak : hasSpaceBreak s.toList = false)
    (noBreakSpace : hasBreakSpace s.toList = false) :
    WrittenAs s false (singleQuoted s.toList)

theorem printable_of_hasSpecial {cs : List Char} (h : hasSpecial cs = false) :
    ∀ c ∈ cs, isPrintable c = true := by
  intro c hc
  simpa using List.any_eq_false.mp h c hc

theorem writtenAs (s : String) : WrittenAs s (isWrittenPlain s) (written s) := by
  unfold isWrittenPlain written
  dsimp only
  cases hline : s.toList.contains '\n' with
  | true =>
      rw [if_pos rfl, Bool.not_true, Bool.false_and]
      split
      next => exact .double
      next hblock =>
        rw [Bool.not_eq_true, Bool.or_eq_false_iff, Bool.or_eq_false_iff] at hblock
        refine .block (printable_of_hasSpecial hblock.1.2) ?_
        intro hnil
        rw [hnil] at hline
        exact absurd hline nofun
  | false =>
      rw [if_neg Bool.false_ne_true, Bool.not_false, Bool.true_and]
      cases hplain : isPlain s.toList && !isAmbiguous s with
      | true =>
          rw [if_pos rfl]
          refine .plain (Bool.and_eq_true_iff.mp hplain).1 fun hnil => ?_
          rw [String.toList_eq_nil_iff.mp hnil] at hplain
          exact absurd hplain (by decide)
      | false =>
          rw [if_neg Bool.false_ne_true]
          split
          next => exact .double
          next hquotes =>
            rw [Bool.not_eq_true, Bool.or_eq_false_iff, Bool.or_eq_false_iff] at hquotes
            exact .single (printable_of_hasSpecial hquotes.1.2) (by simpa using hline) hquotes.1.1
              hquotes.2

theorem printable_blockHints {cs : List Char} {c : Char} (hc : c ∈ blockHints cs) :
    isPrintable c = true := by
  unfold blockHints at hc
  rcases List.mem_append.mp hc with hc | hc <;> split_ifs at hc <;> simp_all <;> decide

theorem printable_escape {x c : Char} (hc : c ∈ escape x) : isPrintable c = true := by
  rcases escape_cases x with ⟨hself, -, -, hprintable, -⟩ | ⟨letters, hletters, hescapes⟩
  · rw [hself] at hc
    rwa [List.mem_singleton.mp hc]
  · rw [hletters] at hc
    rcases List.mem_cons.mp hc with rfl | hc
    · decide
    · exact (hescapes.printable c hc).1

theorem WrittenAs.printable {s : String} {plain : Bool} {cs : List Char}
    (h : WrittenAs s plain cs) : ∀ c ∈ cs, isPrintable c = true := by
  intro c hc
  cases h with
  | plain hplain => exact (PlainRest.of_isPlain hplain).printable c hc
  | double =>
      unfold doubleQuoted at hc
      simp only [List.mem_append, List.mem_cons, List.not_mem_nil, or_false, List.mem_flatMap] at hc
      rcases hc with (rfl | ⟨x, -, hc⟩) | rfl
      · decide
      · exact printable_escape hc
      · decide
  | block hprintable =>
      unfold Yaml.block at hc
      simp only [List.mem_append, List.mem_cons] at hc
      rcases hc with (rfl | hc) | rfl | hc
      · decide
      · exact printable_blockHints hc
      · decide
      · rcases mem_indentedFrom hc with rfl | hc | hc
        · decide
        · exact hprintable c hc
        · exact hprintable c (by simpa using hc)
  | single hprintable =>
      unfold singleQuoted at hc
      simp only [List.mem_append, List.mem_cons, List.not_mem_nil, or_false] at hc
      rcases hc with ((rfl | hc) | hc) | rfl
      · decide
      · rcases mem_indentedFrom hc with rfl | hc | hc
        · decide
        · exact hprintable c hc
        · obtain ⟨x, hx, hc⟩ := List.mem_flatMap.mp hc
          split at hc
          · have hquote : c = '\'' := by simpa using hc
            rw [hquote]
            decide
          · rw [List.mem_singleton.mp hc]
            exact hprintable x hx
      · have hspace : c = ' ' := mem_indentation (by split at hc <;> simp_all)
        rw [hspace]
        decide
      · decide

theorem WrittenAs.starts {s : String} {plain : Bool} {cs : List Char} (h : WrittenAs s plain cs)
    (rest : List Char) : Starts (closed cs ++ rest) := by
  have hhead : ∃ c ∈ cs.head?, isGap c = false ∧ c ≠ '#' := by
    cases h with
    | plain hplain hne =>
        have hrest := PlainRest.of_isPlain hplain
        have hc := List.head?_eq_some_head hne
        obtain ⟨hspace, hhash⟩ := hrest.begins _ hc
        refine ⟨_, hc, ?_, hhash⟩
        rw [Bool.eq_false_iff, Ne, hrest.isGap_iff (List.head_mem hne)]
        exact hspace
    | double => exact ⟨'"', rfl, by decide, by decide⟩
    | block => exact ⟨'|', rfl, by decide, by decide⟩
    | single => exact ⟨'\'', rfl, by decide, by decide⟩
  obtain ⟨c, hc, hgap, hhash⟩ := hhead
  obtain ⟨more, rfl⟩ := List.head?_eq_some_iff.mp hc
  rintro _ ⟨rfl⟩
  exact ⟨hgap, hhash, ne_of_isPrintable (h.printable _ (by simp)) (by decide)⟩

namespace Lexer

variable {l : Lexer} {p q : Spot} {cs rest : List Char} {ts : List Token}

section Text

variable {c : Char}

theorem AtText.step? (h : l.AtText ts p (c :: cs)) :
    ∃ m : Lexer, m.AtText ts p (c :: cs)
      ∧ l.step? = m.take? ⟨c, p.line, p.column, p.index⟩ ((p.next c).place cs) := by
  have hindent : l.indent ≤ (p.column : Int) := by
    rw [h.indent]
    exact Int.natCast_nonneg _
  obtain ⟨c', hstep, hfree⟩ := h.idle.step? (h.rest.trans (place_cons p c cs)) hindent
  exact ⟨{ l with candidates := [c'] }, ⟨h.rest, h.column, h.tokens, ⟨c', rfl, hfree⟩, h.indent,
    h.outer⟩, hstep⟩

theorem AtText.noEdge (h : l.AtText ts p cs) : atDocumentEdge l.rest = false := by
  rw [h.rest]
  exact atDocumentEdge_of_column h.column

theorem AtText.take?_quote (h : l.AtText ts p (c :: cs)) (hc : c = '\'' ∨ c = '"')
    (behind : List Placed) :
    l.take? ⟨c, p.line, p.column, p.index⟩ behind
      = l.takeQuoted? ⟨c, p.line, p.column, p.index⟩ := by
  obtain ⟨hdash, hdot⟩ := Bool.or_eq_false_iff.mp h.noEdge
  unfold take?
  rcases hc with rfl | rfl <;> simp [hdash, hdot, h.idle.inFlow]

theorem AtText.take?_block (h : l.AtText ts p ('|' :: cs)) (behind : List Placed) :
    l.take? ⟨'|', p.line, p.column, p.index⟩ behind
      = l.takeBlockText? ⟨'|', p.line, p.column, p.index⟩ := by
  obtain ⟨hdash, hdot⟩ := Bool.or_eq_false_iff.mp h.noEdge
  unfold take?
  simp [hdash, hdot, h.idle.inFlow]

/-- The first character of a plain text, in front of others. -/
structure PlainStart (c : Char) (behind : List Placed) : Prop where
  noGap : isGap c = false
  noIndicator : c ∉ "#,[]\x7b\x7d&*!|>'\"%@`".toList
  goesOn : c ∈ ['?', ':', '-'] → atGap behind = false

theorem PlainStart.startsPlain {behind : List Placed} (h : PlainStart c behind) :
    startsPlain false c behind = true := by
  have hgap := h.noGap
  have hother := h.noIndicator
  have hgoes := h.goesOn
  -- the three marks begin a text if something else follows at once
  by_cases hmark : c ∈ ['?', ':', '-']
  · have hbehind := hgoes hmark
    have hblank : nextIs isBlank behind = false := by
      cases behind with
      | nil => rfl
      | cons x behind => exact isBlank_of_isGap hbehind
    unfold Lexer.startsPlain
    rw [hbehind, hblank]
    simp only [List.mem_cons, List.not_mem_nil, or_false] at hmark
    rcases hmark with rfl | rfl | rfl <;> decide
  · have hplain : c ∉ "-?:,[]\x7b\x7d#&*!|>'\"%@`".toList := by
      simp only [String.reduceToList, List.mem_cons, List.not_mem_nil, or_false, not_or]
        at hother hmark ⊢
      grind
    unfold Lexer.startsPlain
    rw [decide_eq_true hplain]
    rfl

theorem PlainStart.take? {here : Placed} {behind : List Placed} (h : PlainStart here.char behind)
    (hflow : l.inFlow = false) (hedge : atDocumentEdge l.rest = false) :
    l.take? here behind = l.takePlain? here := by
  obtain ⟨hdash, hdot⟩ := Bool.or_eq_false_iff.mp hedge
  have hother := h.noIndicator
  have hgoes (x : Char) (hx : x ∈ ['?', ':', '-']) : ¬ (here.char = x ∧ atGap behind = true) := by
    rintro ⟨rfl, hgap⟩
    rw [h.goesOn hx] at hgap
    exact absurd hgap nofun
  have hdashes := hgoes '-' (by decide)
  have hmarks := hgoes '?' (by decide)
  have hcolons := hgoes ':' (by decide)
  unfold Lexer.take?
  simp only [String.reduceToList, List.mem_cons, List.not_mem_nil, or_false, not_or] at hother
  simp [hdash, hdot, hflow, hother, h.noGap, h.startsPlain, hdashes, hmarks, hcolons]

/-! ## Texts -/

theorem length_rest (h : l.rest = p.place cs) : l.rest.length = cs.length := by
  rw [h, length_place]

theorem AtText.indent_ne (h : l.AtText ts p cs) : l.indent ≠ (p.column : Int) := by
  have hindent := h.indent
  have hpos := h.column
  omega

/-- A text between quotes is one token. -/
theorem AtText.quoted {quote : Char} {content written : List Char}
    (h : l.AtText ts p (quote :: (written ++ quote :: '\n' :: rest)))
    (hbetween : Between quote content written) (hquote : quote = '\'' ∨ quote = '"')
    (hrest : Starts rest) :
    ∃ l' q, Step l l' ∧ l'.AtLine true (.text (String.ofList content) false :: ts) q rest := by
  obtain ⟨m, hm, hstep⟩ := h.step?
  obtain ⟨c', hcandidate, hfree⟩ :=
    hm.idle.addCandidate? ⟨quote, p.line, p.column, p.index⟩ hm.indent_ne
  have hgap : isGap quote = false := by rcases hquote with rfl | rfl <;> decide
  have hcolumn : 0 < (p.next quote).column := by
    rw [column_next (isBreak_of_isGap hgap)]
    exact Nat.succ_pos _
  have hread : quoted? quote m.rest.length [] m.rest.tail
      = some (content, ((p.next quote).after (written ++ [quote])).place ('\n' :: rest)) := by
    have hfuel : written.length < m.rest.length := by
      rw [length_rest hm.rest, List.length_cons, List.length_append]
      omega
    rw [hm.rest, place_cons, List.tail_cons, ← place_cons, ← hm.rest,
      hbetween.quoted?_eq hgap (fun _ => by simp) hfuel hcolumn]
    rfl
  generalize (p.next quote).after (written ++ [quote]) = q at hread
  have htake : l.step? = some { m with
      rest := q.place ('\n' :: rest), tokens := .text (String.ofList content) false :: m.tokens
      count := m.count + 1, candidates := [c'], keyAllowed := false } := by
    rw [hstep, hm.take?_quote hquote]
    unfold takeQuoted?
    rw [hcandidate]
    dsimp only [Option.bind_eq_bind, Option.bind_some]
    rw [hread]
    rfl
  refine ⟨_, q.next '\n', ⟨_, htake, settled_newline rfl rfl hrest, ?_⟩, ⟨rfl, ?_, ?_,
    ⟨c', rfl, hfree⟩, rfl, hm.indent, hm.outer⟩⟩
  · rw [length_rest h.rest]
    simp only [length_place, List.length_cons, List.length_append]
    omega
  · exact column_next_of_break (by decide)
  · exact congrArg (_ :: ·) hm.tokens

/-- A block is one token. -/
theorem AtText.block (h : l.AtText ts p (closed (Yaml.block cs) ++ rest))
    (hprintable : ∀ c ∈ cs, isPrintable c = true) (hne : cs ≠ []) (hrest : Starts rest) :
    ∃ l' q, Step l l' ∧ l'.AtLine true (.text (String.ofList cs) false :: ts) q rest := by
  obtain ⟨inner, b, hclosed, hread, htext, hmargin⟩ :=
    BlockText.read?_block (p := p.next '|') hprintable hne fun c hc => (hrest c hc).1
  rw [hclosed, List.cons_append] at h
  obtain ⟨m, hm, hstep⟩ := h.step?
  generalize (p.next '|').after inner = q at hread hmargin
  have htake : l.step? = some { m with
      rest := q.place rest, tokens := .text (String.ofList cs) false :: m.tokens
      count := m.count + 1, candidates := [none], keyAllowed := true } := by
    have hread' : BlockText.read? true m.indent m.rest.tail = some (b, q.place rest) := by
      rw [hm.rest, hm.indent, place_cons]
      exact hread
    rw [hstep, hm.take?_block]
    unfold takeBlockText?
    rw [hm.idle.dropCandidate?]
    dsimp only [Option.bind_eq_bind, Option.bind_some]
    rw [beq_self_eq_true, hread', ← htext]
    rfl
  refine ⟨_, q, ⟨_, htake, settled_starts rfl hrest, ?_⟩, ⟨rfl, hmargin, ?_,
    ⟨none, rfl, nofun⟩, rfl, hm.indent, hm.outer⟩⟩
  · rw [length_rest h.rest]
    simp only [length_place, List.length_cons, List.length_append]
    omega
  · exact congrArg (_ :: ·) hm.tokens

theorem PlainStart.of_isPlain (h : isPlain (c :: cs) = true) :
    PlainStart c (p.place (cs ++ '\n' :: rest)) := by
  have hrest := PlainRest.of_isPlain h
  have hindicator : startsAsIndicator (c :: cs) = false := by
    unfold isPlain at h
    simp only [Bool.not_eq_true', Bool.or_eq_false_iff] at h
    exact h.1.1.1.1
  unfold startsAsIndicator at hindicator
  simp only [Bool.or_eq_false_iff, decide_eq_false_iff_not] at hindicator
  obtain ⟨-, hother, hmark⟩ := hindicator
  refine ⟨?_, hother, fun hc => ?_⟩
  · rw [Bool.eq_false_iff, Ne, hrest.isGap_iff (by simp)]
    exact (hrest.begins c rfl).1
  · rw [decide_eq_true hc, Bool.true_and] at hmark
    cases cs with
    | nil => exact absurd hmark nofun
    | cons d cs =>
        have hd : separates d = false := hmark
        rw [List.cons_append, atGap_place, List.head?_cons, Option.all_some]
        unfold separates at hd
        simp only [Bool.or_eq_false_iff] at hd
        rw [isGap_eq (hrest.printable d (by simp)), hd.1.1.1, hd.2]
        rfl

/-- A plain text is one token. -/
theorem AtText.plain
    (h : l.AtText ts p (cs ++ '\n' :: rest)) (hplain : isPlain cs = true)
    (hne : cs ≠ []) (hrest : Starts rest) :
    ∃ l' q, Step l l' ∧ l'.AtLine true (.text (String.ofList cs) true :: ts) q rest := by
  obtain ⟨c, cs, rfl⟩ := List.exists_cons_of_ne_nil hne
  rw [List.cons_append] at h
  obtain ⟨m, hm, hstep⟩ := h.step?
  obtain ⟨c', hcandidate, hfree⟩ :=
    hm.idle.addCandidate? ⟨c, p.line, p.column, p.index⟩ hm.indent_ne
  have hflow : ({ m with candidates := [c'] } : Lexer).inFlow = false := rfl
  have hread : plain? false (m.indent + 1) (m.rest.length + 1) [] [] false m.rest
      = some ⟨c :: cs, true, (p.after (c :: cs ++ ['\n'])).place rest⟩ := by
    have hfuel : (c :: cs).length < (p.place (c :: (cs ++ '\n' :: rest))).length + 1 := by
      rw [length_place]
      simp only [List.length_cons, List.length_append]
      omega
    rw [hm.indent, hm.rest]
    exact (PlainRest.of_isPlain hplain).plain?_place hne (fun c hc => (hrest c hc).1) hfuel
      hm.column _ _ _
  have htake : l.step? = some { m with
      rest := (p.after (c :: cs ++ ['\n'])).place rest
      tokens := .text (String.ofList (c :: cs)) true :: m.tokens
      count := m.count + 1, candidates := [c'], keyAllowed := true } := by
    have hstart : PlainStart c ((p.next c).place (cs ++ '\n' :: rest)) := .of_isPlain hplain
    rw [hstep, hstart.take? hm.idle.inFlow hm.noEdge]
    unfold takePlain?
    rw [hcandidate]
    dsimp only [Option.bind_eq_bind, Option.bind_some]
    rw [hflow, hread]
    rfl
  refine ⟨_, p.after (c :: cs ++ ['\n']), ⟨_, htake, settled_starts rfl hrest, ?_⟩, ⟨rfl, ?_, ?_,
    ⟨c', rfl, hfree⟩, rfl, hm.indent, hm.outer⟩⟩
  · rw [length_rest h.rest]
    simp only [length_place, List.length_cons, List.length_append]
    omega
  · exact column_after_concat (by decide)
  · exact congrArg (_ :: ·) hm.tokens

end Text

/-- **A text is one token, in whatever way it is written.** -/
theorem AtText.written {s : String} {plain : Bool} (hs : WrittenAs s plain cs)
    (h : l.AtText ts p (closed cs ++ rest)) (hrest : Starts rest) :
    ∃ l' q, Step l l' ∧ l'.AtLine true (.text s plain :: ts) q rest := by
  have hself : String.ofList s.toList = s := String.ofList_toList
  rw [← hself]
  cases hs with
  | plain hplain hne =>
      have hlast : (endsLine (s.toList.getLast hne)) = false :=
        (PlainRest.of_isPlain hplain).oneLine _ (List.getLast_mem hne)
      rw [closed_of_getLast? (List.getLast?_eq_some_getLast hne), hlast] at h
      refine AtText.plain (p := p) ?_ hplain hne hrest
      simpa using h
  | double =>
      -- the second quote does not end the line, so a line end is added
      refine AtText.quoted (p := p) ?_ (between_escaped s.toList) (Or.inr rfl) hrest
      unfold doubleQuoted at h
      rw [closed_of_getLast? List.getLast?_concat] at h
      simpa [endsLine] using h
  | block hprintable hne => exact h.block hprintable hne hrest
  | single hprintable hline hspace hbreak =>
      refine AtText.quoted (p := p) ?_ (between_insideSingle hprintable hline hspace hbreak)
        (Or.inl rfl) hrest
      unfold singleQuoted at h
      rw [closed_of_getLast? List.getLast?_concat] at h
      simpa [endsLine, insideSingle] using h

end Lexer

end HostsBlock.Yaml
