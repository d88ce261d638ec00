import HostsBlock.Proofs.YamlTokens

/-!
# The lines of a map

A report in YAML is a map at the margin, and its lines begin with the name of a field or with the
hyphen of a list. A name is read as a text first. The colon behind it makes it a key: the token of
the key goes in front of the text, and in the first line so does the start of the map
(`AtColon.key`). This needs the name to be on the line of the colon and near it, which is where the
length of a name counts.

The lists of a report are at the margin as well, so a hyphen opens nothing (`AtLine.hyphen`), and
the end of the text closes the map and nothing else (`AtLine.endBlocks?`).
-/

namespace HostsBlock.Yaml.Lexer

open Spot

variable {l : Lexer} {p q : Spot} {cs rest : List Char} {ts : List Token}

/-! ## The other tokens of a report -/

theorem take?_bracket {here : Placed} {behind : List Placed}
    (hedge : atDocumentEdge l.rest = false) :
    (here.char = '[' → l.take? here behind = l.openBracket? here .flowListStart)
    ∧ (here.char = ']' → l.take? here behind = l.closeBracket? .flowListEnd) := by
  obtain ⟨hdash, hdot⟩ := Bool.or_eq_false_iff.mp hedge
  unfold take?
  constructor <;> intro hc <;> simp [hdash, hdot, hc]

/-- The closing bracket is the only one that is open. -/
theorem step?_closing (hrest : l.rest = p.place (']' :: cs)) (hp : 0 < p.column)
    {c : Option Candidate} (hcandidates : l.candidates = [none, c])
    (hfree : ∀ x ∈ c, x.required = false) :
    ∃ c' : Option Candidate, l.step? = some { l with
        rest := (p.next ']').place cs, tokens := .flowListEnd :: l.tokens, count := l.count + 1
        candidates := [c'], keyAllowed := false }
      ∧ ∀ x ∈ c', x.required = false := by
  have hedge : atDocumentEdge l.rest = false := by
    rw [hrest]
    exact atDocumentEdge_of_column hp
  generalize hhere : (⟨']', p.line, p.column, p.index⟩ : Placed) = here
  have hstale : l.dropStale? here
      = some { l with candidates := [none, c.filter (!isStale here ·)] } := by
    rw [dropStale?_eq, hcandidates]
    · rfl
    · rw [hcandidates]
      refine List.forall_mem_cons.mpr ⟨nofun, List.forall_mem_singleton.mpr fun x hx => ?_⟩
      rw [hfree x hx, Bool.false_and]
  -- inside brackets no block is closed, wherever the line stands
  have hclosed (column : Int) :
      { l with candidates := [none, c.filter (!isStale here ·)] }.closeBlocks column
        = { l with candidates := [none, c.filter (!isStale here ·)] } := if_pos rfl
  refine ⟨c.filter (!isStale here ·), ?_,
    fun x hx => hfree x (Option.filter_eq_some_iff.mp hx).1⟩
  rw [step?_eq (hrest.trans (place_cons p ']' cs)), hhere, hstale, Option.bind_some, hclosed,
    (take?_bracket (l := { l with candidates := [none, c.filter (!isStale here ·)] }) hedge).2
      (by rw [← hhere])]
  unfold closeBracket? Lexer.dropCandidate?
  rw [hrest, place_cons]
  rfl

/-- The brackets of an empty list are two tokens. -/
theorem AtText.brackets (h : l.AtText ts p ('[' :: ']' :: '\n' :: rest)) (hrest : Starts rest) :
    ∃ l' q, Steps l l' ∧ l'.AtLine true (.flowListEnd :: .flowListStart :: ts) q rest := by
  obtain ⟨m, hm, hstep⟩ := h.step?
  obtain ⟨c, hcandidate, hfree⟩ :=
    hm.idle.addCandidate? ⟨'[', p.line, p.column, p.index⟩ hm.indent_ne
  have hcolumn : 0 < (p.next '[').column := by
    rw [column_next (by decide)]
    exact Nat.succ_pos _
  have hopening : l.step? = some { m with
      rest := (p.next '[').place (']' :: '\n' :: rest), tokens := .flowListStart :: m.tokens
      count := m.count + 1, candidates := [none, c], keyAllowed := true } := by
    rw [hstep, (take?_bracket hm.noEdge).1 rfl]
    unfold openBracket?
    rw [hcandidate, hm.rest, place_cons]
    rfl
  have hstarts : Starts (']' :: '\n' :: rest) := by
    rintro _ ⟨rfl⟩
    decide
  obtain ⟨c', hclosing, hfree'⟩ := step?_closing (l := { m with
      rest := (p.next '[').place (']' :: '\n' :: rest), tokens := .flowListStart :: m.tokens
      count := m.count + 1, candidates := [none, c], keyAllowed := true }) rfl hcolumn rfl hfree
  refine ⟨_, _, .head ⟨_, hopening, settled_starts rfl hstarts, ?_⟩
    (.single ⟨_, hclosing, settled_newline rfl rfl hrest, ?_⟩), ⟨rfl, ?_, ?_,
    ⟨c', rfl, hfree'⟩, rfl, hm.indent, hm.outer⟩⟩
  · rw [length_rest h.rest]
    simp only [length_place, List.length_cons]
    omega
  · simp only [length_place, List.length_cons]
    omega
  · exact column_next_of_break (by decide)
  · exact congrArg (fun ts => _ :: _ :: ts) hm.tokens

theorem AtLine.step? {opened : Bool} {c : Char} (h : l.AtLine opened ts q (c :: cs)) :
    ∃ m : Lexer, m.AtLine opened ts q (c :: cs)
      ∧ l.step? = m.take? ⟨c, q.line, q.column, q.index⟩ ((q.next c).place cs) := by
  have hindent : l.indent ≤ (q.column : Int) := by
    rw [h.indent, h.margin]
    cases opened <;> decide
  obtain ⟨c', hstep, hfree⟩ := h.idle.step? (h.rest.trans (place_cons q c cs)) hindent
  exact ⟨{ l with candidates := [c'] }, ⟨h.rest, h.margin, h.tokens, ⟨c', rfl, hfree⟩,
    h.keyAllowed, h.indent, h.outer⟩, hstep⟩

/-- The hyphen of a list at the margin opens no block of its own. -/
theorem AtLine.hyphen (h : l.AtLine true ts q ('-' :: ' ' :: cs)) (hcs : Starts cs) :
    ∃ l' p, Step l l' ∧ l'.AtText (.hyphen :: ts) p cs := by
  obtain ⟨m, hm, hstep⟩ := h.step?
  have hdash : atMarker '-' m.rest = false := by
    rw [hm.rest]
    exact atMarker_of_second (by decide)
  have hdot : atMarker '.' m.rest = false := by
    rw [hm.rest]
    exact atMarker_of_head (by simp)
  have hgap : atGap ((q.next '-').place (' ' :: cs)) = true := by
    rw [atGap_place]
    rfl
  have htake : l.step? = some { m with
      rest := (q.next '-').place (' ' :: cs), tokens := .hyphen :: m.tokens, count := m.count + 1
      candidates := [none], keyAllowed := true } := by
    -- the list is as far in as the map that is open already
    have hopen : m.openBlock q.column m.count .blockListStart = m := by
      unfold openBlock
      rw [hm.margin, hm.indent, hm.idle.inFlow]
      rfl
    have hhyphen : m.take? ⟨'-', q.line, q.column, q.index⟩ ((q.next '-').place (' ' :: cs))
        = m.takeHyphen? ⟨'-', q.line, q.column, q.index⟩ := by
      unfold take?
      simp [hdash, hdot, hgap]
    rw [hstep, hhyphen]
    unfold takeHyphen?
    rw [hopen, hm.idle.inFlow, hm.keyAllowed, hm.idle.dropCandidate?, hm.rest, place_cons]
    rfl
  refine ⟨_, _, ⟨_, htake, settled_space rfl hcs, ?_⟩, ⟨rfl, ?_, ?_, ⟨none, rfl, nofun⟩, hm.indent,
    hm.outer⟩⟩
  · rw [length_rest h.rest]
    simp only [length_place, List.length_cons]
    omega
  · rw [column_next (by decide)]
    exact Nat.succ_pos _
  · exact congrArg (_ :: ·) hm.tokens

theorem AtLine.endBlocks? (h : l.AtLine true ts q []) :
    l.endBlocks?.map (·.tokens.reverse) = some (ts.reverse ++ [.blockEnd]) := by
  have hclosed : l.closeBlocks (-1)
      = { l with tokens := .blockEnd :: ts, count := l.count + 1, indent := -1, outer := [] } := by
    unfold closeBlocks
    rw [h.idle.inFlow, h.indent, h.outer, h.tokens]
    rfl
  have hidle : Idle { l with
      tokens := .blockEnd :: ts, count := l.count + 1, indent := -1, outer := [] } := h.idle
  unfold Lexer.endBlocks?
  rw [hclosed, hidle.dropCandidate?]
  simp

/-- A name that is one word. -/
structure IsName (name : List Char) : Prop where
  letters : ∀ c ∈ name, c.isAlpha = true
  ne_nil : name ≠ []
  short : name.length ≤ 1024

theorem ne_of_isAlpha {c x : Char} (h : c.isAlpha = true) (hx : x.isAlpha = false) : c ≠ x := by
  rintro rfl
  exact absurd (h.symm.trans hx) nofun

theorem isGap_of_isAlpha {c : Char} (h : c.isAlpha = true) : isGap c = false := by
  have hother (x : Char) (hx : x.isAlpha = false) : (c == x) = false :=
    beq_false_of_ne (ne_of_isAlpha h hx)
  unfold isGap isBlank isBreak
  rw [hother ' ' (by decide), hother '\t' (by decide), hother '\n' (by decide),
    hother '\u2028' (by decide), hother '\u2029' (by decide)]
  rfl

theorem PlainStart.of_isAlpha {c : Char} {behind : List Placed} (h : c.isAlpha = true) :
    PlainStart c behind := by
  have hnone (xs : List Char) (hxs : xs.all (!Char.isAlpha ·) = true) : c ∉ xs := by
    intro hc
    have hother := List.all_eq_true.mp hxs c hc
    rw [h] at hother
    exact absurd hother nofun
  exact ⟨isGap_of_isAlpha h, hnone _ (by decide), fun hc => absurd hc (hnone _ (by decide))⟩

instance (name : List Char) : Decidable (IsName name) :=
  decidable_of_iff (name.all Char.isAlpha = true ∧ name ≠ [] ∧ name.length ≤ 1024)
    ⟨fun ⟨letters, ne_nil, short⟩ => ⟨List.all_eq_true.mp letters, ne_nil, short⟩,
      fun ⟨letters, ne_nil, short⟩ => ⟨List.all_eq_true.mpr letters, ne_nil, short⟩⟩

/-- In front of the colon behind a name, which is about to become a key. -/
structure AtColon (l : Lexer) (opened : Bool) (name : List Char) (ts : List Token) (q : Spot)
    (cs : List Char) : Prop where
  rest : l.rest = (q.after name).place (':' :: cs)
  tokens : l.tokens = .text (String.ofList name) true :: ts
  candidate : ∃ c, l.candidates = [some c] ∧ c.start.line = q.line ∧ c.start.column = 0
    ∧ c.start.index = q.index ∧ l.count = c.position + 1
  indent : l.indent = if opened then 0 else -1
  outer : l.outer = if opened then [-1] else []

section Key

variable {opened : Bool} {name : List Char}

theorem IsName.isBreak_eq_false (h : IsName name) {c : Char} (hc : c ∈ name) : isBreak c = false :=
  isBreak_of_isGap (isGap_of_isAlpha (h.letters c hc))

theorem IsName.head?_ne (h : IsName name) {x : Char} (hx : x.isAlpha = false) :
    (name ++ cs).head? ≠ some x := by
  obtain ⟨c, name, rfl⟩ := List.exists_cons_of_ne_nil h.ne_nil
  exact fun heq => ne_of_isAlpha (h.letters c List.mem_cons_self) hx (Option.some.inj heq)

theorem IsName.plain?_eq (h : IsName name) (hcs : ∀ c ∈ cs.head?, isGap c = true) (indent : Int)
    (fuel : Nat) :
    plain? false indent (fuel + 1) [] [] false (q.place (name ++ ':' :: cs))
      = some ⟨name, false, (q.after name).place (':' :: cs)⟩ := by
  have hhash : name.head? ≠ some '#' := by
    have hother : (name ++ []).head? ≠ some '#' := h.head?_ne (by decide)
    rwa [List.append_nil] at hother
  exact plain?_key (atDocumentEdge_of_head (h.head?_ne (by decide)) (h.head?_ne (by decide)))
    h.ne_nil (fun c hc => isGap_of_isAlpha (h.letters c hc))
    (fun hcolon => absurd (h.letters ':' hcolon) (by decide)) hhash hcs indent fuel

/-- What begins a line may become a key. -/
theorem AtLine.addCandidate? (h : l.AtLine opened ts q cs) (here : Placed) :
    ∃ required, l.addCandidate? here
      = some { l with candidates := [some ⟨here, l.count, required⟩] } := by
  unfold Lexer.addCandidate?
  rw [if_pos h.keyAllowed, h.idle.dropCandidate?]
  exact ⟨_, rfl⟩

/-- A name at the start of a line is read as a text first. -/
theorem AtLine.atColon (hname : IsName name) (h : l.AtLine opened ts q (name ++ ':' :: cs))
    (hcs : ∀ c ∈ cs.head?, isGap c = true) : ∃ s, Step l s ∧ s.AtColon opened name ts q cs := by
  have hread (fuel : Nat) (indent : Int) := hname.plain?_eq (q := q) hcs indent fuel
  have hedge : atDocumentEdge (q.place (name ++ ':' :: cs)) = false :=
    atDocumentEdge_of_head (hname.head?_ne (by decide)) (hname.head?_ne (by decide))
  obtain ⟨c, more, rfl⟩ := List.exists_cons_of_ne_nil hname.ne_nil
  obtain ⟨m, hm, hstep⟩ := h.step?
  obtain ⟨required, hcandidate⟩ := hm.addCandidate? ⟨c, q.line, q.column, q.index⟩
  have hstart : PlainStart c ((q.next c).place (more.append (':' :: cs))) :=
    .of_isAlpha (hname.letters c List.mem_cons_self)
  have hflow : ({ m with
      candidates := [some ⟨⟨c, q.line, q.column, q.index⟩, m.count, required⟩] } : Lexer).inFlow
        = false := rfl
  have htake : l.step? = some { m with
      rest := (q.after (c :: more)).place (':' :: cs)
      tokens := .text (String.ofList (c :: more)) true :: m.tokens, count := m.count + 1
      candidates := [some ⟨⟨c, q.line, q.column, q.index⟩, m.count, required⟩]
      keyAllowed := false } := by
    rw [hstep, hstart.take? hm.idle.inFlow (by rwa [hm.rest])]
    unfold takePlain?
    rw [hcandidate]
    dsimp only [Option.bind_eq_bind, Option.bind_some]
    rw [hflow, hm.rest]
    exact congrArg (Option.bind · _) (hread _ _)
  have hcolon : Starts (':' :: cs) := by
    rintro _ ⟨rfl⟩
    decide
  refine ⟨_, ⟨_, htake, settled_starts rfl hcolon, ?_⟩, ⟨rfl, ?_, ⟨_, rfl, rfl, h.margin, rfl, rfl⟩,
    hm.indent, hm.outer⟩⟩
  · rw [length_rest h.rest]
    simp only [length_place, List.length_cons, List.length_append]
    omega
  · exact congrArg (_ :: ·) hm.tokens

/-- The name is still near enough to become a key. -/
theorem AtColon.step? (hname : IsName name) (h : l.AtColon opened name ts q cs)
    (hcs : ∀ c ∈ cs.head?, isGap c = true) :
    l.step? = l.takeColon?
      ⟨':', (q.after name).line, (q.after name).column, (q.after name).index⟩ := by
  obtain ⟨c, hcandidates, hline, -, hindex, -⟩ := h.candidate
  have hafter := after_of_no_breaks (p := q) fun c hc => hname.isBreak_eq_false hc
  generalize hhere : (⟨':', (q.after name).line, (q.after name).column, (q.after name).index⟩
    : Placed) = here
  -- a name that began on another line or too far away could not be a key
  have hfresh : isStale here c = false := by
    have hshort := hname.short
    rw [← hhere, hafter]
    unfold isStale
    rw [hline, hindex, Bool.or_eq_false_iff]
    simp only [decide_eq_false_iff_not]
    omega
  have hsame : l.candidates.map (fun c => c.filter (!isStale here ·)) = l.candidates := by
    rw [hcandidates, List.map_singleton, Option.filter_some, hfresh]
    rfl
  have hstale : l.dropStale? here = some l := by
    rw [dropStale?_eq, hsame]
    rw [hcandidates]
    refine List.forall_mem_singleton.mpr ?_
    rintro _ ⟨rfl⟩
    rw [hfresh, Bool.and_false]
  have hclosed : l.closeBlocks here.column = l := by
    refine closeBlocks_of_le ?_
    rw [h.indent, ← hhere, hafter]
    split <;> omega
  have hgap : atGap (((q.after name).next ':').place cs) = true := by
    rw [atGap_place, Option.all_eq_true]
    exact hcs
  have hedge : atDocumentEdge l.rest = false := by
    rw [h.rest]
    exact atDocumentEdge_of_head (by simp) (by simp)
  obtain ⟨hdash, hdot⟩ := Bool.or_eq_false_iff.mp hedge
  have hchar : here.char = ':' := by rw [← hhere]
  rw [step?_eq (h.rest.trans (place_cons _ ':' cs)), hhere, hstale, Option.bind_some, hclosed]
  unfold take?
  simp [hdash, hdot, hchar, hgap]

/-- The key goes in front of the name, and in the first line so does the start of the map. -/
theorem AtColon.insertKey (h : l.AtColon opened name ts q cs) {c : Candidate}
    (hcandidates : l.candidates = [some c]) (hcolumn : c.start.column = 0)
    (hcount : l.count = c.position + 1) :
    (l.insertAt c.position [.key]).openBlock c.start.column c.position .blockMapStart
      = { l with
          tokens := .text (String.ofList name) true :: .key
            :: ((if opened then [] else [.blockMapStart]) ++ ts)
          count := l.count + (if opened then 1 else 2), indent := 0, outer := [-1] } := by
  -- the name is the last token, so the key goes in front of one and the map in front of two
  have hkey : l.count - c.position = 1 := by omega
  have hblock : l.count + 1 - c.position = 2 := by omega
  unfold openBlock insertAt Lexer.inFlow
  simp only [hkey, h.tokens, hcandidates, hcolumn, h.indent, h.outer, List.length_singleton, hblock]
  cases opened <;> rfl

/-- **A name at the start of a line is a key.** -/
theorem AtColon.key (hname : IsName name) (h : l.AtColon opened name ts q cs)
    (hcs : ∀ c ∈ cs.head?, isGap c = true) :
    ∃ m : Lexer, l.step? = some m ∧ m.rest = ((q.after name).next ':').place cs
      ∧ m.tokens = .value :: .text (String.ofList name) true :: .key
          :: ((if opened then [] else [.blockMapStart]) ++ ts)
      ∧ m.candidates = [none] ∧ m.indent = 0 ∧ m.outer = [-1] := by
  obtain ⟨c, hcandidates, -, hcolumn, -, hcount⟩ := h.candidate
  rw [h.step? hname hcs]
  unfold takeColon?
  rw [hcandidates]
  dsimp only
  rw [h.insertKey hcandidates hcolumn hcount]
  refine ⟨_, rfl, ?_, rfl, rfl, rfl, rfl⟩
  unfold emit
  dsimp only
  rw [h.rest, place_cons, List.tail_cons]

end Key

end HostsBlock.Yaml.Lexer
