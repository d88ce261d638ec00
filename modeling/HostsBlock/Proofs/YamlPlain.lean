import HostsBlock.Proofs.YamlPlaces
import HostsBlock.Yaml.FlowText

/-!
# Plain texts in YAML

A plain text has nothing around it that says where it ends. It is read word by word, and between two
words the reader asks whether the line ends, a comment starts or the text was the name of a key.
A text is only written plainly if none of this can happen inside it, and `PlainRest` says what is
left of that in the middle of the text. The text then is one word, or a word, spaces and a rest of
the same kind (`PlainRest.word_or_more`), which is how it is read (`PlainRest.plain?_place`).

The name of a key is a plain text of one word that a colon ends (`plain?_key`).
-/

namespace HostsBlock.Yaml

open Spot

section Neighbours

variable {q : Char → Char → Bool} {a b : Char} {cs xs ys : List Char}

theorem anyNeighbours_cons_cons :
    anyNeighbours q (a :: b :: cs) = (q a b || anyNeighbours q (b :: cs)) := rfl

theorem anyNeighbours_tail (h : anyNeighbours q (a :: cs) = false) :
    anyNeighbours q cs = false := by
  cases cs with
  | nil => rfl
  | cons b cs =>
      rw [anyNeighbours_cons_cons, Bool.or_eq_false_iff] at h
      exact h.2

theorem anyNeighbours_append_right (h : anyNeighbours q (xs ++ ys) = false) :
    anyNeighbours q ys = false := by
  induction xs with
  | nil => exact h
  | cons x xs ih => exact ih (anyNeighbours_tail h)

theorem anyNeighbours_append_left (h : anyNeighbours q (xs ++ ys) = false) :
    anyNeighbours q xs = false := by
  induction xs with
  | nil => rfl
  | cons x xs ih =>
      have hrest := ih (anyNeighbours_tail h)
      cases xs with
      | nil => rfl
      | cons y xs =>
          rw [List.cons_append, List.cons_append, anyNeighbours_cons_cons,
            Bool.or_eq_false_iff] at h
          rw [anyNeighbours_cons_cons, h.1, hrest]
          rfl

/-- Where two texts meet there are neighbours as well. -/
theorem neighbours_of_append (xs ys : List Char)
    (h : anyNeighbours q (xs ++ a :: b :: ys) = false) : q a b = false := by
  have hmeet := anyNeighbours_append_right h
  rw [anyNeighbours_cons_cons, Bool.or_eq_false_iff] at hmeet
  exact hmeet.1

end Neighbours

/-! ## Plain texts -/

/-- The rest of a plain text where a word of it begins. -/
structure PlainRest (cs : List Char) : Prop where
  printable : ∀ c ∈ cs, isPrintable c = true
  oneLine : ∀ c ∈ cs, endsLine c = false
  noIndicator : holdsIndicator cs = false
  begins : ∀ c ∈ cs.head?, c ≠ ' ' ∧ c ≠ '#'
  ends : ∀ c ∈ cs.getLast?, c ≠ ' '

section Plain

variable {p : Spot} {cs word gap rest : List Char} {r : Char}

/-- A word is read up to where it ends. -/
theorem plainWord?_place (hword : ∀ c ∈ word, isGap c = false)
    (hcolon : anyNeighbours (fun a b => a == ':' && isGap b) (word ++ [r]) = false)
    (hend : ∀ p : Spot, plainWord? false (p.place (r :: rest)) = some ([], p.place (r :: rest))) :
    plainWord? false (p.place (word ++ r :: rest))
      = some (word, (p.after word).place (r :: rest)) := by
  induction word generalizing p with
  | nil => exact hend p
  | cons c word ih =>
      obtain ⟨hc, hword⟩ := List.forall_mem_cons.mp hword
      have hgoes : (c == ':' && atGap ((p.next c).place (word ++ r :: rest))) = false := by
        rw [atGap_place]
        cases word with
        | nil => exact neighbours_of_append [] [] hcolon
        | cons d word => exact neighbours_of_append [] (word ++ [r]) hcolon
      have hrest := ih (p := p.next c) hword (anyNeighbours_tail hcolon)
      rw [List.cons_append, place_cons, plainWord?]
      simp only [hc, hgoes, hrest, Bool.false_and, Bool.or_self, Bool.false_eq_true, if_false,
        Option.map_some]
      rfl

/-- Inside a word a colon is no end of a key. -/
theorem colon_goes_on (hword : ∀ c ∈ word, isGap c = false) (hlast : word.getLast? ≠ some ':') :
    anyNeighbours (fun a b => a == ':' && isGap b) (word ++ [r]) = false := by
  induction word with
  | nil => rfl
  | cons a word ih =>
      obtain ⟨-, hword⟩ := List.forall_mem_cons.mp hword
      cases word with
      | nil =>
          have ha : a ≠ ':' := by
            rintro rfl
            exact hlast rfl
          simp [anyNeighbours, ha]
      | cons b word =>
          rw [List.getLast?_cons_cons] at hlast
          rw [List.cons_append, List.cons_append, anyNeighbours_cons_cons, hword b (by simp),
            Bool.and_false, Bool.false_or]
          exact ih hword hlast

theorem plainWord?_of_gap (hr : isGap r = true) :
    plainWord? false (p.place (r :: rest)) = some ([], p.place (r :: rest)) := by
  rw [place_cons, plainWord?, if_pos hr]

namespace PlainRest

theorem isGap_iff (h : PlainRest cs) {c : Char} (hc : c ∈ cs) : isGap c = true ↔ c = ' ' := by
  rw [isGap_eq (h.printable c hc), h.oneLine c hc, Bool.or_false, beq_iff_eq]

/-- Neither the end of a key nor the start of a comment is anywhere in the text. -/
theorem neighbours (h : PlainRest cs) : anyNeighbours
    (fun a b => (a == ':' && separates b) || (separates a && b == '#')) cs = false := by
  have hindicator := h.noIndicator
  unfold holdsIndicator at hindicator
  rw [Bool.or_eq_false_iff] at hindicator
  exact hindicator.2

theorem getLast?_ne_colon (h : PlainRest cs) : cs.getLast? ≠ some ':' := by
  have hindicator := h.noIndicator
  unfold holdsIndicator at hindicator
  rw [Bool.or_eq_false_iff, beq_eq_false_iff_ne] at hindicator
  exact hindicator.1

/-- What stands behind a gap of a plain text is a plain text as well. -/
theorem of_append {front : List Char} (h : PlainRest (front ++ ' ' :: cs)) (hcs : cs ≠ [])
    (hspace : cs.head? ≠ some ' ') : PlainRest cs := by
  have hlast : (front ++ ' ' :: cs).getLast? = cs.getLast? := by
    rw [List.getLast?_append, List.getLast?_cons_of_ne_nil hcs,
      List.getLast?_eq_some_getLast hcs, Option.some_or]
  refine ⟨fun c hc => h.printable c (List.mem_append_right _ (List.mem_cons_of_mem _ hc)),
    fun c hc => h.oneLine c (List.mem_append_right _ (List.mem_cons_of_mem _ hc)), ?_,
    fun c hc => ⟨?_, ?_⟩, fun c hc => h.ends c (hlast ▸ hc)⟩
  · have hcolon := h.getLast?_ne_colon
    have hneighbours := anyNeighbours_tail (anyNeighbours_append_right h.neighbours)
    rw [hlast] at hcolon
    unfold holdsIndicator
    rw [hneighbours, Bool.or_false]
    exact beq_eq_false_iff_ne.mpr hcolon
  · rintro rfl
    exact hspace hc
  · -- a comment would begin here
    rintro rfl
    obtain ⟨more, rfl⟩ := List.head?_eq_some_iff.mp hc
    exact absurd (neighbours_of_append front more h.neighbours) (by decide)

/-- **A plain text is one word, or it has a word, a gap and more.** -/
theorem word_or_more (h : PlainRest cs) :
    (∀ c ∈ cs, isGap c = false)
    ∨ ∃ word gap more, cs = word ++ (gap ++ more) ∧ (∀ c ∈ word, isGap c = false) ∧ word ≠ []
      ∧ (∀ c ∈ gap, c = ' ') ∧ gap ≠ [] ∧ more ≠ [] ∧ PlainRest more := by
  obtain ⟨word, back, rfl, hword, hback⟩ := exists_run (!isGap ·) cs
  obtain ⟨gap, more, rfl, hgap, hmore⟩ := exists_run (· == ' ') back
  have hword' : ∀ c ∈ word, isGap c = false := fun c hc => by simpa using hword c hc
  have hgap' : ∀ c ∈ gap, c = ' ' := fun c hc => beq_iff_eq.mp (hgap c hc)
  rcases List.eq_nil_or_concat gap with rfl | ⟨front, x, rfl⟩
  · refine Or.inl ?_
    cases more with
    | nil => rwa [List.append_nil, List.append_nil]
    | cons c more =>
        -- the word ends at a blank, which is a space
        have hc : c = ' ' := (h.isGap_iff (by simp)).mp (by simpa using hback c rfl)
        exact absurd (hmore c rfl) (by simp [hc])
  · have hx : x = ' ' := hgap' x (by simp)
    subst hx
    have hne : more ≠ [] := by
      rintro rfl
      exact h.ends ' ' (by simp) rfl
    have hhead : more.head? ≠ some ' ' := fun hspace => absurd (hmore ' ' hspace) (by decide)
    have hrest : PlainRest more := by
      have hsplit : word ++ (front.concat ' ' ++ more) = (word ++ front) ++ ' ' :: more := by simp
      rw [hsplit] at h
      exact h.of_append hne hhead
    refine Or.inr ⟨word, front.concat ' ', more, rfl, hword', ?_, hgap', by simp, hne, hrest⟩
    rintro rfl
    cases front with
    | nil => exact (h.begins ' ' rfl).1 rfl
    | cons y front => exact (h.begins y rfl).1 (hgap' y (by simp))

theorem of_isPlain (h : isPlain cs = true) : PlainRest cs := by
  unfold isPlain hasOuterGap hasSpecial at h
  simp only [Bool.not_eq_true', Bool.or_eq_false_iff] at h
  obtain ⟨⟨⟨⟨hindicator, hinner⟩, hhead, hlast⟩, hprintable⟩, hlines⟩ := h
  rw [Option.any_eq_false] at hhead hlast
  refine ⟨fun c hc => ?_, fun c hc => List.any_eq_false.mp hlines c hc |> Bool.eq_false_iff.mpr,
    hinner, fun c hc => ⟨?_, ?_⟩, fun c hc => ?_⟩
  · simpa using List.any_eq_false.mp hprintable c hc
  · have hspace := hhead c hc
    rw [Bool.or_eq_false_iff] at hspace
    exact beq_eq_false_iff_ne.mp hspace.1
  · rintro rfl
    obtain ⟨more, rfl⟩ := List.head?_eq_some_iff.mp hc
    unfold startsAsIndicator at hindicator
    simp at hindicator
  · have hspace := hlast c hc
    rw [Bool.or_eq_false_iff] at hspace
    exact beq_eq_false_iff_ne.mp hspace.1

end PlainRest

/-- Spaces stand for themselves. -/
theorem fold_of_spaces {gap : List Char} (h : ∀ c ∈ gap, c = ' ') : fold gap = gap := by
  have hnone : gap.filter isBreak = [] := by
    refine List.filter_eq_nil_iff.mpr fun c hc => ?_
    rw [h c hc]
    decide
  unfold fold
  rw [hnone]

theorem tabInIndentation_of_no_tab (htab : '\t' ∉ gap) (indent : Int) :
    tabInIndentation indent (p.place gap) = false := by
  have hnone : ∀ x ∈ p.place gap, x.char ≠ '\t' := by
    intro x hx heq
    have hmem : x.char ∈ chars (p.place gap) := List.mem_map_of_mem hx
    rw [chars_place, heq] at hmem
    exact htab hmem
  unfold tabInIndentation
  refine List.any_eq_false.mpr fun x hx => ?_
  have hx' := hnone x ((List.dropWhile_sublist _).subset hx)
  simp [hx']

theorem startsWith_comment (hne : word ≠ []) (h : word.head? ≠ some '#') :
    startsWith '#' (p.place (word ++ rest)) = false := by
  obtain ⟨c, word, rfl⟩ := List.exists_cons_of_ne_nil hne
  rw [startsWith_place]
  exact beq_false_of_ne fun heq => h (congrArg some heq)

/-- A word and the gap behind it are one round of the reader. -/
theorem plain?_round (hp : 0 < p.column) (hword : word ≠ [])
    (hinner : ∀ c ∈ word, isGap c = false) (hcomment : word.head? ≠ some '#')
    (hcolon : word.getLast? ≠ some ':') (hne : gap ≠ []) (hgap : ∀ c ∈ gap, isGap c = true)
    (htab : '\t' ∉ gap) (hrest : ∀ c ∈ rest.head?, isGap c = false) (fuel : Nat)
    (read held : List Char) (endsLine : Bool) :
    plain? false 1 (fuel + 1) read held endsLine (p.place (word ++ (gap ++ rest)))
      = if ((p.after (word ++ gap)).place rest).head?.all fun x => (x.column : Int) < 1 then
          some ⟨read ++ held ++ word, gap.any isBreak, (p.after (word ++ gap)).place rest⟩
        else plain? false 1 fuel (read ++ held ++ word) (fold gap) (gap.any isBreak)
          ((p.after (word ++ gap)).place rest) := by
  have hedge : atDocumentEdge (p.place (word ++ (gap ++ rest))) = false :=
    atDocumentEdge_of_column hp
  have hhash : startsWith '#' (p.place (word ++ (gap ++ rest))) = false :=
    startsWith_comment hword hcomment
  have hempty : word.isEmpty = false := by simpa using hword
  obtain ⟨r, front, hr⟩ := List.exists_cons_of_ne_nil hne
  have hrgap : isGap r = true := hgap r (by simp [hr])
  have hread : plainWord? false (p.place (word ++ (gap ++ rest)))
      = some (word, (p.after word).place (gap ++ rest)) := by
    rw [hr]
    exact plainWord?_place hinner (colon_goes_on hinner hcolon) fun p => plainWord?_of_gap hrgap
  have hnext : nextIs isGap ((p.after word).place (gap ++ rest)) = true := by
    rw [nextIs_place, hr]
    exact hrgap
  have hblank := takeWhile_place (p := p.after word) hgap hrest
  have hafter := dropWhile_place (p := p.after word) hgap hrest
  have htabs := tabInIndentation_of_no_tab (p := p.after word) htab 1
  rw [plain?, hedge, hhash, hread]
  simp only [Bool.or_self, Bool.false_eq_true, if_false, Option.bind_eq_bind, Option.bind_some,
    hempty, hnext, hblank, hafter, htabs, any_place, chars_place, after_append, Bool.not_true,
    Bool.not_false, Bool.true_and]
  rfl

/-- The name of a key is read up to the colon. -/
theorem plain?_key (hedge : atDocumentEdge (p.place (word ++ ':' :: rest)) = false)
    (hne : word ≠ []) (hword : ∀ c ∈ word, isGap c = false) (hcolon : ':' ∉ word)
    (hcomment : word.head? ≠ some '#') (hrest : ∀ c ∈ rest.head?, isGap c = true)
    (indent : Int) (fuel : Nat) :
    plain? false indent (fuel + 1) [] [] false (p.place (word ++ ':' :: rest))
      = some ⟨word, false, (p.after word).place (':' :: rest)⟩ := by
  have hhash : startsWith '#' (p.place (word ++ ':' :: rest)) = false :=
    startsWith_comment hne hcomment
  have hend (p : Spot) :
      plainWord? false (p.place (':' :: rest)) = some ([], p.place (':' :: rest)) := by
    have hgap : atGap ((p.next ':').place rest) = true := by
      rw [atGap_place, Option.all_eq_true]
      exact hrest
    rw [place_cons, plainWord?]
    simp [hgap, isGap, isBlank, isBreak]
  have hread := plainWord?_place (p := p) hword
    (colon_goes_on hword fun hlast => hcolon (List.mem_of_getLast? hlast)) hend
  have hempty : word.isEmpty = false := by simpa using hne
  have hnext : nextIs isGap ((p.after word).place (':' :: rest)) = false := by
    rw [nextIs_place]
    rfl
  rw [plain?, hedge, hhash, hread]
  simp only [Bool.or_self, Bool.false_eq_true, if_false, Option.bind_eq_bind, Option.bind_some,
    hempty, hnext, Bool.not_false, if_true]
  rfl

namespace PlainRest

theorem head?_ne_comment (h : PlainRest (word ++ rest)) (hne : word ≠ []) :
    word.head? ≠ some '#' := by
  obtain ⟨c, word, rfl⟩ := List.exists_cons_of_ne_nil hne
  rintro ⟨rfl⟩
  exact (h.begins '#' rfl).2 rfl

/-- Behind the last word the line ends. -/
theorem plain?_last (h : PlainRest word) (hne : word ≠ []) (hword : ∀ c ∈ word, isGap c = false)
    (hrest : ∀ c ∈ rest.head?, isGap c = false) (hp : 0 < p.column) (fuel : Nat)
    (read held : List Char) (endsLine : Bool) :
    plain? false 1 (fuel + 1) read held endsLine (p.place (word ++ (['\n'] ++ rest)))
      = some ⟨read ++ held ++ word, true, (p.after (word ++ ['\n'])).place rest⟩ := by
  have hcomment : word.head? ≠ some '#' := head?_ne_comment (by rwa [List.append_nil]) hne
  have hbreak : ∀ c ∈ ['\n'], isGap c = true := List.forall_mem_singleton.mpr (by decide)
  have hmargin : (p.after (word ++ ['\n'])).column = 0 := column_after_concat (by decide)
  rw [plain?_round hp hne hword hcomment h.getLast?_ne_colon (List.cons_ne_nil _ _) hbreak
    (by decide) hrest, if_pos]
  · rfl
  · -- what follows stands at the margin
    cases rest with
    | nil => rfl
    | cons c rest =>
        rw [place_cons, List.head?_cons, Option.all_some, hmargin]
        rfl

theorem column_le_after_word (hword : ∀ c ∈ word, isGap c = false) (hgap : ∀ c ∈ gap, c = ' ') :
    p.column ≤ (p.after (word ++ gap)).column := by
  have hbreaks : ∀ c ∈ word ++ gap, isBreak c = false := by
    refine List.forall_mem_append.mpr ⟨fun c hc => isBreak_of_isGap (hword c hc), fun c hc => ?_⟩
    rw [hgap c hc]
    decide
  rw [column_after hbreaks]
  exact Nat.le_add_right _ _

/-- Between two words of the line stand spaces. -/
theorem plain?_more {more : List Char} (h : PlainRest (word ++ (gap ++ more))) (hne : word ≠ [])
    (hword : ∀ c ∈ word, isGap c = false) (hgap : ∀ c ∈ gap, c = ' ') (hgap' : gap ≠ [])
    (hmore : PlainRest more) (hmore' : more ≠ []) (hp : 0 < p.column) (fuel : Nat)
    (read held : List Char) (endsLine : Bool) :
    plain? false 1 (fuel + 1) read held endsLine (p.place (word ++ (gap ++ (more ++ rest))))
      = plain? false 1 fuel (read ++ held ++ word) gap (gap.any isBreak)
          ((p.after (word ++ gap)).place (more ++ rest)) := by
  have hblank : ∀ c ∈ gap, isGap c = true := fun c hc => by
    rw [hgap c hc]
    decide
  have htab : '\t' ∉ gap := fun htab => absurd (hgap _ htab) (by decide)
  have hcolon : word.getLast? ≠ some ':' := by
    intro hcolon
    obtain ⟨front, rfl⟩ := List.getLast?_eq_some_iff.mp hcolon
    obtain ⟨x, gap, rfl⟩ := List.exists_cons_of_ne_nil hgap'
    obtain rfl := hgap x List.mem_cons_self
    have hneighbours := h.neighbours
    rw [List.append_assoc] at hneighbours
    exact absurd (neighbours_of_append front _ hneighbours) (by decide)
  have hnext : ∀ c ∈ (more ++ rest).head?, isGap c = false := by
    obtain ⟨c, more, rfl⟩ := List.exists_cons_of_ne_nil hmore'
    rintro _ ⟨rfl⟩
    rw [Bool.eq_false_iff, Ne, hmore.isGap_iff List.mem_cons_self]
    exact (hmore.begins _ rfl).1
  rw [plain?_round hp hne hword (h.head?_ne_comment hne) hcolon hgap' hblank htab hnext, if_neg,
    fold_of_spaces hgap]
  -- the next word stands on the same line, not at the margin
  have hcolumn : p.column ≤ (p.after (word ++ gap)).column := column_le_after_word hword hgap
  obtain ⟨c, more, rfl⟩ := List.exists_cons_of_ne_nil hmore'
  rw [List.cons_append, place_cons, List.head?_cons, Option.all_some, decide_eq_true_iff]
  intro hmargin
  have hless : ((p.after (word ++ gap)).column : Int) < 1 := hmargin
  omega

/-- **A plain text is read up to the end of its line.** -/
theorem plain?_place (h : PlainRest cs) (hcs : cs ≠ []) (hrest : ∀ c ∈ rest.head?, isGap c = false)
    {fuel : Nat} (hfuel : cs.length < fuel) (hp : 0 < p.column) (read held : List Char)
    (endsLine : Bool) :
    plain? false 1 fuel read held endsLine (p.place (cs ++ (['\n'] ++ rest)))
      = some ⟨read ++ held ++ cs, true, (p.after (cs ++ ['\n'])).place rest⟩ := by
  induction hlength : cs.length using Nat.strongRecOn
    generalizing cs p fuel read held endsLine with
  | ind n ih =>
      subst hlength
      obtain ⟨fuel, rfl⟩ := Nat.exists_eq_succ_of_ne_zero (Nat.ne_zero_of_lt hfuel)
      rcases h.word_or_more with hword | ⟨word, gap, more, rfl, hword, hne, hgap, hgap', hmore',
        hmore⟩
      · exact h.plain?_last hcs hword hrest hp fuel read held endsLine
      · have hcolumn : 0 < (p.after (word ++ gap)).column :=
          Nat.lt_of_lt_of_le hp (column_le_after_word hword hgap)
        have hpos := List.length_pos_iff.mpr hne
        simp only [List.length_append] at hfuel
        have hless : more.length < fuel := by omega
        have hshorter : more.length < (word ++ (gap ++ more)).length := by
          simp only [List.length_append]
          omega
        rw [List.append_assoc, List.append_assoc,
          h.plain?_more hne hword hgap hgap' hmore hmore' hp,
          ih more.length hshorter hmore hmore' hless hcolumn (read ++ held ++ word) gap
            (gap.any isBreak) rfl]
        simp [after_append]

end PlainRest

end Plain

end HostsBlock.Yaml
