import HostsBlock.Proofs.YamlPlain
import Mathlib.Algebra.Group.Nat.Defs

/-!
# Quoted texts in YAML

Between quotes a text is read character by character, and what stands for what depends on the
quotes: doubled quotes, escapes, and gaps in which line ends are folded. `Between` has one case for
each of these, and a text that is put together from them is read up to the second quote
(`Between.quoted?_eq`). It is left to show for both kinds of quotes that what is written between
them is put together in this way (`between_escaped`, `between_insideSingle`).

Spaces come in runs here, since a run is read at once: both proofs are inductions over characters
and runs (`run_induction`).
-/

namespace HostsBlock.Yaml

open Spot

/-! ## Texts between quotes -/

section Quoted

variable {p : Spot} {quote c : Char} {cs gap rest read : List Char} {fuel : Nat}

theorem quoted?_char (hgap : isGap c = false) (hquote : c ≠ quote)
    (hescape : quote = '"' → c ≠ '\\') :
    quoted? quote (fuel + 1) read (p.place (c :: cs))
      = quoted? quote fuel (c :: read) ((p.next c).place cs) := by
  have hother : (quote == '"' && c == '\\') = false := by
    by_cases hdouble : quote = '"'
    · rw [beq_false_of_ne (hescape hdouble), Bool.and_false]
    · rw [beq_false_of_ne hdouble, Bool.false_and]
  rw [place_cons, quoted?]
  simp only [hgap, beq_false_of_ne hquote, hother, Bool.false_eq_true, if_false]

/-- A gap is read at once. -/
theorem quoted?_gap (hne : gap ≠ []) (hgap : ∀ c ∈ gap, isGap c = true)
    (hrest : ∀ c ∈ rest.head?, isGap c = false) (hcolumn : 0 < (p.after gap).column) :
    quoted? quote (fuel + 1) read (p.place (gap ++ rest))
      = quoted? quote fuel ((fold gap).reverse ++ read) ((p.after gap).place rest) := by
  have hbehind : behindGap? (p.place (gap ++ rest)) = some (gap, (p.after gap).place rest) := by
    unfold behindGap?
    rw [spanOf_place hgap hrest]
    simp only [atDocumentEdge_of_column hcolumn, Bool.false_eq_true, if_false]
  obtain ⟨c, gap, rfl⟩ := List.exists_cons_of_ne_nil hne
  rw [List.cons_append, place_cons] at hbehind ⊢
  rw [quoted?, if_pos (hgap c (by simp)), hbehind]
  rfl

theorem quoted?_end (hquote : isGap quote = false) (hrest : quote = '\'' → rest.head? ≠ some '\'') :
    quoted? quote (fuel + 1) read (p.place (quote :: rest))
      = some (read.reverse, (p.next quote).place rest) := by
  -- a second quote behind a single one would make the two stand for a quote
  have hend : (quote == '\'' && startsWith '\'' ((p.next quote).place rest)) = false := by
    by_cases hsingle : quote = '\''
    · have hother := hrest hsingle
      rw [startsWith_place]
      cases rest with
      | nil => exact Bool.and_false _
      | cons c rest =>
          have hc : (c == '\'') = false := beq_false_of_ne fun heq => hother (congrArg some heq)
          rw [List.head?_cons, Option.any_some, hc, Bool.and_false]
    · rw [beq_false_of_ne hsingle, Bool.false_and]
  rw [place_cons, quoted?]
  simp only [hquote, hend, beq_self_eq_true, Bool.false_eq_true, if_false, if_true]

theorem quoted?_doubled :
    quoted? '\'' (fuel + 1) read (p.place ('\'' :: '\'' :: cs))
      = quoted? '\'' fuel ('\'' :: read) ((p.after ['\'', '\'']).place cs) := by
  rw [place_cons, place_cons, quoted?]
  rfl

/-! ### Between double quotes -/

/-- A digit of a number in base sixteen, as it is written in YAML. -/
def upperDigit (k : Nat) : Char := (Nat.digitChar k).toUpper

theorem digitValue?_upperDigit {k : Nat} (hk : k < 16) :
    Text.digitValue? (upperDigit k) = some k := by
  revert k
  decide

theorem value_concat (base : Nat) (digits : List Char) (d : Char) :
    Text.value base (digits ++ [d])
      = base * Text.value base digits + (Text.digitValue? d).getD 0 := by
  unfold Text.value
  rw [List.foldl_append]
  rfl

theorem value_zeros (base n : Nat) (digits : List Char) :
    Text.value base (List.replicate n '0' ++ digits) = Text.value base digits := by
  induction n with
  | zero => rfl
  | succ n ih =>
      rw [List.replicate_succ, List.cons_append, ← ih]
      unfold Text.value
      rw [List.foldl_cons, Nat.mul_zero]
      rfl

/-- The digits of a number in base sixteen stand for it. -/
theorem toDigits_upper (n : Nat) :
    Text.value 16 ((Nat.toDigits 16 n).map Char.toUpper) = n
      ∧ ∀ c ∈ (Nat.toDigits 16 n).map Char.toUpper, ∃ k < 16, c = upperDigit k := by
  induction n using Nat.strongRecOn with
  | ind n ih =>
      by_cases hone : n < 16
      · rw [Nat.toDigits_of_lt_base hone]
        refine ⟨?_, fun c hc => ⟨n, hone, List.mem_singleton.mp hc⟩⟩
        show 16 * 0 + (Text.digitValue? (upperDigit n)).getD 0 = n
        rw [digitValue?_upperDigit hone]
        simp
      · obtain ⟨hvalue, hdigits⟩ := ih (n / 16) (by omega)
        have hlast : n % 16 < 16 := Nat.mod_lt _ (by decide)
        rw [Nat.toDigits_of_base_le (by decide) (by omega), List.map_append, List.map_singleton]
        refine ⟨?_, fun c hc => ?_⟩
        · have hlastDigit : Text.digitValue? (n % 16).digitChar.toUpper = some (n % 16) :=
            digitValue?_upperDigit hlast
          rw [value_concat, hvalue, hlastDigit, Option.getD_some]
          omega
        · rcases List.mem_append.mp hc with hc | hc
          · exact hdigits c hc
          · exact ⟨n % 16, hlast, List.mem_singleton.mp hc⟩

/-- The digits of an escape. -/
def escapeDigits (width : Nat) (c : Char) : List Char :=
  (Text.hexDigits width c.toNat).map Char.toUpper

theorem escapeDigits_eq (width : Nat) (c : Char) :
    escapeDigits width c = List.replicate (width - (Nat.toDigits 16 c.toNat).length) '0'
      ++ (Nat.toDigits 16 c.toNat).map Char.toUpper := by
  unfold escapeDigits Text.hexDigits
  rw [List.map_append, List.map_replicate]
  rfl

theorem mem_escapeDigits {width : Nat} {x : Char} (hx : x ∈ escapeDigits width c) :
    ∃ k < 16, x = upperDigit k := by
  rw [escapeDigits_eq] at hx
  rcases List.mem_append.mp hx with hx | hx
  · exact ⟨0, by decide, List.eq_of_mem_replicate hx⟩
  · exact (toDigits_upper c.toNat).2 x hx

theorem length_escapeDigits {width : Nat} (hwidth : 0 < width) (hc : c.toNat < 16 ^ width) :
    (escapeDigits width c).length = width := by
  have hle := (Nat.length_toDigits_le_iff (by decide : 1 < 16) hwidth).mpr hc
  rw [escapeDigits_eq, List.length_append, List.length_replicate, List.length_map]
  omega

/-- **The digits of an escape stand for the character.** -/
theorem number?_escapeDigits {width : Nat} (hwidth : 0 < width) (hc : c.toNat < 16 ^ width) :
    Text.number? 16 (escapeDigits width c) = some c.toNat := by
  have hne : escapeDigits width c ≠ [] := by
    intro hnil
    have hlength := length_escapeDigits hwidth hc
    rw [hnil] at hlength
    exact absurd hlength (Nat.ne_of_lt hwidth)
  have hdigits : (escapeDigits width c).all (Text.isDigitOf 16) = true := by
    refine List.all_eq_true.mpr fun x hx => ?_
    obtain ⟨k, hk, rfl⟩ := mem_escapeDigits hx
    unfold Text.isDigitOf
    rw [digitValue?_upperDigit hk, Option.any_some, decide_eq_true_iff]
    exact hk
  have hvalue : Text.value 16 (escapeDigits width c) = c.toNat := by
    rw [escapeDigits_eq, value_zeros, (toDigits_upper c.toNat).1]
  unfold Text.number?
  rw [hvalue, hdigits, if_pos]
  simpa using hne

/-- Letters behind a backslash that stand for a character. -/
structure Escapes (letters : List Char) (c : Char) : Prop where
  ne_nil : letters ≠ []
  printable : ∀ x ∈ letters, isPrintable x = true ∧ endsLine x = false
  read (p : Spot) (rest : List Char) :
    escaped? (p.place (letters ++ rest)) = some (c, (p.after letters).place rest)

theorem Escapes.of_letter {x : Char} (hx : isPrintable x = true ∧ endsLine x = false)
    (hwidth : escapeWidth? x = none) (hread : escapeChar? x = some c) : Escapes [x] c where
  ne_nil := List.cons_ne_nil _ _
  printable := List.forall_mem_singleton.mpr hx
  read p rest := by
    rw [List.singleton_append, place_cons, escaped?, hwidth, hread]
    rfl

theorem Escapes.of_digits {x : Char} {width : Nat} (hx : isPrintable x = true ∧ endsLine x = false)
    (hwidth : escapeWidth? x = some width) (hpos : 0 < width) (hc : c.toNat < 16 ^ width) :
    Escapes (x :: escapeDigits width c) c where
  ne_nil := List.cons_ne_nil _ _
  printable := by
    have hupper : ∀ k < 16,
        isPrintable (upperDigit k) = true ∧ endsLine (upperDigit k) = false := by decide
    refine List.forall_mem_cons.mpr ⟨hx, fun y hy => ?_⟩
    obtain ⟨k, hk, rfl⟩ := mem_escapeDigits hy
    exact hupper k hk
  read p rest := by
    have hlength := length_escapeDigits hpos hc
    have htake : chars (((p.next x).place (escapeDigits width c ++ rest)).take width)
        = escapeDigits width c := by
      rw [place_append, List.take_left' (by rw [length_place, hlength]), chars_place]
    have hdrop : ((p.next x).place (escapeDigits width c ++ rest)).drop width
        = ((p.next x).after (escapeDigits width c)).place rest := by
      rw [place_append, List.drop_left' (by rw [length_place, hlength])]
    have hvalid : ((0xD800 ≤ c.toNat && c.toNat ≤ 0xDFFF) || 0x10FFFF < c.toNat) = false := by
      have hscalar : c.toNat < 0xD800 ∨ 0xDFFF < c.toNat ∧ c.toNat < 0x110000 := c.valid
      simp only [Bool.or_eq_false_iff, Bool.and_eq_false_iff, decide_eq_false_iff_not]
      omega
    rw [List.cons_append, place_cons, escaped?, hwidth]
    simp only [htake, hdrop, hlength, number?_escapeDigits hpos hc, hvalid, Nat.lt_irrefl,
      Bool.false_eq_true, if_false, Option.bind_eq_bind, Option.bind_some, Char.ofNat_toNat]
    rfl

theorem escape_cases (c : Char) :
    (escape c = [c] ∧ c ≠ '"' ∧ c ≠ '\\' ∧ isPrintable c = true ∧ endsLine c = false)
      ∨ ∃ letters, escape c = '\\' :: letters ∧ Escapes letters c := by
  unfold escape
  split
  case h_15 _ _ _ _ hline _ _ hreturn _ hquote hbackslash hnext hlines hparagraphs =>
    dsimp only
    split_ifs with hprintable hbyte hunit
    · refine Or.inl ⟨rfl, hquote, hbackslash, hprintable, ?_⟩
      unfold endsLine
      simp only [Bool.or_eq_false_iff, beq_eq_false_iff_ne]
      exact ⟨⟨⟨⟨hline, hreturn⟩, hnext⟩, hlines⟩, hparagraphs⟩
    · exact Or.inr ⟨_, rfl, .of_digits (by decide) (by decide) (by decide) (by omega)⟩
    · exact Or.inr ⟨_, rfl, .of_digits (by decide) (by decide) (by decide) (by omega)⟩
    · have hscalar : c.toNat < 0xD800 ∨ 0xDFFF < c.toNat ∧ c.toNat < 0x110000 := c.valid
      exact Or.inr ⟨_, rfl, .of_digits (by decide) (by decide) (by decide) (by omega)⟩
  -- all other characters have a letter of their own
  all_goals exact Or.inr ⟨_, rfl, .of_letter (by decide) (by decide) (by decide)⟩

theorem Escapes.isBreak_eq_false {letters : List Char} {x : Char} (h : Escapes letters c)
    (hx : x ∈ letters) : isBreak x = false := by
  rw [isBreak_eq_endsLine (h.printable x hx).1]
  exact (h.printable x hx).2

theorem quoted?_escape {letters : List Char} (h : Escapes letters c) :
    quoted? '"' (fuel + 1) read (p.place ('\\' :: (letters ++ rest)))
      = quoted? '"' fuel (c :: read) ((p.after ('\\' :: letters)).place rest) := by
  have hnext : nextIs isBreak ((p.next '\\').place (letters ++ rest)) = false := by
    obtain ⟨x, letters, rfl⟩ := List.exists_cons_of_ne_nil h.ne_nil
    rw [nextIs_place]
    exact h.isBreak_eq_false (by simp)
  have hgap : isGap '\\' = false := by decide
  have hquote : ('\\' == '"') = false := by decide
  have hread := h.read (p.next '\\') rest
  rw [place_cons, quoted?]
  simp only [hgap, hquote, hnext, hread, beq_self_eq_true, Bool.and_self, Bool.false_eq_true,
    if_false, if_true]
  rfl

/-! ### What may stand between quotes -/

/-- What is read and what is written between two quotes. A gap ends with a space, for a line that
starts at the margin might be the edge of a document. -/
inductive Between (quote : Char) : (content written : List Char) → Prop where
  | nil : Between quote [] []
  | char {content written : List Char} {c : Char} (gap : isGap c = false) (other : c ≠ quote)
    (plain : quote = '"' → c ≠ '\\') (behind : Between quote content written) :
    Between quote (c :: content) (c :: written)
  | doubled {content written : List Char} (single : quote = '\'')
    (behind : Between quote content written) :
    Between quote ('\'' :: content) ('\'' :: '\'' :: written)
  | escape {content written letters : List Char} {c : Char} (double : quote = '"')
    (escapes : Escapes letters c) (behind : Between quote content written) :
    Between quote (c :: content) ('\\' :: (letters ++ written))
  | gap {content written gap : List Char} (blank : ∀ c ∈ gap, isGap c = true)
    (last : gap.getLast? = some ' ') (next : ∀ c ∈ written.head?, isGap c = false)
    (behind : Between quote content written) :
    Between quote (fold gap ++ content) (gap ++ written)

/-- **A text between quotes is read up to the second quote.** -/
theorem Between.quoted?_eq {written : List Char} (h : Between quote cs written)
    (hgap : isGap quote = false) (hrest : quote = '\'' → rest.head? ≠ some '\'')
    (hfuel : written.length < fuel) (hp : 0 < p.column) :
    quoted? quote fuel read (p.place (written ++ quote :: rest))
      = some (read.reverse ++ cs, (p.after (written ++ [quote])).place rest) := by
  induction h generalizing p read fuel with
  | nil =>
      obtain ⟨fuel, rfl⟩ := Nat.exists_eq_succ_of_ne_zero (Nat.ne_zero_of_lt hfuel)
      rw [List.append_nil]
      exact quoted?_end hgap hrest
  | @char content written c hc hother hplain _ ih =>
      obtain ⟨fuel, rfl⟩ := Nat.exists_eq_succ_of_ne_zero (Nat.ne_zero_of_lt hfuel)
      have hnext : 0 < (p.next c).column := by
        rw [column_next (isBreak_of_isGap hc)]
        exact Nat.succ_pos _
      rw [List.cons_append, quoted?_char hc hother hplain,
        ih (Nat.lt_of_succ_lt_succ hfuel) hnext]
      simp [after_cons]
  | @doubled content written hsingle _ ih =>
      obtain ⟨fuel, rfl⟩ := Nat.exists_eq_succ_of_ne_zero (Nat.ne_zero_of_lt hfuel)
      have hcolumn : 0 < (p.after ['\'', '\'']).column := by
        rw [after_cons, after_cons, after_nil, column_next (by decide)]
        exact Nat.succ_pos _
      have hless : written.length < fuel := by
        simp only [List.length_cons] at hfuel
        omega
      subst hsingle
      rw [List.cons_append, List.cons_append, quoted?_doubled, ih hless hcolumn]
      simp [after_cons]
  | @escape content written letters c hdouble hletters _ ih =>
      obtain ⟨fuel, rfl⟩ := Nat.exists_eq_succ_of_ne_zero (Nat.ne_zero_of_lt hfuel)
      have hbreaks : ∀ x ∈ '\\' :: letters, isBreak x = false :=
        List.forall_mem_cons.mpr ⟨by decide, fun x hx => hletters.isBreak_eq_false hx⟩
      have hcolumn : 0 < (p.after ('\\' :: letters)).column := by
        rw [column_after hbreaks]
        exact Nat.succ_pos _
      have hless : written.length < fuel := by
        simp only [List.length_cons, List.length_append] at hfuel
        omega
      subst hdouble
      rw [List.cons_append, List.append_assoc, quoted?_escape hletters, ih hless hcolumn]
      simp [after_cons, after_append]
  | @gap content written gap hblank hlast hnext _ ih =>
      obtain ⟨fuel, rfl⟩ := Nat.exists_eq_succ_of_ne_zero (Nat.ne_zero_of_lt hfuel)
      obtain ⟨front, rfl⟩ := List.getLast?_eq_some_iff.mp hlast
      have hcolumn : 0 < (p.after (front ++ [' '])).column := by
        rw [after_append]
        exact Nat.succ_pos _
      have hbehind : ∀ c ∈ (written ++ quote :: rest).head?, isGap c = false := by
        cases written with
        | nil =>
            rintro _ ⟨rfl⟩
            exact hgap
        | cons x written => exact hnext
      have hless : written.length < fuel := by
        simp only [List.length_append, List.length_singleton] at hfuel
        omega
      rw [List.append_assoc, quoted?_gap (by simp) hblank hbehind hcolumn, ih hless hcolumn]
      simp [after_append, after_cons]

/-- Spaces stand for themselves between quotes. -/
theorem Between.spaces {written : List Char} (hgap : ∀ c ∈ gap, c = ' ') (hne : gap ≠ [])
    (hnext : ∀ c ∈ written.head?, isGap c = false) (h : Between quote cs written) :
    Between quote (gap ++ cs) (gap ++ written) := by
  have hblank : ∀ c ∈ gap, isGap c = true := by
    intro c hc
    rw [hgap c hc]
    decide
  have hlast : gap.getLast? = some ' ' := by
    rw [List.getLast?_eq_some_getLast hne, hgap _ (List.getLast_mem hne)]
  have hself := Between.gap hblank hlast hnext h
  rwa [fold_of_spaces hgap] at hself

/-! ### The two ways between quotes -/

/-- What is written between double quotes. -/
theorem between_escaped (cs : List Char) : Between '"' cs (cs.flatMap escape) := by
  induction cs using run_induction (· == ' ') with
  | nil => exact .nil
  | char c cs hc ih =>
      rw [List.flatMap_cons]
      rcases escape_cases c with ⟨hself, hquote, hbackslash, hprintable, hline⟩
        | ⟨letters, hletters, hescapes⟩
      · rw [hself]
        refine .char ?_ hquote (fun _ => hbackslash) ih
        rw [isGap_eq hprintable, hline, hc]
        rfl
      · rw [hletters]
        exact .escape rfl hescapes ih
  | run xs cs hne hxs hcs ih =>
      have hspaces : ∀ c ∈ xs, c = ' ' := fun c hc => beq_iff_eq.mp (hxs c hc)
      have hself : xs.flatMap escape = xs := by
        rw [List.eq_replicate_of_mem hspaces, List.flatMap_replicate]
        simp [escape, isPrintable]
      have hhead : ∀ c ∈ (cs.flatMap escape).head?, isGap c = false := by
        cases cs with
        | nil => exact nofun
        | cons x cs =>
            rw [List.flatMap_cons]
            rcases escape_cases x with ⟨hself, -, -, hprintable, hline⟩ | ⟨letters, hletters, -⟩
            · rw [hself]
              rintro _ ⟨rfl⟩
              rw [isGap_eq hprintable, hline, hcs _ rfl]
              rfl
            · rw [hletters]
              rintro _ ⟨rfl⟩
              decide
      rw [List.flatMap_append, hself]
      exact .spaces hspaces hne hhead ih

/-- What is written between single quotes. -/
def insideSingle (cs : List Char) : List Char :=
  indentedFrom (fun c => if c == '\'' then ['\'', '\''] else [c]) false cs
    ++ if cs.getLast?.any endsLine then indentation else []

theorem insideSingle_cons {c : Char} (hc : endsLine c = false) (cs : List Char) :
    insideSingle (c :: cs) = (if c == '\'' then ['\'', '\''] else [c]) ++ insideSingle cs := by
  unfold insideSingle
  rw [indentedFrom, if_neg (by simp [hc])]
  cases cs with
  | nil => simp [indentedFrom, hc]
  | cons x cs => simp

theorem insideSingle_spaces {xs : List Char} (hxs : ∀ c ∈ xs, c = ' ') (cs : List Char) :
    insideSingle (xs ++ cs) = xs ++ insideSingle cs := by
  induction xs with
  | nil => rfl
  | cons x xs ih =>
      obtain ⟨rfl, hspaces⟩ := List.forall_mem_cons.mp hxs
      rw [List.cons_append, insideSingle_cons (by decide), ih hspaces]
      rfl

/-- Line ends are followed by the indentation of the next line, or of the second quote. -/
theorem insideSingle_breaks {xs : List Char} (hxs : ∀ c ∈ xs, endsLine c = true) (hne : xs ≠ [])
    (hcs : ∀ c ∈ cs.head?, endsLine c = false) :
    insideSingle (xs ++ cs) = xs ++ indentation ++ insideSingle cs := by
  unfold insideSingle
  rw [indentedFrom_append_of_breaks hxs hne]
  cases cs with
  | nil =>
      have hlast : xs.getLast?.any endsLine = true := by
        rw [List.getLast?_eq_some_getLast hne, Option.any_some]
        exact hxs _ (List.getLast_mem hne)
      simp [indentedFrom, hlast]
  | cons c cs =>
      have hlast : (xs ++ c :: cs).getLast? = (c :: cs).getLast? := by
        rw [List.getLast?_append, List.getLast?_eq_some_getLast (by simp), Option.some_or]
      rw [indentedFrom_true hcs (by simp), hlast]
      simp

theorem spaces_or_breaks (hcs : ∀ c ∈ cs, (c == ' ' || endsLine c) = true)
    (hspace : hasSpaceBreak cs = false) (hbreak : hasBreakSpace cs = false) :
    (∀ c ∈ cs, c = ' ') ∨ ∀ c ∈ cs, endsLine c = true := by
  induction cs with
  | nil => exact Or.inl nofun
  | cons a cs ih =>
      obtain ⟨ha, hcs⟩ := List.forall_mem_cons.mp hcs
      cases cs with
      | nil => simpa using ha
      | cons b cs =>
          rcases ih hcs (anyNeighbours_tail hspace) (anyNeighbours_tail hbreak) with hall | hall
          · have ha' : a = ' ' := by
              have hline : endsLine a = false := by
                have hmeet := neighbours_of_append [] cs hbreak
                rwa [hall b (by simp), beq_self_eq_true, Bool.and_true] at hmeet
              rwa [hline, Bool.or_false, beq_iff_eq] at ha
            exact Or.inl (List.forall_mem_cons.mpr ⟨ha', hall⟩)
          · have ha' : endsLine a = true := by
              have hother : (a == ' ') = false := by
                have hmeet := neighbours_of_append [] cs hspace
                rwa [hall b (by simp), Bool.and_true] at hmeet
              rwa [hother, Bool.false_or] at ha
            exact Or.inr (List.forall_mem_cons.mpr ⟨ha', hall⟩)

theorem fold_of_breaks (hcs : ∀ c ∈ cs, isBreak c = true) (hne : cs ≠ []) (hline : '\n' ∉ cs) :
    fold (cs ++ indentation) = cs := by
  have hbreaks : (cs ++ indentation).filter isBreak = cs := by
    rw [List.filter_append, List.filter_eq_self.mpr hcs]
    exact List.append_nil _
  unfold fold
  rw [hbreaks]
  split
  · exact absurd rfl hne
  · simp at hline
  · simp at hline
  · rfl

theorem between_insideSingle (hprintable : ∀ c ∈ cs, isPrintable c = true) (hline : '\n' ∉ cs)
    (hspace : hasSpaceBreak cs = false) (hbreak : hasBreakSpace cs = false) :
    Between '\'' cs (insideSingle cs) := by
  induction cs using run_induction (fun c => c == ' ' || endsLine c) with
  | nil => exact .nil
  | char c cs hc ih =>
      obtain ⟨hprintable, hprintable'⟩ := List.forall_mem_cons.mp hprintable
      have hrest := ih hprintable' (fun h => hline (List.mem_cons_of_mem _ h))
        (anyNeighbours_tail hspace) (anyNeighbours_tail hbreak)
      obtain ⟨hc, hc'⟩ := Bool.or_eq_false_iff.mp hc
      rw [insideSingle_cons hc']
      by_cases hquote : c = '\''
      · subst hquote
        exact .doubled rfl hrest
      · rw [if_neg (by simpa using hquote)]
        refine .char ?_ hquote (fun h => absurd h (by decide)) hrest
        rw [isGap_eq hprintable, hc, hc']
        rfl
  | run xs cs hne hxs hcs ih =>
      obtain ⟨hprintable, hprintable'⟩ := List.forall_mem_append.mp hprintable
      have hrest := ih hprintable' (fun h => hline (List.mem_append_right _ h))
        (anyNeighbours_append_right hspace) (anyNeighbours_append_right hbreak)
      have hhead : ∀ c ∈ (insideSingle cs).head?, isGap c = false := by
        cases cs with
        | nil => exact nofun
        | cons x cs =>
            have hx := hcs x rfl
            rw [insideSingle_cons (Bool.or_eq_false_iff.mp hx).2]
            split
            · rintro _ ⟨rfl⟩
              decide
            · rintro _ ⟨rfl⟩
              rw [isGap_eq (hprintable' x (by simp))]
              exact hx
      rcases spaces_or_breaks hxs (anyNeighbours_append_left hspace)
        (anyNeighbours_append_left hbreak) with hspaces | hbreaks
      · rw [insideSingle_spaces hspaces]
        exact .spaces hspaces hne hhead hrest
      · -- folding takes the indentation behind the line ends away again
        have hbreaks' := isBreak_of_endsLine hprintable hbreaks
        have hblank : ∀ c ∈ xs ++ indentation, isGap c = true := by
          intro c hc
          rcases List.mem_append.mp hc with hc | hc
          · unfold isGap
            rw [hbreaks' c hc, Bool.or_true]
          · rw [mem_indentation hc]
            decide
        have hlast : (xs ++ indentation).getLast? = some ' ' := by simp [indentation]
        have hgap := Between.gap hblank hlast hhead hrest
        rw [fold_of_breaks hbreaks' hne fun h => hline (List.mem_append_left _ h)] at hgap
        rwa [insideSingle_breaks hbreaks hne fun c hc => (Bool.or_eq_false_iff.mp (hcs c hc)).2]

end Quoted

end HostsBlock.Yaml
