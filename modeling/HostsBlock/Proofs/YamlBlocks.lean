import HostsBlock.Proofs.YamlPlaces
import HostsBlock.Yaml.BlockText
import Mathlib.Data.List.Basic

/-!
# Block texts in YAML

A block is an indicator line and, below it, the lines of the text, each two columns in. Inside the
block the column alone says where the text ends. The line ends around the text are the hard part:
those in front are empty lines without an indentation, and those behind are dropped or kept as the
indicator line says.

So a text is taken apart first. If it is not all line ends, it is a `Solid` text with line ends in
front and behind (`exists_solid`). What is written for each of the three parts is said next
(`closed_block`), then what is read of it, along the structure of the solid part
(`Solid.lines?_place`). `read?_block` joins the two.
-/

namespace HostsBlock.Yaml

open Spot

namespace BlockText

variable {p : Spot} {cs xs rest lead middle breaks : List Char} {widest : Nat}

/-! ## The parts of a text -/

/-- A text that neither begins nor ends with a line end: lines that are not empty, with line ends
between them. -/
inductive Solid : List Char → Prop where
  | line {content : List Char} (ne_nil : content ≠ [])
    (inner : ∀ c ∈ content, endsLine c = false) : Solid content
  | more {content breaks below : List Char} (ne_nil : content ≠ [])
    (inner : ∀ c ∈ content, endsLine c = false) (breaks_ne_nil : breaks ≠ [])
    (all : ∀ c ∈ breaks, endsLine c = true) (behind : Solid below) :
    Solid (content ++ breaks ++ below)

namespace Solid

theorem cons {c : Char} (hc : endsLine c = false) (h : Solid cs) : Solid (c :: cs) := by
  cases h with
  | line _ inner => exact .line (List.cons_ne_nil c _) (List.forall_mem_cons.mpr ⟨hc, inner⟩)
  | more _ inner hne hbreaks behind =>
      exact .more (List.cons_ne_nil c _) (List.forall_mem_cons.mpr ⟨hc, inner⟩) hne hbreaks behind

theorem ne_nil (h : Solid cs) : cs ≠ [] := by
  cases h with
  | line hne _ => exact hne
  | more hne _ _ _ _ => simp [hne]

theorem begins (h : Solid cs) : ∀ c ∈ cs.head?, endsLine c = false := by
  cases h with
  | line hne inner =>
      obtain ⟨x, content, rfl⟩ := List.exists_cons_of_ne_nil hne
      rintro _ ⟨rfl⟩
      exact inner x List.mem_cons_self
  | more hne inner _ _ _ =>
      obtain ⟨x, content, rfl⟩ := List.exists_cons_of_ne_nil hne
      rintro _ ⟨rfl⟩
      exact inner x List.mem_cons_self

theorem ends (h : Solid cs) : ∀ c ∈ cs.getLast?, endsLine c = false := by
  induction h with
  | line _ inner => exact fun c hc => inner c (List.mem_of_getLast? hc)
  | more _ _ _ _ behind ih =>
      rw [List.getLast?_append_of_ne_nil _ behind.ne_nil]
      exact ih

end Solid

/-- **A text is nothing but line ends, or it is solid but for the line ends around it.** -/
theorem exists_solid (cs : List Char) :
    (∀ c ∈ cs, endsLine c = true)
    ∨ ∃ lead middle breaks, cs = lead ++ middle ++ breaks ∧ (∀ c ∈ lead, endsLine c = true)
      ∧ Solid middle ∧ ∀ c ∈ breaks, endsLine c = true := by
  induction cs with
  | nil => exact Or.inl nofun
  | cons c cs ih =>
      cases hc : endsLine c with
      | true =>
          rcases ih with hall | ⟨lead, middle, breaks, rfl, hlead, hmiddle, hbreaks⟩
          · exact Or.inl (List.forall_mem_cons.mpr ⟨hc, hall⟩)
          · exact Or.inr ⟨c :: lead, middle, breaks, rfl, List.forall_mem_cons.mpr ⟨hc, hlead⟩,
              hmiddle, hbreaks⟩
      | false =>
          have hline : Solid [c] := .line (List.cons_ne_nil c []) (List.forall_mem_singleton.mpr hc)
          rcases ih with hall | ⟨lead, middle, breaks, rfl, hlead, hmiddle, hbreaks⟩
          · exact Or.inr ⟨[], [c], cs, rfl, nofun, hline, hall⟩
          · refine Or.inr ⟨[], c :: (lead ++ middle), breaks, rfl, nofun, ?_, hbreaks⟩
            -- what stood in front of the solid part now stands inside it
            cases lead with
            | nil => exact hmiddle.cons hc
            | cons b lead =>
                exact .more (List.cons_ne_nil c []) (List.forall_mem_singleton.mpr hc)
                  (List.cons_ne_nil b lead) hlead hmiddle

/-- The lines of a text, all but the first indented. -/
def body (cs : List Char) : List Char := indentedFrom (fun c => [c]) false cs

theorem body_of_no_breaks (h : ∀ c ∈ cs, endsLine c = false) : body cs = cs := by
  unfold body
  rw [← List.append_nil cs, indentedFrom_append_of_no_breaks h, List.flatMap_singleton']
  rfl

/-- Between two lines stand the line ends and the indentation of the second one. -/
theorem body_append {content breaks below : List Char} (hinner : ∀ c ∈ content, endsLine c = false)
    (hne : breaks ≠ []) (hbreaks : ∀ c ∈ breaks, endsLine c = true) (hbelow : Solid below) :
    body (content ++ breaks ++ below) = content ++ breaks ++ indentation ++ body below := by
  unfold body
  rw [List.append_assoc, indentedFrom_append_of_no_breaks hinner, List.flatMap_singleton',
    indentedFrom_append_of_breaks hbreaks hne, indentedFrom_true hbelow.begins hbelow.ne_nil]
  simp

namespace Solid

theorem head?_body (h : Solid cs) : (body cs).head? = cs.head? := by
  obtain ⟨c, cs, rfl⟩ := List.exists_cons_of_ne_nil h.ne_nil
  unfold body
  rw [indentedFrom, if_neg (by simp [h.begins c rfl])]
  rfl

theorem body_ne_nil (h : Solid cs) : body cs ≠ [] := by
  intro hnil
  have hhead := h.head?_body
  rw [hnil] at hhead
  exact h.ne_nil (List.head?_eq_none_iff.mp hhead.symm)

theorem getLast?_body (h : Solid cs) : (body cs).getLast? = cs.getLast? := by
  induction h with
  | line _ inner => rw [body_of_no_breaks inner]
  | more _ inner hne hbreaks behind ih =>
      rw [body_append inner hne hbreaks behind, List.getLast?_append_of_ne_nil _ behind.body_ne_nil,
        List.getLast?_append_of_ne_nil _ behind.ne_nil, ih]

theorem length_le_body (h : Solid cs) : cs.length ≤ (body cs).length := by
  induction h with
  | line _ inner => rw [body_of_no_breaks inner]
  | more _ inner hne hbreaks behind ih =>
      rw [body_append inner hne hbreaks behind]
      simp only [List.length_append]
      omega

end Solid

/-! ## Writing a block -/

/-- What to do with line ends behind the last line, by what they are. -/
def chompingFor : (breaks : List Char) → Chomping
  | [] => .strip
  | [_] => .clip
  | _ => .keep

/-- How it is written. -/
def sign : Chomping → List Char
  | .strip => ['-']
  | .clip => []
  | .keep => ['+']

/-- The digit for the indentation, if it is needed. -/
def digit (needed : Bool) : List Char := if needed then ['2'] else []

/-- Whether a text asks for the digit: its first line says nothing about the indentation. -/
def needsDigit (cs : List Char) : Bool := cs.head?.any fun c => c == ' ' || endsLine c

/-- The hints of a text tell how it begins and how it ends. -/
theorem blockHints_append {front : List Char} (hne : front ≠ [])
    (hlast : ∀ c ∈ front.getLast?, endsLine c = false)
    (hbreaks : ∀ c ∈ breaks, endsLine c = true) :
    blockHints (front ++ breaks)
      = digit (needsDigit (front ++ breaks)) ++ sign (chompingFor breaks) := by
  unfold blockHints digit needsDigit
  rcases List.eq_nil_or_concat front with rfl | ⟨front, x, rfl⟩
  · exact absurd rfl hne
  have hx : endsLine x = false := hlast x (by simp)
  rcases List.eq_nil_or_concat breaks with rfl | ⟨breaks, b, rfl⟩
  · simp [hx, chompingFor, sign]
  have hb : endsLine b = true := hbreaks b (by simp)
  rcases List.eq_nil_or_concat breaks with rfl | ⟨breaks, a, rfl⟩
  · simp [hb, hx, chompingFor, sign]
  have ha : endsLine a = true := hbreaks a (by simp)
  cases breaks <;> simp [hb, ha, chompingFor, sign]

theorem needsDigit_of_breaks (hbreaks : ∀ c ∈ cs, endsLine c = true) (hne : cs ≠ []) :
    needsDigit cs = true := by
  obtain ⟨b, cs, rfl⟩ := List.exists_cons_of_ne_nil hne
  simp [needsDigit, hbreaks b (by simp)]

/-- Behind nothing but empty lines, all line ends are kept. -/
theorem blockHints_of_breaks (hbreaks : ∀ c ∈ cs, endsLine c = true) (hne : cs ≠ []) :
    blockHints cs = digit true ++ sign .keep := by
  have hdigit := needsDigit_of_breaks hbreaks hne
  have hlast : cs.reverse.take 2 ≠ [] := by simpa using hne
  have hall : ∀ c ∈ cs.reverse.take 2, endsLine c = true := fun c hc =>
    hbreaks c (List.mem_reverse.mp (List.mem_of_mem_take hc))
  unfold needsDigit at hdigit
  unfold blockHints
  rw [hdigit]
  obtain ⟨b, more, heq⟩ := List.exists_cons_of_ne_nil hlast
  rw [heq] at hall ⊢
  obtain ⟨hb, hmore⟩ := List.forall_mem_cons.mp hall
  simp only [List.head?_cons, Option.any_some, hb, List.tail_cons, List.all_eq_true.mpr hmore,
    digit, sign, Bool.not_true, Bool.false_eq_true, if_false, if_true]

/-- The last line of a block ends, if need be with a line end of its own. -/
def lastBreaks (breaks : List Char) : List Char := if breaks.isEmpty then ['\n'] else breaks

theorem lastBreaks_ne_nil (breaks : List Char) : lastBreaks breaks ≠ [] := by
  cases breaks <;> exact List.cons_ne_nil _ _

theorem mem_lastBreaks {breaks : List Char} {c : Char} (hc : c ∈ lastBreaks breaks) :
    c ∈ breaks ∨ c = '\n' := by
  cases breaks with
  | nil => exact Or.inr (List.mem_singleton.mp hc)
  | cons b breaks => exact Or.inl hc

theorem tail_lastBreaks (breaks : List Char) :
    tail (chompingFor breaks) ((lastBreaks breaks).take 1) ((lastBreaks breaks).drop 1)
      = breaks := by
  rcases breaks with - | ⟨a, - | ⟨b, breaks⟩⟩ <;> rfl

theorem closed_append {breaks : List Char} (hne : cs ≠ [])
    (hcs : ∀ c ∈ cs.getLast?, endsLine c = false) (hbreaks : ∀ c ∈ breaks, endsLine c = true) :
    closed (cs ++ breaks) = cs ++ lastBreaks breaks := by
  rcases List.eq_nil_or_concat breaks with rfl | ⟨more, b, rfl⟩
  · have hlast := List.getLast?_eq_some_getLast hne
    rw [List.append_nil, closed_of_getLast? hlast, hcs _ hlast]
    rfl
  · have hb : endsLine b = true := hbreaks b (by simp)
    have hlast : (cs ++ more.concat b).getLast? = some b := by simp
    rw [closed_of_getLast? hlast, hb]
    simp [lastBreaks]

/-- A text that is nothing but line ends stands below its indicator line as it is. -/
theorem closed_block_of_breaks (hbreaks : ∀ c ∈ cs, endsLine c = true) (hne : cs ≠ []) :
    closed (block cs) = '|' :: (digit true ++ sign .keep ++ '\n' :: cs) := by
  have hblock : block cs = '|' :: (digit true ++ sign .keep ++ '\n' :: cs) := by
    unfold block
    rw [blockHints_of_breaks hbreaks hne, indentedFrom_of_breaks hbreaks]
    rfl
  have hlast : (block cs).getLast? = some (cs.getLast hne) := by
    rw [hblock, ← List.cons_append, List.getLast?_append_of_ne_nil _ (List.cons_ne_nil _ _),
      List.getLast?_cons_of_ne_nil hne, List.getLast?_eq_some_getLast hne]
  rw [closed_of_getLast? hlast, hbreaks _ (List.getLast_mem hne), if_pos rfl, List.append_nil,
    hblock]

/-- The lines of any other text are indented, but for the empty ones. -/
theorem closed_block (hlead : ∀ c ∈ lead, endsLine c = true) (hmiddle : Solid middle)
    (hbreaks : ∀ c ∈ breaks, endsLine c = true) :
    closed (block (lead ++ middle ++ breaks))
      = '|' :: (digit (needsDigit (lead ++ middle ++ breaks)) ++ sign (chompingFor breaks)
          ++ '\n' :: (lead ++ (indentation ++ body middle))) ++ lastBreaks breaks := by
  have hlast : ∀ c ∈ (lead ++ middle).getLast?, endsLine c = false := by
    rw [List.getLast?_append_of_ne_nil _ hmiddle.ne_nil]
    exact hmiddle.ends
  have hbody : indentedFrom (fun c => [c]) true (lead ++ middle ++ breaks)
      = lead ++ (indentation ++ body middle) ++ breaks := by
    have htext := indentedFrom_true (w := fun c => [c]) hmiddle.begins hmiddle.ne_nil
    rw [indentedFrom_append_of_breaks_behind hbreaks]
    rcases eq_or_ne lead [] with rfl | hne
    · rw [List.nil_append, htext]
      rfl
    · rw [indentedFrom_append_of_breaks hlead hne, htext]
      rfl
  have hblock : block (lead ++ middle ++ breaks)
      = '|' :: (digit (needsDigit (lead ++ middle ++ breaks)) ++ sign (chompingFor breaks)
          ++ '\n' :: (lead ++ (indentation ++ body middle))) ++ breaks := by
    unfold block
    rw [hbody, blockHints_append (by simp [hmiddle.ne_nil]) hlast hbreaks]
    simp
  have hend : (lead ++ (indentation ++ body middle)).getLast? = middle.getLast? := by
    rw [← List.append_assoc, List.getLast?_append_of_ne_nil _ hmiddle.body_ne_nil,
      hmiddle.getLast?_body]
  rw [hblock, closed_append (List.cons_ne_nil _ _) ?_ hbreaks]
  intro c hc
  rw [List.getLast?_cons_of_ne_nil (by simp), List.getLast?_append_of_ne_nil _ (by simp),
    List.getLast?_cons_of_ne_nil (by simp [hmiddle.body_ne_nil]), hend] at hc
  exact hmiddle.ends c hc

/-! ## The indicator line -/

theorem header?_place (needed : Bool) (chomping : Chomping) :
    header? (p.place (digit needed ++ sign chomping ++ '\n' :: rest))
      = some (chomping, if needed then some 2 else none,
          (p.after (digit needed ++ sign chomping)).place ('\n' :: rest)) := by
  cases needed <;> cases chomping <;> simp only [digit, sign, if_true, if_false, List.nil_append,
    List.cons_append, Bool.false_eq_true, place_cons] <;> rfl

theorem restOfLine?_place :
    restOfLine? (p.place ('\n' :: rest)) = some ((p.next '\n').place rest) := by
  rw [place_cons]
  rfl

/-! ## Empty lines -/

theorem emptyLines?_breaks {indent : Nat} (hxs : ∀ c ∈ xs, isBreak c = true) :
    emptyLines? indent widest (p.place (xs ++ cs))
      = (emptyLines? indent widest ((p.after xs).place cs)).map fun (w, ends, s) =>
          (w, xs ++ ends, s) := by
  induction xs generalizing p with
  | nil => simp
  | cons x xs ih =>
      obtain ⟨hx, hxs⟩ := List.forall_mem_cons.mp hxs
      have hspace : (x == ' ') = false := by
        rw [beq_eq_false_iff_ne]
        rintro rfl
        exact absurd hx (by decide)
      have htab : (x == '\t') = false := by
        rw [beq_eq_false_iff_ne]
        rintro rfl
        exact absurd hx (by decide)
      rw [List.cons_append, place_cons, emptyLines?]
      simp only [hspace, htab, hx, Bool.false_and, Bool.false_eq_true, if_false, if_true, ih hxs,
        after_cons]
      rw [Option.map_map]
      rfl

theorem emptyLines?_stop {indent : Nat} (hbreak : ∀ c ∈ cs.head?, isBreak c = false)
    (hblank : ∀ c ∈ cs.head?, isBlank c = true → indent ≠ 0 ∧ indent ≤ p.column) :
    emptyLines? indent widest (p.place cs) = some (widest, [], p.place cs) := by
  cases cs with
  | nil => rfl
  | cons c cs =>
      have hinside : ((c == ' ' || c == '\t') && (indent == 0 || decide (p.column < indent)))
          = false := by
        cases hc : isBlank c with
        | false =>
            unfold isBlank at hc
            rw [hc, Bool.false_and]
        | true =>
            obtain ⟨hne, hle⟩ := hblank c rfl hc
            rw [beq_false_of_ne hne, decide_eq_false (Nat.not_lt.mpr hle)]
            exact Bool.and_false _
      rw [Bool.and_or_distrib_right, Bool.or_eq_false_iff] at hinside
      rw [place_cons, emptyLines?]
      simp only [hinside.1, hinside.2, hbreak c rfl, Bool.false_eq_true, if_false]

theorem emptyLines?_margin {indent : Nat} (hcs : ∀ c ∈ cs.head?, isGap c = false) :
    emptyLines? indent widest (p.place cs) = some (widest, [], p.place cs) := by
  refine emptyLines?_stop (fun c hc => isBreak_of_isGap (hcs c hc)) fun c hc hblank => ?_
  rw [isBlank_of_isGap (hcs c hc)] at hblank
  exact absurd hblank nofun

theorem emptyLines?_indentation {indent : Nat} (hindent : indent = 0 ∨ indent = 2)
    (hp : p.column = 0) :
    emptyLines? indent 0 (p.place (indentation ++ cs))
      = emptyLines? indent 2 ((p.after indentation).place cs) := by
  have hnext : (p.next ' ').column = 1 := by rw [column_next (by decide), hp]
  have hinside : (indent == 0 || decide (p.column < indent)) = true
      ∧ (indent == 0 || decide ((p.next ' ').column < indent)) = true := by
    rw [hp, hnext]
    rcases hindent with rfl | rfl <;> decide
  have hwidest : max (max 0 (p.column + 1)) ((p.next ' ').column + 1) = 2 := by
    rw [hp, hnext]
    rfl
  unfold indentation
  rw [List.cons_append, List.cons_append, List.nil_append, place_cons, place_cons, emptyLines?,
    emptyLines?]
  simp only [hinside.1, hinside.2, beq_self_eq_true, Bool.and_self, if_true, hwidest]
  rfl

/-- The empty lines in front of a solid text end behind its indentation. If the indentation is still
open, the first line must not begin with a space. -/
theorem emptyLines?_solid {indent : Nat} (h : Solid cs)
    (hprintable : ∀ c ∈ cs, isPrintable c = true) (hxs : ∀ c ∈ xs, isBreak c = true)
    (hp : (p.after xs).column = 0) (hindent : indent = 0 ∧ cs.head? ≠ some ' ' ∨ indent = 2) :
    emptyLines? indent 0 (p.place (xs ++ (indentation ++ (body cs ++ rest))))
      = some (2, xs, ((p.after xs).after indentation).place (body cs ++ rest)) := by
  have hhead : (body cs ++ rest).head? = cs.head? := by
    rw [List.head?_append_of_ne_nil _ h.body_ne_nil, h.head?_body]
  have hcolumn : ((p.after xs).after indentation).column = 2 := by
    rw [column_after_indentation, hp]
  rw [emptyLines?_breaks hxs, emptyLines?_indentation (hindent.imp_left And.left) hp,
    emptyLines?_stop]
  · simp
  · intro c hc
    rw [hhead] at hc
    rw [isBreak_eq_endsLine (hprintable c (List.mem_of_mem_head? hc))]
    exact h.begins c hc
  · intro c hc hblank
    rw [hhead] at hc
    have htab : (c == '\t') = false :=
      beq_false_of_ne (ne_of_isPrintable (hprintable c (List.mem_of_mem_head? hc)) (by decide))
    have hspace : c = ' ' := by
      unfold isBlank at hblank
      rwa [htab, Bool.or_false, beq_iff_eq] at hblank
    rcases hindent with ⟨-, hother⟩ | rfl
    · exact absurd (hspace ▸ hc) hother
    · exact ⟨by decide, Nat.le_of_eq hcolumn.symm⟩

/-! ## Lines -/

section Line

variable {content ends : List Char} {b : Char} {fuel : Nat}

/-- A line is read up to its end, and the empty lines behind it go with it. -/
theorem lines?_step (hcontent : ∀ c ∈ content, isBreak c = false) (hne : content ≠ [])
    (hends : ∀ c ∈ b :: ends, isBreak c = true) (hp : p.column = 2) {w : Nat} {s : List Placed}
    (hempty : emptyLines? 2 0 ((p.after (content ++ b :: ends)).place cs) = some (w, [], s)) :
    lines? 2 (fuel + 1) (p.place (content ++ b :: ends ++ cs))
      = (lines? 2 fuel s).map fun (below, after) => (⟨content, [b], ends⟩ :: below, after) := by
  obtain ⟨hb, hmore⟩ := List.forall_mem_cons.mp hends
  have hspan : spanOf (fun c => !isBreak c) (p.place (content ++ b :: (ends ++ cs)))
      = (content, (p.after content).place (b :: (ends ++ cs))) := by
    refine spanOf_place (fun c hc => ?_) ?_
    · rw [hcontent c hc]
      rfl
    · rintro _ ⟨rfl⟩
      rw [hb]
      rfl
  have hhead : (p.place (content ++ b :: (ends ++ cs))).head?.any (·.column == 2) = true := by
    obtain ⟨c, content, rfl⟩ := List.exists_cons_of_ne_nil hne
    rw [List.cons_append, place_cons, List.head?_cons, Option.any_some, hp]
    rfl
  have hbehind : emptyLines? 2 0 (((p.after content).next b).place (ends ++ cs))
      = some (w, ends, s) := by
    rw [after_append, after_cons] at hempty
    rw [emptyLines?_breaks hmore, hempty, Option.map_some]
    exact congrArg (fun xs => some (w, xs, s)) (List.append_nil ends)
  rw [List.append_assoc, List.cons_append, lines?, if_pos hhead, hspan, place_cons]
  simp only [List.tail_cons, hbehind, Option.bind_eq_bind, Option.bind_some]
  cases lines? 2 fuel s <;> rfl

theorem lines?_margin (hp : p.column = 0) :
    lines? 2 fuel (p.place cs) = some ([], p.place cs) := by
  cases fuel with
  | zero => rfl
  | succ fuel =>
      have hhead : (p.place cs).head?.any (·.column == 2) = false := by
        cases cs with
        | nil => rfl
        | cons c cs =>
            rw [place_cons, List.head?_cons, Option.any_some, hp]
            rfl
      rw [lines?, hhead]
      rfl

theorem lines?_last (hcontent : ∀ c ∈ content, isBreak c = false) (hne : content ≠ [])
    (hends : ∀ c ∈ b :: ends, isBreak c = true) (hrest : ∀ c ∈ rest.head?, isGap c = false)
    (hp : p.column = 2) :
    lines? 2 (fuel + 1) (p.place (content ++ b :: ends ++ rest))
      = some ([⟨content, [b], ends⟩], (p.after (content ++ b :: ends)).place rest) := by
  have hmargin : (p.after (content ++ b :: ends)).column = 0 :=
    column_after_append hends (List.cons_ne_nil b ends)
  rw [lines?_step hcontent hne hends hp (emptyLines?_margin hrest), lines?_margin hmargin]
  rfl

theorem lines?_more (hcontent : ∀ c ∈ content, isBreak c = false) (hne : content ≠ [])
    (hends : ∀ c ∈ b :: ends, isBreak c = true) (hcs : ∀ c ∈ cs.head?, isBreak c = false)
    (hp : p.column = 2) :
    lines? 2 (fuel + 1) (p.place (content ++ b :: ends ++ indentation ++ cs))
      = (lines? 2 fuel ((p.after (content ++ b :: ends ++ indentation)).place cs)).map
          fun (below, after) => (⟨content, [b], ends⟩ :: below, after) := by
  have hmargin : (p.after (content ++ b :: ends)).column = 0 :=
    column_after_append hends (List.cons_ne_nil b ends)
  have hcolumn : ((p.after (content ++ b :: ends)).after indentation).column = 2 := by
    rw [column_after_indentation, hmargin]
  have hempty : emptyLines? 2 0 ((p.after (content ++ b :: ends)).place (indentation ++ cs))
      = some (2, [], (p.after (content ++ b :: ends ++ indentation)).place cs) := by
    rw [emptyLines?_indentation (Or.inr rfl) hmargin, after_append p (content ++ b :: ends)]
    exact emptyLines?_stop hcs fun c _ _ => ⟨by decide, Nat.le_of_eq hcolumn.symm⟩
  rw [List.append_assoc _ indentation, lines?_step hcontent hne hends hp hempty]

end Line

/-- **A solid text is read in lines two columns in.** -/
theorem Solid.lines?_place {ends : List Char} {fuel : Nat} (h : Solid cs)
    (hprintable : ∀ c ∈ cs, isPrintable c = true) (hends : ∀ c ∈ ends, isBreak c = true)
    (hne : ends ≠ []) (hrest : ∀ c ∈ rest.head?, isGap c = false) (hfuel : cs.length ≤ fuel)
    (hp : p.column = 2) :
    ∃ lines, lines? 2 fuel (p.place (body cs ++ ends ++ rest))
        = some (lines, (p.after (body cs ++ ends)).place rest)
      ∧ lines ≠ []
      ∧ ∀ chomping, joined true chomping lines
        = cs ++ tail chomping (ends.take 1) (ends.drop 1) := by
  induction h generalizing p fuel with
  | @line content hcontent inner =>
      have hpos := List.length_pos_iff.mpr hcontent
      obtain ⟨fuel, rfl⟩ : ∃ n, fuel = n + 1 := Nat.exists_eq_succ_of_ne_zero (by omega)
      obtain ⟨b, ends, rfl⟩ := List.exists_cons_of_ne_nil hne
      -- the last line takes all line ends behind it
      rw [body_of_no_breaks inner]
      exact ⟨[⟨content, [b], ends⟩], lines?_last (isBreak_of_endsLine hprintable inner) hcontent
        hends hrest hp, by simp, fun chomping => by simp [joined]⟩
  | @more content breaks below hcontent inner hbreaks hall behind ih =>
      obtain ⟨hupper, hbelow⟩ := List.forall_mem_append.mp hprintable
      obtain ⟨hline, hmiddle⟩ := List.forall_mem_append.mp hupper
      have hall' := isBreak_of_endsLine hmiddle hall
      have hcolumn : (p.after (content ++ breaks ++ indentation)).column = 2 := by
        rw [after_append, column_after_indentation, column_after_append hall' hbreaks]
      have hfirst : ∀ c ∈ (body below ++ ends ++ rest).head?, isBreak c = false := by
        intro c hc
        rw [List.append_assoc, List.head?_append_of_ne_nil _ behind.body_ne_nil,
          behind.head?_body] at hc
        rw [isBreak_eq_endsLine (hbelow c (List.mem_of_mem_head? hc))]
        exact behind.begins c hc
      obtain ⟨b, breaks, rfl⟩ := List.exists_cons_of_ne_nil hbreaks
      simp only [List.length_append, List.length_cons] at hfuel
      obtain ⟨fuel, rfl⟩ : ∃ n, fuel = n + 1 := Nat.exists_eq_succ_of_ne_zero (by omega)
      have hless : below.length ≤ fuel := by omega
      obtain ⟨lines, hlines, hsome, hjoined⟩ := ih hbelow hless hcolumn
      refine ⟨⟨content, [b], breaks⟩ :: lines, ?_, by simp, fun chomping => ?_⟩
      · have hsplit : body (content ++ b :: breaks ++ below) ++ ends ++ rest
            = content ++ b :: breaks ++ indentation ++ (body below ++ ends ++ rest) := by
          rw [body_append inner (List.cons_ne_nil b breaks) hall behind]
          simp
        rw [hsplit, lines?_more (isBreak_of_endsLine hline inner) hcontent hall' hfirst hp, hlines,
          ← after_append, body_append inner (List.cons_ne_nil b breaks) hall behind]
        simp
      · obtain ⟨l, lines, rfl⟩ := List.exists_cons_of_ne_nil hsome
        rw [joined, hjoined]
        simp [between]

/-! ## The whole block -/

theorem read?_eq {needed : Bool} {chomping : Chomping} {w : Nat} {leading : List Char}
    {lines : List BlockLine} {s s' : List Placed}
    (hempty : emptyLines? (if needed then 2 else 0) 0
      ((p.after (digit needed ++ sign chomping ++ ['\n'])).place cs) = some (w, leading, s))
    (hwidest : needed = false → w = 2) (hlines : lines? 2 s.length s = some (lines, s')) :
    read? true 0 (p.place (digit needed ++ sign chomping ++ '\n' :: cs))
      = some (⟨true, chomping, leading, lines⟩, s') := by
  rw [after_concat] at hempty
  unfold read?
  rw [header?_place]
  simp only [Option.bind_eq_bind, Option.bind_some, restOfLine?_place]
  -- without the digit, the first line that is not empty shows the indentation
  cases needed with
  | false =>
      obtain rfl := hwidest rfl
      simp only [Bool.false_eq_true, if_false] at hempty ⊢
      simp only [Option.map_none, Option.getD_none, hempty, Option.bind_some]
      change (lines? 2 s.length s).bind _ = _
      rw [hlines]
      rfl
  | true =>
      simp only [if_true] at hempty ⊢
      simp only [Option.map_some, Option.getD_some]
      change (emptyLines? 2 0 _).bind _ = _
      rw [hempty, Option.bind_some]
      change (lines? 2 s.length s).bind _ = _
      rw [hlines]
      rfl

/-- A block of nothing but empty lines. -/
theorem read?_emptyLines (hbreaks : ∀ c ∈ cs, isBreak c = true)
    (hrest : ∀ c ∈ rest.head?, isGap c = false) :
    read? true 0 (p.place (digit true ++ sign .keep ++ '\n' :: cs ++ rest))
      = some (⟨true, .keep, cs, []⟩,
          (p.after (digit true ++ sign .keep ++ '\n' :: cs)).place rest)
    ∧ (p.after (digit true ++ sign .keep ++ '\n' :: cs)).column = 0 := by
  have hmargin : (p.after (digit true ++ sign .keep ++ '\n' :: cs)).column = 0 :=
    column_after_append (List.forall_mem_cons.mpr ⟨by decide, hbreaks⟩) (List.cons_ne_nil _ _)
  have hafter : (p.after (digit true ++ sign .keep ++ ['\n'])).after cs
      = p.after (digit true ++ sign .keep ++ '\n' :: cs) := by
    rw [← after_append, List.append_assoc _ ['\n'], List.singleton_append]
  have hempty : emptyLines? 2 0 ((p.after (digit true ++ sign .keep ++ ['\n'])).place (cs ++ rest))
      = some (0, cs, (p.after (digit true ++ sign .keep ++ '\n' :: cs)).place rest) := by
    rw [emptyLines?_breaks hbreaks, hafter, emptyLines?_margin hrest, Option.map_some]
    exact congrArg (fun xs => some (0, xs, _)) (List.append_nil cs)
  refine ⟨?_, hmargin⟩
  rw [List.append_assoc _ ('\n' :: cs), List.cons_append]
  exact read?_eq hempty nofun (lines?_margin hmargin)

/-- Without the digit, the first line begins with something else than a space. -/
theorem head?_ne_space (hlead : ∀ c ∈ lead, endsLine c = true)
    (h : needsDigit (lead ++ middle ++ breaks) = false) : middle.head? ≠ some ' ' := by
  intro hspace
  obtain ⟨more, rfl⟩ := List.head?_eq_some_iff.mp hspace
  unfold needsDigit at h
  cases lead with
  | nil => exact absurd h nofun
  | cons b lead => simp [hlead b List.mem_cons_self] at h

/-- A block with a line that is not empty. -/
theorem read?_solid (hprintable : ∀ c ∈ lead ++ middle ++ breaks, isPrintable c = true)
    (hlead : ∀ c ∈ lead, endsLine c = true) (hmiddle : Solid middle)
    (hbreaks : ∀ c ∈ breaks, endsLine c = true) (hrest : ∀ c ∈ rest.head?, isGap c = false)
    {needed : Bool} (hneeded : needsDigit (lead ++ middle ++ breaks) = needed)
    {inner : List Char} (hwritten : digit needed ++ sign (chompingFor breaks)
      ++ '\n' :: (lead ++ (indentation ++ body middle)) ++ lastBreaks breaks = inner) :
    ∃ b, read? true 0 (p.place (inner ++ rest)) = some (b, (p.after inner).place rest)
      ∧ b.text = lead ++ middle ++ breaks ∧ (p.after inner).column = 0 := by
  subst hwritten
  obtain ⟨hupper, hprintable'⟩ := List.forall_mem_append.mp hprintable
  obtain ⟨hfront, hinner⟩ := List.forall_mem_append.mp hupper
  have hlead' := isBreak_of_endsLine hfront hlead
  have hends : ∀ c ∈ lastBreaks breaks, isBreak c = true := by
    intro c hc
    rcases mem_lastBreaks hc with hc | rfl
    · exact isBreak_of_endsLine hprintable' hbreaks c hc
    · decide
  -- the digit gives the indentation; without it, the first line has to show it
  have hindent : (if needed then 2 else 0) = 0 ∧ middle.head? ≠ some ' '
      ∨ (if needed then 2 else 0) = 2 := by
    cases needed with
    | false => exact Or.inl ⟨rfl, head?_ne_space hlead hneeded⟩
    | true => exact Or.inr rfl
  generalize hq : p.after (digit needed ++ sign (chompingFor breaks) ++ ['\n']) = q
  have hmargin : (q.after lead).column = 0 := by
    rw [← hq, ← after_append, List.append_assoc, List.singleton_append]
    exact column_after_append (List.forall_mem_cons.mpr ⟨by decide, hlead'⟩)
      (List.cons_ne_nil _ _)
  have hcolumn : ((q.after lead).after indentation).column = 2 := by
    rw [column_after_indentation, hmargin]
  have hempty : emptyLines? (if needed then 2 else 0) 0
        (q.place (lead ++ (indentation ++ (body middle ++ (lastBreaks breaks ++ rest)))))
      = some (2, lead, ((q.after lead).after indentation).place
          (body middle ++ (lastBreaks breaks ++ rest))) :=
    emptyLines?_solid hmiddle hinner hlead' hmargin hindent
  have hfuel : middle.length ≤ (((q.after lead).after indentation).place
      (body middle ++ (lastBreaks breaks ++ rest))).length := by
    have hle := hmiddle.length_le_body
    simp only [length_place, List.length_append]
    omega
  rw [← List.append_assoc (body middle)] at hempty hfuel
  obtain ⟨lines, hlines, hsome, hjoined⟩ := hmiddle.lines?_place hinner hends
    (lastBreaks_ne_nil breaks) hrest hfuel hcolumn
  refine ⟨⟨true, chompingFor breaks, lead, lines⟩, ?_, ?_, ?_⟩
  · subst hq
    have hread := read?_eq hempty (fun _ => rfl) hlines
    simp only [List.append_assoc, List.cons_append, after_append, after_cons, after_nil]
      at hread ⊢
    exact hread
  · have hempty : lines.isEmpty = false := by simpa using hsome
    unfold text
    rw [hempty, hjoined, tail_lastBreaks]
    simp
  · exact column_after_append hends (lastBreaks_ne_nil breaks)

/-- **A block is read to its end.** -/
theorem read?_block (hprintable : ∀ c ∈ cs, isPrintable c = true) (hne : cs ≠ [])
    (hrest : ∀ c ∈ rest.head?, isGap c = false) :
    ∃ inner b, closed (block cs) = '|' :: inner
      ∧ read? true 0 (p.place (inner ++ rest)) = some (b, (p.after inner).place rest)
      ∧ b.text = cs ∧ (p.after inner).column = 0 := by
  rcases exists_solid cs with hbreaks | ⟨lead, middle, breaks, rfl, hlead, hmiddle, hbreaks⟩
  · obtain ⟨hread, hmargin⟩ := read?_emptyLines (isBreak_of_endsLine hprintable hbreaks) hrest
    exact ⟨_, _, closed_block_of_breaks hbreaks hne, hread, rfl, hmargin⟩
  · obtain ⟨b, hread, htext, hmargin⟩ :=
      read?_solid hprintable hlead hmiddle hbreaks hrest rfl rfl
    exact ⟨_, b, closed_block hlead hmiddle hbreaks, hread, htext, hmargin⟩

end BlockText

end HostsBlock.Yaml
