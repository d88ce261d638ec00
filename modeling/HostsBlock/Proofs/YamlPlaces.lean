import HostsBlock.Yaml.Source
import HostsBlock.Yaml.Writer
import Mathlib.Data.List.TakeWhile

/-!
# The places of characters

Whoever reads YAML gets each character with its line and its column. What is written in YAML comes
in pieces, and a proof about reading wants to speak of the pieces. This file joins the two: a `Spot`
is where a piece begins, `Spot.after` is where it ends, and `Spot.place_append` cuts a placed text
between two pieces.

Of all that is said about a spot later, the column is what counts. A piece without line ends moves
it to the right, and behind a line end it is zero.

The second half is about the characters. Those that are written without an escape are all printable,
and for them the reader and the writer agree on what a blank is and what ends a line.
-/

namespace HostsBlock.Yaml

/-- A text begins with a run of characters that have a property. -/
theorem exists_run (f : Char → Bool) (cs : List Char) :
    ∃ run rest, cs = run ++ rest ∧ (∀ c ∈ run, f c = true) ∧ ∀ c ∈ rest.head?, f c = false := by
  refine ⟨cs.takeWhile f, cs.dropWhile f, List.takeWhile_append_dropWhile.symm,
    fun c hc => List.mem_takeWhile_imp hc, fun c hc => ?_⟩
  have hstop := List.head?_dropWhile_not f cs
  rwa [hc] at hstop

/-- What holds of a text may be shown character by character but for the runs, which go at once. -/
@[elab_as_elim]
theorem run_induction (f : Char → Bool) {motive : List Char → Prop} (nil : motive [])
    (char : ∀ c cs, f c = false → motive cs → motive (c :: cs))
    (run : ∀ xs cs, xs ≠ [] → (∀ c ∈ xs, f c = true) → (∀ c ∈ cs.head?, f c = false) →
      motive cs → motive (xs ++ cs)) (cs : List Char) : motive cs := by
  induction hlength : cs.length using Nat.strongRecOn generalizing cs with
  | ind n ih =>
      subst hlength
      obtain ⟨xs, rest, rfl, hxs, hrest⟩ := exists_run f cs
      -- the text begins with a run, or with a character outside of all runs
      cases xs with
      | nil =>
          cases rest with
          | nil => exact nil
          | cons c rest => exact char c rest (hrest c rfl) (ih _ (by simp) _ rfl)
      | cons x xs =>
          have hless : rest.length < (x :: xs ++ rest).length := by
            rw [List.length_append, List.length_cons]
            omega
          exact run _ _ (List.cons_ne_nil x xs) hxs hrest (ih _ hless _ rfl)

/-! ## Spots -/

/-- A place in a text. -/
structure Spot where
  line : Nat
  column : Nat
  index : Nat

namespace Spot

variable {p : Spot} {cs xs ys : List Char}

/-- The characters of a text that begins here. -/
def place (p : Spot) (cs : List Char) : List Placed := Yaml.place p.line p.column p.index cs

/-- The place behind a character. -/
def next (p : Spot) (c : Char) : Spot :=
  if isBreak c then ⟨p.line + 1, 0, p.index + 1⟩ else ⟨p.line, p.column + 1, p.index + 1⟩

/-- The place behind a text. -/
def after (p : Spot) (cs : List Char) : Spot := cs.foldl next p

@[simp] theorem place_nil (p : Spot) : p.place [] = [] := rfl

theorem place_cons (p : Spot) (c : Char) (cs : List Char) :
    p.place (c :: cs) = ⟨c, p.line, p.column, p.index⟩ :: (p.next c).place cs := by
  unfold place next
  rw [Yaml.place]
  split <;> rfl

@[simp] theorem after_nil (p : Spot) : p.after [] = p := rfl

theorem after_cons (p : Spot) (c : Char) (cs : List Char) :
    p.after (c :: cs) = (p.next c).after cs := rfl

theorem after_append (p : Spot) (xs ys : List Char) :
    p.after (xs ++ ys) = (p.after xs).after ys := List.foldl_append

theorem after_concat (p : Spot) (cs : List Char) (c : Char) :
    p.after (cs ++ [c]) = (p.after cs).next c := after_append p cs [c]

/-- **Texts in a row have their places one behind the other.** -/
theorem place_append (p : Spot) (xs ys : List Char) :
    p.place (xs ++ ys) = p.place xs ++ (p.after xs).place ys := by
  induction xs generalizing p with
  | nil => rfl
  | cons x xs ih => rw [List.cons_append, place_cons, place_cons, ih, after_cons, List.cons_append]

theorem length_place (p : Spot) (cs : List Char) : (p.place cs).length = cs.length := by
  induction cs generalizing p with
  | nil => rfl
  | cons c cs ih => rw [place_cons, List.length_cons, ih, List.length_cons]

theorem chars_place (p : Spot) (cs : List Char) : chars (p.place cs) = cs := by
  induction cs generalizing p with
  | nil => rfl
  | cons c cs ih =>
      rw [place_cons]
      exact congrArg (c :: ·) (ih _)

/-! ## Lines and columns -/

theorem after_of_no_breaks (h : ∀ c ∈ cs, isBreak c = false) :
    p.after cs = ⟨p.line, p.column + cs.length, p.index + cs.length⟩ := by
  induction cs generalizing p with
  | nil => rfl
  | cons c cs ih =>
      obtain ⟨hc, hcs⟩ := List.forall_mem_cons.mp h
      have hnext : p.next c = ⟨p.line, p.column + 1, p.index + 1⟩ := by
        unfold next
        rw [hc]
        rfl
      rw [after_cons, ih hcs, hnext, List.length_cons, Nat.add_assoc, Nat.add_assoc,
        Nat.add_comm 1]

theorem column_after (h : ∀ c ∈ cs, isBreak c = false) :
    (p.after cs).column = p.column + cs.length := by
  rw [after_of_no_breaks h]

theorem column_next {c : Char} (h : isBreak c = false) : (p.next c).column = p.column + 1 := by
  unfold next
  rw [h]
  rfl

theorem column_next_of_break {c : Char} (h : isBreak c = true) : (p.next c).column = 0 := by
  unfold next
  rw [h]
  rfl

/-- A line end leads to the margin. -/
theorem column_after_concat {c : Char} (h : isBreak c = true) :
    (p.after (cs ++ [c])).column = 0 := by
  rw [after_concat]
  exact column_next_of_break h

theorem column_after_breaks (h : ∀ c ∈ cs, isBreak c = true) (hne : cs ≠ []) :
    (p.after cs).column = 0 := by
  rcases List.eq_nil_or_concat cs with rfl | ⟨front, c, rfl⟩
  · exact absurd rfl hne
  · rw [List.concat_eq_append]
    exact column_after_concat (h c (by simp))

/-- So do line ends behind something else. -/
theorem column_after_append (h : ∀ c ∈ ys, isBreak c = true) (hne : ys ≠ []) :
    (p.after (xs ++ ys)).column = 0 := by
  rw [after_append]
  exact column_after_breaks h hne

/-! ## Looking at the front -/

theorem nextIs_place (f : Char → Bool) (p : Spot) (cs : List Char) :
    nextIs f (p.place cs) = cs.head?.any f := by
  cases cs with
  | nil => rfl
  | cons c cs =>
      rw [place_cons]
      rfl

theorem startsWith_place (c : Char) (p : Spot) (cs : List Char) :
    startsWith c (p.place cs) = cs.head?.any (· == c) := nextIs_place (· == c) p cs

theorem any_place (f : Char → Bool) (p : Spot) (cs : List Char) :
    (p.place cs).any (fun x => f x.char) = cs.any f := by
  have hmap : cs.any f = (chars (p.place cs)).any f := by rw [chars_place]
  rw [hmap]
  unfold chars
  rw [List.any_map]
  rfl

theorem atGap_place (p : Spot) (cs : List Char) : atGap (p.place cs) = cs.head?.all isGap := by
  cases cs with
  | nil => rfl
  | cons c cs =>
      rw [place_cons]
      rfl

/-- Inside a line there is no edge of a document. -/
theorem atMarker_of_column (c : Char) (hp : 0 < p.column) : atMarker c (p.place cs) = false := by
  unfold atMarker
  cases cs with
  | nil => rfl
  | cons x xs =>
      have hcolumn : (p.column == 0) = false := beq_eq_false_iff_ne.mpr (by omega)
      rw [place_cons, List.head?_cons, Option.any_some, hcolumn, Bool.false_and, Bool.false_and]

/-- An edge of a document begins with its own sign. -/
theorem atMarker_of_head {c : Char} (h : cs.head? ≠ some c) : atMarker c (p.place cs) = false := by
  unfold atMarker
  cases cs with
  | nil => rfl
  | cons x xs =>
      have hx : (chars ((p.place (x :: xs)).take 3) == [c, c, c]) = false := by
        rw [place_cons, List.take_succ_cons, beq_eq_false_iff_ne]
        intro heq
        exact h (congrArg some (List.cons.inj heq).1)
      rw [hx, Bool.and_false, Bool.false_and]

theorem atMarker_of_second {c x y : Char} (h : y ≠ c) :
    atMarker c (p.place (x :: y :: cs)) = false := by
  have hy : (chars ((p.place (x :: y :: cs)).take 3) == [c, c, c]) = false := by
    rw [place_cons, place_cons, List.take_succ_cons, List.take_succ_cons, beq_eq_false_iff_ne]
    intro heq
    exact h (List.cons.inj (List.cons.inj heq).2).1
  unfold atMarker
  rw [hy, Bool.and_false, Bool.false_and]

theorem atDocumentEdge_of_column (hp : 0 < p.column) : atDocumentEdge (p.place cs) = false := by
  unfold atDocumentEdge
  rw [atMarker_of_column _ hp, atMarker_of_column _ hp]
  rfl

theorem atDocumentEdge_of_head (hdash : cs.head? ≠ some '-') (hdot : cs.head? ≠ some '.') :
    atDocumentEdge (p.place cs) = false := by
  unfold atDocumentEdge
  rw [atMarker_of_head hdash, atMarker_of_head hdot]
  rfl

/-! ## Cutting off what has a property -/

variable {f : Char → Bool}

theorem takeWhile_place (hxs : ∀ c ∈ xs, f c = true) (hys : ∀ c ∈ ys.head?, f c = false) :
    (p.place (xs ++ ys)).takeWhile (fun x => f x.char) = p.place xs := by
  induction xs generalizing p with
  | nil =>
      cases ys with
      | nil => rfl
      | cons y ys =>
          rw [List.nil_append, place_cons, List.takeWhile_cons_of_neg (by simp [hys y rfl])]
          rfl
  | cons x xs ih =>
      obtain ⟨hx, hxs⟩ := List.forall_mem_cons.mp hxs
      simp only [List.cons_append, place_cons, List.takeWhile_cons, hx, if_true, ih hxs]

theorem dropWhile_place (hxs : ∀ c ∈ xs, f c = true) (hys : ∀ c ∈ ys.head?, f c = false) :
    (p.place (xs ++ ys)).dropWhile (fun x => f x.char) = (p.after xs).place ys := by
  induction xs generalizing p with
  | nil =>
      cases ys with
      | nil => rfl
      | cons y ys =>
          rw [List.nil_append, place_cons, List.dropWhile_cons_of_neg (by simp [hys y rfl])]
          exact (place_cons p y ys).symm
  | cons x xs ih =>
      obtain ⟨hx, hxs⟩ := List.forall_mem_cons.mp hxs
      simp only [List.cons_append, place_cons, List.dropWhile_cons, hx, if_true, ih hxs, after_cons]

theorem spanOf_place (hxs : ∀ c ∈ xs, f c = true) (hys : ∀ c ∈ ys.head?, f c = false) :
    spanOf f (p.place (xs ++ ys)) = (xs, (p.after xs).place ys) := by
  unfold spanOf
  rw [takeWhile_place hxs hys, dropWhile_place hxs hys, chars_place]

end Spot

/-! ## Printable characters -/

section Printable

variable {c : Char} {cs : List Char}

theorem ne_of_isPrintable {x : Char} (h : isPrintable c = true) (hx : isPrintable x = false) :
    c ≠ x := by
  rintro rfl
  rw [h] at hx
  exact absurd hx nofun

theorem isBreak_eq_endsLine (h : isPrintable c = true) : isBreak c = endsLine c := by
  have hreturn : (c == '\r') = false := beq_false_of_ne (ne_of_isPrintable h (by decide))
  have hnext : (c == '\u0085') = false := beq_false_of_ne (ne_of_isPrintable h (by decide))
  unfold isBreak endsLine
  rw [hreturn, hnext, Bool.or_false, Bool.or_false]

theorem isBreak_of_endsLine {b : Bool} (h : ∀ c ∈ cs, isPrintable c = true)
    (hcs : ∀ c ∈ cs, endsLine c = b) : ∀ c ∈ cs, isBreak c = b :=
  fun c hc => (isBreak_eq_endsLine (h c hc)).trans (hcs c hc)

theorem isGap_eq (h : isPrintable c = true) : isGap c = (c == ' ' || endsLine c) := by
  have htab : (c == '\t') = false := beq_false_of_ne (ne_of_isPrintable h (by decide))
  unfold isGap isBlank
  rw [htab, Bool.or_false, isBreak_eq_endsLine h]

theorem isBreak_of_isGap (h : isGap c = false) : isBreak c = false := by
  unfold isGap at h
  rw [Bool.or_eq_false_iff] at h
  exact h.2

theorem isBlank_of_isGap (h : isGap c = false) : isBlank c = false := by
  unfold isGap at h
  rw [Bool.or_eq_false_iff] at h
  exact h.1

end Printable

/-! ## Indented lines -/

section Indented

variable {w : Char → List Char} {fresh : Bool} {c : Char} {cs xs : List Char}

theorem mem_indentation (hc : c ∈ indentation) : c = ' ' := by
  simpa [indentation] using hc

theorem Spot.column_after_indentation (p : Spot) :
    (p.after indentation).column = p.column + 2 :=
  column_after fun c hc => by
    rw [mem_indentation hc]
    decide

theorem indentedFrom_append_of_breaks (hxs : ∀ c ∈ xs, endsLine c = true) (hne : xs ≠ []) :
    indentedFrom w fresh (xs ++ cs) = xs ++ indentedFrom w true cs := by
  induction xs generalizing fresh with
  | nil => exact absurd rfl hne
  | cons x xs ih =>
      obtain ⟨hx, hxs⟩ := List.forall_mem_cons.mp hxs
      rw [List.cons_append, indentedFrom, if_pos hx, List.cons_append]
      cases xs with
      | nil => rfl
      | cons y xs => rw [ih hxs (by simp)]

theorem indentedFrom_of_breaks (hxs : ∀ c ∈ xs, endsLine c = true) :
    indentedFrom w fresh xs = xs := by
  induction xs generalizing fresh with
  | nil => rfl
  | cons x xs ih =>
      obtain ⟨hx, hxs⟩ := List.forall_mem_cons.mp hxs
      rw [indentedFrom, if_pos hx, ih hxs]

theorem indentedFrom_append_of_breaks_behind (hxs : ∀ c ∈ xs, endsLine c = true) :
    indentedFrom w fresh (cs ++ xs) = indentedFrom w fresh cs ++ xs := by
  induction cs generalizing fresh with
  | nil => exact indentedFrom_of_breaks hxs
  | cons c cs ih =>
      rw [List.cons_append, indentedFrom, indentedFrom]
      split
      · rw [ih, List.cons_append]
      · rw [ih, List.append_assoc _ _ xs]

theorem indentedFrom_append_of_no_breaks (hxs : ∀ c ∈ xs, endsLine c = false) :
    indentedFrom w false (xs ++ cs) = xs.flatMap w ++ indentedFrom w false cs := by
  induction xs with
  | nil => rfl
  | cons x xs ih =>
      obtain ⟨hx, hxs⟩ := List.forall_mem_cons.mp hxs
      rw [List.cons_append, indentedFrom, if_neg (by simp [hx]), ih hxs, List.flatMap_cons]
      simp

/-- A line that starts here is indented, unless it is empty. -/
theorem indentedFrom_true (h : ∀ c ∈ cs.head?, endsLine c = false) (hne : cs ≠ []) :
    indentedFrom w true cs = indentation ++ indentedFrom w false cs := by
  obtain ⟨c, cs, rfl⟩ := List.exists_cons_of_ne_nil hne
  have hc : ¬ endsLine c = true := by simp [h c rfl]
  rw [indentedFrom, indentedFrom, if_neg hc, if_neg hc]
  simp

theorem mem_indentedFrom (hc : c ∈ indentedFrom w fresh cs) :
    c = ' ' ∨ c ∈ cs ∨ c ∈ cs.flatMap w := by
  induction cs generalizing fresh with
  | nil => exact absurd hc nofun
  | cons x cs ih =>
      rw [indentedFrom] at hc
      split at hc
      · rcases List.mem_cons.mp hc with rfl | hc
        · simp
        · rcases ih hc with h | h | h <;> simp [h]
      · rcases List.mem_append.mp hc with hc | hc
        · rcases List.mem_append.mp hc with hc | hc
          · exact Or.inl (mem_indentation (by split at hc <;> simp_all))
          · simp [hc]
        · rcases ih hc with h | h | h <;> simp [h]

theorem closed_of_getLast? (h : cs.getLast? = some c) :
    closed cs = cs ++ if endsLine c then [] else ['\n'] := by
  unfold closed
  rw [h]
  rfl

end Indented

end HostsBlock.Yaml
