import HostsBlock.Text.Blank
import HostsBlock.Text.Case
import HostsBlock.Text.Digits

/-!
# Texts without blanks

A line of a hosts file is read back word by word, so it matters which texts are free of blanks. Most
of what a block is made of is given, but two kinds of texts come from other ones.

**Changing the case of a text brings no blanks into it.** The case tables have about two thousand
letters, but their images come in a few hundred runs, and whether a run meets a blank character is a
comparison of its two ends with the ranges of blank characters. `Avoids` is that comparison, and
each table is checked run by run.

**Digits are not blank**, since they are in none of these ranges either.
-/

namespace HostsBlock.Text

/-- A text in which no character is blank. -/
def BlankFree (cs : List Char) : Prop := ∀ c ∈ cs, isBlank c = false

instance (cs : List Char) : Decidable (BlankFree cs) :=
  List.decidableBAll (isBlank · = false) cs

theorem blankFree_nil : BlankFree [] := by intro c hc; exact absurd hc (by simp)

theorem blankFree_append {as bs : List Char} :
    BlankFree (as ++ bs) ↔ BlankFree as ∧ BlankFree bs := by
  unfold BlankFree
  exact List.forall_mem_append

theorem blankFree_cons {c : Char} {cs : List Char} :
    BlankFree (c :: cs) ↔ isBlank c = false ∧ BlankFree cs := by
  unfold BlankFree
  exact List.forall_mem_cons

theorem append_blankFree {s t : String} (hs : BlankFree s.toList) (ht : BlankFree t.toList) :
    BlankFree (s ++ t).toList := by
  rw [String.toList_append]
  exact blankFree_append.mpr ⟨hs, ht⟩

/-! ## Where the blank characters are -/

/-- The blank characters, as ranges of code points. -/
def blankRanges : List (Nat × Nat) :=
  [(0x9, 0xD), (0x20, 0x20), (0x85, 0x85), (0xA0, 0xA0), (0x1680, 0x1680), (0x2000, 0x200A),
    (0x2028, 0x2029), (0x202F, 0x202F), (0x205F, 0x205F), (0x3000, 0x3000)]

/-- No blank character has a code point from `first` to `last`. -/
def Avoids (first last : Nat) : Prop := ∀ r ∈ blankRanges, last < r.1 ∨ r.2 < first

instance (first last : Nat) : Decidable (Avoids first last) :=
  List.decidableBAll (fun r : Nat × Nat => last < r.1 ∨ r.2 < first) blankRanges

/-- A code point that is none stands for the null character, which is not blank either. -/
theorem toNat_ofNat_cases (n : Nat) : (Char.ofNat n).toNat = n ∨ (Char.ofNat n).toNat = 0 := by
  unfold Char.ofNat
  by_cases hvalid : n.isValidChar
  · rw [dif_pos hvalid]
    exact Or.inl rfl
  · rw [dif_neg hvalid]
    exact Or.inr rfl

theorem isBlank_of_avoids {first last n : Nat} (h : Avoids first last) (hfirst : first ≤ n)
    (hlast : n ≤ last) : isBlank (Char.ofNat n) = false := by
  simp only [Avoids, blankRanges, List.forall_mem_cons] at h
  have hn := toNat_ofNat_cases n
  unfold isBlank
  simp only [Bool.or_eq_false_iff, Bool.and_eq_false_iff, beq_eq_false_iff_ne, ne_eq,
    decide_eq_false_iff_not]
  omega

/-! ## Letter case -/

/-- The images of a run of a case table avoid the blank characters. -/
def RunAvoids (run : Nat × Nat × Nat × Nat) : Prop :=
  Avoids run.2.2.2 (run.2.2.2 + (run.2.1 - run.1))

instance (run : Nat × Nat × Nat × Nat) : Decidable (RunAvoids run) :=
  inferInstanceAs (Decidable (Avoids _ _))

theorem mapped_blankFree {special : List (Nat × List Nat)}
    {runs : List (Nat × Nat × Nat × Nat)}
    (hspecial : ∀ p ∈ special, ∀ n ∈ p.2, Avoids n n) (hruns : ∀ run ∈ runs, RunAvoids run)
    {c : Char} (hc : isBlank c = false) : BlankFree (mapped special runs c) := by
  unfold mapped
  split
  · -- a special case, whose image may be several characters
    rename_i image hlookup
    intro x hx
    obtain ⟨n, hn, rfl⟩ := List.mem_map.mp hx
    obtain ⟨before, after, hsplit, -⟩ := List.lookup_eq_some_iff.mp hlookup
    have hmem : (c.toNat, image) ∈ special := by rw [hsplit]; simp
    exact isBlank_of_avoids (hspecial _ hmem n hn) (Nat.le_refl n) (Nat.le_refl n)
  · split
    · -- the image lies in the run as far from its start as the character from that of its own
      rename_i image himage
      intro x hx
      obtain rfl := List.mem_singleton.mp hx
      unfold runImage? at himage
      obtain ⟨⟨first, last, step, lowest⟩, hfind, rfl⟩ := Option.map_eq_some_iff.mp himage
      have hin := List.find?_some hfind
      simp only [Bool.and_eq_true, decide_eq_true_eq] at hin
      have hrun : Avoids lowest (lowest + (last - first)) :=
        hruns _ (List.mem_of_find?_eq_some hfind)
      show isBlank (Char.ofNat (lowest + (c.toNat - first))) = false
      exact isBlank_of_avoids hrun (by omega) (by omega)
    · intro x hx
      obtain rfl := List.mem_singleton.mp hx
      exact hc

/-- One letter in another case: by arithmetic in ASCII, by the tables elsewhere. -/
theorem casedChar_blankFree {ascii : Char → Char} {special : List (Nat × List Nat)}
    {runs : List (Nat × Nat × Nat × Nat)}
    (hascii : ∀ n < 0x80, isBlank (Char.ofNat n) = false →
      isBlank (ascii (Char.ofNat n)) = false)
    (hspecial : ∀ p ∈ special, ∀ n ∈ p.2, Avoids n n) (hruns : ∀ run ∈ runs, RunAvoids run)
    {c : Char} (hc : isBlank c = false) :
    BlankFree (if c.toNat < 0x80 then [ascii c] else mapped special runs c) := by
  split
  · -- there are 128 of them, and all are tried
    rename_i hsmall
    have himage := hascii c.toNat hsmall
    rw [Char.ofNat_toNat] at himage
    intro x hx
    obtain rfl := List.mem_singleton.mp hx
    exact himage hc
  · exact mapped_blankFree hspecial hruns hc

theorem upperChar_blankFree {c : Char} (hc : isBlank c = false) : BlankFree (upperChar c) :=
  casedChar_blankFree (by decide +kernel) (by decide +kernel) (by decide +kernel) hc

theorem lowerChar_blankFree {c : Char} (hc : isBlank c = false) : BlankFree (lowerChar c) :=
  casedChar_blankFree (by decide +kernel) (by decide +kernel) (by decide +kernel) hc

/-- **Upper case brings no blanks.** -/
theorem upper_blankFree {s : String} (h : BlankFree s.toList) : BlankFree (upper s).toList := by
  unfold upper upperChars
  rw [String.toList_ofList]
  intro x hx
  obtain ⟨c, hc, hx⟩ := List.mem_flatMap.mp hx
  exact upperChar_blankFree (h c hc) x hx

theorem lowerFrom_blankFree {cs : List Char} (before : List Char) (h : BlankFree cs) :
    BlankFree (lowerFrom before cs) := by
  induction cs generalizing before with
  | nil => exact blankFree_nil
  | cons c cs ih =>
      obtain ⟨hc, hcs⟩ := blankFree_cons.mp h
      rw [lowerFrom]
      refine blankFree_append.mpr ⟨?_, ih (c :: before) hcs⟩
      split
      · -- either form of a small sigma
        split
        · exact blankFree_cons.mpr ⟨by decide, blankFree_nil⟩
        · exact blankFree_cons.mpr ⟨by decide, blankFree_nil⟩
      · exact lowerChar_blankFree hc

/-- **Lower case brings no blanks.** -/
theorem lower_blankFree {s : String} (h : BlankFree s.toList) : BlankFree (lower s).toList := by
  unfold lower lowerChars
  rw [String.toList_ofList]
  exact lowerFrom_blankFree [] h

/-! ## Digits -/

theorem isBlank_eq_false_of_isDigitOf {base : Nat} {c : Char} (h : isDigitOf base c = true) :
    isBlank c = false := by
  unfold isDigitOf digitValue? isDigit at h
  have hrange : (0x30 ≤ c.toNat ∧ c.toNat ≤ 0x39) ∨ (0x61 ≤ c.toNat ∧ c.toNat ≤ 0x66)
      ∨ (0x41 ≤ c.toNat ∧ c.toNat ≤ 0x46) := by
    split at h
    · rename_i hdigit
      simp only [Bool.and_eq_true, decide_eq_true_eq] at hdigit
      exact Or.inl hdigit
    · split at h
      · rename_i hlower
        simp only [Bool.and_eq_true, decide_eq_true_eq] at hlower
        exact Or.inr (Or.inl hlower)
      · split at h
        · rename_i hupper
          simp only [Bool.and_eq_true, decide_eq_true_eq] at hupper
          exact Or.inr (Or.inr hupper)
        · exact absurd h (by simp)
  have hdecimal : Avoids 0x30 0x39 := by decide
  have hlower : Avoids 0x61 0x66 := by decide
  have hupper : Avoids 0x41 0x46 := by decide
  rw [← Char.ofNat_toNat c]
  rcases hrange with hrange | hrange | hrange
  · exact isBlank_of_avoids hdecimal hrange.1 hrange.2
  · exact isBlank_of_avoids hlower hrange.1 hrange.2
  · exact isBlank_of_avoids hupper hrange.1 hrange.2

end HostsBlock.Text
