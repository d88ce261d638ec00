import HostsBlock.Entry
import HostsBlock.Proofs.BlankFree

/-!
# Reading the line of an entry back

Whoever reads a hosts file splits each line at its blanks and expects an address and then names. So
an entry's line ought to read back as the three texts that it was made of.

It does so exactly when the address and the full name are each narrower than their columns, which
is `Entry.words_line_iff`. A text that fills its column leaves no space behind it, and the next one
follows without a gap: the two read back as one word. The width of the third column does not matter,
since nothing comes behind it.
-/

namespace HostsBlock.Text

/-- The words of a text: what stands between its blanks. -/
def wordChars (cs : List Char) : List (List Char) :=
  (cs.splitOnP isBlank).filter (!·.isEmpty)

/-- The words of a text. -/
def words (s : String) : List String := (wordChars s.toList).map String.ofList

/-- A text that is one word. -/
structure IsWord (s : String) : Prop where
  ne_empty : s ≠ ""
  blankFree : BlankFree s.toList

theorem IsWord.toList_ne_nil {s : String} (h : IsWord s) : s.toList ≠ [] := fun hnil =>
  h.ne_empty (String.toList_eq_nil_iff.mp hnil)

theorem IsWord.append {s t : String} (hs : IsWord s) (ht : BlankFree t.toList) :
    IsWord (s ++ t) where
  ne_empty := fun hempty => hs.ne_empty (String.append_eq_empty_iff.mp hempty).1
  blankFree := append_blankFree hs.blankFree ht

theorem ne_empty_of_isBlankText {s : String} (h : isBlankText s = false) : s ≠ "" := by
  rintro rfl
  exact absurd h (by decide)

/-! ## Splitting at blanks -/

theorem wordChars_nil : wordChars [] = [] := rfl

/-- A text of letters only is one word. -/
theorem wordChars_of_blankFree {w : List Char} (hw : BlankFree w) (hne : w ≠ []) :
    wordChars w = [w] := by
  unfold wordChars
  rw [List.splitOnP_eq_singleton hw]
  exact List.filter_eq_self.mpr (by simp [hne])

/-- A blank ends a word. -/
theorem wordChars_append_blank {c : Char} (hc : isBlank c = true) (xs ys : List Char) :
    wordChars (xs ++ c :: ys) = wordChars xs ++ wordChars ys := by
  unfold wordChars
  rw [List.splitOnP_append_cons xs ys hc, List.filter_append]

/-- Spaces in front do not count. -/
theorem wordChars_spaces_append (n : Nat) (cs : List Char) :
    wordChars (List.replicate n ' ' ++ cs) = wordChars cs := by
  induction n with
  | zero => rfl
  | succ n ih =>
      rw [List.replicate_succ, List.cons_append]
      have hblank := wordChars_append_blank (c := ' ') (by decide) [] (List.replicate n ' ' ++ cs)
      rw [List.nil_append, wordChars_nil, List.nil_append] at hblank
      rw [hblank, ih]

/-- Letters in front belong to the first part. -/
theorem splitOnP_append_of_blankFree {w : List Char} (hw : BlankFree w) (cs : List Char) :
    (w ++ cs).splitOnP isBlank = (cs.splitOnP isBlank).modifyHead (w ++ ·) := by
  induction w with
  | nil =>
      obtain ⟨part, parts, hparts⟩ :=
        List.exists_cons_of_ne_nil (List.splitOnP_ne_nil isBlank cs)
      rw [List.nil_append, hparts]
      rfl
  | cons c w ih =>
      obtain ⟨hc, hw⟩ := blankFree_cons.mp hw
      rw [List.cons_append, List.splitOnP_cons_eq_if_modifyHead, ih hw, if_neg (by simp [hc]),
        List.modifyHead_modifyHead]
      rfl

/-- Two texts without a blank between them do not read back as two words: the first word goes on
behind the first text. -/
theorem wordChars_append_ne {w x : List Char} (hw : BlankFree w) (hx : BlankFree x)
    (hne : x ≠ []) (rest : List Char) (others : List (List Char)) :
    wordChars (w ++ (x ++ rest)) ≠ w :: others := by
  intro h
  obtain ⟨part, parts, hparts⟩ :=
    List.exists_cons_of_ne_nil (List.splitOnP_ne_nil isBlank rest)
  unfold wordChars at h
  rw [← List.append_assoc, splitOnP_append_of_blankFree (blankFree_append.mpr ⟨hw, hx⟩), hparts,
    List.modifyHead_cons, List.filter_cons_of_pos (by simp [hne]), List.append_assoc] at h
  -- the first word is `w ++ x ++ part`, and it would have to end with `w`
  have hnil : x ++ part = [] := List.append_right_eq_self.mp (List.cons.inj h).1
  exact hne (List.append_eq_nil_iff.mp hnil).1

end HostsBlock.Text

namespace HostsBlock.Entry

open Text

variable {width : Nat} {w : List Char}

/-! ## Columns -/

theorem wordChars_padded (hw : BlankFree w) (hne : w ≠ []) :
    wordChars (padded width w) = [w] := by
  unfold padded
  cases width - w.length with
  | zero => rw [List.replicate_zero, List.append_nil, wordChars_of_blankFree hw hne]
  | succ n =>
      have hspaces := wordChars_spaces_append n []
      rw [List.append_nil] at hspaces
      rw [List.replicate_succ, wordChars_append_blank (by decide), hspaces, wordChars_nil,
        wordChars_of_blankFree hw hne, List.append_nil]

/-- A text narrower than its column is a word of its own. -/
theorem wordChars_padded_append (hw : BlankFree w) (hne : w ≠ []) (hwidth : w.length < width)
    (rest : List Char) : wordChars (padded width w ++ rest) = w :: wordChars rest := by
  obtain ⟨n, hn⟩ := Nat.exists_eq_succ_of_ne_zero (Nat.sub_ne_zero_of_lt hwidth)
  unfold padded
  rw [hn, List.replicate_succ, List.append_assoc, List.cons_append,
    wordChars_append_blank (by decide), wordChars_spaces_append, wordChars_of_blankFree hw hne]
  rfl

/-- A text that fills its column has no space behind it. -/
theorem padded_of_le (hwidth : width ≤ w.length) : padded width w = w := by
  unfold padded
  rw [Nat.sub_eq_zero_of_le hwidth, List.replicate_zero, List.append_nil]

theorem padded_append (rest : List Char) :
    ∃ rest', padded width w ++ rest = w ++ rest' := by
  unfold padded
  exact ⟨_, List.append_assoc w _ rest⟩

/-- The three texts of an entry are words. -/
structure Worded (e : Entry) : Prop where
  address : IsWord e.address
  fqdn : IsWord e.fqdn
  hostname : IsWord e.hostname

variable {e : Entry}

theorem wordChars_lineChars_iff (h : e.Worded) :
    wordChars e.lineChars = [e.address.toList, e.fqdn.toList, e.hostname.toList] ↔
      e.address.toList.length < addressWidth ∧ e.fqdn.toList.length < fqdnWidth := by
  unfold lineChars
  rw [List.append_assoc]
  by_cases haddress : e.address.toList.length < addressWidth
  · rw [wordChars_padded_append h.address.blankFree h.address.toList_ne_nil haddress]
    by_cases hfqdn : e.fqdn.toList.length < fqdnWidth
    · rw [wordChars_padded_append h.fqdn.blankFree h.fqdn.toList_ne_nil hfqdn,
        wordChars_padded h.hostname.blankFree h.hostname.toList_ne_nil]
      exact iff_of_true rfl ⟨haddress, hfqdn⟩
    · -- the full name runs into the short one
      refine iff_of_false (fun hwords => ?_) (fun hboth => hfqdn hboth.2)
      rw [padded_of_le (Nat.le_of_not_lt hfqdn)] at hwords
      exact wordChars_append_ne h.fqdn.blankFree h.hostname.blankFree h.hostname.toList_ne_nil _ _
        (List.cons.inj hwords).2
  · -- the address runs into the full name, whatever comes behind that
    refine iff_of_false (fun hwords => ?_) (fun hboth => haddress hboth.1)
    obtain ⟨rest, hrest⟩ : ∃ rest, padded fqdnWidth e.fqdn.toList
        ++ padded hostnameWidth e.hostname.toList = e.fqdn.toList ++ rest := padded_append _
    rw [padded_of_le (Nat.le_of_not_lt haddress), hrest] at hwords
    exact wordChars_append_ne h.address.blankFree h.fqdn.blankFree h.fqdn.toList_ne_nil _ _ hwords

/-- **When a line reads back.** An entry of three words is read back from its line exactly when the
address and the full name are narrower than their columns. -/
theorem words_line_iff (h : e.Worded) :
    words e.line = [e.address, e.fqdn, e.hostname] ↔
      e.address.length < addressWidth ∧ e.fqdn.length < fqdnWidth := by
  have htexts : [e.address, e.fqdn, e.hostname]
      = [e.address.toList, e.fqdn.toList, e.hostname.toList].map String.ofList := by
    simp only [List.map_cons, List.map_nil, String.ofList_toList]
  unfold words line
  rw [String.toList_ofList, htexts, List.map_inj_right fun _ _ => String.ofList_injective,
    wordChars_lineChars_iff h, String.length_toList, String.length_toList]

end HostsBlock.Entry
