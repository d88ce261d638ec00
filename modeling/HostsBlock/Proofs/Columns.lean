import HostsBlock.Entry
import Mathlib.Data.List.DropRight

/-!
# The columns of an entry's line

The line of an entry is three texts, each filled up with spaces to the width of its column. A text
that is wider than its column is not cut off, so where the next one begins depends on how wide the
texts are. This file says where that is, for texts of any width and any characters: the places
`fqdnStart` and `hostnameStart` are sums of widths, and all that stands outside the three texts is
spaces.

Whoever knows the widths of the columns can cut a line at them and take the spaces away behind each
text. This is `ofLine`, and **it gives the entry back exactly if the first two texts fit their
columns and none of the three ends in a space**. A text may fill its column here, although it then
runs into the next one and the two are one word.
-/

namespace HostsBlock

namespace Entry

variable {width : Nat} {cs : List Char} {e : Entry}

/-! ## One column -/

theorem length_padded (width : Nat) (cs : List Char) :
    (padded width cs).length = max width cs.length := by
  unfold padded
  rw [List.length_append, List.length_replicate]
  omega

theorem prefix_padded (width : Nat) (cs : List Char) : cs <+: padded width cs :=
  List.prefix_append cs _

/-- Behind the text there are spaces up to the end of the column. -/
theorem eq_space_of_padded {i : Nat} {c : Char} (hc : (padded width cs)[i]? = some c)
    (hi : cs.length ≤ i) : c = ' ' := by
  unfold padded at hc
  rw [List.getElem?_append_right hi] at hc
  exact List.eq_of_mem_replicate (List.mem_of_getElem? hc)

/-- A text without the spaces at its end. -/
def dropSpaces (cs : List Char) : List Char := cs.rdropWhile (· == ' ')

theorem dropSpaces_append_spaces (cs : List Char) (n : Nat) :
    dropSpaces (cs ++ List.replicate n ' ') = dropSpaces cs := by
  induction n with
  | zero => rw [List.replicate_zero, List.append_nil]
  | succ n ih =>
      unfold dropSpaces at ih ⊢
      rw [List.replicate_succ', ← List.append_assoc,
        List.rdropWhile_concat_pos _ _ _ (by decide), ih]

theorem dropSpaces_padded (width : Nat) (cs : List Char) :
    dropSpaces (padded width cs) = dropSpaces cs :=
  dropSpaces_append_spaces cs _

theorem dropSpaces_eq_self_iff : dropSpaces cs = cs ↔ cs.getLast? ≠ some ' ' := by
  unfold dropSpaces
  rw [List.rdropWhile_eq_self_iff]
  constructor
  · intro h hlast
    obtain ⟨front, rfl⟩ := List.getLast?_eq_some_iff.mp hlast
    exact h (by simp) (by simp)
  · intro h hne hspace
    refine h ?_
    rw [List.getLast?_eq_some_getLast hne, beq_iff_eq.mp hspace]

theorem length_dropSpaces_le (cs : List Char) : (dropSpaces cs).length ≤ cs.length :=
  (List.rdropWhile_prefix _ cs).length_le

/-! ## Three columns -/

/-- Where the full name begins in the line of an entry. -/
def fqdnStart (e : Entry) : Nat := max addressWidth e.address.length

/-- Where the short name begins in the line of an entry. -/
def hostnameStart (e : Entry) : Nat := e.fqdnStart + max fqdnWidth e.fqdn.length

/-- A place in the line of an entry that belongs to one of the three texts. -/
def Covers (e : Entry) (i : Nat) : Prop :=
  i < e.address.length
  ∨ e.fqdnStart ≤ i ∧ i < e.fqdnStart + e.fqdn.length
  ∨ e.hostnameStart ≤ i ∧ i < e.hostnameStart + e.hostname.length

theorem toList_line (e : Entry) :
    e.line.toList = padded addressWidth e.address.toList
      ++ (padded fqdnWidth e.fqdn.toList ++ padded hostnameWidth e.hostname.toList) := by
  unfold line lineChars
  rw [String.toList_ofList, List.append_assoc]

theorem length_address_column (e : Entry) :
    (padded addressWidth e.address.toList).length = e.fqdnStart := by
  rw [length_padded, String.length_toList]
  rfl

theorem length_fqdn_column (e : Entry) :
    e.fqdnStart + (padded fqdnWidth e.fqdn.toList).length = e.hostnameStart := by
  rw [length_padded, String.length_toList]
  rfl

theorem length_line (e : Entry) :
    e.line.length = e.hostnameStart + max hostnameWidth e.hostname.length := by
  have haddress := e.length_address_column
  have hfqdn := e.length_fqdn_column
  rw [← String.length_toList, toList_line, List.length_append, List.length_append,
    length_padded hostnameWidth, String.length_toList]
  omega

theorem drop_fqdnStart (e : Entry) :
    e.line.toList.drop e.fqdnStart
      = padded fqdnWidth e.fqdn.toList ++ padded hostnameWidth e.hostname.toList := by
  rw [toList_line, List.drop_left' e.length_address_column]

theorem drop_hostnameStart (e : Entry) :
    e.line.toList.drop e.hostnameStart = padded hostnameWidth e.hostname.toList := by
  rw [← length_fqdn_column, ← List.drop_drop, drop_fqdnStart, List.drop_left]

/-- **Outside the three texts there are spaces.** -/
theorem space_or_covers (e : Entry) {i : Nat} {c : Char} (hc : e.line.toList[i]? = some c) :
    c = ' ' ∨ e.Covers i := by
  have haddress := e.length_address_column
  have hfqdn := e.length_fqdn_column
  rw [toList_line] at hc
  unfold Covers
  by_cases hfirst : i < e.fqdnStart
  · -- in the column of the address
    rw [List.getElem?_append_left (by omega)] at hc
    by_cases hi : i < e.address.length
    · exact Or.inr (Or.inl hi)
    · exact Or.inl (eq_space_of_padded hc (by rw [String.length_toList]; omega))
  · rw [List.getElem?_append_right (by omega), haddress] at hc
    by_cases hsecond : i < e.hostnameStart
    · -- in that of the full name
      rw [List.getElem?_append_left (by omega)] at hc
      by_cases hi : i < e.fqdnStart + e.fqdn.length
      · exact Or.inr (Or.inr (Or.inl ⟨by omega, hi⟩))
      · exact Or.inl (eq_space_of_padded hc (by rw [String.length_toList]; omega))
    · -- in that of the short name, or behind it
      rw [List.getElem?_append_right (by omega)] at hc
      by_cases hi : i < e.hostnameStart + e.hostname.length
      · exact Or.inr (Or.inr (Or.inr ⟨by omega, hi⟩))
      · exact Or.inl (eq_space_of_padded hc (by rw [String.length_toList]; omega))

/-! ## Cutting a line at the columns -/

/-- The entry that stands in the columns of a line. -/
def ofLine (line : String) : Entry where
  address := String.ofList (dropSpaces (line.toList.take addressWidth))
  fqdn := String.ofList (dropSpaces ((line.toList.drop addressWidth).take fqdnWidth))
  hostname := String.ofList (dropSpaces (line.toList.drop (addressWidth + fqdnWidth)))

/-- A text that does not end in a space. -/
def EndsInText (s : String) : Prop := s.toList.getLast? ≠ some ' '

instance (s : String) : Decidable (EndsInText s) := inferInstanceAs (Decidable (¬ _))

/-- The first two texts fit their columns, and none of the three ends in a space. -/
structure InColumns (e : Entry) : Prop where
  address : e.address.length ≤ addressWidth
  fqdn : e.fqdn.length ≤ fqdnWidth
  ends : ∀ s ∈ [e.address, e.fqdn, e.hostname], EndsInText s

theorem ofList_dropSpaces_iff {s : String} :
    String.ofList (dropSpaces s.toList) = s ↔ EndsInText s := by
  unfold EndsInText
  rw [← dropSpaces_eq_self_iff, ← String.toList_inj, String.toList_ofList]

/-- Texts that fit their columns are cut out of the line with the spaces behind them. -/
theorem ofLine_line (haddress : e.address.length ≤ addressWidth)
    (hfqdn : e.fqdn.length ≤ fqdnWidth) :
    ofLine e.line =
      { address := String.ofList (dropSpaces e.address.toList)
        fqdn := String.ofList (dropSpaces e.fqdn.toList)
        hostname := String.ofList (dropSpaces e.hostname.toList) } := by
  have hfirst : e.fqdnStart = addressWidth := max_eq_left haddress
  have hsecond : e.hostnameStart = addressWidth + fqdnWidth := by
    unfold hostnameStart
    rw [hfirst, max_eq_left hfqdn]
  have hwidth : (padded addressWidth e.address.toList).length = addressWidth := by
    rw [length_address_column, hfirst]
  have hwidth' : (padded fqdnWidth e.fqdn.toList).length = fqdnWidth := by
    have hcolumn := e.length_fqdn_column
    omega
  unfold ofLine
  rw [← hsecond, drop_hostnameStart, ← hfirst, drop_fqdnStart, hfirst, toList_line,
    List.take_left' hwidth, List.take_left' hwidth', dropSpaces_padded, dropSpaces_padded,
    dropSpaces_padded]

/-- What is cut out of a line fits the columns, whatever the line is. -/
theorem inColumns_ofLine (line : String) : (ofLine line).InColumns where
  address := by
    have hcut := length_dropSpaces_le (line.toList.take addressWidth)
    have htake := List.length_take_le addressWidth line.toList
    unfold ofLine
    rw [← String.length_toList, String.toList_ofList]
    omega
  fqdn := by
    have hcut := length_dropSpaces_le ((line.toList.drop addressWidth).take fqdnWidth)
    have htake := List.length_take_le fqdnWidth (line.toList.drop addressWidth)
    unfold ofLine
    rw [← String.length_toList, String.toList_ofList]
    omega
  ends := by
    have hends : ∀ cs, EndsInText (String.ofList (dropSpaces cs)) := by
      intro cs
      unfold EndsInText
      rw [String.toList_ofList, ← dropSpaces_eq_self_iff]
      exact List.rdropWhile_idempotent _ cs
    simp only [ofLine, List.forall_mem_cons, hends, true_and]
    exact nofun

/-- **When an entry is cut out of its line.** -/
theorem ofLine_line_eq_iff : ofLine e.line = e ↔ e.InColumns := by
  constructor
  · -- an entry that is cut out of a line fits, so one that does not fit is not found again
    intro h
    rw [← h]
    exact inColumns_ofLine e.line
  · intro h
    have haddress : EndsInText e.address := h.ends _ (by simp)
    have hfqdn : EndsInText e.fqdn := h.ends _ (by simp)
    have hhostname : EndsInText e.hostname := h.ends _ (by simp)
    rw [ofLine_line h.address h.fqdn, ofList_dropSpaces_iff.mpr haddress,
      ofList_dropSpaces_iff.mpr hfqdn, ofList_dropSpaces_iff.mpr hhostname]

theorem eq_of_line_eq {e' : Entry} (h : e.InColumns) (h' : e'.InColumns)
    (hline : e.line = e'.line) : e = e' := by
  have hcut : ofLine e.line = ofLine e'.line := congrArg ofLine hline
  rwa [ofLine_line_eq_iff.mpr h, ofLine_line_eq_iff.mpr h'] at hcut

end Entry

/--
**Where the texts of an entry stand in its line.** Take any three texts. Their line has as many
characters as the texts and the columns call for, of each pair the wider. It starts with the
address. The full name begins behind the column of the address, or behind the address if that is
wider, and the short name begins in the same way behind the full name. Every other character is a
space.

Cutting the line at the ends of the first two columns and taking the spaces off behind each part
gives the three texts back exactly if the address has at most 19 characters and the full name at
most 81, and none of the three ends in a space. So no two such entries have the same line.
-/
theorem line_in_columns (e : Entry) :
    e.line.length = max 19 e.address.length + max 81 e.fqdn.length + max 17 e.hostname.length
    ∧ e.fqdnStart = max 19 e.address.length
    ∧ e.hostnameStart = max 19 e.address.length + max 81 e.fqdn.length
    ∧ e.address.toList <+: e.line.toList
    ∧ e.fqdn.toList <+: e.line.toList.drop e.fqdnStart
    ∧ e.hostname.toList <+: e.line.toList.drop e.hostnameStart
    ∧ (∀ i c, e.line.toList[i]? = some c → ¬ e.Covers i → c = ' ')
    ∧ (Entry.ofLine e.line = e ↔ e.InColumns)
    ∧ ∀ e' : Entry, e.InColumns → e'.InColumns → e.line = e'.line → e = e' := by
  refine ⟨e.length_line, rfl, rfl, ?_, ?_, ?_, fun i c hc hout => ?_, Entry.ofLine_line_eq_iff,
    fun e' h h' hline => Entry.eq_of_line_eq h h' hline⟩
  · rw [Entry.toList_line]
    exact (Entry.prefix_padded _ _).trans (List.prefix_append _ _)
  · rw [Entry.drop_fqdnStart]
    exact (Entry.prefix_padded _ _).trans (List.prefix_append _ _)
  · rw [Entry.drop_hostnameStart]
    exact Entry.prefix_padded _ _
  · exact (e.space_or_covers hc).resolve_right hout

/-- An entry whose address fills its column, with letters that are more than one octet long. -/
def fullColumnEntry : Entry := ⟨"2001:db8:111:222::1", "dbß.contoso.com", "dbß"⟩

/-- The same letters with the border between address and full name in another place. -/
def shiftedEntry : Entry := ⟨"2001:db8:111:222::", "1dbß.contoso.com", "dbß"⟩

/-- There is no blank between the address and the full name, but whoever cuts the line at its
columns finds the border between the two. -/
theorem fullColumnEntry_in_columns :
    fullColumnEntry.InColumns
      ∧ shiftedEntry.InColumns
      ∧ fullColumnEntry.line.length = 117
      ∧ fullColumnEntry.line.toList[19]? = some 'd'
      ∧ Entry.ofLine fullColumnEntry.line = fullColumnEntry
      ∧ fullColumnEntry.line ≠ shiftedEntry.line := by
  have hfull : fullColumnEntry.InColumns := ⟨by decide, by decide, by decide⟩
  have hshifted : shiftedEntry.InColumns := ⟨by decide, by decide, by decide⟩
  obtain ⟨hlength, -, -, -, -, -, -, hcut, hinjective⟩ := line_in_columns fullColumnEntry
  refine ⟨hfull, hshifted, hlength.trans (by decide), by decide +kernel, hcut.mpr hfull,
    fun hline => ?_⟩
  exact absurd (hinjective shiftedEntry hfull hshifted hline) (by decide)

end HostsBlock
