import HostsBlock.Address
import HostsBlock.Proofs.BlankFree
import Mathlib.Data.List.Forall2

/-!
# What the texts of addresses look like

An address is made of numbers with dots or colons between them, and the reader takes it apart at
these marks. So what is true of digits and of the marks is true of every character of an address.
There are no blanks in it, for one, and it does not begin like a comment. And four numbers of three
digits at most with three dots between them make a short text, shorter than the column for addresses
in a hosts file; eight groups of four digits do not.
-/

namespace HostsBlock

open Text

/-! ## Texts in parts -/

/-- What holds of a mark and of all characters between marks holds of all characters. -/
theorem forall_of_splitOn {p : Char → Prop} {mark : Char} (hmark : p mark) {cs : List Char}
    (h : ∀ part ∈ cs.splitOn mark, ∀ c ∈ part, p c) : ∀ c ∈ cs, p c := by
  induction cs with
  | nil => intro c hc; exact absurd hc (by simp)
  | cons c cs ih =>
      rw [List.splitOn_cons_eq_if_modifyHead] at h
      split at h
      · rename_i hc
        rw [beq_iff_eq] at hc
        refine List.forall_mem_cons.mpr ⟨hc ▸ hmark, ih fun part hpart => ?_⟩
        exact h part (List.mem_cons_of_mem _ hpart)
      · -- the character belongs to the first part
        obtain ⟨part, parts, hparts⟩ := List.exists_cons_of_ne_nil (List.splitOn_ne_nil mark cs)
        rw [hparts, List.modifyHead_cons, List.forall_mem_cons] at h
        obtain ⟨hc, hpart⟩ := List.forall_mem_cons.mp h.1
        refine List.forall_mem_cons.mpr ⟨hc, ih ?_⟩
        rw [hparts]
        exact List.forall_mem_cons.mpr ⟨hpart, h.2⟩

/-- A text is as long as its parts, with a mark between each two of them. -/
theorem length_succ_eq_splitOn (mark : Char) (cs : List Char) :
    cs.length + 1 = (cs.splitOn mark).flatten.length + (cs.splitOn mark).length := by
  induction cs with
  | nil => rfl
  | cons c cs ih =>
      rw [List.splitOn_cons_eq_if_modifyHead]
      split
      · rw [List.flatten_cons, List.nil_append, List.length_cons, List.length_cons]
        omega
      · obtain ⟨part, parts, hparts⟩ := List.exists_cons_of_ne_nil (List.splitOn_ne_nil mark cs)
        rw [hparts, List.flatten_cons, List.length_append, List.length_cons] at ih
        rw [hparts, List.modifyHead_cons, List.flatten_cons, List.length_append, List.length_cons,
          List.length_cons, List.length_cons]
        omega

/-- Reading all elements of a list is reading each. -/
theorem forall₂_of_mapM {α β : Type} {f : α → Option β} {xs : List α} {ys : List β}
    (h : xs.mapM f = some ys) : List.Forall₂ (f · = some ·) xs ys := by
  induction xs generalizing ys with
  | nil =>
      obtain rfl := Option.some.inj h
      exact .nil
  | cons x xs ih =>
      rw [List.mapM_cons] at h
      obtain ⟨y, hy, hrest⟩ := Option.bind_eq_some_iff.mp h
      obtain ⟨ys', hys, heq⟩ := Option.bind_eq_some_iff.mp hrest
      obtain rfl := Option.some.inj heq
      exact .cons hy (ih hys)

namespace Address

/-! ## Characters -/

/-- A hexadecimal digit or one of the two marks. -/
def IsAddressChar (c : Char) : Prop := isDigitOf 16 c = true ∨ c = '.' ∨ c = ':'

theorem number?_addressChars {base n : Nat} (hbase : base ≤ 16) {cs : List Char}
    (h : number? base cs = some n) : ∀ c ∈ cs, IsAddressChar c := by
  unfold number? at h
  split at h
  · rename_i hdigits
    rw [Bool.and_eq_true, List.all_eq_true] at hdigits
    intro c hc
    have hdigit := hdigits.2 c hc
    unfold isDigitOf at hdigit
    obtain ⟨value, hvalue, hlt⟩ := (Option.any_eq_true _ _).mp hdigit
    have hvalue16 : value < 16 := Nat.lt_of_lt_of_le (of_decide_eq_true hlt) hbase
    refine Or.inl ?_
    unfold isDigitOf
    rw [hvalue, Option.any_some]
    exact decide_eq_true hvalue16
  · exact absurd h (by simp)

theorem octet?_addressChars {n : Nat} {cs : List Char} (h : octet? cs = some n) :
    ∀ c ∈ cs, IsAddressChar c := by
  unfold octet? at h
  split at h
  · exact absurd h (by simp)
  · exact number?_addressChars (by decide) (Option.filter_eq_some_iff.mp h).1

theorem octets_addressChars {parts : List (List Char)} {octets : List Nat}
    (h : List.Forall₂ (octet? · = some ·) parts octets) :
    ∀ part ∈ parts, ∀ c ∈ part, IsAddressChar c := by
  induction h with
  | nil => intro part hpart; exact absurd hpart (by simp)
  | cons hn _ ih => exact List.forall_mem_cons.mpr ⟨octet?_addressChars hn, ih⟩

theorem bits4?_addressChars {bits : BitVec 32} {cs : List Char} (h : bits4? cs = some bits) :
    ∀ c ∈ cs, IsAddressChar c := by
  unfold bits4? at h
  obtain ⟨octets, hoctets, -⟩ := Option.bind_eq_some_iff.mp h
  exact forall_of_splitOn (Or.inr (Or.inl rfl)) (octets_addressChars (forall₂_of_mapM hoctets))

theorem group?_addressChars {n : Nat} {cs : List Char} (h : group? cs = some n) :
    ∀ c ∈ cs, IsAddressChar c := by
  unfold group? at h
  split at h
  · exact number?_addressChars (by decide) h
  · exact absurd h (by simp)

theorem groupsOfParts?_addressChars {embed : Bool} {parts : List (List Char)} {groups : List Nat}
    (h : groupsOfParts? embed parts = some groups) :
    ∀ part ∈ parts, ∀ c ∈ part, IsAddressChar c := by
  fun_induction groupsOfParts? embed parts generalizing groups with
  | case1 => intro part hpart; exact absurd hpart (by simp)
  | case2 embed last bits hbits =>
      refine List.forall_mem_singleton.mpr ?_
      cases embed with
      | false => exact absurd hbits (by simp)
      | true => exact bits4?_addressChars hbits
  | case3 embed last hbits =>
      obtain ⟨n, hn, -⟩ := Option.map_eq_some_iff.mp h
      exact List.forall_mem_singleton.mpr (group?_addressChars hn)
  | case4 embed part rest hrest ih =>
      obtain ⟨n, hn, hbind⟩ := Option.bind_eq_some_iff.mp h
      obtain ⟨ns, hns, -⟩ := Option.bind_eq_some_iff.mp hbind
      exact List.forall_mem_cons.mpr ⟨group?_addressChars hn, ih hns⟩

theorem groups?_addressChars {embed : Bool} {cs : List Char} {groups : List Nat}
    (h : groups? embed cs = some groups) : ∀ c ∈ cs, IsAddressChar c := by
  unfold groups? at h
  split at h
  · rename_i hempty
    rw [List.isEmpty_iff.mp hempty]
    intro c hc
    exact absurd hc (by simp)
  · exact forall_of_splitOn (Or.inr (Or.inr rfl)) (groupsOfParts?_addressChars h)

/-- Nothing but the double colon is lost when a text is taken apart at it. -/
theorem splitGap?_eq_some {cs head tail : List Char} (h : splitGap? cs = some (head, tail)) :
    cs = head ++ ':' :: ':' :: tail := by
  fun_induction splitGap? cs generalizing head tail with
  | case1 rest =>
      obtain ⟨rfl, rfl⟩ := Prod.mk.inj (Option.some.inj h)
      rfl
  | case2 c rest hgap ih =>
      obtain ⟨⟨head', tail'⟩, hrest, heq⟩ := Option.map_eq_some_iff.mp h
      obtain ⟨rfl, rfl⟩ := Prod.mk.inj heq
      rw [ih hrest]
      rfl
  | case3 => exact absurd h (by simp)

theorem bits6?_addressChars {bits : BitVec 128} {cs : List Char} (h : bits6? cs = some bits) :
    ∀ c ∈ cs, IsAddressChar c := by
  unfold bits6? at h
  obtain ⟨groups, hgroups, -⟩ := Option.map_eq_some_iff.mp h
  unfold allGroups? at hgroups
  split at hgroups
  · exact groups?_addressChars (Option.filter_eq_some_iff.mp hgroups).1
  · rename_i head tail hsplit
    obtain ⟨hs, hhead, hrest⟩ := Option.bind_eq_some_iff.mp hgroups
    obtain ⟨ts, htail, -⟩ := Option.bind_eq_some_iff.mp hrest
    have hcolon : IsAddressChar ':' := Or.inr (Or.inr rfl)
    have hgap := List.forall_mem_cons.mpr
      ⟨hcolon, List.forall_mem_cons.mpr ⟨hcolon, groups?_addressChars htail⟩⟩
    rw [splitGap?_eq_some hsplit]
    exact List.forall_mem_append.mpr ⟨groups?_addressChars hhead, hgap⟩

/-- **Addresses are made of hexadecimal digits, dots and colons.** -/
theorem parse?_addressChars {s : String} (h : (parse? s).isSome = true) :
    ∀ c ∈ s.toList, IsAddressChar c := by
  unfold parse? at h
  split at h
  · rename_i bits hbits
    exact bits4?_addressChars hbits
  · rw [Option.isSome_map] at h
    obtain ⟨bits, hbits⟩ := Option.isSome_iff_exists.mp h
    exact bits6?_addressChars hbits

theorem IsAddressChar.isBlank_eq_false {c : Char} (h : IsAddressChar c) : isBlank c = false := by
  rcases h with hdigit | rfl | rfl
  · exact isBlank_eq_false_of_isDigitOf hdigit
  · decide
  · decide

theorem IsAddressChar.ne_sharp {c : Char} (h : IsAddressChar c) : c ≠ '#' := by
  rintro rfl
  rcases h with hdigit | hdot | hcolon
  · exact absurd hdigit (by decide)
  · exact absurd hdot (by decide)
  · exact absurd hcolon (by decide)

theorem parse?_blankFree {s : String} (h : (parse? s).isSome = true) : BlankFree s.toList :=
  fun c hc => (parse?_addressChars h c hc).isBlank_eq_false

/-- The empty text is no address. -/
theorem ne_empty_of_parse? {s : String} (h : (parse? s).isSome = true) : s ≠ "" := by
  rintro rfl
  exact absurd h (by decide)

/-! ## How long an IPv4 address is -/

theorem octet?_length {n : Nat} {cs : List Char} (h : octet? cs = some n) : cs.length ≤ 3 := by
  unfold octet? at h
  split at h
  · exact absurd h (by simp)
  · rename_i hlong
    simp only [Bool.or_eq_true, decide_eq_true_eq, not_or] at hlong
    omega

theorem octets_length {parts : List (List Char)} {octets : List Nat}
    (h : List.Forall₂ (octet? · = some ·) parts octets) :
    parts.flatten.length + parts.length ≤ 4 * octets.length := by
  induction h with
  | nil => exact Nat.zero_le _
  | cons hn _ ih =>
      have hpart := octet?_length hn
      rw [List.flatten_cons, List.length_append, List.length_cons, List.length_cons]
      omega

/-- Four numbers of at most three digits and three dots make at most 15 characters. -/
theorem bits4?_length {bits : BitVec 32} {cs : List Char} (h : bits4? cs = some bits) :
    cs.length ≤ 15 := by
  unfold bits4? at h
  obtain ⟨octets, hoctets, hfour⟩ := Option.bind_eq_some_iff.mp h
  split at hfour
  · rename_i hcount
    have hparts := octets_length (forall₂_of_mapM hoctets)
    rw [← length_succ_eq_splitOn] at hparts
    omega
  · exact absurd hfour (by simp)

/-- **IPv4 addresses are short.** -/
theorem length_le_of_parse?_v4 {s : String} {bits : BitVec 32} (h : parse? s = some (.v4 bits)) :
    s.length ≤ 15 := by
  unfold parse? at h
  split at h
  · rename_i hbits
    rw [← String.length_toList]
    exact bits4?_length hbits
  · obtain ⟨bits6, -, heq⟩ := Option.map_eq_some_iff.mp h
    exact absurd heq (by simp)

end Address

end HostsBlock
