import Mathlib.Data.String.Basic

/-!
# The order of octets

Names are put in order by their code points, but whoever sorts the same names outside, with a tool
that knows nothing of characters, compares the octets that they are stored as. Both come to the same
order, `octets_lt_iff`, and that is a property of UTF-8.

A code point is stored as its digits in base 64, the highest first. The leading octet also tells how
many digits there are, and more digits make a larger leading octet. So **the octets of two
different characters differ in the same direction as the characters do**, and whatever comes behind
them no longer matters; this is `codeOctets_append_lt`.
-/

namespace HostsBlock.Text

/-- The octets in which a text is stored, in UTF-8. -/
def octets (s : String) : List UInt8 := s.toUTF8.data.toList

/-- The octets of a code point. -/
def codeOctets (n : Nat) : List UInt8 :=
  if n ≤ 0x7F then [.ofNat n]
  else if n ≤ 0x7FF then [.ofNat (n / 64 + 0xC0), .ofNat (n % 64 + 0x80)]
  else if n ≤ 0xFFFF then
    [.ofNat (n / 4096 + 0xE0), .ofNat (n / 64 % 64 + 0x80), .ofNat (n % 64 + 0x80)]
  else
    [.ofNat (n / 262144 + 0xF0), .ofNat (n / 4096 % 64 + 0x80), .ofNat (n / 64 % 64 + 0x80),
      .ofNat (n % 64 + 0x80)]

/-! ## One character -/

theorem toNat_lt (c : Char) : c.toNat < 0x110000 := by
  rcases c.valid with h | h
  · exact Nat.lt_trans h (by decide)
  · exact h.2

theorem utf8EncodeChar_eq (c : Char) : String.utf8EncodeChar c = codeOctets c.toNat := by
  have hc := toNat_lt c
  unfold Char.toNat at *
  unfold String.utf8EncodeChar
  dsimp only
  -- the bound makes the cuts that keep a leading digit in its octet do nothing
  fun_cases codeOctets c.val.toNat with
  | case1 h => rw [if_pos h]
  | case2 h h' => rw [if_neg h, if_pos h', Nat.mod_eq_of_lt (b := 0x20) (by omega)]
  | case3 h h' h'' =>
      rw [if_neg h, if_neg h', if_pos h'', Nat.mod_eq_of_lt (b := 0x10) (by omega)]
  | case4 h h' h'' =>
      rw [if_neg h, if_neg h', if_neg h'', Nat.mod_eq_of_lt (b := 0x8) (by omega)]

theorem codeOctets_ne_nil (n : Nat) : codeOctets n ≠ [] := by
  unfold codeOctets
  split_ifs <;> simp

theorem ofNat_cons_lt_iff {a b : Nat} (ha : a < 256) (hb : b < 256) (xs ys : List UInt8) :
    UInt8.ofNat a :: xs < UInt8.ofNat b :: ys ↔ a < b ∨ a = b ∧ xs < ys := by
  rw [List.cons_lt_cons_iff, UInt8.lt_iff_toNat_lt, ← UInt8.toNat_inj,
    UInt8.toNat_ofNat_of_lt' ha, UInt8.toNat_ofNat_of_lt' hb]

/-- The smaller code point has the smaller octets, whatever comes behind. -/
theorem codeOctets_append_lt {m n : Nat} (h : m < n) (hn : n < 0x110000) (xs ys : List UInt8) :
    codeOctets m ++ xs < codeOctets n ++ ys := by
  -- unequal numbers of octets show in the leading one, equal ones in a digit of base 64
  fun_cases codeOctets m <;> fun_cases codeOctets n <;>
    simp (disch := omega) only [List.cons_append, List.nil_append, ofNat_cons_lt_iff] <;> omega

/-! ## Texts -/

theorem octets_eq (s : String) :
    octets s = s.toList.flatMap fun c => codeOctets c.toNat := by
  have hencode := String.toByteArray_ofList (l := s.toList)
  rw [String.ofList_toList] at hencode
  show s.toByteArray.data.toList = _
  rw [hencode, List.utf8Encode, List.data_toByteArray]
  exact congrArg (s.toList.flatMap ·) (funext utf8EncodeChar_eq)

theorem flatMap_codeOctets_lt {cs ds : List Char} (h : cs < ds) :
    (cs.flatMap fun c => codeOctets c.toNat) < ds.flatMap fun c => codeOctets c.toNat := by
  induction h with
  | @nil d ds =>
      obtain ⟨first, rest, hfirst⟩ := List.exists_cons_of_ne_nil (codeOctets_ne_nil d.toNat)
      rw [List.flatMap_nil, List.flatMap_cons, hfirst]
      exact List.nil_lt_cons _ _
  | cons _ ih =>
      rw [List.flatMap_cons, List.flatMap_cons]
      exact List.append_left_lt ih
  | @rel c cs d ds hcd =>
      rw [List.flatMap_cons, List.flatMap_cons]
      exact codeOctets_append_lt hcd (toNat_lt d) _ _

/-- **Code points and octets put texts in the same order.** -/
theorem octets_lt_iff {s t : String} : octets s < octets t ↔ s < t := by
  have hmono : ∀ {s t : String}, s < t → octets s < octets t := by
    intro s t h
    rw [octets_eq, octets_eq]
    exact flatMap_codeOctets_lt h
  refine ⟨fun h => ?_, hmono⟩
  -- the order of code points is total, so its converse need not be looked at
  rcases lt_trichotomy s t with hlt | rfl | hgt
  · exact hlt
  · exact absurd h (List.lt_irrefl _)
  · exact absurd h (List.lt_asymm (hmono hgt))

end HostsBlock.Text
