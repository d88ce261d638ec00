import HostsBlock.Network

/-!
# Blocks of addresses

`AddressBlock.overlaps` looks at two addresses only: the lowest of either block, and whether the
other block holds it. This file shows that this decides whether the blocks have *any* address in
common.

The reason is that blocks are **laminar**. Two addresses in one block agree in its leading bits, so
they agree in any shorter run of leading bits too. Hence, as soon as two blocks share one address,
the one with more leading bits lies inside the other altogether, its lowest address included.

The facts about networks of either family are those about blocks, family by family; two networks of
different families have no address in common because no address is of both families. They end with
`networks_laminar`, which says what a comparison of two networks is worth.
-/

namespace HostsBlock

/-! ## Blocks of one width -/

namespace AddressBlock

variable {w : Nat}

/-- A block holds the addresses that agree with its own in the leading bits. -/
theorem contains_iff {b : AddressBlock w} {x : BitVec w} :
    b.contains x = true ↔ x >>> b.hostBits = b.address >>> b.hostBits := by
  unfold contains
  exact beq_iff_eq

/-- Addresses that agree in some leading bits agree in fewer of them. -/
theorem shiftRight_eq_of_le {x y : BitVec w} {m n : Nat} (hmn : m ≤ n)
    (h : x >>> m = y >>> m) : x >>> n = y >>> n := by
  obtain ⟨k, rfl⟩ := Nat.exists_eq_add_of_le hmn
  rw [BitVec.shiftRight_add, BitVec.shiftRight_add, h]

/-- Clearing the other bits leaves the leading ones as they are. -/
theorem base_shiftRight (b : AddressBlock w) :
    b.base >>> b.hostBits = b.address >>> b.hostBits := by
  -- as numbers: the shifts divide and multiply by one power of two, and nothing is cut off
  refine BitVec.eq_of_toNat_eq ?_
  unfold base
  rw [BitVec.toNat_ushiftRight, BitVec.toNat_shiftLeft, BitVec.toNat_ushiftRight,
    Nat.shiftLeft_eq, Nat.shiftRight_eq_div_pow, Nat.shiftRight_eq_div_pow]
  have hle : b.address.toNat / 2 ^ b.hostBits * 2 ^ b.hostBits ≤ b.address.toNat :=
    Nat.div_mul_le_self _ _
  rw [Nat.mod_eq_of_lt (Nat.lt_of_le_of_lt hle b.address.isLt)]
  exact Nat.mul_div_cancel _ (Nat.two_pow_pos _)

theorem hostBits_le {a b : AddressBlock w} (h : b.length ≤ a.length) :
    a.hostBits ≤ b.hostBits := by
  unfold hostBits
  omega

/-- The lowest address of a block lies in it. -/
theorem contains_base (b : AddressBlock w) : b.contains b.base = true :=
  contains_iff.mpr (base_shiftRight b)

/--
**Blocks are laminar.** As soon as two blocks share an address, the one in which more bits count
lies inside the other.
-/
theorem contains_of_common {a b : AddressBlock w} {x y : BitVec w}
    (hbits : a.hostBits ≤ b.hostBits) (hax : a.contains x = true) (hbx : b.contains x = true)
    (hay : a.contains y = true) : b.contains y = true := by
  rw [contains_iff] at hax hbx hay ⊢
  have hyx : y >>> b.hostBits = x >>> b.hostBits :=
    shiftRight_eq_of_le hbits (by rw [hay, hax])
  rw [hyx, hbx]

/-- **The two lowest addresses decide whether blocks share one.** -/
theorem overlaps_iff (a b : AddressBlock w) :
    a.overlaps b = true ↔ ∃ x, a.contains x = true ∧ b.contains x = true := by
  unfold overlaps
  rw [Bool.or_eq_true]
  constructor
  · intro h
    rcases h with h | h
    · exact ⟨b.base, h, contains_base b⟩
    · exact ⟨a.base, contains_base a, h⟩
  · intro h
    obtain ⟨x, ha, hb⟩ := h
    -- one of the blocks lies inside the other, and its lowest address with it
    rcases Nat.le_total a.hostBits b.hostBits with hbits | hbits
    · exact Or.inr (contains_of_common hbits ha hb (contains_base a))
    · exact Or.inl (contains_of_common hbits hb ha (contains_base b))

end AddressBlock

/-! ## Networks of either family -/

namespace Network

/-- Networks that share an address are of one family. -/
theorem isV4_eq_of_common {m n : Network} {x : Address}
    (hm : m.contains x = true) (hn : n.contains x = true) : m.isV4 = n.isV4 := by
  cases m with
  | v4 a =>
      cases n with
      | v4 b => rfl
      | v6 b => cases x <;> simp [contains] at hm hn
  | v6 a =>
      cases n with
      | v4 b => cases x <;> simp [contains] at hm hn
      | v6 b => rfl

/-- **Networks overlap exactly when they have an address in common.** -/
theorem overlaps_iff (m n : Network) :
    m.overlaps n = true ↔ ∃ x : Address, m.contains x = true ∧ n.contains x = true := by
  constructor
  · intro h
    cases m with
    | v4 a =>
        cases n with
        | v4 b =>
            obtain ⟨x, ha, hb⟩ := (AddressBlock.overlaps_iff a b).mp h
            exact ⟨.v4 x, ha, hb⟩
        | v6 b => exact absurd h (by simp [overlaps])
    | v6 a =>
        cases n with
        | v4 b => exact absurd h (by simp [overlaps])
        | v6 b =>
            obtain ⟨x, ha, hb⟩ := (AddressBlock.overlaps_iff a b).mp h
            exact ⟨.v6 x, ha, hb⟩
  · intro h
    obtain ⟨x, hm, hn⟩ := h
    -- what both hold is of the family of both, so only the cases of one family are left
    have hfamily := isV4_eq_of_common hm hn
    cases m with
    | v4 a =>
        cases n with
        | v4 b =>
            cases x with
            | v4 x => exact (AddressBlock.overlaps_iff a b).mpr ⟨x, hm, hn⟩
            | v6 x => exact absurd hm (by simp [contains])
        | v6 b => exact absurd hfamily (by simp [isV4])
    | v6 a =>
        cases n with
        | v4 b => exact absurd hfamily (by simp [isV4])
        | v6 b =>
            cases x with
            | v4 x => exact absurd hm (by simp [contains])
            | v6 x => exact (AddressBlock.overlaps_iff a b).mpr ⟨x, hm, hn⟩

/-! ## One network inside another -/

/-- All addresses of a network lie in another one. -/
def Within (m n : Network) : Prop := ∀ x : Address, m.contains x = true → n.contains x = true

/-- The lowest address of a network. -/
def base : Network → Address
  | .v4 block => .v4 block.base
  | .v6 block => .v6 block.base

/-- No network is empty. -/
theorem contains_base (n : Network) : n.contains n.base = true := by
  cases n with
  | v4 block => exact AddressBlock.contains_base block
  | v6 block => exact AddressBlock.contains_base block

/-- A network holds addresses of its own family only. -/
theorem contains_cases {n : Network} {x : Address} (h : n.contains x = true) :
    (∃ block bits, n = .v4 block ∧ x = .v4 bits ∧ block.contains bits = true)
    ∨ (∃ block bits, n = .v6 block ∧ x = .v6 bits ∧ block.contains bits = true) := by
  cases n with
  | v4 block =>
      cases x with
      | v4 bits => exact Or.inl ⟨block, bits, rfl, rfl, h⟩
      | v6 bits => exact absurd h (by simp [contains])
  | v6 block =>
      cases x with
      | v4 bits => exact absurd h (by simp [contains])
      | v6 bits => exact Or.inr ⟨block, bits, rfl, rfl, h⟩

/-- Of two networks with a common address, the one in which more bits count lies in the other. -/
theorem within_of_common {m n : Network} {x : Address} (hlength : n.length ≤ m.length)
    (hm : m.contains x = true) (hn : n.contains x = true) : m.Within n := by
  intro y hy
  rcases contains_cases hm with ⟨a, x, rfl, rfl, hax⟩ | ⟨a, x, rfl, rfl, hax⟩
  · obtain ⟨_, y, ha, rfl, hay⟩ | ⟨_, _, ha, _⟩ := contains_cases hy
    · obtain rfl := Network.v4.inj ha
      obtain ⟨b, _, rfl, hx, hbx⟩ | ⟨_, _, _, hx, _⟩ := contains_cases hn
      · obtain rfl := Address.v4.inj hx
        exact AddressBlock.contains_of_common (AddressBlock.hostBits_le hlength) hax hbx hay
      · exact absurd hx (by simp)
    · exact absurd ha (by simp)
  · obtain ⟨_, _, ha, _⟩ | ⟨_, y, ha, rfl, hay⟩ := contains_cases hy
    · exact absurd ha (by simp)
    · obtain rfl := Network.v6.inj ha
      obtain ⟨_, _, _, hx, _⟩ | ⟨b, _, rfl, hx, hbx⟩ := contains_cases hn
      · exact absurd hx (by simp)
      · obtain rfl := Address.v6.inj hx
        exact AddressBlock.contains_of_common (AddressBlock.hostBits_le hlength) hax hbx hay

theorem overlaps_iff_within (m n : Network) :
    m.overlaps n = true ↔ m.Within n ∨ n.Within m := by
  rw [overlaps_iff]
  constructor
  · rintro ⟨x, hm, hn⟩
    rcases Nat.le_total m.length n.length with hlength | hlength
    · exact Or.inr (within_of_common hlength hn hm)
    · exact Or.inl (within_of_common hlength hm hn)
  · rintro (hwithin | hwithin)
    · exact ⟨m.base, contains_base m, hwithin _ (contains_base m)⟩
    · exact ⟨n.base, hwithin _ (contains_base n), contains_base n⟩

theorem overlaps_comm (m n : Network) : m.overlaps n = n.overlaps m := by
  rw [Bool.eq_iff_iff, overlaps_iff_within, overlaps_iff_within, or_comm]

theorem overlaps_self (n : Network) : n.overlaps n = true :=
  (overlaps_iff_within n n).mpr (Or.inl fun _ h => h)

end Network

/--
**What a comparison of two networks is worth.** Two networks of any families and lengths overlap
exactly if they have an address in common, and this is the case exactly if one of them lies in the
other with all its addresses. So overlapping is symmetric, every network overlaps itself, and
networks of different families do not overlap.
-/
theorem networks_laminar (m n : Network) :
    (m.overlaps n = true ↔ ∃ x : Address, m.contains x = true ∧ n.contains x = true)
    ∧ (m.overlaps n = true ↔
      (∀ x : Address, m.contains x = true → n.contains x = true)
      ∨ ∀ x : Address, n.contains x = true → m.contains x = true)
    ∧ m.overlaps n = n.overlaps m
    ∧ n.overlaps n = true
    ∧ (m.isV4 ≠ n.isV4 → m.overlaps n = false) := by
  refine ⟨Network.overlaps_iff m n, Network.overlaps_iff_within m n, Network.overlaps_comm m n,
    Network.overlaps_self n, fun hfamily => ?_⟩
  rw [Bool.eq_false_iff, Ne, Network.overlaps_iff]
  rintro ⟨x, hm, hn⟩
  exact hfamily (Network.isV4_eq_of_common hm hn)

end HostsBlock
