import HostsBlock.Proofs.AddressText
import HostsBlock.Proofs.Blocks
import Mathlib.Algebra.Group.Nat.Defs

/-!
# When an address lies in a network

`AddressBlock.contains` shifts bits away and compares what is left. Those who write networks think
of numbers: a network is a range of addresses, which begins at a multiple of its size. This file
shows that the two are the same for every length, from no bit that counts to all of them. The bits
that do not count have no say in where the range begins.

The second half is about the texts. A network is written as an address, a slash and a length, and
what stands in front of the slash enters through the range alone. So **any address of a network may
stand for it**: put in front of the slash, it gives a network with the same addresses. Without a
slash a text stands for one address, and only that address lies in the network.
-/

namespace HostsBlock

/-! ## Numbers -/

/-- Two numbers have the same quotient exactly if the one lies in the range of the other. -/
theorem div_eq_div_iff_between {x a size : Nat} (hsize : 0 < size) :
    x / size = a / size ↔ a - a % size ≤ x ∧ x ≤ a - a % size + size - 1 := by
  -- the range of all numbers with this quotient begins here
  have hstart : a / size * size = a - a % size := by
    have hsum := Nat.div_add_mod a size
    rw [Nat.mul_comm] at hsum
    omega
  rw [Nat.div_eq_iff hsize, hstart]

/-- **A block is a range of numbers**, from the multiple of its size at or below its address. -/
theorem AddressBlock.contains_iff_between {w : Nat} (b : AddressBlock w) (x : BitVec w) :
    b.contains x = true ↔
      b.address.toNat - b.address.toNat % 2 ^ b.hostBits ≤ x.toNat
      ∧ x.toNat ≤ b.address.toNat - b.address.toNat % 2 ^ b.hostBits + 2 ^ b.hostBits - 1 := by
  rw [contains_iff, ← div_eq_div_iff_between (Nat.two_pow_pos b.hostBits), ← BitVec.toNat_inj,
    BitVec.toNat_ushiftRight, BitVec.toNat_ushiftRight, Nat.shiftRight_eq_div_pow,
    Nat.shiftRight_eq_div_pow]

namespace Address

/-- Whether an address is an IPv4 address. -/
def isV4 : Address → Bool
  | .v4 _ => true
  | .v6 _ => false

/-- The number that the bits of an address make. -/
def toNat : Address → Nat
  | .v4 bits => bits.toNat
  | .v6 bits => bits.toNat

end Address

namespace Network

/-- The number of bits of an address in a network. -/
def width : Network → Nat
  | .v4 _ => 32
  | .v6 _ => 128

/-- The address that a network is given by, with all its bits. -/
def address : Network → Address
  | .v4 block => .v4 block.address
  | .v6 block => .v6 block.address

/-- How many addresses lie in a network. -/
def size (n : Network) : Nat := 2 ^ (n.width - n.length)

/-- The number of the lowest address of a network. -/
def lowest (n : Network) : Nat := n.address.toNat - n.address.toNat % n.size

/-- The number of the highest address of a network. -/
def highest (n : Network) : Nat := n.lowest + n.size - 1

/-- **A network is a range of addresses of its family.** -/
theorem contains_iff_between (n : Network) (a : Address) :
    n.contains a = true ↔ a.isV4 = n.isV4 ∧ n.lowest ≤ a.toNat ∧ a.toNat ≤ n.highest := by
  cases n with
  | v4 block =>
      cases a with
      | v4 bits =>
          have hrange := AddressBlock.contains_iff_between block bits
          exact hrange.trans (and_iff_right rfl).symm
      | v6 bits =>
          refine iff_of_false (by simp [contains]) ?_
          rintro ⟨hfamily, -⟩
          exact absurd hfamily (by simp [Address.isV4, isV4])
  | v6 block =>
      cases a with
      | v4 bits =>
          refine iff_of_false (by simp [contains]) ?_
          rintro ⟨hfamily, -⟩
          exact absurd hfamily (by simp [Address.isV4, isV4])
      | v6 bits =>
          have hrange := AddressBlock.contains_iff_between block bits
          exact hrange.trans (and_iff_right rfl).symm

/-- A network of some length with a given address is determined. -/
theorem contains_eq_of_common {m n : Network} {a : Address} (hlength : m.length = n.length)
    (hm : m.contains a = true) (hn : n.contains a = true) (x : Address) :
    m.contains x = n.contains x := by
  rw [Bool.eq_iff_iff]
  exact ⟨within_of_common (Nat.le_of_eq hlength.symm) hm hn x,
    within_of_common (Nat.le_of_eq hlength) hn hm x⟩

/-- The network of one address. -/
def ofAddress : Address → Network
  | .v4 bits => .v4 ⟨bits, 32, Nat.le_refl 32⟩
  | .v6 bits => .v6 ⟨bits, 128, Nat.le_refl 128⟩

theorem contains_ofAddress (a x : Address) : (ofAddress a).contains x = true ↔ x = a := by
  cases a <;> cases x <;> simp [ofAddress, contains, AddressBlock.contains, AddressBlock.hostBits]

end Network

/-! ## Blanks around a text -/

namespace Text

/-- The characters of a text without the blanks at its end. -/
def trimEnd (cs : List Char) : List Char := (cs.reverse.dropWhile isBlank).reverse

theorem dropWhile_append_cons {p : Char → Bool} {c : Char} (hc : p c = false)
    (xs ys : List Char) :
    (xs ++ c :: ys).dropWhile p = xs.dropWhile p ++ c :: ys := by
  rw [List.dropWhile_append]
  split
  · rename_i hempty
    rw [List.isEmpty_iff.mp hempty, List.dropWhile_cons_of_neg (by simp [hc]), List.nil_append]
  · rfl

/-- What stands on one side of a character that is not blank is trimmed on the other side only. -/
theorem trimChars_append_cons {c : Char} (hc : isBlank c = false) (xs ys : List Char) :
    trimChars (xs ++ c :: ys) = xs.dropWhile isBlank ++ c :: trimEnd ys := by
  unfold trimChars trimEnd
  rw [dropWhile_append_cons hc, List.reverse_append, List.reverse_cons, List.append_assoc,
    List.singleton_append, dropWhile_append_cons hc, List.reverse_append, List.reverse_cons,
    List.reverse_reverse, List.append_assoc, List.singleton_append]

theorem mem_of_mem_trimChars {c : Char} {cs : List Char} (h : c ∈ trimChars cs) : c ∈ cs := by
  unfold trimChars at h
  have hback := (List.dropWhile_sublist isBlank).subset (List.mem_reverse.mp h)
  exact (List.dropWhile_sublist isBlank).subset (List.mem_reverse.mp hback)

theorem dropWhile_isBlank_eq_self {cs : List Char}
    (h : ∀ c, cs.head? = some c → isBlank c = false) : cs.dropWhile isBlank = cs := by
  cases cs with
  | nil => rfl
  | cons c cs => exact List.dropWhile_cons_of_neg (by simp [h c rfl])

theorem dropWhile_of_blankFree {cs : List Char} (h : BlankFree cs) :
    cs.dropWhile isBlank = cs :=
  dropWhile_isBlank_eq_self fun c hc => h c (List.mem_of_mem_head? hc)

end Text

/-! ## Addresses as texts -/

namespace Address

theorem parse?_eq_v4_iff {s : String} {bits : BitVec 32} :
    parse? s = some (.v4 bits) ↔ bits4? s.toList = some bits := by
  unfold parse?
  cases bits4? s.toList with
  | some bits' => simp
  | none => simp

theorem parse?_eq_v6_iff {s : String} {bits : BitVec 128} :
    parse? s = some (.v6 bits) ↔ bits4? s.toList = none ∧ bits6? s.toList = some bits := by
  unfold parse?
  cases bits4? s.toList with
  | some bits' => simp
  | none => simp

/-- There is no slash in an address. -/
theorem slash_not_mem {s : String} {a : Address} (h : parse? s = some a) : '/' ∉ s.toList := by
  intro hmem
  have hslash := parse?_addressChars (by rw [h]; rfl) '/' hmem
  exact absurd hslash (by unfold IsAddressChar; decide)

end Address

/-! ## Networks as texts -/

namespace Network

theorem split_of_no_slash {cs : List Char} (h : '/' ∉ cs) : split cs = some (cs, none) := by
  unfold split
  rw [List.splitOn_eq_singleton h]

theorem split_slash {front back : List Char} (hfront : '/' ∉ front) (hback : '/' ∉ back) :
    split (front ++ '/' :: back) = some (front, some back) := by
  unfold split
  rw [List.splitOn_append_cons_self, List.splitOn_eq_singleton hfront,
    List.splitOn_eq_singleton hback]
  rfl

theorem split_slash_slash (front mid back : List Char) :
    split (front ++ '/' :: (mid ++ '/' :: back)) = none := by
  unfold split
  obtain ⟨x, xs, hx⟩ := List.exists_cons_of_ne_nil (List.splitOn_ne_nil '/' front)
  obtain ⟨y, ys, hy⟩ := List.exists_cons_of_ne_nil (List.splitOn_ne_nil '/' mid)
  obtain ⟨z, zs, hz⟩ := List.exists_cons_of_ne_nil (List.splitOn_ne_nil '/' back)
  rw [List.splitOn_append_cons_self, List.splitOn_append_cons_self, hx, hy, hz]
  -- three parts at least, however many there are around the two slashes
  cases xs with
  | nil => cases ys <;> rfl
  | cons x' xs => cases xs <;> rfl

theorem no_slash_of_split {front back : List Char} {parts : List Char × Option (List Char)}
    (h : split (front ++ '/' :: back) = some parts) : '/' ∉ front ∧ '/' ∉ back := by
  constructor
  · intro hmem
    obtain ⟨first, second, rfl⟩ := List.append_of_mem hmem
    rw [List.append_assoc, List.cons_append, split_slash_slash] at h
    exact absurd h (by simp)
  · intro hmem
    obtain ⟨first, second, rfl⟩ := List.append_of_mem hmem
    rw [split_slash_slash] at h
    exact absurd h (by simp)

theorem block?_eq_some_iff {w : Nat} {address : BitVec w} {length : Nat} {b : AddressBlock w} :
    block? address length = some b ↔ b.address = address ∧ b.length = length := by
  unfold block?
  split
  · rw [Option.some.injEq]
    constructor
    · rintro rfl
      exact ⟨rfl, rfl⟩
    · rintro ⟨rfl, rfl⟩
      rfl
  · rename_i hlength
    refine iff_of_false (by simp) ?_
    rintro ⟨-, rfl⟩
    exact hlength b.length_le

/-- How a network is read whose addresses are read by `bits?` and whose lengths by `length?`. -/
def blockWith? {w : Nat} (bits? : List Char → Option (BitVec w))
    (length? : List Char → Option Nat) (cs : List Char) : Option (AddressBlock w) := do
  let (address, length) ← split cs
  let bits ← bits? address
  block? bits (← match length with
    | some length => length? length
    | none => some w)

theorem block4?_eq : block4? = blockWith? Address.bits4? length4? := rfl

theorem block6?_eq : block6? = blockWith? Address.bits6? bitCount? := rfl

section

variable {w : Nat} {bits? : List Char → Option (BitVec w)} {length? : List Char → Option Nat}
  {b : AddressBlock w}

/-- In front of the one slash stands the address, behind it the length. -/
theorem blockWith?_slash_iff {front back : List Char} :
    blockWith? bits? length? (front ++ '/' :: back) = some b ↔
      ('/' ∉ front ∧ '/' ∉ back)
      ∧ bits? front = some b.address ∧ length? back = some b.length := by
  unfold blockWith?
  constructor
  · intro h
    obtain ⟨parts, hsplit, hblock⟩ := Option.bind_eq_some_iff.mp h
    obtain ⟨hfront, hback⟩ := no_slash_of_split hsplit
    rw [split_slash hfront hback] at hsplit
    obtain rfl := Option.some.inj hsplit
    obtain ⟨bits, hbits, hrest⟩ := Option.bind_eq_some_iff.mp hblock
    obtain ⟨length, hlength, hb⟩ := Option.bind_eq_some_iff.mp hrest
    obtain ⟨rfl, rfl⟩ := block?_eq_some_iff.mp hb
    exact ⟨⟨hfront, hback⟩, hbits, hlength⟩
  · rintro ⟨⟨hfront, hback⟩, hbits, hlength⟩
    rw [split_slash hfront hback]
    refine Option.bind_eq_some_iff.mpr ⟨_, rfl, Option.bind_eq_some_iff.mpr ⟨_, hbits, ?_⟩⟩
    exact Option.bind_eq_some_iff.mpr ⟨_, hlength, block?_eq_some_iff.mpr ⟨rfl, rfl⟩⟩

/-- Without a slash all bits count. -/
theorem blockWith?_of_no_slash {cs : List Char} (h : '/' ∉ cs) :
    blockWith? bits? length? cs = (bits? cs).map fun bits => ⟨bits, w, Nat.le_refl w⟩ := by
  unfold blockWith?
  rw [split_of_no_slash h]
  cases hbits : bits? cs with
  | none => simp [hbits]
  | some bits => simp [hbits, block?]

end

theorem parse?_eq_v4_iff {s : String} {b : AddressBlock 32} :
    parse? s = some (.v4 b) ↔ block4? (Text.trimChars s.toList) = some b := by
  unfold parse?
  cases block4? (Text.trimChars s.toList) with
  | some b' => simp
  | none => simp

theorem parse?_eq_v6_iff {s : String} {b : AddressBlock 128} :
    parse? s = some (.v6 b) ↔
      block4? (Text.trimChars s.toList) = none
      ∧ block6? (Text.trimChars s.toList) = some b := by
  unfold parse?
  cases block4? (Text.trimChars s.toList) with
  | some b' => simp
  | none => simp

/-- The characters of a text with a slash in it that count. -/
theorem trimChars_slash (front back : String) :
    Text.trimChars (front ++ "/" ++ back).toList
      = front.toList.dropWhile Text.isBlank ++ '/' :: Text.trimEnd back.toList := by
  rw [String.toList_append, String.toList_append, List.append_assoc]
  exact Text.trimChars_append_cons (by decide) front.toList back.toList

theorem trimChars_address_slash {s : String} {a : Address} (h : Address.parse? s = some a)
    (back : String) :
    Text.trimChars (s ++ "/" ++ back).toList = s.toList ++ '/' :: Text.trimEnd back.toList := by
  rw [trimChars_slash, Text.dropWhile_of_blankFree (Address.parse?_blankFree (by rw [h]; rfl))]

/-- **An address of a network may stand for it.** In front of the same length it gives a network of
that length in which it lies. -/
theorem parse?_of_contains {front back member : String} {n : Network} {a : Address}
    (hn : parse? (front ++ "/" ++ back) = some n) (ha : Address.parse? member = some a)
    (hin : n.contains a = true) :
    ∃ n', parse? (member ++ "/" ++ back) = some n' ∧ n'.length = n.length
      ∧ n'.contains a = true := by
  have hchars := trimChars_address_slash ha back
  have hslash := Address.slash_not_mem ha
  rcases contains_cases hin with ⟨block, bits, rfl, rfl, -⟩ | ⟨block, bits, rfl, rfl, -⟩
  · rw [parse?_eq_v4_iff, trimChars_slash, block4?_eq] at hn
    obtain ⟨⟨-, hback⟩, -, hlength⟩ := blockWith?_slash_iff.mp hn
    rw [Address.parse?_eq_v4_iff] at ha
    refine ⟨.v4 ⟨bits, block.length, block.length_le⟩, ?_, rfl, beq_self_eq_true _⟩
    rw [parse?_eq_v4_iff, hchars, block4?_eq]
    exact blockWith?_slash_iff.mpr ⟨⟨hslash, hback⟩, ha, hlength⟩
  · rw [parse?_eq_v6_iff, trimChars_slash, block6?_eq] at hn
    obtain ⟨⟨-, hback⟩, -, hlength⟩ := blockWith?_slash_iff.mp hn.2
    obtain ⟨hnone, hbits⟩ := Address.parse?_eq_v6_iff.mp ha
    refine ⟨.v6 ⟨bits, block.length, block.length_le⟩, ?_, rfl, beq_self_eq_true _⟩
    rw [parse?_eq_v6_iff, hchars, block6?_eq]
    refine ⟨Option.eq_none_iff_forall_ne_some.mpr fun b hb => ?_, ?_⟩
    · -- the text in front of the slash is an IPv6 address, so it is no IPv4 address
      rw [block4?_eq] at hb
      obtain ⟨-, hfour, -⟩ := blockWith?_slash_iff.mp hb
      exact absurd (hnone.symm.trans hfour) (by simp)
    · exact blockWith?_slash_iff.mpr ⟨⟨hslash, hback⟩, hbits, hlength⟩

/-- Without a slash a text is read as an address, blanks around it apart. -/
theorem parse?_of_no_slash {s : String} (h : '/' ∉ s.toList) :
    parse? s = (Address.parse? (Text.trim s)).map ofAddress := by
  have htrimmed : '/' ∉ Text.trimChars s.toList := fun hmem => h (Text.mem_of_mem_trimChars hmem)
  unfold parse? Address.parse? Text.trim
  rw [String.toList_ofList, block4?_eq, block6?_eq, blockWith?_of_no_slash htrimmed,
    blockWith?_of_no_slash htrimmed]
  cases Address.bits4? (Text.trimChars s.toList) with
  | some bits => rfl
  | none => cases Address.bits6? (Text.trimChars s.toList) <;> rfl

end Network

/-! ## Membership -/

theorem membership_eq_member_iff {address cidr : String} :
    membership address cidr = .member ↔
      ∃ a n, Address.parse? address = some a ∧ Network.parse? cidr = some n
        ∧ n.contains a = true := by
  unfold membership
  cases Address.parse? address with
  | none => simp
  | some a => cases Network.parse? cidr with
    | none => simp
    | some n => simp

theorem membership_eq_invalid_iff {address cidr : String} :
    membership address cidr = .invalid ↔
      Address.parse? address = none ∨ Network.parse? cidr = none := by
  unfold membership
  cases Address.parse? address with
  | none => simp
  | some a => cases Network.parse? cidr with
    | none => simp
    | some n => cases hin : n.contains a <;> simp [hin]

theorem membership_eq_of_range {address cidr : String} {a : Address} {n : Network}
    (ha : Address.parse? address = some a) (hn : Network.parse? cidr = some n) :
    membership address cidr
      = if a.isV4 = n.isV4 ∧ n.lowest ≤ a.toNat ∧ a.toNat ≤ n.highest then .member
        else .notMember := by
  unfold membership
  rw [ha, hn]
  exact if_congr (Network.contains_iff_between n a) rfl rfl

theorem membership_congr {cidr cidr' : String} {m n : Network}
    (hm : Network.parse? cidr = some m) (hn : Network.parse? cidr' = some n)
    (h : ∀ x, m.contains x = n.contains x) (address : String) :
    membership address cidr = membership address cidr' := by
  unfold membership
  rw [hm, hn]
  cases Address.parse? address with
  | none => rfl
  | some a =>
      dsimp only
      rw [h a]

theorem membership_of_no_slash {address cidr : String} (h : '/' ∉ cidr.toList) :
    membership address cidr = .member ↔
      ∃ a, Address.parse? address = some a ∧ Address.parse? (Text.trim cidr) = some a := by
  rw [membership_eq_member_iff, Network.parse?_of_no_slash h]
  constructor
  · rintro ⟨a, n, ha, hn, hin⟩
    obtain ⟨x, hx, rfl⟩ := Option.map_eq_some_iff.mp hn
    obtain rfl := (Network.contains_ofAddress x a).mp hin
    exact ⟨a, ha, hx⟩
  · rintro ⟨a, ha, hx⟩
    exact ⟨a, .ofAddress a, ha, by rw [hx]; rfl, (Network.contains_ofAddress a a).mpr rfl⟩

/--
**Membership is a matter of ranges.** It is undecided exactly if the text of the address or that of
the network stands for none. Otherwise an address is a member exactly if it is of the network's
family and its number lies in the network's range, which is that of the numbers with the same
quotient by the network's size as the number in the network's text.

Hence any member may take the place of the address in front of the slash, and no other text will
notice. And where there is no slash, a text is a member exactly if it denotes the same address.
-/
theorem membership_eq_range (address cidr : String) :
    (membership address cidr = .invalid ↔
      Address.parse? address = none ∨ Network.parse? cidr = none)
    ∧ (∀ a n, Address.parse? address = some a → Network.parse? cidr = some n →
      membership address cidr
        = if a.isV4 = n.isV4 ∧ n.lowest ≤ a.toNat ∧ a.toNat ≤ n.highest then .member
          else .notMember)
    ∧ (∀ front length member, cidr = front ++ "/" ++ length →
      membership member cidr = .member →
      membership address (member ++ "/" ++ length) = membership address cidr)
    ∧ ('/' ∉ cidr.toList →
      (membership address cidr = .member ↔
        ∃ a, Address.parse? address = some a ∧ Address.parse? (Text.trim cidr) = some a)) := by
  refine ⟨membership_eq_invalid_iff, fun _ _ => membership_eq_of_range, ?_,
    membership_of_no_slash⟩
  rintro front length member rfl hmember
  obtain ⟨a, n, ha, hn, hin⟩ := membership_eq_member_iff.mp hmember
  obtain ⟨n', hn', hlength, hin'⟩ := Network.parse?_of_contains hn ha hin
  exact membership_congr hn' hn (Network.contains_eq_of_common hlength hin' hin) address

/-- A mask in place of a number, bits behind the length, and blanks. -/
example : membership "10.0.1.200" " 10.0.1.7/255.255.255.0 " = .member
    ∧ membership "10.0.2.0" "10.0.1.7/24" = .notMember
    ∧ membership "fd00:0::0:10" "fd00::ffff:1.2.3.4/64" = .member := by decide

end HostsBlock
