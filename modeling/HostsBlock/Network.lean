import HostsBlock.Address
import HostsBlock.Text.Blank

/-!
# Networks

A network is the set of addresses that agree with a given one in their leading bits. It is written
as an address, a slash and the number of these bits; for IPv4 the number may also be given as a mask
in the form of an address. Without a slash the network holds the one address only.

Two networks share an address exactly when one of them holds the lowest address of the other.
-/

namespace HostsBlock

/-- The addresses of `w` bits that agree with `address` in their first `length` bits. -/
structure AddressBlock (w : Nat) where
  address : BitVec w
  /-- The number of leading bits that count. -/
  length : Nat
  length_le : length ≤ w

namespace AddressBlock

variable {w : Nat}

/-- The number of bits that do not count. -/
def hostBits (b : AddressBlock w) : Nat := w - b.length

/-- Whether an address agrees in the bits that count. -/
def contains (b : AddressBlock w) (a : BitVec w) : Bool :=
  a >>> b.hostBits == b.address >>> b.hostBits

/-- The lowest address, in which all other bits are zero. -/
def base (b : AddressBlock w) : BitVec w := (b.address >>> b.hostBits) <<< b.hostBits

/-- Whether two blocks share an address. -/
def overlaps (a b : AddressBlock w) : Bool := a.contains b.base || b.contains a.base

end AddressBlock

/-- A network of either kind. -/
inductive Network where
  | v4 (block : AddressBlock 32)
  | v6 (block : AddressBlock 128)

namespace Network

/-- Whether an address lies in a network. -/
def contains : Network → Address → Bool
  | .v4 block, .v4 bits => block.contains bits
  | .v6 block, .v6 bits => block.contains bits
  | _, _ => false

/-- Whether two networks share an address; networks of different kinds never do. -/
def overlaps : Network → Network → Bool
  | .v4 a, .v4 b => a.overlaps b
  | .v6 a, .v6 b => a.overlaps b
  | _, _ => false

/-- The number of leading bits that count. -/
def length : Network → Nat
  | .v4 block => block.length
  | .v6 block => block.length

/-- Whether the addresses are IPv4 addresses. -/
def isV4 : Network → Bool
  | .v4 _ => true
  | .v6 _ => false

/-! ## Reading -/

/-- A number of bits below 256, with an optional plus sign. -/
def bitCount? (cs : List Char) : Option Nat :=
  let digits := match cs with
    | '+' :: rest => rest
    | cs => cs
  (Text.number? 10 digits).filter (· < 256)

/-- The number of leading ones of a mask that has ones only in front. -/
def maskLength? (mask : BitVec 32) : Option Nat :=
  (List.range 33).find? fun n => mask == BitVec.allOnes 32 <<< (32 - n)

/-- The number of leading bits of an IPv4 network, given as a mask or as a number. -/
def length4? (cs : List Char) : Option Nat :=
  match Address.bits4? cs with
  | some mask => maskLength? mask
  | none => bitCount? cs

/-- The block of an address with a number of leading bits that it can have. -/
def block? {w : Nat} (address : BitVec w) (length : Nat) : Option (AddressBlock w) :=
  if h : length ≤ w then some ⟨address, length, h⟩ else none

/-- An address and what stands behind the slash. -/
def split (cs : List Char) : Option (List Char × Option (List Char)) :=
  match cs.splitOn '/' with
  | [address] => some (address, none)
  | [address, length] => some (address, some length)
  | _ => none

/-- An IPv4 network. -/
def block4? (cs : List Char) : Option (AddressBlock 32) := do
  let (address, length) ← split cs
  let bits ← Address.bits4? address
  block? bits (← match length with
    | some length => length4? length
    | none => some 32)

/-- An IPv6 network. -/
def block6? (cs : List Char) : Option (AddressBlock 128) := do
  let (address, length) ← split cs
  let bits ← Address.bits6? address
  block? bits (← match length with
    | some length => bitCount? length
    | none => some 128)

/-- The network that a text stands for; blanks around it do not count. -/
def parse? (s : String) : Option Network :=
  match block4? (Text.trimChars s.toList) with
  | some block => some (.v4 block)
  | none => (block6? (Text.trimChars s.toList)).map .v6

/-- What is said of a text that is no network. -/
def errorMessage (s : String) : String := "invalid address: " ++ Text.trim s

end Network

/-- The place of an address with respect to a network. -/
inductive Membership where
  | member
  | notMember
  /-- The address or the network is none. -/
  | invalid
deriving DecidableEq

/-- The place of an address with respect to a network, both given as texts. -/
def membership (address network : String) : Membership :=
  match Address.parse? address, Network.parse? network with
  | some a, some n => if n.contains a then .member else .notMember
  | _, _ => .invalid

end HostsBlock
