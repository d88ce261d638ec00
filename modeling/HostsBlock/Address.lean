import HostsBlock.Text.Digits

/-!
# Addresses

The two kinds of internet addresses and their usual texts. Four numbers with dots between them, none
of which has a zero in front of other digits, make an IPv4 address. Up to eight groups of
hexadecimal digits with colons between them make an IPv6 address; a double colon stands for groups
of zero that are left out, at least one, and the last two groups may be written like an IPv4
address.
-/

namespace HostsBlock

/-- An address of 32 or of 128 bits. -/
inductive Address where
  | v4 (bits : BitVec 32)
  | v6 (bits : BitVec 128)
deriving DecidableEq

namespace Address

open Text

/-- One of the four numbers of an IPv4 address. -/
def octet? (digits : List Char) : Option Nat :=
  if 3 < digits.length || (1 < digits.length && digits.head? == some '0') then none
  else (number? 10 digits).filter (· < 256)

/-- The number whose digits in base `2 ^ width` are given, the highest first. -/
def join (width : Nat) (digits : List Nat) : Nat := digits.foldl (fun n d => n <<< width + d) 0

/-- The bits of an IPv4 address. -/
def bits4? (cs : List Char) : Option (BitVec 32) := do
  let octets ← (cs.splitOn '.').mapM octet?
  if octets.length = 4 then pure (BitVec.ofNat 32 (join 8 octets)) else failure

/-- One group of an IPv6 address. -/
def group? (digits : List Char) : Option Nat :=
  if digits.length ≤ 4 then number? 16 digits else none

/-- Groups in a row, the last of which may be an IPv4 address in place of two groups. -/
def groupsOfParts? : (embed : Bool) → List (List Char) → Option (List Nat)
  | _, [] => some []
  | embed, [last] =>
    match if embed then bits4? last else none with
    | some bits => some [bits.toNat / 65536, bits.toNat % 65536]
    | none => (group? last).map ([·])
  | embed, part :: rest => do pure ((← group? part) :: (← groupsOfParts? embed rest))

/-- The groups of a text with colons between them; the empty text has none. -/
def groups? (embed : Bool) (cs : List Char) : Option (List Nat) :=
  if cs.isEmpty then some [] else groupsOfParts? embed (cs.splitOn ':')

/-- What stands in front of the first double colon and what behind it. -/
def splitGap? : List Char → Option (List Char × List Char)
  | ':' :: ':' :: tail => some ([], tail)
  | c :: rest => (splitGap? rest).map fun (head, tail) => (c :: head, tail)
  | [] => none

/-- The eight groups of an IPv6 address. A second double colon leaves a group without digits. -/
def allGroups? (cs : List Char) : Option (List Nat) :=
  match splitGap? cs with
  | none => (groups? true cs).filter (·.length == 8)
  | some (head, tail) => do
    let head ← groups? false head
    let tail ← groups? true tail
    if head.length + tail.length ≤ 7 then
      pure (head ++ List.replicate (8 - head.length - tail.length) 0 ++ tail)
    else failure

/-- The bits of an IPv6 address. -/
def bits6? (cs : List Char) : Option (BitVec 128) :=
  (allGroups? cs).map fun groups => BitVec.ofNat 128 (join 16 groups)

/-- The address that a text stands for; blanks around it are not allowed. -/
def parse? (s : String) : Option Address :=
  match bits4? s.toList with
  | some bits => some (.v4 bits)
  | none => (bits6? s.toList).map .v6

end Address

end HostsBlock
