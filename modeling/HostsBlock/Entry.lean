import HostsBlock.Address
import HostsBlock.Text.Blank

/-!
# Entries

An entry is one line of a hosts file: an address, a full host name and a short one. The three stand
in columns of fixed widths, counted in characters; what is wider than its column pushes the rest to
the right.
-/

namespace HostsBlock

/-- An address with the names of a host. -/
structure Entry where
  address : String
  fqdn : String
  hostname : String
deriving DecidableEq

namespace Entry

/-- The width of the column of addresses. -/
def addressWidth : Nat := 19

/-- The width of the column of full names. -/
def fqdnWidth : Nat := 81

/-- The width of the column of short names. -/
def hostnameWidth : Nat := 17

/-- Fills a text with spaces on the right. -/
def padded (width : Nat) (cs : List Char) : List Char :=
  cs ++ List.replicate (width - cs.length) ' '

/-- The characters of an entry's line. -/
def lineChars (e : Entry) : List Char :=
  padded addressWidth e.address.toList ++ padded fqdnWidth e.fqdn.toList
    ++ padded hostnameWidth e.hostname.toList

/-- The line of an entry. -/
def line (e : Entry) : String := String.ofList e.lineChars

/-- The entry, if the short name is not blank and the address is one. -/
def checked? (e : Entry) : Option Entry :=
  if Text.isBlankText e.hostname || (Address.parse? e.address).isNone then none else some e

end Entry

end HostsBlock
