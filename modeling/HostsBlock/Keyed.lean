/-!
# Lists in the order of a key

Objects list their members by name and an inventory lists its hosts by name. Both are lists that
are strictly increasing in a textual key, built by putting in one element after the other: a later
element of the same key takes the place of the earlier one.

Texts are ordered by code point, which is also the order of their UTF-8 octets.
-/

namespace HostsBlock.Keyed

variable {α : Type}

/-- Puts `x` in its place; an element of the same key gives way to it. -/
def insert (key : α → String) (x : α) : List α → List α
  | [] => [x]
  | y :: ys =>
    if key x < key y then x :: y :: ys
    else if key x = key y then x :: ys
    else y :: insert key x ys

/-- The elements in the order of their keys; of several with one key the last stays. -/
def ofList (key : α → String) (xs : List α) : List α :=
  xs.foldl (fun sorted x => insert key x sorted) []

/-- The element of a key. -/
def find? (key : α → String) (k : String) (xs : List α) : Option α :=
  xs.find? fun x => key x == k

end HostsBlock.Keyed
