import HostsBlock.Json.Writer
import HostsBlock.Text.Blank
import HostsBlock.Text.Case

/-!
# Reading a value as what is wanted

Whoever writes an inventory writes `yes`, `"True"` or `1` for the same thing and leaves the quotes
off where a text is meant. So a value is read leniently: as a truth value, as a text, as a list of
texts or as an instance number, whatever it was written as.

A reading that gives nothing is different from one that gives `false` or the empty text: the
caller then takes its own default.
-/

namespace HostsBlock.Value

/-- Words for yes. -/
def yesWords : List String := ["true", "yes", "on", "1", "y"]

/-- Words for no; a blank text is one. -/
def noWords : List String := ["false", "no", "off", "0", "n", ""]

/-- A truth value, from a boolean, a word in any case, or a number that is zero or not. -/
def bool? : Value → Option Bool
  | .bool b => some b
  | .string s =>
    let word := Text.lower (Text.trim s)
    if word ∈ yesWords then some true else if word ∈ noWords then some false else none
  | .int n => some (n ≠ 0)
  | .double x => some (!x.isZero)
  | .null | .list _ | .object _ => none

/-- The text of a value: a string itself, nothing for `null`, and otherwise what JSON writes. -/
def text : Value → String
  | .null => ""
  | .string s => s
  | v => Json.compact v

/-- The text of a value unless it is blank. -/
def nonBlank? (v : Value) : Option String :=
  if Text.isBlankText v.text then none else some v.text

/-- The texts of the elements of a list without its nulls; a scalar or an object counts as a list
of one. -/
def texts : Value → List String
  | .list items => (items.filter (!·.isNull)).map text
  | .null => []
  | v => [v.text]

/-- A whole number with at least two digits. -/
def twoDigits (n : Nat) : String :=
  if n < 10 then "0" ++ toString n else toString n

/-- An instance number: `00` read as a number has lost a digit and gets it back, a text is trimmed.
Negative numbers and numbers with a fraction are none. -/
def instanceNumber? : Value → Option String
  | .int n => if 0 ≤ n then some (twoDigits n.toNat) else none
  | .double _ => none
  | v => v.nonBlank?.map Text.trim

end HostsBlock.Value
