import HostsBlock.Text.Digits
import HostsBlock.Yaml.Source

/-!
# Tags and directives

A tag in front of a value says of which type it is. It is written in full between angle brackets, or
as a handle and a suffix, where the handle abbreviates the start of the full name. Directives in
front of a document name the version of the format and define handles.
-/

namespace HostsBlock.Yaml

/-- A character of a name: a letter, a digit, a hyphen or an underscore. -/
def isNameChar (c : Char) : Bool :=
  Text.isDigit c || ('a' ≤ c && c ≤ 'z') || ('A' ≤ c && c ≤ 'Z') || c == '_' || c == '-'

/-- A character of a tag's name, other than a flow indicator. -/
def isTagChar (c : Char) : Bool := isNameChar c || c ∈ ";/?:@&=+$.%!~*'()".toList

/-- A tag as it is written. -/
structure Tag where
  /-- The handle, empty for a tag that is written in full. -/
  handle : String
  suffix : String

namespace Tag

/-- How many octets a character has whose first octet is given. -/
def octetCount? (octet : Nat) : Option Nat :=
  if octet < 0x80 then some 1
  else if octet / 0x20 == 6 then some 2
  else if octet / 0x10 == 14 then some 3
  else if octet / 8 == 30 then some 4
  else none

/-- The octets in front of a text, each written as a percent sign and two digits. -/
def octets? : (count : Nat) → List Placed → Option (List Nat × List Placed)
  | 0, s => some ([], s)
  | count + 1, s => do
    let '%' :: digits := chars (s.take 3) | failure
    if digits.length < 2 then failure
    let octet ← Text.number? 16 digits
    let (more, rest) ← octets? count (s.drop 3)
    pure (octet :: more, rest)

/-- The octets of one character. -/
def escape? (s : List Placed) : Option (List Char × List Placed) := do
  let (first, _) ← octets? 1 s
  let count ← octetCount? (first.headD 0)
  let (octets, rest) ← octets? count s
  if (octets.drop 1).all (· / 0x40 == 2) then pure (octets.map Char.ofNat, rest) else failure

/-- The part of a tag's name in front of a text; inside angle brackets it may hold flow indicators.
A step takes at least one of `fuel` characters. -/
def name? (full : Bool) : (fuel : Nat) → List Placed → Option (List Char × List Placed)
  | 0, s => some ([], s)
  | fuel + 1, s =>
    match s with
    | [] => some ([], [])
    | x :: rest =>
      if x.char == '%' then do
        let (octets, rest) ← escape? s
        let (name, rest) ← name? full fuel rest
        pure (octets ++ name, rest)
      else if isTagChar x.char || (full && x.char ∈ [',', '[', ']']) then
        (name? full fuel rest).map fun (name, rest) => (x.char :: name, rest)
      else some ([], s)

/-- The handle in front of a text: an exclamation mark, name characters, and possibly another
exclamation mark. -/
def handle? (s : List Placed) : Option (List Char × List Placed) :=
  if startsWith '!' s then
    let (name, rest) := spanOf isNameChar s.tail
    if startsWith '!' rest then some ('!' :: name ++ ['!'], rest.tail)
    else some ('!' :: name, rest)
  else none

/-- Whether a handle stands by itself, so that a suffix has to follow. -/
def isHandle (handle : List Char) : Bool := 1 < handle.length && handle.getLast? == some '!'

/-- A tag between angle brackets. -/
def readFull? (s : List Placed) : Option (Tag × List Placed) := do
  let (name, rest) ← name? true s.length s
  if name.isEmpty || !startsWith '>' rest then failure
  pure (⟨"", String.ofList name⟩, rest.tail)

/-- A tag with a handle. A lone exclamation mark is a tag with this name. -/
def readShort? (s : List Placed) : Option (Tag × List Placed) := do
  let (handle, rest) ← handle? s
  let (name, rest) ← name? false rest.length rest
  if isHandle handle then
    if name.isEmpty then failure
    pure (⟨String.ofList handle, String.ofList name⟩, rest)
  else
    let suffix := handle.tail ++ name
    pure (if suffix.isEmpty then ⟨"", "!"⟩ else ⟨"!", String.ofList suffix⟩, rest)

/-- Reads a tag, behind which a gap or, inside brackets, a comma has to follow. -/
def read? (flow : Bool) (s : List Placed) : Option (Tag × List Placed) := do
  let (tag, rest) ← if startsWith '<' s.tail then readFull? (s.drop 2) else readShort? s
  if atGap rest || (flow && startsWith ',' rest) then pure (tag, rest) else failure

end Tag

/-! ## Directives -/

/-- A line in front of a document. -/
inductive Directive where
  /-- The version of the format. -/
  | version (major minor : Nat)
  /-- The start of the full names that a handle abbreviates. -/
  | abbreviation (handle start : String)

namespace Directive

/-- A version number of at most nine digits. -/
def versionNumber? (s : List Placed) : Option (Nat × List Placed) :=
  let (digits, rest) := spanOf Text.isDigit s
  if digits.isEmpty || 9 < digits.length then none else some (Text.decimal digits, rest)

/-- The two numbers of a version. -/
def version? (s : List Placed) : Option (Directive × List Placed) := do
  let (major, s) ← versionNumber? (skipBlanks s)
  if !startsWith '.' s then failure
  let (minor, s) ← versionNumber? s.tail
  pure (.version major minor, s)

/-- A handle and what it abbreviates. -/
def handleLine? (s : List Placed) : Option (Directive × List Placed) := do
  let (handle, s) ← Tag.handle? (skipBlanks s)
  if handle != ['!'] && !Tag.isHandle handle then failure
  if !nextIs isBlank s then failure
  let s := skipBlanks s
  let (start, s) ← Tag.name? true s.length s
  if start.isEmpty || !atGap s then failure
  pure (.abbreviation (String.ofList handle) (String.ofList start), s)

/-- Reads the line of a directive from its percent sign on. -/
def read? (s : List Placed) : Option (Directive × List Placed) := do
  let (name, s) := spanOf isNameChar s.tail
  if !atGap s then failure
  let (directive, s) ← match String.ofList name with
    | "YAML" => version? s
    | "TAG" => handleLine? s
    | _ => none
  pure (directive, ← restOfLine? s)

end Directive

end HostsBlock.Yaml
