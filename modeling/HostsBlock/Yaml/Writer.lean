import HostsBlock.Text.Digits
import HostsBlock.Yaml.Resolution

/-!
# Writing texts in YAML

A text is written in the plainest way that reads back as the same text: as it is if it could not be
taken for anything else, between single quotes if it holds an indicator or would read as a number,
as a block if it has several lines, and between double quotes, with escapes, if it holds characters
that are not printable or spaces in front of a line end.

All texts here stand two columns in, as the values and list entries of a map at the margin do.
-/

namespace HostsBlock.Yaml

/-- A character that needs no escape. -/
def isPrintable (c : Char) : Bool :=
  let n := c.toNat
  n == 0xA || (0x20 ≤ n && n ≤ 0x7E) || (0xA0 ≤ n && n ≤ 0xFFFD && n != 0xFEFF)

/-- A character that ends a line when a text is written. -/
def endsLine (c : Char) : Bool :=
  c == '\n' || c == '\r' || c == '\u0085' || c == '\u2028' || c == '\u2029'

/-- A blank or line end, or a character that ends a text. -/
def separates (c : Char) : Bool := c == ' ' || c == '\t' || c == '\x00' || endsLine c

/-- Whether two neighbouring characters have a property. -/
def anyNeighbours (p : Char → Char → Bool) (cs : List Char) : Bool :=
  (cs.zip (cs.drop 1)).any fun (a, b) => p a b

/-- Whether a text holds a character that needs an escape. -/
def hasSpecial (cs : List Char) : Bool := cs.any (!isPrintable ·)

/-- Whether a space stands before a line end. -/
def hasSpaceBreak (cs : List Char) : Bool := anyNeighbours (fun a b => a == ' ' && endsLine b) cs

/-- Whether a space stands after a line end. -/
def hasBreakSpace (cs : List Char) : Bool := anyNeighbours (fun a b => endsLine a && b == ' ') cs

/-- Whether a text starts with what starts something else. -/
def startsAsIndicator (cs : List Char) : Bool :=
  ['-', '-', '-'].isPrefixOf cs || ['.', '.', '.'].isPrefixOf cs ||
    match cs with
    | [] => false
    | c :: rest =>
      c ∈ "#,[]\x7b\x7d&*!|>'\"%@`".toList
        || (c ∈ ['?', ':', '-'] && rest.head?.all separates)

/-- Whether a text holds the end of a key or the start of a comment. -/
def holdsIndicator (cs : List Char) : Bool :=
  cs.getLast? == some ':'
    || anyNeighbours (fun a b => (a == ':' && separates b) || (separates a && b == '#')) cs

/-- Whether a text has a space or line end at one of its ends. -/
def hasOuterGap (cs : List Char) : Bool :=
  cs.head?.any (fun c => c == ' ' || endsLine c) || cs.getLast?.any fun c => c == ' ' || endsLine c

/-- Whether a text can be written as it is. -/
def isPlain (cs : List Char) : Bool :=
  !(startsAsIndicator cs || holdsIndicator cs || hasOuterGap cs || hasSpecial cs
    || cs.any endsLine)

/-- Whether a text would read as something else, or is a number but for a zero in front. -/
def isAmbiguous (s : String) : Bool := resolve s ≠ .text || isZeroPadded s.toList

/-! ## The four ways -/

/-- The indentation of all lines but the first. -/
def indentation : List Char := [' ', ' ']

/-- The characters of a text, each line after a line end indented; `fresh` tells whether a line
starts here. -/
def indentedFrom (write : Char → List Char) : (fresh : Bool) → List Char → List Char
  | _, [] => []
  | fresh, c :: rest =>
    if endsLine c then c :: indentedFrom write true rest
    else (if fresh then indentation else []) ++ write c ++ indentedFrom write false rest

/-- Between single quotes, which are doubled inside. -/
def singleQuoted (cs : List Char) : List Char :=
  '\'' :: indentedFrom (fun c => if c == '\'' then ['\'', '\''] else [c]) false cs
    ++ (if cs.getLast?.any endsLine then indentation else []) ++ ['\'']

/-- How a character is written between double quotes. -/
def escape (c : Char) : List Char :=
  match c with
  | '\x00' => ['\\', '0']
  | '\x07' => ['\\', 'a']
  | '\x08' => ['\\', 'b']
  | '\t' => ['\\', 't']
  | '\n' => ['\\', 'n']
  | '\x0b' => ['\\', 'v']
  | '\x0c' => ['\\', 'f']
  | '\r' => ['\\', 'r']
  | '\x1b' => ['\\', 'e']
  | '"' => ['\\', '"']
  | '\\' => ['\\', '\\']
  | '\u0085' => ['\\', 'N']
  | '\u2028' => ['\\', 'L']
  | '\u2029' => ['\\', 'P']
  | _ =>
    let digits := fun width => (Text.hexDigits width c.toNat).map Char.toUpper
    if isPrintable c then [c]
    else if c.toNat ≤ 0xFF then '\\' :: 'x' :: digits 2
    else if c.toNat ≤ 0xFFFF then '\\' :: 'u' :: digits 4
    else '\\' :: 'U' :: digits 8

/-- Between double quotes. -/
def doubleQuoted (cs : List Char) : List Char := '"' :: cs.flatMap escape ++ ['"']

/-- The signs behind the indicator of a block: a digit if the first line says nothing about the
indentation, and what to do with the line ends behind the last line. -/
def blockHints (cs : List Char) : List Char :=
  let last := cs.reverse.take 2
  (if cs.head?.any (fun c => c == ' ' || endsLine c) then ['2'] else [])
    ++ (if !last.head?.any endsLine then ['-'] else if last.tail.all endsLine then ['+'] else [])

/-- As a block below the line of the indicator. -/
def block (cs : List Char) : List Char :=
  '|' :: blockHints cs ++ '\n' :: indentedFrom (fun c => [c]) true cs

/-- A text in the plainest way that reads back as the same text. -/
def written (s : String) : List Char :=
  let cs := s.toList
  let needsEscapes := hasSpaceBreak cs || hasSpecial cs
  if cs.contains '\n' then
    if needsEscapes || cs.getLast? == some ' ' then doubleQuoted cs else block cs
  else if isPlain cs && !isAmbiguous s then cs
  else if needsEscapes || hasBreakSpace cs then doubleQuoted cs
  else singleQuoted cs

/-- A text with a line end behind it, unless it already ends a line as a block does. -/
def closed (cs : List Char) : List Char :=
  cs ++ (if cs.getLast?.any endsLine then [] else ['\n'])

end HostsBlock.Yaml
