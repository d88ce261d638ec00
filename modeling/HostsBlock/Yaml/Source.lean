/-!
# The text of a document, character by character in its place

In YAML the place of a character decides what it means: a line that is indented less ends a block,
and a key may not run over the end of its line. So a text is first turned into a list of characters
that know their line, their column and how many characters stand before them. Everything that reads
it afterwards is a function on such lists and needs no counter of its own.

Carriage returns, alone or before a line feed, and the next-line character become line feeds. The
line and paragraph separators also end a line but stay what they are.
-/

namespace HostsBlock.Yaml

/-- A character with its place in the text; lines, columns and indices count from zero. -/
structure Placed where
  char : Char
  line : Nat
  column : Nat
  /-- The number of characters before it. -/
  index : Nat

/-- A character that may occur in a document: no control characters but tab and line ends. -/
def isAllowed (c : Char) : Bool :=
  let n := c.toNat
  n == 0x9 || n == 0xA || n == 0xD || (0x20 ≤ n && n ≤ 0x7E) || n == 0x85
    || (0xA0 ≤ n && n ≤ 0xFFFD) || 0x10000 ≤ n

/-- A character that ends a line. -/
def isBreak (c : Char) : Bool := c == '\n' || c == '\u2028' || c == '\u2029'

/-- A space or a tab. -/
def isBlank (c : Char) : Bool := c == ' ' || c == '\t'

/-- A space, a tab or the end of a line. -/
def isGap (c : Char) : Bool := isBlank c || isBreak c

/-- The text with one character for every end of a line. -/
def unifyBreaks : List Char → List Char
  | '\r' :: '\n' :: rest => '\n' :: unifyBreaks rest
  | '\r' :: rest => '\n' :: unifyBreaks rest
  | c :: rest => (if c == '\u0085' then '\n' else c) :: unifyBreaks rest
  | [] => []

/-- The characters in their places, starting from a given one. -/
def place (line column index : Nat) : List Char → List Placed
  | [] => []
  | c :: rest =>
    ⟨c, line, column, index⟩ ::
      (if isBreak c then place (line + 1) 0 (index + 1) rest
        else place line (column + 1) (index + 1) rest)

/-- The placed characters of a text, or `none` when it holds one that is not allowed. -/
def source? (s : String) : Option (List Placed) :=
  if s.toList.all isAllowed then some (place 0 0 0 (unifyBreaks s.toList)) else none

/-! ## Looking at the front of a text -/

/-- The characters without their places. -/
def chars (s : List Placed) : List Char := s.map (·.char)

/-- Whether the next character is `c`. -/
def startsWith (c : Char) (s : List Placed) : Bool := s.head?.any (·.char == c)

/-- Whether the next character has a property; the end of the text has none. -/
def nextIs (p : Char → Bool) (s : List Placed) : Bool := s.head?.any fun x => p x.char

/-- Whether the text is at its end, at a blank or at the end of a line. -/
def atGap (s : List Placed) : Bool := s.head?.all fun x => isGap x.char

/-- Whether the text is at its end or at the end of a line. -/
def atLineEnd (s : List Placed) : Bool := s.head?.all fun x => isBreak x.char

/-- The characters in front that have a property, and the text behind them. -/
def spanOf (p : Char → Bool) (s : List Placed) : List Char × List Placed :=
  (chars (s.takeWhile fun x => p x.char), s.dropWhile fun x => p x.char)

/-- The text behind the blanks. -/
def skipBlanks (s : List Placed) : List Placed := s.dropWhile fun x => isBlank x.char

/-- The text behind a comment, which is at the end of its line. -/
def skipComment (s : List Placed) : List Placed :=
  if startsWith '#' s then s.dropWhile fun x => !isBreak x.char else s

/-- The text behind blanks and a comment, if nothing else is left on the line. -/
def restOfLine? (s : List Placed) : Option (List Placed) :=
  let rest := skipComment (skipBlanks s)
  if atLineEnd rest then some rest.tail else none

/-- Whether a line starts here that holds the three characters of a document's edge. -/
def atMarker (c : Char) (s : List Placed) : Bool :=
  s.head?.any (·.column == 0) && chars (s.take 3) == [c, c, c] && atGap (s.drop 3)

/-- Whether a line starts here that begins or ends a document. -/
def atDocumentEdge (s : List Placed) : Bool := atMarker '-' s || atMarker '.' s

end HostsBlock.Yaml
