import HostsBlock.Text.Digits
import HostsBlock.Value.Basic

/-!
# Writing JSON

Two layouts of the same text. The compact one has no blanks at all and is also what a list or an
object reads as when a text is wanted. The spread one puts every element on a line of its own,
two spaces further in than the bracket that opened it.

Strings keep every character as it is, except for the quote, the backslash and the control
characters below the space.
-/

namespace HostsBlock.Json

/-- How a character is written between quotes. -/
def escape (c : Char) : List Char :=
  if c = '"' then ['\\', '"']
  else if c = '\\' then ['\\', '\\']
  else if c = '\n' then ['\\', 'n']
  else if c = '\r' then ['\\', 'r']
  else if c = '\t' then ['\\', 't']
  else if c.toNat = 0x8 then ['\\', 'b']
  else if c.toNat = 0xC then ['\\', 'f']
  else if c.toNat < 0x20 then '\\' :: 'u' :: Text.hexDigits 4 c.toNat
  else [c]

/-- A text between quotes. -/
def quoted (s : String) : List Char := '"' :: s.toList.flatMap escape ++ ['"']

/-- A scalar that is not a string. -/
def bare (s : String) : List Char := s.toList

mutual

/-- The compact form of a value. -/
def compactChars : Value → List Char
  | .null => bare "null"
  | .bool true => bare "true"
  | .bool false => bare "false"
  | .int n => bare (toString n)
  | .double x => bare x.text
  | .string s => quoted s
  | .list items => '[' :: compactItems items ++ [']']
  | .object members => '\x7b' :: compactMembers members ++ ['\x7d']

/-- Elements with commas between them. -/
def compactItems : List Value → List Char
  | [] => []
  | v :: rest => compactChars v ++ (if rest.isEmpty then [] else ',' :: compactItems rest)

/-- Members with commas between them. -/
def compactMembers : List (String × Value) → List Char
  | [] => []
  | (name, v) :: rest =>
    quoted name ++ ':' :: compactChars v
      ++ (if rest.isEmpty then [] else ',' :: compactMembers rest)

end

/-- The compact form of a value as a text. -/
def compact (v : Value) : String := String.ofList (compactChars v)

/-- The start of a line that lies `depth` brackets deep. -/
def newLine (depth : Nat) : List Char := '\n' :: List.replicate (2 * depth) ' '

mutual

/-- The spread form of a value that lies `depth` brackets deep. -/
def spreadChars (depth : Nat) : Value → List Char
  | .list [] => ['[', ']']
  | .list (v :: rest) =>
    '[' :: newLine (depth + 1) ++ spreadItems (depth + 1) (v :: rest) ++ newLine depth ++ [']']
  | .object [] => ['\x7b', '\x7d']
  | .object (m :: rest) =>
    '\x7b' :: newLine (depth + 1) ++ spreadMembers (depth + 1) (m :: rest) ++ newLine depth
      ++ ['\x7d']
  | scalar => compactChars scalar

/-- Elements, each on its own line. -/
def spreadItems (depth : Nat) : List Value → List Char
  | [] => []
  | v :: rest =>
    spreadChars depth v
      ++ (if rest.isEmpty then [] else ',' :: newLine depth ++ spreadItems depth rest)

/-- Members, each on its own line. -/
def spreadMembers (depth : Nat) : List (String × Value) → List Char
  | [] => []
  | (name, v) :: rest =>
    quoted name ++ ':' :: ' ' :: spreadChars depth v
      ++ (if rest.isEmpty then [] else ',' :: newLine depth ++ spreadMembers depth rest)

end

/-- The spread form of a value as a text. -/
def spread (v : Value) : String := String.ofList (spreadChars 0 v)

/-- A character outside ASCII as one escape, or as two beyond the first 2 ^ 16 characters. -/
def asciiEscape (c : Char) : List Char :=
  let n := c.toNat
  let unit := fun u => '\\' :: 'u' :: Text.hexDigits 4 u
  if n < 0x80 then [c]
  else if n < 0x10000 then unit n
  else unit (0xD800 + (n - 0x10000) / 0x400) ++ unit (0xDC00 + (n - 0x10000) % 0x400)

/-- The compact form in ASCII. Outside strings there is nothing else anyway. -/
def ascii (v : Value) : String := String.ofList ((compactChars v).flatMap asciiEscape)

end HostsBlock.Json
