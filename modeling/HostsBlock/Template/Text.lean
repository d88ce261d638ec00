import HostsBlock.Text.Blank
import HostsBlock.Text.Digits
import HostsBlock.Value.Basic

/-!
# The text of a value on a page

A template writes a value the way people expect to see it on a page: a text without quotes, a truth
value as a word with a capital letter, a number with a point always in positional notation. Inside a
list or an object texts are quoted, and numbers with a point that are very large or very small have
an exponent.
-/

namespace HostsBlock.Template

/-- A character that is not shown as it is inside a quoted text. -/
def isHidden (c : Char) : Bool :=
  let n := c.toNat
  n < 0x20 || (0x7F ≤ n && n < 0xA0) || (Text.isBlank c && c ≠ ' ') || n == 0xAD
    || (0x300 ≤ n && n ≤ 0x36F) || (0x200B ≤ n && n ≤ 0x200F) || (0x202A ≤ n && n ≤ 0x202E)
    || (0x2060 ≤ n && n ≤ 0x206F) || (0xE000 ≤ n && n ≤ 0xF8FF) || n == 0xFEFF
    || 0xF0000 ≤ n

/-- How a character is written inside a quoted text. -/
def escape (c : Char) : List Char :=
  match c with
  | '\x00' => ['\\', '0']
  | '\t' => ['\\', 't']
  | '\n' => ['\\', 'n']
  | '\r' => ['\\', 'r']
  | '"' => ['\\', '"']
  | '\\' => ['\\', '\\']
  | _ =>
    if isHidden c then '\\' :: 'u' :: '\x7b' :: Text.hexDigits 1 c.toNat ++ ['\x7d'] else [c]

/-- A text between quotes. -/
def quoted (s : String) : List Char := '"' :: s.toList.flatMap escape ++ ['"']

/-- A truth value as a word. -/
def word (b : Bool) : String := if b then "True" else "False"

/-- A number with a point inside a list or an object: positional from 10 ^ −4 up to below
10 ^ 16. -/
def inner (x : Binary64) : List Char :=
  let (digits, leading) := x.shortest
  if x.isZero || (-4 ≤ leading && leading < 16) then x.plainText.toList
  else (x.signed ((Binary64.scientific digits leading).filter (· ≠ '+'))).toList

mutual

/-- A value inside a list or an object. -/
def nested : Value → List Char
  | .null => "None".toList
  | .bool b => (word b).toList
  | .int n => (toString n).toList
  | .double x => inner x
  | .string s => quoted s
  | .list items => '[' :: nestedItems items ++ [']']
  | .object members => '\x7b' :: nestedMembers members ++ ['\x7d']

/-- Elements with commas between them. -/
def nestedItems : List Value → List Char
  | [] => []
  | v :: rest => nested v ++ (if rest.isEmpty then [] else ',' :: ' ' :: nestedItems rest)

/-- Members with commas between them. -/
def nestedMembers : List (String × Value) → List Char
  | [] => []
  | (name, v) :: rest =>
    quoted name ++ ':' :: ' ' :: nested v
      ++ (if rest.isEmpty then [] else ',' :: ' ' :: nestedMembers rest)

end

/-- The text of a value on a page. -/
def text : Value → String
  | .string s => s
  | .double x => x.plainText
  | v => String.ofList (nested v)

end HostsBlock.Template
