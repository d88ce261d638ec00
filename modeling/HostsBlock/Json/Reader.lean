import HostsBlock.Json.Number

/-!
# Reading JSON

The strict format: no comments, no comma before a closing bracket, no control characters inside
strings, and an escape that names half of a surrogate pair needs its other half behind it. Nesting
is limited, by default to 127 brackets.

Every function takes the text that is left and gives back what remains of it.
-/

namespace HostsBlock.Json

/-- A blank between tokens. -/
def isSpace (c : Char) : Bool := c = ' ' || c = '\t' || c = '\n' || c = '\r'

/-- The text behind the blanks. -/
def skipSpace (cs : List Char) : List Char := cs.dropWhile isSpace

/-- The four hexadecimal digits of an escape. -/
def codeUnit? (cs : List Char) : Option (Nat × List Char) := do
  let digits := cs.take 4
  if digits.length < 4 then failure
  pure (← Text.number? 16 digits, cs.drop 4)

/-- The character that an escape by number stands for. -/
def numbered? (cs : List Char) : Option (Char × List Char) := do
  let (high, rest) ← codeUnit? cs
  if 0xD800 ≤ high && high ≤ 0xDFFF then
    match rest with
    | '\\' :: 'u' :: rest =>
      let (low, rest) ← codeUnit? rest
      if high < 0xDC00 && 0xDC00 ≤ low && low ≤ 0xDFFF then
        pure (Char.ofNat (0x10000 + (high - 0xD800) * 0x400 + (low - 0xDC00)), rest)
      else failure
    | _ => failure
  else pure (Char.ofNat high, rest)

/-- The character that an escape stands for; `cs` starts behind the backslash. -/
def escaped? : List Char → Option (Char × List Char)
  | [] => none
  | c :: rest =>
    if c = '"' || c = '\\' || c = '/' then some (c, rest)
    else if c = 'b' then some ('\x08', rest)
    else if c = 'f' then some ('\x0c', rest)
    else if c = 'n' then some ('\n', rest)
    else if c = 'r' then some ('\r', rest)
    else if c = 't' then some ('\t', rest)
    else if c = 'u' then numbered? rest
    else none

/-- The rest of a string behind its opening quote, after the characters `read`, the last of them
first. Each step takes at least one of `fuel` characters. -/
def string? : (fuel : Nat) → (read : List Char) → List Char → Option (String × List Char)
  | 0, _, _ | _, _, [] => none
  | fuel + 1, read, c :: rest =>
    if c = '"' then some (String.ofList read.reverse, rest)
    else if c = '\\' then do
      let (c, rest) ← escaped? rest
      string? fuel (c :: read) rest
    else if c.toNat < 0x20 then none
    else string? fuel (c :: read) rest

/-- The text behind an expected word. -/
def word? (word : String) (cs : List Char) : Option (List Char) :=
  if word.toList.isPrefixOf cs then some (cs.drop word.length) else none

mutual

/-- A value inside at most `depth` more brackets. Each call is for one of `fuel` characters. -/
def value? : (fuel : Nat) → (depth : Nat) → List Char → Option (Value × List Char)
  | 0, _, _ => none
  | fuel + 1, depth, cs =>
    match skipSpace cs with
    | [] => none
    | c :: rest =>
      if c = '[' then
        if depth = 0 then none
        else match skipSpace rest with
          | ']' :: rest => some (.list [], rest)
          | rest => (items? fuel (depth - 1) [] rest).map fun (items, rest) => (.list items, rest)
      else if c = '\x7b' then
        if depth = 0 then none
        else match skipSpace rest with
          | '\x7d' :: rest => some (.object [], rest)
          | rest =>
            (members? fuel (depth - 1) [] rest).map fun (members, rest) => (.object members, rest)
      else if c = '"' then (string? fuel [] rest).map fun (s, rest) => (.string s, rest)
      else if c = 'n' then (word? "ull" rest).map fun rest => (.null, rest)
      else if c = 't' then (word? "rue" rest).map fun rest => (.bool true, rest)
      else if c = 'f' then (word? "alse" rest).map fun rest => (.bool false, rest)
      else do
        let (literal, rest) ← NumberLiteral.read? (c :: rest)
        pure (← literal.value?, rest)

/-- The elements of a list up to its bracket, after those in `read`. -/
def items? : (fuel : Nat) → (depth : Nat) → (read : List Value) → List Char →
    Option (List Value × List Char)
  | 0, _, _, _ => none
  | fuel + 1, depth, read, cs => do
    let (v, rest) ← value? fuel depth cs
    match skipSpace rest with
    | ',' :: rest => items? fuel depth (v :: read) rest
    | ']' :: rest => pure ((v :: read).reverse, rest)
    | _ => failure

/-- The members of an object up to its brace, after those in `read`. -/
def members? : (fuel : Nat) → (depth : Nat) → (read : List (String × Value)) → List Char →
    Option (List (String × Value) × List Char)
  | 0, _, _, _ => none
  | fuel + 1, depth, read, cs => do
    let '"' :: rest := skipSpace cs | failure
    let (name, rest) ← string? fuel [] rest
    let ':' :: rest := skipSpace rest | failure
    let (v, rest) ← value? fuel depth rest
    match skipSpace rest with
    | ',' :: rest => members? fuel depth ((name, v) :: read) rest
    | '\x7d' :: rest => pure (((name, v) :: read).reverse, rest)
    | _ => failure

end

/-- How many brackets may be open at once. -/
def nestingLimit : Nat := 127

/-- What a text of JSON says, with at most `depth` brackets open at once: every object has its
members as they are written. -/
def read? (s : String) (depth : Nat) : Option Value := do
  let cs := s.toList
  let (v, rest) ← value? (2 * cs.length + 2) depth cs
  if (skipSpace rest).isEmpty then pure v else failure

/-- The value that a text of JSON stands for, with at most `depth` brackets open at once. -/
def parse? (s : String) (depth : Nat) : Option Value := (read? s depth).map Value.sorted

end HostsBlock.Json
