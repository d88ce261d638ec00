import HostsBlock.Toml.Scalar

/-!
# Reading TOML

A document consists of lines, each with a header, an item, a comment or nothing. An item may run
over several lines when it is a text of several lines or a list.
-/

namespace HostsBlock.Toml

/-- The text behind a comment, which is at the end of its line. -/
def behindComment? (cs : List Char) : Option (List Char) :=
  match cs with
  | '#' :: rest =>
    let after := rest.dropWhile isVisible
    if after.isEmpty || (behindNewline? after).isSome then some after else none
  | cs => some cs

/-- The text behind the end of a line, before which blanks and a comment may stand. -/
def behindLine? (cs : List Char) : Option (List Char) := do
  let rest ← behindComment? (cs.dropWhile isBlank)
  if rest.isEmpty then pure [] else behindNewline? rest

/-- The text behind blanks, comments and line ends. -/
def behindGaps? : (fuel : Nat) → List Char → Option (List Char)
  | 0, cs => some cs
  | fuel + 1, cs => do
    let rest ← behindComment? (cs.dropWhile isBlank)
    match behindNewline? rest with
    | some rest => behindGaps? fuel rest
    | none => pure rest

/-! ## Keys -/

/-- A character of a key without quotes. -/
def isKeyChar (c : Char) : Bool :=
  Text.isDigit c || ('a' ≤ c && c ≤ 'z') || ('A' ≤ c && c ≤ 'Z') || c == '_' || c == '-'

/-- One part of a key. -/
def keyPart? (cs : List Char) : Option (String × List Char) :=
  match lineText? cs with
  | some part => some part
  | none =>
    let part := cs.takeWhile isKeyChar
    if part.isEmpty then none else some (String.ofList part, cs.dropWhile isKeyChar)

/-- The parts of a key with dots between them, and the text behind the blanks that follow. -/
def key? : (fuel : Nat) → List Char → Option (List String × List Char)
  | 0, _ => none
  | fuel + 1, cs => do
    let (part, rest) ← keyPart? (cs.dropWhile isBlank)
    match rest.dropWhile isBlank with
    | '.' :: rest =>
      let (parts, rest) ← key? fuel rest
      pure (part :: parts, rest)
    | rest => pure ([part], rest)

/-- A key in front of an equals sign, and the text behind the blanks that follow. -/
def assignedKey? (cs : List Char) : Option (List String × List Char) := do
  let (parts, rest) ← key? cs.length cs
  let '=' :: rest := rest | failure
  pure (parts, rest.dropWhile isBlank)

/-! ## Values -/

/-- How many lists and tables may lie within each other. -/
def nestingLimit : Nat := 79

mutual

/-- A value with at most `depth` lists and tables within each other. -/
def value? : (fuel : Nat) → (depth : Nat) → List Char → Option (Item × List Char)
  | 0, _, _ => none
  | fuel + 1, depth, cs =>
    match cs with
    | '[' :: rest =>
      if depth = 0 then none
      else (items? fuel (depth - 1) rest).map fun (items, rest) => (.list items, rest)
    | '\x7b' :: rest =>
      if depth = 0 then none
      else match rest.dropWhile isBlank with
        | '\x7d' :: rest => some (.inline [], rest)
        | rest => (members? fuel (depth - 1) [] rest).map fun (members, rest) =>
          (.inline members, rest)
    | '"' :: _ | '\'' :: _ => (text? cs).map fun (s, rest) => (.text s, rest)
    | cs => scalar? cs

/-- The elements of a list up to its bracket; a comma may stand behind the last. -/
def items? : (fuel : Nat) → (depth : Nat) → List Char → Option (List Item × List Char)
  | 0, _, _ => none
  | fuel + 1, depth, cs => do
    match ← behindGaps? cs.length cs with
    | ']' :: rest => pure ([], rest)
    | rest =>
      let (item, rest) ← value? fuel depth rest
      match ← behindGaps? rest.length rest with
      | ',' :: rest =>
        let (items, rest) ← items? fuel depth rest
        pure (item :: items, rest)
      | ']' :: rest => pure ([item], rest)
      | _ => failure

/-- The members of a table on one line up to its brace, after those in `read`. -/
def members? : (fuel : Nat) → (depth : Nat) → (read : Members) → List Char →
    Option (Members × List Char)
  | 0, _, _, _ => none
  | fuel + 1, depth, read, cs => do
    let (key, rest) ← assignedKey? cs
    let (item, rest) ← value? fuel depth rest
    let read ← read.addAt? key.dropLast (key.getLastD "") item
    match rest.dropWhile isBlank with
    | ',' :: rest => members? fuel depth read rest
    | '\x7d' :: rest => pure (read, rest)
    | _ => failure

end

/-! ## Documents -/

/-- A header, from its opening brackets on. -/
def header? (d : Document) (cs : List Char) : Option (Document × List Char) :=
  match cs with
  | '[' :: '[' :: rest => do
    let (path, rest) ← key? rest.length rest
    let ']' :: ']' :: rest := rest | failure
    pure (← d.openElement? path, ← behindLine? rest)
  | '[' :: rest => do
    let (path, rest) ← key? rest.length rest
    let ']' :: rest := rest | failure
    pure (← d.openTable? path, ← behindLine? rest)
  | _ => none

/-- An item with its key. -/
def assignment? (d : Document) (cs : List Char) : Option (Document × List Char) := do
  let (key, rest) ← assignedKey? cs
  let (item, rest) ← value? (2 * rest.length + 2) nestingLimit rest
  pure (← d.add? key.dropLast (key.getLastD "") item, ← behindLine? rest)

/-- Reads lines up to the end of the text; each takes at least one of `fuel` characters. -/
def lines : (fuel : Nat) → Document → List Char → Option Document
  | 0, _, _ => none
  | fuel + 1, d, cs =>
    match cs.dropWhile isBlank with
    | [] => some d
    | '#' :: rest => (behindLine? ('#' :: rest)).bind (lines fuel d)
    | '[' :: rest => do
      let (d, rest) ← header? d ('[' :: rest)
      lines fuel d rest
    | c :: rest =>
      if c == '\n' || c == '\r' then (behindNewline? (c :: rest)).bind (lines fuel d)
      else do
        let (d, rest) ← assignment? d (c :: rest)
        lines fuel d rest

/-- The members of a document. A mark of the byte order in front does not count. -/
def parse? (s : String) : Option Members := do
  let cs := match s.toList with
    | '\ufeff' :: rest => rest
    | cs => cs
  (← lines (cs.length + 1) .empty cs).closed?

end HostsBlock.Toml
