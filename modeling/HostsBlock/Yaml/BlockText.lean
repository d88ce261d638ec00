import HostsBlock.Text.Digits
import HostsBlock.Yaml.Source

/-!
# Block texts

A block text follows an indicator line, `|` for literal and `>` for folded text, and consists of the
lines below that are indented enough. How much is enough is given by a digit or by the first line
that is not empty. The indicator line also says what happens to the line ends behind the last line:
`-` drops them, `+` keeps them all, and otherwise one is kept.
-/

namespace HostsBlock.Yaml

/-- What happens to the line ends behind a block text. -/
inductive Chomping where
  | strip
  | clip
  | keep
deriving DecidableEq

/-- The chomping that an indicator asks for. -/
def Chomping.ofChar? (c : Char) : Option Chomping :=
  match c with
  | '-' => some .strip
  | '+' => some .keep
  | _ => none

/-- A line of a block text that is not empty. -/
structure BlockLine where
  content : List Char
  /-- The character that ends the line, if one does. -/
  ending : List Char
  /-- The ends of the empty lines behind it. -/
  emptyLines : List Char

/-- A block text in its parts. -/
structure BlockText where
  literal : Bool
  chomping : Chomping
  /-- The ends of the empty lines in front. -/
  leading : List Char
  lines : List BlockLine

namespace BlockText

/-! ## What it stands for -/

/-- Whether a line starts with a blank, which keeps the line ends around it from being folded. -/
def startsBlank (l : BlockLine) : Bool := l.content.head?.any isBlank

/-- What the line ends between two lines stand for. -/
def between (literal : Bool) (above below : BlockLine) : List Char :=
  if !literal && above.ending == ['\n'] && !startsBlank above && !startsBlank below then
    if above.emptyLines.isEmpty then [' '] else above.emptyLines
  else above.ending ++ above.emptyLines

/-- What the line ends behind the last line stand for. -/
def tail (chomping : Chomping) (ending emptyLines : List Char) : List Char :=
  match chomping with
  | .strip => []
  | .clip => ending
  | .keep => ending ++ emptyLines

/-- The lines with the line ends between and behind them. -/
def joined (literal : Bool) (chomping : Chomping) : List BlockLine → List Char
  | [] => []
  | [l] => l.content ++ tail chomping l.ending l.emptyLines
  | l :: next :: rest =>
    l.content ++ between literal l next ++ joined literal chomping (next :: rest)

/-- The text that a block text stands for. -/
def text (b : BlockText) : List Char :=
  if b.lines.isEmpty then tail b.chomping [] b.leading
  else b.leading ++ joined b.literal b.chomping b.lines

/-! ## Reading it -/

/-- The chomping and the indentation digit of an indicator line, in either order. -/
def header? (s : List Placed) : Option (Chomping × Option Nat × List Placed) := do
  let (before, s) := chompingOf s
  let (increment, s) ← incrementOf? s
  let (behind, s) := if before.isNone && increment.isSome then chompingOf s else (none, s)
  pure (((before.or behind).getD .clip), increment, s)
where
  /-- An optional chomping indicator. -/
  chompingOf : List Placed → Option Chomping × List Placed
    | [] => (none, [])
    | x :: rest =>
      match Chomping.ofChar? x.char with
      | some chomping => (some chomping, rest)
      | none => (none, x :: rest)
  /-- An optional digit; zero is refused. -/
  incrementOf? : List Placed → Option (Option Nat × List Placed)
    | [] => some (none, [])
    | x :: rest =>
      if x.char == '0' then none
      else if Text.isDigit x.char then some (some (Text.decimal [x.char]), rest)
      else some (none, x :: rest)

/-- The ends of the empty lines in front, the widest indentation among them and on the line behind
them, and the text from there on. With `indent` zero the indentation is still open. A tab inside
the indentation is an error. -/
def emptyLines? (indent : Nat) : (widest : Nat) → List Placed →
    Option (Nat × List Char × List Placed)
  | widest, [] => some (widest, [], [])
  | widest, x :: rest =>
    let inside := indent == 0 || x.column < indent
    if x.char == ' ' && inside then emptyLines? indent (max widest (x.column + 1)) rest
    else if x.char == '\t' && inside then none
    else if isBreak x.char then
      (emptyLines? indent widest rest).map fun (widest, ends, rest) =>
        (widest, x.char :: ends, rest)
    else some (widest, [], x :: rest)

/-- The lines at an indentation; there are at most `fuel`. -/
def lines? (indent : Nat) : (fuel : Nat) → List Placed → Option (List BlockLine × List Placed)
  | 0, s => some ([], s)
  | fuel + 1, s =>
    if s.head?.any (·.column == indent) then do
      let (content, rest) := spanOf (fun c => !isBreak c) s
      let (_, emptyLines, after) ← emptyLines? indent 0 rest.tail
      let (below, after) ← lines? indent fuel after
      pure ({ content, ending := chars (rest.take 1), emptyLines } :: below, after)
    else some ([], s)

/-- Reads a block text behind its indicator, inside a block of indentation `parent`. -/
def read? (literal : Bool) (parent : Int) (s : List Placed) : Option (BlockText × List Placed) := do
  let (chomping, increment, s) ← header? s
  let s ← restOfLine? s
  let given := increment.map fun n => (max parent 0).toNat + n
  let (widest, leading, s) ← emptyLines? (given.getD 0) 0 s
  let indent := given.getD (max widest (max (parent + 1).toNat 1))
  let (lines, s) ← lines? indent s.length s
  pure ({ literal, chomping, leading, lines }, s)

end BlockText

end HostsBlock.Yaml
