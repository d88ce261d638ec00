import HostsBlock.Text.Digits
import HostsBlock.Yaml.Source

/-!
# Plain and quoted texts

A text without indicator, or one between quotes, may run over several lines, and then the line ends
are folded: a single one reads as a space, and of several the first is dropped. Blanks at the end
and at the start of a line do not count.

Plain text ends at a colon or hash that could start something new, at a line that is indented too
little, and inside brackets at a comma or bracket.
-/

namespace HostsBlock.Yaml

/-- What a gap between two words stands for: its blanks when it has no line end, else the folded
line ends. -/
def fold (gap : List Char) : List Char :=
  match gap.filter isBreak with
  | [] => gap
  | ['\n'] => [' ']
  | '\n' :: more => more
  | breaks => breaks

/-! ## Quoted text -/

/-- How many hexadecimal digits an escape takes. -/
def escapeWidth? (c : Char) : Option Nat :=
  match c with
  | 'x' => some 2
  | 'u' => some 4
  | 'U' => some 8
  | _ => none

/-- The character that an escape of one letter stands for. -/
def escapeChar? (c : Char) : Option Char :=
  match c with
  | '0' => some '\x00'
  | 'a' => some '\x07'
  | 'b' => some '\x08'
  | 't' | '\t' => some '\t'
  | 'n' => some '\n'
  | 'v' => some '\x0b'
  | 'f' => some '\x0c'
  | 'r' => some '\r'
  | 'e' => some '\x1b'
  | ' ' | '"' | '/' | '\\' => some c
  | 'N' => some '\u0085'
  | '_' => some '\u00a0'
  | 'L' => some '\u2028'
  | 'P' => some '\u2029'
  | _ => none

/-- The character of an escape; the text starts with the letter behind the backslash. -/
def escaped? : List Placed → Option (Char × List Placed)
  | [] => none
  | x :: rest =>
    match escapeWidth? x.char with
    | some width => do
      let digits := chars (rest.take width)
      if digits.length < width then failure
      let n ← Text.number? 16 digits
      if (0xD800 ≤ n && n ≤ 0xDFFF) || 0x10FFFF < n then failure
      pure (Char.ofNat n, rest.drop width)
    | none => (escapeChar? x.char).map fun c => (c, rest)

/-- The text behind a gap in a quoted text, which no document's edge may interrupt. -/
def behindGap? (s : List Placed) : Option (List Char × List Placed) :=
  let (gap, rest) := spanOf isGap s
  if atDocumentEdge rest then none else some (gap, rest)

/-- The rest of a text between single quotes (`quote` is the apostrophe) or double ones, after the
characters `read`, the last of them first. A step takes at least one of `fuel` characters. -/
def quoted? (quote : Char) : (fuel : Nat) → (read : List Char) → List Placed →
    Option (List Char × List Placed)
  | 0, _, _ | _, _, [] => none
  | fuel + 1, read, x :: rest =>
    if isGap x.char then do
      let (gap, rest) ← behindGap? (x :: rest)
      quoted? quote fuel ((fold gap).reverse ++ read) rest
    else if x.char == quote then
      if quote == '\'' && startsWith '\'' rest then quoted? quote fuel ('\'' :: read) rest.tail
      else some (read.reverse, rest)
    else if quote == '"' && x.char == '\\' then
      if nextIs isBreak rest then do
        let (gap, rest) ← behindGap? rest.tail
        quoted? quote fuel ((gap.filter isBreak).reverse ++ read) rest
      else do
        let (c, rest) ← escaped? rest
        quoted? quote fuel (c :: read) rest
    else quoted? quote fuel (x.char :: read) rest

/-! ## Plain text -/

/-- A bracket or comma, which only counts inside brackets. -/
def isFlowIndicator (c : Char) : Bool := c ∈ [',', '[', ']', '\x7b', '\x7d']

/-- The word in front of a text. Inside brackets a colon right before an indicator is an error. -/
def plainWord? (flow : Bool) : List Placed → Option (List Char × List Placed)
  | [] => some ([], [])
  | x :: rest =>
    if isGap x.char then some ([], x :: rest)
    else if flow && x.char == ':' && nextIs (fun c => isFlowIndicator c || c == '?') rest then none
    else if (x.char == ':' && atGap rest) || (flow && isFlowIndicator x.char) then
      some ([], x :: rest)
    else (plainWord? flow rest).map fun (word, rest) => (x.char :: word, rest)

/-- Whether a gap holds a tab in the indentation of a line after its first. -/
def tabInIndentation (indent : Int) (gap : List Placed) : Bool :=
  (gap.dropWhile fun x => !isBreak x.char).any fun x => x.char == '\t' && x.column < indent

/-- A plain text. -/
structure PlainText where
  text : List Char
  /-- Whether the gap behind it holds the end of a line. -/
  endsLine : Bool
  rest : List Placed

/-- The plain text that starts here, after the characters `read` and a gap that stands for `gap`.
Each round takes a word, of which there are at most `fuel`. -/
def plain? (flow : Bool) (indent : Int) : (fuel : Nat) → (read gap : List Char) →
    (endsLine : Bool) → List Placed → Option PlainText
  | 0, _, _, _, _ => none
  | fuel + 1, read, gap, endsLine, s => do
    let stop : PlainText := ⟨read, endsLine, s⟩
    if atDocumentEdge s || startsWith '#' s then return stop
    let (word, rest) ← plainWord? flow s
    if word.isEmpty then return stop
    let read := read ++ gap ++ word
    if !nextIs isGap rest then return ⟨read, false, rest⟩
    let blank := rest.takeWhile fun x => isGap x.char
    if tabInIndentation indent blank then failure
    let after := rest.dropWhile fun x => isGap x.char
    let endsLine := blank.any fun x => isBreak x.char
    if !flow && after.head?.all fun x => x.column < indent then return ⟨read, endsLine, after⟩
    plain? flow indent fuel read (fold (chars blank)) endsLine after

end HostsBlock.Yaml
