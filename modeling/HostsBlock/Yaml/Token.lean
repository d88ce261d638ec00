import HostsBlock.Yaml.BlockText
import HostsBlock.Yaml.FlowText
import HostsBlock.Yaml.Tag

/-!
# Tokens

A text is cut into tokens in one pass. Two things make the pass remember more than what it has
read. The indentations of the open blocks tell where a block starts and ends. And a key is only
recognised by the colon behind it, so each text, alias or bracket that may turn out to be a key is
kept as a candidate until the line ends; when the colon comes, the token that marks the key goes in
front of the candidate.
-/

namespace HostsBlock.Yaml

/-- A token. -/
inductive Token where
  | directive (d : Directive)
  | documentStart
  | documentEnd
  | blockListStart
  | blockMapStart
  | blockEnd
  | flowListStart
  | flowListEnd
  | flowMapStart
  | flowMapEnd
  /-- The hyphen of a block list. -/
  | hyphen
  /-- The comma between brackets. -/
  | comma
  | key
  | value
  | anchor (name : String)
  | alias (name : String)
  | tag (t : Tag)
  | text (content : String) (plain : Bool)

/-- A token that becomes a key when a colon follows. -/
structure Candidate where
  /-- Where it starts. -/
  start : Placed
  /-- How many tokens stand before it. -/
  position : Nat
  /-- Whether nothing but a key may stand here. -/
  required : Bool

/-- The state of the pass. -/
structure Lexer where
  rest : List Placed
  /-- The tokens so far, the last of them first. -/
  tokens : List Token
  /-- The number of tokens so far. -/
  count : Nat
  /-- The indentation of the innermost block, −1 outside of all blocks. -/
  indent : Int
  /-- The indentations of the blocks around it. -/
  outer : List Int
  /-- The candidate of each open bracket, the innermost first, and at last that of the block. -/
  candidates : List (Option Candidate)
  /-- Whether a candidate may start here. -/
  keyAllowed : Bool

namespace Lexer

/-- The state in front of a text. -/
def start (source : List Placed) : Lexer :=
  { rest := source, tokens := [], count := 0, indent := -1, outer := [], candidates := [none]
    keyAllowed := true }

/-- Whether a bracket is open. -/
def inFlow (l : Lexer) : Bool := 1 < l.candidates.length

/-- Appends a token. -/
def push (l : Lexer) (t : Token) : Lexer :=
  { l with tokens := t :: l.tokens, count := l.count + 1 }

/-- Appends a token and goes on with another text. -/
def emit (l : Lexer) (t : Token) (rest : List Placed) : Lexer := { l.push t with rest }

/-- Puts tokens behind the first `position` tokens. -/
def insertAt (l : Lexer) (position : Nat) (ts : List Token) : Lexer :=
  let behind := l.count - position
  { l with
    tokens := l.tokens.take behind ++ ts.reverse ++ l.tokens.drop behind
    count := l.count + ts.length }

/-! ## Candidates -/

/-- Drops the innermost candidate, unless it is required. -/
def dropCandidate? (l : Lexer) : Option Lexer :=
  match l.candidates with
  | some c :: _ =>
    if c.required then none else some { l with candidates := none :: l.candidates.tail }
  | _ => some l

/-- Makes what starts here the innermost candidate. -/
def addCandidate? (l : Lexer) (here : Placed) : Option Lexer :=
  if l.keyAllowed then do
    let required := !l.inFlow && l.indent == here.column
    let l ← l.dropCandidate?
    pure { l with candidates := some ⟨here, l.count, required⟩ :: l.candidates.tail }
  else some l

/-- Whether a candidate is on an earlier line or too far back for a colon at `here`. -/
def isStale (here : Placed) (c : Candidate) : Bool :=
  c.start.line < here.line || c.start.index + 1024 < here.index

/-- Drops the candidates that no colon can reach any more, unless one of them is required. -/
def dropStale? (l : Lexer) (here : Placed) : Option Lexer :=
  if l.candidates.any fun c => c.any fun c => c.required && isStale here c then none
  else some { l with candidates := l.candidates.map fun c => c.filter fun c => !isStale here c }

/-! ## Indentation -/

/-- Closes the blocks that are indented more than `column`. -/
def closeBlocks (l : Lexer) (column : Int) : Lexer :=
  if l.inFlow then l
  else
    let open_ := l.indent :: l.outer
    let closed := (open_.takeWhile (column < ·)).length
    let remaining := open_.drop closed
    { l with
      tokens := List.replicate closed .blockEnd ++ l.tokens
      count := l.count + closed
      indent := remaining.headD (-1)
      outer := remaining.tail }

/-- Opens a block at `column` in front of the token at `position`, unless one is open there. -/
def openBlock (l : Lexer) (column position : Nat) (t : Token) : Lexer :=
  if l.inFlow || column ≤ l.indent then l
  else { l.insertAt position [t] with indent := column, outer := l.indent :: l.outer }

/-! ## One token -/

/-- The text behind blanks, comments and empty lines. A tab counts as a blank only where no
candidate may start. A mark of the byte order is passed over at the very beginning. -/
def skipGap (l : Lexer) : (fuel : Nat) → Lexer
  | 0 => l
  | fuel + 1 =>
    let unmarked := match l.rest with
      | x :: rest => if x.index == 0 && x.char == '\ufeff' then rest else l.rest
      | [] => []
    let tabs := l.inFlow || !l.keyAllowed
    let rest := skipComment (unmarked.dropWhile fun x => x.char == ' ' || (tabs && x.char == '\t'))
    if nextIs isBreak rest then
      { l with rest := rest.tail, keyAllowed := l.keyAllowed || !l.inFlow }.skipGap fuel
    else { l with rest }

/-- Ends all blocks, as a document's edge and a directive do. -/
def endBlocks? (l : Lexer) : Option Lexer := do
  let l ← (l.closeBlocks (-1)).dropCandidate?
  pure { l with keyAllowed := false }

/-- An opening bracket. -/
def openBracket? (l : Lexer) (here : Placed) (t : Token) : Option Lexer := do
  let l ← l.addCandidate? here
  pure { l.emit t l.rest.tail with candidates := none :: l.candidates, keyAllowed := true }

/-- A closing bracket. -/
def closeBracket? (l : Lexer) (t : Token) : Option Lexer := do
  let l ← l.dropCandidate?
  let candidates := if l.inFlow then l.candidates.tail else l.candidates
  pure { l.emit t l.rest.tail with candidates, keyAllowed := false }

/-- The comma between brackets. -/
def takeComma? (l : Lexer) : Option Lexer := do
  let l ← l.dropCandidate?
  pure { l.emit .comma l.rest.tail with keyAllowed := true }

/-- The hyphen of a block list. -/
def takeHyphen? (l : Lexer) (here : Placed) : Option Lexer := do
  if !l.inFlow && !l.keyAllowed then failure
  let l ← (l.openBlock here.column l.count .blockListStart).dropCandidate?
  pure { l.emit .hyphen l.rest.tail with keyAllowed := true }

/-- The question mark of a key. -/
def takeKey? (l : Lexer) (here : Placed) : Option Lexer := do
  if !l.inFlow && !l.keyAllowed then failure
  let l ← (l.openBlock here.column l.count .blockMapStart).dropCandidate?
  pure { l.emit .key l.rest.tail with keyAllowed := !l.inFlow }

/-- The colon in front of a value, which makes the innermost candidate a key. -/
def takeColon? (l : Lexer) (here : Placed) : Option Lexer :=
  match l.candidates with
  | some c :: others =>
    let l := (l.insertAt c.position [.key]).openBlock c.start.column c.position .blockMapStart
    some { l.emit .value l.rest.tail with candidates := none :: others, keyAllowed := false }
  | _ =>
    if !l.inFlow && !l.keyAllowed then none
    else
      let l := l.openBlock here.column l.count .blockMapStart
      some { l.emit .value l.rest.tail with keyAllowed := !l.inFlow }

/-- The name of an anchor or alias, behind which a gap or an indicator has to follow. -/
def name? (s : List Placed) : Option (String × List Placed) :=
  let (name, rest) := spanOf isNameChar s
  if !name.isEmpty && (atGap rest || nextIs (· ∈ "?:,]\x7d%@`".toList) rest) then
    some (String.ofList name, rest)
  else none

/-- An anchor, an alias or a tag. -/
def takeProperty? (l : Lexer) (here : Placed) : Option Lexer := do
  let l ← l.addCandidate? here
  let (t, rest) ← match here.char with
    | '&' => (name? l.rest.tail).map fun (name, rest) => (Token.anchor name, rest)
    | '*' => (name? l.rest.tail).map fun (name, rest) => (Token.alias name, rest)
    | _ => (Tag.read? l.inFlow l.rest).map fun (tag, rest) => (Token.tag tag, rest)
  pure { l.emit t rest with keyAllowed := false }

/-- A block text. -/
def takeBlockText? (l : Lexer) (here : Placed) : Option Lexer := do
  let l ← l.dropCandidate?
  let (block, rest) ← BlockText.read? (here.char == '|') l.indent l.rest.tail
  pure { l.emit (.text (String.ofList block.text) false) rest with keyAllowed := true }

/-- A text between quotes. -/
def takeQuoted? (l : Lexer) (here : Placed) : Option Lexer := do
  let l ← l.addCandidate? here
  let (content, rest) ← quoted? here.char l.rest.length [] l.rest.tail
  pure { l.emit (.text (String.ofList content) false) rest with keyAllowed := false }

/-- A plain text. -/
def takePlain? (l : Lexer) (here : Placed) : Option Lexer := do
  let l ← l.addCandidate? here
  let plain ← plain? l.inFlow (l.indent + 1) (l.rest.length + 1) [] [] false l.rest
  let l := l.emit (.text (String.ofList plain.text) true) plain.rest
  pure { l with keyAllowed := plain.endsLine }

/-- Whether a plain text may start here. -/
def startsPlain (flow : Bool) (c : Char) (rest : List Placed) : Bool :=
  c ∉ "-?:,[]\x7b\x7d#&*!|>'\"%@`".toList
    || (c == '-' && !nextIs isBlank rest)
    || (!flow && (c == '?' || c == ':') && !atGap rest)

/-- Reads the token that starts with the character `here`, in front of `behind`. -/
def take? (l : Lexer) (here : Placed) (behind : List Placed) : Option Lexer :=
  let c := here.char
  if here.column == 0 && c == '%' then do
    let l ← l.endBlocks?
    let (d, rest) ← Directive.read? l.rest
    pure (l.emit (.directive d) rest)
  else if atMarker '-' l.rest then
    l.endBlocks?.map fun l => l.emit .documentStart (l.rest.drop 3)
  else if atMarker '.' l.rest then
    l.endBlocks?.map fun l => l.emit .documentEnd (l.rest.drop 3)
  else if c == '[' then l.openBracket? here .flowListStart
  else if c == '\x7b' then l.openBracket? here .flowMapStart
  else if c == ']' then l.closeBracket? .flowListEnd
  else if c == '\x7d' then l.closeBracket? .flowMapEnd
  else if c == ',' then l.takeComma?
  else if c == '-' && atGap behind then l.takeHyphen? here
  else if c == '?' && (l.inFlow || atGap behind) then l.takeKey? here
  else if c == ':' && (l.inFlow || atGap behind) then l.takeColon? here
  else if c == '*' || c == '&' || c == '!' then l.takeProperty? here
  else if (c == '|' || c == '>') && !l.inFlow then l.takeBlockText? here
  else if c == '\'' || c == '"' then l.takeQuoted? here
  else if !isGap c && startsPlain l.inFlow c behind then l.takePlain? here
  else none

/-- Reads tokens up to the end of the text; each takes at least one of `fuel` characters. -/
def run? : (fuel : Nat) → Lexer → Option (List Token)
  | 0, _ => none
  | fuel + 1, l =>
    let l := l.skipGap (l.rest.length + 1)
    match l.rest with
    | [] => l.endBlocks?.map (·.tokens.reverse)
    | here :: behind => do
      let l ← l.dropStale? here
      let l ← (l.closeBlocks here.column).take? here behind
      run? fuel l

end Lexer

/-- The tokens of a text. -/
def tokens? (s : String) : Option (List Token) := do
  let source ← source? s
  Lexer.run? (source.length + 1) (.start source)

end HostsBlock.Yaml
