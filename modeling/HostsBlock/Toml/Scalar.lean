import HostsBlock.Binary64
import HostsBlock.Text.Digits
import HostsBlock.Toml.Table

/-!
# Texts, numbers and dates

The scalars of a document. Texts stand between quotes of one of two kinds, of which the double ones
allow escapes; three quotes in a row start a text of several lines. Of numbers and dates only the
form matters here: a number that is out of range or a date that is not in the calendar is an error,
but their values are not needed.
-/

namespace HostsBlock.Toml

open Text

/-- A space or a tab. -/
def isBlank (c : Char) : Bool := c == ' ' || c == '\t'

/-- A character that may stand in a comment or between quotes, line ends apart. -/
def isVisible (c : Char) : Bool :=
  c == '\t' || (0x20 ≤ c.toNat && c.toNat ≤ 0x7E) || 0x80 ≤ c.toNat

/-- The text behind the end of a line, if there is one here. -/
def behindNewline? : List Char → Option (List Char)
  | '\n' :: rest | '\r' :: '\n' :: rest => some rest
  | _ => none

/-! ## Texts -/

/-- The character that an escape stands for; the text starts behind the backslash. -/
def escaped? : List Char → Option (Char × List Char)
  | [] => none
  | c :: rest =>
    let byNumber (width : Nat) : Option (Char × List Char) := do
      let digits := rest.take width
      if digits.length < width then failure
      let n ← number? 16 digits
      if (0xD800 ≤ n && n ≤ 0xDFFF) || 0x10FFFF < n then failure
      pure (Char.ofNat n, rest.drop width)
    match c with
    | 'b' => some ('\x08', rest)
    | 't' => some ('\t', rest)
    | 'n' => some ('\n', rest)
    | 'f' => some ('\x0c', rest)
    | 'r' => some ('\r', rest)
    | '"' | '\\' => some (c, rest)
    | 'u' => byNumber 4
    | 'U' => byNumber 8
    | _ => none

/-- The rest of a text on one line, after the characters `read`, the last of them first. A step
takes at least one of `fuel` characters. -/
def line? (quote : Char) : (fuel : Nat) → (read : List Char) → List Char →
    Option (String × List Char)
  | 0, _, _ | _, _, [] => none
  | fuel + 1, read, c :: rest =>
    if c == quote then some (String.ofList read.reverse, rest)
    else if quote == '"' && c == '\\' then do
      let (c, rest) ← escaped? rest
      line? quote fuel (c :: read) rest
    else if isVisible c then line? quote fuel (c :: read) rest
    else none

/-- The text behind blanks and line ends, if there is a line end among them before anything else. -/
def behindFold? (cs : List Char) : Option (List Char) := do
  let rest ← behindNewline? (cs.dropWhile isBlank)
  pure (rest.dropWhile fun c => isBlank c || c == '\n' || c == '\r')

/-- The rest of a text of several lines. Up to two quotes may stand inside it, even at its end. -/
def lines? (quote : Char) : (fuel : Nat) → (read : List Char) → List Char →
    Option (String × List Char)
  | 0, _, _ | _, _, [] => none
  | fuel + 1, read, c :: rest =>
    if c == quote then
      let count := ((c :: rest).takeWhile (· == quote)).length
      if count < 3 then lines? quote fuel (c :: read) rest
      else if 5 < count then none
      else
        some (String.ofList (List.replicate (count - 3) quote ++ read).reverse,
          (c :: rest).drop count)
    else if quote == '"' && c == '\\' then
      match behindFold? rest with
      | some rest => lines? quote fuel read rest
      | none => do
        let (c, rest) ← escaped? rest
        lines? quote fuel (c :: read) rest
    else match behindNewline? (c :: rest) with
      | some rest => lines? quote fuel ('\n' :: read) rest
      | none => if isVisible c then lines? quote fuel (c :: read) rest else none

/-- A text on one line, from its opening quote on. -/
def lineText? : List Char → Option (String × List Char)
  | '"' :: rest => line? '"' (rest.length + 1) [] rest
  | '\'' :: rest => line? '\'' (rest.length + 1) [] rest
  | _ => none

/-- A text of either kind, from its opening quote on. A line end right behind three quotes does not
count. -/
def text? (cs : List Char) : Option (String × List Char) :=
  let several (quote : Char) (rest : List Char) :=
    lines? quote (rest.length + 1) [] ((behindNewline? rest).getD rest)
  match cs with
  | '"' :: '"' :: '"' :: rest => several '"' rest
  | '\'' :: '\'' :: '\'' :: rest => several '\'' rest
  | cs => lineText? cs

/-! ## Numbers -/

/-- A text cut at each occurrence of a character. -/
def cut (at_ : Char) (cs : List Char) : List (List Char) :=
  cs.foldr
    (fun c parts => if c == at_ then [] :: parts else match parts with
      | part :: rest => (c :: part) :: rest
      | [] => [[c]])
    [[]]

/-- Whether a text is a row of digits with single underscores between them. -/
def isDigits (base : Nat) (cs : List Char) : Bool :=
  (cut '_' cs).all fun part => !part.isEmpty && part.all (isDigitOf base)

/-- A text without its sign, and whether the sign is minus. -/
def signed : List Char → Bool × List Char
  | '-' :: rest => (true, rest)
  | '+' :: rest => (false, rest)
  | cs => (false, cs)

/-- Whether a text is a row of decimal digits without superfluous zero in front. -/
def isWhole (cs : List Char) : Bool :=
  isDigits 10 cs && !(1 < cs.length && cs.head? == some '0')

/-- The number of a row of digits with underscores. -/
def digitsValue (base : Nat) (cs : List Char) : Nat := value base (cs.filter (· ≠ '_'))

/-- Whether a text is a whole number that 64 bits can hold. -/
def isInteger (cs : List Char) : Bool :=
  let fits (base : Nat) (digits : List Char) :=
    isDigits base digits && digitsValue base digits < 1 <<< 63
  match cs with
  | '0' :: 'x' :: digits => fits 16 digits
  | '0' :: 'o' :: digits => fits 8 digits
  | '0' :: 'b' :: digits => fits 2 digits
  | cs =>
    let (negative, digits) := signed cs
    isWhole digits && digitsValue 10 digits < (if negative then (1 <<< 63) + 1 else 1 <<< 63)

/-- Whether a text is a number with a fraction or an exponent; one that is too large is none unless
it is negative. -/
def isFloat (cs : List Char) : Bool :=
  let (negative, digits) := signed cs
  let mantissa := digits.takeWhile fun c => c ≠ 'e' && c ≠ 'E'
  let power := (digits.dropWhile fun c => c ≠ 'e' && c ≠ 'E').drop 1
  let whole := mantissa.takeWhile (· ≠ '.')
  let fraction := (mantissa.dropWhile (· ≠ '.')).drop 1
  let hasPoint := mantissa.contains '.'
  let hasPower := mantissa.length < digits.length
  let (small, exponent) := signed power
  let e : Int := digitsValue 10 exponent
  let places := (fraction.filter (· ≠ '_')).length
  isWhole whole && (hasPoint || hasPower) && (!hasPoint || isDigits 10 fraction)
    && (!hasPower || isDigits 10 exponent)
    && (negative || (Binary64.ofDecimal? false (digitsValue 10 (whole ++ fraction))
      ((if small then -e else e) - places)).isSome)

/-- Whether a text is an infinity or what is not a number. -/
def isNotFinite (cs : List Char) : Bool := (signed cs).2 ∈ ["inf".toList, "nan".toList]

/-! ## Dates -/

/-- The number of a row of `width` digits between two bounds. -/
def bounded? (width low high : Nat) (cs : List Char) : Option Nat := do
  let n ← number? 10 cs
  if cs.length = width && low ≤ n && n ≤ high then pure n else failure

/-- How many days a month has. -/
def daysOf (year month : Nat) : Nat :=
  if month = 2 then
    if year % 4 = 0 && (year % 100 ≠ 0 || year % 400 = 0) then 29 else 28
  else if month ∈ [4, 6, 9, 11] then 30 else 31

/-- Whether a text is a date of the calendar. -/
def isDate (cs : List Char) : Bool :=
  match cut '-' cs with
  | [y, m, d] =>
    ((do
      let year ← bounded? 4 0 9999 y
      let month ← bounded? 2 1 12 m
      bounded? 2 1 (daysOf year month) d) : Option Nat).isSome
  | _ => false

/-- Whether a text is a time of day, with seconds and possibly a fraction of a second. -/
def isTime (cs : List Char) : Bool :=
  match cut ':' cs with
  | [h, m, s] =>
    let fraction := (s.dropWhile (· ≠ '.')).drop 1
    (bounded? 2 0 23 h).isSome && (bounded? 2 0 59 m).isSome
      && (bounded? 2 0 60 (s.takeWhile (· ≠ '.'))).isSome
      && (!s.contains '.' || (number? 10 fraction).isSome)
  | _ => false

/-- Whether a text is a difference from universal time. -/
def isOffset (cs : List Char) : Bool :=
  match cs with
  | ['z'] | ['Z'] => true
  | sign :: rest =>
    (sign == '+' || sign == '-') &&
      match cut ':' rest with
      | [h, m] => (bounded? 2 0 23 h).isSome && (bounded? 2 0 59 m).isSome
      | _ => false
  | [] => false

/-- Whether a text is a time of day with a difference from universal time or without. -/
def isZonedTime (cs : List Char) : Bool :=
  let time := cs.takeWhile fun c => isDigit c || c == ':' || c == '.'
  let offset := cs.drop time.length
  isTime time && (offset.isEmpty || isOffset offset)

/-- Whether a text is a date, a time, or both with a `T` between them. -/
def isMoment (cs : List Char) : Bool :=
  let date := cs.take 10
  match cs.drop 10 with
  | [] => isDate cs || isTime cs
  | c :: time => isTime cs || (isDate date && (c == 'T' || c == 't') && isZonedTime time)

/-! ## Words -/

/-- A character of a word that is a number, a date or a truth value. -/
def isWordChar (c : Char) : Bool :=
  isDigit c || ('a' ≤ c && c ≤ 'z') || ('A' ≤ c && c ≤ 'Z') || c ∈ ['+', '-', '_', '.', ':']

/-- What a word stands for. -/
def word? (cs : List Char) : Option Item :=
  if cs = "true".toList then some (.bool true)
  else if cs = "false".toList then some (.bool false)
  else if isInteger cs || isFloat cs || isNotFinite cs then some .number
  else if isMoment cs then some .date
  else none

/-- The word in front of a text, together with the time behind a date and a space. -/
def scalar? (cs : List Char) : Option (Item × List Char) :=
  let word := cs.takeWhile isWordChar
  let rest := cs.dropWhile isWordChar
  match rest with
  | ' ' :: more =>
    let time := more.takeWhile isWordChar
    if isDate word && isZonedTime time then some (.date, more.dropWhile isWordChar)
    else (word? word).map (·, rest)
  | _ => (word? word).map (·, rest)

end HostsBlock.Toml
