import HostsBlock.Text.Digits
import HostsBlock.Value.Basic

/-!
# What a plain text stands for

A text without quotes may be more than a text: nothing, a truth value or a number. Few words count,
and a row of digits with a zero in front is a text, so that an instance number keeps its zero.
Whole numbers may also be hexadecimal, octal or binary, and they may not be too large; a number with
a fraction that is too large is a text.
-/

namespace HostsBlock.Yaml

open Text

/-- What becomes of a plain text. -/
inductive Resolved where
  | null
  | bool (b : Bool)
  | int (n : Int)
  /-- A whole number beyond 64 bits but not beyond 128, which nothing can hold. -/
  | tooLarge
  | double (x : Binary64)
  /-- An infinity or what is not a number. -/
  | notFinite
  | text
deriving DecidableEq

/-- The words for nothing. -/
def isNullWord (s : String) : Bool := s ∈ ["null", "Null", "NULL", "~"]

/-- The words for truth values. -/
def bool? (s : String) : Option Bool :=
  if s ∈ ["true", "True", "TRUE"] then some true
  else if s ∈ ["false", "False", "FALSE"] then some false
  else none

/-- A text without its sign. -/
def withoutSign : List Char → List Char
  | '+' :: rest | '-' :: rest => rest
  | cs => cs

/-- A row of digits with a zero in front of others, with a sign or without. -/
def isZeroPadded (cs : List Char) : Bool :=
  match withoutSign cs with
  | '0' :: c :: rest => (c :: rest).all isDigit
  | _ => false

/-- The magnitude of a whole number without its sign. -/
def magnitude? (padded : Bool) : List Char → Option Nat
  | '0' :: 'x' :: digits => number? 16 digits
  | '0' :: 'o' :: digits => number? 8 digits
  | '0' :: 'b' :: digits => number? 2 digits
  | digits => if padded then none else number? 10 digits

/-- A whole number of any size below the limits of 128 bits. -/
def int? (cs : List Char) : Option Int :=
  let padded := isZeroPadded cs
  match cs with
  | '-' :: rest => do
    let n ← magnitude? padded rest
    if n ≤ 1 <<< 127 then pure (-n) else failure
  | '+' :: rest => do
    let n ← magnitude? padded rest
    if n < 1 <<< 128 then pure n else failure
  | rest => do
    let n ← magnitude? padded rest
    if n < 1 <<< 128 then pure n else failure

/-- An exponent behind a number; nothing else may follow. -/
def exponent? : List Char → Option Int
  | [] => some 0
  | c :: rest =>
    if c = 'e' || c = 'E' then
      match rest with
      | '-' :: digits => (number? 10 digits).map fun n => -(n : Int)
      | '+' :: digits => (number? 10 digits).map fun n => (n : Int)
      | digits => (number? 10 digits).map fun n => (n : Int)
    else none

/-- The parts of a decimal number: its digits as a whole number, and the exponent that goes with
them. There is a digit on at least one side of the point. -/
def decimal? (cs : List Char) : Option (Nat × Int) :=
  let (whole, rest) := digitSpan cs
  let (fraction, rest) := match rest with
    | '.' :: rest => digitSpan rest
    | rest => ([], rest)
  if whole.isEmpty && fraction.isEmpty then none
  else (exponent? rest).map fun e => (decimal (whole ++ fraction), e - fraction.length)

/-- A number with a fraction or an exponent, or any other that is no whole number. -/
def double? (cs : List Char) : Option Binary64 :=
  let (negative, cs) := match cs with
    | '-' :: rest => (true, rest)
    | '+' :: rest => (false, rest)
    | rest => (false, rest)
  (decimal? cs).bind fun (digits, exponent) => Binary64.ofDecimal? negative digits exponent

/-- The words for what is not finite. -/
def isNotFinite (s : String) : Bool :=
  s ∈ [".inf", ".Inf", ".INF", "+.inf", "+.Inf", "+.INF", "-.inf", "-.Inf", "-.INF",
    ".nan", ".NaN", ".NAN"]

/-- A whole number as far as 64 bits can hold it. -/
def ofInt (n : Int) : Resolved :=
  if -0x8000000000000000 ≤ n && n < 0x10000000000000000 then .int n else .tooLarge

/-- A number with a fraction, or what is not finite. -/
def float? (s : String) : Option Resolved :=
  if isNotFinite s then some .notFinite else (double? s.toList).map .double

/-- What a plain text stands for. -/
def resolve (s : String) : Resolved :=
  if s.isEmpty || isNullWord s then .null
  else match bool? s with
    | some b => .bool b
    | none =>
      match int? s.toList with
      | some n => ofInt n
      | none => if isZeroPadded s.toList then .text else (float? s).getD .text

end HostsBlock.Yaml
