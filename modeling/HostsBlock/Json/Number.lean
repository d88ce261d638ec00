import HostsBlock.Text.Digits
import HostsBlock.Value.Basic

/-!
# Numbers in JSON

A number literal without fraction and exponent is a whole number as long as it fits into 64 bits.
All others are binary64 numbers, evaluated in three steps: the leading digits that fit into 64 bits
make a whole number, the whole number is rounded, and the result is multiplied or divided by a
power of ten and rounded again. So a long literal may come out one unit beside the nearest number.
-/

namespace HostsBlock.Json

open Text

/-- The parts of a number literal. -/
structure NumberLiteral where
  negative : Bool
  whole : List Char
  /-- The digits behind the point. -/
  fraction : Option (List Char)
  /-- Whether the exponent is negative, and its digits. -/
  exponent : Option (Bool × List Char)

namespace NumberLiteral

/-- Reads an optional fraction. -/
def fraction? : List Char → Option (Option (List Char) × List Char)
  | '.' :: rest =>
    let (digits, rest) := digitSpan rest
    if digits.isEmpty then none else some (some digits, rest)
  | rest => some (none, rest)

/-- Reads the digits of an exponent. -/
def exponentDigits? (negative : Bool) (cs : List Char) :
    Option (Option (Bool × List Char) × List Char) :=
  let (digits, rest) := digitSpan cs
  if digits.isEmpty then none else some (some (negative, digits), rest)

/-- Reads an optional exponent. -/
def exponent? : List Char → Option (Option (Bool × List Char) × List Char)
  | c :: rest =>
    if c = 'e' || c = 'E' then
      match rest with
      | '+' :: rest => exponentDigits? false rest
      | '-' :: rest => exponentDigits? true rest
      | rest => exponentDigits? false rest
    else some (none, c :: rest)
  | [] => some (none, [])

/-- Reads a literal, which has no superfluous zero in front. -/
def read? (cs : List Char) : Option (NumberLiteral × List Char) := do
  let (negative, cs) := match cs with
    | '-' :: rest => (true, rest)
    | rest => (false, rest)
  let (whole, cs) := digitSpan cs
  if whole.isEmpty || (whole.head? = some '0' && whole.length > 1) then failure
  let (fraction, cs) ← fraction? cs
  let (exponent, cs) ← exponent? cs
  pure ({ negative, whole, fraction, exponent }, cs)

/-! ## Evaluation -/

/-- Appends digits to a whole number while it stays below `2 ^ 64`, and counts those left over. -/
def accumulate (n : Nat) : List Char → Nat × Nat
  | [] => (n, 0)
  | c :: rest =>
    let next := 10 * n + decimal [c]
    if next < 1 <<< 64 then accumulate next rest else (n, rest.length + 1)

/-- A power of ten, rounded. -/
def powerOfTen? (exponent : Nat) : Option Binary64 := Binary64.ofDecimal? false 1 exponent

/-- A number times a power of ten, in steps of at most `10 ^ 308`; after `steps` of them nothing
but zero is left. -/
def scale? : (steps : Nat) → Binary64 → Int → Option Binary64
  | 0, x, _ => some (Binary64.zero x.negative)
  | steps + 1, x, exponent =>
    if exponent.natAbs ≤ 308 then do
      let power ← powerOfTen? exponent.natAbs
      if 0 ≤ exponent then x.mul? power else x.div? power
    else if x.isZero then some x
    else if 0 ≤ exponent then none
    else do scale? steps (← x.div? (← powerOfTen? 308)) (exponent + 308)

/-- The exponent as a number, unless it is too large for 32 bits. -/
def exponentValue? : Option (Bool × List Char) → Option Int
  | none => some 0
  | some (negative, digits) =>
    let n := decimal digits
    if n < 1 <<< 31 then some (if negative then -(n : Int) else n) else none

/-- The binary64 number of a literal. -/
def double? (l : NumberLiteral) (significand : Nat) (shift : Int) : Option Binary64 :=
  match exponentValue? l.exponent with
  | some exponent => do
    let x ← scale? 4 (← Binary64.ofNat? significand) (shift + exponent)
    pure (if l.negative then x.neg else x)
  | none =>
    if significand ≠ 0 && !(l.exponent.any (·.1)) then none else some (Binary64.zero l.negative)

/-- The value of a literal; there is none when it is too large. -/
def value? (l : NumberLiteral) : Option Value :=
  let (significand, dropped) := accumulate 0 l.whole
  let (significand, ignored) := accumulate significand (l.fraction.getD [])
  let shift : Int := dropped - ((l.fraction.getD []).length - ignored : Int)
  let isWhole := dropped = 0 && l.fraction.isNone && l.exponent.isNone
  if isWhole && !l.negative then some (.int significand)
  else if isWhole && 0 < significand && significand ≤ 1 <<< 63 then some (.int (-significand))
  else (l.double? significand shift).map .double

end NumberLiteral

end HostsBlock.Json
