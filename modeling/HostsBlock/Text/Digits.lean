/-!
# Digits

Rows of ASCII digits, in the bases that numbers are written in. Reading a row gives the number it
stands for; writing a number gives its shortest row, filled up with zeros to a width where one is
asked for.
-/

namespace HostsBlock.Text

/-- A decimal digit. -/
def isDigit (c : Char) : Bool := '0' ≤ c && c ≤ '9'

/-- The value of a digit in any base up to sixteen. -/
def digitValue? (c : Char) : Option Nat :=
  if isDigit c then some (c.toNat - 48)
  else if 'a' ≤ c && c ≤ 'f' then some (c.toNat - 87)
  else if 'A' ≤ c && c ≤ 'F' then some (c.toNat - 55)
  else none

/-- Whether a character is a digit of a base. -/
def isDigitOf (base : Nat) (c : Char) : Bool := (digitValue? c).any (· < base)

/-- The number that a row of digits stands for; other characters in the row count as zero. -/
def value (base : Nat) (digits : List Char) : Nat :=
  digits.foldl (fun n c => base * n + (digitValue? c).getD 0) 0

/-- The number that a row of decimal digits stands for. -/
def decimal (digits : List Char) : Nat := value 10 digits

/-- The number that a text of one digit or more stands for. -/
def number? (base : Nat) (digits : List Char) : Option Nat :=
  if !digits.isEmpty && digits.all (isDigitOf base) then some (value base digits) else none

/-- The decimal digits in front of a text, and the text behind them. -/
def digitSpan (cs : List Char) : List Char × List Char :=
  (cs.takeWhile isDigit, cs.dropWhile isDigit)

/-- A number in hexadecimal, in at least `width` digits. -/
def hexDigits (width n : Nat) : List Char :=
  let digits := Nat.toDigits 16 n
  List.replicate (width - digits.length) '0' ++ digits

end HostsBlock.Text
