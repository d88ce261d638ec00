/-!
# Binary64 numbers, exactly

A number with a fraction is stored in the binary64 format, and three things about it show in the
output: which number a decimal literal stands for, what a product or quotient rounds to, and which
digits are written. All three are done here in exact arithmetic on natural numbers.

Rounding goes to the nearest number of the format, a tie to the even mantissa. Writing takes the
fewest digits that still read back as the same number, and of those the nearest.
-/

namespace HostsBlock

/-- A finite number `± mantissa · 2 ^ exponent`.

The stored form is the only one: the mantissa is below `2 ^ 53`, the exponent is between −1074 and
971, and the mantissa is at least `2 ^ 52` unless the exponent is −1074. -/
structure Binary64 where
  /-- Whether the sign is minus; zero has a sign too. -/
  negative : Bool
  mantissa : Nat
  exponent : Int
deriving DecidableEq

namespace Binary64

/-- Zero with a sign. -/
def zero (negative : Bool) : Binary64 := ⟨negative, 0, -1074⟩

/-- Either of the two zeros. -/
def isZero (x : Binary64) : Bool := x.mantissa == 0

/-- The same magnitude with the other sign. -/
def neg (x : Binary64) : Binary64 := { x with negative := !x.negative }

/-! ## Rounding -/

/-- `num / den` rounded to a whole number, a tie to the even one. -/
def roundEven (num den : Nat) : Nat :=
  let floor := num / den
  let rest := num % den
  if 2 * rest > den || (2 * rest == den && floor % 2 == 1) then floor + 1 else floor

/-- `num / den` divided by `2 ^ exponent` and rounded to a whole number. -/
def scaled (num den : Nat) (exponent : Int) : Nat :=
  roundEven (num <<< (-exponent).toNat) (den <<< exponent.toNat)

/-- The number of the format nearest to `num / den`, or `none` when that is too large for it. -/
def round? (negative : Bool) (num den : Nat) : Option Binary64 :=
  if num == 0 then some (zero negative)
  else
    let guess : Int := (num.log2 : Int) - den.log2 - 52
    let tooHigh := num <<< (-guess).toNat < (den <<< guess.toNat) <<< 52
    let exponent := max (if tooHigh then guess - 1 else guess) (-1074)
    let mantissa := scaled num den exponent
    let x : Binary64 :=
      if mantissa == 1 <<< 53 then ⟨negative, 1 <<< 52, exponent + 1⟩
      else ⟨negative, mantissa, exponent⟩
    if x.exponent > 971 then none else some x

/-- The magnitude as a fraction. -/
def ratio (x : Binary64) : Nat × Nat :=
  (x.mantissa <<< x.exponent.toNat, 1 <<< (-x.exponent).toNat)

/-- The rounded product. -/
def mul? (x y : Binary64) : Option Binary64 :=
  round? (x.negative != y.negative) (x.ratio.1 * y.ratio.1) (x.ratio.2 * y.ratio.2)

/-- The rounded quotient by a number other than zero. -/
def div? (x y : Binary64) : Option Binary64 :=
  round? (x.negative != y.negative) (x.ratio.1 * y.ratio.2) (x.ratio.2 * y.ratio.1)

/-- How many decimal digits a positive number has. -/
def digitCount (n : Nat) : Nat := (Nat.toDigits 10 n).length

/-- The power of ten with an exponent. -/
def tenTo (exponent : Nat) : Nat := Nat.pow 10 exponent

/-- The number nearest to `digits · 10 ^ exponent`, or `none` when that is too large.

Exponents far outside the range of the format are decided without computing the power. -/
def ofDecimal? (negative : Bool) (digits : Nat) (exponent : Int) : Option Binary64 :=
  if digits == 0 then some (zero negative)
  else if exponent + digitCount digits > 400 then none
  else if exponent + digitCount digits < -400 then some (zero negative)
  else round? negative (digits * tenTo exponent.toNat) (tenTo (-exponent).toNat)

/-- The number nearest to a whole number. -/
def ofNat? (n : Nat) : Option Binary64 := round? false n 1

/-! ## Shortest digits -/

/-- The reals that round to a positive number, scaled by a common denominator: its own place, and
the two ends of the interval around it. -/
structure Interval where
  low : Nat
  middle : Nat
  high : Nat
  denominator : Nat
  /-- Whether the ends belong to the interval. -/
  closed : Bool

/-- The interval of a positive number. Below a power of two the neighbour is only half as far. -/
def interval (x : Binary64) : Interval :=
  let shift := (x.exponent - 2).toNat
  let below := if x.mantissa == 1 <<< 52 && x.exponent > -1074 then 1 else 2
  { low := (4 * x.mantissa - below) <<< shift
    middle := (4 * x.mantissa) <<< shift
    high := (4 * x.mantissa + 2) <<< shift
    denominator := 1 <<< (2 - x.exponent).toNat
    closed := x.mantissa % 2 == 0 }

/-- Whether `digits · 10 ^ exponent` lies in the interval. -/
def Interval.holds (i : Interval) (digits : Nat) (exponent : Int) : Bool :=
  let scale := tenTo (-exponent).toNat
  let here := digits * tenTo exponent.toNat * i.denominator
  if i.closed then i.low * scale ≤ here && here ≤ i.high * scale
  else i.low * scale < here && here < i.high * scale

/-- The decimal exponent of the leading digit of `num / den`. -/
def leadingExponent (num den : Nat) : Int :=
  if den ≤ num then (digitCount (num / den) : Int) - 1
  else
    let places := digitCount (den / num)
    if den ≤ num * tenTo (places - 1) then 1 - (places : Int) else -(places : Int)

/-- The decimal with `count` digits that lies in the interval, if there is one: the nearer of the
two neighbours of the middle, a tie to the even digit. -/
def Interval.decimal? (i : Interval) (leading : Int) (count : Nat) : Option (Nat × Int) :=
  let exponent := leading - count + 1
  let num := i.middle * tenTo (-exponent).toNat
  let den := i.denominator * tenTo exponent.toNat
  let floor := num / den
  let rest := num % den
  let nearest := if 2 * rest > den || (2 * rest == den && floor % 2 == 1) then floor + 1 else floor
  let other := if nearest == floor then floor + 1 else floor
  if i.holds nearest exponent then some (nearest, exponent)
  else if i.holds other exponent then some (other, exponent)
  else none

/-- The first answer for a digit count from `count` on, of at most `fuel` counts. -/
def Interval.search (i : Interval) (leading : Int) : Nat → Nat → Nat × Int
  | 0, _ => (0, 0)
  | fuel + 1, count =>
    match i.decimal? leading count with
    | some found => found
    | none => i.search leading fuel (count + 1)

/-- The digits of a number without zeros at the end, and the decimal exponent of the first digit.

Seventeen digits always suffice to tell a number of the format from its neighbours. -/
def shortest (x : Binary64) : List Char × Int :=
  if x.isZero then (['0'], 0)
  else
    let i := x.interval
    let (digits, exponent) := i.search (leadingExponent i.middle i.denominator) 17 1
    let written := Nat.toDigits 10 digits
    ((written.reverse.dropWhile (· == '0')).reverse, exponent + written.length - 1)

/-! ## Text -/

/-- The digits with a decimal point and at least one digit on each side of it. -/
def positional (digits : List Char) (leading : Int) : List Char :=
  if leading < 0 then
    '0' :: '.' :: List.replicate (-leading - 1).toNat '0' ++ digits
  else
    let places := leading.toNat + 1
    let whole := digits.take places ++ List.replicate (places - digits.length) '0'
    let fraction := digits.drop places
    whole ++ '.' :: (if fraction.isEmpty then ['0'] else fraction)

/-- The digits with a power of ten behind them. -/
def scientific (digits : List Char) (leading : Int) : List Char :=
  let fraction := digits.drop 1
  let power := Nat.toDigits 10 leading.natAbs
  digits.take 1 ++ (if fraction.isEmpty then [] else '.' :: fraction)
    ++ ['e', if leading < 0 then '-' else '+'] ++ power

/-- The sign in front of a text. -/
def signed (x : Binary64) (magnitude : List Char) : String :=
  String.ofList (if x.negative then '-' :: magnitude else magnitude)

/-- The text of a number in data: positional while the decimal exponent is between −5 and 15. -/
def text (x : Binary64) : String :=
  let (digits, leading) := x.shortest
  x.signed (if -5 ≤ leading && leading ≤ 15 then positional digits leading
    else scientific digits leading)

/-- The text of a number on a page: always positional. -/
def plainText (x : Binary64) : String :=
  let (digits, leading) := x.shortest
  x.signed (positional digits leading)

end Binary64

end HostsBlock
