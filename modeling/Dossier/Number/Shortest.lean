import Dossier.Number.Double

/-! The shortest decimal that reads back as a given double, and the two ways of laying it out: plain
notation, and the notation of JSON, which turns to an exponent for very large and very small
numbers. -/

namespace Dossier

/-- A positive decimal: its digits, none of them a trailing zero, and the power of ten of the first.
-/
structure Decimal where
  digits : List Char
  exponent : Int
  deriving DecidableEq, Inhabited

/-- A number times a power of ten, without the zeros that the number ends in. -/
def Decimal.ofMultiple (count : Nat) (power : Int) : Decimal :=
  let digits := Nat.toDigits 10 count
  ⟨(digits.reverse.dropWhile (· == '0')).reverse, power + digits.length - 1⟩

/-- Which of two equally near decimals stands for a double. -/
inductive Tie where
  | up
  | even
  deriving DecidableEq

namespace Double

/-- The numbers that round to a positive double, in quarters of a unit, and whether the two ends
round to it as well. Below a power of two the next double is only half as far away. -/
structure Interval where
  low : Nat
  value : Nat
  high : Nat
  closed : Bool

def interval (x : Double) : Interval :=
  let gap := 1 <<< x.scale
  let below := if x.fractionField = 0 && decide (1 < x.exponentField) then gap else 2 * gap
  ⟨4 * x.units - below, 4 * x.units, 4 * x.units + 2 * gap, x.significand % 2 == 0⟩

/-- Whether `count * step / parts` lies in the interval. -/
def Interval.holds (i : Interval) (step parts count : Nat) : Bool :=
  if i.closed then decide (i.low * parts ≤ count * step) && decide (count * step ≤ i.high * parts)
  else decide (i.low * parts < count * step) && decide (count * step < i.high * parts)

/-- The multiple of `step / parts` in the interval that is nearest to the value, if there is one: it
is one of the value's two neighbours. -/
def Interval.nearest? (tie : Tie) (i : Interval) (step parts : Nat) : Option Nat :=
  let below := i.value * parts / step
  let lower := i.value * parts - below * step
  let upper := step - lower
  match i.holds step parts below, i.holds step parts (below + 1) with
  | true, false => some below
  | false, true => some (below + 1)
  | false, false => none
  | true, true =>
    if lower < upper then some below
    else if upper < lower then some (below + 1)
    else match tie with
      | .up => some (below + 1)
      | .even => some (below + below % 2)

/-- The power of ten of the first digit of a positive number of units. -/
def leadingPower (units : Nat) : Int :=
  ((Nat.toDigits 10 (units * Nat.pow 10 400 / Magnitude.one)).length : Int) - 401

/-- The nearest multiple of `10 ^ power` in the interval, if there is one. -/
def nearestMultiple? (tie : Tie) (i : Interval) (power : Int) : Option Nat :=
  match power with
  | .ofNat n => i.nearest? tie (4 * Magnitude.one * Nat.pow 10 n) 1
  | .negSucc n => i.nearest? tie (4 * Magnitude.one) (Nat.pow 10 (n + 1))

/-- The nearest multiple of the largest power of ten that has one in the interval, searched from
`power` down. -/
def findMultiple (tie : Tie) (i : Interval) (power : Int) : Nat → Nat × Int
  | 0 => (0, power)
  | fuel + 1 =>
    match nearestMultiple? tie i power with
    | some n => (n, power)
    | none => findMultiple tie i (power - 1) fuel

/-- The decimal with the fewest digits that reads back as the double, and of those the nearest to
it. Seventeen digits always suffice. The double is finite and not zero. -/
def shortest (tie : Tie) (x : Double) : Decimal :=
  let found := findMultiple tie x.interval (leadingPower x.units) 18
  .ofMultiple found.1 found.2

end Double

namespace Decimal

def zeros (n : Nat) : List Char := List.replicate n '0'

/-- Digits and point only; a whole number is followed by `fraction`. -/
def positional (fraction : List Char) (d : Decimal) : List Char :=
  match d.exponent with
  | .negSucc n => '0' :: '.' :: (zeros n ++ d.digits)
  | .ofNat n =>
    if d.digits.length ≤ n + 1 then d.digits ++ zeros (n + 1 - d.digits.length) ++ fraction
    else d.digits.take (n + 1) ++ '.' :: d.digits.drop (n + 1)

/-- One digit, the others behind a point, and the power of ten with its sign. -/
def scientific (d : Decimal) : List Char :=
  let mantissa := match d.digits with
    | first :: second :: rest => first :: '.' :: second :: rest
    | digits => digits
  let sign := if d.exponent < 0 then '-' else '+'
  mantissa ++ 'e' :: sign :: Nat.toDigits 10 d.exponent.natAbs

end Decimal

namespace Double

def signed (x : Double) (text : List Char) : String :=
  String.ofList (if x.isNegative then '-' :: text else text)

/-- Plain notation: no exponent, and a point only before a fraction. -/
def plainText (x : Double) : String :=
  if x.isNaN then "NaN"
  else if !x.isFinite then x.signed ['i', 'n', 'f']
  else if x.units = 0 then x.signed ['0']
  else x.signed ((x.shortest .up).positional [])

/-- The notation of JSON for a finite number: always a point or an exponent, and an exponent from
`1e16` on and below `1e-5`. -/
def jsonText (x : Double) : String :=
  if x.units = 0 then x.signed ['0', '.', '0']
  else
    let d := x.shortest .even
    x.signed (if -5 ≤ d.exponent ∧ d.exponent ≤ 15 then d.positional ['.', '0'] else d.scientific)

end Double

end Dossier
