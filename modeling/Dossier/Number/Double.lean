/-! Binary floating point numbers of sixty-four bits, kept as their bits. Every finite one is a
whole number of `2 ^ (-1074)`, the smallest positive one; comparing and rounding is done on that
whole number, so nothing here depends on machine arithmetic. -/

namespace Dossier

/-- A double, by its bits: a sign, eleven bits of exponent and fifty-two of fraction. -/
structure Double where
  bits : UInt64
  deriving DecidableEq, Inhabited

/-- What a number denotes: a finite one as a whole number of `2 ^ (-1074)`. -/
inductive Magnitude where
  | nan
  | infinite (negative : Bool)
  | finite (units : Int)
  deriving DecidableEq, Inhabited

namespace Magnitude

/-- How many units make one. -/
def one : Nat := 1 <<< 1074

/-- The order of what numbers denote; what is not a number comes last and equals itself. -/
def compare : Magnitude → Magnitude → Ordering
  | .nan, .nan => .eq
  | .nan, _ => .gt
  | _, .nan => .lt
  | .infinite true, .infinite true => .eq
  | .infinite true, _ => .lt
  | _, .infinite true => .gt
  | .infinite false, .infinite false => .eq
  | .infinite false, _ => .gt
  | _, .infinite false => .lt
  | .finite a, .finite b => Ord.compare a b

/-- The whole number it denotes, if it denotes one. -/
def toInt? : Magnitude → Option Int
  | .finite units => if units % one = 0 then some (units / one) else none
  | _ => none

/-- The magnitude of a whole number. -/
def ofInt (n : Int) : Magnitude := .finite (n * one)

end Magnitude

namespace Double

/-- The sign bit. -/
def isNegative (x : Double) : Bool := decide (0x8000000000000000 ≤ x.bits.toNat)

/-- The biased exponent. -/
def exponentField (x : Double) : Nat := x.bits.toNat / 0x10000000000000 % 0x800

/-- The fraction bits. -/
def fractionField (x : Double) : Nat := x.bits.toNat % 0x10000000000000

/-- The integer that the power of two multiplies: the fraction, with the hidden bit where there is
one. -/
def significand (x : Double) : Nat :=
  if x.exponentField = 0 then x.fractionField else 0x10000000000000 + x.fractionField

/-- The exponent of the power of two that multiplies the significand, counted in units. -/
def scale (x : Double) : Nat := x.exponentField - 1

/-- The absolute value of a finite double, in units. -/
def units (x : Double) : Nat := x.significand <<< x.scale

def isFinite (x : Double) : Bool := x.exponentField != 2047

def isNaN (x : Double) : Bool := x.exponentField == 2047 && x.fractionField != 0

def magnitude (x : Double) : Magnitude :=
  if x.isFinite then .finite (if x.isNegative then -x.units else x.units)
  else if x.isNaN then .nan
  else .infinite x.isNegative

/-- The bits that stand for every double that is not a number. -/
def nan : Double := ⟨0x7ff8000000000000⟩

def infinity (negative : Bool) : Double :=
  ⟨if negative then 0xfff0000000000000 else 0x7ff0000000000000⟩

def zero (negative : Bool) : Double := ⟨if negative then 0x8000000000000000 else 0⟩

/-! ### Rounding -/

/-- The whole number nearest to a quotient; a half goes to the even one. -/
def roundQuotient (num den : Nat) : Nat :=
  let q := num / den
  let r := num % den
  if 2 * r < den then q
  else if den < 2 * r then q + 1
  else q + q % 2

/-- The double nearest to a quotient of units, or infinity when it is out of range. The bits of a
double count up by one from one magnitude to the next, so a significand that rounds up to the next
power of two needs no care. -/
def ofUnits (negative : Bool) (num den : Nat) : Double :=
  let exponent := Nat.log2 (num / den) - 52
  let bits := exponent * 0x10000000000000 + roundQuotient num (den <<< exponent)
  if bits < 0x7ff0000000000000 then
    ⟨UInt64.ofNat (if negative then 0x8000000000000000 + bits else bits)⟩
  else infinity negative

/-- The double nearest to a quotient. -/
def ofQuotient (negative : Bool) (num den : Nat) : Double :=
  ofUnits negative (num * Magnitude.one) den

/-- The double nearest to a whole number. -/
def ofInt (n : Int) : Double := ofQuotient (decide (n < 0)) n.natAbs 1

/-! ### Arithmetic -/

def neg (x : Double) : Double := ⟨x.bits ^^^ 0x8000000000000000⟩

/-- The sum, rounded. A sum that is exactly zero is negative only when both terms are. -/
def add (x y : Double) : Double :=
  match x.magnitude, y.magnitude with
  | .nan, _ => nan
  | _, .nan => nan
  | .infinite a, .infinite b => if a = b then infinity a else nan
  | .infinite a, .finite _ => infinity a
  | .finite _, .infinite b => infinity b
  | .finite a, .finite b =>
    if a + b = 0 then zero (x.isNegative && y.isNegative)
    else ofUnits (decide (a + b < 0)) (a + b).natAbs 1

instance : Add Double := ⟨add⟩

/-- The product, rounded. -/
def mul (x y : Double) : Double :=
  let negative := x.isNegative ^^ y.isNegative
  match x.magnitude, y.magnitude with
  | .nan, _ => nan
  | _, .nan => nan
  | .infinite _, .finite b => if b = 0 then nan else infinity negative
  | .finite a, .infinite _ => if a = 0 then nan else infinity negative
  | .infinite _, .infinite _ => infinity negative
  | .finite a, .finite b => ofUnits negative (a.natAbs * b.natAbs) Magnitude.one

instance : Mul Double := ⟨mul⟩

/-- The quotient, rounded. -/
def div (x y : Double) : Double :=
  let negative := x.isNegative ^^ y.isNegative
  match x.magnitude, y.magnitude with
  | .nan, _ => nan
  | _, .nan => nan
  | .infinite _, .finite _ => infinity negative
  | .finite _, .infinite _ => zero negative
  | .infinite _, .infinite _ => nan
  | .finite a, .finite b =>
    if b = 0 then (if a = 0 then nan else infinity negative)
    else ofQuotient negative a.natAbs b.natAbs

instance : Div Double := ⟨div⟩

/-- The whole number a double denotes when it lies within the range of 128-bit integers. -/
def toInt? (x : Double) : Option Int :=
  x.magnitude.toInt?.filter fun n =>
    decide (-0x80000000000000000000000000000000 ≤ n) &&
      decide (n < 0x80000000000000000000000000000000)

/-! ### Comparison -/

/-- The order that floating point arithmetic gives two doubles: none where one is not a number. -/
def compare? (x y : Double) : Option Ordering :=
  if x.isNaN || y.isNaN then none else some (x.magnitude.compare y.magnitude)

/-- Equality as floating point arithmetic has it, except that all that is not a number is equal. -/
def equal (x y : Double) : Bool :=
  if x.isNaN && y.isNaN then true else x.compare? y == some .eq

/-- The order of doubles; what is not a number comes after every other one. -/
def compare (x y : Double) : Ordering :=
  match x.isNaN, y.isNaN with
  | true, true => .eq
  | true, false => .gt
  | false, true => .lt
  | false, false => (x.compare? y).getD .eq

def isPositive (x : Double) : Bool := (zero false).compare? x == some .lt

/-- The greatest whole number not above a double that lies within the range of 128-bit integers. -/
def floor? (x : Double) : Option Int :=
  match x.magnitude with
  | .finite units =>
    if units.natAbs < 0x80000000000000000000000000000000 * Magnitude.one then
      some (units / Magnitude.one)
    else none
  | _ => none

/-- The order of an integer and a double. The integer is not rounded: a double that is a whole number
is compared as one, a fraction lies between its floor and the next integer, and for what is out of
the range of 128-bit integers the sign decides. -/
def compareInteger (n : Int) (x : Double) : Ordering :=
  if x.isNaN then .lt
  else match x.toInt? with
    | some m => Ord.compare n m
    | none =>
      match x.floor? with
      | some m => if n ≤ m then .lt else .gt
      | none => if x.isPositive then .lt else .gt

/-! ### Single precision -/

/-- A number of thirty-two bits, widened: eight bits of exponent and twenty-three of fraction. -/
def ofSingle (bits : UInt32) : Double :=
  let negative := decide (0x80000000 ≤ bits.toNat)
  let exponent := bits.toNat / 0x800000 % 0x100
  let fraction := bits.toNat % 0x800000
  if exponent = 255 then (if fraction = 0 then infinity negative else nan)
  else
    let significand := if exponent = 0 then fraction else 0x800000 + fraction
    ofUnits negative (significand <<< (exponent - 1 + 925)) 1

end Double

end Dossier
