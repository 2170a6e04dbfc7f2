import Dossier.Number.Shortest

/-! Numbers: whole ones with and without a sign, and doubles. They are compared without rounding,
whatever their kind. -/

namespace Dossier

inductive Number where
  | signed (n : Int64)
  | unsigned (n : UInt64)
  | double (x : Double)
  deriving DecidableEq, Inhabited

namespace Number

/-- The whole number of the two integral kinds. -/
def integer? : Number → Option Int
  | signed n => some n.toInt
  | unsigned n => some n.toNat
  | double _ => none

/-- The integral kinds as a signed integer, where it fits. -/
def signed? : Number → Option Int64
  | signed n => some n
  | unsigned n => if n.toNat < 0x8000000000000000 then some n.toInt64 else none
  | double _ => none

/-- The nearest double. -/
def toDouble : Number → Double
  | signed n => .ofInt n.toInt
  | unsigned n => .ofInt n.toNat
  | double x => x

/-- What the number denotes. -/
def magnitude : Number → Magnitude
  | signed n => .ofInt n.toInt
  | unsigned n => .ofInt n.toNat
  | double x => x.magnitude

/-- The order of two numbers, exact also where one is an integer and the other a double. -/
def compare (a b : Number) : Ordering :=
  match a.integer?, b.integer? with
  | some m, some n => Ord.compare m n
  | some m, none => Double.compareInteger m b.toDouble
  | none, some n => (Double.compareInteger n a.toDouble).swap
  | none, none => a.toDouble.compare b.toDouble

/-- Equality: of two doubles as doubles, and otherwise by the order. -/
def equal (a b : Number) : Bool :=
  match a, b with
  | double x, double y => x.equal y
  | a, b => a.compare b == .eq

/-- A whole number as a signed or else an unsigned one, where it fits. -/
def ofInt? (n : Int) : Option Number :=
  if -0x8000000000000000 ≤ n ∧ n < 0x8000000000000000 then some (signed (.ofInt n))
  else if 0 ≤ n ∧ n < 0x10000000000000000 then some (unsigned (.ofNat n.toNat))
  else none

/-- The smallest kind that holds a whole number: signed, then unsigned, then the nearest double. -/
def ofInt (n : Int) : Number := (ofInt? n).getD (double (.ofInt n))

/-! ### Text -/

/-- Plain text: a double that denotes a whole number below `10 ^ 15` is written like an integer. -/
def plainText : Number → String
  | signed n => toString n.toInt
  | unsigned n => toString n.toNat
  | double x =>
    match x.magnitude.toInt? with
    | some n => if n.natAbs < 1000000000000000 then toString n else x.plainText
    | none => x.plainText

/-- Text that tells the kinds apart. -/
def inspect : Number → String
  | signed n => "i64(" ++ toString n.toInt ++ ")"
  | unsigned n => "u64(" ++ toString n.toNat ++ ")"
  | double x => "f64(" ++ x.plainText ++ ")"

end Number

end Dossier
