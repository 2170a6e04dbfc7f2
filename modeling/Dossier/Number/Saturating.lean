/-! Arithmetic that stops at the ends of its range. -/

namespace Dossier.Saturating

/-- The largest unsigned integer of sixty-four bits. -/
def largest : UInt64 := 18446744073709551615

def add (a b : UInt64) : UInt64 := if a.toNat + b.toNat < UInt64.size then a + b else largest

def mul (a b : UInt64) : UInt64 := if a.toNat * b.toNat < UInt64.size then a * b else largest

/-- A sum kept within the range of signed integers of 128 bits. -/
def addWide (a b : Int) : Int :=
  max (-0x80000000000000000000000000000000) (min (a + b) 0x7fffffffffffffffffffffffffffffff)

theorem toNat_add (a b : UInt64) : (add a b).toNat = min (a.toNat + b.toNat) (UInt64.size - 1) := by
  rw [add]
  split
  case isTrue h =>
    rw [UInt64.toNat_add, Nat.mod_eq_of_lt h]
    omega
  case isFalse h =>
    change UInt64.size - 1 = _
    omega

theorem toNat_mul (a b : UInt64) : (mul a b).toNat = min (a.toNat * b.toNat) (UInt64.size - 1) := by
  rw [mul]
  split
  case isTrue h =>
    rw [UInt64.toNat_mul, Nat.mod_eq_of_lt h]
    omega
  case isFalse h =>
    change UInt64.size - 1 = _
    omega

/-- A sum that is within the range is kept as it is. -/
theorem addWide_of_fits {a b : Int} (hl : -0x80000000000000000000000000000000 ≤ a + b)
    (hu : a + b ≤ 0x7fffffffffffffffffffffffffffffff) : addWide a b = a + b := by
  rw [addWide]
  omega

end Dossier.Saturating
