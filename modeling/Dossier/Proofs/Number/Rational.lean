import Dossier.Proofs.Number.Bits
import Dossier.Value.Order
import Mathlib.Algebra.Order.Field.Rat
import Mathlib.Order.Compare
import Mathlib.Order.WithBot

/-! The rational number that a number denotes. A double has the value that its format gives to its
three fields, with two infinities around all rational numbers, and what is not a number comes after
everything. Numbers are in the order of these values, whatever their kinds. -/

namespace Dossier

/-- The rational numbers with one more value below them and two more above. -/
abbrev ExtendedRat := WithBot (WithTop (WithTop ℚ))

namespace ExtendedRat

def rational (q : ℚ) : ExtendedRat := ((q : WithTop ℚ) : WithTop (WithTop ℚ))

def infinite (negative : Bool) : ExtendedRat :=
  if negative then ⊥ else ((⊤ : WithTop ℚ) : WithTop (WithTop ℚ))

def nan : ExtendedRat := ⊤

theorem rational_strictMono : StrictMono rational := fun _ _ h =>
  WithBot.coe_lt_coe.mpr (WithTop.coe_lt_coe.mpr (WithTop.coe_lt_coe.mpr h))

@[simp] theorem infinite_true_lt_rational (q : ℚ) : infinite true < rational q :=
  WithBot.bot_lt_coe _

@[simp] theorem rational_lt_infinite_false (q : ℚ) : rational q < infinite false :=
  WithBot.coe_lt_coe.mpr (WithTop.coe_lt_coe.mpr (WithTop.coe_lt_top q))

@[simp] theorem infinite_true_lt_infinite_false : infinite true < infinite false :=
  (infinite_true_lt_rational 0).trans (rational_lt_infinite_false 0)

@[simp] theorem infinite_false_lt_nan : infinite false < nan :=
  WithBot.coe_lt_coe.mpr (WithTop.coe_lt_top ⊤)

@[simp] theorem rational_lt_nan (q : ℚ) : rational q < nan :=
  (rational_lt_infinite_false q).trans infinite_false_lt_nan

@[simp] theorem infinite_true_lt_nan : infinite true < nan :=
  infinite_true_lt_infinite_false.trans infinite_false_lt_nan

end ExtendedRat

/-! ### Doubles -/

namespace Double

/-- The absolute value of a finite double: the fraction, below one where the exponent field is zero
and above one otherwise, times a power of two. -/
def absRat (x : Double) : ℚ :=
  if x.exponentField = 0 then 2 ^ (-1022 : ℤ) * (x.fractionField / 2 ^ 52)
  else 2 ^ ((x.exponentField : ℤ) - 1023) * (1 + x.fractionField / 2 ^ 52)

/-- The value of a finite double; that of both zeros is zero. -/
def toRat (x : Double) : ℚ := if x.isNegative then -x.absRat else x.absRat

/-- What the bits of a double stand for. -/
def exact (x : Double) : ExtendedRat :=
  if x.exponentField = 2047 then
    if x.fractionField = 0 then .infinite x.isNegative else .nan
  else .rational x.toRat

end Double

namespace Number

/-- What a number denotes: a whole number itself, and a double what its bits stand for. -/
def exact : Number → ExtendedRat
  | signed n => .rational n.toInt
  | unsigned n => .rational n.toNat
  | double x => x.exact

end Number

/-! ### Units -/

namespace Magnitude

/-- The value of a magnitude, whose unit is `2 ^ (-1074)`. -/
def exact : Magnitude → ExtendedRat
  | .nan => .nan
  | .infinite negative => .infinite negative
  | .finite units => .rational (units / one)

theorem one_cast : (one : ℚ) = 2 ^ 1022 * 2 ^ 52 := by
  have hshift : ∀ n : Nat, ((1 <<< n : Nat) : ℚ) = 2 ^ n := by
    intro n
    rw [Nat.one_shiftLeft, Nat.cast_pow, Nat.cast_ofNat]
  exact (hshift 1074).trans (pow_add 2 1022 52)

theorem zero_lt_one : 0 < one := Int.natCast_pos.mp one_pos

theorem one_cast_pos : (0 : ℚ) < one := Nat.cast_pos.mpr zero_lt_one

theorem exact_ofInt (n : Int) : (ofInt n).exact = .rational n := by
  rw [ofInt, exact, Int.cast_mul, Int.cast_natCast, mul_div_cancel_right₀ _ one_cast_pos.ne']

theorem compare_eq_cmp (a b : Magnitude) : a.compare b = cmp a.exact b.exact := by
  have hmono : StrictMono fun units : Int => ExtendedRat.rational (units / one) := by
    intro m n hmn
    refine ExtendedRat.rational_strictMono ?_
    exact div_lt_div_of_pos_right (Int.cast_lt.mpr hmn) one_cast_pos
  rcases a with _ | (_ | _) | a <;> rcases b with _ | (_ | _) | b
  case finite.finite => exact (cmp_eq_compare a b).symm.trans (hmono.cmp_map_eq a b).symm
  -- all other pairs are of one value or of two that lie in different bands
  all_goals first
    | exact (cmp_self_eq_eq _).symm
    | exact ((cmp_eq_lt_iff _ _).mpr (by simp [exact])).symm
    | exact ((cmp_eq_gt_iff _ _).mpr (by simp [exact])).symm

end Magnitude

namespace Double

/-- The significand of a double is the hidden digit and the fraction, so many times smaller. -/
theorem significand_div (x : Double) :
    (x.significand : ℚ) / 2 ^ 52 =
      if x.exponentField = 0 then (x.fractionField : ℚ) / 2 ^ 52
      else 1 + (x.fractionField : ℚ) / 2 ^ 52 := by
  unfold significand
  split_ifs
  · rfl
  · rw [Nat.cast_add, add_div]
    norm_num

theorem absRat_eq_zpow (x : Double) :
    x.absRat = 2 ^ ((x.scale : ℤ) - 1022) * (x.significand / 2 ^ 52) := by
  rw [absRat, significand_div, scale]
  split_ifs with he
  · rw [he]
    rfl
  · have hscale : ((x.exponentField - 1 : Nat) : ℤ) - 1022 = x.exponentField - 1023 := by omega
    rw [hscale]

theorem absRat_eq (x : Double) : x.absRat = x.units / Magnitude.one := by
  rw [absRat_eq_zpow, units_eq, Magnitude.one_cast, zpow_sub₀ two_ne_zero, zpow_natCast,
    zpow_ofNat, div_mul_div_comm, Nat.cast_mul, Nat.cast_pow, Nat.cast_ofNat,
    mul_comm (2 ^ x.scale : ℚ)]

theorem exact_eq (x : Double) : x.exact = x.magnitude.exact := by
  unfold exact magnitude isFinite isNaN
  by_cases he : x.exponentField = 2047
  · by_cases hf : x.fractionField = 0 <;> simp [he, hf, Magnitude.exact]
  · cases hs : x.isNegative <;>
      simp [he, hs, Magnitude.exact, toRat, absRat_eq, neg_div]

end Double

namespace Number

theorem exact_eq (a : Number) : a.exact = a.magnitude.exact := by
  cases a with
  | signed n => exact (Magnitude.exact_ofInt n.toInt).symm
  | unsigned n => exact (Magnitude.exact_ofInt n.toNat).symm
  | double x => exact x.exact_eq

theorem equal_iff_exact_eq {a b : Number} : a.equal b = true ↔ a.exact = b.exact := by
  rw [equal_iff, compare_eq, Magnitude.compare_eq_cmp, cmp_eq_eq_iff, exact_eq a, exact_eq b]

theorem exact_of_integer {a : Number} {n : Int} (h : a.integer? = some n) :
    a.exact = .rational n := by
  rw [exact_eq, magnitude_of_integer h, Magnitude.exact_ofInt]

end Number

/-- Numbers compare by exact value. Whatever the kinds of two numbers, their order is that of the
rational numbers that they denote, with minus infinity below all of these, infinity above, and what
is not a number above that; they are equal when they denote the same. -/
theorem numbers_compare_exactly (a b : Number) :
    (Value.number a).compare (.number b) = cmp a.exact b.exact ∧
      ((Value.number a).equal (.number b) = true ↔ a.exact = b.exact) := by
  have hcmp : a.compare b = cmp a.exact b.exact := by
    rw [Number.compare_eq, Magnitude.compare_eq_cmp, a.exact_eq, b.exact_eq]
  refine ⟨hcmp, ?_⟩
  rw [Value.equal, Number.equal_iff, hcmp, cmp_eq_eq_iff]

example : (Value.signed (-1)).compare (.double ⟨0xbff8000000000000⟩) = .gt ∧
    Double.toRat ⟨0xbff8000000000000⟩ = -3 / 2 := by decide +kernel

end Dossier
