import Dossier.Proofs.Number.Exact
import Mathlib.Tactic

/-! The bits of a double, read back from what it denotes. Among the doubles other than the zeros and
those that are not a number, no two denote the same. -/

namespace Dossier.Double

/-! ### The fields of the bits -/

theorem bits_eq (x : Double) :
    x.bits.toNat = (if x.isNegative then 0x8000000000000000 else 0) +
      x.exponentField * 0x10000000000000 + x.fractionField := by
  have hlt : x.bits.toNat < 0x10000000000000000 := x.bits.toNat_lt
  unfold isNegative exponentField fractionField
  split_ifs with h
  · have := of_decide_eq_true h
    omega
  · simp only [decide_eq_true_eq] at h
    omega

theorem eq_of_fields {x y : Double} (hs : x.isNegative = y.isNegative)
    (he : x.exponentField = y.exponentField) (hf : x.fractionField = y.fractionField) : x = y := by
  have hbits : x.bits.toNat = y.bits.toNat := by
    rw [bits_eq x, bits_eq y, hs, he, hf]
  obtain ⟨a⟩ := x
  obtain ⟨b⟩ := y
  exact congrArg _ (UInt64.toNat_inj.mp hbits)

theorem fractionField_lt (x : Double) : x.fractionField < 0x10000000000000 :=
  Nat.mod_lt _ (by decide)

/-! ### Units -/

theorem units_eq (x : Double) : x.units = x.significand * 2 ^ x.scale := Nat.shiftLeft_eq _ _

/-- All doubles of one exponent lie below the least of the next. -/
theorem units_lt (x : Double) : x.units < 0x10000000000000 * 2 ^ x.exponentField := by
  have hf := fractionField_lt x
  rw [units_eq, scale, significand]
  cases he : x.exponentField with
  | zero => simpa using hf
  | succ n =>
    rw [if_neg (Nat.succ_ne_zero n), Nat.add_sub_cancel, Nat.pow_succ']
    have hpos : 0 < 2 ^ n := Nat.two_pow_pos n
    have hlt : 0x10000000000000 + x.fractionField < 0x10000000000000 * 2 := by omega
    calc (0x10000000000000 + x.fractionField) * 2 ^ n
        < 0x10000000000000 * 2 * 2 ^ n := Nat.mul_lt_mul_of_pos_right hlt hpos
      _ = 0x10000000000000 * (2 * 2 ^ n) := Nat.mul_assoc _ _ _

theorem le_units {x : Double} (h : x.exponentField ≠ 0) :
    0x10000000000000 * 2 ^ (x.exponentField - 1) ≤ x.units := by
  rw [units_eq, scale, significand, if_neg h]
  exact Nat.mul_le_mul_right _ (Nat.le_add_right _ _)

theorem units_lt_of_exponentField_lt {x y : Double} (h : x.exponentField < y.exponentField) :
    x.units < y.units := by
  calc x.units < 0x10000000000000 * 2 ^ x.exponentField := units_lt x
    _ ≤ 0x10000000000000 * 2 ^ (y.exponentField - 1) :=
      Nat.mul_le_mul_left _ (Nat.pow_le_pow_right (by decide) (by omega))
    _ ≤ y.units := le_units (by omega)

theorem fields_eq_of_units_eq {x y : Double} (h : x.units = y.units) :
    x.exponentField = y.exponentField ∧ x.fractionField = y.fractionField := by
  have he : x.exponentField = y.exponentField := by
    rcases Nat.lt_trichotomy x.exponentField y.exponentField with hlt | heq | hgt
    · have := units_lt_of_exponentField_lt hlt
      omega
    · exact heq
    · have := units_lt_of_exponentField_lt hgt
      omega
  refine ⟨he, ?_⟩
  rw [units_eq, units_eq, scale, scale, he] at h
  have hs := Nat.eq_of_mul_eq_mul_right (Nat.two_pow_pos _) h
  rw [significand, significand, he] at hs
  split_ifs at hs <;> omega

/-! ### Magnitudes -/

theorem units_of_magnitude {x : Double} {units : Int} (h : x.magnitude = .finite units) :
    units = if x.isNegative then -(x.units : Int) else x.units := by
  unfold magnitude at h
  split at h
  · exact (Magnitude.finite.inj h).symm
  · split at h <;> cases h

theorem fields_of_magnitude_infinite {x : Double} {negative : Bool}
    (h : x.magnitude = .infinite negative) :
    x.isNegative = negative ∧ x.exponentField = 2047 ∧ x.fractionField = 0 := by
  unfold magnitude at h
  split_ifs at h with hf hn
  have he : x.exponentField = 2047 := by simpa [isFinite] using hf
  refine ⟨Magnitude.infinite.inj h, he, ?_⟩
  simpa [isNaN, he] using hn

/-- Two doubles that denote the same are the same, unless they are zeros or not numbers. -/
theorem eq_of_magnitude_eq {x y : Double} (h : x.magnitude = y.magnitude)
    (hnan : x.magnitude ≠ .nan) (hzero : x.magnitude ≠ .finite 0) : x = y := by
  cases hx : x.magnitude with
  | nan => exact absurd hx hnan
  | infinite negative =>
    obtain ⟨hs, he, hf⟩ := fields_of_magnitude_infinite hx
    obtain ⟨hs', he', hf'⟩ := fields_of_magnitude_infinite (h.symm.trans hx)
    exact eq_of_fields (hs.trans hs'.symm) (he.trans he'.symm) (hf.trans hf'.symm)
  | finite units =>
    have hne : units ≠ 0 := by
      rintro rfl
      exact hzero hx
    have hux := units_of_magnitude hx
    have huy := units_of_magnitude (h.symm.trans hx)
    -- of opposite signs the units would lie on both sides of zero
    have hsame : x.isNegative = y.isNegative ∧ x.units = y.units := by
      cases hsx : x.isNegative <;> cases hsy : y.isNegative <;>
        simp only [hsx, hsy, if_true, if_false, Bool.false_eq_true] at hux huy <;>
        first | exact ⟨rfl, by omega⟩ | omega
    obtain ⟨he, hf⟩ := fields_eq_of_units_eq hsame.2
    exact eq_of_fields hsame.1 he hf

end Dossier.Double
