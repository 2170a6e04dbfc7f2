import Dossier.Number.Shortest
import Dossier.Proofs.Number.Bits

/-! The numbers that round to a double. They are an interval around it that no other double shares a
number with: where the intervals of two neighbours touch, the common end belongs to the one of even
significand. An interval is wide enough for a number of seventeen digits. All of it is counted in
quarters of a unit, so that the ends are whole. -/

namespace Dossier.Double

/-! ### Intervals -/

namespace Interval

def Contains (i : Interval) (q : ℚ) : Prop :=
  if i.closed then i.low ≤ q ∧ q ≤ i.high else i.low < q ∧ q < i.high

variable {i : Interval} {p q r : ℚ}

theorem Contains.bounds (h : i.Contains q) : i.low ≤ q ∧ q ≤ i.high := by
  unfold Contains at h
  split_ifs at h
  · exact h
  · exact ⟨h.1.le, h.2.le⟩

theorem Contains.strict (h : i.Contains q) (ho : i.closed = false) : i.low < q ∧ q < i.high := by
  rwa [Contains, ho, if_neg Bool.false_ne_true] at h

theorem contains_of_lt (hl : i.low < q) (hr : q < i.high) : i.Contains q := by
  unfold Contains
  split_ifs
  · exact ⟨hl.le, hr.le⟩
  · exact ⟨hl, hr⟩

theorem Contains.between (hp : i.Contains p) (hr : i.Contains r) (hpq : p ≤ q) (hqr : q ≤ r) :
    i.Contains q := by
  unfold Contains at *
  split_ifs at *
  · exact ⟨hp.1.trans hpq, hqr.trans hr.2⟩
  · exact ⟨hp.1.trans_le hpq, hqr.trans_lt hr.2⟩

theorem holds_eq_true_iff {step parts count : Nat} (hparts : 0 < parts) :
    i.holds step parts count = true ↔ i.Contains (count * (step / parts)) := by
  have hpos : (0 : ℚ) < parts := Nat.cast_pos.mpr hparts
  have hle : ∀ m : Nat, (m : ℚ) ≤ count * (step / parts) ↔ m * parts ≤ count * step := by
    intro m
    rw [← mul_div_assoc, le_div_iff₀ hpos]
    exact_mod_cast Iff.rfl
  have hge : ∀ m : Nat, (count * (step / parts) : ℚ) ≤ m ↔ count * step ≤ m * parts := by
    intro m
    rw [← mul_div_assoc, div_le_iff₀ hpos]
    exact_mod_cast Iff.rfl
  unfold holds Contains
  split_ifs
  · rw [Bool.and_eq_true, decide_eq_true_iff, decide_eq_true_iff, hle, hge]
  · rw [Bool.and_eq_true, decide_eq_true_iff, decide_eq_true_iff, ← not_le (a := (_ : ℚ)), hge,
      ← not_le (a := (_ : ℚ)), hle, not_le, not_le]

theorem exists_contains_mul {s : ℚ} (hs : 0 < s) (hwide : i.low + s < i.high) :
    ∃ count : ℕ, i.Contains (count * s) := by
  refine ⟨⌊i.low / s⌋₊ + 1, contains_of_lt ?_ ?_⟩
  · have habove := Nat.lt_floor_add_one (i.low / s : ℚ)
    rw [div_lt_iff₀ hs] at habove
    exact_mod_cast habove
  · have hbelow := Nat.floor_le (a := (i.low / s : ℚ)) (by positivity)
    rw [le_div_iff₀ hs] at hbelow
    calc ((⌊(i.low / s : ℚ)⌋₊ + 1 : ℕ) * s : ℚ) = ⌊(i.low / s : ℚ)⌋₊ * s + s := by push_cast; ring
      _ ≤ i.low + s := by gcongr
      _ < i.high := hwide

/-- One interval ends before another starts, or where it does, and then one of the two leaves its
end out. -/
def Before (i j : Interval) : Prop :=
  i.high ≤ j.low ∧ (i.high = j.low → i.closed = false ∨ j.closed = false)

theorem Before.not_contains {j : Interval} (h : i.Before j) (hi : i.Contains q) :
    ¬ j.Contains q := by
  intro hj
  have hle : (i.high : ℚ) ≤ j.low := Nat.cast_le.mpr h.1
  have htouch : i.high = j.low := by
    refine le_antisymm h.1 ?_
    exact_mod_cast hj.bounds.1.trans hi.bounds.2
  rcases h.2 htouch with ho | ho
  · exact absurd ((hi.strict ho).2.trans_le hle) hj.bounds.1.not_gt
  · exact absurd (hle.trans_lt (hj.strict ho).1) hi.bounds.2.not_gt

end Interval

/-! ### The interval of a double -/

/-- How far away the next greater double is, in units. -/
def gap (x : Double) : Nat := 2 ^ x.scale

/-- Whether the double before it is only half as far away as the one after it. -/
def AtStep (x : Double) : Prop := x.fractionField = 0 ∧ 1 < x.exponentField

instance (x : Double) : Decidable x.AtStep := inferInstanceAs (Decidable (_ ∧ _))

variable {x y : Double}

theorem gap_pos (x : Double) : 0 < x.gap := Nat.two_pow_pos _

theorem units_eq_mul_gap (x : Double) : x.units = x.significand * x.gap := units_eq x

theorem significand_lt (x : Double) : x.significand < 0x20000000000000 := by
  have hf := fractionField_lt x
  unfold significand
  split_ifs <;> omega

theorem significand_eq_of_atStep (h : x.AtStep) : x.significand = 0x10000000000000 := by
  rw [significand, if_neg (by have := h.2; omega), h.1]

theorem le_significand (h : x.exponentField ≠ 0) : 0x10000000000000 ≤ x.significand := by
  rw [significand, if_neg h]
  exact Nat.le_add_right _ _

theorem units_lt_mul_gap (x : Double) : x.units + x.gap ≤ 0x20000000000000 * x.gap := by
  have hs := significand_lt x
  calc x.units + x.gap = (x.significand + 1) * x.gap := by rw [units_eq_mul_gap]; ring
    _ ≤ 0x20000000000000 * x.gap := Nat.mul_le_mul_right _ hs

theorem mul_gap_le_units (h : x.exponentField ≠ 0) : 0x10000000000000 * x.gap ≤ x.units := by
  rw [units_eq_mul_gap]
  exact Nat.mul_le_mul_right _ (le_significand h)

theorem gap_le_units (h : x.units ≠ 0) : x.gap ≤ x.units := by
  rw [units_eq_mul_gap] at h ⊢
  exact Nat.le_mul_of_pos_left _ (Nat.pos_of_ne_zero (left_ne_zero_of_mul h))

theorem interval_high (x : Double) : x.interval.high = 4 * x.units + 2 * x.gap := by
  rw [interval, gap, Nat.one_shiftLeft]

theorem interval_low (x : Double) :
    x.interval.low = 4 * x.units - if x.AtStep then x.gap else 2 * x.gap := by
  unfold interval gap AtStep
  simp only [Nat.one_shiftLeft, Bool.and_eq_true, decide_eq_true_iff]
  congr

theorem interval_closed (x : Double) : x.interval.closed = (x.significand % 2 == 0) := rfl

theorem low_add_gap_le (h : x.units ≠ 0) : x.interval.low + x.gap ≤ 4 * x.units := by
  have hgap := gap_le_units h
  rw [interval_low]
  split_ifs <;> omega

theorem le_low_add_gap (x : Double) : 4 * x.units ≤ x.interval.low + 2 * x.gap := by
  rw [interval_low]
  split_ifs <;> omega

theorem contains_units (h : x.units ≠ 0) : x.interval.Contains (4 * x.units : ℕ) := by
  have hlow := low_add_gap_le h
  have hpos := x.gap_pos
  refine Interval.contains_of_lt (Nat.cast_lt.mpr ?_) (Nat.cast_lt.mpr ?_)
  · omega
  · rw [interval_high]
    omega

/-- No other multiple of the gap rounds to the double. -/
theorem mul_gap_eq_units {k : Nat} (h : x.interval.Contains (4 * (k * x.gap) : ℕ)) :
    k * x.gap = x.units := by
  obtain ⟨hlow, hhigh⟩ := h.bounds
  rw [Nat.cast_le] at hlow hhigh
  have hlow := (le_low_add_gap x).trans (Nat.add_le_add_right hlow _)
  rw [interval_high] at hhigh
  rw [units_eq_mul_gap] at *
  have hle : (4 * x.significand) * x.gap ≤ (4 * k + 2) * x.gap := by linarith
  have hge : (4 * k) * x.gap ≤ (4 * x.significand + 2) * x.gap := by linarith
  have hle := Nat.le_of_mul_le_mul_right hle x.gap_pos
  have hge := Nat.le_of_mul_le_mul_right hge x.gap_pos
  rw [show k = x.significand by omega]

/-- Seventeen digits suffice: the grid of the seventeenth digit is finer than the interval. -/
theorem low_add_lt_high (h : x.units ≠ 0) :
    10 ^ 16 * x.interval.low + 4 * x.units < 10 ^ 16 * x.interval.high := by
  have hgap := gap_le_units h
  have hlt := units_lt_mul_gap x
  have hpos := x.gap_pos
  rw [interval_high, interval_low]
  split_ifs with hstep
  · have hunits := units_eq_mul_gap x
    rw [significand_eq_of_atStep hstep] at hunits
    omega
  · omega

/-! ### Two doubles -/

theorem closed_eq_false (h : x.significand % 2 = 1) : x.interval.closed = false := by
  rw [interval_closed, h]
  rfl

/-- On one scale the greater double is at least one gap away. -/
theorem before_of_scale_eq (h : x.units < y.units) (hscale : x.scale = y.scale) :
    x.interval.Before y.interval := by
  have hgap : x.gap = y.gap := congrArg (2 ^ ·) hscale
  have hsig : x.significand < y.significand := by
    rw [units_eq_mul_gap, units_eq_mul_gap, hgap] at h
    exact Nat.lt_of_mul_lt_mul_right h
  have hy : ¬ y.AtStep := by
    intro hstep
    have hfrom := significand_eq_of_atStep hstep
    have hexp : x.exponentField ≠ 0 := by
      have hone := hstep.2
      unfold scale at hscale
      omega
    have hle := le_significand hexp
    omega
  have hlow : y.interval.low = 4 * y.units - 2 * y.gap := by rw [interval_low, if_neg hy]
  have hnext : x.units + x.gap ≤ y.units := by
    rw [units_eq_mul_gap, units_eq_mul_gap, ← hgap, ← Nat.succ_mul]
    exact Nat.mul_le_mul_right _ hsig
  rw [Interval.Before, interval_high, hlow, ← hgap]
  refine ⟨by omega, fun htouch => ?_⟩
  -- the two significands follow one another, so one of them is odd
  have hunits : x.units + x.gap = y.units := by omega
  have hmul : (x.significand + 1) * x.gap = y.significand * x.gap := by
    rw [Nat.succ_mul, ← units_eq_mul_gap, hunits, hgap, ← units_eq_mul_gap]
  have hsucc := Nat.eq_of_mul_eq_mul_right x.gap_pos hmul
  rcases Nat.mod_two_eq_zero_or_one x.significand with heven | hodd
  · exact .inr (closed_eq_false (by omega))
  · exact .inl (closed_eq_false hodd)

/-- On a greater scale the gap is at least twice as wide. -/
theorem before_of_scale_lt (hscale : x.scale < y.scale) : x.interval.Before y.interval := by
  have hgap : 2 * x.gap ≤ y.gap := by
    rw [gap, gap, ← Nat.pow_succ']
    exact Nat.pow_le_pow_right (by decide) hscale
  have hexp : 1 < y.exponentField := by
    unfold scale at hscale
    omega
  have hpos := x.gap_pos
  have hx := units_lt_mul_gap x
  rw [Interval.Before, interval_high, interval_low]
  split_ifs with hstep
  · have hy : y.units = 0x10000000000000 * y.gap := by
      rw [units_eq_mul_gap, significand_eq_of_atStep hstep]
    refine ⟨by omega, fun htouch => .inl (closed_eq_false ?_)⟩
    -- the lesser double is the last one before a power of two
    have hlast : (x.significand + 1) * x.gap = 0x20000000000000 * x.gap := by
      have hnext : (x.significand + 1) * x.gap = x.units + x.gap := by
        rw [units_eq_mul_gap, Nat.succ_mul]
      have htouch : 4 * x.units + 2 * x.gap + y.gap = 4 * y.units := by omega
      exact hnext.trans (le_antisymm hx (by linarith))
    have hlast := Nat.eq_of_mul_eq_mul_right x.gap_pos hlast
    omega
  · have hy : 0x10000000000001 * y.gap ≤ y.units := by
      have hfraction : y.fractionField ≠ 0 := fun hzero => hstep ⟨hzero, hexp⟩
      have hsig : 0x10000000000001 ≤ y.significand := by
        rw [significand, if_neg (Nat.ne_of_gt (Nat.zero_lt_of_lt hexp))]
        omega
      rw [units_eq_mul_gap]
      exact Nat.mul_le_mul_right _ hsig
    omega

theorem before_of_units_lt (h : x.units < y.units) : x.interval.Before y.interval := by
  rcases Nat.lt_trichotomy x.scale y.scale with hlt | heq | hgt
  · exact before_of_scale_lt hlt
  · exact before_of_scale_eq h heq
  · have hexp : y.exponentField < x.exponentField := by
      unfold scale at hgt
      omega
    exact absurd (units_lt_of_exponentField_lt hexp) h.asymm

/-- No number rounds to two doubles. -/
theorem units_eq_of_contains {q : ℚ} (hx : x.interval.Contains q) (hy : y.interval.Contains q) :
    x.units = y.units := by
  rcases Nat.lt_trichotomy x.units y.units with hlt | heq | hgt
  · exact absurd hy ((before_of_units_lt hlt).not_contains hx)
  · exact heq
  · exact absurd hx ((before_of_units_lt hgt).not_contains hy)

end Dossier.Double
