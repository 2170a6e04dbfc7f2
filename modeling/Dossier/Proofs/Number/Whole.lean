import Dossier.Proofs.Number.Shortest

/-! Whole numbers that a double is written as. Below `2 ^ 53` each of them is a double, so no other
reads back from it. Below `2 ^ 54` the odd ones are none and may read back as a neighbour, but
multiples of ten are even; and `2 ^ 54 + 8` is the first double that reads back from a multiple of
ten which it is not. So up to there a double is written as a whole number exactly when it is that
number. -/

namespace Dossier.Double

variable {x : Double} {k m n : Nat} {q : ℚ}

theorem absRat_eq_natCast_iff : x.absRat = n ↔ x.units = n * Magnitude.one := by
  rw [absRat_eq, div_eq_iff Magnitude.one_cast_pos.ne']
  exact_mod_cast Iff.rfl

theorem absRat_lt_natCast_iff : x.absRat < n ↔ x.units < n * Magnitude.one := by
  rw [absRat_eq, div_lt_iff₀ Magnitude.one_cast_pos]
  exact_mod_cast Iff.rfl

theorem natCast_le_absRat_iff : n ≤ x.absRat ↔ n * Magnitude.one ≤ x.units := by
  rw [← not_lt, absRat_lt_natCast_iff, not_lt]

/-! ### Gaps between great doubles -/

theorem exists_one_eq : ∃ k, Magnitude.one = 2 ^ k := by
  rw [Magnitude.one]
  generalize 1074 = k
  exact ⟨k, Nat.one_shiftLeft k⟩

/-- A double whose neighbours are more than one apart. -/
theorem exponentField_ne_zero {e : Nat} (h : e < x.scale) : x.exponentField ≠ 0 := by
  unfold scale at h
  omega

/-- Below `2 ^ (53 + k)` neighbouring doubles are at most `2 ^ k` apart. -/
theorem gap_dvd (h : x.absRat < (0x20000000000000 * 2 ^ k : ℕ)) : x.gap ∣ 2 ^ k * Magnitude.one := by
  obtain ⟨e, hone⟩ := exists_one_eq
  rw [absRat_lt_natCast_iff, hone, mul_assoc, ← pow_add] at h
  rw [hone, ← pow_add]
  refine Nat.pow_dvd_pow 2 (le_of_not_gt fun hlt => ?_)
  have hpow : 2 * 2 ^ (k + e) ≤ x.gap := by
    rw [gap, ← pow_succ']
    exact Nat.pow_le_pow_right (by decide) hlt
  have hle := mul_gap_le_units (exponentField_ne_zero hlt)
  linarith

/-- From `2 ^ (53 + k)` on they are at least `2 ^ (k + 1)` apart. -/
theorem dvd_gap (h : (0x20000000000000 * 2 ^ k : ℕ) ≤ x.absRat) :
    2 ^ (k + 1) * Magnitude.one ∣ x.gap := by
  obtain ⟨e, hone⟩ := exists_one_eq
  rw [natCast_le_absRat_iff, hone, mul_assoc, ← pow_add] at h
  rw [hone, ← pow_add]
  refine Nat.pow_dvd_pow 2 (le_of_not_gt fun hlt => ?_)
  have hpow : x.gap ≤ 2 ^ (k + e) := Nat.pow_le_pow_right (by decide) (by omega)
  have hunits := units_lt_mul_gap x
  have hpos := x.gap_pos
  linarith

/-! ### Whole numbers that read back -/

theorem readFrom_natCast_iff : x.ReadFrom n ↔ x.interval.Contains (4 * (n * Magnitude.one) : ℕ) := by
  have hcast : (4 * Magnitude.one * n : ℚ) = (4 * (n * Magnitude.one) : ℕ) := by
    push_cast
    ring
  rw [ReadFrom, hcast]

theorem ReadFrom.bounds (h : x.ReadFrom n) :
    4 * x.units ≤ 4 * (n * Magnitude.one) + 2 * x.gap ∧
      4 * (n * Magnitude.one) ≤ 4 * x.units + 2 * x.gap := by
  obtain ⟨hlow, hhigh⟩ := (readFrom_natCast_iff.mp h).bounds
  rw [Nat.cast_le] at hlow hhigh
  have hgap := le_low_add_gap x
  rw [interval_high] at hhigh
  exact ⟨hgap.trans (Nat.add_le_add_right hlow _), hhigh⟩

/-- A double of odd significand does not read back from the end of its interval. -/
theorem ReadFrom.lt_of_odd (h : x.ReadFrom n) (hodd : x.significand % 2 = 1) :
    4 * (n * Magnitude.one) < 4 * x.units + 2 * x.gap := by
  have hhigh := ((readFrom_natCast_iff.mp h).strict (closed_eq_false hodd)).2
  rwa [Nat.cast_lt, interval_high] at hhigh

/-- A whole number on the grid of a double's neighbours. -/
theorem absRat_eq_of_dvd (hdvd : x.gap ∣ n * Magnitude.one) (h : x.ReadFrom n) : x.absRat = n := by
  obtain ⟨k, hk⟩ := hdvd
  rw [absRat_eq_natCast_iff, hk, mul_comm]
  refine (mul_gap_eq_units ?_).symm
  rwa [mul_comm k, ← hk, ← readFrom_natCast_iff]

/-- No multiple of ten that is not itself a double reads back as one of the doubles up to
`2 ^ 54 + 4`. -/
theorem absRat_eq_of_ten_dvd (hx : x.absRat < (18014398509481992 : ℕ)) (hm : 10 ∣ m)
    (h : x.ReadFrom m) : x.absRat = m := by
  by_cases hsmall : x.absRat < (0x20000000000000 * 2 ^ 1 : ℕ)
  · refine absRat_eq_of_dvd ((gap_dvd hsmall).trans ?_) h
    exact Nat.mul_dvd_mul_right ((by decide : 2 ^ 1 ∣ 10).trans hm) _
  · -- only two doubles are left, four apart from their neighbours
    rw [not_lt] at hsmall
    have hgap : x.gap = 2 ^ 2 * Magnitude.one := by
      refine Nat.dvd_antisymm (gap_dvd (hx.trans ?_)) (dvd_gap hsmall)
      exact Nat.cast_lt.mpr (by norm_num)
    have hunits : x.units = x.significand * 4 * Magnitude.one := by
      rw [units_eq_mul_gap, hgap]
      ring
    have hvalue : x.absRat = (x.significand * 4 : ℕ) := absRat_eq_natCast_iff.mpr hunits
    rw [hvalue, Nat.cast_lt] at hx
    rw [hvalue, Nat.cast_le] at hsmall
    obtain ⟨hlow, hhigh⟩ := h.bounds
    have hlow : 4 * x.significand ≤ m + 2 := by
      refine Nat.le_of_mul_le_mul_right (?_ : _ * Magnitude.one ≤ _ * Magnitude.one)
        Magnitude.zero_lt_one
      rw [hunits, hgap] at hlow
      linarith
    have hhigh : m ≤ 4 * x.significand + 2 := by
      refine Nat.le_of_mul_le_mul_right (?_ : _ * Magnitude.one ≤ _ * Magnitude.one)
        Magnitude.zero_lt_one
      rw [hunits, hgap] at hhigh
      linarith
    by_cases hodd : x.significand % 2 = 1
    · have hstrict : m < 4 * x.significand + 2 := by
        refine Nat.lt_of_mul_lt_mul_right (?_ : _ * Magnitude.one < _ * Magnitude.one)
        have hhigh := h.lt_of_odd hodd
        rw [hunits, hgap] at hhigh
        linarith
      omega
    · omega

/-- The doubles from there on read back from no whole number below `2 ^ 54 + 6`, which is the least
that the first of them reads back from. -/
theorem not_readFrom (hx : (18014398509481992 : ℕ) ≤ x.absRat) (hn : n < 18014398509481990) :
    ¬ x.ReadFrom n := by
  intro h
  have hlow := h.bounds.1
  rw [natCast_le_absRat_iff] at hx
  have hpos := Magnitude.zero_lt_one
  have hn : (n + 1) * Magnitude.one ≤ 18014398509481990 * Magnitude.one :=
    Nat.mul_le_mul_right _ hn
  by_cases hfar : x.absRat < (0x20000000000000 * 2 ^ 2 : ℕ)
  · have hgap : x.gap ≤ 2 ^ 2 * Magnitude.one :=
      Nat.le_of_dvd (Nat.mul_pos (by decide) hpos) (gap_dvd hfar)
    linarith
  · rw [not_lt] at hfar
    have hexp : x.exponentField ≠ 0 := by
      intro hzero
      have hgap : x.gap = 1 := by rw [gap, scale, hzero, Nat.zero_sub, pow_zero]
      have hdvd := Nat.le_of_dvd (by rw [hgap]; exact Nat.one_pos) (dvd_gap hfar)
      linarith
    have hunits := mul_gap_le_units hexp
    rw [natCast_le_absRat_iff] at hfar
    linarith

/-- A double is written as a whole number exactly when it is that number, as long as one of the two
lies below the first double that is not. -/
theorem Spells.eq_natCast_iff (h : x.Spells q)
    (hsmall : x.absRat < (18014398509481992 : ℕ) ∨ n < 18014398509481990) :
    q = n ↔ x.absRat = n := by
  constructor
  · rintro rfl
    have hx : x.absRat < (18014398509481992 : ℕ) := by
      by_contra hge
      rcases hsmall with hlt | hn
      · exact hge hlt
      · exact not_readFrom (not_lt.mp hge) hn h.readFrom
    by_cases hbits : x.absRat < (0x20000000000000 * 2 ^ 0 : ℕ)
    · have hdvd := gap_dvd hbits
      rw [pow_zero, one_mul] at hdvd
      exact absRat_eq_of_dvd (hdvd.mul_left n) h.readFrom
    · -- from here on every double is whole
      obtain ⟨m, hm⟩ := dvd_gap (not_lt.mp hbits)
      have hwhole : x.absRat = (x.significand * (2 ^ 1 * m) : ℕ) := by
        rw [absRat_eq_natCast_iff, units_eq_mul_gap, hm]
        ring
      obtain ⟨m, hm, hor⟩ := h.whole _ hwhole
      obtain rfl := Nat.cast_injective hm
      rcases hor with rfl | hten
      · exact hwhole
      · exact absRat_eq_of_ten_dvd hx hten h.readFrom
  · intro hn
    have hx : x.absRat < (18014398509481992 : ℕ) := by
      rcases hsmall with hlt | hlt
      · exact hlt
      · rw [hn, Nat.cast_lt]
        omega
    obtain ⟨m, rfl, rfl | hten⟩ := h.whole n hn
    · rfl
    · rw [← hn, absRat_eq_of_ten_dvd hx hten h.readFrom]

end Dossier.Double
