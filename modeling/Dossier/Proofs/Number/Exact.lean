import Dossier.Number.Basic
import Mathlib.Tactic.SplitIfs

/-! Numbers are compared by what they denote. The order is taken on one of four ways, by whether
each side is an integer or a double; all of them give the order of magnitudes, which is total, so no
triple of mixed kinds can break it. -/

namespace Dossier

/-! ### The order of magnitudes -/

namespace Magnitude

def band : Magnitude → Nat
  | .infinite true => 0
  | .finite _ => 1
  | .infinite false => 2
  | .nan => 3

def finiteUnits : Magnitude → Int
  | .finite units => units
  | _ => 0

theorem compare_eq_compareLex (a b : Magnitude) :
    a.compare b = compareLex (compareOn band) (compareOn finiteUnits) a b := by
  rcases a with _ | (_ | _) | a <;> rcases b with _ | (_ | _) | b <;> rfl

instance : Std.TransCmp compare := by
  have h : compare = compareLex (compareOn band) (compareOn finiteUnits) := by
    funext a b
    exact compare_eq_compareLex a b
  rw [h]
  infer_instance

theorem compare_eq_eq {a b : Magnitude} : a.compare b = .eq ↔ a = b := by
  rcases a with _ | (_ | _) | a <;> rcases b with _ | (_ | _) | b <;> simp [compare]

theorem one_pos : (0 : Int) < one := by decide

theorem compare_ofInt (m n : Int) : (ofInt m).compare (ofInt n) = Ord.compare m n := by
  have hone := one_pos
  change Ord.compare (m * one) (n * one) = Ord.compare m n
  rcases Int.lt_trichotomy m n with h | rfl | h
  · rw [Int.compare_eq_lt.mpr h, Int.compare_eq_lt.mpr (Int.mul_lt_mul_of_pos_right h hone)]
  · rw [Int.compare_eq_eq.mpr rfl, Int.compare_eq_eq.mpr rfl]
  · rw [Int.compare_eq_gt.mpr h, Int.compare_eq_gt.mpr (Int.mul_lt_mul_of_pos_right h hone)]

theorem toInt?_eq_some {a : Magnitude} {n : Int} : a.toInt? = some n ↔ a = ofInt n := by
  have hone := one_pos
  cases a with
  | nan => simp [toInt?, ofInt]
  | infinite negative => simp [toInt?, ofInt]
  | finite units =>
    simp only [toInt?, ofInt, Option.ite_none_right_eq_some, Option.some.injEq, finite.injEq]
    constructor
    · rintro ⟨hmod, rfl⟩
      exact (Int.ediv_mul_cancel (Int.dvd_of_emod_eq_zero hmod)).symm
    · rintro rfl
      exact ⟨Int.mul_emod_left n one, Int.mul_ediv_cancel n (Int.ne_of_gt hone)⟩

end Magnitude

/-! ### Doubles -/

namespace Double

theorem isNaN_iff (x : Double) : x.isNaN = true ↔ x.magnitude = .nan := by
  unfold magnitude
  by_cases hf : x.isFinite = true
  · have hn : x.isNaN = false := by
      simp only [isFinite, bne_iff_ne] at hf
      simp [isNaN, hf]
    simp [hf, hn]
  · by_cases hn : x.isNaN = true <;> simp [hf, hn]

theorem isNaN_eq_false {x : Double} (h : x.magnitude ≠ .nan) : x.isNaN = false := by
  rw [← Bool.not_eq_true, isNaN_iff]
  exact h

theorem compare_eq (x y : Double) : x.compare y = x.magnitude.compare y.magnitude := by
  by_cases hx : x.magnitude = .nan <;> by_cases hy : y.magnitude = .nan
  · simp [compare, (isNaN_iff x).mpr hx, (isNaN_iff y).mpr hy, hx, hy, Magnitude.compare]
  · simp only [compare, (isNaN_iff x).mpr hx, isNaN_eq_false hy, hx]
    rcases hm : y.magnitude with _ | (_ | _) | u <;> first | rfl | exact absurd hm hy
  · simp only [compare, (isNaN_iff y).mpr hy, isNaN_eq_false hx, hy]
    rcases hm : x.magnitude with _ | (_ | _) | u <;> first | rfl | exact absurd hm hx
  · simp [compare, compare?, isNaN_eq_false hx, isNaN_eq_false hy]

theorem equal_iff (x y : Double) : x.equal y = true ↔ x.compare y = .eq := by
  unfold equal compare compare?
  cases x.isNaN <;> cases y.isNaN <;> simp

theorem isPositive_eq {x : Double} (h : x.magnitude ≠ .nan) :
    x.isPositive = ((Magnitude.finite 0).compare x.magnitude == .lt) := by
  have hz : (zero false).magnitude = .finite 0 := by decide
  unfold isPositive compare?
  rw [isNaN_eq_false (by simp [hz]), isNaN_eq_false h, hz]
  rfl

theorem toInt?_eq_some {x : Double} {n : Int} :
    x.toInt? = some n ↔ x.magnitude = .ofInt n ∧ -0x80000000000000000000000000000000 ≤ n ∧
      n < 0x80000000000000000000000000000000 := by
  unfold toInt?
  rw [Option.filter_eq_some_iff, Magnitude.toInt?_eq_some, Bool.and_eq_true, decide_eq_true_iff,
    decide_eq_true_iff]

theorem floor?_eq_some {x : Double} {n : Int} (h : x.floor? = some n) :
    ∃ units, x.magnitude = .finite units ∧ n = units / Magnitude.one := by
  unfold floor? at h
  cases hm : x.magnitude with
  | nan => simp [hm] at h
  | infinite negative => simp [hm] at h
  | finite units =>
    simp only [hm, Option.ite_none_right_eq_some, Option.some.injEq] at h
    exact ⟨units, rfl, h.2.symm⟩

theorem floor?_eq_none {x : Double} {units : Int} (hm : x.magnitude = .finite units)
    (h : x.floor? = none) : 0x80000000000000000000000000000000 * Magnitude.one ≤ units.natAbs := by
  simpa [floor?, hm] using h

/-- An integer within the range is compared exactly with every double. -/
theorem compareInteger_eq {n : Int} (hl : -0x80000000000000000000000000000000 < n)
    (hr : n < 0x80000000000000000000000000000000) (x : Double) :
    compareInteger n x = (Magnitude.ofInt n).compare x.magnitude := by
  have hone := Magnitude.one_pos
  by_cases hnan : x.magnitude = .nan
  · rw [compareInteger, (isNaN_iff x).mpr hnan, hnan]
    rfl
  unfold compareInteger
  rw [isNaN_eq_false hnan, if_neg Bool.false_ne_true]
  cases ht : x.toInt? with
  | some m => rw [(toInt?_eq_some.mp ht).1, Magnitude.compare_ofInt]
  | none =>
    cases hf : x.floor? with
    | some m =>
      -- the double is no whole number, so the integer is on one side of it
      obtain ⟨units, hm, rfl⟩ := floor?_eq_some hf
      have hne : n * Magnitude.one ≠ units := by
        intro h
        have hs : x.toInt? = some n := toInt?_eq_some.mpr ⟨by rw [hm, ← h]; rfl, by omega, hr⟩
        simp [hs] at ht
      rw [hm]
      change (if n ≤ units / Magnitude.one then Ordering.lt else .gt) =
        Ord.compare (n * Magnitude.one) units
      split_ifs with h
      · have hle := (Int.le_ediv_iff_mul_le hone).mp h
        rw [Int.compare_eq_lt.mpr (by omega)]
      · have hlt : units < n * Magnitude.one := by
          rw [Int.le_ediv_iff_mul_le hone] at h
          omega
        rw [Int.compare_eq_gt.mpr hlt]
    | none =>
      -- the double is out of range, so its sign tells the side
      rw [isPositive_eq hnan]
      rcases hm : x.magnitude with _ | (_ | _) | units
      · exact absurd hm hnan
      · rfl
      · rfl
      · have habs := floor?_eq_none hm hf
        have hupper := Int.mul_lt_mul_of_pos_right hr hone
        have hlower := Int.mul_lt_mul_of_pos_right hl hone
        change (if (Ord.compare 0 units == .lt) = true then Ordering.lt else .gt) =
          Ord.compare (n * Magnitude.one) units
        split_ifs with h <;> rw [beq_iff_eq, Int.compare_eq_lt] at h
        · rw [Int.compare_eq_lt.mpr (by omega)]
        · rw [Int.compare_eq_gt.mpr (by omega)]

end Double

/-! ### Numbers -/

namespace Number

theorem integer?_bounds {a : Number} {n : Int} (h : a.integer? = some n) :
    -0x80000000000000000000000000000000 < n ∧ n < 0x80000000000000000000000000000000 := by
  cases a with
  | signed k =>
    obtain rfl := Option.some.inj h
    have hl := k.le_toInt
    have hr := k.toInt_lt
    omega
  | unsigned k =>
    obtain rfl := Option.some.inj h
    have hr := k.toNat_lt
    omega
  | double x => cases h

theorem magnitude_of_integer {a : Number} {n : Int} (h : a.integer? = some n) :
    a.magnitude = .ofInt n := by
  cases a with
  | signed k =>
    obtain rfl := Option.some.inj h
    rfl
  | unsigned k =>
    obtain rfl := Option.some.inj h
    rfl
  | double x => cases h

theorem magnitude_of_not_integer {a : Number} (h : a.integer? = none) :
    a.magnitude = a.toDouble.magnitude := by
  cases a with
  | double x => rfl
  | _ => cases h

/-- Whatever the kinds of two numbers, they are in the order of what they denote. -/
theorem compare_eq (a b : Number) : a.compare b = a.magnitude.compare b.magnitude := by
  unfold compare
  cases ha : a.integer? with
  | some m =>
    rw [magnitude_of_integer ha]
    cases hb : b.integer? with
    | some n => rw [magnitude_of_integer hb, Magnitude.compare_ofInt]
    | none =>
      obtain ⟨hl, hr⟩ := integer?_bounds ha
      rw [magnitude_of_not_integer hb]
      exact Double.compareInteger_eq hl hr _
  | none =>
    rw [magnitude_of_not_integer ha]
    cases hb : b.integer? with
    | some n =>
      obtain ⟨hl, hr⟩ := integer?_bounds hb
      rw [magnitude_of_integer hb, @Std.OrientedCmp.eq_swap _ Magnitude.compare]
      exact congrArg Ordering.swap (Double.compareInteger_eq hl hr _)
    | none =>
      rw [magnitude_of_not_integer hb]
      exact Double.compare_eq _ _

instance : Std.TransCmp compare := by
  have h : compare = fun a b => a.magnitude.compare b.magnitude := by
    funext a b
    exact compare_eq a b
  rw [h]
  exact {
    eq_swap := Std.OrientedCmp.eq_swap
    isLE_trans := Std.TransCmp.isLE_trans }

theorem equal_iff {a b : Number} : a.equal b = true ↔ a.compare b = .eq := by
  unfold equal
  split
  · exact Double.equal_iff _ _
  · exact beq_iff_eq

theorem magnitude_eq_of_equal {a b : Number} (h : a.equal b = true) :
    a.magnitude = b.magnitude := by
  rw [equal_iff, compare_eq] at h
  exact Magnitude.compare_eq_eq.mp h

end Number

end Dossier
