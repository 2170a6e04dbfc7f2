import Dossier.Proofs.Number.Interval
import Dossier.Proofs.Number.Rational

/-! The decimal that is found for a double rounds to it. The search goes from grid to grid, each ten
times as fine as the one before, and ends at the seventeenth digit at the latest. A whole number is
found on the grid of ones if not before. -/

namespace Dossier

namespace Double

/-! ### One grid -/

namespace Interval

variable {tie : Tie} {i : Interval} {step parts n : Nat}

theorem contains_of_nearest? (hparts : 0 < parts) (h : i.nearest? tie step parts = some n) :
    i.Contains (n * (step / parts)) := by
  rw [← holds_eq_true_iff hparts]
  simp only [nearest?] at h
  split at h <;> rename_i hbelow habove
  · obtain rfl := Option.some.inj h
    exact hbelow
  · obtain rfl := Option.some.inj h
    exact habove
  · cases h
  · -- the even one of two neighbours is one of them
    split_ifs at h
    · obtain rfl := Option.some.inj h
      exact hbelow
    · obtain rfl := Option.some.inj h
      exact habove
    · cases tie
      · obtain rfl := Option.some.inj h
        exact habove
      · obtain rfl := Option.some.inj h
        rcases Nat.mod_two_eq_zero_or_one (i.value * parts / step) with heven | hodd
        · rw [heven]
          exact hbelow
        · rw [hodd]
          exact habove

theorem nearest?_ne_none (hstep : 0 < step) (hparts : 0 < parts) (hvalue : i.Contains i.value)
    {count : Nat} (h : i.Contains (count * (step / parts))) : i.nearest? tie step parts ≠ none := by
  have hpos : (0 : ℚ) < parts := Nat.cast_pos.mpr hparts
  have hunit : (0 : ℚ) < step / parts := div_pos (Nat.cast_pos.mpr hstep) hpos
  have hor : i.holds step parts (i.value * parts / step) = true ∨
      i.holds step parts (i.value * parts / step + 1) = true := by
    have hle := Nat.div_mul_le_self (i.value * parts) step
    have hlt := Nat.lt_div_mul_add (a := i.value * parts) hstep
    rw [← Nat.succ_mul] at hlt
    rw [holds_eq_true_iff hparts, holds_eq_true_iff hparts]
    generalize i.value * parts / step = below at hle hlt
    have hle : (below * (step / parts) : ℚ) ≤ i.value := by
      rw [← mul_div_assoc, div_le_iff₀ hpos]
      exact_mod_cast hle
    have hlt : (i.value : ℚ) < (below + 1 : ℕ) * (step / parts) := by
      rw [← mul_div_assoc, lt_div_iff₀ hpos]
      exact_mod_cast hlt
    rcases Nat.lt_or_ge below count with hgt | hge
    · refine .inr (hvalue.between h hlt.le ?_)
      gcongr
      exact hgt
    · refine .inl (h.between hvalue ?_ hle)
      gcongr
  intro hnone
  simp only [nearest?] at hnone
  split at hnone <;> simp_all
  split_ifs at hnone
  cases tie <;> cases hnone

theorem nearest?_of_mul_eq (hstep : 0 < step) (hparts : 0 < parts) (hvalue : i.Contains i.value)
    (h : i.value * parts = n * step) : i.nearest? tie step parts = some n := by
  have hbelow : n * step / step = n := Nat.mul_div_cancel _ hstep
  have hholds : i.holds step parts n = true := by
    have hpos : (parts : ℚ) ≠ 0 := Nat.cast_ne_zero.mpr hparts.ne'
    have heq : (n * (step / parts) : ℚ) = i.value := by
      rw [← mul_div_assoc, div_eq_iff hpos]
      exact_mod_cast h.symm
    rwa [holds_eq_true_iff hparts, heq]
  simp only [nearest?, h, hbelow, hholds, Nat.sub_self, Nat.sub_zero, if_pos hstep]
  cases i.holds step parts (n + 1) <;> rfl

end Interval

/-! ### Powers of ten -/

section Powers

variable {tie : Tie} {i : Interval} {power : Int} {n : Nat}

/-- The distance of two multiples of a power of ten, in quarters of a unit. -/
def gridStep (power : Int) : ℚ := 4 * Magnitude.one * 10 ^ power

theorem gridStep_pos (power : Int) : 0 < gridStep power :=
  mul_pos (mul_pos four_pos Magnitude.one_cast_pos) (zpow_pos (by norm_num) _)

theorem mul_gridStep (n : Nat) (power : Int) :
    (n * gridStep power : ℚ) = 4 * Magnitude.one * (n * 10 ^ power) := by
  rw [gridStep]
  ring

theorem exists_nearestMultiple?_eq (tie : Tie) (i : Interval) (power : Int) :
    ∃ step parts : Nat, 0 < step ∧ 0 < parts ∧ (step / parts : ℚ) = gridStep power ∧
      nearestMultiple? tie i power = i.nearest? tie step parts := by
  have hone := Magnitude.zero_lt_one
  cases power with
  | ofNat n =>
    refine ⟨_, _, Nat.mul_pos (Nat.mul_pos four_pos hone) (Nat.pow_pos (by decide)), one_pos, ?_,
      rfl⟩
    rw [gridStep, Int.ofNat_eq_natCast, zpow_natCast]
    push_cast
    rw [div_one]
  | negSucc n =>
    refine ⟨_, _, Nat.mul_pos four_pos hone, Nat.pow_pos (by decide), ?_, rfl⟩
    rw [gridStep, zpow_negSucc, div_eq_mul_inv]
    push_cast
    norm_num

theorem contains_of_nearestMultiple? (h : nearestMultiple? tie i power = some n) :
    i.Contains (n * gridStep power) := by
  obtain ⟨step, parts, -, hparts, hstep, heq⟩ := exists_nearestMultiple?_eq tie i power
  rw [← hstep]
  exact Interval.contains_of_nearest? hparts (heq.symm.trans h)

theorem nearestMultiple?_ne_none (hvalue : i.Contains i.value) (h : i.Contains (n * gridStep power)) :
    nearestMultiple? tie i power ≠ none := by
  obtain ⟨step, parts, hpos, hparts, hstep, heq⟩ := exists_nearestMultiple?_eq tie i power
  rw [heq]
  rw [← hstep] at h
  exact Interval.nearest?_ne_none hpos hparts hvalue h

theorem nearestMultiple?_of_mul_eq (hvalue : i.Contains i.value)
    (h : (i.value : ℚ) = n * gridStep power) : nearestMultiple? tie i power = some n := by
  obtain ⟨step, parts, hpos, hparts, hstep, heq⟩ := exists_nearestMultiple?_eq tie i power
  rw [heq]
  refine Interval.nearest?_of_mul_eq hpos hparts hvalue ?_
  rw [← hstep, ← mul_div_assoc, eq_div_iff (Nat.cast_ne_zero.mpr hparts.ne')] at h
  exact_mod_cast h

/-- The search ends at the first grid that has a point in the interval. -/
theorem exists_findMultiple_eq (fuel : Nat) {k : Nat} (hk : k < fuel)
    (h : nearestMultiple? tie i (power - k) ≠ none) :
    ∃ n : Nat, ∃ j ≤ k, findMultiple tie i power fuel = (n, power - j) ∧
      nearestMultiple? tie i (power - j) = some n := by
  induction fuel generalizing power k with
  | zero => omega
  | succ fuel ih =>
    rw [findMultiple]
    cases hfirst : nearestMultiple? tie i power with
    | some n => exact ⟨n, 0, Nat.zero_le _, by simp, by simpa using hfirst⟩
    | none =>
      cases k with
      | zero => simp [hfirst] at h
      | succ k =>
        have hshift : ∀ j : Nat, power - (j + 1 : ℕ) = power - 1 - j := by omega
        rw [hshift] at h
        obtain ⟨n, j, hj, hfound, hn⟩ := ih (Nat.lt_of_succ_lt_succ hk) h
        exact ⟨n, j + 1, Nat.succ_le_succ hj, by rw [hshift]; exact hfound, by rw [hshift]; exact hn⟩

end Powers

/-! ### The search of a double -/

section Search

variable {tie : Tie} {x : Double}

/-- Whether a number reads back as the absolute value of a double. -/
def ReadFrom (x : Double) (q : ℚ) : Prop := x.interval.Contains (4 * Magnitude.one * q)

theorem contains_value (h : x.units ≠ 0) : x.interval.Contains x.interval.value :=
  contains_units h

theorem units_eq_absRat_mul (x : Double) : (x.units : ℚ) = x.absRat * Magnitude.one := by
  rw [absRat_eq, div_mul_cancel₀ _ Magnitude.one_cast_pos.ne']

/-- The leading digit of a quotient that is first made `10 ^ places` times as great, so that nothing
of its digits is lost. -/
theorem pow_length_le {units places : Nat} (h : Magnitude.one ≤ units * 10 ^ places) :
    (10 : ℚ) ^ (((Nat.toDigits 10 (units * Nat.pow 10 places / Magnitude.one)).length : ℤ) -
      (places + 1 : ℕ)) ≤ units / Magnitude.one := by
  have hone := Magnitude.zero_lt_one
  have hpos : 0 < units * Nat.pow 10 places / Magnitude.one := Nat.div_pos h hone
  have hle : units * Nat.pow 10 places / Magnitude.one * Magnitude.one ≤ units * 10 ^ places :=
    Nat.div_mul_le_self _ _
  generalize units * Nat.pow 10 places / Magnitude.one = leading at hpos hle
  obtain ⟨length, hlength⟩ : ∃ length, (Nat.toDigits 10 leading).length = length + 1 :=
    Nat.exists_eq_succ_of_ne_zero Nat.length_toDigits_pos.ne'
  have hpow : 10 ^ length ≤ leading := by
    by_contra hlt
    cases length with
    | zero => omega
    | succ length =>
      have hshort := (Nat.length_toDigits_le_iff (by decide) length.succ_pos).mpr (not_le.mp hlt)
      omega
  have hmul : (10 ^ length * Magnitude.one : ℚ) ≤ units * 10 ^ places := by
    exact_mod_cast (Nat.mul_le_mul_right _ hpow).trans hle
  have hpower : ((length + 1 : ℕ) : ℤ) - (places + 1 : ℕ) = length - (places : ℤ) := by
    push_cast
    ring
  rw [hlength, hpower, zpow_sub₀ (by norm_num), zpow_natCast, zpow_natCast,
    div_le_div_iff₀ (by positivity) Magnitude.one_cast_pos]
  exact hmul

theorem lt_length (places : Nat) {units : Nat} (h : Magnitude.one ≤ units) :
    places < (Nat.toDigits 10 (units * Nat.pow 10 places / Magnitude.one)).length := by
  have hone := Magnitude.zero_lt_one
  rcases Nat.eq_zero_or_pos places with rfl | hplaces
  · exact Nat.length_toDigits_pos
  · rw [← not_le, Nat.length_toDigits_le_iff (by decide) hplaces, not_lt,
      Nat.le_div_iff_mul_le hone, Nat.mul_comm]
    exact Nat.mul_le_mul_right _ h

theorem exists_leadingPower_eq : ∃ places : Nat, Magnitude.one ≤ 10 ^ places ∧ ∀ units,
    leadingPower units =
      ((Nat.toDigits 10 (units * Nat.pow 10 places / Magnitude.one)).length : ℤ) -
        (places + 1 : ℕ) := by
  have hone : Magnitude.one ≤ 10 ^ 400 := by decide +kernel
  have hsucc : (401 : ℤ) = (400 + 1 : ℕ) := rfl
  simp only [leadingPower, hsucc]
  generalize 400 = places at hone ⊢
  exact ⟨places, hone, fun _ => rfl⟩

theorem pow_leadingPower_le (h : x.units ≠ 0) : (10 : ℚ) ^ leadingPower x.units ≤ x.absRat := by
  obtain ⟨places, hone, hleading⟩ := exists_leadingPower_eq
  rw [hleading, absRat_eq]
  exact pow_length_le (hone.trans (Nat.le_mul_of_pos_left _ (Nat.pos_of_ne_zero h)))

theorem leadingPower_nonneg (h : 1 ≤ x.absRat) : 0 ≤ leadingPower x.units := by
  obtain ⟨places, -, hleading⟩ := exists_leadingPower_eq
  rw [absRat_eq, le_div_iff₀ Magnitude.one_cast_pos, one_mul] at h
  have hlength := lt_length places (Nat.cast_le.mp h)
  rw [hleading]
  omega

/-- The grid of the seventeenth digit has a point that reads back. -/
theorem exists_contains_seventeenth (h : x.units ≠ 0) :
    ∃ count : ℕ, x.interval.Contains (count * gridStep (leadingPower x.units - 16)) := by
  refine Interval.exists_contains_mul (gridStep_pos _) ?_
  have hfine : (10 ^ 16 : ℚ) * gridStep (leadingPower x.units - 16) ≤ 4 * x.units := by
    have hle := pow_leadingPower_le h
    rw [absRat_eq, le_div_iff₀ Magnitude.one_cast_pos] at hle
    have hstep : (10 ^ 16 : ℚ) * gridStep (leadingPower x.units - 16) =
        4 * (10 ^ leadingPower x.units * Magnitude.one) := by
      rw [gridStep, zpow_sub₀ (by norm_num), zpow_ofNat]
      field_simp
    rw [hstep]
    gcongr
  have hwide : (10 ^ 16 : ℚ) * x.interval.low + 4 * x.units < 10 ^ 16 * x.interval.high := by
    exact_mod_cast low_add_lt_high h
  have hscaled : (10 ^ 16 : ℚ) * (x.interval.low + gridStep (leadingPower x.units - 16)) <
      10 ^ 16 * x.interval.high := by linarith
  exact lt_of_mul_lt_mul_left hscaled (by positivity)

theorem one_le_absRat {m : Nat} (h : x.units ≠ 0) (hm : x.absRat = m) : 1 ≤ x.absRat := by
  have hpos : 0 < x.absRat := by
    rw [absRat_eq]
    exact div_pos (Nat.cast_pos.mpr (Nat.pos_of_ne_zero h)) Magnitude.one_cast_pos
  rw [hm] at hpos ⊢
  exact_mod_cast Nat.cast_pos.mp hpos

theorem nearestMultiple?_ones {m : Nat} (tie : Tie) (h : x.units ≠ 0) (hm : x.absRat = m) :
    nearestMultiple? tie x.interval 0 = some m := by
  refine nearestMultiple?_of_mul_eq (contains_value h) ?_
  have hunits := units_eq_absRat_mul x
  change ((4 * x.units : ℕ) : ℚ) = m * gridStep 0
  rw [mul_gridStep, zpow_zero, mul_one, Nat.cast_mul, hunits, hm]
  push_cast
  ring

/-- What the search finds reads back. A whole number is found on the grid of ones if on no coarser
one. -/
theorem exists_findMultiple (tie : Tie) (h : x.units ≠ 0) :
    ∃ (n : ℕ) (power : ℤ), findMultiple tie x.interval (leadingPower x.units) 18 = (n, power) ∧
      x.ReadFrom (n * 10 ^ power) ∧ ∀ m : ℕ, x.absRat = m → 0 ≤ power ∧ (power = 0 → n = m) := by
  obtain ⟨count, hcount⟩ := exists_contains_seventeenth h
  have hlast : nearestMultiple? tie x.interval (leadingPower x.units - (16 : ℕ)) ≠ none :=
    nearestMultiple?_ne_none (contains_value h) hcount
  obtain ⟨n, j, hj, hfound, hn⟩ := exists_findMultiple_eq 18 (by decide) hlast
  refine ⟨n, _, hfound, ?_, fun m hm => ?_⟩
  · rw [ReadFrom, ← mul_gridStep]
    exact contains_of_nearestMultiple? hn
  · have hones := nearestMultiple?_ones tie h hm
    refine ⟨?_, fun hzero => ?_⟩
    · by_contra hneg
      -- the grid of ones comes before the one that was found, so the search would have ended there
      obtain ⟨k, hk⟩ := Int.eq_ofNat_of_zero_le (leadingPower_nonneg (one_le_absRat h hm))
      have hsome : nearestMultiple? tie x.interval (leadingPower x.units - k) ≠ none := by
        rw [hk, sub_self, hones]
        exact Option.some_ne_none m
      obtain ⟨n', j', hj', hfound', -⟩ := exists_findMultiple_eq 18 (by omega) hsome
      have hpower := (Prod.mk.inj (hfound.symm.trans hfound')).2
      omega
    · rw [hzero, hones] at hn
      exact (Option.some.inj hn).symm

end Search

end Double

/-! ### Digits without a zero at their end -/

namespace Decimal

def ofParts (count : Nat) (power : Int) : Decimal :=
  ⟨Nat.toDigits 10 count, power + (Nat.toDigits 10 count).length - 1⟩

variable {count : Nat}

theorem toDigits_mul_pow (h : 0 < count) (k : Nat) :
    Nat.toDigits 10 (count * 10 ^ k) = Nat.toDigits 10 count ++ zeros k := by
  induction k with
  | zero => simp [zeros]
  | succ k ih =>
    have hpos : 0 < count * 10 ^ k := by positivity
    have hstep := Nat.toDigits_append_toDigits (b := 10) (by decide) hpos (d := 0) (by decide)
    have hzero : Nat.toDigits 10 0 = ['0'] := rfl
    rw [hzero, ih, List.append_assoc] at hstep
    rw [zeros, List.replicate_succ', ← zeros, hstep, Nat.pow_succ]
    congr 1
    ring

theorem exists_toDigits_eq_concat (h : count % 10 ≠ 0) :
    ∃ first last, last ≠ '0' ∧ Nat.toDigits 10 count = first ++ [last] := by
  have hdigit : ∀ d < 10, d ≠ 0 → Nat.digitChar d ≠ '0' := by decide
  have hlast := hdigit (count % 10) (Nat.mod_lt _ (by decide)) h
  rcases Nat.lt_or_ge count 10 with hlt | hge
  · rw [Nat.mod_eq_of_lt hlt] at hlast
    exact ⟨[], _, hlast, Nat.toDigits_of_lt_base hlt⟩
  · exact ⟨_, _, hlast, Nat.toDigits_of_base_le (by decide) hge⟩

theorem dropWhile_zeros_append (k : Nat) (digits : List Char) :
    (zeros k ++ digits).dropWhile (· == '0') = digits.dropWhile (· == '0') := by
  induction k with
  | zero => rfl
  | succ k ih => exact ih

theorem stripped_toDigits (h : count % 10 ≠ 0) (k : Nat) :
    ((Nat.toDigits 10 (count * 10 ^ k)).reverse.dropWhile (· == '0')).reverse =
      Nat.toDigits 10 count := by
  have hpos : 0 < count := Nat.pos_of_ne_zero fun hzero => h (by rw [hzero])
  obtain ⟨first, last, hlast, hdigits⟩ := exists_toDigits_eq_concat h
  have hkept : ([last] ++ first.reverse).dropWhile (· == '0') = last :: first.reverse :=
    List.dropWhile_cons_of_neg (by simpa using hlast)
  rw [toDigits_mul_pow hpos, List.reverse_append, zeros, List.reverse_replicate, ← zeros,
    dropWhile_zeros_append, hdigits, List.reverse_append, List.reverse_singleton, hkept,
    List.reverse_cons, List.reverse_reverse]

theorem ofMultiple_eq_ofParts (h : count % 10 ≠ 0) (k : Nat) (power : Int) :
    ofMultiple (count * 10 ^ k) power = ofParts count (power + k) := by
  have hpos : 0 < count := Nat.pos_of_ne_zero fun hzero => h (by rw [hzero])
  have hlength : (Nat.toDigits 10 (count * 10 ^ k)).length = (Nat.toDigits 10 count).length + k := by
    rw [toDigits_mul_pow hpos, List.length_append, zeros, List.length_replicate]
  have hexponent : power + ((Nat.toDigits 10 count).length + k : ℕ) - 1 =
      power + k + (Nat.toDigits 10 count).length - 1 := by
    push_cast
    ring
  rw [ofMultiple, ofParts, stripped_toDigits h, hlength, hexponent]

end Decimal

namespace Double

variable {x : Double} {m n : Nat} {q : ℚ}

/-- A number that reads back as a double; for a whole number it is that number or a multiple of ten.
-/
structure Spells (x : Double) (q : ℚ) : Prop where
  readFrom : x.ReadFrom q
  whole : ∀ n : ℕ, x.absRat = n → ∃ m : ℕ, q = m ∧ (m = n ∨ 10 ∣ m)

theorem absRat_eq_of_readFrom {y : Double} (hx : x.ReadFrom q) (hy : y.ReadFrom q) :
    x.absRat = y.absRat := by
  rw [absRat_eq, absRat_eq, units_eq_of_contains hx hy]

theorem exists_shortest_eq (tie : Tie) (h : x.units ≠ 0) :
    ∃ (count : ℕ) (power : ℤ), x.shortest tie = .ofParts count power ∧ count % 10 ≠ 0 ∧
      x.Spells (count * 10 ^ power) := by
  obtain ⟨found, power, hfound, hread, hwhole⟩ := exists_findMultiple tie h
  have hne : found ≠ 0 := by
    rintro rfl
    have hlow := hread.bounds.1
    rw [Nat.cast_zero, zero_mul, mul_zero] at hlow
    have hle := le_low_add_gap x
    have hgap := gap_le_units h
    have hzero : x.interval.low = 0 := Nat.eq_zero_of_le_zero (by exact_mod_cast hlow)
    omega
  obtain ⟨k, count, hcount, rfl⟩ := Nat.exists_eq_pow_mul_and_not_dvd hne 10 (by decide)
  have hlowest : count % 10 ≠ 0 := fun hzero => hcount (Nat.dvd_of_mod_eq_zero hzero)
  have hpos : 0 < count := Nat.pos_of_ne_zero fun hzero => hlowest (by rw [hzero])
  have hvalue : (count * 10 ^ (power + k) : ℚ) = ((10 ^ k * count : ℕ) : ℚ) * 10 ^ power := by
    rw [zpow_add₀ (by norm_num), zpow_natCast]
    push_cast
    ring
  refine ⟨count, power + k, ?_, hlowest, by rwa [hvalue], fun n hn => ?_⟩
  · rw [mul_comm] at hfound
    rw [shortest, hfound, Decimal.ofMultiple_eq_ofParts hlowest]
  · obtain ⟨hnonneg, hones⟩ := hwhole n hn
    obtain ⟨e, rfl⟩ := Int.eq_ofNat_of_zero_le hnonneg
    refine ⟨10 ^ k * count * 10 ^ e, by rw [hvalue, zpow_natCast]; push_cast; ring, ?_⟩
    cases e with
    | zero => exact .inl (by rw [Nat.pow_zero, Nat.mul_one, hones rfl])
    | succ e => exact .inr (Dvd.intro_left (10 ^ k * count * 10 ^ e) (by ring))

end Double

end Dossier
