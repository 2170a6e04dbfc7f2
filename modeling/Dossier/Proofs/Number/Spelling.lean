import Dossier.Number.Basic
import Dossier.Proofs.Number.PlainText

/-! What numbers are written as and what they are. Two integers, or two doubles, have the same plain
text exactly when they are equal. An integer has that of a double when it is what the text spells,
and that is the double itself as long as one of the two is small enough. -/

namespace Dossier

/-! ### Doubles -/

namespace Double

variable {x y : Double} {n : ℤ} {q : ℚ}

theorem ReadFrom.pos (hx : x.units ≠ 0) (h : x.ReadFrom q) : 0 < q := by
  have hpos : 0 < x.interval.low := by
    have hle := le_low_add_gap x
    have hgap := gap_le_units hx
    have hgap_pos := x.gap_pos
    linarith
  have hcontains : x.interval.Contains _ := h
  have hlow : (0 : ℚ) < 4 * Magnitude.one * q :=
    (Nat.cast_pos.mpr hpos).trans_le hcontains.bounds.1
  exact pos_of_mul_pos_right hlow (mul_pos four_pos Magnitude.one_cast_pos).le

theorem spells_absRat (hx : x.units ≠ 0) : x.Spells x.absRat where
  readFrom := by
    have hvalue : (4 * Magnitude.one * x.absRat : ℚ) = (4 * x.units : ℕ) := by
      rw [Nat.cast_mul, units_eq_absRat_mul]
      push_cast
      ring
    rw [ReadFrom, hvalue]
    exact contains_units hx
  whole n hn := ⟨n, hn, .inl rfl⟩

theorem exact_of_isFinite (hf : x.isFinite = true) : x.exact = .rational x.toRat := by
  have hexp : x.exponentField ≠ 2047 := by simpa [isFinite] using hf
  rw [exact, if_neg hexp]

theorem exact_of_not_isFinite (hf : x.isFinite = false) :
    x.exact = if x.isNaN then .nan else .infinite x.isNegative := by
  have hexp : x.exponentField = 2047 := by simpa [isFinite] using hf
  rw [exact, if_pos hexp, isNaN, hexp]
  by_cases hfraction : x.fractionField = 0 <;> simp [hfraction]

theorem exact_ne_rational (hf : x.isFinite = false) (q : ℚ) : x.exact ≠ .rational q := by
  rw [exact_of_not_isFinite hf]
  split_ifs
  · exact (ExtendedRat.rational_lt_nan q).ne'
  · cases x.isNegative
    · exact (ExtendedRat.rational_lt_infinite_false q).ne'
    · exact (ExtendedRat.infinite_true_lt_rational q).ne

theorem toRat_eq_zero (hx : x.units = 0) : x.toRat = 0 := by
  rw [toRat, absRat_eq, hx]
  simp

end Double

namespace Number

open Double

variable {x y : Double} {n : ℤ} {q : ℚ}

theorem plainText_of_integer {a : Number} (h : a.integer? = some n) : a.plainText = toString n := by
  cases a with
  | signed k =>
    obtain rfl := Option.some.inj h
    rfl
  | unsigned k =>
    obtain rfl := Option.some.inj h
    rfl
  | double x => cases h

theorem plainText_of_not_isFinite (hf : x.isFinite = false) :
    (double x).plainText = if x.isNaN then "NaN" else if x.isNegative then "-inf" else "inf" := by
  have hwhole : x.magnitude.toInt? = none := by
    unfold Double.magnitude
    rw [hf, if_neg Bool.false_ne_true]
    split_ifs <;> rfl
  rw [plainText, hwhole, Double.plainText, hf, Double.signed]
  split_ifs <;> first | rfl | simp_all

theorem plainText_of_nan (h : x.magnitude = .nan) : (double x).plainText = "NaN" := by
  rw [plainText, h, Double.plainText, (isNaN_iff x).mpr h]
  rfl

theorem plainText_of_zero (h : x.magnitude = .finite 0) : (double x).plainText = "0" := by
  have hwhole : x.magnitude.toInt? = some 0 := Magnitude.toInt?_eq_some.mpr (by
    rw [h, Magnitude.ofInt, zero_mul])
  rw [plainText, hwhole]
  rfl

theorem spelled?_plainText_of_not_isFinite (hf : x.isFinite = false) :
    spelled? (double x).plainText = none := by
  rw [plainText_of_not_isFinite hf]
  split_ifs <;> decide +kernel

/-- A finite double is written plainly, as a number that reads back. -/
theorem exists_spellsPlainly (hf : x.isFinite = true) :
    ∃ q, SpellsPlainly (double x).plainText (if x.isNegative then -q else q) ∧
      (x.units = 0 → q = 0) ∧ (x.units ≠ 0 → x.Spells q) := by
  have hexact := exact_of_isFinite hf
  by_cases hsmall : ∃ n : ℤ, x.magnitude = .ofInt n ∧ n.natAbs < 1000000000000000
  · obtain ⟨n, hn, hlt⟩ := hsmall
    have htext : (double x).plainText = toString n := by
      rw [plainText, Magnitude.toInt?_eq_some.mpr hn]
      exact if_pos hlt
    have hvalue : x.toRat = n := by
      rw [Double.exact_eq, hn, Magnitude.exact_ofInt] at hexact
      exact (ExtendedRat.rational_strictMono.injective hexact).symm
    refine ⟨x.absRat, ?_, fun hx => ?_, spells_absRat⟩
    · rw [htext, ← toRat, hvalue]
      exact spellsPlainly_toString n
    · rw [absRat_eq, hx, Nat.cast_zero, zero_div]
  · have htext : (double x).plainText = x.plainText := by
      rw [plainText]
      cases hwhole : x.magnitude.toInt? with
      | none => rfl
      | some n => exact if_neg fun hlt => hsmall ⟨n, Magnitude.toInt?_eq_some.mp hwhole, hlt⟩
    have hmagnitude : x.magnitude = .finite (if x.isNegative then -x.units else x.units) := if_pos hf
    have hx : x.units ≠ 0 := by
      intro hzero
      refine hsmall ⟨0, ?_, by decide⟩
      rw [hmagnitude, hzero]
      simp [Magnitude.ofInt]
    have hnan : x.isNaN = false := isNaN_eq_false (by rw [hmagnitude]; exact Magnitude.noConfusion)
    obtain ⟨count, power, hshortest, hcount, hspells⟩ := exists_shortest_eq .up hx
    refine ⟨count * 10 ^ power, ?_, fun hzero => absurd hzero hx, fun _ => hspells⟩
    rw [htext, Double.plainText, hnan, hf, if_neg Bool.false_ne_true, if_neg (by decide), if_neg hx,
      hshortest]
    exact spellsPlainly_signed (Decimal.spellsDigits_positional hcount power)
      (hspells.readFrom.pos hx)

/-! ### Two doubles -/

/-- Doubles with one text are one number: no two read back from what it spells. -/
theorem toRat_eq_of_plainText_eq (hx : x.isFinite = true) (hy : y.isFinite = true)
    (h : (double x).plainText = (double y).plainText) : x.toRat = y.toRat := by
  obtain ⟨q, hq, hqzero, hqspells⟩ := exists_spellsPlainly hx
  obtain ⟨r, hr, hrzero, hrspells⟩ := exists_spellsPlainly hy
  have heq : (if x.isNegative then -q else q) = if y.isNegative then -r else r := by
    have hspelled := hq.spelled
    rw [h, hr.spelled] at hspelled
    exact (Option.some.inj hspelled).symm
  by_cases hxzero : x.units = 0 <;> by_cases hyzero : y.units = 0
  · rw [toRat_eq_zero hxzero, toRat_eq_zero hyzero]
  · have hpos := (hrspells hyzero).readFrom.pos hyzero
    rw [hqzero hxzero] at heq
    split_ifs at heq <;> linarith
  · have hpos := (hqspells hxzero).readFrom.pos hxzero
    rw [hrzero hyzero] at heq
    split_ifs at heq <;> linarith
  · have hqread := (hqspells hxzero).readFrom
    have hrread := (hrspells hyzero).readFrom
    have hqpos := hqread.pos hxzero
    have hrpos := hrread.pos hyzero
    rw [toRat, toRat]
    split_ifs at heq ⊢
    · rw [neg_inj] at heq ⊢
      exact absRat_eq_of_readFrom hqread (heq ▸ hrread)
    · linarith
    · linarith
    · exact absRat_eq_of_readFrom hqread (heq ▸ hrread)

theorem plainText_double_eq_iff : (double x).plainText = (double y).plainText ↔ x.exact = y.exact := by
  constructor
  · intro h
    cases hx : x.isFinite <;> cases hy : y.isFinite
    · rw [plainText_of_not_isFinite hx, plainText_of_not_isFinite hy] at h
      rw [exact_of_not_isFinite hx, exact_of_not_isFinite hy]
      split_ifs at h ⊢ <;> simp_all
    · obtain ⟨r, hr, -⟩ := exists_spellsPlainly hy
      have hspelled := hr.spelled
      rw [← h, spelled?_plainText_of_not_isFinite hx] at hspelled
      cases hspelled
    · obtain ⟨q, hq, -⟩ := exists_spellsPlainly hx
      have hspelled := hq.spelled
      rw [h, spelled?_plainText_of_not_isFinite hy] at hspelled
      cases hspelled
    · rw [exact_of_isFinite hx, exact_of_isFinite hy, toRat_eq_of_plainText_eq hx hy h]
  · intro h
    have hmagnitude : x.magnitude = y.magnitude :=
      magnitude_eq_of_equal (a := double x) (b := double y) (equal_iff_exact_eq.mpr h)
    by_cases hnan : x.magnitude = .nan
    · rw [plainText_of_nan hnan, plainText_of_nan (hmagnitude ▸ hnan)]
    by_cases hzero : x.magnitude = .finite 0
    · rw [plainText_of_zero hzero, plainText_of_zero (hmagnitude ▸ hzero)]
    · rw [eq_of_magnitude_eq hmagnitude hnan hzero]

/-! ### An integer and a double -/

theorem plainText_eq_iff_spelled {a : Number} (h : a.integer? = some n) :
    a.plainText = (double x).plainText ↔ spelled? (double x).plainText = some (n : ℚ) := by
  rw [plainText_of_integer h]
  constructor
  · intro htext
    rw [← htext]
    exact (spellsPlainly_toString n).spelled
  · intro hspelled
    cases hf : x.isFinite with
    | false =>
      rw [spelled?_plainText_of_not_isFinite hf] at hspelled
      cases hspelled
    | true =>
      obtain ⟨q, hq, -⟩ := exists_spellsPlainly hf
      rw [hq.spelled] at hspelled
      exact (hq.unique n (Option.some.inj hspelled)).symm

theorem signed_eq_intCast_iff (hq : 0 < q) (p : Prop) [Decidable p] :
    (if p then -q else q) = (n : ℚ) ↔ (p ↔ n < 0) ∧ q = n.natAbs := by
  have hneg : (n : ℚ) < 0 ↔ n < 0 := Int.cast_lt_zero
  rw [Nat.cast_natAbs, Int.cast_abs]
  split_ifs with hp
  · rw [iff_true_left hp]
    constructor
    · intro h
      have hlt : (n : ℚ) < 0 := by linarith
      exact ⟨hneg.mp hlt, by rw [abs_of_neg hlt]; linarith⟩
    · rintro ⟨hlt, h⟩
      rw [h, abs_of_neg (hneg.mpr hlt), neg_neg]
  · rw [iff_false_left hp, ← hneg, not_lt]
    constructor
    · intro h
      exact ⟨by linarith, by rw [← h, abs_of_pos hq]⟩
    · rintro ⟨hle, h⟩
      rw [h, abs_of_nonneg hle]

/-- Small numbers are spelled as what they are. -/
theorem toRat_eq_iff_spelled (hf : x.isFinite = true)
    (hsmall : x.absRat < (18014398509481992 : ℕ) ∨ n.natAbs < 18014398509481990) :
    x.toRat = n ↔ spelled? (double x).plainText = some (n : ℚ) := by
  obtain ⟨q, hq, hzero, hspells⟩ := exists_spellsPlainly hf
  rw [hq.spelled, Option.some_inj]
  by_cases hx : x.units = 0
  · rw [toRat_eq_zero hx, hzero hx, neg_zero, ite_self]
  · have hself := (spells_absRat hx).readFrom.pos hx
    have hpos := (hspells hx).readFrom.pos hx
    rw [toRat, signed_eq_intCast_iff hself, signed_eq_intCast_iff hpos,
      (hspells hx).eq_natCast_iff hsmall]

end Number

/-- Whether an integer is one of two different numbers, the one that a double is and the one that its
plain text spells. -/
def Double.Blurs (x : Double) (n : ℤ) : Prop :=
  ∃ q, spelled? (Number.double x).plainText = some q ∧ q ≠ x.toRat ∧ (x.toRat = n ∨ q = n)

namespace Number

variable {a b : Number} {n : ℤ} {x : Double}

/-- An integer beside a double that blurs it. -/
def Blurred (a b : Number) : Prop :=
  match a.integer?, b.integer? with
  | some n, none => b.toDouble.Blurs n
  | none, some n => a.toDouble.Blurs n
  | _, _ => False

theorem exists_eq_double (h : a.integer? = none) : ∃ x, a = double x := by
  cases a with
  | double x => exact ⟨x, rfl⟩
  | _ => cases h

theorem blurs_iff :
    x.Blurs n ↔ ¬ (x.exact = .rational n ↔ spelled? (double x).plainText = some (n : ℚ)) := by
  cases hf : x.isFinite with
  | false => simp [Double.Blurs, spelled?_plainText_of_not_isFinite hf, Double.exact_ne_rational hf]
  | true =>
    obtain ⟨q, hq, -⟩ := exists_spellsPlainly hf
    rw [Double.Blurs, Double.exact_of_isFinite hf, hq.spelled, Option.some_inj,
      ExtendedRat.rational_strictMono.injective.eq_iff]
    simp only [Option.some_inj, exists_eq_left']
    grind

theorem isFinite_of_blurs (h : x.Blurs n) : x.isFinite = true := by
  obtain ⟨q, hq, -⟩ := h
  by_contra hf
  rw [spelled?_plainText_of_not_isFinite (Bool.eq_false_of_not_eq_true hf)] at hq
  cases hq

theorem bounds_of_blurs (h : x.Blurs n) :
    x.isFinite = true ∧ 18014398509481990 ≤ n.natAbs ∧ 18014398509481992 ≤ x.absRat := by
  have hf := isFinite_of_blurs h
  rw [blurs_iff, Double.exact_of_isFinite hf, ExtendedRat.rational_strictMono.injective.eq_iff] at h
  have hgreat : ¬ (x.absRat < (18014398509481992 : ℕ) ∨ n.natAbs < 18014398509481990) :=
    fun hsmall => h (toRat_eq_iff_spelled hf hsmall)
  rw [not_or, not_lt, not_lt] at hgreat
  exact ⟨hf, hgreat.2, hgreat.1⟩

theorem Blurred.bounds (h : a.Blurred b) :
    ∃ (n : ℤ) (x : Double),
      (a.integer? = some n ∧ b = double x ∨ a = double x ∧ b.integer? = some n) ∧
        x.isFinite = true ∧ 18014398509481990 ≤ n.natAbs ∧ 18014398509481992 ≤ x.absRat := by
  unfold Blurred at h
  split at h
  · rename_i n ha hb
    obtain ⟨x, rfl⟩ := exists_eq_double hb
    exact ⟨n, x, .inl ⟨ha, rfl⟩, bounds_of_blurs h⟩
  · rename_i n ha hb
    obtain ⟨x, rfl⟩ := exists_eq_double ha
    exact ⟨n, x, .inr ⟨rfl, hb⟩, bounds_of_blurs h⟩
  · exact h.elim

theorem plainText_eq_iff_equal (a b : Number) :
    (a.plainText = b.plainText ↔ a.equal b = true) ↔ ¬ a.Blurred b := by
  rw [equal_iff_exact_eq]
  cases ha : a.integer? with
  | some m =>
    rw [exact_of_integer ha]
    cases hb : b.integer? with
    | some n =>
      have hplain : a.plainText = b.plainText ↔ m = n := by
        rw [plainText_of_integer ha, plainText_of_integer hb]
        refine ⟨fun h => ?_, congrArg toString⟩
        have hspelled := (spellsPlainly_toString m).spelled
        rw [h, (spellsPlainly_toString n).spelled, Option.some_inj] at hspelled
        exact (Int.cast_injective hspelled).symm
      rw [hplain, exact_of_integer hb, ExtendedRat.rational_strictMono.injective.eq_iff,
        Int.cast_inj, Blurred, ha, hb]
      simp
    | none =>
      obtain ⟨x, rfl⟩ := exists_eq_double hb
      rw [plainText_eq_iff_spelled ha, Blurred, ha, hb]
      simp only [exact, toDouble, blurs_iff, not_not]
      rw [eq_comm (a := ExtendedRat.rational m)]
      exact Iff.comm
  | none =>
    obtain ⟨x, rfl⟩ := exists_eq_double ha
    cases hb : b.integer? with
    | some n =>
      rw [eq_comm, plainText_eq_iff_spelled hb, exact_of_integer hb, Blurred, ha, hb]
      simp only [exact, toDouble, blurs_iff, not_not]
      exact Iff.comm
    | none =>
      obtain ⟨y, rfl⟩ := exists_eq_double hb
      rw [plainText_double_eq_iff, Blurred, ha]
      simp [exact, integer?]

end Number

end Dossier
