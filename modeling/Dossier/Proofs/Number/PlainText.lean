import Dossier.Proofs.Number.Whole
import Mathlib.Data.List.TakeWhile

/-! Plain text of numbers, read back: digits, with a sign in front and a point among them or without.
The layout of a decimal spells the decimal, and whole numbers are laid out in one way only, with all
their digits and neither point nor zeros in front. -/

namespace Dossier

/-! ### Reading digits -/

/-- The number that digits spell, with a point among them or without one. -/
def spelledDigits? (text : List Char) : Option ℚ :=
  let whole := text.takeWhile (· ≠ '.')
  let fraction := (text.dropWhile (· ≠ '.')).drop 1
  if (whole ++ fraction).all Char.isDigit then
    some ((Nat.ofDigitChars 10 (whole ++ fraction) 0 : ℚ) / 10 ^ fraction.length)
  else none

/-- The number that text spells, if it is a number. -/
def spelled? (text : String) : Option ℚ :=
  match text.toList with
  | '-' :: digits => (spelledDigits? digits).map fun q => -q
  | digits => spelledDigits? digits

/-- Digits that spell a number, which if it is whole is written in no other way. -/
structure SpellsDigits (text : List Char) (q : ℚ) : Prop where
  spelled : spelledDigits? text = some q
  unique : ∀ n : ℕ, q = n → text = Nat.toDigits 10 n
  noSign : text.head? ≠ some '-'

variable {text : List Char} {count k : Nat}

theorem ne_point_of_isDigit {c : Char} (h : c.isDigit = true) : c ≠ '.' := by
  rintro rfl
  cases h

theorem spelledDigits?_whole (h : ∀ c ∈ text, c.isDigit = true) :
    spelledDigits? text = some (Nat.ofDigitChars 10 text 0 : ℚ) := by
  have hpoint : ∀ c ∈ text, decide (c ≠ '.') = true := fun c hc =>
    decide_eq_true (ne_point_of_isDigit (h c hc))
  have htake : text.takeWhile (· ≠ '.') = text := List.takeWhile_eq_self_iff.mpr hpoint
  have hdrop : text.dropWhile (· ≠ '.') = [] := List.dropWhile_eq_nil_iff.mpr hpoint
  rw [spelledDigits?, htake, hdrop, List.drop_nil, List.append_nil, List.all_eq_true.mpr h,
    if_pos rfl, List.length_nil, pow_zero, div_one]

theorem spelledDigits?_point {whole fraction : List Char} (hw : ∀ c ∈ whole, c.isDigit = true)
    (hf : ∀ c ∈ fraction, c.isDigit = true) :
    spelledDigits? (whole ++ '.' :: fraction) =
      some ((Nat.ofDigitChars 10 (whole ++ fraction) 0 : ℚ) / 10 ^ fraction.length) := by
  have hpoint : ∀ c ∈ whole, decide (c ≠ '.') = true := fun c hc =>
    decide_eq_true (ne_point_of_isDigit (hw c hc))
  have htake : (whole ++ '.' :: fraction).takeWhile (· ≠ '.') = whole := by
    rw [List.takeWhile_append_of_pos hpoint]
    simp
  have hdrop : (whole ++ '.' :: fraction).dropWhile (· ≠ '.') = '.' :: fraction := by
    rw [List.dropWhile_append_of_pos hpoint]
    simp
  rw [spelledDigits?, htake, hdrop, List.drop_one, List.tail_cons, if_pos]
  rw [List.all_append, List.all_eq_true.mpr hw, List.all_eq_true.mpr hf]
  rfl

theorem isDigit_toDigits (n : Nat) : ∀ c ∈ Nat.toDigits 10 n, c.isDigit = true := fun _ hc =>
  Nat.isDigit_of_mem_toDigits (by decide) (by decide) hc

theorem head?_ne_sign (h : ∀ c ∈ text, c.isDigit = true) : text.head? ≠ some '-' := by
  intro hhead
  cases h '-' (List.mem_of_head? hhead)

theorem spellsDigits_toDigits (n : Nat) : SpellsDigits (Nat.toDigits 10 n) n where
  spelled := by rw [spelledDigits?_whole (isDigit_toDigits n), Nat.ofDigitChars_ten_toDigits]
  unique m hm := by rw [Nat.cast_injective hm]
  noSign := head?_ne_sign (isDigit_toDigits n)

/-- Digits with a point that end in another digit than zero spell no whole number. -/
theorem spellsDigits_point {whole fraction : List Char} (hw : ∀ c ∈ whole, c.isDigit = true)
    (hf : ∀ c ∈ fraction, c.isDigit = true) (hlength : fraction.length = k + 1)
    (hvalue : Nat.ofDigitChars 10 (whole ++ fraction) 0 = count) (hcount : count % 10 ≠ 0) :
    SpellsDigits (whole ++ '.' :: fraction) (count / 10 ^ (k + 1)) where
  spelled := by rw [spelledDigits?_point hw hf, hvalue, hlength]
  unique n hn := by
    rw [div_eq_iff (by positivity)] at hn
    have hwhole : count = n * 10 ^ (k + 1) := by exact_mod_cast hn
    refine absurd ?_ hcount
    rw [hwhole, pow_succ, ← mul_assoc, Nat.mul_mod_left]
  noSign := by
    cases whole with
    | nil => simp
    | cons c whole =>
      intro hhead
      obtain rfl := Option.some.inj hhead
      cases hw '-' List.mem_cons_self

/-! ### The layout of a decimal -/

namespace Decimal

theorem isDigit_zeros (n : Nat) : ∀ c ∈ zeros n, c.isDigit = true := by
  intro c hc
  rw [List.eq_of_mem_replicate hc]
  rfl

theorem positional_ofParts_natCast (h : 0 < count) (k : Nat) :
    positional [] (ofParts count k) = Nat.toDigits 10 (count * 10 ^ k) := by
  obtain ⟨length, hlength⟩ : ∃ length, (Nat.toDigits 10 count).length = length + 1 :=
    Nat.exists_eq_succ_of_ne_zero Nat.length_toDigits_pos.ne'
  have hexponent : (ofParts count k).exponent = Int.ofNat (k + length) := by
    rw [ofParts, hlength, Int.ofNat_eq_natCast]
    push_cast
    ring
  have hzeros : k + length + 1 - (length + 1) = k := by omega
  rw [positional, hexponent, toDigits_mul_pow h]
  simp only [ofParts, hlength, hzeros]
  rw [if_pos (by omega), List.append_nil]

theorem exists_positional_ofParts_negSucc (count k : Nat) :
    ∃ whole fraction, positional [] (ofParts count (.negSucc k)) = whole ++ '.' :: fraction ∧
      (∀ c ∈ whole, c.isDigit = true) ∧ (∀ c ∈ fraction, c.isDigit = true) ∧
      fraction.length = k + 1 ∧ Nat.ofDigitChars 10 (whole ++ fraction) 0 = count := by
  have hdigits := isDigit_toDigits count
  have hread : Nat.ofDigitChars 10 (Nat.toDigits 10 count) 0 = count :=
    Nat.ofDigitChars_ten_toDigits
  have hexponent : (ofParts count (.negSucc k)).exponent =
      (Nat.toDigits 10 count).length - ((k + 2 : ℕ) : ℤ) := by
    rw [ofParts, Int.negSucc_eq]
    push_cast
    ring
  rw [positional]
  cases he : (ofParts count (.negSucc k)).exponent with
  | negSucc n =>
    rw [he, Int.negSucc_eq] at hexponent
    refine ⟨['0'], zeros n ++ Nat.toDigits 10 count, rfl, by simp, ?_, ?_, ?_⟩
    · exact List.forall_mem_append.mpr ⟨isDigit_zeros n, hdigits⟩
    · rw [List.length_append, zeros, List.length_replicate]
      omega
    · rw [List.singleton_append, ← List.cons_append, Nat.ofDigitChars_append, zeros,
        ← List.replicate_succ, Nat.ofDigitChars_replicate_zero, Nat.mul_zero, hread]
  | ofNat n =>
    rw [he, Int.ofNat_eq_natCast] at hexponent
    have hlong : ¬ (Nat.toDigits 10 count).length ≤ n + 1 := by omega
    refine ⟨(Nat.toDigits 10 count).take (n + 1), (Nat.toDigits 10 count).drop (n + 1),
      if_neg hlong, fun c hc => hdigits c (List.mem_of_mem_take hc),
      fun c hc => hdigits c (List.mem_of_mem_drop hc), ?_, ?_⟩
    · rw [List.length_drop]
      omega
    · rw [List.take_append_drop, hread]

theorem spellsDigits_positional (h : count % 10 ≠ 0) (power : ℤ) :
    SpellsDigits (positional [] (ofParts count power)) (count * 10 ^ power) := by
  have hpos : 0 < count := Nat.pos_of_ne_zero fun hzero => h (by rw [hzero])
  cases power with
  | ofNat k =>
    rw [Int.ofNat_eq_natCast, positional_ofParts_natCast hpos, zpow_natCast]
    exact_mod_cast spellsDigits_toDigits (count * 10 ^ k)
  | negSucc k =>
    obtain ⟨whole, fraction, htext, hw, hf, hlength, hread⟩ :=
      exists_positional_ofParts_negSucc count k
    rw [htext, zpow_negSucc, ← div_eq_mul_inv]
    exact spellsDigits_point hw hf hlength hread h

end Decimal

/-! ### Signs -/

/-- Text that spells a number, which if it is whole has no other text. -/
structure SpellsPlainly (text : String) (q : ℚ) : Prop where
  spelled : spelled? text = some q
  unique : ∀ n : ℤ, q = n → text = toString n

theorem toString_int_eq (n : ℤ) :
    toString n = String.ofList
      (if n < 0 then '-' :: Nat.toDigits 10 n.natAbs else Nat.toDigits 10 n.natAbs) := by
  cases n with
  | ofNat n => exact Nat.toString_eq_ofList_toDigits
  | negSucc n =>
    rw [if_pos (Int.negSucc_lt_zero n), ← List.singleton_append, String.ofList_append,
      Int.natAbs_negSucc, ← Nat.toString_eq_ofList_toDigits]
    rfl

theorem spelled?_ofList {q : ℚ} (h : SpellsDigits text q) (p : Prop) [Decidable p] :
    spelled? (String.ofList (if p then '-' :: text else text)) = some (if p then -q else q) := by
  rw [spelled?, String.toList_ofList]
  split_ifs
  · simp [h.spelled]
  · have hsign := h.noSign
    cases text with
    | nil => exact h.spelled
    | cons c text =>
      split
      · rename_i heq
        exact absurd (congrArg some (List.cons.inj heq).1) hsign
      · exact h.spelled

theorem spellsPlainly_toString (n : ℤ) : SpellsPlainly (toString n) n where
  spelled := by
    have hdigits := spelled?_ofList (spellsDigits_toDigits n.natAbs) (n < 0)
    rw [toString_int_eq, hdigits]
    congr 1
    rw [← Int.cast_natCast, ← Int.cast_neg, ← apply_ite Int.cast]
    split_ifs <;> congr 1 <;> omega
  unique m hm := by rw [Int.cast_injective hm]

theorem spellsPlainly_signed {x : Double} {q : ℚ} (h : SpellsDigits text q) (hq : 0 < q) :
    SpellsPlainly (x.signed text) (if x.isNegative then -q else q) where
  spelled := spelled?_ofList h _
  unique n hn := by
    have hnat : ∀ m : ℤ, q = m → 0 < m ∧ text = Nat.toDigits 10 m.natAbs := by
      intro m hm
      have hpos : 0 < m := by
        rw [hm] at hq
        exact_mod_cast hq
      refine ⟨hpos, h.unique _ ?_⟩
      rw [hm, ← Int.cast_natCast, Int.natAbs_of_nonneg hpos.le]
    rw [Double.signed, toString_int_eq]
    split_ifs at hn ⊢ with hs hneg hneg
    · obtain ⟨hpos, htext⟩ := hnat (-n) (by push_cast; linarith)
      rw [htext, Int.natAbs_neg]
    · obtain ⟨hpos, -⟩ := hnat (-n) (by push_cast; linarith)
      omega
    · obtain ⟨hpos, -⟩ := hnat n hn
      omega
    · rw [(hnat n hn).2]

end Dossier
