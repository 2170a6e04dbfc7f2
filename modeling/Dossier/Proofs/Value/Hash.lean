import Dossier.Proofs.Number.Bits
import Dossier.Proofs.Value.Order
import Dossier.Value.Hash

/-! Equal values feed a hasher the same, whatever hashes the entries of documents. A number is fed
by what it denotes, and the entries of a document are summed, so neither the kind of a number nor
the order of keys reaches the hasher. -/

namespace Dossier

def Magnitude.whole? (m : Magnitude) : Option Int :=
  m.toInt?.filter fun n =>
    decide (-0x80000000000000000000000000000000 ≤ n) &&
      decide (n < 0x80000000000000000000000000000000)

theorem Double.toInt?_eq_whole? (x : Double) : x.toInt? = x.magnitude.whole? := rfl

theorem Number.whole?_of_integer {a : Number} {n : Int} (h : a.integer? = some n) :
    a.magnitude.whole? = some n := by
  obtain ⟨hl, hr⟩ := integer?_bounds h
  rw [magnitude_of_integer h, Magnitude.whole?, Magnitude.toInt?_eq_some.mpr rfl,
    Option.filter_some, decide_eq_true (Int.le_of_lt hl), decide_eq_true hr]
  rfl

theorem Number.eq_double_of_whole?_eq_none {a : Number} (h : a.magnitude.whole? = none) :
    ∃ x, a = .double x := by
  cases a with
  | double x => exact ⟨x, rfl⟩
  | signed n => cases (whole?_of_integer (a := .signed n) rfl).symm.trans h
  | unsigned n => cases (whole?_of_integer (a := .unsigned n) rfl).symm.trans h

namespace Hash

/-! ### Numbers -/

theorem ofNumber_of_integer {a : Number} {n : Int} (h : a.integer? = some n) :
    ofNumber a = .integer n := by
  cases a with
  | signed k => exact congrArg Feed.integer (Option.some.inj h)
  | unsigned k => exact congrArg Feed.integer (Option.some.inj h)
  | double x => cases h

theorem ofNumber_of_whole? {a : Number} {n : Int} (h : a.magnitude.whole? = some n) :
    ofNumber a = .integer n := by
  cases ha : a.integer? with
  | some m =>
    have hm : some m = some n := (Number.whole?_of_integer ha).symm.trans h
    rw [ofNumber_of_integer ha, Option.some.inj hm]
  | none =>
    cases a with
    | double x =>
      have hx : x.toInt? = some n := h
      simp only [ofNumber, hx]
    | _ => cases ha

/-- Doubles that are no whole numbers are fed by their bits, which are the same when they denote the
same. -/
theorem ofNumber_double_congr {x y : Double} (h : x.magnitude = y.magnitude)
    (hx : x.toInt? = none) : ofNumber (.double x) = ofNumber (.double y) := by
  by_cases hnan : x.magnitude = .nan
  · have hy : y.toInt? = none := by rwa [y.toInt?_eq_whole?, ← h]
    simp only [ofNumber, hx, hy, (Double.isNaN_iff x).mpr hnan,
      (Double.isNaN_iff y).mpr (h.symm.trans hnan), if_true]
  · have hzero : x.magnitude ≠ .finite 0 := by
      intro hz
      have hint : x.toInt? = some 0 :=
        Double.toInt?_eq_some.mpr ⟨hz.trans (by decide), by decide, by decide⟩
      simp [hx] at hint
    rw [Double.eq_of_magnitude_eq h hnan hzero]

theorem ofNumber_congr {a b : Number} (h : a.equal b = true) : ofNumber a = ofNumber b := by
  have hm := Number.magnitude_eq_of_equal h
  cases hw : a.magnitude.whole? with
  | some n =>
    have hw' : b.magnitude.whole? = some n := hm ▸ hw
    rw [ofNumber_of_whole? hw, ofNumber_of_whole? hw']
  | none =>
    have hw' : b.magnitude.whole? = none := hm ▸ hw
    obtain ⟨x, rfl⟩ := Number.eq_double_of_whole?_eq_none hw
    obtain ⟨y, rfl⟩ := Number.eq_double_of_whole?_eq_none hw'
    exact ofNumber_double_congr hm hw

/-! ### Entries -/

section Entries

variable (entryHash : List Feed → UInt64)

theorem sumOfEntries_cons (e : String × Value) (es : List (String × Value)) :
    sumOfEntries entryHash (e :: es) =
      entryHash (.text e.1 :: ofValue entryHash e.2) + sumOfEntries entryHash es := by
  rw [sumOfEntries]

/-- The order of entries does not reach the sum. -/
theorem sumOfEntries_perm {es fs : List (String × Value)} (h : es.Perm fs) :
    sumOfEntries entryHash es = sumOfEntries entryHash fs := by
  induction h with
  | nil => rfl
  | cons e _ ih => rw [sumOfEntries_cons, sumOfEntries_cons, ih]
  | swap a b es =>
    simp only [sumOfEntries_cons]
    ac_rfl
  | trans _ _ ih ih' => exact ih.trans ih'

theorem sumOfEntries_congr {es fs : List (String × Value)}
    (h : List.Forall₂ (Entries.Related fun v w => ofValue entryHash v = ofValue entryHash w)
      es fs) :
    sumOfEntries entryHash es = sumOfEntries entryHash fs := by
  induction h with
  | nil => rfl
  | cons hab _ ih => rw [sumOfEntries_cons, sumOfEntries_cons, hab.1, hab.2, ih]

end Entries

/-! ### Values -/

theorem ofItems_congr (entryHash : List Feed → UInt64) {xs ys : List Value}
    (h : List.Forall₂ (fun x y => ofValue entryHash x = ofValue entryHash y) xs ys) :
    ofItems entryHash xs = ofItems entryHash ys := by
  induction h with
  | nil => rfl
  | cons hab _ ih => rw [ofItems, ofItems, hab, ih]

/-- Equal values are fed alike. -/
theorem ofValue_congr (entryHash : List Feed → UInt64) {v w : Value} (hv : v.WellFormed)
    (h : v.equal w = true) : ofValue entryHash v = ofValue entryHash w := by
  have hk := Value.kind_eq_of_equal h
  induction v using Value.inductionOn generalizing w with
  | null =>
    cases w <;> cases hk
    rfl
  | bool b =>
    cases w <;> cases hk
    rw [Value.equal, beq_iff_eq] at h
    rw [h]
  | number n =>
    cases w <;> cases hk
    rw [Value.equal] at h
    rw [ofValue, ofValue, ofNumber_congr h]
  | string s =>
    cases w <;> cases hk
    rw [Value.equal, beq_iff_eq] at h
    rw [h]
  | array xs ih =>
    cases w with
    | array ys =>
      rw [Value.wellFormed_array] at hv
      rw [Value.equal_array] at h
      have hfed := Entries.forall₂_imp_of_mem
        (fun x hx y hxy => ih x hx (hv x hx) hxy (Value.kind_eq_of_equal hxy)) h
      rw [ofValue, ofValue, h.length_eq, ofItems_congr entryHash hfed]
    | _ => cases hk
  | document d ih =>
    cases w with
    | document e =>
      rw [Value.wellFormed_document] at hv
      rw [Value.equal_document hv.1] at h
      have hfed : sumOfEntries entryHash (Entries.sortByKey d.entries) =
          sumOfEntries entryHash (Entries.sortByKey e.entries) := by
        refine sumOfEntries_congr entryHash (Entries.forall₂_imp_of_mem (fun a ha b hab => ?_) h)
        have hmem := Entries.mem_sortByKey.mp ha
        exact ⟨hab.1, ih a hmem (hv.2 a hmem) hab.2 (Value.kind_eq_of_equal hab.2)⟩
      rw [sumOfEntries_perm entryHash (Entries.perm_sortByKey d.entries),
        sumOfEntries_perm entryHash (Entries.perm_sortByKey e.entries)] at hfed
      have hlen : d.entries.length = e.entries.length := by
        rw [← (Entries.perm_sortByKey d.entries).length_eq, h.length_eq]
        exact (Entries.perm_sortByKey e.entries).length_eq
      obtain ⟨es⟩ := d
      obtain ⟨fs⟩ := e
      rw [ofValue, ofValue, ofDocument, ofDocument, hlen, hfed]
    | _ => cases hk
  | pattern p =>
    cases w <;> cases hk
    rw [Value.equal, beq_iff_eq] at h
    rw [ofValue, ofValue, h]

end Hash

end Dossier
