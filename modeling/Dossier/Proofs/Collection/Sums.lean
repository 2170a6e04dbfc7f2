import Dossier.Collection.Aggregate
import Dossier.Collection.Reshape
import Mathlib.Algebra.BigOperators.Group.List.Basic
import Mathlib.Algebra.Ring.Int.Defs

/-! Sums of integers are exact. The running sum stays within its 128 bits for as many numbers as a
collection can have, so at the end it is the total, and it comes out as the smallest kind of integer
that holds it. Only a total that no integer holds is left to the doubles, which are added one after
the other and rounded each time. -/

namespace Dossier

namespace Number

def total (ns : List Number) : Int := (ns.filterMap integer?).sum

theorem total_cons_of_integer {n : Number} {i : Int} (h : n.integer? = some i)
    (ns : List Number) : total (n :: ns) = i + total ns := by
  rw [total, List.filterMap_cons_some h, List.sum_cons]
  rfl

theorem total_cons_of_double {n : Number} (h : n.integer? = none) (ns : List Number) :
    total (n :: ns) = total ns := by
  rw [total, List.filterMap_cons_none h]
  rfl

theorem total_append (ns ms : List Number) : total (ns ++ ms) = total ns + total ms := by
  rw [total, List.filterMap_append, List.sum_append]
  rfl

theorem total_perm {ns ms : List Number} (h : ns.Perm ms) : total ns = total ms :=
  (h.filterMap integer?).sum_eq

/-- What a total comes out as: a signed integer that is equal to it, or an unsigned one where it is
too large for that, or some double where it is beyond both. -/
inductive Narrows (t : Int) : Number → Prop
  | signed (n : Int64) (h : n.toInt = t) : Narrows t (.signed n)
  | unsigned (n : UInt64) (h : n.toNat = t) (large : 2 ^ 63 ≤ t) : Narrows t (.unsigned n)
  | double (x : Double) (h : t < -2 ^ 63 ∨ 2 ^ 64 ≤ t) : Narrows t (.double x)

theorem narrows_ofInt? (t : Int) (x : Double) : Narrows t ((ofInt? t).getD (.double x)) := by
  rw [ofInt?]
  split_ifs with hsigned hunsigned
  · exact .signed _ (Int64.toInt_ofInt_of_le (by omega) (by omega))
  · refine .unsigned _ ?_ (by omega)
    have hfits : t.toNat < UInt64.size := by
      change t.toNat < 2 ^ 64
      omega
    rw [UInt64.toNat_ofNat_of_lt' hfits, Int.toNat_of_nonneg hunsigned.1]
  · exact .double x (by omega)

theorem Narrows.eq_of_integer? {t i : Int} {n : Number} (h : Narrows t n)
    (hi : n.integer? = some i) : i = t := by
  cases h with
  | signed n hn => exact (Option.some.inj hi).symm.trans hn
  | unsigned n hn _ => exact (Option.some.inj hi).symm.trans hn
  | double x _ => cases hi

theorem integer?_range {n : Number} {i : Int} (h : n.integer? = some i) :
    -2 ^ 63 ≤ i ∧ i < 2 ^ 64 := by
  cases n with
  | signed n =>
    obtain rfl := Option.some.inj h
    have hl := n.le_toInt
    have hu := n.toInt_lt
    omega
  | unsigned n =>
    obtain rfl := Option.some.inj h
    have hu := n.toNat_lt
    omega
  | double x => cases h

/-! ### The running sum -/

namespace Total

variable {t : Total} {ns : List Number}

theorem integers_add_of_integer {n : Number} {i : Int} (h : n.integer? = some i) :
    (t.add n).integers = Saturating.addWide t.integers i := by
  rw [add, h]

theorem integers_add_of_double {n : Number} (h : n.integer? = none) :
    (t.add n).integers = t.integers := by
  rw [add, h]

/-- After `k` numbers the sum of the integers is at most `k` times as large as one of them can be, and
`2 ^ 63` numbers do not reach the ends of 128 bits. So none of the sums is cut short. -/
theorem integers_foldl {k : Nat} (hl : -(2 ^ 64 * k) ≤ t.integers) (hu : t.integers ≤ 2 ^ 64 * k)
    (hk : k + ns.length < 2 ^ 63) : (ns.foldl add t).integers = t.integers + total ns := by
  induction ns generalizing t k with
  | nil => simp [total]
  | cons n ns ih =>
    rw [List.length_cons] at hk
    rw [List.foldl_cons]
    cases hn : n.integer? with
    | none =>
      have hsame : (t.add n).integers = t.integers := integers_add_of_double hn
      rw [ih (k := k) (by rwa [hsame]) (by rwa [hsame]) (by omega), hsame, total_cons_of_double hn]
    | some i =>
      obtain ⟨hi, hi'⟩ := integer?_range hn
      have hsum : (t.add n).integers = t.integers + i := by
        rw [integers_add_of_integer hn]
        exact Saturating.addWide_of_fits (by omega) (by omega)
      rw [ih (k := k + 1) (by omega) (by omega) (by omega), hsum, total_cons_of_integer hn,
        Int.add_assoc]

theorem integral_foldl :
    (ns.foldl add t).integral = (t.integral && ns.all fun n => n.integer?.isSome) := by
  induction ns generalizing t with
  | nil => simp
  | cons n ns ih =>
    rw [List.foldl_cons, ih, List.all_cons, add]
    cases n.integer? <;> simp

end Total

end Number

namespace Collection

variable {μ : Type}

def numbers (c : Collection μ) (s : Selector) : List Number :=
  (c.selected s).filterMap Value.number?

def SelectsNoDouble (c : Collection μ) (s : Selector) : Prop :=
  ∀ item ∈ c.items, ∀ x, c.select s item ≠ .double x

section Sums

variable {c : Collection μ} {s : Selector}

theorem selectsNoDouble_items (h : ∀ item ∈ c.items, ∀ x, item ≠ .double x) :
    c.SelectsNoDouble (.path "") := h

theorem mem_numbers {n : Number} :
    n ∈ c.numbers s ↔ ∃ item ∈ c.items, c.select s item = .number n := by
  rw [numbers, selected, List.filterMap_map, List.mem_filterMap]
  refine exists_congr fun item => and_congr_right fun _ => ?_
  rw [Function.comp_apply]
  cases c.select s item <;> simp [Value.number?]

theorem sum_eq (c : Collection μ) (s : Selector) :
    c.sum s = .number ((c.numbers s).foldl Number.Total.add .zero).result := rfl

theorem length_numbers_le : (c.numbers s).length ≤ c.size := by
  have hselected : (c.selected s).length = c.size := List.length_map _
  exact hselected ▸ List.length_filterMap_le _ _

/-- Items whose selected value is no number count for nothing. -/
theorem numbers_filter :
    (c.collect (c.items.filter fun item => (c.select s item).number?.isSome)).numbers s =
      c.numbers s := by
  have hselected : ∀ items, (c.collect items).numbers s =
      items.filterMap fun item => (c.select s item).number? := fun items => List.filterMap_map
  have hsame : ∀ item, (if (c.select s item).number?.isSome then (c.select s item).number? else none)
      = (c.select s item).number? := by
    intro item
    cases (c.select s item).number? <;> rfl
  rw [hselected, List.filterMap_filter, funext hsame]
  exact (hselected c.items).symm

theorem all_integer (hs : c.SelectsNoDouble s) :
    ((c.numbers s).all fun n => n.integer?.isSome) = true := by
  rw [List.all_eq_true]
  intro n hn
  obtain ⟨item, hitem, hselect⟩ := mem_numbers.mp hn
  cases n with
  | double x => exact absurd hselect (hs item hitem x)
  | _ => rfl

theorem integers_numbers (hc : c.size < 2 ^ 63) (i : Nat) :
    (((c.numbers s).take i).foldl Number.Total.add .zero).integers =
      Number.total ((c.numbers s).take i) := by
  have hlength : ((c.numbers s).take i).length < 2 ^ 63 :=
    Nat.lt_of_le_of_lt (Nat.le_trans (List.length_take_le' _ _) length_numbers_le) hc
  have hzero : Number.Total.zero.integers = 0 := rfl
  rw [Number.Total.integers_foldl (k := 0) (by omega) (by omega) (by omega), hzero, Int.zero_add]

theorem sum_of_integers (hc : c.size < 2 ^ 63) (hs : c.SelectsNoDouble s) :
    ∃ x, c.sum s = .number ((Number.ofInt? (Number.total (c.numbers s))).getD (.double x)) := by
  refine ⟨((c.numbers s).foldl Number.Total.add .zero).doubles, ?_⟩
  have hintegers := integers_numbers (s := s) hc (c.numbers s).length
  rw [List.take_length] at hintegers
  rw [sum_eq, Number.Total.result, Number.Total.integral_foldl, all_integer hs, hintegers]
  rfl

theorem exists_narrows (hc : c.size < 2 ^ 63) (hs : c.SelectsNoDouble s) :
    ∃ n, c.sum s = .number n ∧ Number.Narrows (Number.total (c.numbers s)) n := by
  obtain ⟨x, hx⟩ := sum_of_integers hc hs
  exact ⟨_, hx, Number.narrows_ofInt? _ x⟩

/-- A sum that is an integer is the total. -/
theorem eq_total_of_integer? (hc : c.size < 2 ^ 63) (hs : c.SelectsNoDouble s) {i : Int}
    (hi : (c.sum s).integer? = some i) : i = Number.total (c.numbers s) := by
  obtain ⟨n, hn, hnarrows⟩ := exists_narrows hc hs
  rw [hn] at hi
  exact hnarrows.eq_of_integer? hi

theorem sum_of_double {x : Double} (hx : .double x ∈ c.numbers s) :
    ∃ y, c.sum s = .double y := by
  have hall : ((c.numbers s).all fun n => n.integer?.isSome) = false :=
    List.all_eq_false.mpr ⟨_, hx, by simp [Number.integer?]⟩
  refine ⟨((c.numbers s).foldl Number.Total.add .zero).doubles, ?_⟩
  rw [sum_eq, Number.Total.result, Number.Total.integral_foldl, hall, Bool.and_false]
  rfl

theorem numbers_concat (items : List Value) :
    (c.concat items).numbers s = c.numbers s ++ (c.collect items).numbers s := by
  change ((c.items ++ items).map (c.select s)).filterMap Value.number? = _
  rw [List.map_append, List.filterMap_append]
  rfl

/-- Where the total is an integer, the order of the items does not matter; where it is none, there is
a double in every order. -/
theorem sum_perm (hc : c.size < 2 ^ 63) (hs : c.SelectsNoDouble s) {items : List Value}
    (h : items.Perm c.items) :
    ((c.collect items).sum s).isInteger = (c.sum s).isInteger ∧
      ((c.sum s).isInteger = true → (c.collect items).sum s = c.sum s) := by
  have hsize : (c.collect items).size = c.size := h.length_eq
  have hs' : (c.collect items).SelectsNoDouble s := fun item hitem => hs item (h.mem_iff.mp hitem)
  have htotal : Number.total ((c.collect items).numbers s) = Number.total (c.numbers s) :=
    Number.total_perm ((h.map _).filterMap _)
  obtain ⟨x, hx⟩ := sum_of_integers hc hs
  obtain ⟨y, hy⟩ := sum_of_integers (hsize ▸ hc) hs'
  rw [hx, hy, htotal]
  cases Number.ofInt? (Number.total (c.numbers s)) with
  | none => exact ⟨rfl, nofun⟩
  | some n => exact ⟨rfl, fun _ => rfl⟩

end Sums

end Collection

/-- Sums of integers are exact. Items whose selected value is no number count for nothing, and one
double among the numbers makes the sum a double. Where there is none, the running sum is exact at
every moment, and the sum is the total of the integers as a signed integer, or else as an unsigned
one, or else some double. So a sum that is an integer is the same in every order of the items, and
the totals of two collections add up to that of both. -/
theorem integer_sums_are_exact {μ : Type} (c : Collection μ) (s : Selector) :
    (c.collect (c.items.filter fun item => (c.select s item).number?.isSome)).sum s = c.sum s ∧
      ((∃ item ∈ c.items, ∃ x, c.select s item = .double x) → ∃ x, c.sum s = .double x) ∧
      (c.size < 2 ^ 63 → c.SelectsNoDouble s →
        let numbers := c.numbers s
        (∀ i, ((numbers.take i).foldl Number.Total.add .zero).integers =
          Number.total (numbers.take i)) ∧
        (∃ n, c.sum s = .number n ∧ Number.Narrows (Number.total numbers) n) ∧
        (∀ items, items.Perm c.items →
          ((c.collect items).sum s).isInteger = (c.sum s).isInteger ∧
            ((c.sum s).isInteger = true → (c.collect items).sum s = c.sum s)) ∧
        ∀ items, (c.concat items).size < 2 ^ 63 → (c.collect items).SelectsNoDouble s →
          ∀ i j, (c.sum s).integer? = some i → ((c.collect items).sum s).integer? = some j →
            ∃ n, (c.concat items).sum s = .number n ∧ Number.Narrows (i + j) n) := by
  refine ⟨?_, ?_, fun hc hs => ?_⟩
  · rw [Collection.sum_eq, Collection.sum_eq, Collection.numbers_filter]
  · rintro ⟨item, hitem, x, hx⟩
    exact Collection.sum_of_double (Collection.mem_numbers.mpr ⟨item, hitem, hx⟩)
  · refine ⟨Collection.integers_numbers hc, Collection.exists_narrows hc hs,
      fun items hperm => Collection.sum_perm hc hs hperm, fun items hboth hs' i j hi hj => ?_⟩
    have hsize : (c.concat items).size = c.size + items.length := List.length_append
    have hitems : (c.collect items).size < 2 ^ 63 := by
      change items.length < 2 ^ 63
      omega
    have hnone : (c.concat items).SelectsNoDouble s := fun item hitem =>
      (List.mem_append.mp hitem).elim (hs item) (hs' item)
    rw [Collection.eq_total_of_integer? hc hs hi, Collection.eq_total_of_integer? hitems hs' hj,
      ← Number.total_append, ← Collection.numbers_concat]
    exact Collection.exists_narrows hboth hnone

/-- Both ends of the signed integers with nothing numeric between them, in two orders; the largest
unsigned integer, got from two collections; and a double among integers. -/
theorem integer_sums_are_exact_at_ends :
    let c : Collection Unit := .new .standard
      [.signed 0x7fffffffffffffff, .string "2", .signed (-0x8000000000000000), .null]
    let d : Collection Unit := .new .standard [.signed 0x7fffffffffffffff]
    let rest : List Value := [.unsigned 0x8000000000000000]
    let s : Selector := .path ""
    c.size < 2 ^ 63 ∧ c.SelectsNoDouble s ∧
      (∃ n, c.sum s = .number n ∧ Number.Narrows (-1) n) ∧
      (c.collect c.items.reverse).sum s = c.sum s ∧
      (∃ n, (d.concat rest).sum s = .number n ∧ Number.Narrows 0xffffffffffffffff n) ∧
      ∃ x, (d.concat [.double .nan]).sum s = .double x := by
  intro c d rest s
  obtain ⟨-, -, hexact⟩ := integer_sums_are_exact c s
  obtain ⟨-, -, hhalf⟩ := integer_sums_are_exact d s
  obtain ⟨-, hdouble, -⟩ := integer_sums_are_exact (d.concat [.double .nan]) s
  have hc : c.size < 2 ^ 63 := by decide
  have hcs : c.SelectsNoDouble s :=
    Collection.selectsNoDouble_items (by simp [c, Collection.new, Value.signed, Value.double])
  have hds : d.SelectsNoDouble s :=
    Collection.selectsNoDouble_items (by simp [d, Collection.new, Value.signed, Value.double])
  have hrest : (d.collect rest).SelectsNoDouble s := Collection.selectsNoDouble_items
    (by simp [rest, Collection.collect, Value.unsigned, Value.double])
  obtain ⟨-, hnarrows, hperm, -⟩ := hexact hc hcs
  obtain ⟨-, -, -, hboth⟩ := hhalf (by decide) hds
  have hinteger : (c.sum s).isInteger = true := by decide +kernel
  refine ⟨hc, hcs, hnarrows, (hperm _ c.items.reverse_perm).2 hinteger, ?_, ?_⟩
  · exact hboth rest (by decide) hrest 0x7fffffffffffffff 0x8000000000000000 (by decide +kernel)
      (by decide +kernel)
  · exact hdouble ⟨.double .nan, by simp [Collection.concat, Collection.collect], .nan, rfl⟩

/-- A total that no integer holds is a sum of doubles, each rounded, and shows the order of the items:
what is lost when the small numbers come one by one after the large one is kept when they come
first. -/
theorem large_sum_shows_order :
    let c : Collection Unit := .new .standard
      [.unsigned 0xffffffffffffffff, .signed 2048, .signed 1]
    let s : Selector := .path ""
    c.size < 2 ^ 63 ∧ c.SelectsNoDouble s ∧ c.items.reverse.Perm c.items ∧
      c.sum s = .double ⟨0x43f0000000000000⟩ ∧
      (c.collect c.items.reverse).sum s = .double ⟨0x43f0000000000001⟩ ∧
      (c.collect c.items.reverse).sum s ≠ c.sum s := by
  intro c s
  have hfirst : c.sum s = .double ⟨0x43f0000000000000⟩ :=
    congrArg Value.number (by decide +kernel)
  have hlast : (c.collect c.items.reverse).sum s = .double ⟨0x43f0000000000001⟩ :=
    congrArg Value.number (by decide +kernel)
  refine ⟨by decide, ?_, c.items.reverse_perm, hfirst, hlast, ?_⟩
  · exact Collection.selectsNoDouble_items
      (by simp [c, Collection.new, Value.signed, Value.unsigned, Value.double])
  · rw [hfirst, hlast]
    simp [Value.double]

end Dossier
