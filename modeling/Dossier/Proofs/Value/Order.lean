import Dossier.Proofs.Entries.Sorted
import Dossier.Proofs.Number.Exact
import Dossier.Proofs.Value.WellFormed
import Mathlib.Tactic

/-! Equality and order of values are one: the order is total, and two values are equal exactly when
neither comes before the other. Of documents the first is told by lookup and the second by going
through sorted entries; that both agree rests on no key coming twice. -/

namespace Dossier

/-! ### Orders of lists -/

/-- How the order of a first and a third follows from those of their neighbours in between. -/
def Composes (ab bc ac : Ordering) : Prop := ab.isLE = true → bc.isLE = true → ac = ab.then bc

theorem composes_of_transCmp {α : Type} (cmp : α → α → Ordering) [Std.TransCmp cmp] (a b c : α) :
    Composes (cmp a b) (cmp b c) (cmp a c) := by
  intro hab hbc
  cases h : cmp a b with
  | lt => exact Std.TransCmp.lt_of_lt_of_isLE h hbc
  | eq => exact Std.TransCmp.congr_left h
  | gt => simp [h] at hab

/-- What is compared again where the first finds no difference still composes. -/
theorem Composes.chain {a b c a' b' c' : Ordering} (h : Composes a b c)
    (h' : a = .eq → b = .eq → Composes a' b' c') :
    Composes (a.then a') (b.then b') (c.then c') := by
  intro hab hbc
  cases a <;> cases b <;> cases a' <;> simp_all [Composes]

section Lists

variable {α : Type} {cmp : α → α → Ordering}

theorem compareLex_swap {xs : List α} (h : ∀ x ∈ xs, ∀ y, cmp x y = (cmp y x).swap) :
    ∀ ys, List.compareLex cmp xs ys = (List.compareLex cmp ys xs).swap := by
  induction xs with
  | nil =>
    intro ys
    cases ys <;> simp [List.compareLex_nil_nil, List.compareLex_nil_cons, List.compareLex_cons_nil]
  | cons x xs ih =>
    intro ys
    rw [List.forall_mem_cons] at h
    cases ys with
    | nil => simp [List.compareLex_nil_cons, List.compareLex_cons_nil]
    | cons y ys =>
      rw [List.compareLex_cons_cons, List.compareLex_cons_cons, h.1 y, ih h.2 ys,
        Ordering.swap_then]

theorem composes_compareLex {xs : List α}
    (h : ∀ x ∈ xs, ∀ y z, Composes (cmp x y) (cmp y z) (cmp x z)) :
    ∀ ys zs, Composes (List.compareLex cmp xs ys) (List.compareLex cmp ys zs)
      (List.compareLex cmp xs zs) := by
  induction xs with
  | nil =>
    intro ys zs _ _
    cases ys <;> cases zs <;>
      simp_all [List.compareLex_nil_nil, List.compareLex_nil_cons, List.compareLex_cons_nil]
  | cons x xs ih =>
    intro ys zs
    rw [List.forall_mem_cons] at h
    cases ys with
    | nil =>
      intro hab
      simp [List.compareLex_cons_nil] at hab
    | cons y ys =>
      cases zs with
      | nil =>
        intro _ hbc
        simp [List.compareLex_cons_nil] at hbc
      | cons z zs =>
        simp only [List.compareLex_cons_cons]
        exact (h.1 y z).chain fun _ _ => ih h.2 ys zs

theorem compareLex_eq_eq_iff {xs ys : List α} :
    List.compareLex cmp xs ys = .eq ↔ List.Forall₂ (fun x y => cmp x y = .eq) xs ys := by
  induction xs generalizing ys with
  | nil => cases ys <;> simp [List.compareLex_nil_nil, List.compareLex_nil_cons]
  | cons x xs ih =>
    cases ys with
    | nil => simp [List.compareLex_cons_nil]
    | cons y ys => rw [List.compareLex_cons_cons, Ordering.then_eq_eq, List.forall₂_cons, ih]

end Lists

/-! ### The order of values, kind by kind -/

def Entries.compareEntry (a b : String × Value) : Ordering :=
  (Ord.compare a.1 b.1).then (a.2.compare b.2)

namespace Value

theorem sortedEntries_eq (es : List (String × Value)) :
    Document.sortedEntries es = es.map fun e => (e.1, e.2.sorted) := by
  induction es with
  | nil => rfl
  | cons e es ih => rw [Document.sortedEntries, ih, List.map_cons]

theorem compare_array (xs ys : List Value) :
    (array xs).compare (array ys) = List.compareLex compare xs ys := by
  change compareItems (sortedItems xs) (sortedItems ys) = _
  induction xs generalizing ys with
  | nil => cases ys <;> rfl
  | cons x xs ih =>
    cases ys with
    | nil => rfl
    | cons y ys =>
      rw [List.compareLex_cons_cons, ← ih ys]
      rfl

theorem compare_document (d e : Document) :
    (document d).compare (document e) =
      List.compareLex Entries.compareEntry (Entries.sortByKey d.entries)
        (Entries.sortByKey e.entries) := by
  have hmap : ∀ es fs : List (String × Value),
      compareEntries (es.map fun e => (e.1, e.2.sorted)) (fs.map fun e => (e.1, e.2.sorted)) =
        List.compareLex Entries.compareEntry es fs := by
    intro es
    induction es with
    | nil => intro fs; cases fs <;> rfl
    | cons a es ih =>
      intro fs
      cases fs with
      | nil => rfl
      | cons b fs =>
        rw [List.compareLex_cons_cons, ← ih fs, Entries.compareEntry, Ordering.then_assoc]
        rfl
  obtain ⟨es⟩ := d
  obtain ⟨fs⟩ := e
  change compareEntries (Entries.sortByKey (Document.sortedEntries es))
    (Entries.sortByKey (Document.sortedEntries fs)) = _
  rw [sortedEntries_eq, sortedEntries_eq, Entries.sortByKey_map, Entries.sortByKey_map, hmap]

theorem kind_sorted (v : Value) : v.sorted.kind = v.kind := by cases v <;> rfl

theorem compare_of_kind_ne {v w : Value} (h : v.kind ≠ w.kind) :
    v.compare w = Ord.compare v.kind.rank w.kind.rank := by
  rw [← kind_sorted v, ← kind_sorted w] at h ⊢
  rw [compare]
  generalize v.sorted = a at h ⊢
  generalize w.sorted = b at h ⊢
  rw [compareSorted] <;> intros <;> subst_vars <;> exact h rfl

theorem kind_eq_of_rank_eq {k l : Kind} (h : k.rank = l.rank) : k = l := by
  cases k <;> cases l <;> first | rfl | cases h

/-- Values are compared by kind first. -/
theorem compare_eq_then (v w : Value) :
    v.compare w = (Ord.compare v.kind.rank w.kind.rank).then (v.compare w) := by
  by_cases h : v.kind = w.kind
  · rw [h, Nat.compare_eq_eq.mpr rfl, Ordering.eq_then]
  · have hr : Ord.compare v.kind.rank w.kind.rank ≠ .eq := fun hr =>
      h (kind_eq_of_rank_eq (Nat.compare_eq_eq.mp hr))
    rw [compare_of_kind_ne h]
    cases hc : Ord.compare v.kind.rank w.kind.rank <;> simp_all

/-! ### A total order -/

theorem compare_swap_of_kind_ne {v w : Value} (h : v.kind ≠ w.kind) :
    v.compare w = (w.compare v).swap := by
  rw [compare_of_kind_ne h, compare_of_kind_ne h.symm]
  exact Std.OrientedCmp.eq_swap

theorem compare_swap (v w : Value) : v.compare w = (w.compare v).swap := by
  induction v using inductionOn generalizing w with
  | null =>
    cases w with
    | null => rfl
    | _ => exact compare_swap_of_kind_ne nofun
  | bool b =>
    cases w with
    | bool c => exact Std.OrientedOrd.eq_swap (a := b)
    | _ => exact compare_swap_of_kind_ne nofun
  | number n =>
    cases w with
    | number m => exact @Std.OrientedCmp.eq_swap _ Number.compare _ n m
    | _ => exact compare_swap_of_kind_ne nofun
  | string s =>
    cases w with
    | string t => exact Std.OrientedOrd.eq_swap (a := s)
    | _ => exact compare_swap_of_kind_ne nofun
  | array xs ih =>
    cases w with
    | array ys =>
      rw [compare_array, compare_array]
      exact compareLex_swap ih ys
    | _ => exact compare_swap_of_kind_ne nofun
  | document d ih =>
    cases w with
    | document e =>
      rw [compare_document, compare_document]
      refine compareLex_swap (fun a ha b => ?_) _
      rw [Entries.compareEntry, Entries.compareEntry, ih a (Entries.mem_sortByKey.mp ha) b.2,
        Std.OrientedOrd.eq_swap (a := a.1), Ordering.swap_then]
    | _ => exact compare_swap_of_kind_ne nofun
  | pattern p =>
    cases w with
    | pattern q => exact Std.OrientedOrd.eq_swap (a := p.source)
    | _ => exact compare_swap_of_kind_ne nofun

theorem composes_of_kind_eq {u v w : Value}
    (h : u.kind = v.kind → v.kind = w.kind →
      Composes (u.compare v) (v.compare w) (u.compare w)) :
    Composes (u.compare v) (v.compare w) (u.compare w) := by
  rw [compare_eq_then u v, compare_eq_then v w, compare_eq_then u w]
  refine (composes_of_transCmp Ord.compare _ _ _).chain fun huv hvw => ?_
  exact h (kind_eq_of_rank_eq (Nat.compare_eq_eq.mp huv))
    (kind_eq_of_rank_eq (Nat.compare_eq_eq.mp hvw))

theorem composes_compare (u v w : Value) :
    Composes (u.compare v) (v.compare w) (u.compare w) := by
  induction u using inductionOn generalizing v w with
  | null =>
    refine composes_of_kind_eq fun huv hvw => ?_
    cases v <;> cases huv
    cases w <;> cases hvw
    intro _ _
    rfl
  | bool a =>
    refine composes_of_kind_eq fun huv hvw => ?_
    cases v <;> cases huv
    cases w <;> cases hvw
    exact composes_of_transCmp Ord.compare a _ _
  | number a =>
    refine composes_of_kind_eq fun huv hvw => ?_
    cases v <;> cases huv
    cases w <;> cases hvw
    exact composes_of_transCmp Number.compare a _ _
  | string a =>
    refine composes_of_kind_eq fun huv hvw => ?_
    cases v <;> cases huv
    cases w <;> cases hvw
    exact composes_of_transCmp Ord.compare a _ _
  | array xs ih =>
    refine composes_of_kind_eq fun huv hvw => ?_
    cases v <;> cases huv
    cases w <;> cases hvw
    rw [compare_array, compare_array, compare_array]
    exact composes_compareLex ih _ _
  | document d ih =>
    refine composes_of_kind_eq fun huv hvw => ?_
    cases v <;> cases huv
    cases w <;> cases hvw
    rw [compare_document, compare_document, compare_document]
    refine composes_compareLex (fun a ha b c => ?_) _ _
    exact (composes_of_transCmp Ord.compare a.1 b.1 c.1).chain fun _ _ =>
      ih a (Entries.mem_sortByKey.mp ha) b.2 c.2
  | pattern p =>
    refine composes_of_kind_eq fun huv hvw => ?_
    cases v <;> cases huv
    cases w <;> cases hvw
    exact composes_of_transCmp Ord.compare p.source _ _

instance : Std.TransCmp Value.compare where
  eq_swap := compare_swap _ _
  isLE_trans hab hbc := by
    rw [composes_compare _ _ _ hab hbc, Ordering.isLE_then_iff_and]
    exact ⟨hab, .inr hbc⟩

/-! ### Equality -/

theorem equal_array (xs ys : List Value) :
    (array xs).equal (array ys) = true ↔ List.Forall₂ (fun x y => x.equal y = true) xs ys := by
  rw [equal]
  induction xs generalizing ys with
  | nil => cases ys <;> simp [equalItems]
  | cons x xs ih =>
    cases ys with
    | nil => simp [equalItems]
    | cons y ys => rw [equalItems, Bool.and_eq_true, ih, List.forall₂_cons]

theorem entriesIn_iff (es : List (String × Value)) (e : Document) :
    Document.entriesIn es e = true ↔
      ∀ a ∈ es, ∃ w, e.get? a.1 = some w ∧ a.2.equal w = true := by
  induction es with
  | nil => simp [Document.entriesIn]
  | cons a es ih =>
    rw [Document.entriesIn, Bool.and_eq_true, ih, List.forall_mem_cons]
    cases e.get? a.1 <;> simp

theorem equal_document {d : Document} (hn : d.keys.Nodup) (e : Document) :
    (document d).equal (document e) = true ↔
      List.Forall₂ (Entries.Related fun v w => v.equal w = true)
        (Entries.sortByKey d.entries) (Entries.sortByKey e.entries) := by
  obtain ⟨es⟩ := d
  rw [Entries.forall₂_sortByKey_iff hn, equal, Document.equal, Bool.and_eq_true, entriesIn_iff,
    beq_iff_eq]
  rfl

theorem equal_of_kind_ne {v w : Value} (h : v.kind ≠ w.kind) : v.equal w = false := by
  rw [equal] <;> intros <;> subst_vars <;> exact h rfl

theorem kind_eq_of_equal {v w : Value} (h : v.equal w = true) : v.kind = w.kind := by
  by_contra hk
  rw [equal_of_kind_ne hk] at h
  cases h

theorem equal_iff_of_kind_ne {v w : Value} (h : v.kind ≠ w.kind) :
    v.equal w = true ↔ v.compare w = .eq := by
  rw [compare_of_kind_ne h]
  constructor
  · intro heq
    exact absurd (kind_eq_of_equal heq) h
  · intro hr
    exact absurd (kind_eq_of_rank_eq (Nat.compare_eq_eq.mp hr)) h

/-- Two values are equal exactly when neither comes before the other. -/
theorem equal_iff_compare {v : Value} (hv : v.WellFormed) (w : Value) :
    v.equal w = true ↔ v.compare w = .eq := by
  induction v using inductionOn generalizing w with
  | null =>
    cases w with
    | null => rw [equal]; exact ⟨fun _ => rfl, fun _ => rfl⟩
    | _ => exact equal_iff_of_kind_ne (by simp [kind])
  | bool b =>
    cases w with
    | bool c =>
      rw [equal, beq_iff_eq]
      exact Std.LawfulEqOrd.compare_eq_iff_eq.symm
    | _ => exact equal_iff_of_kind_ne (by simp [kind])
  | number n =>
    cases w with
    | number m =>
      rw [equal]
      exact Number.equal_iff
    | _ => exact equal_iff_of_kind_ne (by simp [kind])
  | string s =>
    cases w with
    | string t =>
      rw [equal, beq_iff_eq]
      exact Std.LawfulEqOrd.compare_eq_iff_eq.symm
    | _ => exact equal_iff_of_kind_ne (by simp [kind])
  | array xs ih =>
    rw [wellFormed_array] at hv
    cases w with
    | array ys =>
      rw [equal_array, compare_array, compareLex_eq_eq_iff]
      exact Entries.forall₂_congr_of_mem fun x hx => ih x hx (hv x hx)
    | _ => exact equal_iff_of_kind_ne (by simp [kind])
  | document d ih =>
    rw [wellFormed_document] at hv
    cases w with
    | document e =>
      rw [equal_document hv.1, compare_document, compareLex_eq_eq_iff]
      refine Entries.forall₂_congr_of_mem fun a ha b => ?_
      have hmem := Entries.mem_sortByKey.mp ha
      rw [Entries.compareEntry, Ordering.then_eq_eq, Std.LawfulEqCmp.compare_eq_iff_eq,
        ← ih a hmem (hv.2 a hmem) b.2, Entries.Related]
    | _ => exact equal_iff_of_kind_ne (by simp [kind])
  | pattern p =>
    cases w with
    | pattern q =>
      rw [equal, beq_iff_eq]
      exact Std.LawfulEqOrd.compare_eq_iff_eq.symm
    | _ => exact equal_iff_of_kind_ne (by simp [kind])

end Value

theorem Document.equal_iff_compare {d : Document} (hd : d.WellFormed) (e : Document) :
    d.equal e = true ↔ d.compare e = .eq := by
  have h := Value.equal_iff_compare (v := .document d) hd (.document e)
  rw [Value.equal] at h
  obtain ⟨es⟩ := d
  obtain ⟨fs⟩ := e
  exact h

namespace Value

theorem equal_symm {v w : Value} (hv : v.WellFormed) (hw : w.WellFormed)
    (h : v.equal w = true) : w.equal v = true := by
  rw [equal_iff_compare hw, compare_swap, (equal_iff_compare hv w).mp h]
  rfl

theorem equal_trans {u v w : Value} (hu : u.WellFormed) (hv : v.WellFormed)
    (huv : u.equal v = true) (hvw : v.equal w = true) : u.equal w = true := by
  rw [equal_iff_compare hu] at huv ⊢
  rw [equal_iff_compare hv] at hvw
  exact Std.TransCmp.eq_trans huv hvw

theorem equal_refl {v : Value} (hv : v.WellFormed) : v.equal v = true := by
  rw [equal_iff_compare hv]
  exact Std.ReflCmp.compare_self

/-- Values are in one total order, whatever their kinds and however deep they are, and it is the
order that equality belongs to: on values in whose documents no key comes twice, being equal is
having neither before the other, and so it is an equivalence. -/
theorem compare_total_order :
    (∀ v w : Value, v.compare w = (w.compare v).swap) ∧
      (∀ u v w : Value, (u.compare v).isLE = true → (v.compare w).isLE = true →
        (u.compare w).isLE = true) ∧
      (∀ v w : Value, v.WellFormed → (v.equal w = true ↔ v.compare w = .eq)) ∧
      (∀ d e : Document, d.WellFormed → (d.equal e = true ↔ d.compare e = .eq)) ∧
      Equivalence fun v w : {v : Value // v.WellFormed} => v.1.equal w.1 = true := by
  refine ⟨compare_swap, fun _ _ _ => Std.TransCmp.isLE_trans, fun v w hv => ?_, fun d e hd => ?_,
    ?_⟩
  · exact equal_iff_compare hv w
  · exact Document.equal_iff_compare hd e
  · exact ⟨fun v => equal_refl v.2, fun {v w} => equal_symm v.2 w.2,
      fun {u v _} => equal_trans u.2 v.2⟩

/-- Documents with their keys in different orders and numbers of different kinds, against one that
holds the double the integer would be rounded to. -/
theorem compare_total_order_mixed :
    let u := document ⟨[("n", array []), ("m", double ⟨0x4340000000000000⟩)]⟩
    let v := document ⟨[("m", signed 9007199254740993), ("n", array [double ⟨0⟩, double .nan])]⟩
    let w := document ⟨[("n", array [double ⟨0x8000000000000000⟩, double ⟨0xfff0000000000001⟩]),
      ("m", unsigned 9007199254740993)]⟩
    v.equal w = true ∧ w.equal v = true ∧ (u.compare v).isLE = true ∧ (u.compare w).isLE = true ∧
      (w.compare u).swap.isLE = true := by
  intro u v w
  obtain ⟨hswap, htrans, hequal, -, hequiv⟩ := compare_total_order
  have hv : v.WellFormed := ⟨by decide, trivial, ⟨trivial, trivial, trivial⟩, trivial⟩
  have hw : w.WellFormed := ⟨by decide, ⟨trivial, trivial, trivial⟩, trivial, trivial⟩
  have heq : v.equal w = true := by decide +kernel
  have huv : (u.compare v).isLE = true := by cbv
  have hvw : v.compare w = .eq := (hequal v w hv).mp heq
  have huw : (u.compare w).isLE = true := htrans u v w huv (by rw [hvw]; rfl)
  refine ⟨heq, hequiv.symm (x := ⟨v, hv⟩) (y := ⟨w, hw⟩) heq, huv, huw, ?_⟩
  rwa [← hswap]

end Value

end Dossier
