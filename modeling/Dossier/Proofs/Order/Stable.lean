import Mathlib.Data.List.Basic

/-! Stable sorts by a comparison. The comparison is a total preorder only: elements that are tied
under it stay in the order in which they stood. That makes the sorted row unique, and it makes
sorting by one comparison and then by another the same as sorting by the second, and by the first
where the second finds a tie. -/

namespace Dossier

variable {α : Type} {cmp cmp' : α → α → Ordering} {xs ys zs : List α}

/-- The one row is the other sorted by a comparison, with elements that are tied in the order in
which they stood. -/
structure StableSort (cmp : α → α → Ordering) (xs ys : List α) : Prop where
  sorted : ys.Pairwise fun a b => (cmp a b).isLE = true
  stable : ∀ a, (ys.filter fun b => cmp a b == .eq) = xs.filter fun b => cmp a b == .eq

theorem isLE_or_isLE (cmp : α → α → Ordering) [Std.OrientedCmp cmp] (a b : α) :
    ((cmp a b).isLE || (cmp b a).isLE) = true := by
  have hswap : cmp b a = (cmp a b).swap := Std.OrientedCmp.eq_swap
  rw [hswap]
  cases cmp a b <;> rfl

theorem stableSort_mergeSort (cmp : α → α → Ordering) [Std.TransCmp cmp] (xs : List α) :
    StableSort cmp xs (xs.mergeSort fun a b => (cmp a b).isLE) where
  sorted := List.pairwise_mergeSort (fun _ _ _ => Std.TransCmp.isLE_trans) (isLE_or_isLE cmp) xs
  stable a := by
    have htied : (xs.filter fun b => cmp a b == .eq).Pairwise
        fun b c => (cmp b c).isLE = true := by
      refine List.pairwise_of_forall_mem_list fun b hb c hc => ?_
      simp only [List.mem_filter, beq_iff_eq] at hb hc
      rw [← Std.TransCmp.congr_left hb.2, hc.2]
      rfl
    have hsub := List.sublist_mergeSort (fun _ _ _ => Std.TransCmp.isLE_trans) (isLE_or_isLE cmp)
      htied List.filter_sublist
    have hfilter := hsub.filter fun b => cmp a b == .eq
    simp only [List.filter_filter, Bool.and_self] at hfilter
    refine (hfilter.eq_of_length ?_).symm
    exact ((List.mergeSort_perm xs _).filter _).length_eq.symm

namespace StableSort

theorem mem_iff [Std.ReflCmp cmp] (h : StableSort cmp xs ys) {a : α} : a ∈ ys ↔ a ∈ xs := by
  have hself : ∀ zs : List α, a ∈ zs ↔ a ∈ zs.filter fun b => cmp a b == .eq := by
    simp [Std.ReflCmp.compare_self]
  rw [hself ys, h.stable a, ← hself xs]

/-- The first element of a sorted row comes before all elements of what was sorted. -/
theorem head_le [Std.ReflCmp cmp] {a b : α} (h : StableSort cmp xs (a :: ys)) (hb : b ∈ xs) :
    (cmp a b).isLE = true := by
  rcases List.mem_cons.mp (h.mem_iff.mpr hb) with rfl | hb
  · exact Ordering.isLE_of_eq_eq Std.ReflCmp.compare_self
  · exact List.rel_of_pairwise_cons h.sorted hb

/-- A row that is sorted already stays as it is: the first elements before and after are tied, and
each is the first of those tied with it. -/
theorem eq_of_sorted [Std.TransCmp cmp] (hxs : xs.Pairwise fun a b => (cmp a b).isLE = true)
    (h : StableSort cmp xs ys) : ys = xs := by
  induction xs generalizing ys with
  | nil => exact List.eq_nil_iff_forall_not_mem.mpr fun a ha => by cases h.mem_iff.mp ha
  | cons x xs ih =>
    have h' : StableSort cmp ys (x :: xs) := ⟨hxs, fun a => (h.stable a).symm⟩
    cases ys with
    | nil => cases h'.mem_iff.mp List.mem_cons_self
    | cons y ys =>
      have htied : cmp x y = .eq := Std.OrientedCmp.isLE_antisymm
        (h'.head_le List.mem_cons_self) (h.head_le List.mem_cons_self)
      have hfirst := h.stable x
      simp only [List.filter_cons, htied, Std.ReflCmp.compare_self, beq_self_eq_true, if_true,
        List.cons.injEq] at hfirst
      obtain ⟨rfl, -⟩ := hfirst
      refine congrArg (y :: ·) (ih hxs.of_cons ⟨h.sorted.of_cons, fun a => ?_⟩)
      have hrest := h.stable a
      simp only [List.filter_cons] at hrest
      split_ifs at hrest
      · exact (List.cons.inj hrest).2
      · exact hrest

/-- A row can be sorted in one way only. -/
theorem unique [Std.TransCmp cmp] (hy : StableSort cmp xs ys) (hz : StableSort cmp xs zs) :
    ys = zs :=
  eq_of_sorted hz.sorted ⟨hy.sorted, fun a => (hy.stable a).trans (hz.stable a).symm⟩

theorem eq_mergeSort [Std.TransCmp cmp] (h : StableSort cmp xs ys) :
    ys = xs.mergeSort fun a b => (cmp a b).isLE :=
  h.unique (stableSort_mergeSort cmp xs)

theorem perm [Std.TransCmp cmp] (h : StableSort cmp xs ys) : ys.Perm xs := by
  rw [h.eq_mergeSort]
  exact List.mergeSort_perm xs _

/-- Elements that are tied with each other keep their order, whatever else tells them apart from the
others. -/
theorem filter_eq [Std.TransCmp cmp] (h : StableSort cmp xs ys) {p : α → Bool}
    (hp : ∀ a b, p a = true → p b = true → cmp a b = .eq) : ys.filter p = xs.filter p := by
  cases hfound : ys.find? p with
  | none =>
    have hnone : ∀ a ∈ ys, ¬ p a = true := List.find?_eq_none.mp hfound
    rw [List.filter_eq_nil_iff.mpr hnone, List.filter_eq_nil_iff.mpr]
    exact fun a ha => hnone a (h.mem_iff.mpr ha)
  | some a =>
    have ha : p a = true := List.find?_some hfound
    have htied : ∀ zs : List α,
        (zs.filter fun b => cmp a b == .eq).filter p = zs.filter p := by
      intro zs
      rw [List.filter_filter]
      refine List.filter_congr fun b _ => ?_
      cases hb : p b with
      | false => rfl
      | true => simp [hp a b ha hb]
    rw [← htied ys, h.stable a, htied xs]

/-- What is sorted by one comparison and then by another is sorted by the second, and by the first
where the second finds a tie. -/
theorem lex [Std.TransCmp cmp] [Std.TransCmp cmp'] (hy : StableSort cmp' xs ys)
    (hz : StableSort cmp ys zs) : StableSort (compareLex cmp cmp') xs zs where
  sorted := by
    rw [List.pairwise_iff_forall_sublist]
    intro a b hab
    have hle : (cmp a b).isLE = true := List.pairwise_iff_forall_sublist.mp hz.sorted hab
    rw [compareLex, Ordering.isLE_then_iff_and]
    refine ⟨hle, ?_⟩
    cases htied : cmp a b with
    | lt => exact .inl rfl
    | gt => simp [htied] at hle
    | eq =>
      -- The pair is among those tied with its first element, and so it was there before.
      have hpair : [a, b].Sublist (zs.filter fun c => cmp a c == .eq) := by
        have hfilter := hab.filter fun c => cmp a c == .eq
        rwa [List.filter_cons_of_pos (by simp [Std.ReflCmp.compare_self]),
          List.filter_cons_of_pos (by simp [htied]), List.filter_nil] at hfilter
      rw [hz.stable a] at hpair
      exact .inr (List.pairwise_iff_forall_sublist.mp hy.sorted (hpair.trans List.filter_sublist))
  stable a := by
    have hboth : ∀ row : List α, (row.filter fun b => compareLex cmp cmp' a b == .eq) =
        (row.filter fun b => cmp a b == .eq).filter fun b => cmp' a b == .eq := by
      intro row
      rw [List.filter_filter]
      refine List.filter_congr fun b _ => ?_
      rw [compareLex, Bool.eq_iff_iff]
      simp [Ordering.then_eq_eq, and_comm]
    have hpast : ∀ row : List α,
        (row.filter fun b => cmp a b == .eq).filter (fun b => cmp' a b == .eq) =
          (row.filter fun b => cmp' a b == .eq).filter fun b => cmp a b == .eq := by
      intro row
      rw [List.filter_filter, List.filter_filter]
      exact List.filter_congr fun b _ => Bool.and_comm _ _
    rw [hboth, hz.stable a, hpast, hy.stable a, ← hpast, ← hboth]

theorem reverse [Std.OrientedCmp cmp] (h : StableSort cmp xs ys) :
    StableSort (fun a b => cmp b a) xs.reverse ys.reverse where
  sorted := List.pairwise_reverse.mpr h.sorted
  stable a := by
    have hsame : ∀ b, (cmp b a == .eq) = (cmp a b == .eq) := by
      intro b
      have hswap : cmp b a = (cmp a b).swap := Std.OrientedCmp.eq_swap
      rw [hswap]
      cases cmp a b <;> rfl
    simp only [hsame, List.filter_reverse, h.stable a]

end StableSort

end Dossier
