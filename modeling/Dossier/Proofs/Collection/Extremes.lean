import Dossier.Collection.Aggregate
import Dossier.Proofs.Collection.Sorting

/-! The least and the greatest of selected values are the ends of the sorted row. Two passes find
them, which break ties in opposite ways: the one stays with the first of the least values, the other
moves on to the last of the greatest. -/

namespace Dossier

/-! ### First of the least, last of the greatest -/

section Extremes

variable {α : Type} {cmp : α → α → Ordering} {xs ys : List α} {m : α}

/-- What comes strictly before all in front of it, and not after any behind it. -/
def FirstLeast (cmp : α → α → Ordering) (xs : List α) (m : α) : Prop :=
  ∃ before after, xs = before ++ m :: after ∧ (∀ x ∈ before, cmp m x = .lt) ∧
    ∀ x ∈ after, (cmp m x).isLE = true

/-- What comes not before any in front of it, and strictly after all behind it. -/
def LastGreatest (cmp : α → α → Ordering) (xs : List α) (m : α) : Prop :=
  ∃ before after, xs = before ++ m :: after ∧ (∀ x ∈ before, (cmp x m).isLE = true) ∧
    ∀ x ∈ after, cmp x m = .lt

/-- Read backwards and with the sides exchanged, the one is the other. -/
theorem LastGreatest.reverse (h : LastGreatest cmp xs m) :
    FirstLeast (fun a b => cmp b a) xs.reverse m := by
  obtain ⟨before, after, rfl, hbefore, hafter⟩ := h
  refine ⟨after.reverse, before.reverse, by simp, ?_, ?_⟩
  · exact fun x hx => hafter x (List.mem_reverse.mp hx)
  · exact fun x hx => hbefore x (List.mem_reverse.mp hx)

theorem FirstLeast.isLE [Std.ReflCmp cmp] (h : FirstLeast cmp xs m) {x : α} (hx : x ∈ xs) :
    (cmp m x).isLE = true := by
  obtain ⟨before, after, rfl, hbefore, hafter⟩ := h
  rcases List.mem_append.mp hx with hx | hx
  · rw [hbefore x hx]
    rfl
  · rcases List.mem_cons.mp hx with rfl | hx
    · exact Ordering.isLE_of_eq_eq Std.ReflCmp.compare_self
    · exact hafter x hx

/-- A sorted row begins with the first of the least. -/
theorem StableSort.head?_eq [Std.TransCmp cmp] (h : StableSort cmp xs ys)
    (hm : FirstLeast cmp xs m) : ys.head? = some m := by
  have hmem : m ∈ xs := by
    obtain ⟨before, after, rfl, -⟩ := hm
    simp
  cases ys with
  | nil => cases h.mem_iff.mpr hmem
  | cons y ys =>
    have hy : y ∈ xs := h.mem_iff.mp List.mem_cons_self
    have htied : cmp m y = .eq := Std.OrientedCmp.isLE_antisymm (hm.isLE hy) (h.head_le hmem)
    have hfirst := h.stable m
    obtain ⟨before, after, rfl, hbefore, -⟩ := hm
    have hnone : (before.filter fun b => cmp m b == .eq) = [] :=
      List.filter_eq_nil_iff.mpr fun b hb => by simp [hbefore b hb]
    rw [List.filter_append, hnone, List.nil_append,
      List.filter_cons_of_pos (by simp [htied]),
      List.filter_cons_of_pos (by simp [Std.ReflCmp.compare_self])] at hfirst
    exact congrArg some (List.cons.inj hfirst).1

theorem StableSort.getLast?_eq [Std.TransCmp cmp] (h : StableSort cmp xs ys)
    (hm : LastGreatest cmp xs m) : ys.getLast? = some m := by
  rw [List.getLast?_eq_head?_reverse]
  exact h.reverse.head?_eq hm.reverse

theorem LastGreatest.isLE [Std.TransCmp cmp] (h : LastGreatest cmp xs m) {x : α} (hx : x ∈ xs) :
    (cmp x m).isLE = true :=
  h.reverse.isLE (List.mem_reverse.mpr hx)

/-! ### The two passes -/

/-- The least so far gives way to what comes strictly before it. -/
theorem FirstLeast.concat [Std.TransCmp cmp] (h : FirstLeast cmp xs m) (w : α) :
    FirstLeast cmp (xs ++ [w]) (if cmp m w == .gt then w else m) := by
  cases hw : cmp m w with
  | gt =>
    have hlt : cmp w m = .lt := Std.OrientedCmp.lt_of_gt hw
    refine ⟨xs, [], rfl, fun x hx => ?_, nofun⟩
    exact Std.TransCmp.lt_of_lt_of_isLE hlt (h.isLE hx)
  | _ =>
    obtain ⟨before, after, rfl, hbefore, hafter⟩ := h
    refine ⟨before, after ++ [w], by simp, hbefore, ?_⟩
    rw [List.forall_mem_append, List.forall_mem_singleton]
    exact ⟨hafter, by simp [hw]⟩

/-- The greatest so far gives way to what does not come strictly before it. -/
theorem LastGreatest.concat [Std.TransCmp cmp] (h : LastGreatest cmp xs m) (w : α) :
    LastGreatest cmp (xs ++ [w]) (if cmp m w == .gt then m else w) := by
  cases hw : cmp m w with
  | gt =>
    have hlt : cmp w m = .lt := Std.OrientedCmp.lt_of_gt hw
    obtain ⟨before, after, rfl, hbefore, hafter⟩ := h
    refine ⟨before, after ++ [w], by simp, hbefore, ?_⟩
    rw [List.forall_mem_append, List.forall_mem_singleton]
    exact ⟨hafter, hlt⟩
  | _ =>
    refine ⟨xs, [], rfl, fun x hx => ?_, nofun⟩
    exact Std.TransCmp.isLE_trans (h.isLE hx) (by simp [hw])

theorem FirstLeast.foldl [Std.TransCmp cmp] (h : FirstLeast cmp xs m) (ws : List α) :
    FirstLeast cmp (xs ++ ws)
      (ws.foldl (fun best w => if cmp best w == .gt then w else best) m) := by
  induction ws generalizing xs m with
  | nil => rwa [List.append_nil]
  | cons w ws ih =>
    rw [List.append_cons]
    exact ih (h.concat w)

theorem LastGreatest.foldl [Std.TransCmp cmp] (h : LastGreatest cmp xs m) (ws : List α) :
    LastGreatest cmp (xs ++ ws)
      (ws.foldl (fun best w => if cmp best w == .gt then best else w) m) := by
  induction ws generalizing xs m with
  | nil => rwa [List.append_nil]
  | cons w ws ih =>
    rw [List.append_cons]
    exact ih (h.concat w)

end Extremes

namespace Collection

variable {μ : Type}

theorem least?_eq_some {vs : List Value} {least : Value} (h : least? vs = some least) :
    FirstLeast Value.compare vs least := by
  cases vs with
  | nil => cases h
  | cons v vs =>
    obtain rfl := Option.some.inj h
    have hfirst : FirstLeast Value.compare [v] v := ⟨[], [], rfl, nofun, nofun⟩
    exact hfirst.foldl vs

theorem greatest?_eq_some {vs : List Value} {greatest : Value} (h : greatest? vs = some greatest) :
    LastGreatest Value.compare vs greatest := by
  cases vs with
  | nil => cases h
  | cons v vs =>
    obtain rfl := Option.some.inj h
    have hlast : LastGreatest Value.compare [v] v := ⟨[], [], rfl, nofun, nofun⟩
    exact hlast.foldl vs

theorem least?_eq_none_iff {vs : List Value} : least? vs = none ↔ vs = [] := by
  cases vs <;> simp [least?]

theorem greatest?_eq_none_iff {vs : List Value} : greatest? vs = none ↔ vs = [] := by
  cases vs <;> simp [greatest?]

theorem least?_eq_head? {vs sorted : List Value} (h : StableSort Value.compare vs sorted) :
    least? vs = sorted.head? := by
  cases hleast : least? vs with
  | some least => exact (h.head?_eq (least?_eq_some hleast)).symm
  | none =>
    obtain rfl := least?_eq_none_iff.mp hleast
    rw [List.perm_nil.mp h.perm, List.head?_nil]

theorem greatest?_eq_getLast? {vs sorted : List Value} (h : StableSort Value.compare vs sorted) :
    greatest? vs = sorted.getLast? := by
  cases hgreatest : greatest? vs with
  | some greatest => exact (h.getLast?_eq (greatest?_eq_some hgreatest)).symm
  | none =>
    obtain rfl := greatest?_eq_none_iff.mp hgreatest
    rw [List.perm_nil.mp h.perm, List.getLast?_nil]

/-! ### Selected values -/

variable {c : Collection μ} {s : Selector}

theorem mem_present {v : Value} :
    v ∈ c.present s ↔ (∃ item ∈ c.items, c.select s item = v) ∧ v ≠ .null := by
  rw [present, selected, List.mem_filter, List.mem_map]
  cases v <;> simp [Value.kind]

theorem present_eq_nil_iff : c.present s = [] ↔ ∀ item ∈ c.items, c.select s item = .null := by
  rw [List.eq_nil_iff_forall_not_mem]
  constructor
  · intro h item hitem
    by_contra hnull
    exact h _ (mem_present.mpr ⟨⟨item, hitem, rfl⟩, hnull⟩)
  · intro h v hv
    obtain ⟨⟨item, hitem, rfl⟩, hnull⟩ := mem_present.mp hv
    exact hnull (h item hitem)

end Collection

/-- The extremes are the ends of the sorted row. There is a least and a greatest selected value
exactly when not all are null, and they are the very values that a stable sort of those that are not
null puts first and last: the first of the least ones and the last of the greatest ones, in the order
of the collection. All selected values that are not null are between them. -/
theorem extremes_end_sorted_row {μ : Type} (c : Collection μ) (s : Selector) :
    let values := c.present s
    let sorted := (c.collect values).sort
    (c.min? s = none ↔ ∀ item ∈ c.items, c.select s item = .null) ∧
      (c.max? s = none ↔ ∀ item ∈ c.items, c.select s item = .null) ∧
      StableSort Value.compare values sorted.items ∧
      c.min? s = sorted.first? ∧ c.max? s = sorted.last? ∧
      (∀ least, c.min? s = some least → FirstLeast Value.compare values least) ∧
      (∀ greatest, c.max? s = some greatest → LastGreatest Value.compare values greatest) ∧
      ∀ least greatest, c.min? s = some least → c.max? s = some greatest →
        ∀ item ∈ c.items, c.select s item ≠ .null →
          (least.compare (c.select s item)).isLE = true ∧
            ((c.select s item).compare greatest).isLE = true := by
  intro values sorted
  have hsort : StableSort Value.compare values sorted.items :=
    (c.collect values).stableSort_sortBy Value.compare
  refine ⟨?_, ?_, hsort, Collection.least?_eq_head? hsort, Collection.greatest?_eq_getLast? hsort,
    fun _ => Collection.least?_eq_some, fun _ => Collection.greatest?_eq_some,
    fun least greatest hleast hgreatest item hitem hnull => ?_⟩
  · rw [Collection.min?, Collection.least?_eq_none_iff, Collection.present_eq_nil_iff]
  · rw [Collection.max?, Collection.greatest?_eq_none_iff, Collection.present_eq_nil_iff]
  · have hmem : c.select s item ∈ values := Collection.mem_present.mpr ⟨⟨item, hitem, rfl⟩, hnull⟩
    exact ⟨(Collection.least?_eq_some hleast).isLE hmem,
      (Collection.greatest?_eq_some hgreatest).isLE hmem⟩

/-- Equal values of different kinds at both ends, of which one is no number, between items without
the field. -/
theorem extremes_end_sorted_row_mixed :
    let item : Value → Value := fun v => .document ⟨[("n", v)]⟩
    let c : Collection Unit := .new .standard [.null, item (.double .nan), item (.signed 1),
      item .null, item (.double ⟨0x3ff0000000000000⟩), item (.double ⟨0xfff0000000000001⟩)]
    c.min? (.path "n") = some (.signed 1) ∧
      c.max? (.path "n") = some (.double ⟨0xfff0000000000001⟩) ∧
      FirstLeast Value.compare (c.present (.path "n")) (.signed 1) ∧
      LastGreatest Value.compare (c.present (.path "n")) (.double ⟨0xfff0000000000001⟩) ∧
      ((Value.double ⟨0x3ff0000000000000⟩).compare (.double ⟨0xfff0000000000001⟩)).isLE = true := by
  intro item c
  have hmin : c.min? (.path "n") = some (.signed 1) := by cbv
  have hmax : c.max? (.path "n") = some (.double ⟨0xfff0000000000001⟩) := by cbv
  have hselect : c.select (.path "n") (item (.double ⟨0x3ff0000000000000⟩)) =
      .number (.double ⟨0x3ff0000000000000⟩) := by cbv
  obtain ⟨-, -, -, -, -, hfirst, hlast, hbetween⟩ := extremes_end_sorted_row c (.path "n")
  have hone := hbetween _ _ hmin hmax (item (.double ⟨0x3ff0000000000000⟩))
    (by simp [c, Collection.new]) (by simp [hselect])
  rw [hselect] at hone
  exact ⟨hmin, hmax, hfirst _ hmin, hlast _ hmax, hone.2⟩

end Dossier
