import Dossier.Collection.Arrange
import Dossier.Proofs.Order.Stable
import Dossier.Proofs.Value.Order

/-! Sorting by what items have at a path. In either direction the comparison is a total preorder, so
that sorting by it is well defined: null keys at one end, items without a key at the other, and ties
as they stood. A sort by a second path keeps the first one where it finds ties. -/

namespace Dossier

/-! ### Comparisons of items -/

theorem Value.kind_eq_null_of_isLE {v w : Value} (hw : w.kind = .null)
    (h : (v.compare w).isLE = true) : v.kind = .null := by
  by_contra hv
  rw [compare_of_kind_ne (hw ▸ hv), hw] at h
  cases hk : v.kind with
  | null => exact hv hk
  | _ => cases hk ▸ h

theorem Value.equal_eq_beq {v : Value} (hv : v.WellFormed) (w : Value) :
    v.equal w = (v.compare w == .eq) := by
  rw [Bool.eq_iff_iff, beq_iff_eq]
  exact equal_iff_compare hv w

theorem Direction.apply_descending {α : Type} (cmp : α → α → Ordering) [Std.OrientedCmp cmp] :
    (fun a b => descending.apply (cmp a b)) = fun a b => cmp b a := by
  funext a b
  exact Std.OrientedCmp.eq_swap.symm

instance {α : Type} {cmp : α → α → Ordering} [Std.TransCmp cmp] (direction : Direction) :
    Std.TransCmp fun a b => direction.apply (cmp a b) := by
  cases direction with
  | ascending => exact ‹Std.TransCmp cmp›
  | descending =>
    rw [Direction.apply_descending]
    infer_instance

namespace Collection

variable {μ : Type} {s : PathSyntax} {path : String}

/-- What has a key is before what has none, and two keys are in their own order. -/
theorem isLE_compareAt_iff {v w : Value} :
    (compareAt s path v w).isLE = true ↔
      ∀ y, s.getValue? w path = some y →
        ∃ x, s.getValue? v path = some x ∧ (x.compare y).isLE = true := by
  unfold compareAt
  cases s.getValue? v path <;> cases s.getValue? w path <;> simp

instance : Std.TransCmp (compareAt s path) where
  eq_swap {v w} := by
    unfold compareAt
    cases s.getValue? v path with
    | none => cases s.getValue? w path <;> rfl
    | some x =>
      cases s.getValue? w path with
      | none => rfl
      | some y => exact Value.compare_swap x y
  isLE_trans {u v w} huv hvw := by
    rw [isLE_compareAt_iff] at huv hvw ⊢
    intro z hz
    obtain ⟨y, hy, hyz⟩ := hvw z hz
    obtain ⟨x, hx, hxy⟩ := huv y hy
    exact ⟨x, hx, Std.TransCmp.isLE_trans hxy hyz⟩

def keyOrder (c : Collection μ) (path : String) (direction : Direction) :
    Value → Value → Ordering :=
  fun v w => direction.apply (compareAt c.context.paths path v w)

instance (c : Collection μ) (path : String) (direction : Direction) :
    Std.TransCmp (c.keyOrder path direction) :=
  inferInstanceAs (Std.TransCmp fun v w => direction.apply (compareAt c.context.paths path v w))

theorem stableSort_sortBy (c : Collection μ) (cmp : Value → Value → Ordering) [Std.TransCmp cmp] :
    StableSort cmp c.items (c.sortBy cmp).items :=
  stableSort_mergeSort cmp c.items

end Collection

/-! ### What comes where -/

/-- Parts in a direction: as they come, or from the last to the first. -/
def Direction.lay {α : Type} : Direction → List (List α) → List α
  | ascending, parts => parts.flatten
  | descending, parts => parts.reverse.flatten

def keyed (key? : Value → Option Value) (v : Value) : Bool := (key? v).isSome

def nullKeyed (key? : Value → Option Value) (v : Value) : Bool :=
  (key? v).any fun x => x.kind == .null

/-- Items sorted by keys that they may have, in a direction. Ascending, null keys come first and
items without a key last; descending, it is the other way round. Between them the keys follow each
other in their order, and items without a key or with equal ones are as they were. -/
structure SortedByKey (key? : Value → Option Value) (direction : Direction)
    (items sorted : List Value) : Prop where
  perm : sorted.Perm items
  parts : ∃ between, (∀ v ∈ between, ∃ x, key? v = some x ∧ x.kind ≠ .null) ∧
    sorted = direction.lay [items.filter (nullKeyed key?), between,
      items.filter fun v => !keyed key? v]
  ordered : sorted.Pairwise fun v w => ∀ x y, key? v = some x → key? w = some y →
    (direction.apply (x.compare y)).isLE = true
  tied : ∀ x : Value, (sorted.filter fun v => (key? v).any fun y => x.compare y == .eq) =
    items.filter fun v => (key? v).any fun y => x.compare y == .eq
  equal : ∀ x : Value, x.WellFormed → (sorted.filter fun v => (key? v).any x.equal) =
    items.filter fun v => (key? v).any x.equal

section Keys

variable {key? : Value → Option Value} {v : Value}

theorem keyed_iff : keyed key? v = true ↔ ∃ x, key? v = some x := Option.isSome_iff_exists

theorem nullKeyed_iff : nullKeyed key? v = true ↔ ∃ x, key? v = some x ∧ x.kind = .null := by
  rw [nullKeyed, Option.any_eq_true]
  simp only [beq_iff_eq]

theorem keyed_of_nullKeyed (h : nullKeyed key? v = true) : keyed key? v = true := by
  obtain ⟨x, hx, -⟩ := nullKeyed_iff.mp h
  exact keyed_iff.mpr ⟨x, hx⟩

end Keys

/-- Of a row in which what has a property stands in front, that part and the rest are the row. -/
theorem filter_append_filter_of_pairwise {α : Type} {p : α → Bool} {xs : List α}
    (h : xs.Pairwise fun a b => p b = true → p a = true) :
    xs.filter p ++ xs.filter (fun a => !p a) = xs := by
  induction xs with
  | nil => rfl
  | cons a xs ih =>
    rw [List.pairwise_cons] at h
    cases ha : p a with
    | true =>
      rw [List.filter_cons_of_pos ha, List.filter_cons_of_neg (by simp [ha]), List.cons_append,
        ih h.2]
    | false =>
      have hnone : ∀ b ∈ xs, ¬ p b = true := fun b hb hpb => by simp [h.1 b hb hpb] at ha
      rw [List.filter_cons_of_neg (by simp [ha]), List.filter_cons_of_pos (by simp [ha]),
        List.filter_eq_nil_iff.mpr hnone, List.nil_append,
        List.filter_eq_self.mpr fun b hb => by simp [hnone b hb]]

namespace Collection

section Parts

variable {xs ys : List Value} (h : StableSort (compareAt s path) xs ys)

include h

theorem pairwise_keyed :
    ys.Pairwise fun v w =>
      keyed (s.getValue? · path) w = true → keyed (s.getValue? · path) v = true := by
  refine h.sorted.imp fun {v w} hle hw => ?_
  obtain ⟨y, hy⟩ := keyed_iff.mp hw
  obtain ⟨x, hx, -⟩ := isLE_compareAt_iff.mp hle y hy
  exact keyed_iff.mpr ⟨x, hx⟩

theorem pairwise_nullKeyed :
    ys.Pairwise fun v w =>
      nullKeyed (s.getValue? · path) w = true → nullKeyed (s.getValue? · path) v = true := by
  refine h.sorted.imp fun {v w} hle hw => ?_
  obtain ⟨y, hy, hnull⟩ := nullKeyed_iff.mp hw
  obtain ⟨x, hx, hxy⟩ := isLE_compareAt_iff.mp hle y hy
  exact nullKeyed_iff.mpr ⟨x, hx, Value.kind_eq_null_of_isLE hnull hxy⟩

theorem filter_not_keyed :
    (ys.filter fun v => !keyed (s.getValue? · path) v) =
      xs.filter fun v => !keyed (s.getValue? · path) v := by
  refine h.filter_eq fun v w hv hw => ?_
  simp only [keyed, Option.not_isSome, Option.isNone_iff_eq_none] at hv hw
  rw [compareAt, hv, hw]

theorem filter_nullKeyed :
    ys.filter (nullKeyed (s.getValue? · path)) = xs.filter (nullKeyed (s.getValue? · path)) := by
  refine h.filter_eq fun v w hv hw => ?_
  obtain ⟨x, hx, hxnull⟩ := nullKeyed_iff.mp hv
  obtain ⟨y, hy, hynull⟩ := nullKeyed_iff.mp hw
  rw [compareAt, hx, hy]
  cases x <;> cases hxnull
  cases y <;> cases hynull
  rfl

/-- Null keys come first and items without a key last, each as they were, and other keys between. -/
theorem exists_between :
    ∃ between, (∀ v ∈ between, ∃ x, s.getValue? v path = some x ∧ x.kind ≠ .null) ∧
      ys = xs.filter (nullKeyed (s.getValue? · path)) ++ between ++
        xs.filter fun v => !keyed (s.getValue? · path) v := by
  let key? : Value → Option Value := (s.getValue? · path)
  let rest := ys.filter fun v => !nullKeyed key? v
  have hunkeyed : (rest.filter fun v => !keyed key? v) = ys.filter fun v => !keyed key? v := by
    rw [List.filter_filter]
    refine List.filter_congr fun v _ => ?_
    cases hv : nullKeyed key? v with
    | false => simp
    | true => simp [keyed_of_nullKeyed hv]
  refine ⟨rest.filter (keyed key?), fun v hv => ?_, ?_⟩
  · obtain ⟨hrest, hv⟩ := List.mem_filter.mp hv
    obtain ⟨x, hx⟩ := keyed_iff.mp hv
    refine ⟨x, hx, fun hnull => ?_⟩
    have hnot := (List.mem_filter.mp hrest).2
    simp [nullKeyed_iff.mpr ⟨x, hx, hnull⟩] at hnot
  · calc
      ys = ys.filter (nullKeyed key?) ++ rest :=
        (filter_append_filter_of_pairwise (pairwise_nullKeyed h)).symm
      _ = ys.filter (nullKeyed key?) ++
          (rest.filter (keyed key?) ++ rest.filter fun v => !keyed key? v) := by
        rw [filter_append_filter_of_pairwise ((pairwise_keyed h).filter _)]
      _ = xs.filter (nullKeyed key?) ++ rest.filter (keyed key?) ++
          xs.filter fun v => !keyed key? v := by
        rw [hunkeyed, filter_nullKeyed h, filter_not_keyed h, List.append_assoc]

end Parts

theorem filter_tied {direction : Direction} {xs ys : List Value}
    (h : StableSort (fun v w => direction.apply (compareAt s path v w)) xs ys) (x : Value) :
    (ys.filter fun v => (s.getValue? v path).any fun y => x.compare y == .eq) =
      xs.filter fun v => (s.getValue? v path).any fun y => x.compare y == .eq := by
  refine h.filter_eq fun v w hv hw => ?_
  simp only [Option.any_eq_true, beq_iff_eq] at hv hw
  obtain ⟨y, hy, hxy⟩ := hv
  obtain ⟨z, hz, hxz⟩ := hw
  have hyz : compareAt s path v w = .eq := by
    rw [compareAt, hy, hz]
    exact (Std.TransCmp.congr_left hxy).symm.trans hxz
  rw [hyz]
  cases direction <;> rfl

theorem sortedByKey_of_stableSort {direction : Direction} {xs ys : List Value}
    (h : StableSort (fun v w => direction.apply (compareAt s path v w)) xs ys) :
    SortedByKey (s.getValue? · path) direction xs ys where
  perm := h.perm
  parts := by
    cases direction with
    | ascending =>
      obtain ⟨between, hbetween, hys⟩ := exists_between h
      exact ⟨between, hbetween, by simpa [Direction.lay] using hys⟩
    | descending =>
      -- Read from its end, the row is sorted ascending.
      rw [Direction.apply_descending] at h
      obtain ⟨between, hbetween, hys⟩ := exists_between h.reverse
      refine ⟨between.reverse, fun v hv => hbetween v (List.mem_reverse.mp hv), ?_⟩
      rw [← List.reverse_inj, hys]
      simp [Direction.lay, List.filter_reverse]
  ordered := by
    refine h.sorted.imp fun {v w} hle x y hx hy => ?_
    rwa [compareAt, hx, hy] at hle
  tied := fun x => filter_tied h x
  equal x hx := by
    have hequal : x.equal = fun y => x.compare y == .eq := funext (Value.equal_eq_beq hx)
    rw [hequal]
    exact filter_tied h x

theorem sortBy_of_sorted {c : Collection μ} {cmp : Value → Value → Ordering}
    (h : c.items.Pairwise fun v w => (cmp v w).isLE = true) : c.sortBy cmp = c := by
  rw [sortBy, List.mergeSort_of_pairwise h]
  rfl

theorem sortBy_sortBy (c : Collection μ) (cmp cmp' : Value → Value → Ordering) [Std.TransCmp cmp]
    [Std.TransCmp cmp'] : (c.sortBy cmp').sortBy cmp = c.sortBy (compareLex cmp cmp') := by
  have hboth : StableSort (compareLex cmp cmp') c.items ((c.sortBy cmp').sortBy cmp).items :=
    (c.stableSort_sortBy cmp').lex ((c.sortBy cmp').stableSort_sortBy cmp)
  exact congrArg c.collect hboth.eq_mergeSort

end Collection

/-- Sorting by a path keeps ties. In either direction the items are compared by a total preorder and
come out in its order: null keys at one end, items where the path does not resolve at the other,
and all that are tied as they stood. The empty path resolves nowhere and moves nothing. A second
sort by the same path changes nothing, and one by another path leaves the first to decide where that
finds a tie, so that both together are one sort by the two keys. -/
theorem sorting_by_key_keeps_ties {μ : Type} (c : Collection μ) (path : String)
    (direction : Direction) :
    Std.TransCmp (c.keyOrder path direction) ∧
      (c.sortByKey path direction).context = c.context ∧
      SortedByKey (c.context.paths.getValue? · path) direction c.items
        (c.sortByKey path direction).items ∧
      c.sortByKey "" direction = c ∧
      (c.sortByKey path direction).sortByKey path direction = c.sortByKey path direction ∧
      ∀ path' direction',
        let lexicographic := compareLex (c.keyOrder path direction) (c.keyOrder path' direction')
        let sorted := (c.sortByKey path' direction').sortByKey path direction
        StableSort lexicographic c.items sorted.items ∧ sorted = c.sortBy lexicographic := by
  have hsort := c.stableSort_sortBy (c.keyOrder path direction)
  refine ⟨inferInstance, rfl, Collection.sortedByKey_of_stableSort hsort, ?_, ?_,
    fun path' direction' => ?_⟩
  · refine Collection.sortBy_of_sorted (List.pairwise_of_forall fun v w => ?_)
    cases direction <;> rfl
  · exact Collection.sortBy_of_sorted hsort.sorted
  · have htwice := c.sortBy_sortBy (c.keyOrder path direction) (c.keyOrder path' direction')
    intro lexicographic sorted
    have hsorted : sorted = c.sortBy lexicographic := htwice
    exact ⟨hsorted ▸ c.stableSort_sortBy lexicographic, hsorted⟩

/-- Keys that are null, missing, and equal as an integer and as a double, with a second key behind
them. -/
theorem sorting_by_key_keeps_ties_mixed :
    let a : Value := .document ⟨[("k", .signed 1), ("n", .string "b")]⟩
    let b : Value := .document ⟨[("n", .string "c")]⟩
    let d : Value := .document ⟨[("k", .null), ("n", .string "a")]⟩
    let e : Value := .document ⟨[("k", .double ⟨0x3ff0000000000000⟩), ("n", .string "a")]⟩
    let c : Collection Unit := .new .standard [a, b, d, e]
    (c.sortByKey "k" .descending).items = [b, a, e, d] ∧
      SortedByKey (c.context.paths.getValue? · "k") .descending c.items [b, a, e, d] ∧
      ((c.sortByKey "n" .ascending).sortByKey "k" .descending).items = [b, e, a, d] ∧
      StableSort (compareLex (c.keyOrder "k" .descending) (c.keyOrder "n" .ascending)) c.items
        [b, e, a, d] := by
  intro a b d e c
  have hsort : (c.sortByKey "k" .descending).items = [b, a, e, d] := by cbv
  have hsortBoth : (c.sortBy (compareLex (c.keyOrder "k" .descending)
      (c.keyOrder "n" .ascending))).items = [b, e, a, d] := by cbv
  obtain ⟨-, -, hsorted, -, -, hlex⟩ := sorting_by_key_keeps_ties c "k" .descending
  obtain ⟨hstable, hboth⟩ := hlex "n" .ascending
  rw [hsort] at hsorted
  rw [hboth, hsortBoth] at hstable
  exact ⟨hsort, hsorted, hboth ▸ hsortBoth, hstable⟩

end Dossier
