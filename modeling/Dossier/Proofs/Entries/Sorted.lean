import Dossier.Proofs.Order.Stable
import Dossier.Value.Order
import Mathlib.Data.List.Forall2
import Mathlib.Data.List.Perm.Subperm

/-! Entries looked up, changed and sorted. Where no key comes twice, each key tells alone what becomes
of its entry, and going through two lists sorted by key side by side tells the same as looking every
entry of one up in the other. -/

namespace Dossier.Entries

variable {α β : Type}

/-! ### Lookup as membership -/

theorem mem_of_get? {key : String} {v : α} {es : Entries α} (h : es.get? key = some v) :
    (key, v) ∈ es := by
  induction es with
  | nil => cases h
  | cons e es ih =>
    obtain ⟨k, w⟩ := e
    by_cases hk : k = key
    · simp only [get?, hk, if_true, Option.some.injEq] at h
      simp [hk, h]
    · simp only [get?, hk, if_false] at h
      exact List.mem_cons_of_mem _ (ih h)

theorem mem_keys {e : String × α} {es : Entries α} (h : e ∈ es) : e.1 ∈ keys es :=
  List.mem_map_of_mem h

theorem get?_eq_some_iff {es : Entries α} (hn : es.keys.Nodup) {key : String} {v : α} :
    es.get? key = some v ↔ (key, v) ∈ es := by
  refine ⟨mem_of_get?, fun h => ?_⟩
  induction es with
  | nil => cases h
  | cons e es ih =>
    obtain ⟨k, w⟩ := e
    rw [keys_cons, List.nodup_cons] at hn
    rcases List.mem_cons.mp h with he | he
    · obtain ⟨rfl, rfl⟩ := Prod.mk.inj he
      simp [get?]
    · have hk : k ≠ key := fun hk => hn.1 (hk ▸ mem_keys he)
      simp [get?, hk, ih hn.2 he]

/-! ### Entries changed or left out one by one -/

section FilterMap

variable {f : String → α → Option β} {es : Entries α}

theorem keys_filterMap_sublist :
    (keys (es.filterMap fun x => (f x.1 x.2).map (x.1, ·))).Sublist (keys es) := by
  induction es with
  | nil => exact List.Sublist.refl _
  | cons e rest ih =>
    rw [List.filterMap_cons]
    cases f e.1 e.2 with
    | none => exact ih.cons _
    | some w => exact ih.cons_cons _

/-- Entries that are changed or left out one by one: where no key comes twice, each key tells
alone. -/
theorem get?_filterMap (hn : (keys es).Nodup) (key : String) :
    get? key (es.filterMap fun x => (f x.1 x.2).map (x.1, ·)) = (es.get? key).bind (f key) := by
  induction es with
  | nil => rfl
  | cons e rest ih =>
    obtain ⟨k, v⟩ := e
    obtain ⟨hk, hrest⟩ := List.nodup_cons.mp hn
    have ih := ih hrest
    rw [List.filterMap_cons]
    by_cases h : k = key
    · subst h
      have hnone : get? k rest = none := (get?_eq_none_iff k rest).mpr hk
      rw [hnone] at ih
      cases hf : f k v with
      | none => simp [get?, hf, ih]
      | some w => simp [get?, hf]
    · cases f k v <;> simp [get?, h, ih]

end FilterMap

/-! ### Sorting -/

theorem perm_sortByKey (es : Entries α) : (sortByKey es).Perm es := List.mergeSort_perm _ _

theorem mem_sortByKey {e : String × α} {es : Entries α} : e ∈ sortByKey es ↔ e ∈ es :=
  (perm_sortByKey es).mem_iff

theorem sortByKey_map (f : α → β) (es : Entries α) :
    sortByKey (es.map fun e => (e.1, f e.2)) = (sortByKey es).map fun e => (e.1, f e.2) := by
  symm
  exact List.map_mergeSort fun _ _ _ _ => rfl

theorem pairwise_keys_sortByKey (es : Entries α) :
    (keys (sortByKey es)).Pairwise fun k l => (Ord.compare k l).isLE = true := by
  unfold keys
  rw [List.pairwise_map]
  exact (stableSort_mergeSort (compareOn Prod.fst) es).sorted

theorem perm_keys_sortByKey (es : Entries α) : (keys (sortByKey es)).Perm (keys es) :=
  (perm_sortByKey es).map Prod.fst

theorem keys_sortByKey_eq {es : Entries α} {fs : Entries β} (h : (keys es).Perm (keys fs)) :
    keys (sortByKey es) = keys (sortByKey fs) := by
  refine List.Perm.eq_of_pairwise (fun k l _ _ hkl hlk => ?_) (pairwise_keys_sortByKey es)
    (pairwise_keys_sortByKey fs)
    ((perm_keys_sortByKey es).trans (h.trans (perm_keys_sortByKey fs).symm))
  exact Std.LawfulEqCmp.eq_of_compare (Std.OrientedCmp.isLE_antisymm hkl hlk)

/-! ### Side by side -/

/-- Two entries under one key whose values are related. -/
def Related (r : α → β → Prop) (a : String × α) (b : String × β) : Prop := a.1 = b.1 ∧ r a.2 b.2

theorem keys_eq_of_forall₂ {r : α → β → Prop} {es : Entries α} {fs : Entries β}
    (h : List.Forall₂ (Related r) es fs) : keys es = keys fs := by
  induction h with
  | nil => rfl
  | cons hab _ ih =>
    change _ :: _ = _ :: _
    rw [hab.1]
    exact congrArg _ ih

theorem exists_of_mem_forall₂ {r : α → β → Prop} {xs : List α} {ys : List β}
    (h : List.Forall₂ r xs ys) {x : α} (hx : x ∈ xs) : ∃ y ∈ ys, r x y := by
  induction h with
  | nil => cases hx
  | cons hab _ ih =>
    rcases List.mem_cons.mp hx with rfl | hx
    · exact ⟨_, List.mem_cons_self, hab⟩
    · obtain ⟨y, hy, hr⟩ := ih hx
      exact ⟨y, List.mem_cons_of_mem _ hy, hr⟩

theorem forall₂_imp_of_mem {r s : α → β → Prop} {xs : List α} {ys : List β}
    (h : ∀ x ∈ xs, ∀ y, r x y → s x y) (hr : List.Forall₂ r xs ys) : List.Forall₂ s xs ys :=
  ((List.forall₂_and_left xs ys).mpr ⟨h, hr⟩).imp fun _ y hxy => hxy.1 y hxy.2

theorem forall₂_congr_of_mem {r s : α → β → Prop} {xs : List α} {ys : List β}
    (h : ∀ x ∈ xs, ∀ y, r x y ↔ s x y) : List.Forall₂ r xs ys ↔ List.Forall₂ s xs ys :=
  ⟨forall₂_imp_of_mem fun x hx y => (h x hx y).mp, forall₂_imp_of_mem fun x hx y => (h x hx y).mpr⟩

theorem forall₂_of_keys_eq {r : α → β → Prop} {es : Entries α} {fs : Entries β}
    (hk : keys es = keys fs) (hn : (keys fs).Nodup)
    (h : ∀ a ∈ es, ∃ w, (a.1, w) ∈ fs ∧ r a.2 w) : List.Forall₂ (Related r) es fs := by
  induction es generalizing fs with
  | nil =>
    cases fs with
    | nil => exact .nil
    | cons b fs => cases hk
  | cons a es ih =>
    cases fs with
    | nil => cases hk
    | cons b fs =>
      obtain ⟨hkey, hkeys⟩ := List.cons.inj hk
      rw [keys_cons, List.nodup_cons] at hn
      refine .cons ⟨hkey, ?_⟩ (ih hkeys hn.2 fun c hc => ?_)
      · obtain ⟨w, hw, hr⟩ := h a List.mem_cons_self
        rcases List.mem_cons.mp hw with he | he
        · rwa [← he]
        · exact absurd (hkey ▸ mem_keys he) hn.1
      · obtain ⟨w, hw, hr⟩ := h c (List.mem_cons_of_mem _ hc)
        rcases List.mem_cons.mp hw with he | he
        · have hmem : c.1 ∈ keys fs := by
            rw [keys, ← hkeys]
            exact mem_keys hc
          exact absurd (congrArg Prod.fst he ▸ hmem) hn.1
        · exact ⟨w, he, hr⟩

/-- Entries agree with others, whatever the order of both, exactly when there are as many and each
one is found among the others. -/
theorem forall₂_sortByKey_iff {r : α → β → Prop} {es : Entries α} {fs : Entries β}
    (hn : (keys es).Nodup) :
    List.Forall₂ (Related r) (sortByKey es) (sortByKey fs) ↔
      es.length = fs.length ∧ ∀ a ∈ es, ∃ w, fs.get? a.1 = some w ∧ r a.2 w := by
  constructor
  · intro h
    have hkeys : (keys es).Perm (keys fs) := by
      rw [← (perm_keys_sortByKey es).congr_left, keys_eq_of_forall₂ h]
      exact perm_keys_sortByKey fs
    refine ⟨by simpa [keys] using hkeys.length_eq, fun a ha => ?_⟩
    obtain ⟨b, hb, hkey, hr⟩ := exists_of_mem_forall₂ h (mem_sortByKey.mpr ha)
    refine ⟨b.2, (get?_eq_some_iff (hkeys.nodup_iff.mp hn)).mpr ?_, hr⟩
    rw [hkey]
    exact mem_sortByKey.mp hb
  · rintro ⟨hlen, h⟩
    have hsub : keys es ⊆ keys fs := by
      intro k hk
      obtain ⟨a, ha, rfl⟩ := List.mem_map.mp hk
      obtain ⟨w, hw, -⟩ := h a ha
      exact mem_keys (mem_of_get? hw)
    have hkeys : (keys es).Perm (keys fs) :=
      (List.subperm_of_subset hn hsub).perm_of_length_le (by simp [keys, hlen])
    have hn' : (keys fs).Nodup := hkeys.nodup_iff.mp hn
    refine forall₂_of_keys_eq (keys_sortByKey_eq hkeys)
      ((perm_keys_sortByKey fs).nodup_iff.mpr hn') fun a ha => ?_
    obtain ⟨w, hw, hr⟩ := h a (mem_sortByKey.mp ha)
    exact ⟨w, mem_sortByKey.mpr (mem_of_get? hw), hr⟩

end Dossier.Entries
