import Dossier.Proofs.Collection.Duplicates
import Dossier.Proofs.Collection.Positions

/-! Dropping duplicates keeps the items that are the first of their key. What decides is equality
with any item before, and it is enough to ask those that were kept, since equality is transitive. -/

namespace Dossier

/-! ### Dropping by equality -/

theorem eraseDupsBy_loop_append {α : Type} (r : α → α → Bool) (xs ys kept : List α) :
    List.eraseDupsBy.loop r (xs ++ ys) kept =
      List.eraseDupsBy.loop r ys (List.eraseDupsBy.loop r xs kept).reverse := by
  induction xs generalizing kept with
  | nil => simp [List.eraseDupsBy.loop]
  | cons x xs ih =>
    rw [List.cons_append, List.eraseDupsBy.loop, List.eraseDupsBy.loop]
    cases kept.any (r x) <;> exact ih _

theorem eraseDupsBy_concat {α : Type} (r : α → α → Bool) (xs : List α) (x : α) :
    (xs ++ [x]).eraseDupsBy r =
      if (xs.eraseDupsBy r).any (r x) then xs.eraseDupsBy r else xs.eraseDupsBy r ++ [x] := by
  have hloop : (xs ++ [x]).eraseDupsBy r =
      List.eraseDupsBy.loop r [x] (xs.eraseDupsBy r).reverse := eraseDupsBy_loop_append r xs [x] []
  rw [hloop, List.eraseDupsBy.loop, List.any_reverse]
  cases (xs.eraseDupsBy r).any (r x) <;> simp [List.eraseDupsBy.loop]

theorem eraseDupsBy_of_pairwise {α : Type} {r : α → α → Bool} {xs : List α}
    (h : xs.Pairwise fun a b => r b a = false) : xs.eraseDupsBy r = xs := by
  induction xs with
  | nil => rfl
  | cons x xs ih =>
    rw [List.pairwise_cons] at h
    rw [List.eraseDupsBy_cons, List.filter_eq_self.mpr fun b hb => by simp [h.1 b hb], ih h.2]

/-- What is kept of items when one that is equal in key to an item kept before it is dropped. -/
def distinctBy (key : Value → Value) (items : List Value) : List Value :=
  items.eraseDupsBy fun a b => (key b).equal (key a)

/-- Whether the item at a position is the first of its key: no item before it has an equal one. -/
def isFirst (key : Value → Value) (items : List Value) (i : Nat) : Bool :=
  items[i]?.any fun item => !(items.take i).any fun earlier => (key earlier).equal (key item)

section Distinct

variable {key : Value → Value} {items : List Value} {item : Value}

theorem isFirst_take {i n : Nat} (h : i < n) :
    isFirst key (items.take n) i = isFirst key items i := by
  rw [isFirst, isFirst, List.getElem?_take_of_lt h, List.take_take, Nat.min_eq_left h.le]

theorem isFirst_concat_of_lt {i : Nat} (h : i < items.length) :
    isFirst key (items ++ [item]) i = isFirst key items i := by
  rw [← isFirst_take h, List.take_left]

theorem isFirst_concat_length :
    isFirst key (items ++ [item]) items.length =
      !items.any fun earlier => (key earlier).equal (key item) := by
  rw [isFirst, List.getElem?_concat_length, List.take_left]
  rfl

theorem distinctBy_concat :
    distinctBy key (items ++ [item]) =
      if (distinctBy key items).any fun b => (key b).equal (key item) then distinctBy key items
      else distinctBy key items ++ [item] :=
  eraseDupsBy_concat _ items item

theorem pairwise_distinctBy (key : Value → Value) (items : List Value) :
    (distinctBy key items).Pairwise fun v w => (key v).equal (key w) = false := by
  induction items using List.reverseRecOn with
  | nil => exact .nil
  | append_singleton items item ih =>
    rw [distinctBy_concat]
    split_ifs with hany
    · exact ih
    · rw [List.pairwise_append]
      refine ⟨ih, List.pairwise_singleton _ _, fun v hv w hw => ?_⟩
      rw [List.mem_singleton.mp hw]
      simp only [List.any_eq_true, not_exists, not_and, Bool.not_eq_true] at hany
      exact hany v hv

section WellFormed

variable (hi : ∀ item ∈ items, (key item).WellFormed)

include hi

/-- A key is found among the items kept when it is found among all items: what was dropped is equal
to something before it. -/
theorem any_distinctBy (v : Value) :
    ((distinctBy key items).any fun b => (key b).equal v) =
      items.any fun b => (key b).equal v := by
  induction items using List.reverseRecOn generalizing v with
  | nil => rfl
  | append_singleton items item ih =>
    rw [List.forall_mem_append, List.forall_mem_singleton] at hi
    rw [distinctBy_concat, List.any_append]
    split_ifs with hany
    · rw [ih hi.1] at hany ⊢
      obtain ⟨b, hb, hequal⟩ := List.any_eq_true.mp hany
      cases hv : (key item).equal v with
      | false => simp [hv]
      | true =>
        have htrans := Value.equal_trans (hi.1 b hb) hi.2 hequal hv
        rw [List.any_eq_true.mpr ⟨b, hb, htrans⟩, Bool.true_or]
    · rw [List.any_append, ih hi.1]

/-- Those kept are the items that are the first of their key. -/
theorem distinctBy_eq_itemsAt : distinctBy key items = itemsAt (isFirst key items) items := by
  induction items using List.reverseRecOn with
  | nil => rfl
  | append_singleton items item ih =>
    rw [List.forall_mem_append, List.forall_mem_singleton] at hi
    rw [itemsAt_concat, isFirst_concat_length, itemsAt_congr fun i => isFirst_concat_of_lt,
      ← ih hi.1, ← any_distinctBy hi.1, distinctBy_concat]
    cases hany : (distinctBy key items).any fun b => (key b).equal (key item) <;> simp

/-- An item that is dropped is equal in key to one before it that is kept. -/
theorem exists_isFirst {i : Nat} (hitem : items[i]? = some item)
    (hdropped : isFirst key items i = false) :
    ∃ j < i, ∃ earlier, items[j]? = some earlier ∧ isFirst key items j = true ∧
      (key earlier).equal (key item) = true := by
  have hbefore : ((items.take i).any fun b => (key b).equal (key item)) = true := by
    simpa [isFirst, hitem] using hdropped
  have htake : ∀ b ∈ items.take i, (key b).WellFormed := fun b hb => hi b (List.mem_of_mem_take hb)
  rw [← any_distinctBy htake, distinctBy_eq_itemsAt htake] at hbefore
  obtain ⟨earlier, hearlier, hequal⟩ := List.any_eq_true.mp hbefore
  obtain ⟨j, hfirst, hj⟩ := mem_itemsAt.mp hearlier
  rw [List.getElem?_take, Option.ite_none_right_eq_some] at hj
  obtain ⟨hlt, hj⟩ := hj
  exact ⟨j, hlt, earlier, hj, (isFirst_take hlt).symm.trans hfirst, hequal⟩

end WellFormed

end Distinct

/-- Of the items, those kept are the ones that are the first of their key, in order. No two of them
are equal in key, and each item that is dropped is so to one before it that is kept. -/
structure KeepsFirsts (key : Value → Value) (items kept : List Value) : Prop where
  kept_eq : kept = itemsAt (isFirst key items) items
  distinct : kept.Pairwise fun v w => (key v).equal (key w) = false
  covered : ∀ i item, items[i]? = some item → isFirst key items i = false →
    ∃ j < i, ∃ earlier, items[j]? = some earlier ∧ isFirst key items j = true ∧
      (key earlier).equal (key item) = true

namespace Collection

variable {hash : Value → UInt64} {key : Value → Value} {items : List Value}

/-- With a hash that tells no equal values apart, as without one. -/
theorem keepsFirsts_dropSeen (hh : RespectsEquality hash)
    (hi : ∀ item ∈ items, (key item).WellFormed) :
    KeepsFirsts key items (dropSeen hash key [] items) := by
  rw [dropSeen_eq_eraseDupsBy hh hi]
  exact ⟨distinctBy_eq_itemsAt hi, pairwise_distinctBy key items, fun _ _ => exists_isFirst hi⟩

theorem dropSeen_dropSeen (hh : RespectsEquality hash)
    (hi : ∀ item ∈ items, (key item).WellFormed) :
    dropSeen hash key [] (dropSeen hash key [] items) = dropSeen hash key [] items := by
  have hkept := keepsFirsts_dropSeen hh hi
  have hmem : ∀ item ∈ dropSeen hash key [] items, item ∈ items := by
    intro item hitem
    rw [hkept.kept_eq] at hitem
    obtain ⟨i, -, hget⟩ := mem_itemsAt.mp hitem
    exact List.mem_of_getElem? hget
  rw [dropSeen_eq_eraseDupsBy hh fun item hitem => hi item (hmem item hitem)]
  exact eraseDupsBy_of_pairwise hkept.distinct

end Collection

/-- Duplicates are what equality says, whatever the hash that they are looked up by: of the items,
exactly those are kept whose key is not equal to that of any item before them. So no two that are
kept are equal in key, each one dropped is equal in key to one kept before it, and doing it again
changes nothing. -/
theorem duplicates_equal_earlier_items :
    (∀ (entryHash finish : List Hash.Feed → UInt64) (key : Value → Value) (items : List Value),
      (∀ item ∈ items, (key item).WellFormed) →
      let distinct := Collection.dropSeen (fun v => finish (Hash.ofValue entryHash v)) key []
      KeepsFirsts key items (distinct items) ∧ distinct (distinct items) = distinct items) ∧
    (∀ (μ : Type) (c : Collection μ) (s : Selector),
      (∀ item ∈ c.items, (c.select s item).WellFormed) →
      (c.uniqueBy s).context = c.context ∧
        KeepsFirsts (c.select s) c.items (c.uniqueBy s).items ∧
        (c.uniqueBy s).uniqueBy s = c.uniqueBy s) ∧
    (∀ (μ : Type) (c : Collection μ), (∀ item ∈ c.items, item.WellFormed) →
      c.unique.context = c.context ∧ KeepsFirsts id c.items c.unique.items ∧
        c.unique.unique = c.unique) := by
  refine ⟨fun entryHash finish key items hi => ?_, fun μ c s hi => ?_, fun μ c hi => ?_⟩
  · have hh := respectsEquality_ofValue entryHash finish
    exact ⟨Collection.keepsFirsts_dropSeen hh hi, Collection.dropSeen_dropSeen hh hi⟩
  · exact ⟨rfl, Collection.keepsFirsts_dropSeen respectsEquality_hash hi,
      congrArg c.collect (Collection.dropSeen_dropSeen respectsEquality_hash hi)⟩
  · exact ⟨rfl, Collection.keepsFirsts_dropSeen respectsEquality_hash hi,
      congrArg c.collect (Collection.dropSeen_dropSeen respectsEquality_hash hi)⟩

/-- Keys that are equal as an integer and as a double, null and missing, and documents with their
keys in different orders; under every hash of what is fed, one that is the same for all among them.
-/
theorem duplicates_equal_earlier_items_mixed :
    let item : Value → Value := fun v => .document ⟨[("n", v)]⟩
    let one : Value := .document ⟨[("a", .signed 1), ("b", .double ⟨0⟩)]⟩
    let same : Value := .document ⟨[("b", .signed 0), ("a", .double ⟨0x3ff0000000000000⟩)]⟩
    let c : Collection Unit := .new .standard
      [item (.signed 1), item one, .null, item (.double ⟨0x3ff0000000000000⟩), item same, item .null]
    let s : Selector := .path "n"
    (c.uniqueBy s).items = [item (.signed 1), item one, .null] ∧
      (c.uniqueBy s).uniqueBy s = c.uniqueBy s ∧
      (∃ j < 4, ∃ earlier, c.items[j]? = some earlier ∧ isFirst (c.select s) c.items j = true ∧
        (c.select s earlier).equal (c.select s (item same)) = true) ∧
      ∀ finish : List Hash.Feed → UInt64,
        Collection.dropSeen (fun v => finish (Hash.ofValue Hash.finish v)) (c.select s) [] c.items =
          [item (.signed 1), item one, .null] := by
  intro item one same c s
  obtain ⟨hhash, hby, -⟩ := duplicates_equal_earlier_items
  have hone : one.WellFormed := ⟨by decide, trivial, trivial, trivial⟩
  have hsame : same.WellFormed := ⟨by decide, trivial, trivial, trivial⟩
  have hselected : c.items.map (c.select s) =
      [.signed 1, one, .null, .double ⟨0x3ff0000000000000⟩, same, .null] := by cbv
  have hi : ∀ x ∈ c.items, (c.select s x).WellFormed := by
    rw [← List.forall_mem_map, hselected]
    simp [hone, hsame, Value.signed, Value.double, Value.WellFormed]
  have hkept : itemsAt (isFirst (c.select s) c.items) c.items =
      [item (.signed 1), item one, .null] := by cbv
  obtain ⟨-, hfirsts, htwice⟩ := hby Unit c s hi
  refine ⟨hfirsts.kept_eq.trans hkept, htwice, hfirsts.covered 4 (item same) rfl (by cbv),
    fun finish => ?_⟩
  exact (hhash Hash.finish finish (c.select s) c.items hi).1.kept_eq.trans hkept

end Dossier
