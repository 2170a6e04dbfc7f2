import Dossier.Collection.Group
import Dossier.Proofs.Entries.Sorted
import Mathlib.Algebra.GroupWithZero.Nat
import Mathlib.Data.List.Induction

/-! Grouping parts a collection by key. Each item joins the group of its key, which is put behind the
others when it is new, so the groups are the items of each key in order; counting goes through the
same steps with lengths in place of groups. -/

namespace Dossier

namespace Entries

variable {α β : Type}

theorem get?_map (f : α → β) (key : String) (es : Entries α) :
    get? key (es.map fun e => (e.1, f e.2)) = (es.get? key).map f := by
  induction es with
  | nil => rfl
  | cons e es ih =>
    obtain ⟨k, v⟩ := e
    by_cases hk : k = key <;> simp [get?, hk, ih]

theorem insert_map (f : α → β) (key : String) (v : α) (es : Entries α) :
    insert key (f v) (es.map fun e => (e.1, f e.2)) =
      (es.insert key v).map fun e => (e.1, f e.2) := by
  induction es with
  | nil => rfl
  | cons e es ih =>
    obtain ⟨k, w⟩ := e
    by_cases hk : k = key <;> simp [insert, hk, ih]

end Entries

theorem eraseDups_concat (keys : List String) (key : String) :
    (keys ++ [key]).eraseDups =
      if key ∈ keys then keys.eraseDups else keys.eraseDups ++ [key] := by
  rw [List.eraseDups_append]
  split_ifs with hkey <;> simp [List.removeAll, hkey, List.eraseDups_cons]

/-- The items of distinct keys, key after key, are all items when no other keys come up. -/
theorem perm_flatMap_filter {key : Value → String} {keys : List String} (hn : keys.Nodup)
    {items : List Value} (h : ∀ item ∈ items, key item ∈ keys) :
    (keys.flatMap fun k => items.filter fun item => key item = k).Perm items := by
  induction keys generalizing items with
  | nil =>
    obtain rfl := List.eq_nil_iff_forall_not_mem.mpr fun item hitem => by cases h item hitem
    exact .refl _
  | cons k keys ih =>
    obtain ⟨hk, hn⟩ := List.nodup_cons.mp hn
    let rest := items.filter fun item => !decide (key item = k)
    have hrest : ∀ item ∈ rest, key item ∈ keys := by
      intro item hitem
      obtain ⟨hitem, hne⟩ := List.mem_filter.mp hitem
      exact (List.mem_cons.mp (h item hitem)).resolve_left (by simpa using hne)
    have hsame : ∀ l ∈ keys, (items.filter fun item => key item = l) =
        rest.filter fun item => key item = l := by
      intro l hl
      rw [List.filter_filter]
      refine List.filter_congr fun item _ => ?_
      have hne : l ≠ k := fun heq => hk (heq ▸ hl)
      by_cases hitem : key item = l <;> simp [hitem, hne]
    rw [List.flatMap_cons, List.flatMap_congr hsame]
    exact ((ih hn hrest).append_left _).trans (List.filter_append_perm _ items)

/-- Groups of items by a key that each item has. The keys come in the order in which they first come
up, no key twice, and the group of each is all items that have it, in order. -/
structure GroupsBy (key : Value → String) (items : List Value) (groups : Entries (List Value)) :
    Prop where
  keys : groups.keys = (items.map key).eraseDups
  nodup : groups.keys.Nodup
  group : ∀ k, groups.get? k =
    if k ∈ items.map key then some (items.filter fun item => key item = k) else none

namespace GroupsBy

variable {key : Value → String} {items : List Value} {groups : Entries (List Value)}

theorem mem_keys_iff (h : GroupsBy key items groups) {k : String} :
    k ∈ groups.keys ↔ k ∈ items.map key := by
  rw [h.keys, List.mem_eraseDups]

/-- One more item joins the group of its key, or starts it. -/
theorem concat (h : GroupsBy key items groups) (item : Value) :
    GroupsBy key (items ++ [item])
      (groups.insert (key item) ((groups.get? (key item)).getD [] ++ [item])) where
  keys := by
    rw [List.map_append, List.map_singleton, eraseDups_concat, ← h.keys]
    split_ifs with hkey
    · exact Entries.keys_insert_of_mem (h.mem_keys_iff.mpr hkey) _
    · exact Entries.keys_insert_of_not_mem (mt h.mem_keys_iff.mp hkey) _
  nodup := Entries.nodup_keys_insert h.nodup _ _
  group k := by
    rw [Entries.get?_insert, h.group, h.group, List.map_append, List.map_singleton,
      List.filter_append]
    by_cases hk : key item = k
    · subst hk
      by_cases hkey : key item ∈ items.map key
      · simp [hkey]
      · have hnone : (items.filter fun other => key other = key item) = [] :=
          List.filter_eq_nil_iff.mpr fun other hother hsame =>
            hkey (List.mem_map.mpr ⟨other, hother, by simpa using hsame⟩)
        simp [hkey, hnone]
    · simp [hk, Ne.symm hk]

/-- Each group is all items of its key. -/
theorem eq_filter (h : GroupsBy key items groups) {e : String × List Value} (he : e ∈ groups) :
    e.2 = items.filter fun item => key item = e.1 := by
  have hget : groups.get? e.1 = some e.2 := (Entries.get?_eq_some_iff h.nodup).mpr he
  rw [h.group, if_pos (h.mem_keys_iff.mp (Entries.mem_keys he))] at hget
  exact (Option.some.inj hget).symm

theorem ne_nil (h : GroupsBy key items groups) {e : String × List Value} (he : e ∈ groups) :
    e.2 ≠ [] := by
  obtain ⟨item, hitem, hkey⟩ := List.mem_map.mp (h.mem_keys_iff.mp (Entries.mem_keys he))
  refine List.ne_nil_of_mem (a := item) ?_
  rw [h.eq_filter he, List.mem_filter]
  exact ⟨hitem, by simp [hkey]⟩

theorem mem_group (h : GroupsBy key items groups) {item : Value} (hitem : item ∈ items) :
    (key item, items.filter fun other => key other = key item) ∈ groups := by
  rw [← Entries.get?_eq_some_iff h.nodup, h.group, if_pos (List.mem_map_of_mem hitem)]

theorem eq_of_mem (h : GroupsBy key items groups) {item : Value} {e : String × List Value}
    (he : e ∈ groups) (hitem : item ∈ e.2) :
    e = (key item, items.filter fun other => key other = key item) := by
  have hfilter := h.eq_filter he
  rw [hfilter, List.mem_filter, decide_eq_true_eq] at hitem
  rw [hitem.2, ← hfilter]

theorem perm_flatten (h : GroupsBy key items groups) : groups.values.flatten.Perm items := by
  have hvalues : groups.values = groups.keys.map fun k => items.filter fun item => key item = k := by
    rw [Entries.values, Entries.keys, List.map_map]
    exact List.map_congr_left fun e he => h.eq_filter he
  rw [hvalues, ← List.flatMap_def]
  exact perm_flatMap_filter h.nodup fun item hitem =>
    h.mem_keys_iff.mpr (List.mem_map_of_mem hitem)

end GroupsBy

namespace Collection

variable {μ : Type}

theorem groupsBy_groupBy (c : Collection μ) (s : Selector) :
    GroupsBy (c.groupKey s) c.items (c.groupBy s) := by
  rw [groupBy]
  induction c.items using List.reverseRecOn with
  | nil => exact ⟨rfl, List.nodup_nil, fun k => by simp [Entries.get?]⟩
  | append_singleton items item ih =>
    rw [List.foldl_concat]
    exact ih.concat item

/-- Counting one more item is putting it into its group, with lengths in place of groups. -/
theorem insert_count (key : String) (item : Value) (groups : Entries (List Value)) :
    Entries.insert key ((Entries.get? key (groups.map fun e => (e.1, e.2.length))).getD 0 + 1)
        (groups.map fun e => (e.1, e.2.length)) =
      (groups.insert key ((groups.get? key).getD [] ++ [item])).map
        fun e => (e.1, e.2.length) := by
  rw [Entries.get?_map, ← Entries.insert_map]
  cases groups.get? key <;> simp

theorem countBy_eq_map (c : Collection μ) (s : Selector) :
    c.countBy s = (c.groupBy s).map fun e => (e.1, e.2.length) := by
  rw [countBy, groupBy]
  induction c.items using List.reverseRecOn with
  | nil => rfl
  | append_singleton items item ih =>
    rw [List.foldl_concat, List.foldl_concat, ih]
    exact insert_count _ item _

end Collection

/-- Grouping parts the items. The groups are keyed by the plain texts of the selected values, in the
order in which these first come up, and each is all items of its key in order; so every item is in
the group of its key and in no other, no group is empty, and all groups together are the items.
Counting gives the same keys, each with the length of its group. -/
theorem groups_part_items {μ : Type} (c : Collection μ) (s : Selector) :
    let key : Value → String := fun item => (c.select s item).plainText
    let groups := c.groupBy s
    groups.keys = (c.items.map key).eraseDups ∧ groups.keys.Nodup ∧
      (∀ e ∈ groups, e.2 = (c.items.filter fun item => key item = e.1) ∧ e.2 ≠ []) ∧
      (∀ item ∈ c.items, ∃ group, (key item, group) ∈ groups ∧ item ∈ group ∧
        ∀ e ∈ groups, item ∈ e.2 → e = (key item, group)) ∧
      groups.values.flatten.Perm c.items ∧
      c.countBy s = groups.map (fun e => (e.1, e.2.length)) ∧
      (c.countBy s).values.sum = c.size := by
  have h := c.groupsBy_groupBy s
  refine ⟨h.keys, h.nodup, fun e he => ⟨h.eq_filter he, h.ne_nil he⟩, fun item hitem => ?_,
    h.perm_flatten, c.countBy_eq_map s, ?_⟩
  · refine ⟨_, h.mem_group hitem, ?_, fun e he hmem => h.eq_of_mem he hmem⟩
    exact List.mem_filter.mpr ⟨hitem, by simp⟩
  · have hcounts : (c.countBy s).values = (c.groupBy s).values.map List.length := by
      rw [c.countBy_eq_map, Entries.values, Entries.values, List.map_map, List.map_map]
      rfl
    rw [hcounts, ← List.length_flatten, h.perm_flatten.length_eq]
    rfl

/-- Selected values of different kinds with one text, which comes up again behind another, and items
without the field. -/
theorem groups_part_items_one_text :
    let item : Value → Value := fun v => .document ⟨[("n", v)]⟩
    let c : Collection Unit := .new .standard [item (.signed 1), .bool true, item (.string "1"),
      item (.double ⟨0x3ff0000000000000⟩), item .null, item (.signed 1)]
    let s : Selector := .path "n"
    let ones := [item (.signed 1), item (.string "1"), item (.double ⟨0x3ff0000000000000⟩),
      item (.signed 1)]
    c.groupBy s = [("1", ones), ("null", [.bool true, item .null])] ∧
      c.countBy s = [("1", 4), ("null", 2)] ∧
      (ones ++ [.bool true, item .null]).Perm c.items ∧
      ∀ e ∈ c.groupBy s, item (.string "1") ∈ e.2 → e.1 = "1" := by
  intro item c s ones
  have hgroups : c.groupBy s = [("1", ones), ("null", [.bool true, item .null])] := by cbv
  have htext : (c.select s (item (.string "1"))).plainText = "1" := by cbv
  obtain ⟨-, -, -, hplaced, hperm, hcount, -⟩ := groups_part_items c s
  obtain ⟨group, -, -, honly⟩ := hplaced (item (.string "1")) (by simp [c, Collection.new])
  rw [hgroups] at hperm hcount
  refine ⟨hgroups, hcount, by simpa [Entries.values] using hperm, fun e he hmem => ?_⟩
  rw [honly e he hmem]
  exact htext

end Dossier
