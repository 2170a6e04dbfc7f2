import Dossier.Proofs.Collection.Firsts
import Dossier.Proofs.Collection.Groups
import Dossier.Proofs.Number.Spelling

/-! Groups of numbers. Groups go by plain text and duplicates by equality. Among numbers the two part
a collection alike, as long as it has no integer beside a double that is that integer and spells
another, or spells it and is another; the least such integer is `2 ^ 54 + 6`. -/

namespace Dossier

section Texts

variable {select : Value → Value} {key : Value → String} {items : List Value}

/-- Where texts tell items apart as equality does, the items kept as the first of their selected
value have the texts that come up, each once. -/
theorem map_distinctBy (hi : ∀ item ∈ items, (select item).WellFormed)
    (h : ∀ a ∈ items, ∀ b ∈ items, key a = key b ↔ (select a).equal (select b) = true) :
    (distinctBy select items).map key = (items.map key).eraseDups := by
  induction items using List.reverseRecOn with
  | nil => rfl
  | append_singleton items item ih =>
    rw [List.forall_mem_append, List.forall_mem_singleton] at hi
    have hbefore : ∀ a ∈ items, ∀ b ∈ items, key a = key b ↔ (select a).equal (select b) = true :=
      fun a ha b hb => h a (List.mem_append_left _ ha) b (List.mem_append_left _ hb)
    have hseen : ((distinctBy select items).any fun b => (select b).equal (select item)) = true ↔
        key item ∈ items.map key := by
      rw [any_distinctBy hi.1, List.any_eq_true, List.mem_map]
      refine exists_congr fun b => and_congr_right fun hb => ?_
      exact (h b (List.mem_append_left _ hb) item List.mem_concat_self).symm
    rw [distinctBy_concat, List.map_append, List.map_singleton, eraseDups_concat,
      ← ih hi.1 hbefore]
    by_cases hkey : key item ∈ items.map key
    · rw [if_pos (hseen.mpr hkey), if_pos hkey]
    · rw [if_neg (mt hseen.mp hkey), if_neg hkey, List.map_append, List.map_singleton]

theorem GroupsBy.exists_mem_iff {groups : Entries (List Value)} (h : GroupsBy key items groups)
    {a b : Value} (ha : a ∈ items) (hb : b ∈ items) :
    (∃ e ∈ groups, a ∈ e.2 ∧ b ∈ e.2) ↔ key a = key b := by
  constructor
  · rintro ⟨e, he, hae, hbe⟩
    have hsame := (h.eq_of_mem he hae).symm.trans (h.eq_of_mem he hbe)
    exact (Prod.mk.inj hsame).1
  · intro hsame
    refine ⟨_, h.mem_group ha, ?_, ?_⟩
    · exact List.mem_filter.mpr ⟨ha, by simp⟩
    · exact List.mem_filter.mpr ⟨hb, by simp [hsame]⟩

end Texts

/-- Groups of numbers go by value. Two numbers have one plain text exactly when they are equal,
unless they are an integer and a double of which the one is what the other denotes and not what it
spells, or spells and not denotes; and such an integer is `2 ^ 54 + 6` at least and such a double
`2 ^ 54 + 8`, whatever their signs. In a collection where no two selected numbers are of that kind,
two items are in one group exactly when their selected values are equal, each is counted with those
that it is equal to, and there are as many groups as items that are kept as the first of their
value. -/
theorem numbers_group_by_value :
    (∀ a b : Number, (a.plainText = b.plainText ↔ (Value.number a).equal (.number b) = true) ↔
      ¬ a.Blurred b) ∧
    (∀ a b : Number, a.Blurred b → ∃ (n : ℤ) (x : Double),
      (a.integer? = some n ∧ b = .double x ∨ a = .double x ∧ b.integer? = some n) ∧
        x.isFinite = true ∧ 18014398509481990 ≤ n.natAbs ∧ 18014398509481992 ≤ x.absRat) ∧
    (∀ (μ : Type) (c : Collection μ) (s : Selector) (value : Value → Number),
      (∀ item ∈ c.items, c.select s item = .number (value item)) →
      (∀ a ∈ c.items, ∀ b ∈ c.items, ¬ (value a).Blurred (value b)) →
      (∀ a ∈ c.items, ∀ b ∈ c.items, (∃ e ∈ c.groupBy s, a ∈ e.2 ∧ b ∈ e.2) ↔
        (c.select s a).equal (c.select s b) = true) ∧
      (∀ a ∈ c.items, (c.countBy s).get? (c.groupKey s a) =
        some (c.items.countP fun b => (c.select s b).equal (c.select s a))) ∧
      (c.groupBy s).length = (c.uniqueBy s).items.length ∧
      (c.countBy s).length = (c.uniqueBy s).items.length) := by
  refine ⟨fun a b => ?_, fun a b => Number.Blurred.bounds, fun μ c s value hvalue hsharp => ?_⟩
  · rw [Value.equal]
    exact Number.plainText_eq_iff_equal a b
  have hgroups := c.groupsBy_groupBy s
  have hkeys : ∀ a ∈ c.items, ∀ b ∈ c.items,
      c.groupKey s a = c.groupKey s b ↔ (c.select s a).equal (c.select s b) = true := by
    intro a ha b hb
    rw [Collection.groupKey, Collection.groupKey, hvalue a ha, hvalue b hb, Value.plainText,
      Value.plainText, Value.equal]
    exact (Number.plainText_eq_iff_equal _ _).mpr (hsharp a ha b hb)
  have hwellFormed : ∀ item ∈ c.items, (c.select s item).WellFormed := by
    intro item hitem
    rw [hvalue item hitem]
    trivial
  have hlength : (c.groupBy s).length = (c.uniqueBy s).items.length := by
    have hunique : (c.uniqueBy s).items = distinctBy (c.select s) c.items :=
      Collection.items_uniqueBy hwellFormed
    rw [hunique, ← List.length_map (c.groupKey s), map_distinctBy hwellFormed hkeys, ← hgroups.keys,
      Entries.keys, List.length_map]
  refine ⟨fun a ha b hb => (hgroups.exists_mem_iff ha hb).trans (hkeys a ha b hb), fun a ha => ?_,
    hlength, ?_⟩
  · rw [c.countBy_eq_map, Entries.get?_map, hgroups.group, if_pos (List.mem_map_of_mem ha),
      Option.map_some, ← List.countP_eq_length_filter]
    refine congrArg some (List.countP_congr fun b hb => ?_)
    rw [decide_eq_true_eq]
    exact hkeys b hb a ha
  · rw [c.countBy_eq_map, List.length_map, hlength]

/-- Integers of both kinds beside doubles: both zeros, two that are not numbers, the first whole
double that is not written like an integer, and the last one before those that blur. -/
theorem numbers_group_by_value_mixed :
    let nan : Number := .double ⟨0x7ff8000000000001⟩
    let zero : Number := .double ⟨0x8000000000000000⟩
    let great : Number := .double ⟨0x4350000000000001⟩
    let numbers : List Number := [.signed 1, .double ⟨0x3ff0000000000000⟩, .unsigned 1, zero,
      .signed 0, .double .nan, nan, .double ⟨0x430c6bf526340000⟩, .signed 1000000000000000, great,
      .unsigned 18014398509481988, .double ⟨0x3fb999999999999a⟩]
    let c : Collection Unit := .new .standard (numbers.map .number)
    let s : Selector := .path ""
    ((Number.unsigned 18014398509481988).plainText = great.plainText ∧
      ∀ a ∈ numbers, ∀ b ∈ numbers, ¬ a.Blurred b) ∧
      (c.groupBy s).length = 6 ∧ (c.countBy s).length = 6 ∧
      (c.countBy s).get? "18014398509481988" = some 2 ∧
      (∃ e ∈ c.groupBy s, .number (.double .nan) ∈ e.2 ∧ .number nan ∈ e.2) ∧
      (∃ e ∈ c.groupBy s, .number zero ∈ e.2 ∧ .number (.signed 0) ∈ e.2) := by
  intro nan zero great numbers c s
  obtain ⟨htext, hbounds, hgroups⟩ := numbers_group_by_value
  have hsmall : ∀ a ∈ numbers, ∀ n ∈ a.integer?, n.natAbs < 18014398509481990 := by decide
  have hsharp : ∀ a ∈ numbers, ∀ b ∈ numbers, ¬ a.Blurred b := by
    intro a ha b hb hblurred
    obtain ⟨n, x, ⟨h, -⟩ | ⟨-, h⟩, -, hn, -⟩ := hbounds a b hblurred
    · exact absurd (hsmall a ha n h) hn.not_gt
    · exact absurd (hsmall b hb n h) hn.not_gt
  let value : Value → Number := fun v => v.number?.getD (.signed 0)
  have hmem : ∀ a ∈ numbers, .number a ∈ c.items := fun a ha => List.mem_map_of_mem ha
  have hvalue : ∀ item ∈ c.items, c.select s item = .number (value item) := by
    intro item hitem
    obtain ⟨a, -, rfl⟩ := List.mem_map.mp hitem
    rfl
  obtain ⟨htogether, hcount, hlength, hcounts⟩ := hgroups Unit c s value hvalue (by
    intro a ha b hb
    obtain ⟨m, hm, rfl⟩ := List.mem_map.mp ha
    obtain ⟨n, hn, rfl⟩ := List.mem_map.mp hb
    exact hsharp m hm n hn)
  have hunique : (c.uniqueBy s).items.length = 6 := by cbv
  have hequal : (Value.number (.unsigned 18014398509481988)).equal (.number great) = true := by
    decide +kernel
  refine ⟨⟨?_, hsharp⟩, hlength.trans hunique, hcounts.trans hunique, ?_, ?_, ?_⟩
  · exact ((htext _ _).mpr (hsharp _ (by simp [numbers]) _ (by simp [numbers]))).mpr hequal
  · exact (hcount (.number (.unsigned 18014398509481988)) (hmem _ (by simp [numbers]))).trans (by
      decide +kernel)
  · exact (htogether _ (hmem _ (by simp [numbers])) _ (hmem _ (by simp [numbers]))).mpr (by
      decide +kernel)
  · exact (htogether _ (hmem _ (by simp [numbers])) _ (hmem _ (by simp [numbers]))).mpr (by
      decide +kernel)

/-- The least double that is not written as the number that it is, beside that number and beside the
one that it is written as. -/
theorem rounded_text_parts_equals :
    let x : Double := ⟨0x4350000000000002⟩
    let c : Collection Unit := .new .standard [.signed 18014398509481992, .double x]
    (Value.signed 18014398509481992).equal (.double x) = true ∧
      (Value.signed 18014398509481990).equal (.double x) = false ∧
      (Number.signed 18014398509481992).plainText = "18014398509481992" ∧
      (Number.signed 18014398509481990).plainText = "18014398509481990" ∧
      (Number.double x).plainText = "18014398509481990" ∧
      c.countBy (.path "") = [("18014398509481992", 1), ("18014398509481990", 1)] ∧
      (c.uniqueBy (.path "")).items.length = 1 := by
  intro x c
  refine ⟨by decide +kernel, by decide +kernel, by decide +kernel, by decide +kernel,
    by decide +kernel, by decide +kernel, by decide +kernel⟩

end Dossier
