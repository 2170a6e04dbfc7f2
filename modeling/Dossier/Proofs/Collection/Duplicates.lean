import Dossier.Collection.Arrange
import Dossier.Proofs.Value.Hash

/-! Duplicates are looked for among the keys of one hash only. As equal values have one hash, none
is missed, and what is dropped is what equality alone would drop. -/

namespace Dossier

/-- A hash that tells no two equal values apart. -/
def RespectsEquality (hash : Value → UInt64) : Prop :=
  ∀ v w : Value, v.WellFormed → v.equal w = true → hash v = hash w

/-- Whatever is done with what is fed, and whatever hashes the entries of documents. -/
theorem respectsEquality_ofValue (entryHash finish : List Hash.Feed → UInt64) :
    RespectsEquality fun v => finish (Hash.ofValue entryHash v) := by
  intro v w hv h
  exact congrArg finish (Hash.ofValue_congr entryHash hv h)

theorem respectsEquality_hash : RespectsEquality Value.hash :=
  respectsEquality_ofValue Hash.finish Hash.finish

namespace Collection

variable {hash : Value → UInt64} {μ : Type}

theorem isSeen_eq_any (hh : RespectsEquality hash) {seen : List Value}
    (hs : ∀ v ∈ seen, v.WellFormed) (key : Value) :
    isSeen hash (seen.map fun v => (hash v, v)) key = seen.any fun v => v.equal key := by
  induction seen with
  | nil => rfl
  | cons v seen ih =>
    rw [List.forall_mem_cons] at hs
    rw [List.any_cons, ← ih hs.2, isSeen, List.map_cons, List.any_cons]
    cases heq : v.equal key with
    | false => simp [isSeen, heq]
    | true => simp [heq, hh v key hs.1 heq]

theorem dropSeen_eq_loop (hh : RespectsEquality hash) {key : Value → Value}
    {items kept : List Value} (hi : ∀ item ∈ items, (key item).WellFormed)
    (hk : ∀ item ∈ kept, (key item).WellFormed) :
    List.eraseDupsBy.loop (fun a b => (key b).equal (key a)) items kept =
      kept.reverse ++ dropSeen hash key (kept.map fun b => (hash (key b), key b)) items := by
  induction items generalizing kept with
  | nil => simp [List.eraseDupsBy.loop, dropSeen]
  | cons item rest ih =>
    rw [List.forall_mem_cons] at hi
    have hseen : isSeen hash (kept.map fun b => (hash (key b), key b)) (key item) =
        kept.any fun b => (key b).equal (key item) := by
      have h := isSeen_eq_any hh (List.forall_mem_map.mpr hk) (key item)
      rwa [List.map_map, List.any_map] at h
    rw [List.eraseDupsBy.loop, dropSeen, hseen]
    cases kept.any fun b => (key b).equal (key item) with
    | true => exact ih hi.2 hk
    | false =>
      have hk' : ∀ b ∈ item :: kept, (key b).WellFormed := List.forall_mem_cons.mpr ⟨hi.1, hk⟩
      simp only
      rw [ih hi.2 hk', List.reverse_cons, List.append_assoc]
      rfl

/-- What is kept is the first item of each key, by equality alone. -/
theorem dropSeen_eq_eraseDupsBy (hh : RespectsEquality hash) {key : Value → Value}
    {items : List Value} (hi : ∀ item ∈ items, (key item).WellFormed) :
    dropSeen hash key [] items = items.eraseDupsBy fun a b => (key b).equal (key a) := by
  have hloop := dropSeen_eq_loop hh hi (List.forall_mem_nil _)
  exact hloop.symm

variable {c : Collection μ}

theorem items_uniqueBy {s : Selector} (hi : ∀ item ∈ c.items, (c.select s item).WellFormed) :
    (c.uniqueBy s).items =
      c.items.eraseDupsBy fun a b => (c.select s b).equal (c.select s a) :=
  dropSeen_eq_eraseDupsBy respectsEquality_hash hi

theorem items_unique (hi : ∀ item ∈ c.items, item.WellFormed) :
    c.unique.items = c.items.eraseDupsBy fun a b => b.equal a :=
  dropSeen_eq_eraseDupsBy respectsEquality_hash hi

end Collection

/-- Equal values feed the same to every hasher, whatever hashes the entries of documents in them,
and so dropping duplicates by their hash sees them as one key. -/
theorem equal_values_are_one_key :
    (∀ (entryHash : List Hash.Feed → UInt64) (v w : Value), v.WellFormed → v.equal w = true →
      Hash.ofValue entryHash v = Hash.ofValue entryHash w) ∧
    (∀ (entryHash finish : List Hash.Feed → UInt64) (key : Value → Value) (items : List Value),
      (∀ item ∈ items, (key item).WellFormed) →
      Collection.dropSeen (fun v => finish (Hash.ofValue entryHash v)) key [] items =
        items.eraseDupsBy fun a b => (key b).equal (key a)) ∧
    (∀ (μ : Type) (c : Collection μ) (s : Selector),
      (∀ item ∈ c.items, (c.select s item).WellFormed) →
      (c.uniqueBy s).items =
        c.items.eraseDupsBy fun a b => (c.select s b).equal (c.select s a)) ∧
    (∀ (μ : Type) (c : Collection μ), (∀ item ∈ c.items, item.WellFormed) →
      c.unique.items = c.items.eraseDupsBy fun a b => b.equal a) := by
  refine ⟨fun entryHash v w hv h => ?_, fun entryHash finish key items hi => ?_,
    fun μ c s hi => ?_, fun μ c hi => ?_⟩
  · exact Hash.ofValue_congr entryHash hv h
  · exact Collection.dropSeen_eq_eraseDupsBy (respectsEquality_ofValue entryHash finish) hi
  · exact Collection.items_uniqueBy hi
  · exact Collection.items_unique hi

/-- Two documents with their keys in different orders, an integer against a double, both zeros and
two that are not numbers. -/
theorem equal_values_are_one_key_mixed :
    let v := Value.document ⟨[("m", .signed 1), ("n", .array [.double ⟨0⟩, .double .nan])]⟩
    let w := Value.document ⟨[("n", .array [.double ⟨0x8000000000000000⟩,
      .double ⟨0xfff0000000000001⟩]), ("m", .double ⟨0x3ff0000000000000⟩)]⟩
    (∀ entryHash, Hash.ofValue entryHash v = Hash.ofValue entryHash w) ∧
      ((Collection.new .standard [v, w] : Collection Unit).unique).items = [v] := by
  intro v w
  obtain ⟨hfed, -, -, hunique⟩ := equal_values_are_one_key
  have hv : v.WellFormed := ⟨by decide, trivial, ⟨trivial, trivial, trivial⟩, trivial⟩
  have hw : w.WellFormed := ⟨by decide, ⟨trivial, trivial, trivial⟩, trivial, trivial⟩
  have heq : v.equal w = true := by decide +kernel
  refine ⟨fun entryHash => hfed entryHash v w hv heq, ?_⟩
  rw [hunique Unit (.new .standard [v, w]) (by simp [Collection.new, hv, hw])]
  simp [Collection.new, List.eraseDupsBy, List.eraseDupsBy.loop, heq]

end Dossier
