import Dossier.Proofs.Path.Lens
import Dossier.Proofs.Value.Lookup

/-! Merging documents, key by key. Under every key of the second document stands what it has there,
merged onto what the first has; under every other key the first stays as it is. Merging what has
been merged already changes nothing, not even the order of keys. -/

namespace Dossier

namespace Value

def BothDocuments (there : Option Value) (v : Value) : Prop :=
  ∃ mine theirs, there = some (document mine) ∧ v = document theirs

theorem not_bothDocuments {v : Value} (h : v.kind ≠ .document) (there : Option Value) :
    ¬ BothDocuments there v := by
  rintro ⟨mine, theirs, -, rfl⟩
  exact h rfl

/-- A value merged onto what is there: of two documents the second is merged into the first, and any
other value replaces what is there. -/
def mergeOnto : Value → Option Value → Value
  | document theirs, some (document mine) => document (mine.mergeDeep theirs)
  | v, _ => v

@[simp] theorem mergeOnto_document (mine theirs : Document) :
    (document theirs).mergeOnto (some (document mine)) = document (mine.mergeDeep theirs) := rfl

theorem mergeOnto_of_not_both {there : Option Value} {v : Value} (h : ¬ BothDocuments there v) :
    v.mergeOnto there = v := by
  rw [mergeOnto]
  rintro theirs mine rfl rfl
  exact h ⟨mine, theirs, rfl, rfl⟩

end Value

namespace Document

/-! ### One entry after the other -/

theorem mergeEntries_cons (d : Document) (key : String) (v : Value)
    (rest : List (String × Value)) :
    mergeEntries d ((key, v) :: rest) =
      mergeEntries (d.insert key (v.mergeOnto (d.get? key))) rest := by
  cases v with
  | document theirs =>
    rw [mergeEntries]
    cases d.get? key with
    | none => rfl
    | some mine => cases mine <;> rfl
  | _ => rfl

/-- What holds of a document and is kept whenever a merged value is put in holds of the merge. -/
theorem mergeDeep_induction {P : Document → Prop} {d e : Document} (hd : P d)
    (hstep : ∀ d key v, (key, v) ∈ e.entries → P d →
      P (d.insert key (v.mergeOnto (d.get? key)))) : P (d.mergeDeep e) := by
  obtain ⟨es⟩ := e
  rw [mergeDeep]
  induction es generalizing d with
  | nil => exact hd
  | cons a rest ih =>
    rw [mergeEntries_cons]
    exact ih (hstep d a.1 a.2 List.mem_cons_self hd)
      fun d key v h => hstep d key v (List.mem_cons_of_mem _ h)

theorem nodup_keys_mergeDeep {d : Document} (hd : d.keys.Nodup) (e : Document) :
    (d.mergeDeep e).keys.Nodup :=
  mergeDeep_induction (P := fun d => d.keys.Nodup) hd
    fun _ key _ _ h => Entries.nodup_keys_insert h key _

/-- What stands under a key after a merge. -/
theorem get?_mergeDeep {e : Document} (he : e.keys.Nodup) (d : Document) (key : String) :
    (d.mergeDeep e).get? key =
      ((e.get? key).map fun v => v.mergeOnto (d.get? key)).or (d.get? key) := by
  obtain ⟨es⟩ := e
  rw [mergeDeep]
  induction es generalizing d with
  | nil => rfl
  | cons a rest ih =>
    obtain ⟨k, v⟩ := a
    obtain ⟨hk, hrest⟩ := List.nodup_cons.mp he
    rw [mergeEntries_cons, ih _ hrest]
    by_cases h : k = key
    · -- The key does not come again, so what is put in first stays.
      subst h
      have hnone : (Document.mk rest).get? k = none := (Entries.get?_eq_none_iff k rest).mpr hk
      have hsome : (Document.mk ((k, v) :: rest)).get? k = some v := if_pos rfl
      rw [hnone, hsome, get?_insert_self]
      rfl
    · have hcons : (Document.mk ((k, v) :: rest)).get? key = (Document.mk rest).get? key :=
        if_neg h
      rw [hcons, get?_insert_of_ne h]

theorem insert_of_get? {d : Document} {key : String} {v : Value} (h : d.get? key = some v) :
    d.insert key v = d := by
  obtain ⟨es⟩ := d
  exact congrArg Document.mk (Entries.insert_of_get? h)

/-- Merging changes nothing where each value, merged onto what is there, gives what is there. -/
theorem mergeDeep_eq_left {d e : Document}
    (h : ∀ key v, (key, v) ∈ e.entries → d.get? key = some (v.mergeOnto (d.get? key))) :
    d.mergeDeep e = d := by
  refine mergeDeep_induction (P := fun d' => d' = d) rfl ?_
  rintro _ key v he rfl
  exact insert_of_get? (h key v he)

theorem mergeDeep_of_isEmpty (d : Document) {e : Document} (h : e.isEmpty = true) :
    d.mergeDeep e = d := by
  refine mergeDeep_eq_left fun key v he => ?_
  rw [List.isEmpty_iff.mp h] at he
  cases he

theorem wellFormed_mergeDeep {d e : Document} (hd : d.WellFormed) (he : e.WellFormed) :
    (d.mergeDeep e).WellFormed := by
  induction e using inductionOn generalizing d with
  | nested e ih =>
    refine mergeDeep_induction hd fun d key v hv hd => wellFormed_insert hd key ?_
    have hvalue := (wellFormed_iff.mp he).2 _ hv
    by_cases hboth : Value.BothDocuments (d.get? key) v
    · obtain ⟨mine, theirs, hmine, rfl⟩ := hboth
      rw [hmine]
      exact ih key theirs hv (hd.get? hmine) hvalue
    · rwa [Value.mergeOnto_of_not_both hboth]

/-! ### Merging again -/

theorem mergeDeep_self {d : Document} (hd : d.WellFormed) : d.mergeDeep d = d := by
  induction d using inductionOn with
  | nested d ih =>
    refine mergeDeep_eq_left fun key v he => ?_
    have hget := (get?_eq_some_iff hd.nodup_keys).mpr he
    rw [hget]
    cases v with
    | document e => rw [Value.mergeOnto_document, ih key e he (hd.get? hget)]
    | _ => rfl

theorem mergeDeep_mergeDeep {e : Document} (he : e.WellFormed) (d : Document) :
    (d.mergeDeep e).mergeDeep e = d.mergeDeep e := by
  induction e using inductionOn generalizing d with
  | nested e ih =>
    refine mergeDeep_eq_left fun key v hv => ?_
    have hget := (get?_eq_some_iff he.nodup_keys).mpr hv
    rw [get?_mergeDeep he.nodup_keys, hget, Option.map_some, Option.some_or]
    by_cases hboth : Value.BothDocuments (d.get? key) v
    · obtain ⟨mine, theirs, hmine, rfl⟩ := hboth
      rw [hmine, Value.mergeOnto_document, Value.mergeOnto_document,
        ih key theirs hv (he.get? hget)]
    · rw [Value.mergeOnto_of_not_both hboth]
      cases v with
      | document e => rw [Value.mergeOnto_document, mergeDeep_self (he.get? hget)]
      | _ => rfl

end Document

end Dossier
