import Dossier.Proofs.Value.Alike

/-! Documents through their keys. Two documents are alike when under every key both have alike
values or neither has one, so what an operation on documents does is said by what stands under each
key afterwards. -/

namespace Dossier

section Options

variable {α β : Type} {r : α → β → Prop} {a : Option α} {b : Option β}

theorem isSome_eq_of_rel (h : Option.Rel r a b) : a.isSome = b.isSome := by
  cases h <;> rfl

theorem exists_of_rel (h : Option.Rel r a b) {x : α} (hx : a = some x) :
    ∃ y, b = some y ∧ r x y := by
  subst hx
  cases h with
  | some hxy => exact ⟨_, rfl, hxy⟩

end Options

namespace Document

theorem mem_entries_of_get? {d : Document} {key : String} {v : Value} (h : d.get? key = some v) :
    (key, v) ∈ d.entries := Entries.mem_of_get? h

theorem get?_eq_some_iff {d : Document} (hd : d.keys.Nodup) {key : String} {v : Value} :
    d.get? key = some v ↔ (key, v) ∈ d.entries := Entries.get?_eq_some_iff hd

theorem mem_keys_iff {d : Document} {key : String} : key ∈ d.keys ↔ (d.get? key).isSome = true :=
  (Entries.isSome_get? key d.entries).symm

theorem wellFormed_iff_get? {d : Document} :
    d.WellFormed ↔ d.keys.Nodup ∧ ∀ key v, d.get? key = some v → v.WellFormed := by
  rw [wellFormed_iff]
  refine and_congr_right fun hkeys => ⟨fun h key v hv => ?_, fun h e he => ?_⟩
  · exact h (key, v) (mem_entries_of_get? hv)
  · exact h e.1 e.2 ((get?_eq_some_iff hkeys).mpr he)

theorem WellFormed.nodup_keys {d : Document} (hd : d.WellFormed) : d.keys.Nodup :=
  (wellFormed_iff.mp hd).1

theorem WellFormed.get? {d : Document} (hd : d.WellFormed) {key : String} {v : Value}
    (h : d.get? key = some v) : v.WellFormed := (wellFormed_iff_get?.mp hd).2 key v h

end Document

namespace Value

theorem equal_documents (d e : Document) : (document d).equal (document e) = d.equal e := by
  rw [equal]

theorem alike_document {d e : Document} (hd : d.keys.Nodup) (he : e.keys.Nodup) :
    (document d).Alike (document e) ↔ ∀ key, Option.Rel Alike (d.get? key) (e.get? key) := by
  refine ⟨Alike.get?, fun h => ?_⟩
  have hkeys : d.keys.Perm e.keys := by
    refine (List.perm_ext_iff_of_nodup hd he).mpr fun key => ?_
    rw [Document.mem_keys_iff, Document.mem_keys_iff, isSome_eq_of_rel (h key)]
  constructor
  · refine Document.wellFormed_iff_get?.mpr ⟨hd, fun key v hv => ?_⟩
    obtain ⟨w, -, hvw⟩ := exists_of_rel (h key) hv
    exact hvw.wellFormed
  · rw [equal_document hd, Entries.forall₂_sortByKey_iff hd]
    refine ⟨by simpa [Document.keys, Entries.keys] using hkeys.length_eq, fun a ha => ?_⟩
    obtain ⟨w, hw, hvw⟩ := exists_of_rel (h a.1) ((Document.get?_eq_some_iff hd).mpr ha)
    exact ⟨w, hw, hvw.equal⟩

theorem Alike.refl {v : Value} (hv : v.WellFormed) : v.Alike v := ⟨hv, equal_refl hv⟩

end Value

end Dossier
