import Dossier.Proofs.Model.Difference
import Dossier.Proofs.Model.Leaves

/-! A difference is a patch. Merged into the first document it gives what merging the whole second
document gives, and nothing is kept in it but what is missing there or differs. The laws rest on
one: a value agrees with what is there exactly when merging it in changes nothing. -/

namespace Dossier

/-! ### Agreeing is merging without a change -/

theorem Document.alike_mergeDeep_iff {d e : Document} (hd : d.WellFormed) (he : e.WellFormed) :
    (Value.document (d.mergeDeep e)).Alike (.document d) ↔
      ∀ x ∈ e.entries,
        Option.Rel Value.Alike (some (x.2.mergeOnto (d.get? x.1))) (d.get? x.1) := by
  rw [Value.alike_document (nodup_keys_mergeDeep hd.nodup_keys e) hd.nodup_keys]
  constructor
  · intro h x hx
    have hget := (get?_eq_some_iff he.nodup_keys).mpr hx
    have hkey := h x.1
    rwa [get?_mergeDeep he.nodup_keys, hget, Option.map_some, Option.some_or] at hkey
  · intro h key
    rw [get?_mergeDeep he.nodup_keys]
    cases hget : e.get? key with
    | some v => exact h (key, v) (mem_entries_of_get? hget)
    | none => exact Value.Alike.get? (.refl hd) key

namespace Value

variable {there : Option Value} {v : Value}

theorem agrees_iff_rel_of_not_both (h : ¬ BothDocuments there v)
    (ht : ∀ u, there = some u → u.WellFormed) :
    agrees there v = true ↔ Option.Rel Alike (some (v.mergeOnto there)) there := by
  rw [agrees_of_not_both h, mergeOnto_of_not_both h]
  cases there with
  | none => simp
  | some u =>
    rw [Option.any_some, Option.rel_some_some]
    exact ⟨fun hequal => Alike.symm ⟨ht u rfl, hequal⟩, fun halike => halike.symm.equal⟩

/-- A value agrees with what is there exactly when it can be merged in without a change. -/
theorem agrees_iff_rel (ht : ∀ u, there = some u → u.WellFormed) (hv : v.WellFormed) :
    agrees there v = true ↔ Option.Rel Alike (some (v.mergeOnto there)) there := by
  induction v using inductionOn generalizing there with
  | document theirs ih =>
    by_cases hboth : BothDocuments there (document theirs)
    · obtain ⟨mine, _, rfl, ⟨⟩⟩ := hboth
      rw [agrees_document, Document.isEmpty_diff, List.all_eq_true, mergeOnto_document,
        Option.rel_some_some, Document.alike_mergeDeep_iff (ht _ rfl) hv]
      refine forall₂_congr fun x hx => ih x hx (fun u hu => ?_) ?_
      · exact Document.WellFormed.get? (ht _ rfl) hu
      · exact (wellFormed_document.mp hv).2 x hx
    · exact agrees_iff_rel_of_not_both hboth ht
  | _ => exact agrees_iff_rel_of_not_both (not_bothDocuments (by simp [kind]) there) ht

end Value

namespace Document

variable {d e : Document}

/-- A difference is empty exactly when merging the other document in changes nothing. -/
theorem isEmpty_diff_iff (hd : d.WellFormed) (he : e.WellFormed) :
    (d.diff e).isEmpty = true ↔ (Value.document (d.mergeDeep e)).Alike (.document d) := by
  rw [isEmpty_diff, List.all_eq_true, alike_mergeDeep_iff hd he]
  refine forall₂_congr fun x hx => Value.agrees_iff_rel (fun u hu => hd.get? hu) ?_
  exact (wellFormed_iff.mp he).2 x hx

end Document

/-! ### The patch applied -/

namespace Value

/-- What stands under a key once the part of a value that does not agree with what was there is
merged onto that. -/
def patched (there : Option Value) (v : Value) : Option Value :=
  ((patch there v).map fun w => w.mergeOnto there).or there

/-- Of two documents the difference is merged into the first, and that changes nothing if there is
none. -/
theorem patched_document (mine theirs : Document) :
    patched (some (document mine)) (document theirs) =
      some (document (mine.mergeDeep (mine.diff theirs))) := by
  cases hempty : (mine.diff theirs).isEmpty with
  | true => simp [patched, patch, agrees, hempty, mine.mergeDeep_of_isEmpty hempty]
  | false => simp [patched, patch, agrees, differing, hempty]

theorem exists_patched {there : Option Value} {v : Value} (h : ¬ BothDocuments there v)
    (ht : ∀ u, there = some u → u.WellFormed) (hv : v.WellFormed) :
    ∃ u, patched there v = some u ∧ u.Alike v := by
  cases hagree : agrees there v with
  | true =>
    have hpatch : patch there v = none := patch_eq_none_iff.mpr hagree
    rw [agrees_of_not_both h, Option.any_eq_true] at hagree
    obtain ⟨u, rfl, hequal⟩ := hagree
    rw [patched, hpatch]
    exact ⟨u, rfl, ht u rfl, hequal⟩
  | false =>
    have hpatch : patch there v = some v :=
      patch_eq_some_iff.mpr ⟨hagree, differing_of_not_both h⟩
    rw [patched, hpatch, Option.map_some, mergeOnto_of_not_both h]
    exact ⟨v, rfl, .refl hv⟩

end Value

namespace Document

variable {d e : Document}

theorem get?_mergeDeep_diff (d : Document) (he : e.keys.Nodup) (key : String) :
    (d.mergeDeep (d.diff e)).get? key =
      (e.get? key).elim (d.get? key) (Value.patched (d.get? key)) := by
  rw [get?_mergeDeep (d.nodup_keys_diff he), get?_diff d he]
  cases e.get? key <;> rfl

/-- Merging in the difference gives what merging in the whole document gives. -/
theorem alike_mergeDeep_diff (hd : d.WellFormed) (he : e.WellFormed) :
    (Value.document (d.mergeDeep (d.diff e))).Alike (.document (d.mergeDeep e)) := by
  induction e using inductionOn generalizing d with
  | nested e ih =>
    refine (Value.alike_document (nodup_keys_mergeDeep hd.nodup_keys _)
      (nodup_keys_mergeDeep hd.nodup_keys e)).mpr fun key => ?_
    rw [get?_mergeDeep_diff d he.nodup_keys, get?_mergeDeep he.nodup_keys]
    cases hv : e.get? key with
    | none => exact Value.Alike.get? (.refl hd) key
    | some v =>
      by_cases hboth : Value.BothDocuments (d.get? key) v
      · obtain ⟨mine, theirs, hmine, rfl⟩ := hboth
        rw [hmine, Option.elim_some, Value.patched_document]
        exact .some (ih key theirs (mem_entries_of_get? hv) (hd.get? hmine) (he.get? hv))
      · obtain ⟨u, hu, halike⟩ := Value.exists_patched hboth (fun u => hd.get?) (he.get? hv)
        rw [Option.elim_some, hu, Option.map_some, Value.mergeOnto_of_not_both hboth]
        exact .some halike

theorem isEmpty_diff_mergeDeep_diff (hd : d.WellFormed) (he : e.WellFormed) :
    ((d.mergeDeep (d.diff e)).diff e).isEmpty = true := by
  induction e using inductionOn generalizing d with
  | nested e ih =>
    rw [isEmpty_diff, List.all_eq_true]
    rintro ⟨key, v⟩ hmem
    have hv := (get?_eq_some_iff he.nodup_keys).mpr hmem
    rw [get?_mergeDeep_diff d he.nodup_keys, hv, Option.elim_some]
    by_cases hboth : Value.BothDocuments (d.get? key) v
    · obtain ⟨mine, theirs, hmine, rfl⟩ := hboth
      rw [hmine, Value.patched_document]
      exact ih key theirs hmem (hd.get? hmine) (he.get? hv)
    · obtain ⟨u, hu, halike⟩ := Value.exists_patched hboth (fun u => hd.get?) (he.get? hv)
      rw [hu]
      exact Value.agrees_of_alike halike

end Document

/-! ### The keys of the patch -/

namespace Document

variable {d e : Document}

/-- What a difference keeps along a row of keys is there in the other document too, and here it is
missing or not equal to that. -/
theorem exists_keyed?_of_diff (hd : d.WellFormed) (he : e.WellFormed) {keys : List String}
    (hne : keys ≠ []) {w : Value} (h : (Value.document (d.diff e)).keyed? keys = some w) :
    ∃ v, (Value.document e).keyed? keys = some v ∧
      ∀ u, (Value.document d).keyed? keys = some u → u.equal v = false := by
  induction keys generalizing d e with
  | nil => exact absurd rfl hne
  | cons key rest ih =>
    rw [Value.keyed?_document, get?_diff d he.nodup_keys] at h
    obtain ⟨_, hpatch, hrest⟩ := Option.bind_eq_some_iff.mp h
    obtain ⟨v, hv, hpatch⟩ := Option.bind_eq_some_iff.mp hpatch
    obtain ⟨hagree, rfl⟩ := Value.patch_eq_some_iff.mp hpatch
    simp only [Value.keyed?_document, hv, Option.bind_some]
    cases rest with
    | nil =>
      refine ⟨v, rfl, fun u hu => ?_⟩
      obtain ⟨_, hthere, ⟨⟩⟩ := Option.bind_eq_some_iff.mp hu
      by_contra hequal
      have halike : u.Alike v := ⟨hd.get? hthere, by simpa using hequal⟩
      rw [hthere, Value.agrees_of_alike halike] at hagree
      cases hagree
    | cons next rest =>
      by_cases hboth : Value.BothDocuments (d.get? key) v
      · obtain ⟨mine, theirs, hmine, rfl⟩ := hboth
        rw [hmine] at hrest ⊢
        exact ih (hd.get? hmine) (he.get? hv) (List.cons_ne_nil next rest) hrest
      · -- Only documents are entered, and there are none on both sides.
        rw [Value.differing_of_not_both hboth] at hrest
        refine ⟨w, hrest, fun u hu => absurd ?_ hboth⟩
        obtain ⟨there, hthere, hu⟩ := Option.bind_eq_some_iff.mp hu
        obtain ⟨mine, rfl⟩ := Value.exists_document_of_keyed? hu
        obtain ⟨theirs, rfl⟩ := Value.exists_document_of_keyed? hrest
        exact ⟨mine, theirs, hthere, rfl⟩

/-- A difference is a patch. Merged into the first document it gives what merging the second gives,
up to equality, and then nothing is missing or different any more. It is empty exactly when merging
the second document changes nothing, up to equality, and a second merge changes nothing at all. What
it keeps under a key, at whatever depth, is there in the second document, and in the first it is
missing or not equal to that. -/
theorem diff_patches (hd : d.WellFormed) (he : e.WellFormed) :
    (d.mergeDeep (d.diff e)).equal (d.mergeDeep e) = true ∧
    ((d.mergeDeep (d.diff e)).diff e).isEmpty = true ∧
    ((d.diff e).isEmpty = true ↔ (d.mergeDeep e).equal d = true) ∧
    (d.mergeDeep e).mergeDeep e = d.mergeDeep e ∧
    ∀ keys w, keys ≠ [] → (Value.document (d.diff e)).keyed? keys = some w →
      ∃ v, (Value.document e).keyed? keys = some v ∧
        ∀ u, (Value.document d).keyed? keys = some u → u.equal v = false := by
  refine ⟨?_, isEmpty_diff_mergeDeep_diff hd he, ?_, mergeDeep_mergeDeep he d,
    fun keys w hne h => exists_keyed?_of_diff hd he hne h⟩
  · rw [← Value.equal_documents]
    exact (alike_mergeDeep_diff hd he).equal
  · rw [isEmpty_diff_iff hd he, ← Value.equal_documents]
    exact ⟨Value.Alike.equal, fun h => ⟨wellFormed_mergeDeep hd he, h⟩⟩

/-- A document over a scalar and a scalar over a document, an empty document where there is none, an
equal number of another kind, what is no number on both sides, and an array of which one item is the
same. -/
theorem diff_patches_mixed :
    let d : Document := ⟨[("a", .document ⟨[("x", .signed 1), ("y", .string "")]⟩), ("b", .null),
      ("c", .document ⟨[("x", .bool true)]⟩), ("n", .double .nan), ("l", .array [.null, .null])]⟩
    let e : Document := ⟨[("n", .double .nan), ("c", .signed 0), ("e", .document .empty),
      ("b", .document ⟨[("x", .array [])]⟩), ("l", .array [.null, .bool true]),
      ("a", .document ⟨[("y", .null), ("x", .unsigned 1)]⟩)]⟩
    let patch : Document := ⟨[("c", .signed 0), ("e", .document .empty),
      ("b", .document ⟨[("x", .array [])]⟩), ("l", .array [.null, .bool true]),
      ("a", .document ⟨[("y", .null)]⟩)]⟩
    d.diff e = patch ∧ (d.mergeDeep patch).equal (d.mergeDeep e) = true ∧
      ((d.mergeDeep patch).diff e).isEmpty = true ∧ (d.mergeDeep e).equal d = false ∧
      ∀ u, (Value.document d).keyed? ["a", "y"] = some u → u.equal .null = false := by
  intro d e patch
  have hd : d.WellFormed := ⟨by decide, ⟨by decide, trivial, trivial, trivial⟩, trivial,
    ⟨by decide, trivial, trivial⟩, trivial, ⟨trivial, trivial, trivial⟩, trivial⟩
  have he : e.WellFormed := ⟨by decide, trivial, trivial, ⟨by decide, trivial⟩,
    ⟨by decide, trivial, trivial⟩, ⟨trivial, trivial, trivial⟩,
    ⟨by decide, trivial, trivial, trivial⟩, trivial⟩
  have hdiff : d.diff e = patch := by cbv
  obtain ⟨hmerged, hdone, hempty, -, hkept⟩ := diff_patches hd he
  rw [hdiff] at hmerged hdone hempty hkept
  refine ⟨hdiff, hmerged, hdone, ?_, ?_⟩
  · rw [← Bool.not_eq_true, ← hempty]
    decide
  · obtain ⟨_, ⟨⟩, hdiffers⟩ := hkept ["a", "y"] .null (by decide) rfl
    exact hdiffers

end Document

end Dossier
