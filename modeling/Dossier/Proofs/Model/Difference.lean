import Dossier.Model.Transform
import Dossier.Proofs.Model.Merge

/-! What a difference keeps, key by key. A value is left out where it agrees with what is there, and
the difference is empty when every value agrees; of two documents the part that differs is kept, and
anything else as a whole. -/

namespace Dossier

namespace Value

/-- Whether what is there agrees with a value: of two documents the first needs to have what the
second has, and anything else is equal or does not agree. -/
def agrees : Option Value → Value → Bool
  | some (.document mine), .document theirs => (mine.diff theirs).isEmpty
  | some v, w => v.equal w
  | none, _ => false

theorem agrees_document (mine theirs : Document) :
    agrees (some (document mine)) (document theirs) = (mine.diff theirs).isEmpty := rfl

theorem agrees_of_not_both {there : Option Value} {v : Value} (h : ¬ BothDocuments there v) :
    agrees there v = there.any fun u => u.equal v := by
  rcases there with - | u
  · rfl
  · rw [agrees]
    · rfl
    · rintro mine theirs ⟨⟩ rfl
      exact h ⟨mine, theirs, rfl, rfl⟩

/-- The part of a value that differs from what is there: of two documents the difference between
them, and otherwise the whole value. -/
def differing : Option Value → Value → Value
  | some (document mine), document theirs => document (mine.diff theirs)
  | _, v => v

theorem differing_of_not_both {there : Option Value} {v : Value} (h : ¬ BothDocuments there v) :
    differing there v = v := by
  rw [differing]
  rintro mine theirs rfl rfl
  exact h ⟨mine, theirs, rfl, rfl⟩

/-- What a difference keeps of a value: nothing where it agrees with what is there. -/
def patch (there : Option Value) (v : Value) : Option Value :=
  if agrees there v then none else some (differing there v)

theorem patch_eq_none_iff {there : Option Value} {v : Value} :
    patch there v = none ↔ agrees there v = true := by
  simp [patch]

theorem patch_eq_some_iff {there : Option Value} {v w : Value} :
    patch there v = some w ↔ agrees there v = false ∧ differing there v = w := by
  simp [patch]

end Value

/-! ### Differences -/

namespace Document

theorem diffEntries_cons (d : Document) (key : String) (v : Value)
    (rest : List (String × Value)) :
    diffEntries d ((key, v) :: rest) =
      ((Value.patch (d.get? key) v).map (key, ·)).toList ++ diffEntries d rest := by
  by_cases hboth : Value.BothDocuments (d.get? key) v
  · obtain ⟨mine, theirs, hmine, rfl⟩ := hboth
    simp only [diffEntries, hmine, Value.patch, Value.agrees, Value.differing]
    split_ifs <;> rfl
  · rw [Value.patch, Value.agrees_of_not_both hboth, Value.differing_of_not_both hboth]
    cases hthere : d.get? key with
    | none => cases v <;> simp [diffEntries, hthere]
    | some u =>
      rw [hthere] at hboth
      cases v with
      | document theirs =>
        -- Without a document there is nothing to compare with, and nothing that could be equal.
        have hu : u.equal (.document theirs) = false := by
          refine Value.equal_of_kind_ne fun hk => ?_
          obtain ⟨mine, rfl⟩ := Value.exists_of_kind_document hk
          exact hboth ⟨mine, theirs, rfl, rfl⟩
        rw [Option.any_some, hu]
        cases u with
        | document mine => exact absurd ⟨mine, theirs, rfl, rfl⟩ hboth
        | _ => simp [diffEntries, hthere]
      | _ =>
        simp only [diffEntries, hthere, Option.any_some]
        split_ifs <;> rfl

/-- A difference keeps of each entry what is kept of its value. -/
theorem entries_diff (d e : Document) :
    (d.diff e).entries =
      e.entries.filterMap fun x => (Value.patch (d.get? x.1) x.2).map (x.1, ·) := by
  obtain ⟨es⟩ := e
  change diffEntries d es = _
  induction es with
  | nil => rfl
  | cons x rest ih =>
    rw [diffEntries_cons, ih, List.filterMap_cons]
    cases Value.patch (d.get? x.1) x.2 <;> rfl

theorem get?_diff (d : Document) {e : Document} (he : e.keys.Nodup) (key : String) :
    (d.diff e).get? key = (e.get? key).bind (Value.patch (d.get? key)) := by
  rw [get?, entries_diff]
  exact Entries.get?_filterMap (f := fun key => Value.patch (d.get? key)) he key

theorem nodup_keys_diff (d : Document) {e : Document} (he : e.keys.Nodup) :
    (d.diff e).keys.Nodup := by
  rw [keys, entries_diff]
  exact he.sublist (Entries.keys_filterMap_sublist (f := fun key => Value.patch (d.get? key)))

theorem isEmpty_diff (d e : Document) :
    (d.diff e).isEmpty = e.entries.all fun x => Value.agrees (d.get? x.1) x.2 := by
  rw [Bool.eq_iff_iff, isEmpty, entries_diff, List.isEmpty_iff, List.filterMap_eq_nil_iff,
    List.all_eq_true]
  simp only [Option.map_eq_none_iff, Value.patch_eq_none_iff]

end Document

theorem Value.agrees_of_alike {u v : Value} (h : u.Alike v) : agrees (some u) v = true := by
  induction v using Value.inductionOn generalizing u with
  | document theirs ih =>
    obtain ⟨mine, rfl⟩ := h.symm.exists_document
    rw [agrees, Document.isEmpty_diff, List.all_eq_true]
    intro e he
    have hget := (Document.get?_eq_some_iff h.symm.nodup_keys).mpr he
    obtain ⟨w, hw, hvw⟩ := exists_of_rel (h.symm.get? e.1) hget
    rw [hw]
    exact ih e he hvw.symm
  | _ =>
    rw [agrees_of_not_both (by rintro ⟨_, _, -, hv⟩; cases hv)]
    exact h.equal

theorem Document.isEmpty_diff_self {d : Document} (hd : d.WellFormed) :
    (d.diff d).isEmpty = true := Value.agrees_of_alike (.refl (v := .document d) hd)

end Dossier
