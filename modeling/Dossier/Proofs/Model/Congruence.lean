import Dossier.Proofs.Model.Patch
import Dossier.Proofs.Path.Congruence

/-! Merging and comparing respect equality. What a merge or a difference has under a key depends on
what the two documents have under it, and on nothing else of them, so alike documents have alike
merges and differences, whatever the order in which their entries are gone through. -/

namespace Dossier

namespace Value

variable {there there' : Option Value} {v v' : Value}

theorem bothDocuments_cases (hthere : Option.Rel Alike there there') (hv : v.Alike v') :
    (∃ mine mine' theirs theirs', there = some (document mine) ∧ there' = some (document mine') ∧
      v = document theirs ∧ v' = document theirs' ∧ mine.Alike mine' ∧ theirs.Alike theirs') ∨
    (¬ BothDocuments there v ∧ ¬ BothDocuments there' v') := by
  by_cases hboth : BothDocuments there v
  · obtain ⟨mine, theirs, rfl, rfl⟩ := hboth
    obtain ⟨u, rfl, hu⟩ := exists_of_rel hthere rfl
    obtain ⟨mine', rfl⟩ := hu.exists_document
    obtain ⟨theirs', rfl⟩ := hv.exists_document
    exact .inl ⟨mine, mine', theirs, theirs', rfl, rfl, rfl, rfl, hu, hv⟩
  · refine .inr ⟨hboth, ?_⟩
    rintro ⟨mine', theirs', rfl, rfl⟩
    obtain ⟨theirs, rfl⟩ := hv.symm.exists_document
    cases hthere with
    | some hu =>
      obtain ⟨mine, rfl⟩ := hu.symm.exists_document
      exact hboth ⟨mine, theirs, rfl, rfl⟩

end Value

/-! ### Merges -/

section Merge

variable {there there' : Option Value} {v v' : Value} {a a' b b' : Document}

/-- Documents into which a document can be merged alike. -/
def Document.MergesAlike (b : Document) : Prop :=
  ∀ ⦃a a' b' : Document⦄, a.Alike a' → b.Alike b' → (a.mergeDeep b).Alike (a'.mergeDeep b')

theorem Value.alike_mergeOnto (hthere : Option.Rel Alike there there') (hv : v.Alike v')
    (hnested : ∀ theirs, v = document theirs → theirs.MergesAlike) :
    (v.mergeOnto there).Alike (v'.mergeOnto there') := by
  rcases bothDocuments_cases hthere hv with
    ⟨mine, mine', theirs, theirs', rfl, rfl, rfl, rfl, hmine, htheirs⟩ | ⟨hnot, hnot'⟩
  · exact hnested theirs rfl hmine htheirs
  · rwa [mergeOnto_of_not_both hnot, mergeOnto_of_not_both hnot']

namespace Document

theorem mergesAlike (b : Document) : b.MergesAlike := by
  induction b using inductionOn with
  | nested b ih =>
    intro a a' b' ha hb
    refine (Value.alike_document (nodup_keys_mergeDeep ha.nodup_keys b)
      (nodup_keys_mergeDeep ha.symm.nodup_keys b')).mpr fun key => ?_
    have hthere := ha.get? key
    rw [get?_mergeDeep hb.nodup_keys, get?_mergeDeep hb.symm.nodup_keys]
    rcases rel_cases (hb.get? key) with ⟨hv, hv'⟩ | ⟨v, v', hv, hv', halike⟩
    · rwa [hv, hv']
    · rw [hv, hv']
      refine .some (Value.alike_mergeOnto hthere halike ?_)
      rintro theirs rfl
      exact ih key theirs (mem_entries_of_get? hv)

theorem get?_mergeShallow (a : Document) (hb : b.keys.Nodup) (key : String) :
    (a.mergeShallow b).get? key = (b.get? key).or (a.get? key) := by
  obtain ⟨es⟩ := b
  induction es generalizing a with
  | nil => rfl
  | cons e rest ih =>
    obtain ⟨k, v⟩ := e
    obtain ⟨hk, hrest⟩ := List.nodup_cons.mp hb
    have hstep : a.mergeShallow ⟨(k, v) :: rest⟩ = (a.insert k v).mergeShallow ⟨rest⟩ := rfl
    rw [hstep, ih _ hrest]
    by_cases h : k = key
    · subst h
      have hnone : (Document.mk rest).get? k = none := (Entries.get?_eq_none_iff k rest).mpr hk
      have hsome : (Document.mk ((k, v) :: rest)).get? k = some v := if_pos rfl
      rw [hnone, hsome, get?_insert_self]
      rfl
    · have hcons : (Document.mk ((k, v) :: rest)).get? key = (Document.mk rest).get? key :=
        if_neg h
      rw [hcons, get?_insert_of_ne h]

theorem alike_mergeShallow (ha : a.Alike a') (hb : b.Alike b') :
    (a.mergeShallow b).Alike (a'.mergeShallow b') := by
  have hkeys : (a.mergeShallow b).keys.Nodup := Entries.nodup_keys_insertAll ha.nodup_keys _
  have hkeys' : (a'.mergeShallow b').keys.Nodup :=
    Entries.nodup_keys_insertAll ha.symm.nodup_keys _
  refine (Value.alike_document hkeys hkeys').mpr fun key => ?_
  have hthere := ha.get? key
  rw [get?_mergeShallow a hb.nodup_keys, get?_mergeShallow a' hb.symm.nodup_keys]
  rcases rel_cases (hb.get? key) with ⟨hv, hv'⟩ | ⟨v, v', hv, hv', halike⟩
  · rwa [hv, hv']
  · rw [hv, hv']
    exact .some halike

end Document

end Merge

/-! ### Differences -/

section Difference

variable {there there' : Option Value} {v v' : Value} {a a' b b' : Document}

/-- Whether a value agrees with what is there is whether merging it in changes nothing, so it is the
same of alike values. -/
theorem Value.agrees_congr (hthere : Option.Rel Alike there there') (hv : v.Alike v') :
    agrees there v = agrees there' v' := by
  have hmerged := alike_mergeOnto hthere hv fun theirs _ => theirs.mergesAlike
  cases hthere with
  | none => rfl
  | @some u u' hu =>
    rw [Bool.eq_iff_iff, agrees_iff_rel (fun _ h => Option.some.inj h ▸ hu.wellFormed) hv.wellFormed,
      agrees_iff_rel (fun _ h => Option.some.inj h ▸ hu.wellFormed_right) hv.wellFormed_right,
      Option.rel_some_some, Option.rel_some_some]
    exact ⟨fun h => hmerged.symm.trans (h.trans hu), fun h => hmerged.trans (h.trans hu.symm)⟩

namespace Document

theorem alike_diff (ha : a.Alike a') (hb : b.Alike b') : (a.diff b).Alike (a'.diff b') := by
  induction b using inductionOn generalizing a a' b' with
  | nested b ih =>
    refine (Value.alike_document (a.nodup_keys_diff hb.nodup_keys)
      (a'.nodup_keys_diff hb.symm.nodup_keys)).mpr fun key => ?_
    have hthere := ha.get? key
    rw [get?_diff a hb.nodup_keys, get?_diff a' hb.symm.nodup_keys]
    rcases rel_cases (hb.get? key) with ⟨hv, hv'⟩ | ⟨v, v', hv, hv', halike⟩
    · rw [hv, hv']
      exact .none
    · rw [hv, hv', Option.bind_some, Option.bind_some, Value.patch, Value.patch,
        Value.agrees_congr hthere halike]
      split_ifs
      · exact .none
      · refine .some ?_
        rcases Value.bothDocuments_cases hthere halike with
          ⟨mine, mine', theirs, theirs', hmine, hmine', rfl, rfl, hu, htheirs⟩ | ⟨hnot, hnot'⟩
        · rw [hmine, hmine']
          exact ih key theirs (mem_entries_of_get? hv) hu htheirs
        · rwa [Value.differing_of_not_both hnot, Value.differing_of_not_both hnot']

end Document

end Difference

end Dossier
