import Dossier.Proofs.Path.Portion
import Dossier.Proofs.Value.Lookup

/-! What taking out leaves behind. Along documents the rest is known key by key: under each key on
the way is what is left of the value there, and under the last one nothing. So the segments lead
nowhere afterwards, unless they enter an array, where the items behind move down. -/

namespace Dossier

namespace Document

theorem get?_erase_self {d : Document} (hd : d.keys.Nodup) (key : String) :
    (d.erase key).get? key = none := Entries.get?_erase_self hd key

theorem get?_erase_of_ne {k key : String} (h : k ≠ key) (d : Document) :
    (d.erase k).get? key = d.get? key := Entries.get?_erase_of_ne h d.entries

end Document

namespace Value

/-- What is left of a value when what segments lead to is taken out: nothing where there is no
segment, and the value as it is where they lead nowhere. -/
def remainder? (v : Value) : List String → Option Value
  | [] => none
  | segment :: rest =>
    match v.child? segment with
    | some c => some ((c.remainder? rest).elim (v.dropChild segment) (v.setChild segment))
    | none => some v

variable {v c : Value} {segment : String} {segments rest : List String}

theorem remainder?_of_child? (h : v.child? segment = some c) :
    v.remainder? (segment :: rest) =
      some ((c.remainder? rest).elim (v.dropChild segment) (v.setChild segment)) := by
  rw [remainder?, h]

theorem remainder?_of_child?_eq_none (h : v.child? segment = none) :
    v.remainder? (segment :: rest) = some v := by
  rw [remainder?, h]

theorem remainder?_of_follow?_eq_none (h : v.follow? segments = none) :
    v.remainder? segments = some v := by
  induction segments generalizing v with
  | nil => cases h
  | cons segment rest ih =>
    cases hc : v.child? segment with
    | none => exact remainder?_of_child?_eq_none hc
    | some c =>
      rw [follow?, hc] at h
      rw [remainder?_of_child? hc, ih h, Option.elim_some, setChild_of_child? hc]

theorem remove?_cons_cons (v : Value) (segment next : String) (rest : List String) :
    v.remove? (segment :: next :: rest) =
      (v.child? segment).bind fun c =>
        (c.remove? (next :: rest)).map fun (old, c) => (old, v.setChild segment c) := by
  rw [remove?]
  · cases v.child? segment with
    | none => rfl
    | some c => cases h : c.remove? (next :: rest) <;> simp [h]
  · nofun

theorem fst_remove? (v : Value) (hne : segments ≠ []) :
    (v.remove? segments).map Prod.fst = v.follow? segments := by
  induction segments generalizing v with
  | nil => exact absurd rfl hne
  | cons segment rest ih =>
    rw [follow?]
    cases rest with
    | nil => cases hc : v.child? segment <;> simp [remove?, hc, follow?]
    | cons next rest =>
      rw [remove?_cons_cons]
      cases v.child? segment with
      | none => rfl
      | some c =>
        rw [Option.bind_some, Option.bind_some, ← ih c (List.cons_ne_nil next rest),
          Option.map_map]
        rfl

/-- Taking out leaves the remainder, or the value as it is if nothing is there. -/
theorem remainder?_eq (v : Value) (hne : segments ≠ []) :
    v.remainder? segments = some (((v.remove? segments).map Prod.snd).getD v) := by
  induction segments generalizing v with
  | nil => exact absurd rfl hne
  | cons segment rest ih =>
    cases rest with
    | nil => cases hc : v.child? segment <;> simp [remainder?, remove?, hc]
    | cons next rest =>
      rw [remove?_cons_cons]
      cases hc : v.child? segment with
      | none => rw [remainder?_of_child?_eq_none hc]; rfl
      | some c =>
        rw [remainder?_of_child? hc, ih c (List.cons_ne_nil next rest), Option.bind_some]
        cases c.remove? (next :: rest) with
        | none => exact congrArg some (setChild_of_child? hc)
        | some old => rfl

/-! ### In documents -/

/-- What is left of a document: what is left of the value under the first key, and all under the
others. -/
theorem exists_remainder?_document {d : Document} (hd : d.keys.Nodup) (segment : String)
    (rest : List String) :
    ∃ e, (document d).remainder? (segment :: rest) = some (document e) ∧ e.keys.Nodup ∧
      e.get? segment = (d.get? segment).bind (·.remainder? rest) ∧
      ∀ key, segment ≠ key → e.get? key = d.get? key := by
  cases hc : d.get? segment with
  | none => exact ⟨d, remainder?_of_child?_eq_none hc, hd, hc, fun _ _ => rfl⟩
  | some c =>
    rw [remainder?_of_child? (v := document d) hc, Option.bind_some]
    cases c.remainder? rest with
    | none =>
      exact ⟨d.erase segment, rfl, Entries.nodup_keys_erase hd segment,
        Document.get?_erase_self hd segment, fun key hne => Document.get?_erase_of_ne hne d⟩
    | some x =>
      exact ⟨d.insert segment x, rfl, Entries.nodup_keys_insert hd segment x,
        Document.get?_insert_self d segment x, fun key hne => Document.get?_insert_of_ne hne d x⟩

theorem exists_document_of_remove? {d : Document} {old : Value}
    (h : (document d).remove? segments = some (old, v)) : ∃ e, v = document e := by
  match segments with
  | [] => cases h
  | [segment] =>
    obtain ⟨_, -, ⟨⟩⟩ := Option.map_eq_some_iff.mp h
    exact ⟨d.erase segment, rfl⟩
  | segment :: next :: rest =>
    rw [remove?_cons_cons] at h
    obtain ⟨c, -, hc⟩ := Option.bind_eq_some_iff.mp h
    obtain ⟨⟨_, x⟩, -, ⟨⟩⟩ := Option.map_eq_some_iff.mp hc
    exact ⟨d.insert segment x, rfl⟩

/-- Whether segments lead to an item of an array, or through one. -/
def EntersArray (v : Value) : List String → Prop
  | [] => False
  | segment :: rest =>
    ∃ c, v.child? segment = some c ∧ (v.kind = .array ∨ c.EntersArray rest)

instance decidableEntersArray (v : Value) :
    (segments : List String) → Decidable (v.EntersArray segments)
  | [] => isFalse id
  | segment :: rest =>
    match h : v.child? segment with
    | none => isFalse fun ⟨_, hc, _⟩ => nomatch h.symm.trans hc
    | some c =>
      have := decidableEntersArray c rest
      decidable_of_iff (v.kind = .array ∨ c.EntersArray rest)
        ⟨fun hor => ⟨c, h, hor⟩, fun ⟨_, hc, hor⟩ => Option.some.inj (h.symm.trans hc) ▸ hor⟩

/-- Segments that enter no array go from a document to the values under its keys. -/
theorem exists_document_of_child? (hc : v.child? segment = some c)
    (h : ¬ v.EntersArray (segment :: rest)) :
    (∃ d, v = document d ∧ d.get? segment = some c) ∧ ¬ c.EntersArray rest := by
  have hkind : v.kind ≠ .array := fun hkind => h ⟨c, hc, .inl hkind⟩
  refine ⟨?_, fun hrest => h ⟨c, hc, .inr hrest⟩⟩
  cases v with
  | document d => exact ⟨d, rfl, hc⟩
  | array xs => exact absurd rfl hkind
  | _ => cases hc

theorem Portion.entersArray {there : Option Value} (h : Portion there v) {p : Value}
    (hp : there = some p) (henters : p.EntersArray segments) : v.EntersArray segments := by
  induction segments generalizing there v p with
  | nil => exact henters
  | cons segment rest ih =>
    cases h with
    | nothing => cases hp
    | whole => exact Option.some.inj hp ▸ henters
    | @made _ d hnone hsome =>
      obtain rfl := Option.some.inj hp
      obtain ⟨c, hc, hkind | hrest⟩ := henters
      · cases hkind
      · cases hu : v.child? segment with
        | none =>
          rw [child?_document, hnone segment hu] at hc
          cases hc
        | some u => exact ⟨u, hu, .inr (ih (hsome segment u hu) hc hrest)⟩

/-- What was taken out is not there any more. -/
theorem follow?_remainder? (hv : v.WellFormed) (h : ¬ v.EntersArray segments) :
    (v.remainder? segments).bind (·.follow? segments) = none := by
  induction segments generalizing v with
  | nil => rfl
  | cons segment rest ih =>
    cases hc : v.child? segment with
    | none => rw [remainder?_of_child?_eq_none hc, Option.bind_some, follow?, hc, Option.bind_none]
    | some c =>
      obtain ⟨⟨d, rfl, hget⟩, hrest⟩ := exists_document_of_child? hc h
      obtain ⟨e, he, -, hkey, -⟩ :=
        exists_remainder?_document (Document.WellFormed.nodup_keys hv) segment rest
      rw [he, Option.bind_some, follow?, child?_document, hkey, hget, Option.bind_some]
      exact ih (Document.WellFormed.get? hv hget) hrest

end Value

namespace PathSyntax

variable {s : PathSyntax} {d : Document} {path : String}

/-- Taking out what is at a path leaves the remainder of the document. -/
theorem document_unset (s : PathSyntax) (d : Document) (hp : path ≠ "") :
    (Value.document d).remainder? (s.split path) = some (.document (s.unset d path).2) := by
  rw [Value.remainder?_eq _ (s.split_ne_nil path), unset, if_neg hp]
  cases h : (Value.document d).remove? (s.split path) with
  | none => rfl
  | some taken =>
    obtain ⟨old, v⟩ := taken
    obtain ⟨e, rfl⟩ := Value.exists_document_of_remove? h
    rfl

theorem fst_unset (s : PathSyntax) (d : Document) (path : String) :
    (s.unset d path).1 = s.get? d path := by
  by_cases hp : path = ""
  · rw [unset, if_pos hp, hp]
    rfl
  · rw [get?_of_ne hp, ← Value.fst_remove? _ (s.split_ne_nil path), unset, if_neg hp]
    cases h : (Value.document d).remove? (s.split path) with
    | none => rfl
    | some taken =>
      obtain ⟨old, v⟩ := taken
      obtain ⟨e, rfl⟩ := Value.exists_document_of_remove? h
      rfl

theorem unset_of_get?_eq_none (h : s.get? d path = none) : (s.unset d path).2 = d := by
  by_cases hp : path = ""
  · rw [unset, if_pos hp]
  · rw [get?_of_ne hp] at h
    have hremainder := s.document_unset d hp
    rw [Value.remainder?_of_follow?_eq_none h] at hremainder
    exact (Value.document.inj (Option.some.inj hremainder)).symm

theorem get?_unset (hd : d.WellFormed) (h : ¬ (Value.document d).EntersArray (s.split path)) :
    s.get? (s.unset d path).2 path = none := by
  by_cases hp : path = ""
  · rw [hp]
    rfl
  · have hnone := Value.follow?_remainder? (v := .document d) hd h
    rwa [s.document_unset d hp, Option.bind_some, ← get?_of_ne hp] at hnone

end PathSyntax

end Dossier
