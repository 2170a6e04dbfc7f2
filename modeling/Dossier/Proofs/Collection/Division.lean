import Dossier.Proofs.Collection.Projection
import Dossier.Proofs.Model.Merge
import Dossier.Proofs.Path.Removal

/-! Projecting and forgetting divide a document. Each value in it is kept by what is left, is moved
to what is projected, or is a document that both have and that is divided in turn. Each path that is
copied to one side and taken out of the other goes on with such a division, and merging the two
sides gives the document again. -/

namespace Dossier

namespace Value

/-- A value divided into what is left of it and what is moved away: one side has all of it, or it is
a document, both sides have one, and the value under each key is divided. -/
inductive Divided : Value → Option Value → Option Value → Prop
  | kept (v : Value) : Divided v (some v) none
  | moved (v : Value) : Divided v none (some v)
  | shared {d left moved : Document} (hleft : left.keys.Nodup) (hmoved : moved.keys.Nodup)
      (hnone : ∀ key, d.get? key = none → left.get? key = none ∧ moved.get? key = none)
      (hsome : ∀ key c, d.get? key = some c → Divided c (left.get? key) (moved.get? key)) :
      Divided (document d) (some (document left)) (some (document moved))

theorem divided_empty {d : Document} (hd : d.keys.Nodup) :
    Divided (document d) (some (document d)) (some (document .empty)) :=
  .shared hd List.nodup_nil (fun _ h => ⟨h, rfl⟩) fun _ c h => h ▸ .kept c

namespace Divided

variable {v w : Value} {left moved : Option Value} {segments : List String}

theorem portion_left (h : Divided v left moved) : Portion left v := by
  induction h with
  | kept v => exact .whole v
  | moved v => exact .nothing v
  | shared _ _ hnone _ ih => exact .made (fun key h => (hnone key h).1) ih

theorem wellFormed_left (h : Divided v left moved) (hv : v.WellFormed) :
    ∀ u, left = some u → u.WellFormed := by
  induction h with
  | kept v => exact fun u hu => Option.some.inj hu ▸ hv
  | moved v => exact nofun
  | @shared d left moved hleft _ hnone _ ih =>
    rintro _ ⟨⟩
    refine Document.wellFormed_iff_get?.mpr ⟨hleft, fun key u hu => ?_⟩
    cases hd : d.get? key with
    | none =>
      rw [(hnone key hd).1] at hu
      cases hu
    | some c => exact ih key c hd (Document.WellFormed.get? hv hd) u hu

theorem rel_merged (h : Divided v left moved) (hv : v.WellFormed) :
    Option.Rel Alike ((moved.map fun u => u.mergeOnto left).or left) (some v) := by
  induction h with
  | kept v => exact .some (.refl hv)
  | moved v =>
    rw [Option.map_some, mergeOnto_of_not_both (by rintro ⟨_, _, ⟨⟩, -⟩)]
    exact .some (.refl hv)
  | @shared d left moved hleft hmoved hnone _ ih =>
    refine .some ((alike_document (Document.nodup_keys_mergeDeep hleft moved)
      (Document.WellFormed.nodup_keys hv)).mpr fun key => ?_)
    rw [Document.get?_mergeDeep hmoved]
    cases hd : d.get? key with
    | none =>
      rw [(hnone key hd).1, (hnone key hd).2]
      exact .none
    | some c => exact ih key c hd (Document.WellFormed.get? hv hd)

theorem equal_mergeDeep {d l m : Document}
    (h : Divided (document d) (some (document l)) (some (document m))) (hd : d.WellFormed) :
    (l.mergeDeep m).equal d = true := by
  have halike : (document (l.mergeDeep m)).Alike (document d) :=
    Option.rel_some_some.mp (h.rel_merged hd)
  rw [← equal_documents]
  exact halike.equal

/-- A document of which something is left is divided between two documents: where nothing has been
moved yet, what is written makes the second one. -/
theorem exists_shared {d : Document} (h : Divided (document d) left moved) (hd : d.keys.Nodup) :
    (left = none ∧ moved = some (document d)) ∨
    ∃ l m, Divided (document d) (some (document l)) (some (document m)) ∧ left = some (document l) ∧
      ∀ segment rest new, (moved.getD .null).write (segment :: rest) new =
        document (m.insert segment (((m.get? segment).getD .null).write rest new)) := by
  cases h with
  | kept => exact .inr ⟨d, .empty, divided_empty hd, rfl, fun _ _ _ => rfl⟩
  | moved => exact .inl ⟨rfl, rfl⟩
  | @shared _ l m hl hm hnone hsome =>
    exact .inr ⟨l, m, .shared hl hm hnone hsome, rfl, fun _ _ _ => rfl⟩

/-- A divided document of which the value under one key is divided in another way. -/
theorem change {d l m l' m' : Document}
    (h : Divided (document d) (some (document l)) (some (document m))) {key : String} {c : Value}
    (hget : d.get? key = some c) (hl' : l'.keys.Nodup) (hm' : m'.keys.Nodup)
    (hkey : Divided c (l'.get? key) (m'.get? key))
    (hothers : ∀ other, key ≠ other →
      l'.get? other = l.get? other ∧ m'.get? other = m.get? other) :
    Divided (document d) (some (document l')) (some (document m')) := by
  obtain ⟨⟩ | ⟨⟩ | ⟨-, -, hnone, hsome⟩ := h
  refine .shared hl' hm' (fun other hother => ?_) fun other x hx => ?_
  · have hne : key ≠ other := by
      rintro rfl
      rw [hget] at hother
      cases hother
    rw [(hothers other hne).1, (hothers other hne).2]
    exact hnone other hother
  · by_cases hother : key = other
    · subst hother
      obtain rfl := Option.some.inj (hget.symm.trans hx)
      exact hkey
    · rw [(hothers other hother).1, (hothers other hother).2]
      exact hsome other x hx

/-- What segments lead to is taken out of the one side and written to the other. -/
theorem move (h : Divided v left moved) (hv : v.WellFormed) (hw : v.follow? segments = some w)
    (harrays : ¬ v.EntersArray segments) :
    Divided v (left.bind (·.remainder? segments)) (some ((moved.getD .null).write segments w)) := by
  -- At the end of the segments the other side gets the whole value, whatever it had of it.
  induction segments generalizing v left moved with
  | nil =>
    obtain rfl := Option.some.inj hw
    cases left <;> exact .moved v
  | cons segment rest ih =>
    obtain ⟨c, hc, hrest⟩ := Option.bind_eq_some_iff.mp hw
    obtain ⟨⟨d, rfl, hget⟩, hbelow⟩ := exists_document_of_child? hc harrays
    rcases h.exists_shared (Document.WellFormed.nodup_keys hv) with
      ⟨rfl, rfl⟩ | ⟨l, m, hshared, rfl, hwrite⟩
    · rw [Option.bind_none, Option.getD_some, write_of_follow? hw]
      exact .moved (document d)
    · have hinner := hshared
      obtain ⟨⟩ | ⟨⟩ | ⟨hl, hm, -, hsome⟩ := hinner
      obtain ⟨e, he, hkeys, hsegment, hothers⟩ := exists_remainder?_document hl segment rest
      rw [Option.bind_some, he, hwrite]
      refine hshared.change hget hkeys (Entries.nodup_keys_insert hm segment _) ?_ ?_
      · rw [hsegment, Document.get?_insert_self]
        exact ih (hsome segment c hget) (Document.WellFormed.get? hv hget) hrest hbelow
      · intro other hne
        exact ⟨hothers other hne, Document.get?_insert_of_ne hne m _⟩

end Divided

end Value

namespace PathSyntax

variable {s : PathSyntax} {d left moved : Document} {path : String}

theorem divided_path
    (h : Value.Divided (.document d) (some (.document left)) (some (.document moved)))
    (hd : d.WellFormed) (harrays : ¬ (Value.document d).EntersArray (s.split path)) :
    Value.Divided (.document d) (some (.document (s.unset left path).2))
      (some (.document (s.copy d moved path))) := by
  cases hget : s.get? d path with
  | none =>
    rwa [copy_of_get?_eq_none hget,
      unset_of_get?_eq_none (get?_eq_none_of_portion h.portion_left hget)]
  | some v =>
    have hmove := h.move hd (follow?_of_get? hget) harrays
    rwa [Option.bind_some, s.document_unset left (ne_empty_of_get? hget), Option.getD_some,
      ← document_copy hget] at hmove

end PathSyntax

namespace Collection

open PathSyntax

variable {s : PathSyntax} {d left moved : Document} {paths : List String}

theorem divided_paths
    (h : Value.Divided (.document d) (some (.document left)) (some (.document moved)))
    (hd : d.WellFormed)
    (harrays : ∀ path ∈ paths, ¬ (Value.document d).EntersArray (s.split path)) :
    Value.Divided (.document d) (some (.document (forgetPaths s left paths)))
      (some (.document (paths.foldl (s.copy d) moved))) := by
  induction paths generalizing left moved with
  | nil => exact h
  | cons path paths ih =>
    rw [List.forall_mem_cons] at harrays
    exact ih (divided_path h hd harrays.1) harrays.2

theorem get?_forgetPaths (hd : d.WellFormed)
    (harrays : ∀ path ∈ paths, ¬ (Value.document d).EntersArray (s.split path)) :
    ∀ path ∈ paths, s.get? (forgetPaths s d paths) path = none := by
  induction paths generalizing d with
  | nil => nofun
  | cons path paths ih =>
    rw [List.forall_mem_cons] at harrays ⊢
    -- What the first path leaves is divided by the others, so nothing comes back.
    have hfirst := divided_path (Value.divided_empty hd.nodup_keys) hd harrays.1
    have hwell : (s.unset d path).2.WellFormed := hfirst.wellFormed_left hd _ rfl
    have hrest : ∀ other ∈ paths,
        ¬ (Value.document (s.unset d path).2).EntersArray (s.split other) :=
      fun other hother henters =>
        harrays.2 other hother (hfirst.portion_left.entersArray rfl henters)
    have hothers := divided_paths (Value.divided_empty hwell.nodup_keys) hwell hrest
    refine ⟨?_, ih hwell hrest⟩
    exact get?_eq_none_of_portion hothers.portion_left (get?_unset hd harrays.1)

variable {μ : Type}

theorem getElem?_only {c projected : Collection μ} (h : c.only paths = .ok projected) {i : Nat}
    (hi : c.items[i]? = some (.document d)) :
    ∃ p, projectDocument c.context.paths d paths = .ok p ∧
      projected.items[i]? = some (.document p) := by
  rw [only_eq] at h
  rcases mapM_cases (projectItem c.context.paths paths) c.items with
    ⟨item, -, e, -, heq⟩ | ⟨items, heq, hall⟩
  · rw [heq] at h
    cases h
  · rw [heq] at h
    cases h
    obtain ⟨v, hv, hitem⟩ := exists_of_rel (rel_getElem? hall i) hi
    obtain ⟨p, hp, rfl⟩ := exists_of_projectItem hitem
    exact ⟨p, hp, hv⟩

/-- Nothing is lost between projecting to paths and forgetting them, if no path enters an array: in
place of each document the one collection has what is projected and the other what is left, of which
the first merged into the second is equal to the document. In what is left none of the paths leads
anywhere. -/
theorem only_forget_divide {c projected : Collection μ} (h : c.only paths = .ok projected) {i : Nat}
    (hi : c.items[i]? = some (.document d)) (hd : d.WellFormed)
    (harrays : ∀ path ∈ paths,
      ¬ (Value.document d).EntersArray (c.context.paths.split path)) :
    ∃ p left, projected.items[i]? = some (.document p) ∧
      (c.forget paths).items[i]? = some (.document left) ∧
      (left.mergeDeep p).equal d = true ∧
      ∀ path ∈ paths, c.context.paths.get? left path = none := by
  obtain ⟨p, hp, hprojected⟩ := getElem?_only h hi
  obtain ⟨rfl, -⟩ := projectDocument_eq_ok hp
  have hdivided := divided_paths (Value.divided_empty hd.nodup_keys) hd harrays
  refine ⟨_, forgetPaths c.context.paths d paths, hprojected, ?_, hdivided.equal_mergeDeep hd,
    get?_forgetPaths hd harrays⟩
  rw [forget, collect, List.getElem?_map, hi]
  rfl

/-- A nested document emptied from below, one that is taken apart and then as a whole, an array that
is taken as a whole and in which a path leads nowhere, and a path that ends before its last
segment. -/
theorem only_forget_divide_nested :
    let s : PathSyntax := {}
    let e : Document := ⟨[("y", .null)]⟩
    let b : Document := ⟨[("x", .signed 1), ("y", .signed 2)]⟩
    let d : Document := ⟨[("a", .document ⟨[("x", .document e), ("n", .double .nan)]⟩),
      ("b", .document b), ("l", .array [.bool true]), ("k", .string "")]⟩
    let p : Document := ⟨[("l", .array [.bool true]), ("a", .document ⟨[("x", .document e)]⟩),
      ("b", .document b)]⟩
    let left : Document := ⟨[("a", .document ⟨[("x", .document .empty), ("n", .double .nan)]⟩),
      ("k", .string "")]⟩
    let c : Collection Unit := .new .standard [.null, .document d]
    let paths := ["l.1", "l", "a.x.y", "b.y", "b", "b.x", "k.x"]
    c.only paths = .ok (c.collect [.null, .document p]) ∧
      (c.forget paths).items[1]? = some (.document left) ∧
      (left.mergeDeep p).equal d = true ∧ ∀ path ∈ paths, s.get? left path = none := by
  intro s e b d p left c paths
  have honly : c.only paths = .ok (c.collect [.null, .document p]) := by cbv
  have hforget : (c.forget paths).items[1]? = some (.document left) := by cbv
  have he : e.WellFormed := ⟨by decide, trivial, trivial⟩
  have hb : b.WellFormed := ⟨by decide, trivial, trivial, trivial⟩
  have hd : d.WellFormed :=
    ⟨by decide, ⟨by decide, he, trivial, trivial⟩, hb, ⟨trivial, trivial⟩, trivial, trivial⟩
  have harrays : ∀ path ∈ paths,
      ¬ (Value.document d).EntersArray (c.context.paths.split path) := by decide
  obtain ⟨_, _, hp, hleft, hmerged, hnone⟩ := only_forget_divide honly (i := 1) rfl hd harrays
  rw [hforget] at hleft
  cases hp
  cases hleft
  exact ⟨honly, hforget, hmerged, hnone⟩

end Collection

end Dossier
