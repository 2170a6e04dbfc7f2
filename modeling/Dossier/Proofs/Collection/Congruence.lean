import Dossier.Proofs.Collection.Projection
import Dossier.Proofs.Model.Congruence

/-! What is done to documents respects equality. A transform goes through entries in the order in
which they came and looks at the very variants that it finds; yet of documents that are equal it
makes documents that are equal, and is refused for both or for neither. -/

namespace Dossier

namespace Collection

variable {s : PathSyntax} {d e : Document}

/-! ### Projecting and forgetting -/

theorem sameEnd_projectDocument (h : d.Alike e) (s : PathSyntax) (paths : List String) :
    SameEnd Document.Alike (projectDocument s d paths) (projectDocument s e paths) := by
  refine SameEnd.foldlM (fun p q path hpq => ?_) paths Value.Alike.empty
  rcases rel_cases (PathSyntax.rel_get? h s path) with ⟨hd, he⟩ | ⟨v, w, hd, he, hv⟩
  · simp only [hd, he]
    exact .give hpq
  · simp only [hd, he]
    exact PathSyntax.sameEnd_set hpq s path hv

theorem alike_forgetPaths (h : d.Alike e) (s : PathSyntax) (paths : List String) :
    (forgetPaths s d paths).Alike (forgetPaths s e paths) := by
  induction paths generalizing d e with
  | nil => exact h
  | cons path paths ih => exact ih (PathSyntax.alike_unset h s path)

theorem sameEnd_projectItem {x y : Value} (h : x.Alike y) (s : PathSyntax) (paths : List String) :
    SameEnd Value.Alike (projectItem s paths x) (projectItem s paths y) := by
  by_cases hx : x.kind = .document
  · obtain ⟨d, rfl⟩ := Value.exists_of_kind_document hx
    obtain ⟨e, rfl⟩ := h.exists_document
    exact (sameEnd_projectDocument h s paths).bind fun _ _ hpq => .give hpq
  · have hy : y.kind ≠ .document := h.kind_eq ▸ hx
    rw [projectItem_of_kind_ne hx, projectItem_of_kind_ne hy]
    exact .give h

def forgetItem (s : PathSyntax) (paths : List String) : Value → Value
  | .document d => .document (forgetPaths s d paths)
  | item => item

theorem forgetItem_of_kind_ne {item : Value} (h : item.kind ≠ .document) (s : PathSyntax)
    (paths : List String) : forgetItem s paths item = item := by
  cases item with
  | document d => exact absurd rfl h
  | _ => rfl

theorem alike_forgetItem {x y : Value} (h : x.Alike y) (s : PathSyntax) (paths : List String) :
    (forgetItem s paths x).Alike (forgetItem s paths y) := by
  by_cases hx : x.kind = .document
  · obtain ⟨d, rfl⟩ := Value.exists_of_kind_document hx
    obtain ⟨e, rfl⟩ := h.exists_document
    exact alike_forgetPaths h s paths
  · have hy : y.kind ≠ .document := h.kind_eq ▸ hx
    rwa [forgetItem_of_kind_ne hx, forgetItem_of_kind_ne hy]

variable {μ : Type}

theorem items_forget (c : Collection μ) (paths : List String) :
    (c.forget paths).items = c.items.map (forgetItem c.context.paths paths) := rfl

def Alike (c c' : Collection μ) : Prop := List.Forall₂ Value.Alike c.items c'.items

variable {c c' : Collection μ}

theorem Alike.sameEnd_only (h : c.Alike c') (hcontext : c.context = c'.context) (paths : List String) :
    SameEnd Alike (c.only paths) (c'.only paths) := by
  have hitems := SameEnd.mapM h fun _ _ hxy => sameEnd_projectItem hxy c.context.paths paths
  rw [only_eq, only_eq, ← hcontext]
  exact hitems.bind fun _ _ hprojected => .give hprojected

theorem Alike.forget (h : c.Alike c') (hcontext : c.context = c'.context) (paths : List String) :
    (c.forget paths).Alike (c'.forget paths) := by
  rw [Alike, items_forget, items_forget, ← hcontext, List.forall₂_map_left_iff,
    List.forall₂_map_right_iff]
  exact h.imp fun _ _ hxy => alike_forgetItem hxy c.context.paths paths

end Collection

/-- What is done to documents respects equality. Of documents that are equal, whatever the order of
their keys and the kinds of their numbers at any depth, a path reads equal values or nothing in both
and takes out equal values, leaving equal documents; equal values are written to both, or refused
for the same reason. Two pairs of equal documents have equal merges, deep and shallow, and equal
differences. Collections of equal items are projected to equal items or refused for the same reason,
and what is forgotten leaves equal items. -/
theorem equal_documents_transform_alike {a a' b b' : Document} (ha : a.Alike a') (hb : b.Alike b')
    {v v' : Value} (hv : v.Alike v') (s : PathSyntax) (path : String) {μ : Type}
    (context : Context μ) {xs ys : List Value} (hitems : List.Forall₂ Value.Alike xs ys)
    (paths : List String) :
    (Option.Rel Value.Alike (s.get? a path) (s.get? a' path) ∧ s.has a path = s.has a' path) ∧
    (Option.Rel Value.Alike (s.unset a path).1 (s.unset a' path).1 ∧
      (s.unset a path).2.Alike (s.unset a' path).2) ∧
    SameEnd Document.Alike (s.set a path v) (s.set a' path v') ∧
    ((a.mergeDeep b).Alike (a'.mergeDeep b') ∧ (a.mergeShallow b).Alike (a'.mergeShallow b') ∧
      (a.diff b).Alike (a'.diff b')) ∧
    SameEnd Collection.Alike (Collection.only ⟨xs, context⟩ paths)
      (Collection.only ⟨ys, context⟩ paths) ∧
    (Collection.forget ⟨xs, context⟩ paths).Alike (Collection.forget ⟨ys, context⟩ paths) := by
  have hget := PathSyntax.rel_get? ha s path
  have hcollections : (Collection.mk xs context).Alike (.mk ys context) := hitems
  refine ⟨⟨hget, isSome_eq_of_rel hget⟩, ⟨?_, PathSyntax.alike_unset ha s path⟩,
    PathSyntax.sameEnd_set ha s path hv, ⟨b.mergesAlike ha hb, Document.alike_mergeShallow ha hb,
    Document.alike_diff ha hb⟩, ?_, ?_⟩
  · rwa [PathSyntax.fst_unset, PathSyntax.fst_unset]
  · exact hcollections.sameEnd_only rfl paths
  · exact hcollections.forget rfl paths

/-- Keys in other orders and numbers of other kinds, inside an array too. A path spells a position
in its own way, a document gives way to a number, and a path with an empty segment is refused for
both. -/
theorem equal_documents_transform_alike_reordered :
    let s : PathSyntax := {}
    let context : Context Unit := .new .standard
    let one : Value := .double ⟨0x3ff0000000000000⟩
    let a : Document := ⟨[("l", .array [.document ⟨[("x", .null), ("", .signed 1)]⟩, .signed 1]),
      ("d", .document ⟨[("x", .signed 1), ("y", .signed 2)]⟩)]⟩
    let a' : Document := ⟨[("d", .document ⟨[("y", .unsigned 2), ("x", one)]⟩),
      ("l", .array [.document ⟨[("", one), ("x", .null)]⟩, .unsigned 1])]⟩
    let b : Document := ⟨[("d", .document ⟨[("z", .null), ("x", .unsigned 1)]⟩), ("l", .signed 1)]⟩
    let b' : Document := ⟨[("l", one), ("d", .document ⟨[("x", .signed 1), ("z", .null)]⟩)]⟩
    let left : Document := ⟨[("l", .array [.document ⟨[("x", .null), ("", .signed 1)]⟩]),
      ("d", .document ⟨[("x", .signed 1), ("y", .signed 2)]⟩)]⟩
    (s.unset a "l.+1" = (some (.signed 1), left) ∧ (s.unset a' "l.+1").2.Alike left) ∧
      (∃ d d', s.set a "l.+1" .null = .ok d ∧ s.set a' "l.+1" .null = .ok d' ∧ d.Alike d') ∧
      (a.diff b = ⟨[("d", .document ⟨[("z", .null)]⟩), ("l", .signed 1)]⟩ ∧
        (a.diff b).Alike (a'.diff b') ∧ (a.mergeDeep b).Alike (a'.mergeDeep b')) ∧
      ∃ e, Collection.only ⟨[.null, .document a], context⟩ ["d.x", "l.0."] = .error e ∧
        Collection.only ⟨[.null, .document a'], context⟩ ["d.x", "l.0."] = .error e := by
  intro s context one a a' b b' left
  have ha : a.Alike a' := ⟨⟨by decide, ⟨⟨by decide, trivial, trivial, trivial⟩, trivial, trivial⟩,
    ⟨by decide, trivial, trivial, trivial⟩, trivial⟩, by decide +kernel⟩
  have hb : b.Alike b' := ⟨⟨by decide, ⟨by decide, trivial, trivial, trivial⟩, trivial, trivial⟩,
    by decide +kernel⟩
  have hitems : List.Forall₂ Value.Alike [.null, .document a] [.null, .document a'] :=
    .cons .null (.cons ha .nil)
  obtain ⟨-, ⟨-, hunset⟩, hset, ⟨hmerged, -, hdiff⟩, honly, -⟩ :=
    equal_documents_transform_alike ha hb .null s "l.+1" context hitems ["d.x", "l.0."]
  have hleft : s.unset a "l.+1" = (some (.signed 1), left) := by cbv
  have hrefused : Collection.only ⟨[.null, .document a], context⟩ ["d.x", "l.0."] =
      .error (.emptySegment "l.0.") := by cbv
  have hwritten : s.set a "l.+1" .null = .ok (PathSyntax.writeDocument a ["l", "+1"] .null) := by
    cbv
  refine ⟨⟨hleft, ?_⟩, ?_, ⟨by cbv, hdiff, hmerged⟩, ?_⟩
  · rw [hleft] at hunset
    exact hunset.symm
  · rw [hwritten] at hset
    generalize s.set a' "l.+1" .null = r at hset
    cases hset with
    | give h => exact ⟨_, _, hwritten, rfl, h⟩
  · rw [hrefused] at honly
    generalize Collection.only ⟨[.null, .document a'], context⟩ ["d.x", "l.0."] = r at honly
    cases honly
    exact ⟨_, hrefused, rfl⟩

end Dossier
