import Dossier.Collection.Reshape
import Dossier.Model.Transform
import Dossier.Proofs.Path.Pruning

/-! Forgetting paths one after the other. Each path is read in what those before it have left. That
comes to the same as taking out at once all that the paths lead to, as long as no path takes an item
out of an array that a later one enters at that item or behind it; so the order matters for items of
arrays only, and going from the last item to the first is always safe. -/

namespace Dossier

namespace PathSyntax

def rows (s : PathSyntax) (paths : List String) : List (List String) :=
  (paths.filter (· ≠ "")).map s.split

/-- Whether no path, in this order, shifts one that comes later. -/
def Steady (s : PathSyntax) (d : Document) (paths : List String) : Prop :=
  paths.Pairwise fun path later =>
    (Value.document d).shifts (s.split path) (s.split later) = false

instance (s : PathSyntax) (d : Document) (paths : List String) : Decidable (s.Steady d paths) :=
  inferInstanceAs (Decidable (List.Pairwise _ paths))

variable {s : PathSyntax} {d : Document} {path : String} {paths : List String}

theorem mem_rows {row : List String} :
    row ∈ s.rows paths ↔ ∃ path ∈ paths, path ≠ "" ∧ s.split path = row := by
  simp [rows, and_assoc]

theorem rows_append (s : PathSyntax) (paths more : List String) :
    s.rows (paths ++ more) = s.rows paths ++ s.rows more := by
  simp [rows]

theorem unset_eq_prune (hd : d.WellFormed) (path : String) :
    (s.unset d path).2 = d.prune (s.rows [path]) := by
  by_cases hp : path = ""
  · have hsame := Value.prune_nil (.document d)
    rw [unset, if_pos hp, rows, List.filter_cons_of_neg (by simpa using hp)]
    exact (Value.document.inj hsame).symm
  · have hleft := s.document_unset d hp
    rw [Value.remainder?_eq_pruned? (v := .document d) hd, Value.pruned?_eq_some_iff] at hleft
    rw [rows, List.filter_cons_of_pos (by simpa using hp)]
    exact (Value.document.inj hleft.2).symm

end PathSyntax

open PathSyntax

namespace Collection

variable {s : PathSyntax} {d : Document} {paths : List String}

/-- Paths taken out one after the other, of which none shifts a later one. -/
theorem forgetPaths_eq_prune (hd : d.WellFormed) (h : s.Steady d paths) :
    forgetPaths s d paths = d.prune (s.rows paths) := by
  induction paths using List.reverseRecOn with
  | nil => exact (Value.document.inj (Value.prune_nil (.document d))).symm
  | append_singleton paths path ih =>
    obtain ⟨hbefore, -, hlast⟩ := List.pairwise_append.mp h
    have hleft : (d.prune (s.rows paths)).WellFormed :=
      Value.wellFormed_prune (v := .document d) hd _
    have hstay : ∀ row ∈ s.rows paths, ∀ other ∈ s.rows [path],
        (Value.document d).shifts row other = false := by
      intro row hrow other hother
      obtain ⟨earlier, hearlier, -, rfl⟩ := mem_rows.mp hrow
      obtain ⟨later, hlater, -, rfl⟩ := mem_rows.mp hother
      exact hlast earlier hearlier later hlater
    have hstep := Value.prune_prune (v := .document d) hd hstay
    calc forgetPaths s d (paths ++ [path])
        = (s.unset (forgetPaths s d paths) path).2 := List.foldl_concat ..
      _ = (d.prune (s.rows paths)).prune (s.rows [path]) := by rw [ih hbefore, unset_eq_prune hleft]
      _ = d.prune (s.rows paths ++ s.rows [path]) := Value.document.inj hstep
      _ = d.prune (s.rows (paths ++ [path])) := by rw [rows_append]

end Collection

/-- Paths are forgotten at once. Whatever the order in which the same paths are named, and however
often, what is left is the document without all that they lead to in it, in a model as in place of
each document of a collection, as long as none of them shifts one that is named later. Paths that
lead to no item of an array shift nothing, so they may be named in any order. -/
theorem paths_forgotten_at_once {μ : Type} (context : Context μ) {d : Document} (hd : d.WellFormed)
    {paths order : List String} (hsame : ∀ path, path ∈ order ↔ path ∈ paths) :
    let s := context.paths
    let left := d.prune (s.rows paths)
    (s.Steady d order → (Model.except ⟨d, context⟩ order).document = left ∧
      ∀ (c : Collection μ) (i : Nat), c.context = context → c.items[i]? = some (.document d) →
        (c.forget order).items[i]? = some (.document left)) ∧
    ((∀ path ∈ paths,
      ((Value.document d).follow? (s.split path).dropLast).map Value.kind ≠ some .array) →
      s.Steady d order) := by
  intro s left
  refine ⟨fun h => ?_, fun h => ?_⟩
  · have hrows : ∀ row, row ∈ s.rows order ↔ row ∈ s.rows paths := by
      simp only [mem_rows, hsame, implies_true]
    have hprune := Value.prune_congr (.document d) hrows
    have hleft : Collection.forgetPaths s d order = left :=
      (Collection.forgetPaths_eq_prune hd h).trans (Value.document.inj hprune)
    refine ⟨hleft, fun c i hc hi => ?_⟩
    subst hc
    rw [Collection.forget, Collection.collect, List.getElem?_map, hi, ← hleft]
    rfl
  · refine List.pairwise_of_forall_mem_list fun path hpath later _ => ?_
    exact Value.shifts_eq_false (h path ((hsame path).mp hpath)) _

/-- Items of two arrays from the last to the first, one that is entered before it goes and one before
it that is entered afterwards, entries nested in one another and named twice, and paths that lead
nowhere. -/
theorem paths_forgotten_at_once_backwards :
    let e : Document := ⟨[("k", .signed 1), ("l", .null)]⟩
    let d : Document := ⟨[("a", .array [.document e, .bool true, .document e, .string "x"]),
      ("b", .document e), ("c", .null)]⟩
    let left : Document := ⟨[("a", .array [.document ⟨[("l", .null)]⟩, .string "x"]),
      ("c", .null)]⟩
    let context : Context Unit := .new .standard
    let order := ["a.+2", "b", "a.7", "a.01", "b.k", "a.0.k", "b", "c.k", ""]
    (context.paths.Steady d order ∧ d.prune (context.paths.rows order) = left) ∧
      (Model.except ⟨d, context⟩ order).document = left ∧
      (Collection.forget ⟨[.null, .document d], context⟩ order).items[1]? = some (.document left) ∧
      context.paths.Steady d ["b.k", "c", "b", "b"] := by
  intro e d left context order
  have hd : d.WellFormed := by
    have he : e.WellFormed := ⟨by decide, trivial, trivial, trivial⟩
    exact ⟨by decide, ⟨he, trivial, he, trivial, trivial⟩, he, trivial, trivial⟩
  have hsteady : context.paths.Steady d order := by decide
  have hleft : d.prune (context.paths.rows order) = left := by cbv
  obtain ⟨hresult, -⟩ := paths_forgotten_at_once context hd (fun path => Iff.rfl (a := path ∈ order))
  obtain ⟨-, hany⟩ := paths_forgotten_at_once context hd
    (fun path => Iff.rfl (a := path ∈ ["b.k", "c", "b", "b"]))
  obtain ⟨hmodel, hitems⟩ := hresult hsteady
  refine ⟨⟨hsteady, hleft⟩, hmodel.trans hleft, ?_, hany (by decide)⟩
  rw [← hleft]
  exact hitems ⟨[.null, .document d], context⟩ 1 rfl rfl

/-- Two items of one array: once the first is gone, the second path leads to another item, and the
one that it led to stays. -/
theorem forgotten_item_moves_others :
    let d : Document := ⟨[("a", .array [.string "x", .string "y", .string "z"])]⟩
    let c : Collection Unit := .new .standard [.document d]
    ["a.1", "a.0"].Perm ["a.0", "a.1"] ∧
      (c.forget ["a.1", "a.0"]).items = [.document ⟨[("a", .array [.string "z"])]⟩] ∧
      (c.forget ["a.0", "a.1"]).items = [.document ⟨[("a", .array [.string "y"])]⟩] := by
  intro d c
  exact ⟨.swap _ _ _, by cbv, by cbv⟩

end Dossier
