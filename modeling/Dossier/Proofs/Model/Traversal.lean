import Dossier.Proofs.Model.Leaves
import Dossier.Proofs.Path.Keys

/-! What a walk visits. It joins keys to paths on its way down and reports the places of a document
in their order, so what is known of places by their keys is known of the visits by the segments of
their paths, as far as splitting a path gives the keys back. -/

namespace Dossier

namespace PathSyntax

/-! ### Walks as lists of places -/

def visit (s : PathSyntax) (path : String) (p : Place) : Visit :=
  ⟨p.keys.foldl s.join path, p.value, p.holder⟩

mutual

/-- A walk visits the places in their order, each at the path along its keys. -/
theorem walkBelow_eq (s : PathSyntax) (path : String) (levels : Option Nat) :
    ∀ d : Document, s.walkBelow path levels d = (d.places levels).map (s.visit path)
  | ⟨es⟩ => walkEntries_eq s path levels ⟨es⟩ es

theorem walkEntries_eq (s : PathSyntax) (path : String) (levels : Option Nat) (holder : Document) :
    ∀ es, s.walkEntries path levels holder es =
      (Document.placesOf levels holder es).map (s.visit path)
  | [] => rfl
  | (key, v) :: rest => by
    have hrest := walkEntries_eq s path levels holder rest
    cases v with
    | document d =>
      have hbelow := walkBelow_eq s (s.join path key) (levels.map (· - 1)) d
      rw [walkEntries, Document.placesOf, List.map_append, hrest, Value.placesAt, hbelow]
      split
      · rfl
      · rw [List.map_map]
        rfl
    -- The equation of the last case asks for a value that is no document.
    | _ => rw [walkEntries, hrest] <;> first | rfl | nofun

end

mutual

theorem pathsBelow_eq (s : PathSyntax) (path : String) :
    ∀ d : Document, s.pathsBelow path d = d.leaves.map fun leaf => leaf.keys.foldl s.join path
  | ⟨es⟩ => pathsOfEntries_eq s path es

theorem pathsOfEntries_eq (s : PathSyntax) (path : String) :
    ∀ es, s.pathsOfEntries path es =
      (Document.leavesOf es).map fun leaf => leaf.keys.foldl s.join path
  | [] => rfl
  | (key, v) :: rest => by
    have hrest := pathsOfEntries_eq s path rest
    cases v with
    | document d =>
      have hbelow := pathsBelow_eq s (s.join path key) d
      rw [pathsOfEntries, Document.leavesOf, List.map_append, hrest, Value.leaves, hbelow,
        List.map_map]
      rfl
    | _ => rw [pathsOfEntries, hrest] <;> first | rfl | nofun

end

theorem map_visit_walk (s : PathSyntax) {d : Document}
    (hkeys : ∀ key v, d.Nests key v → key ≠ "") :
    (s.walk none d).map (fun visit => (visit.path, visit.value)) =
      d.leaves.map fun leaf => (s.spell leaf.keys, leaf.value) := by
  rw [walk, walkBelow_eq, List.map_map, ← d.map_leaf_places, List.map_map]
  refine List.map_congr_left fun p hp => Prod.ext (s.foldl_join fun key hkey => ?_) rfl
  have hleaf : p.leaf ∈ d.leaves := d.map_leaf_places ▸ List.mem_map_of_mem hp
  obtain ⟨v, hv⟩ := (Document.nests_of_mem_leaves _ hleaf).2 key hkey
  exact hkeys key v hv

end PathSyntax

/-! ### Visits of a document -/

section Visits

variable {d : Document} {levels : Option Nat}

theorem Document.keyed?_of_mem_places (hd : d.WellFormed) {p : Place} (hp : p ∈ d.places levels) :
    (Value.document d).keyed? p.keys = some p.value := by
  obtain ⟨hbefore, hkey, -⟩ := (mem_places_iff hd).mp hp
  exact (Value.keyed?_concat hbefore p.key).trans hkey

theorem Document.follow?_of_mem_places (hd : d.WellFormed) {p : Place}
    (hp : p ∈ d.places levels) : (Value.document d).follow? p.keys = some p.value :=
  Value.follow?_of_keyed? (keyed?_of_mem_places hd hp)

theorem Document.legible_of_mem_places {s : PathSyntax} (hs : s.separator ≠ "") (hd : d.WellFormed)
    (hkeys : ∀ key v, d.Nests key v → s.Whole key) {p : Place} (hp : p ∈ d.places levels) :
    s.Legible p.keys := by
  refine PathSyntax.legible_of_whole hs (by simp [Place.keys]) fun key hkey => ?_
  obtain ⟨v, hv⟩ := nests_of_keyed? (keyed?_of_mem_places hd hp) key hkey
  exact hkeys key v hv

end Visits

variable {μ : Type}

/-- A traversal goes to the leaves of a document whose keys, and those of the documents nested in
it, are segments by themselves. What it reports is read at the path of the report and is held, under
the last segment of that, by the document that is reported with it. No path comes twice or goes on
from another one. Under a limit no path is longer than that allows, and every leaf is reported or
lies below just one of the longest paths. Without a limit the leaves are reported in their order,
and nothing else is. -/
theorem Model.eachPath_visits {m : Model μ} (hd : m.document.WellFormed)
    (hkeys : ∀ key v, m.document.Nests key v → m.context.paths.Whole key) (levels : Option Nat) :
    (∀ visit ∈ m.eachPath levels, m.get? visit.path = some visit.value ∧
      ∃ before key, m.context.paths.split visit.path = before ++ [key] ∧
        (Value.document m.document).follow? before = some (.document visit.holder) ∧
        visit.holder.get? key = some visit.value) ∧
    (m.eachPath levels).Pairwise (fun a b =>
      a.path ≠ b.path ∧
      ¬ m.context.paths.split a.path <+: m.context.paths.split b.path ∧
      ¬ m.context.paths.split b.path <+: m.context.paths.split a.path) ∧
    (∀ most, levels = some most →
      (∀ visit ∈ m.eachPath levels, (m.context.paths.split visit.path).length ≤ most + 1) ∧
      ∀ leaf ∈ m.document.leaves,
        (leaf.keys.length ≤ most + 1 ∧ ∃ visit ∈ m.eachPath levels,
          m.context.paths.split visit.path = leaf.keys ∧ visit.value = leaf.value) ∨
        (most + 1 < leaf.keys.length ∧ ∃! visit, visit ∈ m.eachPath levels ∧
          (m.context.paths.split visit.path).length = most + 1 ∧
          m.context.paths.split visit.path <+: leaf.keys)) ∧
    (levels = none →
      (m.eachPath levels).map (fun visit => (m.context.paths.split visit.path, visit.value)) =
        m.document.leaves.map (fun leaf => (leaf.keys, leaf.value)) ∧
      (m.eachPath levels).map Visit.path = m.paths) := by
  have hlegible : ∀ p ∈ m.document.places levels, m.context.paths.Legible p.keys := fun p hp =>
    Document.legible_of_mem_places m.context.settings.separator_ne hd hkeys hp
  have hsplit : ∀ p ∈ m.document.places levels,
      m.context.paths.split (m.context.paths.visit "" p).path = p.keys := fun p hp =>
    (hlegible p hp).split
  rw [Model.eachPath, PathSyntax.walk, PathSyntax.walkBelow_eq]
  refine ⟨?_, ?_, ?_, ?_⟩
  · rw [List.forall_mem_map]
    intro p hp
    obtain ⟨hbefore, hkey, -⟩ := (Document.mem_places_iff hd).mp hp
    refine ⟨?_, p.before, p.key, hsplit p hp, Value.follow?_of_keyed? hbefore, hkey⟩
    exact ((hlegible p hp).get? m.document).trans (Document.follow?_of_mem_places hd hp)
  · rw [List.pairwise_map]
    refine (Document.pairwise_places hd).imp_of_mem fun {p q} hp hq hpq => ?_
    rw [← hsplit p hp, ← hsplit q hq] at hpq
    refine ⟨fun heq => hpq.1 ?_, hpq⟩
    rw [heq]
  · rintro most rfl
    rw [List.forall_mem_map]
    refine ⟨fun p hp => ?_, fun leaf hleaf => ?_⟩
    · have hmost := ((Document.mem_places_iff hd).mp hp).2.2.2 most rfl
      rw [hsplit p hp, Place.length_keys]
      exact Nat.succ_le_succ hmost
    · rcases Nat.lt_or_ge (most + 1) leaf.keys.length with hlong | hshort
      · obtain ⟨p, ⟨hp, hlength, hbegins⟩, hunique⟩ :=
          Document.exists_place_above_leaf hd hleaf hlong
        rw [← hsplit p hp] at hlength hbegins
        refine .inr ⟨hlong, _, ⟨List.mem_map_of_mem hp, hlength, hbegins⟩, ?_⟩
        rintro _ ⟨hmem, hlength, hbegins⟩
        obtain ⟨q, hq, rfl⟩ := List.mem_map.mp hmem
        rw [hsplit q hq] at hlength hbegins
        rw [hunique q ⟨hq, hlength, hbegins⟩]
      · obtain ⟨p, hp, rfl⟩ := Document.exists_place_of_leaf hd hleaf hshort
        exact .inl ⟨hshort, _, List.mem_map_of_mem hp, hsplit p hp, rfl⟩
  · rintro rfl
    rw [Model.paths, PathSyntax.paths, PathSyntax.pathsBelow_eq, ← Document.map_leaf_places,
      List.map_map, List.map_map, List.map_map, List.map_map]
    refine ⟨List.map_congr_left fun p hp => ?_, rfl⟩
    exact Prod.ext (hsplit p hp) rfl

/-- Documents in documents under a separator of two characters, one of which is in a value: empty ones
below the limit and at it, and a document in an array, whose key is the separator. -/
theorem Model.eachPath_visits_nested :
    let settings : Settings := { separator := "::" }
    let d : Document := ⟨[("a", .document ⟨[("b", .document ⟨[("c", .string ":"),
      ("e", .document .empty)]⟩), ("x", .document .empty)]⟩),
      ("l", .array [.document ⟨[("::", .null)]⟩]), ("e", .document .empty)]⟩
    let m : Model Unit := .new settings d
    (m.eachPath (some 1)).map Visit.path = ["a::b", "a::x", "l"] ∧
      (∃! visit, visit ∈ m.eachPath (some 1) ∧ (settings.paths.split visit.path).length = 2 ∧
        settings.paths.split visit.path <+: ["a", "b", "c"]) ∧
      (m.eachPath none).map Visit.path = ["a::b::c", "l"] ∧ m.paths = ["a::b::c", "l"] := by
  intro settings d m
  have hd : d.WellFormed := ⟨by decide, ⟨by decide, ⟨by decide, trivial, ⟨by decide, trivial⟩,
    trivial⟩, ⟨by decide, trivial⟩, trivial⟩, ⟨⟨by decide, trivial, trivial⟩, trivial⟩,
    ⟨by decide, trivial⟩, trivial⟩
  have hkeys : ∀ key v, d.Nests key v → settings.paths.Whole key := by
    intro key v h
    simp only [d, Document.empty, Document.nests_cons_iff, Document.not_nests_nil, or_false,
      false_or, Value.document.injEq, exists_eq_left', reduceCtorEq, false_and, exists_false] at h
    rcases h with ⟨rfl, rfl⟩ | (⟨rfl, rfl⟩ | (⟨rfl, rfl⟩ | ⟨rfl, rfl⟩) | ⟨rfl, rfl⟩) | ⟨rfl, rfl⟩ |
      ⟨rfl, rfl⟩ <;> decide
  obtain ⟨-, -, hlimit, -⟩ := Model.eachPath_visits (m := m) hd hkeys (some 1)
  obtain ⟨-, -, -, hall⟩ := Model.eachPath_visits (m := m) hd hkeys none
  have hpaths : (m.eachPath none).map Visit.path = ["a::b::c", "l"] := by cbv
  refine ⟨by cbv, ?_, hpaths, (hall rfl).2.symm.trans hpaths⟩
  rcases (hlimit 1 rfl).2 ⟨["a", "b", "c"], .string ":"⟩ List.mem_cons_self with
    ⟨hshort, -⟩ | ⟨-, hunique⟩
  · exact absurd hshort (by decide)
  · exact hunique

end Dossier
