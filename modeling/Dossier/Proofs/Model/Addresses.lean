import Dossier.Proofs.Model.Traversal
import Dossier.Query.Constraint

/-! What joined paths lead to. Listing paths, walking and writing a query out flat all join the keys
on the way one after the other, so each path that they make leads to what it was made for exactly as
far as splitting undoes joining. It does for keys without the separator in them when none of these
but the last makes one with the beginning of the separator behind it. -/

namespace Dossier

namespace PathSyntax

variable {s : PathSyntax} {keys : List String}

/-! ### Joining and splitting -/

/-- A row of keys, none of them empty or with the separator in it. -/
structure Plain (s : PathSyntax) (keys : List String) : Prop where
  ne_nil : keys ≠ []
  ne_empty : ∀ key ∈ keys, key ≠ ""
  free : ∀ key ∈ keys, ¬ s.separator.toList <:+: key.toList

/-- Whether every separator between two keys is found where it stands, and not across the end of the
key before it. -/
def Apart (s : PathSyntax) (keys : List String) : Prop :=
  ∀ key ∈ keys.dropLast, Clear s.separator.toList key.toList

instance (s : PathSyntax) (keys : List String) : Decidable (s.Apart keys) :=
  inferInstanceAs (Decidable (∀ _ ∈ _, _))

theorem Plain.split_iff (hs : s.separator ≠ "") (h : s.Plain keys) :
    s.split (keys.foldl s.join "") = keys ↔ s.Apart keys := by
  rw [s.foldl_join h.ne_empty, split_spell_iff hs h.ne_nil]
  exact and_iff_left (h.free _ (List.getLast_mem h.ne_nil))

theorem Plain.legible (hs : s.separator ≠ "") (h : s.Plain keys) (hapart : s.Apart keys) :
    s.Legible keys where
  ne_nil := h.ne_nil
  ne_empty := h.ne_empty
  split := (h.split_iff hs).mpr hapart

/-- Across the end of a key there is no separator of one character. -/
theorem Plain.apart_of_length (hs : s.separator.length = 1) (h : s.Plain keys) : s.Apart keys :=
  fun key hkey => clear_of_length (String.length_toList.trans hs)
    (h.free key (List.mem_of_mem_dropLast hkey))

end PathSyntax

/-! ### Conditions of a query -/

namespace Query

/-- A condition of a query with the fields that lead to what it is about. -/
structure Condition where
  fields : List String
  operator : String
  operand : Value

def Condition.under (field : String) (c : Condition) : Condition :=
  { c with fields := field :: c.fields }

mutual

def conditions : Query → List Condition
  | ⟨es⟩ => conditionsOf es

def conditionsOf : List (String × Node) → List Condition
  | [] => []
  | (field, node) :: rest => node.conditions.map (Condition.under field) ++ conditionsOf rest

def Node.conditions : Node → List Condition
  | .literal v => [⟨[], "eq", v⟩]
  | .pattern p => [⟨[], "regexp", .pattern p⟩]
  | .nested q => q.conditions
  | .operators ops => ops.map fun (op, v) => ⟨[], op, v⟩

end

def Condition.constraint (s : PathSyntax) (path : String) (c : Condition) : Constraint :=
  ⟨c.fields.foldl s.join path, c.operator, c.operand⟩

mutual

theorem constraintsBelow_eq (s : PathSyntax) (path : String) :
    ∀ q : Query, q.constraintsBelow s path = q.conditions.map (Condition.constraint s path)
  | ⟨es⟩ => constraintsOfEntries_eq s path es

theorem constraintsOfEntries_eq (s : PathSyntax) (path : String) :
    ∀ es, constraintsOfEntries s path es = (conditionsOf es).map (Condition.constraint s path)
  | [] => rfl
  | (field, node) :: rest => by
    rw [constraintsOfEntries, conditionsOf, List.map_append, constraintsOfEntries_eq s path rest,
      Node.constraintsAt_eq s (s.join path field) node, List.map_map]
    rfl

theorem Node.constraintsAt_eq (s : PathSyntax) (path : String) :
    ∀ node : Node, node.constraintsAt s path = node.conditions.map (Condition.constraint s path)
  | .literal _ => rfl
  | .pattern _ => rfl
  | .nested q => constraintsBelow_eq s path q
  | .operators ops => by
    rw [Node.conditions, List.map_map]
    rfl

end

end Query

/-! ### What paths are made for -/

/-- Joined keys are split into the same keys again exactly when every separator between them is
found where it stands, which cannot fail with a separator of one character. The paths that are
listed, those that a walk to whatever depth reports, and those of the constraints of a query are the
joined keys of the leaves, the places and the conditions. Where splitting gives these keys back,
reading at the path gives what they lead to. -/
theorem Settings.joined_paths_lead (settings : Settings) :
    (∀ keys, settings.paths.Plain keys →
      (settings.paths.split (keys.foldl settings.paths.join "") = keys ↔
        settings.paths.Apart keys)) ∧
    (settings.separator.length = 1 → ∀ keys, settings.paths.Plain keys →
      settings.paths.Apart keys) ∧
    (∀ {μ : Type} (m : Model μ), m.context.settings = settings → m.document.WellFormed →
      (m.paths = m.document.leaves.map (fun leaf => leaf.keys.foldl settings.paths.join "") ∧
        ∀ leaf ∈ m.document.leaves, settings.paths.Plain leaf.keys →
          settings.paths.Apart leaf.keys →
          m.get? (leaf.keys.foldl settings.paths.join "") = some leaf.value) ∧
      ∀ levels, m.eachPath levels = (m.document.places levels).map (settings.paths.visit "") ∧
        ∀ p ∈ m.document.places levels, settings.paths.Plain p.keys →
          settings.paths.Apart p.keys →
          m.get? (settings.paths.visit "" p).path = some p.value) ∧
    ∀ q : Query, q.constraints settings.paths =
        Constraint.sort (q.conditions.map (Query.Condition.constraint settings.paths "")) ∧
      ∀ c ∈ q.conditions, settings.paths.Plain c.fields → settings.paths.Apart c.fields →
        ∀ v, settings.paths.getValue? v (c.constraint settings.paths "").path =
          v.follow? c.fields := by
  have hs : settings.paths.separator ≠ "" := settings.separator_ne
  refine ⟨fun keys h => h.split_iff hs, fun hlength keys h => h.apart_of_length hlength, ?_, ?_⟩
  · rintro μ m rfl hd
    refine ⟨⟨m.context.paths.pathsBelow_eq "" m.document, ?_⟩, fun levels =>
      ⟨m.context.paths.walkBelow_eq "" levels m.document, ?_⟩⟩
    · intro leaf hleaf hplain hapart
      have hfollow := Value.follow?_of_keyed? ((Document.mem_leaves_iff hd).mp hleaf).1
      exact ((hplain.legible hs hapart).get? m.document).trans hfollow
    · intro p hp hplain hapart
      have hfollow := Document.follow?_of_mem_places hd hp
      exact ((hplain.legible hs hapart).get? m.document).trans hfollow
  · intro q
    refine ⟨congrArg Constraint.sort (Query.constraintsBelow_eq _ "" q), ?_⟩
    intro c _ hplain hapart v
    exact (hplain.legible hs hapart).getValue? v

/-- Keys that end with half a separator: one in the last place, where it does no harm, and one in the
first, where its path leads nowhere. -/
theorem Settings.joined_paths_lead_halves :
    let settings : Settings := { separator := "::" }
    let d : Document := ⟨[("a:", .document ⟨[("b", .null)]⟩),
      ("a", .document ⟨[("b:", .bool true)]⟩)]⟩
    let q : Query := ⟨[("a", .nested ⟨[("b:", .operators [("eq", .bool true)])]⟩)]⟩
    let m : Model Unit := .new settings d
    settings.paths.split "a::b:" = ["a", "b:"] ∧ settings.paths.split "a:::b" ≠ ["a:", "b"] ∧
      m.paths = ["a:::b", "a::b:"] ∧ m.get? "a::b:" = some (.bool true) ∧
      (m.eachPath (some 0)).map Visit.path = ["a:", "a"] ∧
      m.get? "a:" = some (.document ⟨[("b", .null)]⟩) ∧
      (q.constraints settings.paths).map Constraint.path = ["a::b:"] ∧
      ∀ v, settings.paths.getValue? v "a::b:" = v.follow? ["a", "b:"] := by
  intro settings d q m
  have hd : d.WellFormed :=
    ⟨by decide, ⟨by decide, trivial, trivial⟩, ⟨by decide, trivial, trivial⟩, trivial⟩
  have hlast : settings.paths.Plain ["a", "b:"] := ⟨by decide, by decide, by decide⟩
  have hfirst : settings.paths.Plain ["a:", "b"] := ⟨by decide, by decide, by decide⟩
  obtain ⟨hsplit, -, hmodel, hquery⟩ := settings.joined_paths_lead
  obtain ⟨⟨-, hleaves⟩, hplaces⟩ := hmodel m rfl hd
  have hapart : settings.paths.Apart ["a", "b:"] := by decide
  refine ⟨(hsplit _ hlast).mpr hapart, fun h => ?_, by cbv, ?_, by cbv, ?_, by cbv, ?_⟩
  · exact absurd ((hsplit _ hfirst).mp h) (by decide)
  · have hleaf : ⟨["a", "b:"], .bool true⟩ ∈ d.leaves := List.mem_cons_of_mem _ List.mem_cons_self
    exact hleaves _ hleaf hlast hapart
  · exact (hplaces (some 0)).2 ⟨[], "a:", .document ⟨[("b", .null)]⟩, d⟩ List.mem_cons_self
      ⟨by decide, by decide, by decide⟩ (by decide)
  · exact (hquery q).2 ⟨["a", "b:"], "eq", .bool true⟩ List.mem_cons_self hlast hapart

/-- The half separator at the end of a key is taken for the beginning of the one behind it. -/
theorem Settings.split_join_halves :
    let settings : Settings := { separator := "::" }
    let d : Document := ⟨[("a:", .document ⟨[("b", .signed 1)]⟩)]⟩
    settings.paths.Plain ["a:", "b"] ∧ ["a:", "b"].foldl settings.paths.join "" = "a:::b" ∧
      settings.paths.split "a:::b" = ["a", ":b"] ∧ settings.paths.paths d = ["a:::b"] ∧
      settings.paths.get? d "a:::b" = none := by
  intro settings d
  exact ⟨⟨by decide, by decide, by decide⟩, by cbv, by cbv, by cbv, by cbv⟩

end Dossier
