import Dossier.Collection.Reshape
import Dossier.Proofs.Entries.Sorted
import Dossier.Proofs.Path.Portion
import Dossier.Proofs.Value.WellFormed

/-! What a projection keeps. The paths that lead somewhere in a document are copied one after the
other into an empty one, and what has been copied is a portion of the document at every moment. So
each path reads as it did, whatever other paths run into it, and nothing else can be read. -/

namespace Dossier

/-! ### Runs that can be refused -/

section Runs

variable {ε α β : Type}

/-- A fold whose steps are refused by what they are taken for is refused for the first of these, or
takes all steps. -/
theorem foldlM_cases {f : β → α → Except ε β} {g : β → α → β} {refused : α → Prop} {e : α → ε}
    (hrefused : ∀ b a, refused a → f b a = .error (e a))
    (hdone : ∀ b a, ¬ refused a → f b a = .ok (g b a)) (l : List α) (b : β) :
    (∃ a ∈ l, refused a ∧ l.foldlM f b = .error (e a)) ∨
      ((∀ a ∈ l, ¬ refused a) ∧ l.foldlM f b = .ok (l.foldl g b)) := by
  induction l generalizing b with
  | nil => exact .inr ⟨nofun, rfl⟩
  | cons a l ih =>
    rw [List.foldlM_cons]
    by_cases ha : refused a
    · rw [hrefused b a ha]
      exact .inl ⟨a, List.mem_cons_self, ha, rfl⟩
    · rw [hdone b a ha]
      rcases ih (g b a) with ⟨x, hx, hr, heq⟩ | ⟨hall, heq⟩
      · exact .inl ⟨x, List.mem_cons_of_mem a hx, hr, heq⟩
      · exact .inr ⟨List.forall_mem_cons.mpr ⟨ha, hall⟩, heq⟩

/-- A function that can be refused, applied to all of a list: it is refused for the first item that
it is refused for, or gives something for each item. -/
theorem mapM_cases (f : α → Except ε β) (l : List α) :
    (∃ a ∈ l, ∃ e, f a = .error e ∧ l.mapM f = .error e) ∨
      ∃ bs, l.mapM f = .ok bs ∧ List.Forall₂ (fun a b => f a = .ok b) l bs := by
  induction l with
  | nil => exact .inr ⟨[], rfl, .nil⟩
  | cons a l ih =>
    rw [List.mapM_cons]
    cases ha : f a with
    | error e => exact .inl ⟨a, List.mem_cons_self, e, ha, rfl⟩
    | ok b =>
      rcases ih with ⟨x, hx, e, he, hl⟩ | ⟨bs, hl, hall⟩
      · exact .inl ⟨x, List.mem_cons_of_mem a hx, e, he, by rw [hl]; rfl⟩
      · exact .inr ⟨b :: bs, by rw [hl]; rfl, .cons ha hall⟩

end Runs

namespace PathSyntax

variable {s : PathSyntax} {d : Document} {path : String}

/-- A path is refused in a projection of a document when it leads somewhere and has an empty
segment. -/
def Refused (s : PathSyntax) (d : Document) (path : String) : Prop :=
  (s.get? d path).isSome = true ∧ "" ∈ s.split path

/-- What is at a path of a document, written at the same path of another one. -/
def copy (s : PathSyntax) (d projected : Document) (path : String) : Document :=
  match s.get? d path with
  | some v => writeDocument projected (s.split path) v
  | none => projected

theorem copy_of_get?_eq_none (hd : s.get? d path = none) (projected : Document) :
    s.copy d projected path = projected := by
  rw [copy, hd]

theorem document_copy {v : Value} (hd : s.get? d path = some v) (projected : Document) :
    Value.document (s.copy d projected path) =
      (Value.document projected).write (s.split path) v := by
  rw [copy, hd]
  exact document_writeDocument projected (s.split_ne_nil path) v

/-! ### Copies -/

section Copies

variable {projected : Document} {other : String}

theorem portion_copy (h : Value.Portion (some (.document projected)) (.document d))
    (s : PathSyntax) (path : String) :
    Value.Portion (some (.document (s.copy d projected path))) (.document d) := by
  cases hd : s.get? d path with
  | none => rwa [copy_of_get?_eq_none hd]
  | some v =>
    rw [document_copy hd]
    exact h.write (follow?_of_get? hd)

theorem get?_copy_self (h : Value.Portion (some (.document projected)) (.document d)) :
    s.get? (s.copy d projected path) path = s.get? d path := by
  cases hd : s.get? d path with
  | none => exact get?_eq_none_of_portion (portion_copy h s path) hd
  | some v => rw [get?_of_ne (ne_empty_of_get? hd), document_copy hd, Value.follow?_write]

/-- What reads the same in both documents still does when another path is copied. -/
theorem get?_copy_of_same (h : Value.Portion (some (.document projected)) (.document d))
    (hsame : s.get? projected other = s.get? d other) (path : String) :
    s.get? (s.copy d projected path) other = s.get? d other := by
  cases hd : s.get? d path with
  | none => rwa [copy_of_get?_eq_none hd]
  | some v =>
    cases hu : s.get? d other with
    | none => exact get?_eq_none_of_portion (portion_copy h s path) hu
    | some u =>
      have hne := ne_empty_of_get? hu
      rw [hu, get?_of_ne hne] at hsame
      rw [get?_of_ne hne, document_copy hd]
      exact h.follow?_write_of_copied (follow?_of_get? hd) (follow?_of_get? hu) hsame

end Copies

/-- What holds of a document that paths have been copied to: it is a portion of the other one, each
of the paths reads the same in both, and it has no way that runs along none of the paths. -/
structure Copied (s : PathSyntax) (d : Document) (paths : List String) (projected : Document) :
    Prop where
  portion : Value.Portion (some (.document projected)) (.document d)
  same : ∀ path ∈ paths, s.get? projected path = s.get? d path
  covered : ∀ way, way ≠ [] → (Value.document projected).follow? way ≠ none →
    ∃ path ∈ paths, (s.get? d path).isSome = true ∧
      (way <+: s.split path ∨ s.split path <+: way)

theorem copied_nil (s : PathSyntax) (d : Document) : s.Copied d [] .empty where
  portion := Value.portion_empty (.document d)
  same := nofun
  covered way hne hway := by
    obtain ⟨segment, rest, rfl⟩ := List.exists_cons_of_ne_nil hne
    exact absurd rfl hway

variable {paths : List String} {projected : Document}

theorem Copied.copy (h : s.Copied d paths projected) (path : String) :
    s.Copied d (paths ++ [path]) (s.copy d projected path) where
  portion := portion_copy h.portion s path
  same other hother := by
    rcases List.mem_append.mp hother with hmem | hmem
    · exact get?_copy_of_same h.portion (h.same other hmem) path
    · rw [List.mem_singleton.mp hmem]
      exact get?_copy_self h.portion
  covered way hne hway := by
    have hbefore (hway : (Value.document projected).follow? way ≠ none) :
        ∃ other ∈ paths ++ [path], (s.get? d other).isSome = true ∧
          (way <+: s.split other ∨ s.split other <+: way) := by
      obtain ⟨other, hmem, hother⟩ := h.covered way hne hway
      exact ⟨other, List.mem_append_left _ hmem, hother⟩
    cases hd : s.get? d path with
    | none =>
      rw [copy_of_get?_eq_none hd] at hway
      exact hbefore hway
    | some v =>
      rw [document_copy hd] at hway
      have hpath : path ∈ paths ++ [path] := List.mem_append_right _ (List.mem_singleton_self path)
      rcases h.portion.exists_of_follow?_write (follow?_of_get? hd) hway with hfirst | hlast | hway
      · exact ⟨path, hpath, by rw [hd]; rfl, .inl hfirst⟩
      · exact ⟨path, hpath, by rw [hd]; rfl, .inr hlast⟩
      · exact hbefore hway

theorem Copied.foldl (h : s.Copied d paths projected) (others : List String) :
    s.Copied d (paths ++ others) (others.foldl (s.copy d) projected) := by
  induction others generalizing paths projected with
  | nil => rwa [List.append_nil]
  | cons path others ih =>
    rw [List.append_cons]
    exact ih (h.copy path)

end PathSyntax

namespace Collection

open PathSyntax

variable {s : PathSyntax} {d p : Document} {paths : List String}

/-! ### Projections -/

/-- A projection is refused for the first path that is, or copies all paths. -/
theorem projectDocument_cases (s : PathSyntax) (d : Document) (paths : List String) :
    (∃ path ∈ paths, s.Refused d path ∧ projectDocument s d paths = .error (.emptySegment path)) ∨
      ((∀ path ∈ paths, ¬ s.Refused d path) ∧
        projectDocument s d paths = .ok (paths.foldl (s.copy d) .empty)) := by
  refine foldlM_cases (fun projected path hrefused => ?_) (fun projected path hrefused => ?_)
    paths Document.empty
  · obtain ⟨hsome, hempty⟩ := hrefused
    obtain ⟨v, hv⟩ := Option.isSome_iff_exists.mp hsome
    simp only [hv, set_eq, if_neg (ne_empty_of_get? hv), if_pos hempty]
  · unfold PathSyntax.copy
    cases hv : s.get? d path with
    | none => rfl
    | some v =>
      have hempty : "" ∉ s.split path := fun h => hrefused ⟨by rw [hv]; rfl, h⟩
      simp only [set_eq, if_neg (ne_empty_of_get? hv), if_neg hempty]

theorem projectDocument_eq_error {e : Fault} (h : projectDocument s d paths = .error e) :
    e.kind = .invalidArgument ∧ ∃ path ∈ paths, s.Refused d path := by
  rcases projectDocument_cases s d paths with ⟨path, hpath, hrefused, heq⟩ | ⟨-, heq⟩
  · rw [heq] at h
    cases h
    exact ⟨rfl, path, hpath, hrefused⟩
  · rw [heq] at h
    cases h

theorem projectDocument_eq_ok (h : projectDocument s d paths = .ok p) :
    p = paths.foldl (s.copy d) .empty ∧ ∀ path ∈ paths, ¬ s.Refused d path := by
  rcases projectDocument_cases s d paths with ⟨path, hpath, hrefused, heq⟩ | ⟨hall, heq⟩
  · rw [heq] at h
    cases h
  · rw [heq] at h
    cases h
    exact ⟨rfl, hall⟩

/-- What a projection to paths makes of an item. In a document every path reads as it did, and every
path that leads somewhere is the beginning of one of the paths that lead somewhere in the item, or
goes on from its end; what is no document stays. -/
inductive Projected (s : PathSyntax) (paths : List String) : Value → Value → Prop
  | document {d p : Document} (same : ∀ path ∈ paths, s.get? p path = s.get? d path)
      (covered : ∀ other, (s.get? p other).isSome = true →
        ∃ path ∈ paths, (s.get? d path).isSome = true ∧
          (s.split other <+: s.split path ∨ s.split path <+: s.split other)) :
      Projected s paths (.document d) (.document p)
  | other {item : Value} (h : item.kind ≠ .document) : Projected s paths item item

theorem projected_of_projectDocument (h : projectDocument s d paths = .ok p) :
    Projected s paths (.document d) (.document p) := by
  obtain ⟨rfl, -⟩ := projectDocument_eq_ok h
  have hcopied := (copied_nil s d).foldl paths
  refine .document hcopied.same fun other hother => ?_
  obtain ⟨v, hv⟩ := Option.isSome_iff_exists.mp hother
  refine hcopied.covered _ (s.split_ne_nil other) ?_
  rw [follow?_of_get? hv]
  exact Option.some_ne_none v

def projectItem (s : PathSyntax) (paths : List String) : Value → Except Fault Value
  | .document d => return .document (← projectDocument s d paths)
  | item => return item

theorem projectItem_document (s : PathSyntax) (d : Document) (paths : List String) :
    projectItem s paths (.document d) = (projectDocument s d paths).map .document := by
  rw [projectItem]
  cases projectDocument s d paths <;> rfl

theorem projectItem_of_kind_ne {item : Value} (h : item.kind ≠ .document) :
    projectItem s paths item = .ok item := by
  cases item with
  | document d => exact absurd rfl h
  | _ => rfl

theorem projectItem_eq_error {item : Value} {e : Fault}
    (h : projectItem s paths item = .error e) :
    e.kind = .invalidArgument ∧ ∃ d, item = .document d ∧ ∃ path ∈ paths, s.Refused d path := by
  by_cases hkind : item.kind = .document
  · obtain ⟨d, rfl⟩ := Value.exists_of_kind_document hkind
    rw [projectItem_document] at h
    cases hd : projectDocument s d paths with
    | error e' =>
      rw [hd] at h
      cases h
      obtain ⟨hkind, hrefused⟩ := projectDocument_eq_error hd
      exact ⟨hkind, d, rfl, hrefused⟩
    | ok p =>
      rw [hd] at h
      cases h
  · rw [projectItem_of_kind_ne hkind] at h
    cases h

theorem exists_of_projectItem {v : Value} (h : projectItem s paths (.document d) = .ok v) :
    ∃ p, projectDocument s d paths = .ok p ∧ v = .document p := by
  rw [projectItem_document] at h
  cases hd : projectDocument s d paths with
  | error e =>
    rw [hd] at h
    cases h
  | ok p =>
    rw [hd] at h
    cases h
    exact ⟨p, rfl, rfl⟩

theorem projected_of_projectItem {item v : Value} (h : projectItem s paths item = .ok v) :
    Projected s paths item v := by
  by_cases hkind : item.kind = .document
  · obtain ⟨d, rfl⟩ := Value.exists_of_kind_document hkind
    obtain ⟨p, hp, rfl⟩ := exists_of_projectItem h
    exact projected_of_projectDocument hp
  · rw [projectItem_of_kind_ne hkind] at h
    cases h
    exact .other hkind

variable {μ : Type}

theorem only_eq (c : Collection μ) (paths : List String) :
    c.only paths = (c.items.mapM (projectItem c.context.paths paths)).map c.collect := by
  have hitems : c.only paths = do
      return c.collect (← c.items.mapM (projectItem c.context.paths paths)) := rfl
  rw [hitems]
  cases c.items.mapM (projectItem c.context.paths paths) <;> rfl

/-- Projecting to paths is refused, as an invalid argument, exactly when one of them leads somewhere
in a document of the collection and has an empty segment. Otherwise every path reads in each
document exactly as it did before, and nothing can be read there that is not on the way to where one
of these paths leads or beyond that; items that are no documents stay as they are. -/
theorem only_projects (c : Collection μ) (paths : List String) :
    ((∃ e, c.only paths = .error e) ↔ ∃ d, .document d ∈ c.items ∧
      ∃ path ∈ paths, (c.context.paths.get? d path).isSome = true ∧
        "" ∈ c.context.paths.split path) ∧
    (∀ e, c.only paths = .error e → e.kind = .invalidArgument) ∧
    ∀ c', c.only paths = .ok c' →
      c'.context = c.context ∧ List.Forall₂ (Projected c.context.paths paths) c.items c'.items := by
  rw [only_eq]
  rcases mapM_cases (projectItem c.context.paths paths) c.items with
    ⟨item, hmem, e, he, heq⟩ | ⟨items, heq, hall⟩
  · obtain ⟨hkind, d, rfl, hrefused⟩ := projectItem_eq_error he
    rw [heq]
    exact ⟨⟨fun _ => ⟨d, hmem, hrefused⟩, fun _ => ⟨e, rfl⟩⟩, fun _ h => by cases h; exact hkind,
      nofun⟩
  · rw [heq]
    refine ⟨⟨nofun, ?_⟩, nofun, ?_⟩
    · rintro ⟨d, hmem, path, hpath, hrefused⟩
      obtain ⟨v, -, hv⟩ := Entries.exists_of_mem_forall₂ hall hmem
      obtain ⟨p, hp, -⟩ := exists_of_projectItem hv
      exact absurd hrefused ((projectDocument_eq_ok hp).2 path hpath)
    · rintro c' ⟨⟩
      exact ⟨rfl, hall.imp fun _ _ => projected_of_projectItem⟩

/-- Paths that run into one another, two spellings of one position, and paths that lead nowhere; an
item that is no document; and a path with an empty segment, which is refused only where it leads
somewhere. -/
theorem only_projects_aliased :
    let s : PathSyntax := {}
    let d : Document := ⟨[("a", .array [.null, .document ⟨[("x", .signed 1), ("y", .null)]⟩]),
      ("b", .document ⟨[("x", .bool true), ("y", .null)]⟩), ("c", .null)]⟩
    let p : Document := ⟨[("a", .document ⟨[("1", .document ⟨[("x", .signed 1)]⟩),
      ("+01", .document ⟨[("x", .signed 1), ("y", .null)]⟩)]⟩),
      ("b", .document ⟨[("x", .bool true), ("y", .null)]⟩)]⟩
    let c : Collection Unit := .new .standard [.document d, .string "a.1"]
    let paths := ["a.1.x", "a.+01", "b.y", "b", "b.x", "a.2", "a..x"]
    (∃ c', c.only paths = .ok c' ∧ c'.items = [.document p, .string "a.1"] ∧
      List.Forall₂ (Projected s paths) c.items c'.items) ∧
    ∃ e, (c.collect [.document ⟨[("", .document d)]⟩]).only [".c"] = .error e ∧
      e.kind = .invalidArgument := by
  intro s d p c paths
  have honly : c.only paths = .ok (c.collect [.document p, .string "a.1"]) := by cbv
  have hrefused : (c.collect [.document ⟨[("", .document d)]⟩]).only [".c"] =
      .error (.emptySegment ".c") := by cbv
  obtain ⟨-, -, hprojects⟩ := only_projects c paths
  obtain ⟨-, hkind, -⟩ := only_projects (c.collect [.document ⟨[("", .document d)]⟩]) [".c"]
  exact ⟨⟨_, honly, rfl, (hprojects _ honly).2⟩, _, hrefused, hkind _ hrefused⟩

end Collection

end Dossier
