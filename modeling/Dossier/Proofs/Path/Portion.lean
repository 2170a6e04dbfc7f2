import Dossier.Proofs.Path.Lens

/-! Portions of a value. A portion is nothing, the value as a whole, or a document of portions of
its children, each under a segment that names the child. So an array that only some items are taken
from comes out as a document, and one item can stand there under several spellings of its position.
What is copied from a value, path by path and in any order, is a portion of it all the time, since
each copy finds room at the end of its path or finds there what it would write. -/

namespace Dossier

namespace Value

/-- What there may be of a value: nothing, the value itself, or a document of what there may be of
its children. -/
inductive Portion : Option Value → Value → Prop
  | nothing (v : Value) : Portion none v
  | whole (v : Value) : Portion (some v) v
  | made {v : Value} {d : Document} (hnone : ∀ key, v.child? key = none → d.get? key = none)
      (hsome : ∀ key c, v.child? key = some c → Portion (d.get? key) c) :
      Portion (some (document d)) v

variable {there : Option Value} {v w : Value} {segments : List String}

theorem portion_empty (v : Value) : Portion (some (document .empty)) v :=
  .made (fun _ _ => rfl) fun _ c _ => .nothing c

namespace Portion

/-! ### Reading -/

theorem child? (h : Portion there v) {segment : String} {c : Value}
    (hc : v.child? segment = some c) : Portion (there.bind (·.child? segment)) c := by
  cases h with
  | nothing => exact .nothing c
  | whole =>
    rw [Option.bind_some, hc]
    exact .whole c
  | made hnone hsome => exact hsome segment c hc

theorem child?_eq_none (h : Portion there v) {segment : String} (hv : v.child? segment = none) :
    there.bind (·.child? segment) = none := by
  cases h with
  | nothing => rfl
  | whole => exact hv
  | made hnone hsome => exact hnone segment hv

theorem follow?_eq_none (h : Portion there v) (hv : v.follow? segments = none) :
    there.bind (·.follow? segments) = none := by
  induction segments generalizing there v with
  | nil => cases hv
  | cons segment rest ih =>
    change there.bind (fun u => (u.child? segment).bind (·.follow? rest)) = none
    rw [← Option.bind_assoc]
    cases hc : v.child? segment with
    | none => rw [h.child?_eq_none hc, Option.bind_none]
    | some c =>
      rw [Value.follow?, hc] at hv
      exact ih (h.child? hc) hv

/-! ### Copying -/

/-- Unless it is the whole value, a portion is read and written below as a document that is one. -/
theorem exists_document (h : Portion there v) :
    there = some v ∨ ∃ d, Portion (some (document d)) v ∧ ∀ segment rest,
      there.bind (·.follow? (segment :: rest)) = (d.get? segment).bind (·.follow? rest) ∧
      ∀ new, (there.getD .null).write (segment :: rest) new =
        document (d.insert segment (((d.get? segment).getD .null).write rest new)) := by
  cases h with
  | nothing => exact .inr ⟨.empty, portion_empty v, fun _ _ => ⟨rfl, fun _ => rfl⟩⟩
  | whole => exact .inl rfl
  | @made _ d hnone hsome => exact .inr ⟨d, .made hnone hsome, fun _ _ => ⟨rfl, fun _ => rfl⟩⟩

theorem insert {d : Document} (h : Portion (some (document d)) v) {key : String} {c u : Value}
    (hu : v.child? key = some u) (hc : Portion (some c) u) :
    Portion (some (document (d.insert key c))) v := by
  refine .made (fun other hother => ?_) fun other x hx => ?_
  · have hne : key ≠ other := by
      rintro rfl
      rw [hu] at hother
      cases hother
    rw [Document.get?_insert_of_ne hne]
    exact h.child?_eq_none hother
  · by_cases hkey : key = other
    · subst hkey
      obtain rfl := Option.some.inj (hu.symm.trans hx)
      rwa [Document.get?_insert_self]
    · rw [Document.get?_insert_of_ne hkey]
      exact h.child? hx

/-- What segments lead to is copied into a portion, which stays one. -/
theorem write (h : Portion there v) (hw : v.follow? segments = some w) :
    Portion (some ((there.getD .null).write segments w)) v := by
  induction segments generalizing there v with
  | nil => exact Option.some.inj hw ▸ .whole v
  | cons segment rest ih =>
    rcases h.exists_document with rfl | ⟨d, hd, hdoc⟩
    · rw [Option.getD_some, write_of_follow? hw]
      exact .whole v
    · obtain ⟨u, hu, hrest⟩ := Option.bind_eq_some_iff.mp hw
      rw [(hdoc segment rest).2]
      exact hd.insert hu (ih (hd.child? hu) hrest)

/-- What was copied before is still there after another copy. -/
theorem follow?_write_of_copied (h : Portion there v) (hw : v.follow? segments = some w)
    {copied : List String} {u : Value} (hu : v.follow? copied = some u)
    (hthere : there.bind (·.follow? copied) = some u) :
    ((there.getD .null).write segments w).follow? copied = some u := by
  induction segments generalizing there v copied with
  | nil => exact Option.some.inj hw ▸ hu
  | cons segment rest ih =>
    by_cases hwhole : there = some v
    · rw [hwhole, Option.getD_some, write_of_follow? hw]
      exact hu
    obtain ⟨d, hd, hdoc⟩ := h.exists_document.resolve_left hwhole
    cases copied with
    | nil => exact absurd (by simpa [Value.follow?, ← hu] using hthere) hwhole
    | cons first others =>
      rw [(hdoc first others).1] at hthere
      rw [(hdoc segment rest).2, Value.follow?, child?_document]
      -- A row that starts with another key stays aside, even if both keys name one item.
      by_cases hfirst : segment = first
      · subst hfirst
        obtain ⟨x, hx, hrest⟩ := Option.bind_eq_some_iff.mp hw
        rw [Value.follow?, hx] at hu
        rw [Document.get?_insert_self]
        exact ih (hd.child? hx) hrest hu hthere
      · rwa [Document.get?_insert_of_ne hfirst]

/-- A copy adds no way but those that its segments go on and those that go on from there. -/
theorem exists_of_follow?_write (h : Portion there v) (hw : v.follow? segments = some w)
    {way : List String} (hway : ((there.getD .null).write segments w).follow? way ≠ none) :
    way <+: segments ∨ segments <+: way ∨ there.bind (·.follow? way) ≠ none := by
  induction segments generalizing there v way with
  | nil => exact .inr (.inl List.nil_prefix)
  | cons segment rest ih =>
    rcases h.exists_document with rfl | ⟨d, hd, hdoc⟩
    · rw [Option.getD_some, write_of_follow? hw] at hway
      exact .inr (.inr hway)
    cases way with
    | nil => exact .inl List.nil_prefix
    | cons first others =>
      rw [(hdoc segment rest).2, Value.follow?, child?_document] at hway
      rw [(hdoc first others).1]
      by_cases hfirst : segment = first
      · subst hfirst
        obtain ⟨x, hx, hrest⟩ := Option.bind_eq_some_iff.mp hw
        rw [Document.get?_insert_self] at hway
        rw [List.prefix_cons_inj, List.prefix_cons_inj]
        exact ih (hd.child? hx) hrest hway
      · rw [Document.get?_insert_of_ne hfirst] at hway
        exact .inr (.inr hway)

end Portion

end Value

theorem PathSyntax.get?_eq_none_of_portion {p d : Document}
    (h : Value.Portion (some (.document p)) (.document d)) {s : PathSyntax} {path : String}
    (hd : s.get? d path = none) : s.get? p path = none := by
  by_cases hp : path = ""
  · rw [hp]
    rfl
  · rw [get?_of_ne hp] at hd ⊢
    exact h.follow?_eq_none hd

end Dossier
