import Dossier.Proofs.Path.Removal
import Mathlib.Data.List.Forall2

/-! Writing and taking out respect equality. Alike values into which alike values are put, or out of
which the same segments take something, stay alike, however their keys are ordered and whatever
kinds their numbers are of. One step down and one step back suffice: both look at the kind of a
value, at its keys and at its length, and alike values have these in common. -/

namespace Dossier

section Lists

variable {α β : Type} {r : α → β → Prop} {xs : List α} {ys : List β}

theorem forall₂_set (h : List.Forall₂ r xs ys) (i : Nat) {x : α} {y : β} (hxy : r x y) :
    List.Forall₂ r (xs.set i x) (ys.set i y) := by
  induction h generalizing i with
  | nil => exact .nil
  | cons hab htail ih =>
    cases i with
    | zero => exact .cons hxy htail
    | succ i => exact .cons hab (ih i)

theorem forall₂_eraseIdx (h : List.Forall₂ r xs ys) (i : Nat) :
    List.Forall₂ r (xs.eraseIdx i) (ys.eraseIdx i) := by
  induction h generalizing i with
  | nil => exact .nil
  | cons hab htail ih =>
    cases i with
    | zero => exact htail
    | succ i => exact .cons hab (ih i)

end Lists

section Options

variable {α β γ δ : Type} {r : α → β → Prop} {q : γ → δ → Prop} {a : Option α} {b : Option β}

theorem rel_cases (h : Option.Rel r a b) :
    (a = none ∧ b = none) ∨ ∃ x y, a = some x ∧ b = some y ∧ r x y := by
  cases h with
  | none => exact .inl ⟨rfl, rfl⟩
  | some hxy => exact .inr ⟨_, _, rfl, rfl, hxy⟩

theorem rel_elim {x : γ} {y : δ} {f : α → γ} {g : β → δ} (h : Option.Rel r a b) (hxy : q x y)
    (hfg : ∀ a b, r a b → q (f a) (g b)) : q (a.elim x f) (b.elim y g) := by
  cases h with
  | none => exact hxy
  | some hab => exact hfg _ _ hab

end Options

abbrev Document.Alike (d e : Document) : Prop := (Value.document d).Alike (.document e)

namespace Value.Alike

variable {v w c x : Value} {d e : Document}

theorem trans {u : Value} (huv : u.Alike v) (hvw : v.Alike w) : u.Alike w :=
  ⟨huv.wellFormed, equal_trans huv.wellFormed hvw.wellFormed huv.equal hvw.equal⟩

/-! ### One step -/

theorem insert (h : d.Alike e) (key : String) (hc : c.Alike x) :
    (d.insert key c).Alike (e.insert key x) := by
  have hd : (d.insert key c).keys.Nodup := Entries.nodup_keys_insert h.nodup_keys key c
  have he : (e.insert key x).keys.Nodup := Entries.nodup_keys_insert h.symm.nodup_keys key x
  refine (alike_document hd he).mpr fun other => ?_
  by_cases hkey : key = other
  · subst hkey
    rw [Document.get?_insert_self, Document.get?_insert_self]
    exact .some hc
  · rw [Document.get?_insert_of_ne hkey, Document.get?_insert_of_ne hkey]
    exact h.get? other

theorem erase (h : d.Alike e) (key : String) :
    (d.erase key).Alike (e.erase key) := by
  have hd : (d.erase key).keys.Nodup := Entries.nodup_keys_erase h.nodup_keys key
  have he : (e.erase key).keys.Nodup := Entries.nodup_keys_erase h.symm.nodup_keys key
  refine (alike_document hd he).mpr fun other => ?_
  by_cases hkey : key = other
  · subst hkey
    rw [Document.get?_erase_self h.nodup_keys, Document.get?_erase_self h.symm.nodup_keys]
    exact .none
  · rw [Document.get?_erase_of_ne hkey, Document.get?_erase_of_ne hkey]
    exact h.get? other

theorem empty : Document.empty.Alike .empty := .refl ⟨List.nodup_nil, trivial⟩

theorem setChild (h : v.Alike w) (segment : String) (hc : c.Alike x) :
    (v.setChild segment c).Alike (w.setChild segment x) := by
  have hk := h.kind_eq
  have hnew := empty.insert segment hc
  cases v with
  | document d =>
    obtain ⟨e, rfl⟩ := h.exists_document
    exact h.insert segment hc
  | array xs =>
    obtain ⟨ys, rfl, hs⟩ := h.exists_array
    unfold Value.setChild
    cases PathSyntax.index? segment with
    | none => exact hnew
    | some i =>
      -- Alike arrays are of one length, so the position is in both or in neither.
      simp only [hs.length_eq]
      split_ifs
      · exact alike_array.mpr (forall₂_set hs i hc)
      · exact hnew
  | _ =>
    cases w <;> cases hk
    exact hnew

theorem dropChild (h : v.Alike w) (segment : String) :
    (v.dropChild segment).Alike (w.dropChild segment) := by
  have hk := h.kind_eq
  cases v with
  | document d =>
    obtain ⟨e, rfl⟩ := h.exists_document
    exact h.erase segment
  | array xs =>
    obtain ⟨ys, rfl, hs⟩ := h.exists_array
    unfold Value.dropChild
    cases PathSyntax.index? segment with
    | none => exact h
    | some i => exact alike_array.mpr (forall₂_eraseIdx hs i)
  | _ =>
    cases w <;> cases hk
    exact h

/-! ### All steps -/

theorem null : Value.null.Alike .null := .refl trivial

theorem write (h : v.Alike w) (segments : List String) (hc : c.Alike x) :
    (v.write segments c).Alike (w.write segments x) := by
  induction segments generalizing v w with
  | nil => exact hc
  | cons segment rest ih => exact h.setChild segment (ih (rel_getD (h.child? segment) null))

theorem remainder? (h : v.Alike w) (segments : List String) :
    Option.Rel Alike (v.remainder? segments) (w.remainder? segments) := by
  induction segments generalizing v w with
  | nil => exact .none
  | cons segment rest ih =>
    rcases rel_cases (h.child? segment) with ⟨hv, hw⟩ | ⟨c, x, hv, hw, hcx⟩
    · rw [remainder?_of_child?_eq_none hv, remainder?_of_child?_eq_none hw]
      exact .some h
    · rw [remainder?_of_child? hv, remainder?_of_child? hw]
      exact .some (rel_elim (ih hcx) (h.dropChild segment) fun _ _ hrest => h.setChild segment hrest)

end Value.Alike

/-! ### Runs -/

/-- Two runs that are refused for the same reason, or that both give something, the one related to
the other. -/
inductive SameEnd {ε α β : Type} (r : α → β → Prop) : Except ε α → Except ε β → Prop where
  | refuse (e : ε) : SameEnd r (.error e) (.error e)
  | give {a : α} {b : β} (h : r a b) : SameEnd r (.ok a) (.ok b)

namespace SameEnd

variable {ε α β γ δ : Type} {r : α → β → Prop} {q : γ → δ → Prop}

theorem bind {x : Except ε α} {y : Except ε β} {f : α → Except ε γ} {g : β → Except ε δ}
    (h : SameEnd r x y) (hfg : ∀ a b, r a b → SameEnd q (f a) (g b)) :
    SameEnd q (x >>= f) (y >>= g) := by
  cases h with
  | refuse e => exact .refuse e
  | give hab => exact hfg _ _ hab

theorem foldlM {f : α → γ → Except ε α} {g : β → γ → Except ε β}
    (hfg : ∀ a b x, r a b → SameEnd r (f a x) (g b x)) (l : List γ) {a : α} {b : β} (h : r a b) :
    SameEnd r (l.foldlM f a) (l.foldlM g b) := by
  induction l generalizing a b with
  | nil => exact .give h
  | cons x l ih =>
    rw [List.foldlM_cons, List.foldlM_cons]
    exact (hfg a b x h).bind fun _ _ => ih

theorem mapM {f : α → Except ε γ} {g : β → Except ε δ} {as : List α} {bs : List β}
    (h : List.Forall₂ r as bs) (hfg : ∀ a b, r a b → SameEnd q (f a) (g b)) :
    SameEnd (List.Forall₂ q) (as.mapM f) (bs.mapM g) := by
  induction h with
  | nil => exact .give .nil
  | cons hab _ ih =>
    rw [List.mapM_cons, List.mapM_cons]
    exact (hfg _ _ hab).bind fun _ _ hfirst => ih.bind fun _ _ hrest => .give (.cons hfirst hrest)

end SameEnd

/-! ### Paths -/

namespace PathSyntax

variable {d e : Document} {v w : Value}

theorem rel_get? (h : d.Alike e) (s : PathSyntax) (path : String) :
    Option.Rel Value.Alike (s.get? d path) (s.get? e path) := by
  by_cases hp : path = ""
  · rw [hp]
    exact .none
  · rw [get?_of_ne hp, get?_of_ne hp]
    exact h.follow? (s.split path)

theorem alike_unset (h : d.Alike e) (s : PathSyntax) (path : String) :
    (s.unset d path).2.Alike (s.unset e path).2 := by
  by_cases hp : path = ""
  · rw [unset, unset, if_pos hp, if_pos hp]
    exact h
  · have hleft := h.remainder? (s.split path)
    rw [s.document_unset d hp, s.document_unset e hp] at hleft
    cases hleft with
    | some h => exact h

theorem alike_writeDocument (h : d.Alike e) {segments : List String} (hne : segments ≠ [])
    (hv : v.Alike w) : (writeDocument d segments v).Alike (writeDocument e segments w) := by
  unfold Document.Alike
  rw [document_writeDocument d hne, document_writeDocument e hne]
  exact h.write segments hv

/-- Whether a write is refused depends on the path alone. -/
theorem sameEnd_set (h : d.Alike e) (s : PathSyntax) (path : String) (hv : v.Alike w) :
    SameEnd Document.Alike (s.set d path v) (s.set e path w) := by
  rw [set_eq, set_eq]
  split_ifs
  · exact .refuse _
  · exact .refuse _
  · exact .give (alike_writeDocument h (s.split_ne_nil path) hv)

end PathSyntax

end Dossier
