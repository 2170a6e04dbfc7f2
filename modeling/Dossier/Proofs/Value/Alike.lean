import Dossier.Path.Access
import Dossier.Proofs.Value.Order

/-! Equal values are alike in all that is seen of them through equality, through the order and along
paths: what one of them has under a key or at a position the other has too, up to equality. -/

namespace Dossier

section Options

variable {α β : Type} {r : α → α → Prop} {q : β → β → Prop}

theorem rel_getElem? {r : α → β → Prop} {xs : List α} {ys : List β} (h : List.Forall₂ r xs ys)
    (i : Nat) : Option.Rel r xs[i]? ys[i]? := by
  induction h generalizing i with
  | nil => exact .none
  | cons hxy _ ih =>
    cases i with
    | zero => exact .some hxy
    | succ i => exact ih i

theorem rel_bind {a b : Option α} {f g : α → Option β} (h : Option.Rel r a b)
    (hfg : ∀ x y, r x y → Option.Rel q (f x) (g y)) : Option.Rel q (a.bind f) (b.bind g) := by
  cases h with
  | none => exact .none
  | some hxy => exact hfg _ _ hxy

theorem rel_getD {a b : Option α} {x y : α} (h : Option.Rel r a b) (hxy : r x y) :
    r (a.getD x) (b.getD y) := by
  cases h with
  | none => exact hxy
  | some hab => exact hab

end Options

namespace Value

/-! ### Equality keeps well-formedness -/

theorem perm_keys_of_equal {d e : Document} (hn : d.keys.Nodup)
    (h : (document d).equal (document e) = true) : d.keys.Perm e.keys := by
  rw [equal_document hn] at h
  have hkeys := Entries.keys_eq_of_forall₂ h
  exact (Entries.perm_keys_sortByKey d.entries).symm.trans
    (hkeys ▸ Entries.perm_keys_sortByKey e.entries)

/-- Each entry of one of two equal documents has a counterpart in the other. -/
theorem exists_entry_of_equal {d e : Document} (hn : d.keys.Nodup)
    (h : (document d).equal (document e) = true) :
    (∀ a ∈ d.entries, ∃ b ∈ e.entries, a.1 = b.1 ∧ a.2.equal b.2 = true) ∧
      ∀ b ∈ e.entries, ∃ a ∈ d.entries, a.1 = b.1 ∧ a.2.equal b.2 = true := by
  rw [equal_document hn] at h
  constructor
  · intro a ha
    obtain ⟨b, hb, hab⟩ := Entries.exists_of_mem_forall₂ h (Entries.mem_sortByKey.mpr ha)
    exact ⟨b, Entries.mem_sortByKey.mp hb, hab⟩
  · intro b hb
    obtain ⟨a, ha, hab⟩ := Entries.exists_of_mem_forall₂ h.flip (Entries.mem_sortByKey.mpr hb)
    exact ⟨a, Entries.mem_sortByKey.mp ha, hab⟩

theorem wellFormed_of_equal {v w : Value} (hv : v.WellFormed) (h : v.equal w = true) :
    w.WellFormed := by
  have hk := kind_eq_of_equal h
  induction v using inductionOn generalizing w with
  | array xs ih =>
    cases w with
    | array ys =>
      rw [wellFormed_array] at hv ⊢
      rw [equal_array] at h
      intro y hy
      obtain ⟨x, hx, hxy⟩ := Entries.exists_of_mem_forall₂ h.flip hy
      exact ih x hx (hv x hx) hxy (kind_eq_of_equal hxy)
    | _ => cases hk
  | document d ih =>
    cases w with
    | document e =>
      rw [wellFormed_document] at hv ⊢
      refine ⟨(perm_keys_of_equal hv.1 h).nodup_iff.mp hv.1, fun b hb => ?_⟩
      obtain ⟨a, ha, -, hab⟩ := (exists_entry_of_equal hv.1 h).2 b hb
      exact ih a ha (hv.2 a ha) hab (kind_eq_of_equal hab)
    | _ => cases hk
  | _ =>
    cases w <;> cases hk
    trivial

/-! ### Alike -/

/-- Equal values in whose documents no key comes twice. -/
structure Alike (v w : Value) : Prop where
  wellFormed : v.WellFormed
  equal : v.equal w = true

namespace Alike

variable {u v w : Value}

theorem wellFormed_right (h : v.Alike w) : w.WellFormed := wellFormed_of_equal h.wellFormed h.equal

theorem symm (h : v.Alike w) : w.Alike v :=
  ⟨h.wellFormed_right, equal_symm h.wellFormed h.wellFormed_right h.equal⟩

theorem kind_eq (h : v.Alike w) : v.kind = w.kind := kind_eq_of_equal h.equal

theorem compare_eq (h : v.Alike w) : v.compare w = .eq :=
  (equal_iff_compare h.wellFormed w).mp h.equal

theorem compare_congr {a b : Value} (h : v.Alike w) (hab : a.Alike b) :
    v.compare a = w.compare b := by
  have hleft : v.compare a = w.compare a := Std.TransCmp.congr_left h.compare_eq
  have hright : w.compare a = w.compare b := Std.TransCmp.congr_right hab.compare_eq
  exact hleft.trans hright

theorem equal_congr {a b : Value} (h : v.Alike w) (hab : a.Alike b) :
    v.equal a = w.equal b := by
  rw [Bool.eq_iff_iff, equal_iff_compare h.wellFormed, equal_iff_compare h.wellFormed_right,
    h.compare_congr hab]

end Alike

theorem alike_array {xs ys : List Value} :
    (array xs).Alike (array ys) ↔ List.Forall₂ Alike xs ys := by
  constructor
  · rintro ⟨hwf, heq⟩
    rw [wellFormed_array] at hwf
    rw [equal_array] at heq
    exact Entries.forall₂_imp_of_mem (fun x hx y hxy => ⟨hwf x hx, hxy⟩) heq
  · intro h
    refine ⟨wellFormed_array.mpr fun x hx => ?_,
      (equal_array xs ys).mpr (h.imp fun _ _ => Alike.equal)⟩
    obtain ⟨y, -, hxy⟩ := Entries.exists_of_mem_forall₂ h hx
    exact hxy.wellFormed

namespace Alike

theorem exists_array {xs : List Value} {w : Value} (h : (array xs).Alike w) :
    ∃ ys, w = array ys ∧ List.Forall₂ Alike xs ys := by
  have hk := h.kind_eq
  cases w with
  | array ys => exact ⟨ys, rfl, alike_array.mp h⟩
  | _ => cases hk

theorem exists_document {d : Document} {w : Value} (h : (document d).Alike w) :
    ∃ e, w = document e := by
  have hk := h.kind_eq
  cases w with
  | document e => exact ⟨e, rfl⟩
  | _ => cases hk

theorem eq_string {s : String} {w : Value} (h : (string s).Alike w) : w = string s := by
  have hk := h.kind_eq
  cases w with
  | string t =>
    have ht := h.equal
    rw [Value.equal, beq_iff_eq] at ht
    rw [ht]
  | _ => cases hk

variable {d e : Document}

theorem nodup_keys (h : (document d).Alike (document e)) : d.keys.Nodup :=
  (wellFormed_document.mp h.wellFormed).1

theorem exists_entry (h : (document d).Alike (document e)) {a : String × Value}
    (ha : a ∈ d.entries) : ∃ b ∈ e.entries, a.1 = b.1 ∧ a.2.Alike b.2 := by
  obtain ⟨b, hb, hkey, hab⟩ := (exists_entry_of_equal h.nodup_keys h.equal).1 a ha
  exact ⟨b, hb, hkey, (wellFormed_document.mp h.wellFormed).2 a ha, hab⟩

/-! ### Along paths -/

theorem get? (h : (document d).Alike (document e)) (key : String) :
    Option.Rel Alike (d.get? key) (e.get? key) := by
  cases hv : d.get? key with
  | some v =>
    obtain ⟨⟨k, w⟩, hb, hkey, hvw⟩ := h.exists_entry (Entries.mem_of_get? hv)
    obtain rfl : key = k := hkey
    have hw : e.get? key = some w := (Entries.get?_eq_some_iff h.symm.nodup_keys).mpr hb
    rw [hw]
    exact .some hvw
  | none =>
    have hd : key ∉ d.keys := (Entries.get?_eq_none_iff key d.entries).mp hv
    rw [(perm_keys_of_equal h.nodup_keys h.equal).mem_iff] at hd
    have he : e.get? key = none := (Entries.get?_eq_none_iff key e.entries).mpr hd
    rw [he]
    exact .none

theorem child? {v w : Value} (h : v.Alike w) (segment : String) :
    Option.Rel Alike (v.child? segment) (w.child? segment) := by
  have hk := h.kind_eq
  cases v with
  | document d =>
    obtain ⟨e, rfl⟩ := h.exists_document
    exact h.get? segment
  | array xs =>
    obtain ⟨ys, rfl, hs⟩ := h.exists_array
    rw [Value.child?, Value.child?]
    cases PathSyntax.index? segment with
    | none => exact .none
    | some i => exact rel_getElem? hs i
  | _ =>
    cases w <;> cases hk
    exact .none

theorem follow? {v w : Value} (h : v.Alike w) (segments : List String) :
    Option.Rel Alike (v.follow? segments) (w.follow? segments) := by
  induction segments generalizing v w with
  | nil => exact .some h
  | cons segment rest ih => exact rel_bind (h.child? segment) fun _ _ hc => ih hc

/-- Reading at a path gives alike values, null where the path leads nowhere. -/
theorem getValue? {v w : Value} (h : v.Alike w) (s : PathSyntax) (path : String) :
    ((s.getValue? v path).getD .null).Alike ((s.getValue? w path).getD .null) := by
  have hnull : null.Alike null := ⟨trivial, by rw [Value.equal]⟩
  unfold PathSyntax.getValue?
  split_ifs
  · exact hnull
  · exact rel_getD (h.follow? (s.split path)) hnull

end Alike

end Value

end Dossier
