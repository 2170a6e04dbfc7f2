import Dossier.Proofs.Model.Traversal

/-! A document taken apart into its leaves and put together again. A walk without a limit names each
leaf by the keys that lead to it. Leaves that are written one after the other come, each in its
turn, as the next new entry of the document that they belong to, so the same document is made in the
same order. -/

namespace Dossier

/-! ### Writing -/

/-- A value with leaves written into it one after the other. -/
def Value.writeAll (v : Value) (leaves : List Leaf) : Value :=
  leaves.foldl (fun v leaf => v.write leaf.keys leaf.value) v

namespace Value

theorem writeAll_cons (v : Value) (leaf : Leaf) (leaves : List Leaf) :
    v.writeAll (leaf :: leaves) = (v.write leaf.keys leaf.value).writeAll leaves := rfl

theorem writeAll_append (v : Value) (as bs : List Leaf) :
    v.writeAll (as ++ bs) = (v.writeAll as).writeAll bs := List.foldl_append

/-- A leaf under a key is written into the value under that key, which is null at first. -/
theorem write_under (d : Document) (key : String) (leaf : Leaf) :
    (document d).write (leaf.under key).keys (leaf.under key).value =
      document (d.insert key (((d.get? key).getD .null).write leaf.keys leaf.value)) := rfl

theorem writeAll_under (d : Document) (key : String) {leaves : List Leaf} (h : leaves ≠ []) :
    (document d).writeAll (leaves.map (Leaf.under key)) =
      document (d.insert key (((d.get? key).getD .null).writeAll leaves)) := by
  induction leaves generalizing d with
  | nil => exact absurd rfl h
  | cons leaf rest ih =>
    rw [List.map_cons, writeAll_cons, writeAll_cons, write_under]
    by_cases hrest : rest = []
    · subst hrest
      rfl
    · -- What the first leaf put under the key is what the others are written into.
      rw [ih _ hrest, Document.get?_insert_self, Option.getD_some, Document.insert_insert]

/-- Null gives way to a document at the first key. -/
theorem writeAll_null {leaves : List Leaf} (h : leaves ≠ [])
    (hkeys : ∀ leaf ∈ leaves, leaf.keys ≠ []) :
    null.writeAll leaves = (document .empty).writeAll leaves := by
  obtain ⟨leaf, rest, rfl⟩ := List.exists_cons_of_ne_nil h
  obtain ⟨key, keys, hk⟩ := List.exists_cons_of_ne_nil (hkeys leaf List.mem_cons_self)
  rw [writeAll_cons, writeAll_cons, hk]
  rfl

end Value

namespace Document

/-- The leaves under new keys come behind all that is there already, if each value is made out of
null by writing its leaves. -/
theorem writeAll_leavesOf {es : List (String × Value)}
    (hes : ∀ e ∈ es, e.2.leaves ≠ [] ∧ Value.null.writeAll e.2.leaves = e.2)
    (done : List (String × Value)) (hkeys : (Entries.keys (done ++ es)).Nodup) :
    (Value.document ⟨done⟩).writeAll (leavesOf es) = .document ⟨done ++ es⟩ := by
  -- The document always has the entries that are done, in their order, and nothing else.
  induction es generalizing done with
  | nil => rw [List.append_nil]; rfl
  | cons e rest ih =>
    obtain ⟨key, v⟩ := e
    rw [List.forall_mem_cons] at hes
    obtain ⟨⟨hleaves, hv⟩, hrest⟩ := hes
    have hnew : key ∉ Entries.keys done := by
      simp only [Entries.keys, List.map_append, List.map_cons] at hkeys
      intro hmem
      exact (List.nodup_append.mp hkeys).2.2 key hmem key List.mem_cons_self rfl
    have hget : (Document.mk done).get? key = none := (Entries.get?_eq_none_iff key done).mpr hnew
    rw [leavesOf, Value.writeAll_append, Value.writeAll_under _ _ hleaves, hget, Option.getD_none,
      hv, insert, Entries.insert_of_not_mem hnew, ih hrest _ (by simpa using hkeys),
      List.append_assoc, List.singleton_append]

theorem writeAll_of_entries {d : Document} (hkeys : d.keys.Nodup)
    (h : ∀ e ∈ d.entries, e.2.leaves ≠ [] ∧ Value.null.writeAll e.2.leaves = e.2) :
    (Value.document .empty).writeAll d.leaves = .document d := by
  obtain ⟨es⟩ := d
  exact writeAll_leavesOf h [] hkeys

end Document

/-- Whether no document that is a value of this one, or of one nested in it, is empty. -/
def Document.Full (d : Document) : Prop := ∀ key v, d.Nests key v → v ≠ .document .empty

theorem Document.Full.entry {d : Document} (h : d.Full) {key : String} {e : Document}
    (he : (key, .document e) ∈ d.entries) : e ≠ .empty ∧ e.Full := by
  refine ⟨?_, fun k v hv => h k v (.inner he hv)⟩
  rintro rfl
  exact h key _ (.here he) rfl

theorem Value.writeAll_leaves {v : Value} (hv : v.WellFormed)
    (hfull : ∀ d, v = .document d → d ≠ .empty ∧ d.Full) :
    v.leaves ≠ [] ∧ null.writeAll v.leaves = v := by
  induction v using Value.inductionOn with
  | document d ih =>
    obtain ⟨hkeys, hvalues⟩ := wellFormed_document.mp hv
    obtain ⟨hne, hd⟩ := hfull d rfl
    have hentry : ∀ e ∈ d.entries, e.2.leaves ≠ [] ∧ null.writeAll e.2.leaves = e.2 := by
      rintro ⟨key, w⟩ he
      refine ih _ he (hvalues _ he) ?_
      rintro e rfl
      exact hd.entry he
    have hleaves : d.leaves ≠ [] := by
      obtain ⟨es⟩ := d
      cases es with
      | nil => exact absurd rfl hne
      | cons e rest =>
        have hfirst := (hentry e List.mem_cons_self).1
        simp [Document.leaves_eq_flatMap, hfirst]
    refine ⟨hleaves, ?_⟩
    rw [leaves, writeAll_null hleaves fun leaf h => (Document.nests_of_mem_leaves leaf h).1]
    exact Document.writeAll_of_entries hkeys hentry
  | _ => exact ⟨List.cons_ne_nil _ _, rfl⟩

theorem Document.writeAll_leaves {d : Document} (hd : d.WellFormed) (hfull : d.Full) :
    (Value.document .empty).writeAll d.leaves = .document d := by
  obtain ⟨hkeys, hvalues⟩ := wellFormed_iff.mp hd
  refine writeAll_of_entries hkeys fun ⟨key, v⟩ he => ?_
  refine Value.writeAll_leaves (hvalues _ he) ?_
  rintro e rfl
  exact hfull.entry he

/-! ### Rebuilding -/

section Rebuild

variable {s : PathSyntax}

theorem set_spell (hs : s.separator ≠ "") {keys : List String} (hne : keys ≠ [])
    (hkeys : ∀ key ∈ keys, s.Whole key) (d : Document) (v : Value) :
    s.set d (s.spell keys) v = .ok (PathSyntax.writeDocument d keys v) := by
  have hempty : "" ∉ keys := fun h => (hkeys "" h).ne_empty rfl
  have hspell := s.spell_ne_empty hne fun key h => (hkeys key h).ne_empty
  rw [PathSyntax.set_eq, if_neg hspell, PathSyntax.split_spell hs hne hkeys, if_neg hempty]

variable {μ : Type}

/-- Every write of leaves succeeds, and all of them together are those of the values. -/
theorem Model.foldlM_set {m : Model μ} {leaves : List Leaf}
    (h : ∀ leaf ∈ leaves, leaf.keys ≠ [] ∧ ∀ key ∈ leaf.keys, m.context.paths.Whole key)
    {d : Document} (hd : (Value.document m.document).writeAll leaves = .document d) :
    (leaves.map fun leaf => (m.context.paths.spell leaf.keys, leaf.value)).foldlM
      (fun built visit => built.set visit.1 visit.2) m = .ok (m.create d) := by
  induction leaves generalizing m with
  | nil =>
    obtain rfl := Value.document.inj hd
    rfl
  | cons leaf rest ih =>
    rw [List.forall_mem_cons] at h
    obtain ⟨⟨hne, hkeys⟩, hrest⟩ := h
    have hset : m.set (m.context.paths.spell leaf.keys) leaf.value =
        .ok (m.create (PathSyntax.writeDocument m.document leaf.keys leaf.value)) := by
      rw [Model.set, set_spell m.context.settings.separator_ne hne hkeys]
      rfl
    rw [Value.writeAll_cons, ← PathSyntax.document_writeDocument _ hne] at hd
    rw [List.map_cons, List.foldlM_cons, hset]
    exact ih (m := m.create _) hrest hd

/-- Visiting a document without a limit and writing each value that is visited at its path, in the
order of the visits, into an empty document makes the document again, if every key in it and in the
documents nested in it is a segment by itself and none of these documents is empty. The keys keep
their order at every level, no write is refused, and a key that looks like a number is a key. -/
theorem Model.foldlM_set_eachPath {ν : Type} {m : Model μ} {fresh : Model ν}
    (hpaths : fresh.context.paths = m.context.paths) (hd : m.document.WellFormed)
    (hnested : ∀ key v, m.document.Nests key v →
      m.context.paths.Whole key ∧ v ≠ .document .empty) :
    (m.eachPath none).foldlM (fun built visit => built.set visit.path visit.value)
      (fresh.create .empty) = .ok (fresh.create m.document) := by
  have hvisits := m.context.paths.map_visit_walk fun key v h => (hnested key v h).1.ne_empty
  have hleaves : ∀ leaf ∈ m.document.leaves,
      leaf.keys ≠ [] ∧ ∀ key ∈ leaf.keys, fresh.context.paths.Whole key := by
    intro leaf hleaf
    obtain ⟨hne, hkeys⟩ := Document.nests_of_mem_leaves leaf hleaf
    refine ⟨hne, fun key hkey => ?_⟩
    obtain ⟨v, hv⟩ := hkeys key hkey
    exact hpaths ▸ (hnested key v hv).1
  have hrebuilt := Document.writeAll_leaves hd fun key v h => (hnested key v h).2
  have hwrites := Model.foldlM_set (m := fresh.create .empty) hleaves hrebuilt
  rw [Model.eachPath]
  calc
    _ = ((m.context.paths.walk none m.document).map
          fun visit => (visit.path, visit.value)).foldlM
          (fun built visit => built.set visit.1 visit.2) (fresh.create .empty) := by
        rw [List.foldlM_map]
    _ = _ := by rw [hvisits, ← hpaths]; exact hwrites

/-- Documents in documents under a separator of two characters, with keys that look like positions,
one of its characters in a value, and an array with a document in it whose key is the separator. -/
theorem Model.foldlM_set_eachPath_numbered :
    let settings : Settings := { separator := "::" }
    let d : Document := ⟨[("0", .document ⟨[("1", .array [.document ⟨[("::", .null)]⟩]),
      ("0", .document ⟨[("x.y", .string ":")]⟩)]⟩), ("a", .null), ("+1", .bool true)]⟩
    let m : Model Unit := .new settings d
    (m.eachPath none).map Visit.path = ["0::1", "0::0::x.y", "a", "+1"] ∧
      (m.eachPath none).foldlM (fun built visit => built.set visit.path visit.value)
        (m.create .empty) = .ok (m.create d) := by
  intro settings d m
  have hd : d.WellFormed := ⟨by decide, ⟨by decide, ⟨⟨by decide, trivial, trivial⟩, trivial⟩,
    ⟨by decide, trivial, trivial⟩, trivial⟩, trivial, trivial, trivial⟩
  refine ⟨by cbv, Model.foldlM_set_eachPath rfl hd fun key v h => ?_⟩
  simp only [m, d, Model.new, Document.nests_cons_iff, Document.not_nests_nil, or_false, false_or,
    Value.document.injEq, exists_eq_left', reduceCtorEq, false_and, exists_false] at h
  rcases h with ⟨rfl, rfl⟩ | (⟨rfl, rfl⟩ | ⟨rfl, rfl⟩ | ⟨rfl, rfl⟩) | ⟨rfl, rfl⟩ | ⟨rfl, rfl⟩ <;>
    exact ⟨by decide, by simp [Document.empty]⟩

end Rebuild

end Dossier
