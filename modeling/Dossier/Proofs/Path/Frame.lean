import Dossier.Proofs.Path.Lens

/-! What a write leaves as it was. A second path that parts from the one written at reads as before;
where the two part shows only in the data, since an array takes several spellings of one position.
In the documents on the way every other entry stays, and a new key comes last. -/

namespace Dossier

namespace Value

/-- Two rows of segments part in a value. Walked side by side, as long as both lead to the same
child, they come to a document of which they name different keys, or to an array of which the first
names an item and the second does not name that item. -/
inductive Part : Value → List String → List String → Prop
  | keys {d : Document} {k l : String} {ks ls : List String} (hne : k ≠ l) :
      Part (document d) (k :: ks) (l :: ls)
  | items {xs : List Value} {k l : String} {i : Nat} {ks ls : List String}
      (hk : PathSyntax.index? k = some i) (hi : i < xs.length)
      (hl : PathSyntax.index? l ≠ some i) : Part (array xs) (k :: ks) (l :: ls)
  | entry {d : Document} {k : String} {c : Value} {ks ls : List String}
      (hc : d.get? k = some c) (h : Part c ks ls) : Part (document d) (k :: ks) (k :: ls)
  | item {xs : List Value} {k l : String} {i : Nat} {c : Value} {ks ls : List String}
      (hk : PathSyntax.index? k = some i) (hl : PathSyntax.index? l = some i)
      (hc : xs[i]? = some c) (h : Part c ks ls) : Part (array xs) (k :: ks) (l :: ls)

/-! ### Another path -/

theorem child?_setChild_array {xs : List Value} {k l : String} {i : Nat}
    (hk : PathSyntax.index? k = some i) (hi : i < xs.length) (hl : PathSyntax.index? l ≠ some i)
    (c : Value) : ((array xs).setChild k c).child? l = (array xs).child? l := by
  rw [setChild_array hk hi]
  cases hj : PathSyntax.index? l with
  | none => simp [child?, hj]
  | some j =>
    have hne : i ≠ j := fun hij => hl (hij ▸ hj)
    rw [child?_array hj, child?_array hj, List.getElem?_set_ne hne]

/-- What is written along one row of segments is not seen along another that parts from it. -/
theorem follow?_write_of_part {v : Value} {ks ls : List String} (h : v.Part ks ls) (new : Value) :
    (v.write ks new).follow? ls = v.follow? ls := by
  induction h with
  | keys hne =>
    simp only [write, follow?, setChild_document, child?_document, Document.get?_insert_of_ne hne]
  | items hk hi hl => rw [write, follow?, follow?, child?_setChild_array hk hi hl]
  | @entry d k c ks ls hc _ ih =>
    rw [write, follow?, follow?, child?_setChild, child?_document, hc, Option.getD_some,
      Option.bind_some, Option.bind_some, ih]
  | @item xs k l i c ks ls hk hl hc _ ih =>
    have hi : i < xs.length := (List.getElem?_eq_some_iff.mp hc).1
    rw [write, follow?, follow?, child?_array hk, child?_array hl, hc, setChild_array hk hi,
      child?_array hl, List.getElem?_set_self hi, Option.getD_some, Option.bind_some,
      Option.bind_some, ih]

/-! ### On the way -/

/-- At every place on the way that is there, the rest of the write is done. -/
theorem follow?_write_append {v w : Value} {before : List String}
    (h : v.follow? before = some w) (after : List String) (new : Value) :
    (v.write (before ++ after) new).follow? before = some (w.write after new) := by
  induction before generalizing v with
  | nil =>
    cases h
    rfl
  | cons segment before ih =>
    obtain ⟨c, hc, hrest⟩ := Option.bind_eq_some_iff.mp h
    rw [List.cons_append, write, follow?, child?_setChild, hc, Option.getD_some, Option.bind_some,
      ih hrest]

end Value

namespace PathSyntax

/-- A write at a path touches nothing else: every path that parts from it in the document reads as
before, and of each document on its way the other entries stay as they are, in their order, with the
key that is entered in its place if it was there and behind them all if it is new. -/
theorem set_frame (s : PathSyntax) {d d' : Document} {path : String} {v : Value}
    (h : s.set d path v = .ok d') :
    (∀ other, (Value.document d).Part (s.split path) (s.split other) →
      s.get? d' other = s.get? d other) ∧
    ∀ before key after e, s.split path = before ++ key :: after →
      (Value.document d).follow? before = some (.document e) →
      ∃ e', (Value.document d').follow? before = some (.document e') ∧
        (e'.entries.filter fun a => a.1 ≠ key) = (e.entries.filter fun a => a.1 ≠ key) ∧
        (key ∈ e.keys → e'.keys = e.keys) ∧
        (key ∉ e.keys → ∃ c, e'.entries = e.entries ++ [(key, c)]) := by
  obtain ⟨-, -, hwrite⟩ := set_eq_ok_iff.mp h
  constructor
  · intro other hpart
    by_cases ho : other = ""
    · rw [ho]
      rfl
    · rw [get?_of_ne ho, get?_of_ne ho, hwrite, Value.follow?_write_of_part hpart]
  · intro before key after e hsplit hbefore
    rw [hwrite, hsplit, Value.follow?_write_append hbefore, Value.write, Value.setChild_document]
    refine ⟨_, rfl, Entries.filter_insert key _ e.entries, fun hk => ?_, fun hk => ?_⟩
    · exact Entries.keys_insert_of_mem hk _
    · exact ⟨_, Entries.insert_of_not_mem hk _⟩

/-- A write through an array and a new key, against a path that spells the position of the same item
in another way and names another key of it, and one that names another item. -/
theorem set_frame_respelled :
    let s : PathSyntax := {}
    let e : Document := ⟨[("x", .signed 1), ("y", .null)]⟩
    let d : Document := ⟨[("a", .array [.document e, .bool true])]⟩
    let d' : Document := ⟨[("a", .array [.document ⟨[("x", .signed 1), ("y", .null),
      ("z", .document ⟨[("0", .signed 2)]⟩)]⟩, .bool true])]⟩
    s.set d "a.0.z.0" (.signed 2) = .ok d' ∧
      (s.get? d' "a.+00.x" = s.get? d "a.+00.x" ∧ s.get? d' "a.1" = s.get? d "a.1") ∧
      ∃ e', (Value.document d').follow? ["a", "0"] = some (.document e') ∧
        ∃ c, e'.entries = e.entries ++ [("z", c)] := by
  intro s e d d'
  have hset : s.set d "a.0.z.0" (.signed 2) = .ok d' := by cbv
  obtain ⟨hother, hway⟩ := set_frame s hset
  have hsplit : s.split "a.0.z.0" = ["a", "0", "z", "0"] := by cbv
  have hx : (Value.document d).Part (s.split "a.0.z.0") (s.split "a.+00.x") := by
    rw [hsplit, show s.split "a.+00.x" = ["a", "+00", "x"] by cbv]
    exact .entry rfl (.item rfl rfl rfl (.keys (by decide)))
  have hitem : (Value.document d).Part (s.split "a.0.z.0") (s.split "a.1") := by
    rw [hsplit, show s.split "a.1" = ["a", "1"] by cbv]
    exact .entry rfl (.items rfl (by decide) (by decide))
  obtain ⟨e', he', -, -, hnew⟩ := hway ["a", "0"] "z" ["0"] e hsplit (by cbv)
  exact ⟨hset, ⟨hother "a.+00.x" hx, hother "a.1" hitem⟩, e', he', hnew (by decide)⟩

end PathSyntax

end Dossier
