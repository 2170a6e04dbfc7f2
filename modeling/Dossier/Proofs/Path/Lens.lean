import Dossier.Proofs.Path.Segments
import Mathlib.Tactic

/-! A path is a lens. What is written at a path is what is read there, writing back what was read
changes nothing, and of two writes at one path the last counts. All three come from the same laws of
one step, which hold of documents, of arrays under any spelling of a position, and of whatever gives
way to a document. -/

namespace Dossier

@[simp] theorem Document.get?_insert_self (d : Document) (key : String) (v : Value) :
    (d.insert key v).get? key = some v := Entries.get?_insert_self key v d.entries

theorem Document.get?_insert_of_ne {k key : String} (h : k ≠ key) (d : Document) (v : Value) :
    (d.insert k v).get? key = d.get? key := Entries.get?_insert_of_ne h v d.entries

theorem Document.insert_insert (d : Document) (key : String) (v w : Value) :
    (d.insert key v).insert key w = d.insert key w :=
  congrArg Document.mk (Entries.insert_insert key v w d.entries)

namespace Value

/-! ### One step -/

/-- What a segment meets in a value: a document, an item of an array, or nothing that could be
entered, which then gives way to a document. -/
theorem segment_cases (v : Value) (segment : String) :
    (∃ d, v = document d) ∨
    (∃ xs i, v = array xs ∧ PathSyntax.index? segment = some i ∧ i < xs.length) ∨
    (v.child? segment = none ∧
      ∀ c, v.setChild segment c = document (Document.empty.insert segment c)) := by
  cases v with
  | document d => exact .inl ⟨d, rfl⟩
  | array xs =>
    cases hi : PathSyntax.index? segment with
    | none =>
      right; right
      simp [child?, setChild, hi]
    | some i =>
      by_cases hl : i < xs.length
      · exact .inr (.inl ⟨xs, i, rfl, rfl, hl⟩)
      · right; right
        simp [child?, setChild, hi, hl]
  | _ => exact .inr (.inr ⟨rfl, fun _ => rfl⟩)

@[simp] theorem child?_document (d : Document) (segment : String) :
    (document d).child? segment = d.get? segment := rfl

@[simp] theorem setChild_document (d : Document) (segment : String) (c : Value) :
    (document d).setChild segment c = document (d.insert segment c) := rfl

theorem child?_array {segment : String} {i : Nat} (h : PathSyntax.index? segment = some i)
    (xs : List Value) : (array xs).child? segment = xs[i]? := by
  simp [child?, h]

theorem setChild_array {segment : String} {i : Nat} (h : PathSyntax.index? segment = some i)
    {xs : List Value} (hl : i < xs.length) (c : Value) :
    (array xs).setChild segment c = array (xs.set i c) := by
  simp [setChild, h, hl]

/-- The child that was set is there. -/
theorem child?_setChild (v : Value) (segment : String) (c : Value) :
    (v.setChild segment c).child? segment = some c := by
  rcases v.segment_cases segment with ⟨d, rfl⟩ | ⟨xs, i, rfl, hi, hl⟩ | ⟨-, hset⟩
  · simp
  · rw [setChild_array hi hl, child?_array hi, List.getElem?_set_self hl]
  · simp [hset]

theorem setChild_of_child? {v : Value} {segment : String} {c : Value}
    (h : v.child? segment = some c) : v.setChild segment c = v := by
  rcases v.segment_cases segment with ⟨⟨es⟩, rfl⟩ | ⟨xs, i, rfl, hi, hl⟩ | ⟨hnone, -⟩
  · exact congrArg (fun es => document ⟨es⟩) (Entries.insert_of_get? h)
  · rw [child?_array hi] at h
    obtain ⟨_, rfl⟩ := List.getElem?_eq_some_iff.mp h
    rw [setChild_array hi hl, List.set_getElem_self]
  · simp [hnone] at h

theorem setChild_setChild (v : Value) (segment : String) (b c : Value) :
    (v.setChild segment b).setChild segment c = v.setChild segment c := by
  rcases v.segment_cases segment with ⟨d, rfl⟩ | ⟨xs, i, rfl, hi, hl⟩ | ⟨-, hset⟩
  · simp only [setChild_document, Document.insert_insert]
  · rw [setChild_array hi hl, setChild_array hi hl, setChild_array hi (by simpa using hl),
      List.set_set]
  · simp only [hset, setChild_document, Document.insert_insert]

/-! ### All steps -/

/-- What was written is read. -/
theorem follow?_write (v : Value) (segments : List String) (new : Value) :
    (v.write segments new).follow? segments = some new := by
  induction segments generalizing v with
  | nil => rfl
  | cons segment rest ih => rw [write, follow?, child?_setChild, Option.bind_some, ih]

/-- Writing back what is read changes nothing. -/
theorem write_of_follow? {v : Value} {segments : List String} {new : Value}
    (h : v.follow? segments = some new) : v.write segments new = v := by
  induction segments generalizing v with
  | nil => exact (Option.some.inj h).symm
  | cons segment rest ih =>
    obtain ⟨c, hc, hrest⟩ := Option.bind_eq_some_iff.mp h
    rw [write, hc, Option.getD_some, ih hrest]
    exact setChild_of_child? hc

/-- Of two writes at one place the last counts. -/
theorem write_write (v : Value) (segments : List String) (old new : Value) :
    (v.write segments old).write segments new = v.write segments new := by
  induction segments generalizing v with
  | nil => rfl
  | cons segment rest ih =>
    rw [write, write, child?_setChild, Option.getD_some, ih, setChild_setChild]
    rfl

end Value

/-! ### Paths -/

namespace PathSyntax

theorem document_writeDocument (d : Document) {segments : List String} (h : segments ≠ [])
    (new : Value) :
    Value.document (writeDocument d segments new) = (Value.document d).write segments new := by
  cases segments with
  | nil => exact absurd rfl h
  | cons segment rest => rfl

/-- A write is refused where there is no segment to write at or one is empty; otherwise it is done at
the segments of the path. -/
theorem set_eq (s : PathSyntax) (d : Document) (path : String) (new : Value) :
    s.set d path new =
      if path = "" then .error .emptyPath
      else if "" ∈ s.split path then .error (.emptySegment path)
      else .ok (writeDocument d (s.split path) new) := by
  unfold set writable
  split_ifs with hp hs <;> simp_all

theorem set_eq_ok_iff {s : PathSyntax} {d d' : Document} {path : String} {new : Value} :
    s.set d path new = .ok d' ↔
      path ≠ "" ∧ "" ∉ s.split path ∧
        Value.document d' = (Value.document d).write (s.split path) new := by
  rw [← document_writeDocument d (s.split_ne_nil path), set_eq]
  split_ifs with hp hs
  · simp [hp]
  · simp [hs]
  · simp [hp, hs, eq_comm]

theorem get?_of_ne {path : String} (h : path ≠ "") (s : PathSyntax) (d : Document) :
    s.get? d path = (Value.document d).follow? (s.split path) := by
  rw [get?_eq_getValue?, getValue?, if_neg h]

theorem ne_empty_of_get? {s : PathSyntax} {d : Document} {path : String} {v : Value}
    (h : s.get? d path = some v) : path ≠ "" := by
  rintro rfl
  cases h

theorem follow?_of_get? {s : PathSyntax} {d : Document} {path : String} {v : Value}
    (h : s.get? d path = some v) : (Value.document d).follow? (s.split path) = some v := by
  rw [← get?_of_ne (ne_empty_of_get? h), h]

/-- A write at a path is refused, as an invalid argument, exactly when the path is empty or has an
empty segment; whoever wrote goes on with the document as it was. Otherwise the path is a lens: what
was written is read there, writing what was there already gives the same document, and after a
second write the first leaves no trace. -/
theorem set_lens (s : PathSyntax) (d : Document) (path : String) (v w : Value) :
    ((∃ e, s.set d path v = .error e) ↔ path = "" ∨ "" ∈ s.split path) ∧
    (∀ e, s.set d path v = .error e →
      e.kind = .invalidArgument ∧ (s.set d path v).toOption.getD d = d) ∧
    ∀ d', s.set d path v = .ok d' →
      s.get? d' path = some v ∧
      (s.get? d path = some v → d' = d) ∧
      s.set d' path w = s.set d path w := by
  refine ⟨?_, fun e he => ?_, fun d' hd' => ?_⟩
  · rw [set_eq]
    split_ifs with hp hs
    · simp [hp]
    · simp [hs]
    · simp [hp, hs]
  · refine ⟨?_, by rw [he]; rfl⟩
    rw [set_eq] at he
    split_ifs at he <;> cases he <;> rfl
  · obtain ⟨hp, hs, hwrite⟩ := set_eq_ok_iff.mp hd'
    rw [get?_of_ne hp, get?_of_ne hp]
    refine ⟨?_, fun hv => ?_, ?_⟩
    · rw [hwrite, Value.follow?_write]
    · rw [Value.write_of_follow? hv] at hwrite
      exact Value.document.inj hwrite
    · have hdoc : writeDocument d' (s.split path) w = writeDocument d (s.split path) w := by
        apply Value.document.inj
        rw [document_writeDocument _ (s.split_ne_nil path), hwrite, Value.write_write,
          document_writeDocument _ (s.split_ne_nil path)]
      rw [set_eq, set_eq, hdoc]

/-- A path through an array under another spelling of a position, and then through a number that
gives way to a document; what is there already is written again, and an empty segment is refused. -/
theorem set_lens_respelled :
    let s : PathSyntax := {}
    let d : Document := ⟨[("a", .array [.null, .signed 7]), ("b", .bool true)]⟩
    let d' : Document :=
      ⟨[("a", .array [.null, .document ⟨[("0", .string "x")]⟩]), ("b", .bool true)]⟩
    (s.set d "a.+01.0" (.string "x") = .ok d' ∧ s.get? d' "a.+01.0" = some (.string "x") ∧
      s.set d' "a.+01.0" .null = s.set d "a.+01.0" .null) ∧
    (∃ d'', s.set d' "a.1" (.document ⟨[("0", .string "x")]⟩) = .ok d'' ∧ d'' = d') ∧
    ∃ e, s.set d "a..0" .null = .error e ∧ e.kind = .invalidArgument := by
  intro s d d'
  obtain ⟨-, -, hlaws⟩ := set_lens s d "a.+01.0" (.string "x") .null
  obtain ⟨-, -, hagain⟩ := set_lens s d' "a.1" (.document ⟨[("0", .string "x")]⟩) .null
  obtain ⟨-, hrefused, -⟩ := set_lens s d "a..0" .null .null
  have hset : s.set d "a.+01.0" (.string "x") = .ok d' := by cbv
  have hset' : s.set d' "a.1" (.document ⟨[("0", .string "x")]⟩) = .ok d' := by cbv
  have herr : s.set d "a..0" .null = .error (.emptySegment "a..0") := by cbv
  obtain ⟨hget, -, htwice⟩ := hlaws d' hset
  obtain ⟨-, hsame, -⟩ := hagain d' hset'
  exact ⟨⟨hset, hget, htwice⟩, ⟨d', hset', hsame (by cbv)⟩, _, herr, (hrefused _ herr).1⟩

end PathSyntax

end Dossier
