import Dossier.Proofs.Entries.Sorted
import Dossier.Proofs.Query.Meaning
import Dossier.Proofs.Value.WellFormed

/-! Reading a query from a document: every entry is read on its own, what is read of it depends on
its key and on the kind of its value, and every operand of the query is a value inside the document.
The only failures are those of a query that is not valid. -/

namespace Dossier

namespace Query

variable {marker : String}

/-! ### Keys behind the marker -/

theorem markedField?_eq_some_iff {key field : String} :
    markedField? marker key = some field ↔ key = marker ++ field := by
  simp only [markedField?, Option.map_eq_some_iff, List.isPrefixOf?_eq_some_iff_append_eq]
  constructor
  · rintro ⟨cs, hcs, rfl⟩
    rw [← String.toList_inj, ← hcs, String.toList_append, String.toList_ofList]
  · rintro rfl
    exact ⟨field.toList, String.toList_append.symm, String.ofList_toList⟩

theorem markedField?_eq_none_iff {key : String} :
    markedField? marker key = none ↔ ¬ marker.toList <+: key.toList := by
  rw [markedField?, Option.map_eq_none_iff, ← Option.not_isSome_iff_eq_none,
    List.isSome_isPrefixOf?_eq_isPrefixOf, List.isPrefixOf_iff_prefix]

/-! ### Entry by entry -/

theorem ofEntries_eq_ok_iff {es : List (String × Value)} {ns : List (String × Node)} :
    ofEntries marker es = .ok ns ↔
      List.Forall₂ (fun e n => ofEntry marker e.1 e.2 = .ok n) es ns := by
  induction es generalizing ns with
  | nil => rw [ofEntries, List.forall₂_nil_left_iff, Except.ok.injEq, eq_comm]
  | cons e es ih =>
    obtain ⟨key, v⟩ := e
    simp only [ofEntries, bind_eq_ok_iff, pure, Except.pure, Except.ok.injEq, ih,
      List.forall₂_cons_left_iff]
    constructor
    · rintro ⟨n, hn, ms, hms, rfl⟩
      exact ⟨n, ms, hn, hms, rfl⟩
    · rintro ⟨n, ms, hn, hms, rfl⟩
      exact ⟨n, hn, ms, hms, rfl⟩

theorem ofEntries_eq_error_iff {es : List (String × Value)} {f : Fault} :
    ofEntries marker es = .error f ↔ ∃ before e after, es = before ++ e :: after ∧
      (∀ b ∈ before, ∃ n, ofEntry marker b.1 b.2 = .ok n) ∧ ofEntry marker e.1 e.2 = .error f := by
  induction es with
  | nil => simp [ofEntries]
  | cons e es ih =>
    obtain ⟨key, v⟩ := e
    simp only [ofEntries, bind_eq_error_iff, pure, Except.pure, reduceCtorEq, and_false,
      exists_false, or_false, ih]
    constructor
    · rintro (hf | ⟨n, hn, before, e, after, rfl, hbefore, hf⟩)
      · exact ⟨[], (key, v), es, rfl, nofun, hf⟩
      · exact ⟨(key, v) :: before, e, after, rfl,
          List.forall_mem_cons.mpr ⟨⟨n, hn⟩, hbefore⟩, hf⟩
    · rintro ⟨before, e, after, hes, hbefore, hf⟩
      cases before with
      | nil =>
        cases hes
        exact .inl hf
      | cons b before =>
        cases hes
        obtain ⟨⟨n, hn⟩, hrest⟩ := List.forall_mem_cons.mp hbefore
        exact .inr ⟨n, hn, before, e, after, rfl, hrest, hf⟩

theorem ofDocument_eq_ok_iff {d : Document} {q : Query} :
    ofDocument marker d = .ok q ↔
      List.Forall₂ (fun e n => ofEntry marker e.1 e.2 = .ok n) d.entries q.entries := by
  obtain ⟨es⟩ := d
  obtain ⟨ns⟩ := q
  rw [ofDocument, ← ofEntries_eq_ok_iff, bind_eq_ok_iff]
  simp [pure, Except.pure]

theorem ofDocument_eq_error_iff {d : Document} {f : Fault} :
    ofDocument marker d = .error f ↔ ∃ before e after, d.entries = before ++ e :: after ∧
      (∀ b ∈ before, ∃ n, ofEntry marker b.1 b.2 = .ok n) ∧ ofEntry marker e.1 e.2 = .error f := by
  obtain ⟨es⟩ := d
  rw [ofDocument, ← ofEntries_eq_error_iff, bind_eq_error_iff]
  simp [pure, Except.pure]

theorem exists_ofDocument {d : Document}
    (h : ∀ e ∈ d.entries, ∃ n, ofEntry marker e.1 e.2 = .ok n) :
    ∃ q, ofDocument marker d = .ok q := by
  cases hq : ofDocument marker d with
  | ok q => exact ⟨q, rfl⟩
  | error f =>
    obtain ⟨before, e, after, hes, -, hf⟩ := ofDocument_eq_error_iff.mp hq
    obtain ⟨n, hn⟩ := h e (hes ▸ List.mem_append_right before List.mem_cons_self)
    cases hf.symm.trans hn

/-! ### What is read of an entry -/

inductive Reads (marker key : String) : Value → String × Node → Prop where
  | operators {field : String} {d : Document} (hm : markedField? marker key = some field)
      (hf : field ≠ "") : Reads marker key (.document d) (field, .operators d.entries)
  | pattern {p : Pattern} (hm : markedField? marker key = none) :
      Reads marker key (.pattern p) (key, .pattern p)
  | nested {d : Document} {q : Query} (hm : markedField? marker key = none)
      (hq : ofDocument marker d = .ok q) : Reads marker key (.document d) (key, .nested q)
  | literal {v : Value} (hm : markedField? marker key = none) (hp : v.kind ≠ .pattern)
      (hd : v.kind ≠ .document) : Reads marker key v (key, .literal v)

theorem ofEntry_eq_ok_iff {key : String} {v : Value} {n : String × Node} :
    ofEntry marker key v = .ok n ↔ Reads marker key v n := by
  constructor
  · intro h
    unfold ofEntry at h
    cases hm : markedField? marker key with
    | some field =>
      simp only [hm] at h
      by_cases hf : field = ""
      · rw [if_pos hf] at h
        cases h
      · rw [if_neg hf] at h
        cases v with
        | document d =>
          cases h
          exact .operators hm hf
        | _ => cases h
    | none =>
      simp only [hm] at h
      cases v with
      | pattern p =>
        cases h
        exact .pattern hm
      | document d =>
        obtain ⟨q, hq, hn⟩ := bind_eq_ok_iff.mp h
        cases hn
        exact .nested hm hq
      | _ =>
        cases h
        exact .literal hm nofun nofun
  · rintro (⟨hm, hf⟩ | hm | ⟨hm, hq⟩ | ⟨hm, hp, hd⟩)
    · simp only [ofEntry, hm, if_neg hf]
    · simp only [ofEntry, hm]
    · simp only [ofEntry, hm, hq]
      rfl
    · cases v with
      | pattern p => exact absurd rfl hp
      | document d => exact absurd rfl hd
      | _ => simp only [ofEntry, hm]

/-- Reading fails because the query is not valid, and for no other reason. -/
theorem kind_of_ofEntry_eq_error {key : String} {v : Value} {f : Fault}
    (h : ofEntry marker key v = .error f) : f.kind = .invalidQuery := by
  induction v using Value.inductionOn generalizing key f with
  | document d ih =>
    unfold ofEntry at h
    cases hm : markedField? marker key with
    | some field =>
      simp only [hm] at h
      split_ifs at h
      cases h
      rfl
    | none =>
      simp only [hm, bind_eq_error_iff, pure, Except.pure, reduceCtorEq, and_false, exists_false,
        or_false] at h
      obtain ⟨before, e, after, hes, -, hf⟩ := ofDocument_eq_error_iff.mp h
      exact ih e (hes ▸ List.mem_append_right before List.mem_cons_self) hf
  | _ =>
    unfold ofEntry at h
    cases hm : markedField? marker key with
    | some field =>
      simp only [hm] at h
      split_ifs at h <;>
      · cases h
        rfl
    | none =>
      simp only [hm] at h
      cases h

theorem kind_of_ofDocument_eq_error {d : Document} {f : Fault}
    (h : ofDocument marker d = .error f) : f.kind = .invalidQuery := by
  obtain ⟨-, e, -, -, -, hf⟩ := ofDocument_eq_error_iff.mp h
  exact kind_of_ofEntry_eq_error hf

/-! ### Constraints and their operands -/

theorem mem_constraintsBelow {s : PathSyntax} {path : String} {q : Query} {c : Constraint} :
    c ∈ q.constraintsBelow s path ↔
      ∃ n ∈ q.entries, c ∈ n.2.constraintsAt s (s.join path n.1) := by
  rw [constraintsBelow_eq_flatMap, List.mem_flatMap]

theorem mem_operatorNames_iff (s : PathSyntax) (path : String) {q : Query} {name : String} :
    name ∈ q.operatorNames ↔ ∃ c ∈ q.constraintsBelow s path, c.operator = name := by
  rw [← operator_constraintsBelow s path q, List.mem_map]

theorem exists_entry_of_mem {d : Document} {q : Query} (hq : ofDocument marker d = .ok q)
    {n : String × Node} (hn : n ∈ q.entries) :
    ∃ e ∈ d.entries, ofEntry marker e.1 e.2 = .ok n :=
  Entries.exists_of_mem_forall₂ (ofDocument_eq_ok_iff.mp hq).flip hn

theorem exists_node_of_mem {d : Document} {q : Query} (hq : ofDocument marker d = .ok q)
    {e : String × Value} (he : e ∈ d.entries) :
    ∃ n ∈ q.entries, ofEntry marker e.1 e.2 = .ok n :=
  Entries.exists_of_mem_forall₂ (ofDocument_eq_ok_iff.mp hq) he

theorem operand_within_of_ofEntry {key : String} {v : Value} {n : String × Node}
    (h : ofEntry marker key v = .ok n) {s : PathSyntax} {path : String} {c : Constraint}
    (hc : c ∈ n.2.constraintsAt s path) : c.operand.Within v := by
  induction v using Value.inductionOn generalizing key n path with
  | document d ih =>
    cases ofEntry_eq_ok_iff.mp h with
    | operators hm hf =>
      obtain ⟨⟨op, x⟩, he, rfl⟩ := List.mem_map.mp hc
      exact .entry he .here
    | nested hm hq =>
      obtain ⟨m, hmem, hcm⟩ := mem_constraintsBelow.mp hc
      obtain ⟨e, he, hread⟩ := exists_entry_of_mem hq hmem
      exact .entry he (ih e he hread hcm)
    | literal hm hp hd => exact absurd rfl hd
  | _ =>
    cases ofEntry_eq_ok_iff.mp h
    all_goals
      obtain rfl := List.mem_singleton.mp hc
      exact .here

/-- Every operand of a query is a value inside the document from which the query is read. -/
theorem operand_within {d : Document} {q : Query} (hq : ofDocument marker d = .ok q)
    {s : PathSyntax} {path : String} {c : Constraint} (hc : c ∈ q.constraintsBelow s path) :
    c.operand.Within (.document d) := by
  obtain ⟨n, hn, hcn⟩ := mem_constraintsBelow.mp hc
  obtain ⟨e, he, hread⟩ := exists_entry_of_mem hq hn
  exact .entry he (operand_within_of_ofEntry hread hcn)

end Query

end Dossier
