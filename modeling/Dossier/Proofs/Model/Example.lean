import Dossier.Proofs.Model.Difference
import Dossier.Proofs.Path.Keys
import Dossier.Proofs.Query.Agreement
import Dossier.Proofs.Query.Binding
import Dossier.Proofs.Query.Reading
import Dossier.Proofs.Query.Respect
import Dossier.Proofs.Value.Order

/-! A document used as a query asks for what a comparison with it asks for. One side joins keys to
paths, sorts these and looks every one of them up from the root; the other goes down two documents
key by key. Both tell of each entry whether what is under its key agrees with its value. -/

namespace Dossier

/-! ### Comparing -/

theorem Value.agrees_document_of_kind_ne {w : Value} (hw : w.kind ≠ .document) (e : Document) :
    agrees (some w) (.document e) = false := by
  have hboth : ¬ BothDocuments (some w) (.document e) := by
    rintro ⟨_, _, ⟨⟩, -⟩
    exact hw rfl
  rw [agrees_of_not_both hboth, Option.any_some]
  exact equal_of_kind_ne hw

/-! ### Matching -/

/-- An entry that a query by example can have: its key is a field by itself, holds no operators and
names no item of an array, and its value is there, is matched by being equal and, if it is a
document, asks for something. -/
structure Settings.Exemplary (settings : Settings) (key : String) (v : Value) : Prop where
  whole : settings.paths.Whole key
  unmarked : ¬ settings.marker.toList <+: key.toList
  not_index : PathSyntax.index? key = none
  not_null : v.kind ≠ .null
  not_pattern : v.kind ≠ .pattern
  not_empty : v ≠ .document .empty

namespace Query

/-- What is asked of a field is that it agrees with a value, by equality and nothing else. -/
structure Node.Exemplifies (node : Node) (s : PathSyntax) (v : Value) : Prop where
  fields : ∀ field ∈ node.fieldNames, s.Whole field
  operators : ∀ name ∈ node.operatorNames, name = "eq"
  meets : ∀ w, node.meetsAt s .builtIn w = Value.agrees w v

/-- A query asks of the children of a value that they agree with entries. -/
structure Exemplifies (q : Query) (s : PathSyntax) (es : List (String × Value)) : Prop where
  fields : ∀ field ∈ q.fieldNames, s.Whole field
  operators : ∀ name ∈ q.operatorNames, name = "eq"
  meets : ∀ w, q.meets s .builtIn w =
    es.all fun e => Value.agrees (w.bind (·.child? e.1)) e.2

end Query

/-- Below what is no document and no array there are no children, and below an array none that is no
position. -/
theorem Value.child?_of_kind_ne {v : Value} (hv : v.kind ≠ .document) {segment : String}
    (hs : PathSyntax.index? segment = none) : v.child? segment = none := by
  cases v with
  | document d => exact absurd rfl hv
  | array xs => simp [child?, hs]
  | _ => rfl

/-- A document that asks for something agrees with nothing but a document, and with that when all of
its entries do. -/
theorem Value.all_agrees {e : Document} (hne : e ≠ .empty)
    (hindex : ∀ x ∈ e.entries, PathSyntax.index? x.1 = none) (w : Option Value) :
    (e.entries.all fun x => agrees (w.bind (·.child? x.1)) x.2) = agrees w (.document e) := by
  have hfirst : ∃ x, x ∈ e.entries := by
    obtain ⟨es⟩ := e
    cases es with
    | nil => exact absurd rfl hne
    | cons x rest => exact ⟨x, List.mem_cons_self⟩
  obtain ⟨x, hx⟩ := hfirst
  -- Where there is no document, the first entry disagrees, and there is a first one.
  rcases w with - | w
  · exact List.all_eq_false.mpr ⟨x, hx, by simp [agrees]⟩
  · by_cases hw : w.kind = .document
    · obtain ⟨d, rfl⟩ := Value.exists_of_kind_document hw
      exact (Document.isEmpty_diff d e).symm
    · rw [agrees_document_of_kind_ne hw, List.all_eq_false]
      refine ⟨x, hx, ?_⟩
      simp [child?_of_kind_ne hw (hindex x hx), agrees]

namespace Query

variable {settings : Settings}

/-- Under a key that is a field by itself a value is read as what agrees with it. -/
def ReadsExample (settings : Settings) (key : String) (v : Value) : Prop :=
  settings.paths.Whole key ∧ ∃ node, ofEntry settings.marker key v = .ok (key, node) ∧
    node.Exemplifies settings.paths v

theorem exists_ofEntries {es : List (String × Value)}
    (h : ∀ e ∈ es, ReadsExample settings e.1 e.2) :
    ∃ ns, ofEntries settings.marker es = .ok ns ∧ Exemplifies ⟨ns⟩ settings.paths es := by
  induction es with
  | nil => exact ⟨[], rfl, nofun, nofun, fun _ => rfl⟩
  | cons e rest ih =>
    obtain ⟨key, v⟩ := e
    rw [List.forall_mem_cons] at h
    obtain ⟨⟨hwhole, node, hread, hnode⟩, hrest⟩ := h
    obtain ⟨ns, hns, hfields, hoperators, hmeets⟩ := ih hrest
    have hsplit : settings.paths.split key = [key] :=
      PathSyntax.split_whole settings.separator_ne hwhole
    refine ⟨(key, node) :: ns, by rw [ofEntries, hread, hns]; rfl, ?_, ?_, fun w => ?_⟩
    · simp only [fieldNames, fieldNamesOf, List.forall_mem_cons, List.forall_mem_append]
      exact ⟨hwhole, hnode.fields, hfields⟩
    · simp only [operatorNames, operatorNamesOf, List.forall_mem_append]
      exact ⟨hnode.operators, hoperators⟩
    · simp only [meets] at hmeets
      simp only [meets, meetsEntries, List.all_cons, hmeets, hnode.meets, hsplit,
        Value.follow?_singleton]

theorem exists_ofDocument_of_entries {d : Document}
    (h : ∀ e ∈ d.entries, ReadsExample settings e.1 e.2) :
    ∃ q, ofDocument settings.marker d = .ok q ∧ q.Exemplifies settings.paths d.entries := by
  obtain ⟨es⟩ := d
  obtain ⟨ns, hns, hq⟩ := exists_ofEntries h
  refine ⟨⟨ns⟩, ?_, hq⟩
  rw [ofDocument, hns]
  rfl

/-- A literal is matched by being equal, and nothing is equal to it where there is nothing. -/
theorem Node.exemplifies_literal {s : PathSyntax} {v : Value} (hn : v.kind ≠ .null)
    (hp : v.kind ≠ .pattern) (hd : v.kind ≠ .document) : (literal v).Exemplifies s v where
  fields := nofun
  operators name h := List.mem_singleton.mp h
  meets w := by
    have heq : (literal v).meetsAt s .builtIn w = Operator.eq v (w.getD .null) := rfl
    rw [heq, Operator.eq_of_kind_ne hp, Value.agrees_of_not_both (Value.not_bothDocuments hd w)]
    cases w with
    | none => exact Value.equal_of_kind_ne hn.symm
    | some w => rfl

theorem readsExample {key : String} {v : Value} (h : settings.Exemplary key v)
    (hnested : ∀ d, v = .document d → ∀ k w, d.Nests k w → settings.Exemplary k w) :
    ReadsExample settings key v := by
  refine ⟨h.whole, ?_⟩
  have hm := markedField?_eq_none_iff.mpr h.unmarked
  -- Only documents have entries of their own, so only for them the induction says something.
  induction v using Value.inductionOn generalizing key with
  | document d ih =>
    have hd := hnested d rfl
    have hentries : ∀ e ∈ d.entries, ReadsExample settings e.1 e.2 := by
      rintro ⟨k, w⟩ he
      refine ⟨(hd k w (.here he)).whole, ih _ he (hd k w (.here he)) ?_ ?_⟩
      · rintro e rfl k' w' hw
        exact hd k' w' (.inner he hw)
      · exact markedField?_eq_none_iff.mpr (hd k w (.here he)).unmarked
    obtain ⟨q, hread, hq⟩ := exists_ofDocument_of_entries hentries
    have hindex : ∀ e ∈ d.entries, PathSyntax.index? e.1 = none :=
      fun e he => (hd e.1 e.2 (.here he)).not_index
    have hne : d ≠ .empty := fun hempty => h.not_empty (congrArg Value.document hempty)
    exact ⟨.nested q, ofEntry_eq_ok_iff.mpr (.nested hm hread), hq.fields, hq.operators,
      fun w => (hq.meets w).trans (Value.all_agrees hne hindex w)⟩
  | _ =>
    exact ⟨.literal _, ofEntry_eq_ok_iff.mpr (.literal hm h.not_pattern nofun),
      Node.exemplifies_literal h.not_null h.not_pattern nofun⟩

/-- A document whose entries, nested ones too, can all be in a query by example is read as a query
for them. -/
theorem exists_ofDocument_exemplifying {d : Document}
    (h : ∀ key v, d.Nests key v → settings.Exemplary key v) :
    ∃ q, ofDocument settings.marker d = .ok q ∧ q.Exemplifies settings.paths d.entries := by
  refine exists_ofDocument_of_entries fun ⟨key, v⟩ he => readsExample (h key v (.here he)) ?_
  rintro e rfl k w hw
  exact h k w (.inner he hw)

end Query

/-- A document matches another, taken as a query by example, exactly when nothing of that is missing
in it or differs, and such a query is never refused. Every document that can be a query by example
matches itself. -/
theorem Model.isMatch_eq_isEmpty_diff {μ : Type} {context : Context μ}
    (ht : context.operators = .builtIn) {q : Document}
    (hq : ∀ key v, q.Nests key v → context.settings.Exemplary key v) :
    (∀ d, isMatch ⟨d, context⟩ (.document q) = .ok (diff ⟨d, context⟩ q).document.isEmpty) ∧
      (q.WellFormed → isMatch ⟨q, context⟩ (.document q) = .ok true) := by
  have hmatch : ∀ d, isMatch ⟨d, context⟩ (.document q) = .ok (d.diff q).isEmpty := by
    intro d
    obtain ⟨query, hread, hexample⟩ := Query.exists_ofDocument_exemplifying hq
    have hbound : ∀ name ∈ query.operatorNames, Operators.builtIn.contains name = true := by
      intro name hname
      rw [hexample.operators name hname]
      decide
    obtain ⟨m, hm, hholds⟩ := Matcher.exists_of_bound context.paths hbound
    have hs : context.paths.separator ≠ "" := context.settings.separator_ne
    have hseparable := PathSyntax.separable_of_whole hs
    have hmeets := Query.all_constraintsBelow_of_separable (t := .builtIn) hseparable (.document d)
      hseparable.root query hexample.fields
    rw [isMatch_eq_verdict, context.verdict_of_read (.document q) d hread, ht, hm]
    calc
      _ = Except.ok (m.holds (.document d)) := rfl
      _ = .ok (query.meets context.paths .builtIn (some (.document d))) := by
        rw [hholds, hmeets, PathSyntax.below?, if_pos rfl]
      _ = .ok (q.entries.all fun e => Value.agrees (d.get? e.1) e.2) :=
        congrArg Except.ok (hexample.meets (some (.document d)))
      _ = .ok (d.diff q).isEmpty := by rw [Document.isEmpty_diff]
  refine ⟨hmatch, fun hwell => ?_⟩
  rw [hmatch, Document.isEmpty_diff_self hwell]

/-- A query by example under a separator and a marker of its own. One document has all of it, with a
number of another kind; the other has an array where the query has a document. -/
theorem Model.isMatch_eq_isEmpty_diff_partial :
    let settings : Settings := { separator := "::", marker := "@" }
    let context : Context Unit := .new settings
    let q : Document := ⟨[("b", .document ⟨[("x.y", .array [.null]), ("+", .unsigned 2)]⟩),
      ("a", .string "")]⟩
    let d : Document := ⟨[("a", .string ""),
      ("b", .document ⟨[("0", .null), ("x.y", .array [.null]), ("+", .signed 2)]⟩)]⟩
    let e : Document := ⟨[("a", .string ""), ("b", .array [.array [.null], .signed 2])]⟩
    isMatch ⟨d, context⟩ (.document q) = .ok true ∧
      isMatch ⟨e, context⟩ (.document q) = .ok false ∧
      isMatch ⟨q, context⟩ (.document q) = .ok true := by
  intro settings context q d e
  have hq : ∀ key v, q.Nests key v → context.settings.Exemplary key v := by
    intro key v h
    simp only [q, Value.unsigned, Document.nests_cons_iff, Document.not_nests_nil, or_false,
      false_or, Value.document.injEq, exists_eq_left', reduceCtorEq, false_and, exists_false] at h
    rcases h with ⟨rfl, rfl⟩ | (⟨rfl, rfl⟩ | ⟨rfl, rfl⟩) | ⟨rfl, rfl⟩ <;>
      exact ⟨by decide, by decide, by decide, by decide, by decide, by simp [Document.empty]⟩
  have hwell : q.WellFormed := ⟨by decide, ⟨by decide, ⟨trivial, trivial⟩, trivial, trivial⟩,
    trivial, trivial⟩
  have ht : context.operators = .builtIn := rfl
  obtain ⟨hmatch, hself⟩ := isMatch_eq_isEmpty_diff ht hq
  refine ⟨(hmatch d).trans ?_, (hmatch e).trans ?_, hself hwell⟩
  · cbv
  · cbv

end Dossier
