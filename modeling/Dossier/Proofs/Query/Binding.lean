import Dossier.Collection.Find
import Dossier.Model.Basic
import Dossier.Proofs.Entries.Sorted
import Dossier.Proofs.Query.Meaning
import Mathlib.Tactic

/-! Operators are looked up before any item is. A query of which every operator is bound succeeds on
all items and documents there may be, and any other fails on all of them, naming the operator of the
first constraint, in compiled order, that is bound to nothing. -/

namespace Dossier

/-! ### Compiled order -/

namespace Constraint

theorem stableSort_sort (cs : List Constraint) :
    StableSort (compareOn Constraint.path) cs (sort cs) :=
  stableSort_mergeSort (compareOn Constraint.path) cs

theorem pairwise_sort (cs : List Constraint) :
    (sort cs).Pairwise fun a b => (Ord.compare a.path b.path).isLE = true :=
  (stableSort_sort cs).sorted

/-- Sorting moves no constraint past another one on the same path. -/
theorem filter_sort (cs : List Constraint) (path : String) :
    (sort cs).filter (fun c => c.path = path) = cs.filter fun c => c.path = path := by
  refine (stableSort_sort cs).filter_eq fun a b ha hb => ?_
  rw [decide_eq_true_eq] at ha hb
  rw [compareOn, ha, hb]
  exact Std.ReflCmp.compare_self

end Constraint

namespace Query

/-- Constraints in compiled order: by path, and those on one path as they are declared. -/
structure CompiledTo (q : Query) (s : PathSyntax) (cs : List Constraint) : Prop where
  sorted : cs.Pairwise fun a b => (Ord.compare a.path b.path).isLE = true
  stable : ∀ path, (cs.filter fun c => c.path = path) =
    (q.constraintsBelow s "").filter fun c => c.path = path

theorem compiledTo_constraints (q : Query) (s : PathSyntax) : q.CompiledTo s (q.constraints s) where
  sorted := Constraint.pairwise_sort _
  stable := Constraint.filter_sort _

end Query

/-! ### Outcomes -/

/-- Whether something succeeded, and if not, why; what it gave is left out. -/
def outcome {α : Type} (x : Except Fault α) : Except Fault Unit := x.map fun _ => ()

theorem outcome_bind_pure {α β : Type} (x : Except Fault α) (f : α → β) :
    outcome (do return f (← x)) = outcome x := by
  cases x <;> rfl

theorem outcome_eq_error_iff {α : Type} {x : Except Fault α} {f : Fault} :
    outcome x = .error f ↔ x = .error f := by
  cases x <;> simp [outcome, Except.map]

namespace Matcher

variable (t : Operators)

/-- Resolving fails at the first constraint whose operator is bound to nothing. -/
theorem outcome_resolve (cs : List Constraint) :
    outcome (resolve t cs) =
      match cs.find? fun c => !t.contains c.operator with
      | some c => .error (.unknownOperator c.operator)
      | none => .ok () := by
  induction cs with
  | nil => rfl
  | cons c cs ih =>
    have hc : t.contains c.operator = (t.get? c.operator).isSome := rfl
    cases hget : t.get? c.operator with
    | none =>
      rw [resolve, Operators.resolve, hget, List.find?_cons_of_pos (by simp [hc, hget])]
      rfl
    | some op =>
      rw [resolve, Operators.resolve, hget, List.find?_cons_of_neg (by simp [hc, hget]), ← ih]
      exact outcome_bind_pure (resolve t cs) fun bound => (c, op) :: bound

theorem outcome_ofQuery (s : PathSyntax) (q : Query) :
    outcome (ofQuery s t q) = outcome (resolve t (q.constraints s)) :=
  outcome_bind_pure (resolve t (q.constraints s)) fun bound => (⟨bound, s⟩ : Matcher)

end Matcher

/-- What a table of operators makes of a query: success if every operator is bound, at any depth;
otherwise the failure of the first constraint in compiled order whose operator is not. -/
structure Query.ResolvesTo (q : Query) (s : PathSyntax) (t : Operators)
    (r : Except Fault Unit) : Prop where
  compiled : q.CompiledTo s (q.constraints s)
  ok_iff : r = .ok () ↔ ∀ name ∈ q.operatorNames, t.contains name = true
  error_iff : ∀ e, r = .error e ↔ ∃ before c after, q.constraints s = before ++ c :: after ∧
    (∀ b ∈ before, t.contains b.operator = true) ∧ t.contains c.operator = false ∧
      e = .unknownOperator c.operator

theorem Query.forall_mem_operatorNames {q : Query} (s : PathSyntax) {p : String → Prop} :
    (∀ name ∈ q.operatorNames, p name) ↔ ∀ c ∈ q.constraints s, p c.operator := by
  rw [forall_mem_operatorNames_iff s ""]
  exact forall_congr' fun c => by rw [(Matcher.perm_constraints s q).mem_iff]

theorem Query.resolvesTo_outcome (q : Query) (s : PathSyntax) (t : Operators) :
    q.ResolvesTo s t (outcome (Matcher.ofQuery s t q)) where
  compiled := q.compiledTo_constraints s
  ok_iff := by
    rw [forall_mem_operatorNames s, Matcher.outcome_ofQuery, Matcher.outcome_resolve]
    cases hfind : (q.constraints s).find? fun c => !t.contains c.operator with
    | none => simpa using hfind
    | some c =>
      have hc := List.find?_some hfind
      have hmem := List.mem_of_find?_eq_some hfind
      simp only [reduceCtorEq, false_iff]
      intro hall
      simp [hall c hmem] at hc
  error_iff e := by
    have hfirst : outcome (Matcher.ofQuery s t q) = .error e ↔
        ∃ c, (q.constraints s).find? (fun c => !t.contains c.operator) = some c ∧
          e = .unknownOperator c.operator := by
      rw [Matcher.outcome_ofQuery, Matcher.outcome_resolve]
      cases (q.constraints s).find? fun c => !t.contains c.operator with
      | none => simp
      | some c => simp [eq_comm]
    rw [hfirst]
    simp only [List.find?_eq_some_iff_append, Bool.not_eq_true', Bool.not_not]
    constructor
    · rintro ⟨c, ⟨hc, before, after, hsplit, hbefore⟩, he⟩
      exact ⟨before, c, after, hsplit, hbefore, hc, he⟩
    · rintro ⟨before, c, after, hsplit, hbefore, hc, he⟩
      exact ⟨c, ⟨hc, before, after, hsplit, hbefore⟩, he⟩

namespace Matcher

variable {t : Operators} {q : Query}

/-- A query whose operators are all bound is matched by what satisfies its constraints. -/
theorem exists_of_bound (s : PathSyntax) (ho : ∀ name ∈ q.operatorNames, t.contains name = true) :
    ∃ m, ofQuery s t q = .ok m ∧
      ∀ item, m.holds item = (q.constraintsBelow s "").all (Constraint.holds s t item) := by
  obtain ⟨bound, hb, hall⟩ := resolve_of_contains t (q.constraints s)
    fun c hc => ho _ (operator_mem_operatorNames hc)
  refine ⟨⟨bound, s⟩, ?_, fun item => ?_⟩
  · rw [ofQuery, hb]
    rfl
  · have hholds : holds ⟨bound, s⟩ item = (q.constraints s).all (Constraint.holds s t item) :=
      hall fun c => (s.getValue? item c.path).getD .null
    rw [hholds, (perm_constraints s q).all_eq]

theorem exists_error_of_unbound (s : PathSyntax)
    (ho : ¬ ∀ name ∈ q.operatorNames, t.contains name = true) :
    ∃ f, ofQuery s t q = .error f ∧ f.kind = .unknownOperator := by
  have hresolves := q.resolvesTo_outcome s t
  cases hm : ofQuery s t q with
  | ok m =>
    rw [hm] at hresolves
    exact absurd (hresolves.ok_iff.mp rfl) ho
  | error f =>
    rw [hm] at hresolves
    obtain ⟨-, c, -, -, -, -, rfl⟩ := (hresolves.error_iff f).mp rfl
    exact ⟨_, rfl, rfl⟩

/-- A query that can be matched has its operators bound, and what is matched are its constraints. -/
theorem of_ofQuery_eq_ok {s : PathSyntax} {m : Matcher} (h : ofQuery s t q = .ok m) :
    (∀ name ∈ q.operatorNames, t.contains name = true) ∧
      ∀ item, m.holds item = (q.constraintsBelow s "").all (Constraint.holds s t item) := by
  by_cases ho : ∀ name ∈ q.operatorNames, t.contains name = true
  · obtain ⟨m', hm', hholds⟩ := exists_of_bound s ho
    cases h.symm.trans hm'
    exact ⟨ho, hholds⟩
  · obtain ⟨f, hf, -⟩ := exists_error_of_unbound s ho
    cases h.symm.trans hf

end Matcher

/-! ### Ways of asking -/

theorem Context.outcome_matcher {μ : Type} (context : Context μ) {source : Query.Source} {q : Query}
    (h : source.read context.settings.marker = .ok q) :
    outcome (context.matcher source) =
      outcome (Matcher.ofQuery context.paths context.operators q) := by
  rw [Context.matcher, h]
  rfl

/-- A query that a context accepts: it can be read, and all its operators are bound. -/
def Context.Accepts {μ : Type} (context : Context μ) (source : Query.Source) : Prop :=
  ∃ q, source.read context.settings.marker = .ok q ∧
    ∀ name ∈ q.operatorNames, context.operators.contains name = true

section Accepts

variable {μ : Type} {context : Context μ} {source : Query.Source}

theorem Context.Accepts.exists_matcher (h : context.Accepts source) :
    ∃ m, context.matcher source = .ok m := by
  obtain ⟨q, hq, hbound⟩ := h
  obtain ⟨m, hm, -⟩ := Matcher.exists_of_bound context.paths hbound
  refine ⟨m, ?_⟩
  rw [matcher, hq]
  exact hm

/-- A query that is not accepted is refused, for one reason whatever the items are. -/
theorem Context.exists_error_of_not_accepts (h : ¬ context.Accepts source) :
    ∃ f, context.matcher source = .error f := by
  cases hread : source.read context.settings.marker with
  | error f =>
    refine ⟨f, ?_⟩
    rw [matcher, hread]
    rfl
  | ok q =>
    have hunbound : ¬ ∀ name ∈ q.operatorNames, context.operators.contains name = true :=
      fun hbound => h ⟨q, hread, hbound⟩
    obtain ⟨f, hf, -⟩ := Matcher.exists_error_of_unbound context.paths hunbound
    refine ⟨f, ?_⟩
    rw [matcher, hread]
    exact hf

end Accepts

namespace Collection

variable {μ : Type} (c : Collection μ) (source : Query.Source)

theorem outcome_find : outcome (c.find source) = outcome (c.context.matcher source) :=
  outcome_bind_pure (c.context.matcher source) fun m => c.findBy m.holds

theorem outcome_not : outcome (c.not source) = outcome (c.context.matcher source) :=
  outcome_bind_pure (c.context.matcher source) fun m => c.notBy m.holds

theorem outcome_findOne : outcome (c.findOne source) = outcome (c.context.matcher source) :=
  outcome_bind_pure (c.context.matcher source) fun m => c.findOneBy m.holds

end Collection

theorem Model.outcome_isMatch {μ : Type} (m : Model μ) (source : Query.Source) :
    outcome (m.isMatch source) = outcome (m.context.matcher source) :=
  outcome_bind_pure (m.context.matcher source) fun matcher => matcher.holdsOn m.document

theorem Query.outcome_isMatch (q : Query) (d : Document) :
    outcome (q.isMatch d) = outcome (Matcher.ofQuery {} .builtIn q) :=
  outcome_bind_pure (Matcher.ofQuery {} .builtIn q) fun matcher => matcher.holdsOn d

namespace Operator

def aliased : List String := ["lt", "gt", "lte", "gte", "eq", "not"]

theorem canonicalName_cases (name : String) :
    canonicalName name = name ∨ canonicalName name ∈ aliased := by
  unfold canonicalName aliased
  split <;> simp

theorem canonicalName_of_mem_aliased : ∀ name ∈ aliased, canonicalName name = name := by decide

theorem canonicalName_idem (name : String) :
    canonicalName (canonicalName name) = canonicalName name := by
  rcases canonicalName_cases name with h | h
  · rw [h, h]
  · exact canonicalName_of_mem_aliased _ h

end Operator

theorem Operators.get?_canonicalName (t : Operators) (name : String) :
    t.get? (Operator.canonicalName name) = t.get? name := by
  unfold get?
  rw [Operator.canonicalName_idem]

theorem Operators.contains_canonicalName (t : Operators) (name : String) :
    t.contains (Operator.canonicalName name) = t.contains name := by
  unfold contains
  rw [Operator.canonicalName_idem]

theorem Query.constraints_satisfying (s : PathSyntax) (field operator : String) (operand : Value) :
    (Query.empty.satisfying field operator operand).constraints s = [⟨field, operator, operand⟩] :=
  List.mergeSort_singleton _

theorem Collection.outcome_whereOp {μ : Type} (c : Collection μ) {field : String}
    (hf : field ≠ "") (operator : String) (operand : Value) :
    outcome (c.whereOp field operator operand) =
      if c.context.operators.contains operator then .ok ()
      else .error (.unknownOperator (Operator.canonicalName operator)) := by
  rw [whereOp, if_neg hf, outcome_find, Context.outcome_matcher c.context rfl,
    Matcher.outcome_ofQuery, Query.constraints_satisfying, Matcher.outcome_resolve]
  have hname := c.context.operators.contains_canonicalName operator
  cases hc : c.context.operators.contains operator with
  | true => simp [List.find?, hname, hc]
  | false => simp [List.find?, hname, hc]

/-- Whether a query is refused depends on the table of operators alone. Over any items, one document
or none, every way of asking succeeds when all operators of the query are bound, and fails otherwise
with the first constraint in compiled order that has an unknown one; a single condition names the
operator that an alias stands for. -/
theorem unknown_operator_refused {μ : Type} (context : Context μ) :
    (∀ source q, Query.Source.read context.settings.marker source = .ok q →
      ∃ r, q.ResolvesTo context.paths context.operators r ∧
        (∀ items : List Value,
          outcome (Collection.find ⟨items, context⟩ source) = r ∧
          outcome (Collection.not ⟨items, context⟩ source) = r ∧
          outcome (Collection.findOne ⟨items, context⟩ source) = r) ∧
        ∀ d : Document, outcome (Model.isMatch ⟨d, context⟩ source) = r) ∧
    (∀ field operator operand, field ≠ "" → ∀ items : List Value,
      outcome (Collection.whereOp ⟨items, context⟩ field operator operand) =
        if context.operators.contains operator then .ok ()
        else .error (.unknownOperator (Operator.canonicalName operator))) ∧
    ∀ q : Query, ∃ r, q.ResolvesTo {} .builtIn r ∧ ∀ d, outcome (q.isMatch d) = r := by
  refine ⟨fun source q hq => ?_, fun field operator operand hf items => ?_, fun q => ?_⟩
  · refine ⟨_, q.resolvesTo_outcome context.paths context.operators, fun items => ?_, fun d => ?_⟩
    · rw [Collection.outcome_find, Collection.outcome_not, Collection.outcome_findOne,
        context.outcome_matcher hq]
      exact ⟨rfl, rfl, rfl⟩
    · rw [Model.outcome_isMatch, context.outcome_matcher hq]
  · exact Collection.outcome_whereOp ⟨items, context⟩ hf operator operand
  · exact ⟨_, q.resolvesTo_outcome {} .builtIn, q.outcome_isMatch⟩

/-- Two unknown operators, the one declared last being first in compiled order, asked for among no
items; and a single condition under an alias and under an unknown name. -/
theorem unknown_operator_refused_empty :
    let context : Context Unit := .new .standard
    let d : Document := ⟨[("z", .document ⟨[("$$y", .document ⟨[("nope", .null)]⟩)]⟩),
      ("$$a", .document ⟨[("==", .null), ("missing", .null)]⟩)]⟩
    let q : Query := ⟨[("z", .nested ⟨[("y", .operators [("nope", .null)])]⟩),
      ("a", .operators [("==", .null), ("missing", .null)])]⟩
    Query.Source.read context.settings.marker (.document d) = .ok q ∧
      outcome (Collection.find ⟨[], context⟩ (.document d)) = .error (.unknownOperator "missing") ∧
      outcome (Collection.whereOp ⟨[], context⟩ "a" ">=" .null) = .ok () ∧
      outcome (Collection.whereOp ⟨[], context⟩ "a" "nope" .null) =
        .error (.unknownOperator "nope") := by
  intro context d q
  obtain ⟨hquery, hwhere, -⟩ := unknown_operator_refused context
  have hread : Query.Source.read context.settings.marker (.document d) = .ok q := by cbv
  obtain ⟨r, hr, hitems, -⟩ := hquery (.document d) q hread
  have hfirst : r = .error (.unknownOperator "missing") := by
    refine (hr.error_iff _).mpr ⟨[⟨"a", "==", .null⟩], ⟨"a", "missing", .null⟩,
      [⟨"z.y", "nope", .null⟩], by cbv, by decide, by decide, rfl⟩
  refine ⟨hread, (hitems []).1.trans hfirst, ?_, ?_⟩
  · rw [hwhere "a" ">=" .null (by decide) []]
    rfl
  · rw [hwhere "a" "nope" .null (by decide) []]
    rfl

end Dossier
