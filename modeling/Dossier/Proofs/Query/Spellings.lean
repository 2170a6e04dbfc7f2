import Dossier.Proofs.Context.Registration
import Dossier.Proofs.Query.Grammar
import Dossier.Proofs.Query.Respect

/-! Ways to spell one condition. A field that is to equal a value can be given the value directly or
the operator behind the marker, inside whatever query, and a single condition can be asked for by
itself. What matters of a constraint is where it reads, whether its operator is bound and which
values satisfy it; two queries whose constraints come to the same are told apart by nothing. -/

namespace Dossier

/-! ### What a constraint comes to -/

/-- What is left of a constraint once a table of operators has been asked. -/
structure Constraint.Reading where
  path : String
  bound : Bool
  accepts : Value → Bool

def Constraint.reading (t : Operators) (c : Constraint) : Reading :=
  ⟨c.path, t.contains c.operator, t.accepts c.operator c.operand⟩

namespace Query

variable {t : Operators}

def SameEntry (t : Operators) (n n' : String × Node) : Prop :=
  ∀ s path, ((n.2.constraintsAt s (PathSyntax.join s path n.1)).map (Constraint.reading t)).Perm
    ((n'.2.constraintsAt s (PathSyntax.join s path n'.1)).map (Constraint.reading t))

/-- Two queries that come to the same constraints, in whatever order, below every path. -/
def Same (t : Operators) (q q' : Query) : Prop :=
  ∀ s path, ((q.constraintsBelow s path).map (Constraint.reading t)).Perm
    ((q'.constraintsBelow s path).map (Constraint.reading t))

theorem Same.trans {q q' q'' : Query} (h : q.Same t q') (h' : q'.Same t q'') : q.Same t q'' :=
  fun s path => (h s path).trans (h' s path)

theorem same_of_perm {ns ms : List (String × Node)} (h : ns.Perm ms) : Same t ⟨ns⟩ ⟨ms⟩ := by
  intro s path
  rw [constraintsBelow_eq_flatMap, constraintsBelow_eq_flatMap]
  exact (h.flatMap_right _).map _

theorem same_cons {n n' : String × Node} (h : SameEntry t n n') (ms : List (String × Node)) :
    Same t ⟨n :: ms⟩ ⟨n' :: ms⟩ := by
  intro s path
  simp only [constraintsBelow_eq_flatMap, List.flatMap_cons, List.map_append]
  exact (h s path).append_right _

theorem same_nested {q q' : Query} (h : q.Same t q') (key : String) :
    SameEntry t (key, .nested q) (key, .nested q') :=
  fun s path => h s (s.join path key)

/-- Queries that come to the same have all their operators bound both or neither. -/
theorem Same.bound_iff {q q' : Query} (h : q.Same t q') :
    (∀ name ∈ q.operatorNames, t.contains name = true) ↔
      ∀ name ∈ q'.operatorNames, t.contains name = true := by
  have hbound : ∀ q : Query, (∀ name ∈ q.operatorNames, t.contains name = true) ↔
      ∀ r ∈ (q.constraintsBelow {} "").map (Constraint.reading t), r.bound = true := by
    intro q
    rw [forall_mem_operatorNames_iff {} "", List.forall_mem_map]
    rfl
  rw [hbound q, hbound q']
  exact forall_congr' fun r => by rw [(h {} "").mem_iff]

theorem Same.all_holds_eq {q q' : Query} (h : q.Same t q') (s : PathSyntax) (item : Value) :
    (q.constraintsBelow s "").all (Constraint.holds s t item) =
      (q'.constraintsBelow s "").all (Constraint.holds s t item) := by
  have hholds : ∀ q : Query, (q.constraintsBelow s "").all (Constraint.holds s t item) =
      ((q.constraintsBelow s "").map (Constraint.reading t)).all fun r =>
        r.accepts ((s.getValue? item r.path).getD .null) := by
    intro q
    rw [List.all_map]
    rfl
  rw [hholds q, hholds q']
  exact (h s "").all_eq

end Query

/-- Queries that come to the same make matchers that tell the same of every item, or none. -/
theorem Matcher.endAlike_of_same {t : Operators} {q q' : Query} (h : q.Same t q') (s : PathSyntax) :
    EndAlike (fun m m' => m.holds = m'.holds) (ofQuery s t q) (ofQuery s t q') := by
  have hall : ∀ x y, x = y → (q.constraintsBelow s "").all (Constraint.holds s t x) =
      (q'.constraintsBelow s "").all (Constraint.holds s t y) := by
    rintro x - rfl
    exact h.all_holds_eq s x
  exact (endAlike_of_bound_iff h.bound_iff hall).imp fun m m' hsame => funext fun x => hsame rfl

/-! ### Direct and behind the marker -/

namespace Query

variable {marker field : String} {v : Value} {t : Operators}

/-- Two documents that ask a field for one value, the one directly and the other by the operator
behind the marker. All else in them is the same, be it in another order, and both may stand under
one key in documents of which that is so. -/
inductive Respelled (marker field : String) (v : Value) : Document → Document → Prop where
  | here {d e : Document} {rest : List (String × Value)} (hd : d.entries.Perm ((field, v) :: rest))
      (he : e.entries.Perm ((marker ++ field, .document ⟨[("eq", v)]⟩) :: rest)) :
      Respelled marker field v d e
  | inside {d e d' e' : Document} {key : String} {rest : List (String × Value)}
      (hk : ¬ Marked marker key) (h : Respelled marker field v d e)
      (hd : d'.entries.Perm ((key, .document d) :: rest))
      (he : e'.entries.Perm ((key, .document e) :: rest)) : Respelled marker field v d' e'

/-- Whenever the one document can be read, the other can, as a query that comes to the same. -/
def ReadAs (marker : String) (t : Operators) (d e : Document) : Prop :=
  ∀ q, ofDocument marker d = .ok q → ∃ q', ofDocument marker e = .ok q' ∧ q.Same t q'

/-- Documents that differ in one entry are read alike when that entry is. -/
theorem readAs_of_perm {d e : Document} {x y : String × Value} {rest : List (String × Value)}
    (hd : d.entries.Perm (x :: rest)) (he : e.entries.Perm (y :: rest))
    (hxy : ∀ n, ofEntry marker x.1 x.2 = .ok n →
      ∃ n', ofEntry marker y.1 y.2 = .ok n' ∧ SameEntry t n n') : ReadAs marker t d e := by
  rintro ⟨ks⟩ hq
  -- entries are read one by one, so the query can be put in the order in which `x` comes first
  obtain ⟨ns, hns, hperm⟩ := List.perm_comp_forall₂ hd.symm (ofDocument_eq_ok_iff.mp hq)
  cases hns with
  | @cons _ n _ ms hn hms =>
    obtain ⟨n', hn', hsame⟩ := hxy n hn
    obtain ⟨ns', hns', hperm'⟩ := List.perm_comp_forall₂ he (.cons hn' hms)
    refine ⟨⟨ns'⟩, ofDocument_eq_ok_iff.mpr hns', ?_⟩
    have hfirst : Same t ⟨ks⟩ ⟨n :: ms⟩ := same_of_perm hperm.symm
    have hlast : Same t ⟨n' :: ms⟩ ⟨ns'⟩ := same_of_perm hperm'.symm
    exact (hfirst.trans (same_cons hsame ms)).trans hlast

def Node.direct : Value → Node
  | .pattern p => .pattern p
  | v => .literal v

theorem ofEntry_direct (hm : ¬ Marked marker field) (hv : v.kind ≠ .document) :
    ofEntry marker field v = .ok (field, .direct v) := by
  rw [ofEntry_eq_ok_iff_denotes]
  by_cases hp : v.kind = .pattern
  · cases v with
    | pattern p => exact .pattern hm
    | _ => cases hp
  · have hdirect : Node.direct v = .literal v := by
      cases v with
      | pattern p => exact absurd rfl hp
      | _ => rfl
    rw [hdirect]
    exact .literal hm hp hv

/-- A value that is given directly comes to the same as the operator does, unless it is a pattern
and the operators are not the built-in ones. -/
theorem sameEntry_direct (hp : v.kind = .pattern →
      t.get? "eq" = some .eq ∧ t.get? "regexp" = some .regexp) (field : String) :
    SameEntry t (field, .direct v) (field, .operators [("eq", v)]) := by
  intro s path
  cases v with
  | pattern p =>
    obtain ⟨heq, hregexp⟩ := hp rfl
    have hread : Constraint.reading t ⟨s.join path field, "regexp", .pattern p⟩ =
        Constraint.reading t ⟨s.join path field, "eq", .pattern p⟩ := by
      have hbound : t.contains "regexp" = t.contains "eq" := by
        show (t.get? "regexp").isSome = (t.get? "eq").isSome
        rw [heq, hregexp]
        rfl
      have haccepts : t.accepts "regexp" (.pattern p) = t.accepts "eq" (.pattern p) := by
        funext w
        simp only [Operators.accepts, heq, hregexp]
        rfl
      simp only [Constraint.reading, hbound, haccepts]
    exact .of_eq (congrArg (fun r => [r]) hread)
  | _ => exact .refl _

theorem ReadAs.ofEntry {d e : Document} (h : ReadAs marker t d e) {key : String}
    (hk : ¬ Marked marker key) {n : String × Node}
    (hn : Query.ofEntry marker key (.document d) = .ok n) :
    ∃ n', Query.ofEntry marker key (.document e) = .ok n' ∧ SameEntry t n n' := by
  cases ofEntry_eq_ok_iff.mp hn with
  | operators hm hf => rw [markedField?_eq_none_iff.mpr hk] at hm; cases hm
  | nested hm hq =>
    obtain ⟨q', hq', hsame⟩ := h _ hq
    exact ⟨_, ofEntry_eq_ok_iff.mpr (.nested hm hq'), same_nested hsame key⟩
  | literal hm hp hd => exact absurd rfl hd

theorem Respelled.readAs {d e : Document} (h : Respelled marker field v d e) (hf : field ≠ "")
    (hm : ¬ Marked marker field) (hv : v.kind ≠ .document)
    (hp : v.kind = .pattern → t.get? "eq" = some .eq ∧ t.get? "regexp" = some .regexp) :
    ReadAs marker t d e ∧ ReadAs marker t e d := by
  induction h with
  | here hd he =>
    have hdirect := ofEntry_direct hm hv
    have hmarked : Query.ofEntry marker (marker ++ field) (.document ⟨[("eq", v)]⟩) =
        .ok (field, .operators [("eq", v)]) := ofEntry_eq_ok_iff_denotes.mpr (.operators hf)
    have hsame := sameEntry_direct hp field
    refine ⟨readAs_of_perm hd he fun n hn => ?_, readAs_of_perm he hd fun n hn => ?_⟩
    · cases hdirect.symm.trans hn
      exact ⟨_, hmarked, hsame⟩
    · cases hmarked.symm.trans hn
      exact ⟨_, hdirect, fun s path => (hsame s path).symm⟩
  | inside hk _ hd he ih =>
    exact ⟨readAs_of_perm hd he fun n hn => ih.1.ofEntry hk hn,
      readAs_of_perm he hd fun n hn => ih.2.ofEntry hk hn⟩

end Query

/-- A document and its other spelling are refused for one kind of reason or make matchers that tell
the same of every item. -/
theorem Context.endAlike_matcher_of_respelled {μ : Type} (context : Context μ) {field : String}
    {v : Value} {d e : Document} (h : Query.Respelled context.settings.marker field v d e)
    (hf : field ≠ "") (hm : ¬ Query.Marked context.settings.marker field)
    (hv : v.kind ≠ .document)
    (hp : v.kind = .pattern →
      context.operators.get? "eq" = some .eq ∧ context.operators.get? "regexp" = some .regexp) :
    EndAlike (fun m m' => m.holds = m'.holds) (context.matcher (.document d))
      (context.matcher (.document e)) := by
  obtain ⟨hde, hed⟩ := h.readAs hf hm hv hp
  have hread := Query.endAlike_ofDocument_of_ok hde fun q' hq' => by
    obtain ⟨q, hq, -⟩ := hed q' hq'
    exact ⟨q, hq⟩
  unfold matcher
  exact hread.bind fun q q' _ hsame => Matcher.endAlike_of_same hsame context.paths

/-! ### A single condition -/

/-- No registration takes a built-in name out of the table. -/
theorem Context.Carries.contains {μ : Type} {c : Context μ} {s : Settings}
    {rs : List (Registration μ)} (h : c.Carries s rs) {name : String}
    (hname : Operators.builtIn.contains name = true) : c.operators.contains name = true := by
  show (c.operators.get? name).isSome = true
  rw [h.operators name, Option.isSome_or]
  exact Bool.or_eq_true_iff.mpr (.inr hname)

namespace Operators

/-- Where what the aliases stand for is bound, no failure names it. -/
theorem resolve_canonicalName {t : Operators}
    (h : ∀ name ∈ Operator.aliased, t.contains name = true) (name : String) :
    t.resolve (Operator.canonicalName name) = t.resolve name := by
  rcases Operator.canonicalName_cases name with hsame | haliased
  · rw [hsame]
  · obtain ⟨op, hop⟩ := Option.isSome_iff_exists.mp (h _ haliased)
    have hget : t.get? (Operator.canonicalName name) = some op := hop
    rw [resolve, resolve, hget, ← t.get?_canonicalName name, hget]

end Operators

namespace Collection

variable {μ : Type}

theorem find_of_read_condition (c : Collection μ) {source : Query.Source}
    {field operator : String} {operand : Value}
    (hread : source.read c.context.settings.marker =
      .ok (Query.empty.satisfying field operator operand)) :
    c.find source = (c.context.operators.resolve operator).map fun op =>
      c.findBy fun item => op operand ((c.context.paths.getValue? item field).getD .null) := by
  have hmatcher : c.context.matcher source =
      (c.context.operators.resolve operator).map fun op =>
        ⟨[(⟨field, operator, operand⟩, op)], c.context.paths⟩ := by
    rw [Context.matcher, hread]
    show Matcher.ofQuery _ _ _ = _
    rw [Matcher.ofQuery, Query.constraints_satisfying, Matcher.resolve]
    cases c.context.operators.resolve operator <;> rfl
  rw [find, hmatcher]
  cases c.context.operators.resolve operator with
  | error f => rfl
  | ok op =>
    exact congrArg (fun p => Except.ok (c.findBy p)) (funext fun item => Bool.and_true _)

/-- A single condition is the query that a document with the operator behind the marker is. -/
theorem whereOp_eq_find {c : Collection μ} {s : Settings} {rs : List (Registration μ)}
    (h : c.context.Carries s rs) {field : String} (hf : field ≠ "") (operator : String)
    (operand : Value) :
    c.whereOp field operator operand = c.find (.document
      ⟨[(c.context.settings.marker ++ field, .document ⟨[(operator, operand)]⟩)]⟩) := by
  have hread : (Query.Source.document ⟨[(c.context.settings.marker ++ field,
      .document ⟨[(operator, operand)]⟩)]⟩).read c.context.settings.marker =
        .ok (Query.empty.satisfying field operator operand) :=
    Query.ofDocument_eq_ok_iff_denotes.mpr (.cons (.operators hf) .nil)
  have hbuilt : (Query.Source.built (Query.empty.satisfying field
      (Operator.canonicalName operator) operand)).read c.context.settings.marker =
        .ok (Query.empty.satisfying field (Operator.canonicalName operator) operand) := rfl
  have hbound : ∀ name ∈ Operator.aliased, Operators.builtIn.contains name = true := by decide
  rw [whereOp, if_neg hf, c.find_of_read_condition hbuilt, c.find_of_read_condition hread,
    Operators.resolve_canonicalName fun name hname => h.contains (hbound name hname)]

theorem endAlike_find_not {c : Collection μ} {source source' : Query.Source}
    (h : EndAlike (fun m m' => m.holds = m'.holds) (c.context.matcher source)
      (c.context.matcher source')) :
    EndAlike (· = ·) (c.find source) (c.find source') ∧
      EndAlike (· = ·) (c.not source) (c.not source') :=
  ⟨h.bind fun _ _ _ hsame => .give (congrArg c.findBy hsame),
    h.bind fun _ _ _ hsame => .give (congrArg c.notBy hsame)⟩

end Collection

/-- Three ways to spell one condition. That a field is to equal a value, be it next to other entries
and in documents however deep, can be spelled by the operator behind the marker: what is found, what
is left and the kind of failure stay as they are. For a pattern that takes the built-in operators;
for another value any table does, and no name in it need be bound. A single condition gives what the
document of that one condition gives, under any name of an operator, in every context that
registrations make. -/
theorem one_constraint_three_spellings {μ : Type} (context : Context μ) (items : List Value) :
    (∀ field v d e, field ≠ "" → ¬ Query.Marked context.settings.marker field →
      v.kind ≠ .document →
      (v.kind = .pattern →
        context.operators.get? "eq" = some .eq ∧ context.operators.get? "regexp" = some .regexp) →
      Query.Respelled context.settings.marker field v d e →
      EndAlike (· = ·) (Collection.find ⟨items, context⟩ (.document d))
        (Collection.find ⟨items, context⟩ (.document e)) ∧
      EndAlike (· = ·) (Collection.not ⟨items, context⟩ (.document d))
        (Collection.not ⟨items, context⟩ (.document e))) ∧
    ∀ s rs, context.Carries s rs → ∀ field operator operand, field ≠ "" →
      Collection.whereOp ⟨items, context⟩ field operator operand =
        Collection.find ⟨items, context⟩ (.document
          ⟨[(context.settings.marker ++ field, .document ⟨[(operator, operand)]⟩)]⟩) := by
  refine ⟨fun field v d e hf hm hv hp h => ?_, fun s rs hc field operator operand hf => ?_⟩
  · exact Collection.endAlike_find_not (context.endAlike_matcher_of_respelled h hf hm hv hp)
  · exact Collection.whereOp_eq_find (c := ⟨items, context⟩) hc hf operator operand

/-- A pattern below another field, respelled at the end of its document, and a single condition
under an alias whose operator is not the built-in one. -/
theorem one_constraint_three_spellings_nested :
    let context : Context Unit :=
      ⟨.standard, ⟨Operators.builtIn.bindings.insert "lt" .gt⟩, []⟩
    let p : Pattern := ⟨"a", .text ['a'], rfl⟩
    let d : Document := ⟨[("x", .document ⟨[("y", .pattern p), ("z", .null)]⟩), ("w", .signed 3)]⟩
    let e : Document := ⟨[("x", .document ⟨[("z", .null),
      ("$$y", .document ⟨[("eq", .pattern p)]⟩)]⟩), ("w", .signed 3)]⟩
    let item : Value := .document ⟨[("w", .signed 3), ("x", .document ⟨[("y", .string "cat")]⟩)]⟩
    context.Carries .standard [.addOperator "<" .gt] ∧ Query.Respelled "$$" "y" (.pattern p) d e ∧
      Collection.find ⟨[.null, item], context⟩ (.document e) = .ok ⟨[item], context⟩ ∧
      Collection.whereOp ⟨[.null, item], context⟩ "w" "<" (.signed 2) = .ok ⟨[item], context⟩ ∧
      Collection.find ⟨[.null, item], context⟩
        (.document ⟨[("$$w", .document ⟨[("<", .signed 2)]⟩)]⟩) = .ok ⟨[item], context⟩ := by
  intro context p d e item
  have hc : context.Carries .standard [.addOperator "<" .gt] :=
    (Context.carries_new .standard).register (r := .addOperator "<" .gt) rfl
  have hde : Query.Respelled "$$" "y" (.pattern p) d e :=
    .inside (by decide) (.here (.refl _) (.swap _ _ _)) (.refl _) (.refl _)
  obtain ⟨hfind, hwhere⟩ := one_constraint_three_spellings context [.null, item]
  obtain ⟨hsame, -⟩ :=
    hfind "y" (.pattern p) d e (by decide) (by decide) (by decide) (fun _ => ⟨rfl, rfl⟩) hde
  have hd : Collection.find ⟨[.null, item], context⟩ (.document d) = .ok ⟨[item], context⟩ := by
    let q : Query := ⟨[("x", .nested ⟨[("y", .pattern p), ("z", .literal .null)]⟩),
      ("w", .literal (.signed 3))]⟩
    have hread : (Query.Source.document d).read context.settings.marker = .ok q := by cbv
    have ho : ∀ name ∈ q.operatorNames, context.operators.contains name = true := by decide
    obtain ⟨m, hm, hholds⟩ := Matcher.exists_of_bound context.paths ho
    have hnull : m.holds .null = false := by
      rw [hholds]
      decide +kernel
    have hitem : m.holds item = true := by
      rw [hholds]
      decide +kernel
    have hmatcher : context.matcher (.document d) = .ok m := by
      rw [Context.matcher, hread]
      exact hm
    rw [Collection.find, hmatcher]
    show Except.ok (Collection.findBy ⟨[.null, item], context⟩ m.holds) = _
    simp only [Collection.findBy, List.filter_cons, hnull, hitem, if_true]
    rfl
  have hw : Collection.whereOp ⟨[.null, item], context⟩ "w" "<" (.signed 2) =
      .ok ⟨[item], context⟩ := by cbv
  refine ⟨hc, hde, ?_, hw, ?_⟩
  · rw [hd] at hsame
    generalize Collection.find ⟨[.null, item], context⟩ (.document e) = found at hsame
    cases hsame with
    | give heq => exact congrArg Except.ok heq.symm
  · exact (hwhere .standard _ hc "w" "<" (.signed 2) (by decide)).symm.trans hw

end Dossier
