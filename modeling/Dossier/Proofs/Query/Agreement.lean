import Dossier.Collection.Find
import Dossier.Model.Basic
import Dossier.Proofs.Path.Segments
import Mathlib.Tactic

/-! One verdict on one document. A model, a collection of one item and a matcher used by itself read
the same query and look its fields up in two ways, in a document and in any value. Both ways lead to
the same place on every path there is, so what is asked cannot depend on whom it is asked of. -/

namespace Dossier

namespace Matcher

/-- A document satisfies a matcher when it does so as a value. -/
theorem holdsOn_eq_holds (m : Matcher) (d : Document) : m.holdsOn d = m.holds (.document d) := by
  simp only [holdsOn, holds, PathSyntax.get?_eq_getValue?]

end Matcher

section Ask

variable {μ : Type} (context : Context μ) (source : Query.Source) (d : Document)

def Context.verdict : Except Fault Bool := (context.matcher source).map (·.holds (.document d))

theorem Context.verdict_eq_holdsOn :
    context.verdict source d = (context.matcher source).map (·.holdsOn d) := by
  simp only [verdict, Matcher.holdsOn_eq_holds]

theorem Model.isMatch_eq_verdict :
    Model.isMatch ⟨d, context⟩ source = context.verdict source d := by
  rw [context.verdict_eq_holdsOn, isMatch]
  cases context.matcher source <;> rfl

namespace Collection

theorem findBy_singleton (item : Value) (p : Value → Bool) :
    findBy ⟨[item], context⟩ p = ⟨if p item then [item] else [], context⟩ := by
  cases h : p item <;> simp [findBy, collect, h]

theorem notBy_singleton (item : Value) (p : Value → Bool) :
    notBy ⟨[item], context⟩ p = ⟨if p item then [] else [item], context⟩ := by
  cases h : p item <;> simp [notBy, collect, h]

theorem findOneBy_singleton (item : Value) (p : Value → Bool) :
    findOneBy ⟨[item], context⟩ p = if p item then some item else none := by
  cases h : p item <;> simp [findOneBy, h]

theorem find_singleton :
    find ⟨[.document d], context⟩ source =
      (context.verdict source d).map fun b => ⟨if b then [.document d] else [], context⟩ := by
  rw [find, Context.verdict]
  cases context.matcher source with
  | error e => rfl
  | ok m => exact congrArg Except.ok (findBy_singleton context (.document d) m.holds)

theorem not_singleton :
    not ⟨[.document d], context⟩ source =
      (context.verdict source d).map fun b => ⟨if b then [] else [.document d], context⟩ := by
  rw [not, Context.verdict]
  cases context.matcher source with
  | error e => rfl
  | ok m => exact congrArg Except.ok (notBy_singleton context (.document d) m.holds)

theorem findOne_singleton :
    findOne ⟨[.document d], context⟩ source =
      (context.verdict source d).map fun b => if b then some (.document d) else none := by
  rw [findOne, Context.verdict]
  cases context.matcher source with
  | error e => rfl
  | ok m => exact congrArg Except.ok (findOneBy_singleton context (.document d) m.holds)

end Collection

/-- A query that cannot be read is the failure; one that can is matched as it was read. -/
theorem Context.verdict_of_read {q : Query} (h : source.read context.settings.marker = .ok q) :
    context.verdict source d =
      (Matcher.ofQuery context.paths context.operators q).map (·.holds (.document d)) := by
  rw [verdict, matcher, h]
  rfl

theorem Context.verdict_of_unread {e : Fault}
    (h : source.read context.settings.marker = .error e) :
    context.verdict source d = .error e := by
  rw [verdict, matcher, h]
  rfl

theorem Query.isMatch_eq_map (q : Query) :
    q.isMatch d = (Matcher.ofQuery {} .builtIn q).map (·.holdsOn d) := by
  rw [isMatch]
  cases Matcher.ofQuery {} .builtIn q <;> rfl

/-- On every query, document or built, and every document there is one verdict, or one failure, that
the model over the document gives, that decides what is picked from a collection of that document
alone, and that a matcher made from the query gives both of the document and of the document as a
value. With settings and operators as they are by default, matching without a context gives it
too. -/
theorem matching_agrees :
    ∃ verdict : Except Fault Bool,
      Model.isMatch ⟨d, context⟩ source = verdict ∧
      (Collection.find ⟨[.document d], context⟩ source =
        verdict.map fun b => ⟨if b then [.document d] else [], context⟩) ∧
      (Collection.not ⟨[.document d], context⟩ source =
        verdict.map fun b => ⟨if b then [] else [.document d], context⟩) ∧
      (Collection.findOne ⟨[.document d], context⟩ source =
        verdict.map fun b => if b then some (.document d) else none) ∧
      (∀ e, source.read context.settings.marker = .error e → verdict = .error e) ∧
      ∀ q, source.read context.settings.marker = .ok q →
        (Matcher.ofQuery context.paths context.operators q).map (·.holdsOn d) = verdict ∧
        (Matcher.ofQuery context.paths context.operators q).map (·.holds (.document d)) = verdict ∧
        (context.settings = .standard → context.operators = .builtIn → q.isMatch d = verdict) := by
  refine ⟨context.verdict source d, Model.isMatch_eq_verdict context source d,
    Collection.find_singleton context source d, Collection.not_singleton context source d,
    Collection.findOne_singleton context source d,
    fun e he => context.verdict_of_unread source d he, fun q hq => ?_⟩
  have hvalue := context.verdict_of_read source d hq
  refine ⟨?_, hvalue.symm, fun hsettings hoperators => ?_⟩
  · simp only [hvalue, Matcher.holdsOn_eq_holds]
  · rw [Query.isMatch_eq_map, hvalue, Context.paths, hsettings, hoperators]
    simp only [Matcher.holdsOn_eq_holds]
    rfl

end Ask

/-- A document asked for the empty path, an item of an array, an empty segment and a key below a
number, by all ways under default settings; and under settings and operators of its own. A number that
it does not have is the verdict no, and queries that cannot be read or that name an operator of
another table are refused. -/
theorem matching_agrees_on_edge_paths :
    let context : Context Unit := .new .standard
    let d : Document := ⟨[("a", .array [.signed 2]), ("n", .signed 1)]⟩
    let q : Query := ⟨[("", .literal .null), ("a.+0", .operators [(">=", .signed 2)]),
      ("a..b", .literal .null), ("n.x", .literal .null)]⟩
    let missed : Query := ⟨[("n", .literal (.signed 2))]⟩
    let unread : Query.Source := .document ⟨[("$$n", .signed 1)]⟩
    let oddly : Query := ⟨[("n", .operators [("odd", .null)])]⟩
    Model.isMatch ⟨d, context⟩ (.built q) = .ok true ∧ q.isMatch d = .ok true ∧
      Collection.find ⟨[.document d], context⟩ (.built q) = .ok ⟨[.document d], context⟩ ∧
      Model.isMatch ⟨d, context⟩ (.built missed) = .ok false ∧ missed.isMatch d = .ok false ∧
      Collection.find ⟨[.document d], context⟩ (.built missed) = .ok ⟨[], context⟩ ∧
      Collection.not ⟨[.document d], context⟩ (.built missed) = .ok ⟨[.document d], context⟩ ∧
      Model.isMatch ⟨d, context⟩ unread = .error (.operatorsExpected "$$n") ∧
      Collection.find ⟨[.document d], context⟩ unread = .error (.operatorsExpected "$$n") ∧
      Model.isMatch ⟨d, context⟩ (.built oddly) = .error (.unknownOperator "odd") ∧
      oddly.isMatch d = .error (.unknownOperator "odd") ∧
      Collection.findOne ⟨[.document d], context⟩ (.built oddly) = .error (.unknownOperator "odd") ∧
      let odd : Operators := ⟨[("odd", fun _ field => field.kind == .number)]⟩
      let named : Context Unit := ⟨{ separator := "::" }, odd, []⟩
      let asked : Query.Source := .document ⟨[("$$a::0", .document ⟨[("odd", .null)]⟩)]⟩
      Model.isMatch ⟨d, named⟩ asked = .ok true ∧
        Collection.findOne ⟨[.document d], named⟩ asked = .ok (some (.document d)) := by
  intro context d q missed unread oddly
  obtain ⟨verdict, hmodel, hfind, -, -, -, hread⟩ := matching_agrees context (.built q) d
  obtain ⟨-, -, hdefault⟩ := hread q rfl
  have htrue : verdict = .ok true := hmodel.symm.trans (by cbv)
  refine ⟨hmodel.trans htrue, (hdefault rfl rfl).trans htrue, by rw [hfind, htrue]; rfl, ?_⟩
  obtain ⟨verdict, hmodel, hfind, hnot, -, -, hread⟩ := matching_agrees context (.built missed) d
  obtain ⟨-, -, hdefault⟩ := hread missed rfl
  have hfalse : verdict = .ok false := hmodel.symm.trans (by cbv)
  refine ⟨hmodel.trans hfalse, (hdefault rfl rfl).trans hfalse, by rw [hfind, hfalse]; rfl,
    by rw [hnot, hfalse]; rfl, ?_⟩
  obtain ⟨verdict, hmodel, hfind, -, -, hunread, -⟩ := matching_agrees context unread d
  have herror : verdict = .error (.operatorsExpected "$$n") := hunread _ (by cbv)
  refine ⟨hmodel.trans herror, by rw [hfind, herror]; rfl, ?_⟩
  obtain ⟨verdict, hmodel, -, -, hfindOne, -, hread⟩ := matching_agrees context (.built oddly) d
  obtain ⟨-, -, hdefault⟩ := hread oddly rfl
  have hodd : verdict = .error (.unknownOperator "odd") := hmodel.symm.trans (by cbv)
  refine ⟨hmodel.trans hodd, (hdefault rfl rfl).trans hodd, by rw [hfindOne, hodd]; rfl, ?_⟩
  intro odd named asked
  obtain ⟨verdict, hmodel, -, -, hfindOne, -⟩ := matching_agrees named asked d
  have htrue : verdict = .ok true := hmodel.symm.trans (by cbv)
  exact ⟨hmodel.trans htrue, by rw [hfindOne, htrue]; rfl⟩

end Dossier
