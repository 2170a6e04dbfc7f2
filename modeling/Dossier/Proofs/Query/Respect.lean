import Dossier.Proofs.Query.Binding
import Dossier.Proofs.Query.Reading
import Dossier.Proofs.Value.Alike

/-! The built-in operators tell the same of alike operands and of alike fields. Patterns are left
out: they are matched against the text of a field, in which the order of keys and the kind of a
number show. Queries read from alike documents have alike constraints, though in another order. -/

namespace Dossier

namespace Operator

/-- An operator that tells the same of alike operands, patterns apart, and of alike fields. -/
def Respectful (op : Operator) : Prop :=
  ∀ ⦃a b x y : Value⦄, a.kind ≠ .pattern → a.Alike b → x.Alike y → op a x = op b y

theorem Respectful.negate {op : Operator} (h : op.Respectful) :
    Respectful fun operand field => !op operand field :=
  fun _ _ _ _ ha hab hxy => congrArg (!·) (h ha hab hxy)

/-! ### Equality and order -/

theorem eq_of_kind_ne {a : Value} (ha : a.kind ≠ .pattern) (x : Value) : eq a x = x.equal a := by
  cases a with
  | pattern p => exact absurd rfl ha
  | _ => rfl

theorem respectful_eq : eq.Respectful := by
  intro a b x y ha hab hxy
  have hb : b.kind ≠ .pattern := hab.kind_eq ▸ ha
  rw [eq_of_kind_ne ha, eq_of_kind_ne hb]
  exact hxy.equal_congr hab

theorem compare?_congr {a b x y : Value} (hab : a.Alike b) (hxy : x.Alike y) :
    compare? a x = compare? b y := by
  rw [compare?, compare?, hab.kind_eq, hxy.kind_eq, hxy.compare_congr hab]

/-- What is told of an operand and a field by how they compare alone. -/
theorem respectful_compare? (p : Option Ordering → Bool) :
    Respectful fun operand field => p (compare? operand field) :=
  fun _ _ _ _ _ hab hxy => congrArg p (compare?_congr hab hxy)

/-! ### Membership -/

theorem any_equal_congr {xs ys : List Value} {x y : Value} (hs : List.Forall₂ Value.Alike xs ys)
    (hxy : x.Alike y) : xs.any (·.equal x) = ys.any (·.equal y) := by
  induction hs with
  | nil => rfl
  | cons h _ ih => rw [List.any_cons, List.any_cons, h.equal_congr hxy, ih]

theorem respectful_isIn : isIn.Respectful := by
  intro a b x y _ hab hxy
  have hk := hab.kind_eq
  cases a with
  | array xs =>
    obtain ⟨ys, rfl, hs⟩ := hab.exists_array
    exact any_equal_congr hs hxy
  | _ =>
    cases b <;> cases hk
    rfl

theorem respectful_contains : contains.Respectful := by
  intro a b x y _ hab hxy
  have hk := hxy.kind_eq
  cases x with
  | array xs =>
    obtain ⟨ys, rfl, hs⟩ := hxy.exists_array
    exact any_equal_congr hs hab
  | string text =>
    obtain rfl := hxy.eq_string
    have hl := hab.kind_eq
    cases a with
    | string needle =>
      obtain rfl := hab.eq_string
      rfl
    | _ =>
      cases b <;> cases hl
      rfl
  | _ =>
    cases y <;> cases hk
    rfl

end Operator

/-! ### The table -/

namespace Operators

open Operator in
/-- Every built-in operator is respectful but the one that matches patterns. -/
theorem respectful_of_mem_builtIn :
    ∀ binding ∈ builtIn.bindings, binding.1 ≠ "regexp" → Respectful binding.2 := by
  unfold builtIn
  simp only [List.forall_mem_cons]
  exact ⟨fun _ => respectful_eq, fun _ => respectful_eq.negate,
    fun _ => respectful_compare? (· == some .gt),
    fun _ => respectful_compare? (·.any Ordering.isGE),
    fun _ => respectful_compare? (· == some .lt),
    fun _ => respectful_compare? (·.any Ordering.isLE), fun _ => respectful_isIn,
    fun _ => respectful_isIn.negate, fun _ => respectful_contains,
    fun _ => respectful_contains.negate, fun h => absurd rfl h, List.forall_mem_nil _⟩

theorem respectful_of_get? {name : String} {op : Operator} (h : builtIn.get? name = some op)
    (hname : name ≠ "regexp") : op.Respectful := by
  refine respectful_of_mem_builtIn _ (Entries.mem_of_get? h) fun hregexp => ?_
  rcases Operator.canonicalName_cases name with hsame | haliased
  · exact hname (hsame.symm.trans hregexp)
  · have : "regexp" ∈ Operator.aliased := hregexp ▸ haliased
    exact absurd this (by decide)

theorem accepts_congr {name : String} (hname : name ≠ "regexp") {a b x y : Value}
    (ha : a.kind ≠ .pattern) (hab : a.Alike b) (hxy : x.Alike y) :
    builtIn.accepts name a x = builtIn.accepts name b y := by
  unfold accepts
  cases hop : builtIn.get? name with
  | none => rfl
  | some op => exact respectful_of_get? hop hname ha hab hxy

end Operators

namespace Constraint

/-- One condition on one path, for operands that are alike. -/
structure Alike (c c' : Constraint) : Prop where
  path : c.path = c'.path
  operator : c.operator = c'.operator
  operand : c.operand.Alike c'.operand

theorem Alike.symm {c c' : Constraint} (h : c.Alike c') : c'.Alike c :=
  ⟨h.path.symm, h.operator.symm, h.operand.symm⟩

theorem Alike.covers {c c' : Constraint} (h : c.Alike c') : ∀ b ∈ [c], ∃ b' ∈ [c'], b.Alike b' := by
  simpa using h

theorem Alike.holds_eq {c c' : Constraint} (h : c.Alike c') (hname : c.operator ≠ "regexp")
    (hoperand : c.operand.kind ≠ .pattern) (s : PathSyntax) {x y : Value} (hxy : x.Alike y) :
    c.holds s .builtIn x = c'.holds s .builtIn y := by
  unfold holds
  rw [← h.operator, ← h.path]
  exact Operators.accepts_congr hname hoperand h.operand (hxy.getValue? s c.path)

end Constraint

/-! ### Queries read from alike documents -/

namespace Query

/-- On whatever path it lies, each constraint of the one node has one like it in the other. -/
def Node.CoveredBy (n n' : Node) : Prop :=
  ∀ s path, ∀ c ∈ n.constraintsAt s path, ∃ c' ∈ n'.constraintsAt s path, c.Alike c'

/-- Below whatever path they lie, each constraint of the one query has one like it in the other. -/
def CoveredBy (q q' : Query) : Prop :=
  ∀ s path, ∀ c ∈ q.constraintsBelow s path, ∃ c' ∈ q'.constraintsBelow s path, c.Alike c'

theorem coveredBy_of_entries {q q' : Query}
    (h : ∀ n ∈ q.entries, ∃ n' ∈ q'.entries, n.1 = n'.1 ∧ n.2.CoveredBy n'.2) :
    q.CoveredBy q' := by
  intro s path c hc
  obtain ⟨n, hn, hcn⟩ := mem_constraintsBelow.mp hc
  obtain ⟨n', hn', hfield, hcovered⟩ := h n hn
  obtain ⟨c', hc', hcc'⟩ := hcovered s (s.join path n.1) c hcn
  rw [hfield] at hc'
  exact ⟨c', mem_constraintsBelow.mpr ⟨n', hn', hc'⟩, hcc'⟩

variable {marker : String}

/-- What is read of a value can be read of any value like it, with alike constraints. -/
def ReadsAlike (marker : String) (v : Value) : Prop :=
  ∀ ⦃w : Value⦄, v.Alike w → ∀ ⦃key : String⦄ ⦃n : String × Node⦄, ofEntry marker key v = .ok n →
    ∃ n', ofEntry marker key w = .ok n' ∧ n.1 = n'.1 ∧ n.2.CoveredBy n'.2

/-- The step from the values in a document to the document. -/
theorem ofDocument_alike_of_entries {d e : Document}
    (h : (Value.document d).Alike (.document e))
    (hread : ∀ a ∈ d.entries, ReadsAlike marker a.2) {q : Query}
    (hq : ofDocument marker d = .ok q) :
    ∃ q', ofDocument marker e = .ok q' ∧ q.CoveredBy q' := by
  have hcan : ∀ b ∈ e.entries, ∃ n', ofEntry marker b.1 b.2 = .ok n' := by
    intro b hb
    obtain ⟨a, ha, hkey, hba⟩ := h.symm.exists_entry hb
    obtain ⟨n, -, hn⟩ := exists_node_of_mem hq ha
    obtain ⟨n', hn', -⟩ := hread a ha hba.symm hn
    exact ⟨n', hkey ▸ hn'⟩
  obtain ⟨q', hq'⟩ := exists_ofDocument hcan
  refine ⟨q', hq', coveredBy_of_entries fun n hn => ?_⟩
  obtain ⟨a, ha, hna⟩ := exists_entry_of_mem hq hn
  obtain ⟨b, hb, hkey, hab⟩ := h.exists_entry ha
  obtain ⟨n', hn', hfield, hcovered⟩ := hread a ha hab hna
  obtain ⟨m, hm, hmb⟩ := exists_node_of_mem hq' hb
  rw [hkey, hmb] at hn'
  cases hn'
  exact ⟨_, hm, hfield, hcovered⟩

theorem readsAlike (marker : String) (v : Value) : ReadsAlike marker v := by
  induction v using Value.inductionOn with
  | document d ih =>
    intro w hvw key n hn
    obtain ⟨e, rfl⟩ := hvw.exists_document
    cases ofEntry_eq_ok_iff.mp hn with
    | operators hm hf =>
      refine ⟨_, ofEntry_eq_ok_iff.mpr (.operators hm hf), rfl, fun s path c hc => ?_⟩
      obtain ⟨a, ha, rfl⟩ := List.mem_map.mp hc
      obtain ⟨b, hb, hkey, hab⟩ := hvw.exists_entry ha
      exact ⟨⟨path, b.1, b.2⟩, List.mem_map.mpr ⟨b, hb, rfl⟩, rfl, hkey, hab⟩
    | nested hm hq =>
      obtain ⟨q', hq', hcovered⟩ := ofDocument_alike_of_entries hvw ih hq
      exact ⟨_, ofEntry_eq_ok_iff.mpr (.nested hm hq'), rfl, hcovered⟩
    | literal hm hp hd => exact absurd rfl hd
  | pattern p =>
    intro w hvw key n hn
    have hk := hvw.kind_eq
    cases w with
    | pattern p' =>
      cases ofEntry_eq_ok_iff.mp hn with
      | pattern hm =>
        refine ⟨_, ofEntry_eq_ok_iff.mpr (.pattern hm), rfl, fun s path => ?_⟩
        exact Constraint.Alike.covers ⟨rfl, rfl, hvw⟩
      | literal hm hp hd => exact absurd rfl hp
    | _ => cases hk
  | _ =>
    intro w hvw key n hn
    cases ofEntry_eq_ok_iff.mp hn with
    | literal hm hp hd =>
      have hp' := hvw.kind_eq ▸ hp
      have hd' := hvw.kind_eq ▸ hd
      refine ⟨_, ofEntry_eq_ok_iff.mpr (.literal hm hp' hd'), rfl, fun s path => ?_⟩
      exact Constraint.Alike.covers ⟨rfl, rfl, hvw⟩

/-- A document like one from which a query is read gives a query with alike constraints. -/
theorem ofDocument_alike {d e : Document} (h : (Value.document d).Alike (.document e)) {q : Query}
    (hq : ofDocument marker d = .ok q) :
    ∃ q', ofDocument marker e = .ok q' ∧ q.CoveredBy q' :=
  ofDocument_alike_of_entries h (fun a _ => readsAlike marker a.2) hq

theorem CoveredBy.operatorNames_subset {q q' : Query} (h : q.CoveredBy q') {name : String}
    (hname : name ∈ q.operatorNames) : name ∈ q'.operatorNames := by
  obtain ⟨c, hc, rfl⟩ := (mem_operatorNames_iff {} "").mp hname
  obtain ⟨c', hc', hcc'⟩ := h {} "" c hc
  exact (mem_operatorNames_iff {} "").mpr ⟨c', hc', hcc'.operator.symm⟩

/-- A query that is never matched against text: no pattern is asked for and no operand is one. -/
structure TextFree (q : Query) : Prop where
  operators : "regexp" ∉ q.operatorNames
  operands : ∀ s path, ∀ c ∈ q.constraintsBelow s path, c.operand.kind ≠ .pattern

theorem textFree_of_ofDocument {d : Document} {q : Query} (hq : ofDocument marker d = .ok q)
    (hpattern : ∀ p, ¬ (Value.pattern p).Within (.document d))
    (hregexp : "regexp" ∉ q.operatorNames) : q.TextFree where
  operators := hregexp
  operands s path c hc hkind := by
    have hwithin := operand_within hq hc
    cases hv : c.operand with
    | pattern p => exact hpattern p (hv ▸ hwithin)
    | _ =>
      rw [hv] at hkind
      cases hkind

/-- Queries that cover each other hold of alike items. -/
theorem CoveredBy.all_holds_eq {q q' : Query} (h : q.CoveredBy q') (h' : q'.CoveredBy q)
    (hq : q.TextFree) (s : PathSyntax) (path : String) {x y : Value} (hxy : x.Alike y) :
    (q.constraintsBelow s path).all (Constraint.holds s .builtIn x) =
      (q'.constraintsBelow s path).all (Constraint.holds s .builtIn y) := by
  have hsame : ∀ c ∈ q.constraintsBelow s path, ∀ c', c.Alike c' →
      c.holds s .builtIn x = c'.holds s .builtIn y := by
    intro c hc c' hcc'
    have hmem : c.operator ∈ q.operatorNames := (mem_operatorNames_iff s path).mpr ⟨c, hc, rfl⟩
    have hname : c.operator ≠ "regexp" := fun heq => hq.operators (heq ▸ hmem)
    exact hcc'.holds_eq hname (hq.operands s path c hc) s hxy
  rw [Bool.eq_iff_iff, List.all_eq_true, List.all_eq_true]
  constructor
  · intro hall c' hc'
    obtain ⟨c, hc, hcc'⟩ := h' s path c' hc'
    rw [← hsame c hc c' hcc'.symm]
    exact hall c hc
  · intro hall c hc
    obtain ⟨c', hc', hcc'⟩ := h s path c hc
    rw [hsame c hc c' hcc']
    exact hall c' hc'

end Query

/-! ### Two runs -/

/-- Two runs that both fail, with failures of one kind, or both give something, the one related to
the other. -/
inductive EndAlike {α β : Type} (r : α → β → Prop) : Except Fault α → Except Fault β → Prop where
  | fail {f g : Fault} (h : f.kind = g.kind) : EndAlike r (.error f) (.error g)
  | give {a : α} {b : β} (h : r a b) : EndAlike r (.ok a) (.ok b)

theorem EndAlike.bind {α β γ δ : Type} {r : α → β → Prop} {r' : γ → δ → Prop}
    {x : Except Fault α} {y : Except Fault β} {f : α → Except Fault γ} {g : β → Except Fault δ}
    (h : EndAlike r x y) (hfg : ∀ a b, x = .ok a → r a b → EndAlike r' (f a) (g b)) :
    EndAlike r' (x >>= f) (y >>= g) := by
  cases h with
  | fail hkind => exact .fail hkind
  | give hab => exact hfg _ _ rfl hab

theorem EndAlike.imp {α β : Type} {r r' : α → β → Prop} {x : Except Fault α} {y : Except Fault β}
    (h : EndAlike r x y) (hr : ∀ a b, r a b → r' a b) : EndAlike r' x y := by
  cases h with
  | fail hkind => exact .fail hkind
  | give hab => exact .give (hr _ _ hab)

/-- Runs each of which gives something whenever the other does end alike if their failures are of
one kind. -/
theorem EndAlike.of_ok {α β : Type} {r : α → β → Prop} {x : Except Fault α} {y : Except Fault β}
    (h : ∀ a, x = .ok a → ∃ b, y = .ok b ∧ r a b) (h' : ∀ b, y = .ok b → ∃ a, x = .ok a)
    (hkind : ∀ f g, x = .error f → y = .error g → f.kind = g.kind) : EndAlike r x y := by
  cases x with
  | ok a =>
    obtain ⟨b, rfl, hab⟩ := h a rfl
    exact .give hab
  | error f =>
    cases y with
    | ok b =>
      obtain ⟨a, ha⟩ := h' b rfl
      cases ha
    | error g => exact .fail (hkind f g rfl rfl)

/-- Reading two documents ends alike if each can be read whenever the other can. -/
theorem Query.endAlike_ofDocument_of_ok {marker : String} {d e : Document}
    {r : Query → Query → Prop}
    (h : ∀ q, ofDocument marker d = .ok q → ∃ q', ofDocument marker e = .ok q' ∧ r q q')
    (h' : ∀ q', ofDocument marker e = .ok q' → ∃ q, ofDocument marker d = .ok q) :
    EndAlike r (ofDocument marker d) (ofDocument marker e) :=
  .of_ok h h' fun _ _ hf hg =>
    (kind_of_ofDocument_eq_error hf).trans (kind_of_ofDocument_eq_error hg).symm

theorem Query.endAlike_ofDocument (marker : String) {d e : Document}
    (h : (Value.document d).Alike (.document e)) :
    EndAlike (fun q q' => q.CoveredBy q' ∧ q'.CoveredBy q) (ofDocument marker d)
      (ofDocument marker e) := by
  refine endAlike_ofDocument_of_ok (fun q hq => ?_) fun q' hq' => ?_
  · obtain ⟨q', hq', hcovered⟩ := ofDocument_alike h hq
    obtain ⟨q₀, hq₀, hcovers⟩ := ofDocument_alike h.symm hq'
    cases hq.symm.trans hq₀
    exact ⟨q', hq', hcovered, hcovers⟩
  · obtain ⟨q, hq, -⟩ := ofDocument_alike h.symm hq'
    exact ⟨q, hq⟩

namespace Matcher

/-- Two queries with bound operators, both or neither, are refused for one kind of reason or make
matchers that tell the same wherever their constraints do. -/
theorem endAlike_of_bound_iff {t : Operators} {q q' : Query} {r : Value → Value → Prop}
    {s : PathSyntax} (hbound : (∀ name ∈ q.operatorNames, t.contains name = true) ↔
      ∀ name ∈ q'.operatorNames, t.contains name = true)
    (hall : ∀ x y, r x y → (q.constraintsBelow s "").all (Constraint.holds s t x) =
      (q'.constraintsBelow s "").all (Constraint.holds s t y)) :
    EndAlike (fun m m' => ∀ ⦃x y : Value⦄, r x y → m.holds x = m'.holds y) (ofQuery s t q)
      (ofQuery s t q') := by
  by_cases ho : ∀ name ∈ q.operatorNames, t.contains name = true
  · obtain ⟨m, hm, hholds⟩ := exists_of_bound s ho
    obtain ⟨m', hm', hholds'⟩ := exists_of_bound s (hbound.mp ho)
    rw [hm, hm']
    refine .give fun x y hxy => ?_
    rw [hholds, hholds', hall x y hxy]
  · obtain ⟨f, hf, hkind⟩ := exists_error_of_unbound s ho
    obtain ⟨g, hg, hkind'⟩ := exists_error_of_unbound s (mt hbound.mpr ho)
    rw [hf, hg]
    exact .fail (hkind.trans hkind'.symm)

def TellSame (m m' : Matcher) : Prop := ∀ ⦃x y : Value⦄, x.Alike y → m.holds x = m'.holds y

theorem endAlike_ofQuery {q q' : Query} (h : q.CoveredBy q') (h' : q'.CoveredBy q) (hq : q.TextFree)
    (s : PathSyntax) : EndAlike TellSame (ofQuery s .builtIn q) (ofQuery s .builtIn q') := by
  refine endAlike_of_bound_iff ⟨fun ho name hname => ?_, fun ho name hname => ?_⟩
    fun x y hxy => h.all_holds_eq h' hq s "" hxy
  · exact ho name (h'.operatorNames_subset hname)
  · exact ho name (h.operatorNames_subset hname)

end Matcher

/-- Alike documents, handed over as queries, are refused for one kind of reason or make matchers
that tell the same of alike items. -/
theorem Context.endAlike_matcher {μ : Type} {context : Context μ}
    (hbuiltIn : context.operators = .builtIn) {d e : Document}
    (hde : (Value.document d).Alike (.document e))
    (hd : ∀ q, Query.ofDocument context.settings.marker d = .ok q → q.TextFree) :
    EndAlike Matcher.TellSame (context.matcher (.document d)) (context.matcher (.document e)) := by
  unfold matcher
  rw [hbuiltIn]
  exact (Query.endAlike_ofDocument context.settings.marker hde).bind
    fun q q' hq h => Matcher.endAlike_ofQuery h.1 h.2 (hd q hq) context.paths

end Dossier
