import Dossier.Proofs.Query.Binding

/-! Building a query call by call. Every call adds the constraints that it gives by itself, wherever
in the query it puts them, so it adds one condition on its field. The order of calls shows in the
order of constraints and in nothing that is matched. -/

namespace Dossier

namespace Query

inductive Call where
  | equalTo (field : String) (v : Value)
  | matching (field : String) (p : Pattern)
  | satisfying (field operator : String) (operand : Value)
  | nesting (field : String) (inner : Query)

namespace Call

def field : Call → String
  | equalTo field _ => field
  | matching field _ => field
  | satisfying field _ _ => field
  | nesting field _ => field

def apply (q : Query) : Call → Query
  | equalTo field v => q.equalTo field v
  | matching field p => q.matching field p
  | satisfying field operator operand => q.satisfying field operator operand
  | nesting field inner => q.nesting field inner

def constraints (s : PathSyntax) (c : Call) : List Constraint :=
  (c.apply empty).constraintsBelow s ""

end Call

def built (calls : List Call) : Query := calls.foldl Call.apply empty

theorem built_append_singleton (calls : List Call) (c : Call) :
    built (calls ++ [c]) = c.apply (built calls) := by
  rw [built, List.foldl_append]
  rfl

/-! ### Where an operator goes -/

section Grouping

variable {field operator : String} {operand : Value}

theorem addOperator?_cons_of_ne {e : String × Node} (he : ∀ ops, e ≠ (field, .operators ops))
    (es : List (String × Node)) :
    addOperator? field operator operand (e :: es) =
      (addOperator? field operator operand es).map (e :: ·) := by
  obtain ⟨name, node⟩ := e
  cases node with
  | operators ops =>
    have hname : name ≠ field := fun h => he ops (h ▸ rfl)
    rw [addOperator?, if_neg hname]
  | _ => rfl

/-- An operator goes to the end of the first entry of its field that holds operators; entries of the
field that hold something else are passed over. -/
theorem addOperator?_cases (field operator : String) (operand : Value)
    (es : List (String × Node)) :
    (∃ before ops after, es = before ++ (field, .operators ops) :: after ∧
      (∀ e ∈ before, ∀ ops, e ≠ (field, .operators ops)) ∧
      addOperator? field operator operand es =
        some (before ++ (field, .operators (ops ++ [(operator, operand)])) :: after)) ∨
    ((∀ e ∈ es, ∀ ops, e ≠ (field, .operators ops)) ∧
      addOperator? field operator operand es = none) := by
  induction es with
  | nil => exact .inr ⟨nofun, rfl⟩
  | cons e es ih =>
    by_cases he : ∃ ops, e = (field, .operators ops)
    · obtain ⟨ops, rfl⟩ := he
      refine .inl ⟨[], ops, es, rfl, nofun, ?_⟩
      rw [addOperator?, if_pos rfl]
      rfl
    · have hne : ∀ ops, e ≠ (field, .operators ops) := fun ops heq => he ⟨ops, heq⟩
      rw [addOperator?_cons_of_ne hne]
      rcases ih with ⟨before, ops, after, rfl, hbefore, hadd⟩ | ⟨hes, hadd⟩
      · refine .inl ⟨e :: before, ops, after, rfl, List.forall_mem_cons.mpr ⟨hne, hbefore⟩, ?_⟩
        rw [hadd]
        rfl
      · refine .inr ⟨List.forall_mem_cons.mpr ⟨hne, hes⟩, ?_⟩
        rw [hadd]
        rfl

end Grouping

/-! ### The constraints that a call adds -/

section Constraints

variable (s : PathSyntax) (path : String)

theorem constraintsBelow_push (q : Query) (field : String) (node : Node) :
    (q.push field node).constraintsBelow s path =
      q.constraintsBelow s path ++ node.constraintsAt s (s.join path field) := by
  rw [constraintsBelow_eq_flatMap, constraintsBelow_eq_flatMap, push, List.flatMap_append,
    List.flatMap_singleton]

/-- An operator adds its constraint, be it in the middle or at the end. -/
theorem perm_constraintsBelow_satisfying (q : Query) (field operator : String) (operand : Value) :
    ((q.satisfying field operator operand).constraintsBelow s path).Perm
      (q.constraintsBelow s path ++ [⟨s.join path field, operator, operand⟩]) := by
  rw [satisfying]
  rcases addOperator?_cases field operator operand q.entries with
    ⟨before, ops, after, hsplit, -, hadd⟩ | ⟨-, hadd⟩
  · rw [hadd]
    simp only [constraintsBelow_eq_flatMap, hsplit, List.flatMap_append, List.flatMap_cons,
      Node.constraintsAt, List.map_append, List.map_singleton, List.append_assoc]
    exact (List.perm_append_comm.append_left _).append_left _
  · rw [hadd, constraintsBelow_push]
    exact .refl _

end Constraints

variable (s : PathSyntax)

/-- A call adds the constraints that it gives by itself. -/
theorem Call.perm_constraintsBelow_apply (c : Call) (q : Query) :
    ((c.apply q).constraintsBelow s "").Perm (q.constraintsBelow s "" ++ c.constraints s) := by
  have hpush : ∀ field node, (q.push field node).constraintsBelow s "" =
      q.constraintsBelow s "" ++ (empty.push field node).constraintsBelow s "" := by
    intro field node
    rw [constraintsBelow_push, constraintsBelow_push s "" empty]
    rfl
  cases c with
  | equalTo field v =>
    cases v with
    | pattern p => exact .of_eq (hpush field (.pattern p))
    | _ => exact .of_eq (hpush field (.literal _))
  | matching field p => exact .of_eq (hpush field (.pattern p))
  | nesting field inner => exact .of_eq (hpush field (.nested inner))
  | satisfying field operator operand =>
    exact perm_constraintsBelow_satisfying s "" q field operator operand

theorem perm_constraintsBelow_built (calls : List Call) :
    ((built calls).constraintsBelow s "").Perm (calls.flatMap (Call.constraints s)) := by
  -- from the end, since the last call is the outermost one
  induction calls using List.reverseRecOn with
  | nil => exact .refl _
  | append_singleton calls c ih =>
    rw [built_append_singleton, List.flatMap_append, List.flatMap_singleton]
    exact (c.perm_constraintsBelow_apply s (built calls)).trans (ih.append_right _)

/-! ### Fields of a missing value -/

variable {s : PathSyntax} {t : Operators}

/-- A field is null in a value that is not there as it is in null. -/
theorem meets_none (q : Query) : q.meets s t none = q.meets s t (some .null) := by
  obtain ⟨es⟩ := q
  show meetsEntries s t none es = meetsEntries s t (some .null) es
  have hnull : ∀ field, Value.null.follow? (s.split field) = none := by
    intro field
    cases hsplit : s.split field with
    | nil => exact absurd hsplit (s.split_ne_nil field)
    | cons segment segments => rfl
  induction es with
  | nil => rfl
  | cons e es ih =>
    obtain ⟨field, node⟩ := e
    rw [meetsEntries, meetsEntries, ih, Option.bind_none, Option.bind_some, hnull]

theorem meets_getD (q : Query) (w : Option Value) :
    q.meets s t w = q.meets s t (some (w.getD .null)) := by
  cases w with
  | none => exact q.meets_none
  | some v => rfl

/-! ### What a call asks for -/

/-- What a call asks of the value of its field: the operator that the table binds, or the matcher of
a query whose fields have names. -/
inductive Call.Asks (s : PathSyntax) (t : Operators) : Call → (Value → Bool) → Prop where
  | satisfying {field operator : String} {operand : Value} {op : Operator}
      (hop : t.get? operator = some op) : Asks s t (.satisfying field operator operand) (op operand)
  | equalTo {field : String} {v : Value} {op : Operator} (hv : v.kind ≠ .pattern)
      (hop : t.get? "eq" = some op) : Asks s t (.equalTo field v) (op v)
  | equalToPattern {field : String} {p : Pattern} {op : Operator}
      (hop : t.get? "regexp" = some op) : Asks s t (.equalTo field (.pattern p)) (op (.pattern p))
  | matching {field : String} {p : Pattern} {op : Operator}
      (hop : t.get? "regexp" = some op) : Asks s t (.matching field p) (op (.pattern p))
  | nesting {field : String} {inner : Query} {m : Matcher} (hf : field ≠ "")
      (hfields : "" ∉ inner.fieldNames) (hm : Matcher.ofQuery s t inner = .ok m) :
      Asks s t (.nesting field inner) m.holds

/-- Constraints with bound operators that come to a condition on the value of a field. -/
structure Requires (s : PathSyntax) (t : Operators) (field : String) (p : Value → Bool)
    (cs : List Constraint) : Prop where
  bound : ∀ c ∈ cs, t.contains c.operator = true
  holds : ∀ item, cs.all (Constraint.holds s t item) = p ((s.getValue? item field).getD .null)

theorem requires_singleton {field operator : String} {operand : Value} {op : Operator}
    (hop : t.get? operator = some op) :
    Requires s t field (op operand) [⟨field, operator, operand⟩] where
  bound := List.forall_mem_singleton.mpr (Option.isSome_iff_exists.mpr ⟨op, hop⟩)
  holds item := by
    rw [List.all_cons, List.all_nil, Bool.and_true, Constraint.holds, Operators.accepts, hop]
    rfl

theorem Call.Asks.requires (hs : s.separator.length = 1) {c : Call} {p : Value → Bool}
    (h : c.Asks s t p) : Requires s t c.field p (c.constraints s) := by
  cases h with
  | satisfying hop => exact requires_singleton hop
  | @equalTo field v op hv hop =>
    cases v with
    | pattern p => exact absurd rfl hv
    | _ => exact requires_singleton hop
  | equalToPattern hop => exact requires_singleton hop
  | matching hop => exact requires_singleton hop
  | @nesting field inner m hf hfields hm =>
    obtain ⟨hbound, hholds⟩ := Matcher.of_ofQuery_eq_ok hm
    have hbelow : (Call.nesting field inner).constraints s = inner.constraintsBelow s field :=
      List.append_nil _
    refine ⟨?_, fun item => ?_⟩
    · rw [hbelow]
      exact (forall_mem_operatorNames_iff s field).mp hbound
    · calc
        ((Call.nesting field inner).constraints s).all (Constraint.holds s t item)
          = inner.meets s t (s.getValue? item field) := by
            rw [hbelow, all_constraintsBelow hs item field inner hfields, PathSyntax.below?,
              if_neg hf]
        _ = inner.meets s t (some ((s.getValue? item field).getD .null)) := inner.meets_getD _
        _ = m.holds ((s.getValue? item field).getD .null) := by
            rw [hholds, all_constraintsBelow hs _ "" inner hfields, PathSyntax.below?, if_pos rfl]

end Query

/-! ### What calls build -/

namespace Matcher

variable {s : PathSyntax} {t : Operators}

/-- A matcher depends on the order of constraints in nothing that it tells. -/
theorem exists_of_perm {cs : List Constraint} {q : Query} (h : (q.constraintsBelow s "").Perm cs)
    (hbound : ∀ c ∈ cs, t.contains c.operator = true) :
    ∃ m, ofQuery s t q = .ok m ∧ ∀ item, m.holds item = cs.all (Constraint.holds s t item) := by
  have ho : ∀ name ∈ q.operatorNames, t.contains name = true :=
    (Query.forall_mem_operatorNames_iff s "").mpr fun c hc => hbound c (h.mem_iff.mp hc)
  obtain ⟨m, hm, hholds⟩ := exists_of_bound s ho
  exact ⟨m, hm, fun item => (hholds item).trans h.all_eq⟩

end Matcher

/-- Every call adds one condition. After any calls whose operators are bound, one more makes a
matcher that holds of the items of which the matcher before it holds and whose field, null if it is
missing, has what the call asks for. The calls in another order make a matcher that holds of the
same items. Names of fields matter only where a query is nested: there none is empty. -/
theorem each_call_adds_one_condition {s : PathSyntax} (hs : s.separator.length = 1) {t : Operators}
    {calls : List Query.Call} (hcalls : ∀ c ∈ calls, ∃ p, c.Asks s t p) :
    ∃ m, Matcher.ofQuery s t (.built calls) = .ok m ∧
      (∀ (c : Query.Call) p, c.Asks s t p →
        ∃ m', Matcher.ofQuery s t (c.apply (.built calls)) = .ok m' ∧
          ∀ item, m'.holds item = (m.holds item && p ((s.getValue? item c.field).getD .null))) ∧
      ∀ calls' : List Query.Call, calls.Perm calls' →
        ∃ m', Matcher.ofQuery s t (.built calls') = .ok m' ∧
          ∀ item, m'.holds item = m.holds item := by
  have hbound : ∀ b ∈ calls.flatMap (Query.Call.constraints s), t.contains b.operator = true := by
    intro b hb
    obtain ⟨c, hc, hbc⟩ := List.mem_flatMap.mp hb
    obtain ⟨p, hp⟩ := hcalls c hc
    exact (hp.requires hs).bound b hbc
  have hbuilt := Query.perm_constraintsBelow_built s calls
  obtain ⟨m, hm, hholds⟩ := Matcher.exists_of_perm hbuilt hbound
  refine ⟨m, hm, fun c p hp => ?_, fun calls' hperm => ?_⟩
  · have hadd := (c.perm_constraintsBelow_apply s (.built calls)).trans (hbuilt.append_right _)
    obtain ⟨m', hm', hholds'⟩ := Matcher.exists_of_perm hadd
      (List.forall_mem_append.mpr ⟨hbound, (hp.requires hs).bound⟩)
    refine ⟨m', hm', fun item => ?_⟩
    rw [hholds', List.all_append, ← hholds, (hp.requires hs).holds]
  · have hsame := (Query.perm_constraintsBelow_built s calls').trans (hperm.flatMap_right _).symm
    obtain ⟨m', hm', hholds'⟩ := Matcher.exists_of_perm hsame hbound
    exact ⟨m', hm', fun item => (hholds' item).trans (hholds item).symm⟩

/-- A second operator on a field that was asked to equal a value before it was asked for the first,
a query nested in a field that is missing, and the calls the other way round. -/
theorem each_call_adds_one_condition_grouped :
    let p : Pattern := ⟨"a", .text ['a'], rfl⟩
    let inner : Query := ⟨[("z", .literal .null)]⟩
    let calls : List Query.Call := [.equalTo "a" (.signed 3), .satisfying "a" ">" (.signed 1),
      .nesting "b" inner, .equalTo "c.0" (.pattern p)]
    let c : Query.Call := .satisfying "a" "not" (.signed 3)
    let item : Value := .document ⟨[("a", .signed 3), ("c", .array [.string "cat"])]⟩
    c.apply (.built calls) = ⟨[("a", .literal (.signed 3)),
      ("a", .operators [(">", .signed 1), ("not", .signed 3)]), ("b", .nested inner),
      ("c.0", .pattern p)]⟩ ∧
    (∀ c ∈ calls, ∃ p, c.Asks {} .builtIn p) ∧
    ∃ m m' m'', Matcher.ofQuery {} .builtIn (.built calls) = .ok m ∧ m.holds item = true ∧
      Matcher.ofQuery {} .builtIn (c.apply (.built calls)) = .ok m' ∧ m'.holds item = false ∧
      Matcher.ofQuery {} .builtIn (.built calls.reverse) = .ok m'' ∧ m''.holds item = true := by
  intro p inner calls c item
  have hs : ({} : PathSyntax).separator.length = 1 := by decide
  obtain ⟨n, hn, -⟩ := Matcher.exists_of_bound (t := .builtIn) (q := inner) {} (by decide)
  have hcalls : ∀ c ∈ calls, ∃ p, c.Asks {} .builtIn p := by
    simp only [calls, List.forall_mem_cons]
    exact ⟨⟨_, .equalTo (by decide) rfl⟩, ⟨_, .satisfying rfl⟩,
      ⟨_, .nesting (by decide) (by decide) hn⟩, ⟨_, .equalToPattern rfl⟩, List.forall_mem_nil _⟩
  obtain ⟨m, hm, hadd, hreorder⟩ := each_call_adds_one_condition hs hcalls
  obtain ⟨m', hm', hholds'⟩ := hadd c _ (.satisfying rfl)
  obtain ⟨m'', hm'', hholds''⟩ := hreorder calls.reverse (List.reverse_perm calls).symm
  have hitem : m.holds item = true := by
    rw [(Matcher.of_ofQuery_eq_ok hm).2]
    decide +kernel
  refine ⟨rfl, hcalls, m, m', m'', hm, hitem, hm', ?_, hm'', (hholds'' item).trans hitem⟩
  rw [hholds' item, hitem]
  decide +kernel

end Dossier
