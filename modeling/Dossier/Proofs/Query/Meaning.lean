import Dossier.Proofs.Path.Segments
import Dossier.Query.Matcher

/-! What a query means, said without joined paths: a field is looked up from the value that the
query around it is about. A matcher, which reads every constraint from the root and in the order of
paths, tells the same of each value. -/

namespace Dossier

/-- Whether the operator of a name is satisfied; a name that is bound to none is not. -/
def Operators.accepts (t : Operators) (name : String) (operand field : Value) : Bool :=
  (t.get? name).any fun op => op operand field

namespace Query

mutual

def fieldNames : Query → List String
  | ⟨es⟩ => fieldNamesOf es

def fieldNamesOf : List (String × Node) → List String
  | [] => []
  | (field, node) :: rest => field :: (node.fieldNames ++ fieldNamesOf rest)

def Node.fieldNames : Node → List String
  | .nested q => q.fieldNames
  | _ => []

end

mutual

/-- The names of the operators that a query asks for: a literal asks for equality and a pattern for
a match. -/
def operatorNames : Query → List String
  | ⟨es⟩ => operatorNamesOf es

def operatorNamesOf : List (String × Node) → List String
  | [] => []
  | (_, node) :: rest => node.operatorNames ++ operatorNamesOf rest

def Node.operatorNames : Node → List String
  | .literal _ => ["eq"]
  | .pattern _ => ["regexp"]
  | .nested q => q.operatorNames
  | .operators ops => ops.map Prod.fst

end

mutual

/-- Whether a value has what a query asks for; of a value that is not there every field is null. -/
def meets (s : PathSyntax) (t : Operators) (v : Option Value) : Query → Bool
  | ⟨es⟩ => meetsEntries s t v es

def meetsEntries (s : PathSyntax) (t : Operators) (v : Option Value) :
    List (String × Node) → Bool
  | [] => true
  | (field, node) :: rest =>
    node.meetsAt s t (v.bind (·.follow? (s.split field))) && meetsEntries s t v rest

def Node.meetsAt (s : PathSyntax) (t : Operators) (w : Option Value) : Node → Bool
  | .literal x => t.accepts "eq" x (w.getD .null)
  | .pattern p => t.accepts "regexp" (.pattern p) (w.getD .null)
  | .nested q => q.meets s t w
  | .operators ops => ops.all fun (op, x) => t.accepts op x (w.getD .null)

end

end Query

def Constraint.holds (s : PathSyntax) (t : Operators) (item : Value) (c : Constraint) : Bool :=
  t.accepts c.operator c.operand ((s.getValue? item c.path).getD .null)

namespace Query

variable {s : PathSyntax} {t : Operators}

/-! ### The constraints of a query -/

theorem constraintsOfEntries_eq_flatMap (s : PathSyntax) (path : String)
    (es : List (String × Node)) :
    constraintsOfEntries s path es = es.flatMap fun e => e.2.constraintsAt s (s.join path e.1) := by
  induction es with
  | nil => rfl
  | cons e es ih => rw [constraintsOfEntries, ih, List.flatMap_cons]

theorem constraintsBelow_eq_flatMap (s : PathSyntax) (path : String) (q : Query) :
    q.constraintsBelow s path =
      q.entries.flatMap fun e => e.2.constraintsAt s (s.join path e.1) := by
  obtain ⟨es⟩ := q
  exact constraintsOfEntries_eq_flatMap s path es

mutual

theorem operator_constraintsBelow (s : PathSyntax) (path : String) :
    ∀ q : Query, (q.constraintsBelow s path).map Constraint.operator = q.operatorNames
  | ⟨es⟩ => operator_constraintsOfEntries s path es

theorem operator_constraintsOfEntries (s : PathSyntax) (path : String) :
    ∀ es, (constraintsOfEntries s path es).map Constraint.operator = operatorNamesOf es
  | [] => rfl
  | (field, node) :: rest => by
    rw [constraintsOfEntries, List.map_append, operator_constraintsAt s _ node,
      operator_constraintsOfEntries s path rest, operatorNamesOf]

theorem operator_constraintsAt (s : PathSyntax) (path : String) :
    ∀ node : Node, (node.constraintsAt s path).map Constraint.operator = node.operatorNames
  | .literal _ => rfl
  | .pattern _ => rfl
  | .nested q => operator_constraintsBelow s path q
  | .operators ops => by
    rw [Node.constraintsAt, Node.operatorNames, List.map_map]
    rfl

end

theorem forall_mem_operatorNames_iff (s : PathSyntax) (path : String) {q : Query}
    {p : String → Prop} :
    (∀ name ∈ q.operatorNames, p name) ↔ ∀ c ∈ q.constraintsBelow s path, p c.operator := by
  rw [← operator_constraintsBelow s path q, List.forall_mem_map]

section Separable

variable {IsPath IsKey : String → Prop}

mutual

/-- The constraints below a prefix hold of a root when the value below the prefix has what the query
asks for. -/
theorem all_constraintsBelow_of_separable (h : s.Separable IsPath IsKey) (root : Value)
    {path : String} (hp : IsPath path) :
    ∀ q : Query, (∀ field ∈ q.fieldNames, IsKey field) →
      (q.constraintsBelow s path).all (Constraint.holds s t root) = q.meets s t (s.below? root path)
  | ⟨es⟩, hf => all_constraintsOfEntries h root hp es hf

theorem all_constraintsOfEntries (h : s.Separable IsPath IsKey) (root : Value) {path : String}
    (hp : IsPath path) :
    ∀ es, (∀ field ∈ fieldNamesOf es, IsKey field) →
      (constraintsOfEntries s path es).all (Constraint.holds s t root) =
        meetsEntries s t (s.below? root path) es
  | [], _ => rfl
  | (field, node) :: rest, hf => by
    simp only [fieldNamesOf, List.forall_mem_cons, List.forall_mem_append] at hf
    obtain ⟨hfield, hnode, hrest⟩ := hf
    have hne := s.join_ne_empty path (h.ne_empty field hfield)
    rw [constraintsOfEntries, List.all_append, meetsEntries,
      all_constraintsOfEntries h root hp rest hrest,
      all_constraintsAt h root (h.join path field hp hfield) hne node hnode,
      PathSyntax.below?_join h root hp hfield]

theorem all_constraintsAt (h : s.Separable IsPath IsKey) (root : Value) {path : String}
    (hp : IsPath path) (hne : path ≠ "") :
    ∀ node : Node, (∀ field ∈ node.fieldNames, IsKey field) →
      (node.constraintsAt s path).all (Constraint.holds s t root) =
        node.meetsAt s t (s.below? root path)
  | .literal x, _ => by
    simp [Node.constraintsAt, Node.meetsAt, Constraint.holds, PathSyntax.below?, hne]
  | .pattern p, _ => by
    simp [Node.constraintsAt, Node.meetsAt, Constraint.holds, PathSyntax.below?, hne]
  | .nested q, hf => all_constraintsBelow_of_separable h root hp q hf
  | .operators ops, _ => by
    rw [Node.constraintsAt, Node.meetsAt, List.all_map, PathSyntax.below?, if_neg hne]
    rfl

end

end Separable

theorem all_constraintsBelow (hs : s.separator.length = 1) (root : Value) (path : String)
    (q : Query) (hf : "" ∉ q.fieldNames) :
    (q.constraintsBelow s path).all (Constraint.holds s t root) =
      q.meets s t (s.below? root path) :=
  all_constraintsBelow_of_separable (PathSyntax.separable_of_length hs) root trivial q
    fun _ hfield hempty => hf (hempty ▸ hfield)

end Query

/-! ### Matching -/

namespace Matcher

variable {s : PathSyntax} {t : Operators}

theorem resolve_of_contains (t : Operators) :
    ∀ cs : List Constraint, (∀ c ∈ cs, t.contains c.operator = true) →
      ∃ bound, resolve t cs = .ok bound ∧ ∀ field : Constraint → Value,
        (bound.all fun (c, op) => op c.operand (field c)) =
          cs.all fun c => t.accepts c.operator c.operand (field c)
  | [], _ => ⟨[], rfl, fun _ => rfl⟩
  | c :: cs, h => by
    obtain ⟨bound, hb, hall⟩ := resolve_of_contains t cs fun c hc => h c (List.mem_cons_of_mem _ hc)
    obtain ⟨op, hop⟩ := Option.isSome_iff_exists.mp (h c List.mem_cons_self)
    have hget : t.get? c.operator = some op := hop
    refine ⟨(c, op) :: bound, ?_, fun field => ?_⟩
    · rw [resolve, Operators.resolve, hget, hb]
      rfl
    · rw [List.all_cons, List.all_cons, hall field, Operators.accepts, hget]
      rfl

theorem perm_constraints (s : PathSyntax) (q : Query) :
    (q.constraints s).Perm (q.constraintsBelow s "") := List.mergeSort_perm _ _

theorem operator_mem_operatorNames {q : Query} {c : Constraint} (hc : c ∈ q.constraints s) :
    c.operator ∈ q.operatorNames := by
  rw [← Query.operator_constraintsBelow s "" q]
  exact List.mem_map_of_mem ((perm_constraints s q).mem_iff.mp hc)

/-- A query whose fields have names and whose operators are all bound can be matched, and a value
matches when it has what the query asks for. -/
theorem holds_ofQuery (hs : s.separator.length = 1) (t : Operators) {q : Query}
    (hf : "" ∉ q.fieldNames) (ho : ∀ name ∈ q.operatorNames, t.contains name = true) :
    ∃ m, Matcher.ofQuery s t q = .ok m ∧ ∀ item, m.holds item = q.meets s t (some item) := by
  obtain ⟨bound, hb, hall⟩ := resolve_of_contains t (q.constraints s)
    fun c hc => ho _ (operator_mem_operatorNames hc)
  refine ⟨⟨bound, s⟩, ?_, fun item => ?_⟩
  · rw [ofQuery, hb]
    rfl
  · calc
      holds ⟨bound, s⟩ item = (q.constraints s).all (Constraint.holds s t item) :=
        hall fun c => (s.getValue? item c.path).getD .null
      _ = (q.constraintsBelow s "").all (Constraint.holds s t item) :=
        (perm_constraints s q).all_eq
      _ = q.meets s t (s.below? item "") := Query.all_constraintsBelow hs item "" q hf
      _ = q.meets s t (some item) := by rw [PathSyntax.below?, if_pos rfl]

/-- Two fields whose paths meet in one array, asked for in an order that sorting changes. -/
theorem holds_ofQuery_nested :
    let q : Query := ⟨[("b", .literal .null),
      ("a.b", .nested ⟨[("0", .operators [("<", .signed 5), (">=", .signed 2)]),
        ("7.c", .literal .null)]⟩),
      ("a", .nested ⟨[("b.1", .literal (.string "x"))]⟩)]⟩
    let item : Value :=
      .document ⟨[("a", .document ⟨[("b", .array [.signed 3, .string "x"])]⟩)]⟩
    (({} : PathSyntax).separator.length = 1 ∧ "" ∉ q.fieldNames ∧
      ∀ name ∈ q.operatorNames, Operators.builtIn.contains name = true) ∧
    ∃ m, Matcher.ofQuery {} .builtIn q = .ok m ∧ m.holds item = true ∧
      m.holds (.array [item]) = false := by
  intro q item
  have hs : ({} : PathSyntax).separator.length = 1 := by decide
  have hf : "" ∉ q.fieldNames := by decide
  have ho : ∀ name ∈ q.operatorNames, Operators.builtIn.contains name = true := by decide
  obtain ⟨m, hm, hmeets⟩ := holds_ofQuery hs .builtIn hf ho
  refine ⟨⟨hs, hf, ho⟩, m, hm, ?_, ?_⟩
  · rw [hmeets]
    decide +kernel
  · rw [hmeets]
    decide +kernel

end Matcher

end Dossier
