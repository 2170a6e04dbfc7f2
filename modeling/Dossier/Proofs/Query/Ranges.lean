import Dossier.Proofs.Query.Exposure
import Dossier.Proofs.Query.Spellings

/-! Below, the same and above. Of two numbers, two strings or two truth values exactly one of the
three holds, since equality and order of values agree; of any other two values none of the range
operators does. So the items whose field is of the kind of an operand fall into three parts. -/

namespace Dossier

def Value.Kind.IsRanged (k : Value.Kind) : Prop := k = .number ∨ k = .string ∨ k = .bool

instance (k : Value.Kind) : Decidable k.IsRanged := inferInstanceAs (Decidable (_ ∨ _ ∨ _))

/-- Two values of one kind that has a range. -/
def Value.Comparable (v w : Value) : Prop := v.kind = w.kind ∧ v.kind.IsRanged

namespace Value

variable {u v w : Value}

theorem Comparable.symm (h : v.Comparable w) : w.Comparable v := ⟨h.1.symm, h.1 ▸ h.2⟩

theorem Comparable.trans (h : u.Comparable v) (h' : v.Comparable w) : u.Comparable w :=
  ⟨h.1.trans h'.1, h.2⟩

theorem wellFormed_of_isRanged (h : v.kind.IsRanged) : v.WellFormed := by
  cases v with
  | array xs => rcases h with h | h | h <;> cases h
  | document d => rcases h with h | h | h <;> cases h
  | _ => trivial

end Value

namespace Operator

variable {x y z : Value}

/-! ### Comparing a field with an operand -/

theorem compare?_of_comparable (h : x.Comparable y) : compare? x y = some (y.compare x) :=
  if_pos (by simpa [Value.Comparable, Value.Kind.IsRanged] using h)

theorem compare?_of_not_comparable (h : ¬ x.Comparable y) : compare? x y = none :=
  if_neg (by simpa [Value.Comparable, Value.Kind.IsRanged] using h)

/-- An operand with a range is equal to a field when neither comes before the other. -/
theorem eq_of_isRanged (hx : x.kind.IsRanged) (y : Value) : eq x y = (y.compare x == .eq) := by
  have hpattern : x.kind ≠ .pattern := by
    intro hkind
    rw [hkind] at hx
    revert hx
    decide
  rw [eq_of_kind_ne hpattern, Bool.eq_iff_iff, beq_iff_eq]
  by_cases hkind : y.kind = x.kind
  · exact Value.equal_iff_compare (Value.wellFormed_of_isRanged (hkind ▸ hx)) x
  · exact Value.equal_iff_of_kind_ne hkind

theorem comparable_of_lt (h : lt x y = true) : x.Comparable y := by
  by_contra hxy
  rw [lt, compare?_of_not_comparable hxy] at h
  cases h

theorem lt_iff (h : x.Comparable y) : lt x y = true ↔ y.compare x = .lt := by
  rw [lt, compare?_of_comparable h]
  simp

theorem gt_eq_lt (x y : Value) : gt x y = lt y x := by
  by_cases h : x.Comparable y
  · rw [gt, lt, compare?_of_comparable h, compare?_of_comparable h.symm, Value.compare_swap x y]
    cases y.compare x <;> rfl
  · rw [gt, lt, compare?_of_not_comparable h, compare?_of_not_comparable (mt .symm h)]
    rfl

theorem lt_trans (hxy : lt x y = true) (hyz : lt y z = true) : lt x z = true := by
  have h := comparable_of_lt hxy
  have h' := comparable_of_lt hyz
  rw [lt_iff h] at hxy
  rw [lt_iff h'] at hyz
  rw [lt_iff (h.trans h')]
  exact Std.TransCmp.lt_trans hyz hxy

theorem eq_false_of_not_comparable (h : ¬ x.Comparable y) :
    ∀ op ∈ [lt, lte, gt, gte], op x y = false := by
  simp [lt, lte, gt, gte, compare?_of_not_comparable h]

/-! ### An operand with a range -/

section Ranged

variable (hx : x.kind.IsRanged) (y : Value)

include hx

theorem eq_eq_false_of_not_comparable (h : ¬ x.Comparable y) : eq x y = false := by
  have hkind : y.kind ≠ x.kind := fun hkind => h ⟨hkind.symm, hx⟩
  rw [← Bool.not_eq_true, eq_of_isRanged hx, beq_iff_eq, ← Value.equal_iff_of_kind_ne hkind,
    Value.equal_of_kind_ne hkind]
  exact Bool.false_ne_true

/-- Of a field of the operand's kind exactly one of the three holds, and of any other none. -/
theorem count_ranges :
    [lt x y, eq x y, gt x y].count true = if y.kind = x.kind then 1 else 0 := by
  by_cases h : x.Comparable y
  · rw [if_pos h.1.symm, lt, eq_of_isRanged hx, gt, compare?_of_comparable h]
    cases y.compare x <;> decide
  · have hkind : y.kind ≠ x.kind := fun hkind => h ⟨hkind.symm, hx⟩
    rw [if_neg hkind, eq_eq_false_of_not_comparable hx y h, lt, gt, compare?_of_not_comparable h]
    decide

theorem gte_eq : gte x y = (gt x y || eq x y) := by
  by_cases h : x.Comparable y
  · rw [gte, gt, eq_of_isRanged hx, compare?_of_comparable h]
    cases y.compare x <;> rfl
  · rw [gte, gt, eq_eq_false_of_not_comparable hx y h, compare?_of_not_comparable h]
    rfl

theorem lte_eq : lte x y = (lt x y || eq x y) := by
  by_cases h : x.Comparable y
  · rw [lte, lt, eq_of_isRanged hx, compare?_of_comparable h]
    cases y.compare x <;> rfl
  · rw [lte, lt, eq_eq_false_of_not_comparable hx y h, compare?_of_not_comparable h]
    rfl

end Ranged

end Operator

/-! ### Items by the range of a field -/

namespace Collection

variable {μ : Type} {context : Context μ}

/-- A single condition picks the items of whose field its operator holds. -/
theorem whereOp_of_get? {name : String} {op : Operator}
    (hop : context.operators.get? name = some op) {field : String} (hf : field ≠ "") (x : Value)
    (items : List Value) :
    whereOp ⟨items, context⟩ field name x =
      .ok ⟨items.filter fun item => op x (context.paths.fieldAt item field), context⟩ := by
  rw [whereOp, if_neg hf, find_of_read_condition ⟨items, context⟩ rfl, Operators.resolve,
    Operators.get?_canonicalName, hop]
  rfl

/-- Items by how a field compares with an operand: each condition picks its part, and of an item
whose field is of the operand's kind exactly one part has it, of any other none. -/
structure PartedBy (context : Context μ) (field : String) (x : Value) (items : List Value)
    (below same above : Value → Bool) : Prop where
  parts : ∀ item, [below item, same item, above item].count true =
    if (context.paths.fieldAt item field).kind = x.kind then 1 else 0
  lt : whereOp ⟨items, context⟩ field "<" x = .ok ⟨items.filter below, context⟩
  eq : whereOp ⟨items, context⟩ field "==" x = .ok ⟨items.filter same, context⟩
  gt : whereOp ⟨items, context⟩ field ">" x = .ok ⟨items.filter above, context⟩
  gte : whereOp ⟨items, context⟩ field ">=" x =
    .ok ⟨items.filter fun item => above item || same item, context⟩
  lte : whereOp ⟨items, context⟩ field "<=" x =
    .ok ⟨items.filter fun item => below item || same item, context⟩

theorem partedBy_ranges
    (hbound : ∀ name ∈ ["lt", "eq", "gt", "gte", "lte"],
      context.operators.get? name = Operators.builtIn.get? name)
    {field : String} (hf : field ≠ "") {x : Value} (hx : x.kind.IsRanged) (items : List Value) :
    PartedBy context field x items (fun item => Operator.lt x (context.paths.fieldAt item field))
      (fun item => Operator.eq x (context.paths.fieldAt item field))
      fun item => Operator.gt x (context.paths.fieldAt item field) := by
  have hget : ∀ name op, Operator.canonicalName name ∈ ["lt", "eq", "gt", "gte", "lte"] →
      Operators.builtIn.get? name = some op → context.operators.get? name = some op := by
    intro name op hname hop
    rw [← Operators.get?_canonicalName, hbound _ hname, Operators.get?_canonicalName, hop]
  constructor
  case parts => exact fun item => Operator.count_ranges hx _
  case lt => exact whereOp_of_get? (hget "<" _ (by decide) rfl) hf x items
  case eq => exact whereOp_of_get? (hget "==" _ (by decide) rfl) hf x items
  case gt => exact whereOp_of_get? (hget ">" _ (by decide) rfl) hf x items
  case gte =>
    rw [whereOp_of_get? (hget ">=" _ (by decide) rfl) hf x items]
    simp only [Operator.gte_eq hx]
  case lte =>
    rw [whereOp_of_get? (hget "<=" _ (by decide) rfl) hf x items]
    simp only [Operator.lte_eq hx]

end Collection

/-- The range operators form a trichotomy. Of two numbers, two strings or two truth values exactly
one of less, equal and greater holds, and the other two operators join equal to one of them; less is
transitive, and greater is less with the sides exchanged; of any other two values no range operator
holds. So conditions on a field part the items whose field is of the operand's kind in three. -/
theorem range_operators_trichotomy :
    (∀ x y : Value, x.Comparable y →
      [Operator.lt x y, Operator.eq x y, Operator.gt x y].count true = 1 ∧
        Operator.gte x y = (Operator.gt x y || Operator.eq x y) ∧
        Operator.lte x y = (Operator.lt x y || Operator.eq x y)) ∧
    (∀ x y, Operator.gt x y = Operator.lt y x) ∧
    (∀ x y z, Operator.lt x y = true → Operator.lt y z = true → Operator.lt x z = true) ∧
    (∀ x y : Value, ¬ x.Comparable y →
      ∀ op ∈ [Operator.lt, Operator.lte, Operator.gt, Operator.gte], op x y = false) ∧
    ∀ {μ : Type} (context : Context μ),
      (∀ name ∈ ["lt", "eq", "gt", "gte", "lte"],
        context.operators.get? name = Operators.builtIn.get? name) →
      ∀ field ≠ "", ∀ x : Value, x.kind.IsRanged → ∀ items, ∃ below same above,
        Collection.PartedBy context field x items below same above := by
  refine ⟨fun x y h => ?_, Operator.gt_eq_lt, fun _ _ _ => Operator.lt_trans,
    fun _ _ => Operator.eq_false_of_not_comparable,
    fun context hbound field hf x hx items =>
      ⟨_, _, _, Collection.partedBy_ranges hbound hf hx items⟩⟩
  have hcount := Operator.count_ranges h.2 y
  rw [if_pos h.1.symm] at hcount
  exact ⟨hcount, Operator.gte_eq h.2 y, Operator.lte_eq h.2 y⟩

/-- An operand next to the double that it would be rounded to, under operators of which one is the
context's own; among the items, one whose field is not a number, one whose field is a text and one
without the field. -/
theorem range_operators_trichotomy_unrounded :
    let context : Context Unit := ⟨.standard,
      ⟨("integer", fun _ field => field.isInteger) :: Operators.builtIn.bindings⟩, []⟩
    let x : Value := .signed 9007199254740993
    let y : Value := .double ⟨0x4340000000000000⟩
    let item : Value → Value := fun v => .document ⟨[("n", v)]⟩
    let items : List Value :=
      [item y, item (.unsigned 9007199254740993), item (.double .nan), item (.string "9"), .null]
    x.Comparable y ∧ Operator.gte x y = (Operator.gt x y || Operator.eq x y) ∧
      ¬ x.Comparable (.string "9") ∧ Operator.lte x (.string "9") = false ∧
      ∃ below same above, Collection.PartedBy context "n" x items below same above ∧
        items.filter below = [item y] ∧
        items.filter same = [item (.unsigned 9007199254740993)] ∧
        items.filter above = [item (.double .nan)] := by
  intro context x y item items
  obtain ⟨hcomparable, -, -, hother, hparts⟩ := range_operators_trichotomy
  have hxy : x.Comparable y := ⟨rfl, .inl rfl⟩
  have htext : ¬ x.Comparable (.string "9") := fun h => absurd h.1 (by decide)
  have hbound : ∀ name ∈ ["lt", "eq", "gt", "gte", "lte"],
      context.operators.get? name = Operators.builtIn.get? name := by
    simp only [List.forall_mem_cons, List.not_mem_nil, false_imp_iff, implies_true, and_true]
    exact ⟨rfl, rfl, rfl, rfl, rfl⟩
  obtain ⟨below, same, above, h⟩ := hparts context hbound "n" (by decide) x (.inl rfl) items
  have hlt : Collection.whereOp ⟨items, context⟩ "n" "<" x = .ok ⟨[item y], context⟩ := by cbv
  have heq : Collection.whereOp ⟨items, context⟩ "n" "==" x =
      .ok ⟨[item (.unsigned 9007199254740993)], context⟩ := by cbv
  have hgt : Collection.whereOp ⟨items, context⟩ "n" ">" x =
      .ok ⟨[item (.double .nan)], context⟩ := by cbv
  refine ⟨hxy, (hcomparable x y hxy).2.1, htext, hother _ _ htext _ (by simp), below, same, above,
    h, ?_, ?_, ?_⟩
  · simpa using h.lt.symm.trans hlt
  · simpa using h.eq.symm.trans heq
  · simpa using h.gt.symm.trans hgt

end Dossier
