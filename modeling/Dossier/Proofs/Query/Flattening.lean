import Dossier.Proofs.Model.Addresses
import Dossier.Proofs.Query.Binding
import Mathlib.Data.String.Basic

/-! Queries written out flat, once more as a whole. Every condition that is declared becomes one
constraint, on the path along the names above it, and sorting moves it past constraints on other
paths only. A nested query may therefore be opened, its entries put in its place under joined names,
wherever it stands. -/

namespace Dossier

namespace PathSyntax

/-- A key that is there can be joined to what is in front of it or to what is behind it first. -/
theorem join_join (s : PathSyntax) (path : String) {key : String} (hk : key ≠ "") (next : String) :
    s.join (s.join path key) next = s.join path (s.join key next) := by
  by_cases hp : path = ""
  · simp [join, hp]
  · have hj : s.join path key ≠ "" := s.join_ne_empty path hk
    rw [join, if_neg hj, join, if_neg hp, join, if_neg hp, join, if_neg hk]
    simp only [String.append_assoc]

end PathSyntax

/-! ### Stable sorting -/

namespace Constraint

/-- The one list is the other sorted by path, in the order of code points, with the constraints on
one path in the order in which they stood. -/
structure SortsTo (cs ds : List Constraint) : Prop where
  sorted : ds.Pairwise fun a b => a.path ≤ b.path
  stable : ∀ path, (ds.filter fun c => c.path = path) = cs.filter fun c => c.path = path

theorem sortsTo_sort (cs : List Constraint) : SortsTo cs (sort cs) where
  sorted := (pairwise_sort cs).imp fun h => Std.LawfulBCmp.isLE_iff_le.mp h
  stable := filter_sort cs

theorem SortsTo.stableSort {cs ds : List Constraint} (h : SortsTo cs ds) :
    StableSort (compareOn Constraint.path) cs ds where
  sorted := h.sorted.imp fun hle => Std.LawfulBCmp.isLE_iff_le.mpr hle
  stable a := by
    have htied : ∀ b : Constraint,
        (compareOn Constraint.path a b == .eq) = decide (b.path = a.path) := by
      intro b
      rw [Bool.eq_iff_iff, beq_iff_eq, decide_eq_true_eq, compareOn,
        Std.LawfulEqCmp.compare_eq_iff_eq, eq_comm]
    simp only [htied, h.stable]

theorem eq_sort_iff {cs ds : List Constraint} : ds = sort cs ↔ SortsTo cs ds := by
  constructor
  · rintro rfl
    exact sortsTo_sort cs
  · exact fun h => h.stableSort.unique (stableSort_sort cs)

end Constraint

namespace Query

/-! ### Declared conditions -/

/-- The constraint that a condition declares: on the path along the names that lead to it. -/
def Condition.declared (s : PathSyntax) (c : Condition) : Constraint :=
  ⟨s.spell c.fields, c.operator, c.operand⟩

mutual

theorem fields_subset_fieldNames :
    ∀ (q : Query) {c : Condition}, c ∈ q.conditions → ∀ field ∈ c.fields, field ∈ q.fieldNames
  | ⟨es⟩, _, hc => fields_subset_fieldNamesOf es hc

theorem fields_subset_fieldNamesOf :
    ∀ (es : List (String × Node)) {c : Condition}, c ∈ conditionsOf es →
      ∀ field ∈ c.fields, field ∈ fieldNamesOf es
  | [], _, hc => by cases hc
  | (name, node) :: rest, c, hc => by
    rw [conditionsOf, List.mem_append, List.mem_map] at hc
    intro field hfield
    rw [fieldNamesOf, List.mem_cons, List.mem_append]
    rcases hc with ⟨inner, hinner, rfl⟩ | hc
    · rcases List.mem_cons.mp hfield with rfl | hfield
      · exact .inl rfl
      · exact .inr (.inl (Node.fields_subset_fieldNames node hinner field hfield))
    · exact .inr (.inr (fields_subset_fieldNamesOf rest hc field hfield))

theorem Node.fields_subset_fieldNames :
    ∀ (node : Node) {c : Condition}, c ∈ node.conditions →
      ∀ field ∈ c.fields, field ∈ node.fieldNames
  | .literal _, _, hc => by
    obtain rfl := List.mem_singleton.mp hc
    exact nofun
  | .pattern _, _, hc => by
    obtain rfl := List.mem_singleton.mp hc
    exact nofun
  | .nested q, _, hc => Query.fields_subset_fieldNames q hc
  | .operators ops, _, hc => by
    obtain ⟨_, -, rfl⟩ := List.mem_map.mp hc
    exact nofun

end

/-- Before they are sorted, the constraints of a query are the conditions that it declares. -/
theorem constraintsBelow_eq_declared (s : PathSyntax) {q : Query} (hq : "" ∉ q.fieldNames) :
    q.constraintsBelow s "" = q.conditions.map (Condition.declared s) := by
  rw [constraintsBelow_eq]
  refine List.map_congr_left fun c hc => ?_
  have hfields : ∀ field ∈ c.fields, field ≠ "" := by
    rintro field hfield rfl
    exact hq (q.fields_subset_fieldNames hc "" hfield)
  rw [Condition.constraint, Condition.declared, s.foldl_join hfields]

/-! ### Opening nested queries -/

/-- The entries of a nested query under the names that they have outside of it. -/
def joined (s : PathSyntax) (field : String) (inner : Query) : List (String × Node) :=
  inner.entries.map fun e => (s.join field e.1, e.2)

/-- Entries in which one nested query, on whatever level, gives way to its own entries. -/
inductive Opens (s : PathSyntax) : List (String × Node) → List (String × Node) → Prop
  | here (field : String) (inner : Query) (rest : List (String × Node)) :
      Opens s ((field, .nested inner) :: rest) (inner.joined s field ++ rest)
  | inside (field : String) {es fs : List (String × Node)} (h : Opens s es fs)
      (rest : List (String × Node)) :
      Opens s ((field, .nested ⟨es⟩) :: rest) ((field, .nested ⟨fs⟩) :: rest)
  | later (e : String × Node) {es fs : List (String × Node)} (h : Opens s es fs) :
      Opens s (e :: es) (e :: fs)

/-- The queries that come of a query when some of the nested ones in it are opened, one after the
other. -/
def OpensTo (s : PathSyntax) (q r : Query) : Prop :=
  Relation.ReflTransGen (Opens s) q.entries r.entries

theorem constraintsOfEntries_joined (s : PathSyntax) (path : String) {field : String}
    (hf : field ≠ "") (inner : Query) :
    constraintsOfEntries s path (inner.joined s field) =
      inner.constraintsBelow s (s.join path field) := by
  rw [joined, constraintsOfEntries_eq_flatMap, constraintsBelow_eq_flatMap, List.flatMap_map]
  simp only [s.join_join path hf]

theorem fieldNamesOf_append (es fs : List (String × Node)) :
    fieldNamesOf (es ++ fs) = fieldNamesOf es ++ fieldNamesOf fs := by
  induction es with
  | nil => rfl
  | cons e es ih => rw [List.cons_append, fieldNamesOf, fieldNamesOf, ih, List.cons_append,
      List.append_assoc]

theorem not_mem_fieldNamesOf_joined (s : PathSyntax) (field : String) {inner : Query}
    (h : "" ∉ inner.fieldNames) : "" ∉ fieldNamesOf (inner.joined s field) := by
  obtain ⟨es⟩ := inner
  rw [joined]
  induction es with
  | nil => exact h
  | cons e es ih =>
    simp only [fieldNames, fieldNamesOf, List.mem_cons, List.mem_append, not_or] at h ih
    simp only [List.map_cons, fieldNamesOf, List.mem_cons, List.mem_append, not_or]
    exact ⟨(s.join_ne_empty field (Ne.symm h.1)).symm, h.2.1, ih h.2.2⟩

/-- Opening one nested query changes no constraint and the place of none. -/
theorem Opens.constraintsOfEntries_eq {s : PathSyntax} {es fs : List (String × Node)}
    (h : Opens s es fs) (hes : "" ∉ fieldNamesOf es) (path : String) :
    constraintsOfEntries s path fs = constraintsOfEntries s path es := by
  induction h generalizing path with
  | here field inner rest =>
    simp only [fieldNamesOf, List.mem_cons, not_or] at hes
    calc
      constraintsOfEntries s path (inner.joined s field ++ rest) =
          constraintsOfEntries s path (inner.joined s field) ++
            constraintsOfEntries s path rest := by
        simp only [constraintsOfEntries_eq_flatMap, List.flatMap_append]
      _ = inner.constraintsBelow s (s.join path field) ++ constraintsOfEntries s path rest := by
        rw [constraintsOfEntries_joined s path (Ne.symm hes.1)]
      _ = constraintsOfEntries s path ((field, .nested inner) :: rest) := rfl
  | inside field _ rest ih =>
    simp only [fieldNamesOf, Node.fieldNames, fieldNames, List.mem_cons, List.mem_append,
      not_or] at hes
    simp only [constraintsOfEntries, Node.constraintsAt, constraintsBelow, ih hes.2.1]
  | later e _ ih =>
    simp only [fieldNamesOf, List.mem_cons, List.mem_append, not_or] at hes
    rw [constraintsOfEntries, constraintsOfEntries, ih hes.2.2]

theorem Opens.not_mem_fieldNamesOf {s : PathSyntax} {es fs : List (String × Node)}
    (h : Opens s es fs) (hes : "" ∉ fieldNamesOf es) : "" ∉ fieldNamesOf fs := by
  induction h with
  | here field inner rest =>
    simp only [fieldNamesOf, Node.fieldNames, List.mem_cons, List.mem_append, not_or] at hes
    rw [fieldNamesOf_append, List.mem_append, not_or]
    exact ⟨not_mem_fieldNamesOf_joined s field hes.2.1, hes.2.2⟩
  | inside field _ rest ih =>
    simp only [fieldNamesOf, Node.fieldNames, fieldNames, List.mem_cons, List.mem_append,
      not_or] at hes ⊢
    exact ⟨hes.1, ih hes.2.1, hes.2.2⟩
  | later e _ ih =>
    simp only [fieldNamesOf, List.mem_cons, List.mem_append, not_or] at hes ⊢
    exact ⟨hes.1, hes.2.1, ih hes.2.2⟩

/-- Opening any number of nested queries leaves the constraints as they are. -/
theorem OpensTo.constraints_eq {s : PathSyntax} {q r : Query} (h : q.OpensTo s r)
    (hq : "" ∉ q.fieldNames) : r.constraints s = q.constraints s := by
  have hrun : ∀ es fs, Relation.ReflTransGen (Opens s) es fs → "" ∉ fieldNamesOf es →
      "" ∉ fieldNamesOf fs ∧ constraintsOfEntries s "" fs = constraintsOfEntries s "" es := by
    intro es fs hrun hes
    induction hrun with
    | refl => exact ⟨hes, rfl⟩
    | tail _ hstep ih =>
      exact ⟨hstep.not_mem_fieldNamesOf ih.1, (hstep.constraintsOfEntries_eq ih.1 "").trans ih.2⟩
  obtain ⟨es⟩ := q
  obtain ⟨fs⟩ := r
  exact congrArg Constraint.sort (hrun es fs h hq).2

/-- The constraints of a query whose fields all have names are the conditions that it declares, in
depth-first order and each on the path along the names above it, sorted stably by path. No other
list is that, so none is lost and none comes twice, and any number of nested queries may be opened,
on whatever level, without a change. -/
theorem constraints_sort_declared (s : PathSyntax) {q : Query} (hq : "" ∉ q.fieldNames) :
    (∀ cs, cs = q.constraints s ↔
      Constraint.SortsTo (q.conditions.map (Condition.declared s)) cs) ∧
    (q.constraints s).Perm (q.conditions.map (Condition.declared s)) ∧
    ∀ r, q.OpensTo s r → r.constraints s = q.constraints s := by
  have hdeclared := q.constraintsBelow_eq_declared s hq
  refine ⟨fun cs => ?_, ?_, fun r hr => hr.constraints_eq hq⟩
  · rw [constraints, hdeclared]
    exact Constraint.eq_sort_iff
  · rw [← hdeclared]
    exact Matcher.perm_constraints s q

/-- A name that sorts behind those declared after it, two conditions that meet on one path, and a
query opened inside of a nested one; the empty separator loses no condition either. -/
theorem constraints_sort_declared_reordered :
    let inner : Query := ⟨[("d", .literal .null)]⟩
    let q : Query := ⟨[("b", .literal .null), ("a.c.d", .operators [("in", .null)]),
      ("a", .nested ⟨[("c", .nested inner)]⟩)]⟩
    let opened : Query := ⟨[("b", .literal .null), ("a.c.d", .operators [("in", .null)]),
      ("a", .nested ⟨[("c.d", .literal .null)]⟩)]⟩
    "" ∉ q.fieldNames ∧ (q.constraints {}).length = 3 ∧
      (opened.constraints {}) = q.constraints {} ∧
      q.constraints {} = [⟨"a.c.d", "in", .null⟩, ⟨"a.c.d", "eq", .null⟩, ⟨"b", "eq", .null⟩] ∧
      (q.constraints ⟨""⟩).Perm [⟨"b", "eq", .null⟩, ⟨"a.c.d", "in", .null⟩,
        ⟨"acd", "eq", .null⟩] := by
  intro inner q opened
  have hq : "" ∉ q.fieldNames := by decide
  obtain ⟨-, hperm, hopen⟩ := constraints_sort_declared {} hq
  have hopens : q.OpensTo {} opened :=
    .single (.later _ (.later _ (.inside "a" (.here "c" inner []) [])))
  refine ⟨hq, hperm.length_eq, hopen opened hopens, by cbv, ?_⟩
  exact (constraints_sort_declared ⟨""⟩ hq).2.1

end Query

end Dossier
