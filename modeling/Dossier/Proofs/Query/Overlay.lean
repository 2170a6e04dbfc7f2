import Dossier.Proofs.Query.Binding
import Mathlib.Data.List.Induction

/-! A table of operators after registrations is a layer over the table before them: under each name
stands what was registered last under it or under an alias of it. As only names that stand for
themselves are ever bound, an alias and its name cannot come apart, and each table of a row stays
what it was when later ones are made from it. -/

namespace Dossier

namespace Operators

def registered (t : Operators) (r : String × Operator) : Operators :=
  match t.register r.1 r.2 with
  | .ok t' => t'
  | .error _ => t

/-- The tables that a row of registrations leads through, with the one before them first. -/
def history (t : Operators) (rs : List (String × Operator)) : List Operators :=
  rs.scanl registered t

/-- Whether a registration is accepted and binds a name, by itself or by an alias. -/
def binds (name : String) (r : String × Operator) : Bool :=
  !isBlankText r.1 && Operator.canonicalName r.1 == Operator.canonicalName name

/-- The operator of the last of a row of registrations that binds a name. -/
def latest? (rs : List (String × Operator)) (name : String) : Option Operator :=
  (rs.filter (binds name)).getLast?.map Prod.snd

/-- What a table says of a name is the same in whatever way it is asked: an operator, or that there is
none. -/
structure Answers (t : Operators) (name : String) (found : Option Operator) : Prop where
  get? : t.get? name = found
  contains : t.contains name = found.isSome
  resolve : t.resolve name = found.elim (.error (.unknownOperator name)) .ok
  evaluate : ∀ operand field, t.evaluate name operand field =
    found.elim (.error (.unknownOperator name)) fun op => .ok (op operand field)

/-- No name is in the table twice, and all of them stand for themselves. -/
structure Canonical (t : Operators) : Prop where
  nodup : t.bindings.keys.Nodup
  canonical : ∀ name ∈ t.bindings.keys, Operator.canonicalName name = name

variable {t : Operators} {r : String × Operator} {rs : List (String × Operator)}

theorem answers_get? (t : Operators) (name : String) : t.Answers name (t.get? name) where
  get? := rfl
  contains := rfl
  resolve := by
    rw [resolve]
    cases t.get? name <;> rfl
  evaluate operand field := by
    rw [evaluate, resolve]
    cases t.get? name <;> rfl

/-! ### One registration -/

theorem registered_of_blank (h : isBlankText r.1 = true) : t.registered r = t := by
  rw [registered, register, if_pos h]

theorem register_of_not_blank (h : isBlankText r.1 = false) :
    t.register r.1 r.2 = .ok (t.registered r) := by
  rw [registered, register, h]
  rfl

theorem registered_of_not_blank (h : isBlankText r.1 = false) :
    t.registered r = ⟨t.bindings.insert (Operator.canonicalName r.1) r.2⟩ := by
  rw [registered, register, h]
  rfl

theorem get?_registered (t : Operators) (r : String × Operator) (name : String) :
    (t.registered r).get? name = if binds name r then some r.2 else t.get? name := by
  rw [binds]
  cases hblank : isBlankText r.1 with
  | true => rw [registered_of_blank hblank, Bool.not_true, Bool.false_and, if_neg Bool.false_ne_true]
  | false => simp [registered_of_not_blank hblank, get?_bind]

/-- The name that is bound is one that stands for itself, whatever name was given. -/
theorem Canonical.registered (h : t.Canonical) (r : String × Operator) :
    (t.registered r).Canonical := by
  cases hblank : isBlankText r.1 with
  | true => rwa [registered_of_blank hblank]
  | false =>
    rw [registered_of_not_blank hblank]
    constructor
    · exact Entries.nodup_keys_insert h.nodup _ _
    · intro name hname
      rw [← Entries.isSome_get?, Entries.get?_insert] at hname
      split_ifs at hname with hbound
      · rw [← hbound, Operator.canonicalName_idem]
      · exact h.canonical name ((Entries.isSome_get? _ _).mp hname)

theorem canonical_builtIn : builtIn.Canonical where
  nodup := by decide
  canonical := by decide

/-! ### Names -/

theorem Canonical.mem_names (h : t.Canonical) {name : String} :
    name ∈ t.names ↔ Operator.canonicalName name = name ∧ t.contains name = true := by
  have hkeys : name ∈ t.names ↔ name ∈ t.bindings.keys := List.mem_mergeSort
  rw [hkeys, contains, Entries.contains_iff]
  constructor
  · intro hname
    have hself := h.canonical name hname
    exact ⟨hself, hself.symm ▸ hname⟩
  · rintro ⟨hself, hname⟩
    exact hself ▸ hname

theorem Canonical.pairwise_names (h : t.Canonical) : t.names.Pairwise (· < ·) := by
  have hsorted := (stableSort_mergeSort (compare : String → String → Ordering)
    t.bindings.keys).sorted
  have hnodup : t.names.Nodup := (List.mergeSort_perm _ _).nodup_iff.mpr h.nodup
  refine (hsorted.and hnodup).imp fun {a b} hab => ?_
  have hlt : compare a b = .lt := by
    cases hcompare : compare a b with
    | lt => rfl
    | eq => exact absurd (Std.LawfulEqCmp.eq_of_compare hcompare) hab.2
    | gt =>
      rw [hcompare] at hab
      cases hab.1
  exact compareOfLessAndEq_eq_lt.mp hlt

/-! ### A row of registrations -/

theorem Canonical.foldl (h : t.Canonical) (rs : List (String × Operator)) :
    (rs.foldl Operators.registered t).Canonical := by
  induction rs generalizing t with
  | nil => exact h
  | cons r rs ih => exact ih (h.registered r)

theorem latest?_concat (rs : List (String × Operator)) (r : String × Operator) (name : String) :
    latest? (rs ++ [r]) name = if binds name r then some r.2 else latest? rs name := by
  rw [latest?, List.filter_append]
  cases hr : binds name r <;> simp [latest?, hr]

/-- What was registered last under a name counts; where nothing was, what the table had. -/
theorem get?_foldl (t : Operators) (rs : List (String × Operator)) (name : String) :
    (rs.foldl registered t).get? name = (latest? rs name).or (t.get? name) := by
  induction rs using List.reverseRecOn with
  | nil => rfl
  | append_singleton rs r ih =>
    rw [List.foldl_concat, get?_registered, latest?_concat, ih]
    cases binds name r <;> rfl

theorem getElem?_history (t : Operators) (rs : List (String × Operator)) (i : Nat) :
    (t.history rs)[i]? = if i ≤ rs.length then some ((rs.take i).foldl registered t) else none :=
  List.getElem?_scanl

/-- One table leads to the next by the registration of its place. -/
theorem exists_next {i : Nat} (ht : (builtIn.history rs)[i]? = some t) (hr : rs[i]? = some r) :
    (builtIn.history rs)[i + 1]? = some (t.registered r) := by
  obtain ⟨hi, -⟩ := List.getElem?_eq_some_iff.mp hr
  rw [getElem?_history, if_pos hi.le, Option.some.injEq] at ht
  rw [getElem?_history, if_pos (Nat.succ_le_of_lt hi), List.take_add_one, hr, Option.toList_some,
    List.foldl_concat, ht]

end Operators

/-- A table of operators is a layer over the built-in one. In a row of registrations each table comes
from the one before it: a blank name is refused, which changes nothing, and any other is accepted.
Every table answers for every name, however it is asked, with the operator registered last before it
under a name that stands for the same, or else with the built-in one, or else with none; so an alias
and the name that it stands for always have one operator. Its names ascend, and they are those that
it has an operator for and that are no alias. Registrations made later leave all tables before them
as they are. -/
theorem tables_overlay_built_in (rs more : List (String × Operator)) :
    let tables := Operators.builtIn.history rs
    tables.length = rs.length + 1 ∧ tables.head? = some .builtIn ∧
      (∀ (i : Nat) t r, tables[i]? = some t → rs[i]? = some r →
        ∃ next, tables[i + 1]? = some next ∧
          if isBlankText r.1 then
            next = t ∧ ∃ fault, t.register r.1 r.2 = .error fault ∧ fault.kind = .invalidArgument
          else t.register r.1 r.2 = .ok next) ∧
      (∀ (i : Nat) t, tables[i]? = some t →
        (∀ name, t.Answers name
            ((Operators.latest? (rs.take i) name).or (Operators.builtIn.get? name)) ∧
          t.get? (Operator.canonicalName name) = t.get? name) ∧
        t.names.Pairwise (· < ·) ∧
        ∀ name, name ∈ t.names ↔ Operator.canonicalName name = name ∧ t.contains name = true) ∧
      tables <+: Operators.builtIn.history (rs ++ more) := by
  intro tables
  refine ⟨List.length_scanl, List.head?_scanl, fun i t r ht hr => ?_, fun i t ht => ?_,
    ⟨_, List.scanl_append.symm⟩⟩
  · refine ⟨_, Operators.exists_next ht hr, ?_⟩
    cases hblank : isBlankText r.1 with
    | true =>
      refine ⟨Operators.registered_of_blank hblank, .blankOperatorName, ?_, rfl⟩
      rw [Operators.register, if_pos hblank]
    | false => exact Operators.register_of_not_blank hblank
  · have htable := Operators.getElem?_history .builtIn rs i
    rw [ht] at htable
    split_ifs at htable
    obtain rfl := Option.some.inj htable
    have hcanonical := Operators.canonical_builtIn.foldl (rs.take i)
    refine ⟨fun name => ⟨?_, Operators.get?_canonicalName _ name⟩, hcanonical.pairwise_names,
      fun name => hcanonical.mem_names⟩
    rw [← Operators.get?_foldl]
    exact Operators.answers_get? _ name

/-- A built-in operator replaced through its alias and then by its name, with a blank name and a new
one between the two. -/
theorem tables_overlay_built_in_replaced :
    let rs : List (String × Operator) :=
      [(">=", .notIn), (" ", .isIn), ("own", .regexp), ("gte", .contains)]
    ∃ first last, (Operators.builtIn.history rs)[1]? = some first ∧
      (Operators.builtIn.history rs)[2]? = some first ∧
      (Operators.builtIn.history rs)[4]? = some last ∧
      first.Answers "gte" (some .notIn) ∧ first.Answers "own" none ∧
      last.Answers ">=" (some .contains) ∧ last.Answers "own" (some .regexp) ∧
      last.Answers "<" (some .lt) ∧ last.names.Pairwise (· < ·) ∧ ">=" ∉ last.names := by
  intro rs
  obtain ⟨-, -, hsteps, htables, -⟩ := tables_overlay_built_in rs []
  let first := Operators.builtIn.registered (">=", .notIn)
  let last := rs.foldl Operators.registered .builtIn
  have hfirst : (Operators.builtIn.history rs)[1]? = some first := rfl
  have hlast : (Operators.builtIn.history rs)[4]? = some last := rfl
  obtain ⟨next, hnext, hsame⟩ := hsteps 1 first (" ", .isIn) hfirst rfl
  have hblank : isBlankText " " = true := by decide
  rw [if_pos hblank] at hsame
  obtain ⟨hanswers, -, -⟩ := htables 1 first hfirst
  obtain ⟨hreplaced, hascend, hnames⟩ := htables 4 last hlast
  have hgte : (Operators.latest? (rs.take 1) "gte").or (Operators.builtIn.get? "gte") =
      some .notIn := by unfold rs; cbv
  have hnone : (Operators.latest? (rs.take 1) "own").or (Operators.builtIn.get? "own") =
      none := by unfold rs; cbv
  have halias : (Operators.latest? (rs.take 4) ">=").or (Operators.builtIn.get? ">=") =
      some .contains := by unfold rs; cbv
  have hown : (Operators.latest? (rs.take 4) "own").or (Operators.builtIn.get? "own") =
      some .regexp := by unfold rs; cbv
  have hlt : (Operators.latest? (rs.take 4) "<").or (Operators.builtIn.get? "<") =
      some .lt := by unfold rs; cbv
  refine ⟨first, last, hfirst, hsame.1 ▸ hnext, hlast, hgte ▸ (hanswers "gte").1,
    hnone ▸ (hanswers "own").1, halias ▸ (hreplaced ">=").1, hown ▸ (hreplaced "own").1,
    hlt ▸ (hreplaced "<").1, hascend, fun hmem => ?_⟩
  exact absurd ((hnames ">=").mp hmem).1 (by decide)

end Dossier
