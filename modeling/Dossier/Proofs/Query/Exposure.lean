import Dossier.Proofs.Query.Binding

/-! What an item that is not a document shows to a query. A scalar shows nothing, on any path, so
each constraint sees null as it does in null itself. An array is entered at the positions of its
items, and a constraint on a path that starts with one sees what the rest of the path leads to from
there. -/

namespace Dossier

namespace PathSyntax

/-- The value of a field: null where the path leads nowhere. -/
def fieldAt (s : PathSyntax) (item : Value) (path : String) : Value :=
  (s.getValue? item path).getD .null

/-- Paths that enter an item which is an array: the first segment is the position of something in
it, from which the others lead to a value that is not null. -/
inductive Enters (s : PathSyntax) (path : String) : Value → Prop
  | array {xs : List Value} {position : String} {rest : List String} {i : Nat} {x v : Value}
      (hpath : path ≠ "") (hsplit : s.split path = position :: rest)
      (hposition : index? position = some i) (hx : xs[i]? = some x)
      (hrest : x.follow? rest = some v) (hv : v ≠ .null) : Enters s path (.array xs)

variable {s : PathSyntax} {path : String} {item : Value}

theorem not_enters_of_kind_ne (h : item.kind ≠ .array) : ¬ s.Enters path item := by
  rintro ⟨⟩
  exact h rfl

theorem getValue?_scalar (hd : item.kind ≠ .document) (ha : item.kind ≠ .array) :
    s.getValue? item path = none := by
  have hchild : ∀ segment, item.child? segment = none := by
    intro segment
    cases item with
    | document d => exact absurd rfl hd
    | array xs => exact absurd rfl ha
    | _ => rfl
  obtain ⟨segment, rest, hsplit⟩ := List.exists_cons_of_ne_nil (s.split_ne_nil path)
  simp [getValue?, hsplit, Value.follow?, hchild]

theorem fieldAt_scalar (hd : item.kind ≠ .document) (ha : item.kind ≠ .array) :
    s.fieldAt item path = .null := by
  rw [fieldAt, getValue?_scalar hd ha]
  rfl

theorem fieldAt_array_ne_null_iff {xs : List Value} :
    s.fieldAt (.array xs) path ≠ .null ↔ s.Enters path (.array xs) := by
  obtain ⟨position, rest, hsplit⟩ := List.exists_cons_of_ne_nil (s.split_ne_nil path)
  constructor
  · intro hne
    cases hget : s.getValue? (.array xs) path with
    | none => exact absurd (by rw [fieldAt, hget]; rfl) hne
    | some v =>
      have hv : v ≠ .null := by simpa [fieldAt, hget] using hne
      simp only [getValue?, hsplit, Value.follow?, Value.child?, Option.ite_none_left_eq_some,
        Option.bind_eq_some_iff] at hget
      obtain ⟨hpath, x, ⟨i, hposition, hx⟩, hrest⟩ := hget
      exact .array hpath hsplit hposition hx hrest hv
  · rintro ⟨hpath, hsplit', hposition, hx, hrest, hv⟩
    simpa [fieldAt, getValue?, hpath, hsplit', Value.follow?, Value.child?, hposition, hx, hrest]

/-- Of an item that is not a document, exactly the fields on paths that enter it are there. -/
theorem fieldAt_ne_null_iff (hd : item.kind ≠ .document) :
    s.fieldAt item path ≠ .null ↔ s.Enters path item := by
  by_cases ha : item.kind = .array
  · cases item with
    | array xs => exact fieldAt_array_ne_null_iff
    | _ => cases ha
  · exact iff_of_false (fun hne => hne (fieldAt_scalar hd ha)) (not_enters_of_kind_ne ha)

end PathSyntax

namespace Matcher

theorem holds_eq_of_fieldAt {m : Matcher} {x y : Value}
    (h : ∀ c ∈ m.constraints, m.paths.fieldAt x c.1.path = m.paths.fieldAt y c.1.path) :
    m.holds x = m.holds y := by
  rw [holds, holds, Bool.eq_iff_iff, List.all_eq_true, List.all_eq_true]
  refine forall₂_congr fun c hc => ?_
  exact iff_of_eq (congrArg (c.2 c.1.operand · = true) (h c hc))

end Matcher

/-- An item that is not a document shows its fields by position only. To an accepted query it shows
a value exactly on the paths that enter it, as arrays alone can be entered; so where no path enters
it each constraint sees null and the verdict is that on null, and on a scalar this is always so. -/
theorem non_document_shows_positions {μ : Type} (context : Context μ) {source : Query.Source}
    (h : context.Accepts source) {item : Value} (hitem : item.kind ≠ .document) :
    ∃ m, context.matcher source = .ok m ∧
      (∀ c ∈ m.constraints,
        m.paths.fieldAt item c.1.path ≠ .null ↔ m.paths.Enters c.1.path item) ∧
      ((∀ c ∈ m.constraints, ¬ m.paths.Enters c.1.path item) → m.holds item = m.holds .null) ∧
      (item.kind ≠ .array →
        (∀ c ∈ m.constraints, m.paths.fieldAt item c.1.path = .null) ∧
          m.holds item = m.holds .null) := by
  obtain ⟨m, hm⟩ := h.exists_matcher
  have hfield : ∀ path, ¬ m.paths.Enters path item → m.paths.fieldAt item path = .null :=
    fun path henters => not_not.mp (mt (PathSyntax.fieldAt_ne_null_iff hitem).mp henters)
  have hnull : ∀ path, m.paths.fieldAt .null path = .null :=
    fun path => PathSyntax.fieldAt_scalar (by simp [Value.kind]) (by simp [Value.kind])
  have hverdict : (∀ c ∈ m.constraints, ¬ m.paths.Enters c.1.path item) →
      m.holds item = m.holds .null := by
    intro henters
    refine Matcher.holds_eq_of_fieldAt fun c hc => ?_
    rw [hfield _ (henters c hc), hnull]
  refine ⟨m, hm, fun c _ => PathSyntax.fieldAt_ne_null_iff hitem, hverdict, fun ha => ?_⟩
  have henters : ∀ path, ¬ m.paths.Enters path item :=
    fun path => PathSyntax.not_enters_of_kind_ne ha
  exact ⟨fun c _ => hfield _ (henters _), hverdict fun c _ => henters _⟩

/-- A path that starts with a position beyond the end, one that is a key, and one that enters. -/
theorem non_document_shows_positions_mixed :
    let context : Context Unit := .new .standard
    let source : Query.Source := .document ⟨[("$$2", .document ⟨[("not", .signed 1)]⟩),
      ("k", .null), ("+1", .document ⟨[("k", .string "x")]⟩)]⟩
    let item : Value := .array [.null, .document ⟨[("k", .string "x")]⟩]
    context.Accepts source ∧ item.kind ≠ .document ∧
      ∃ m, context.matcher source = .ok m ∧ m.paths.Enters "+1.k" item ∧
        m.paths.fieldAt item "+1.k" ≠ .null ∧ m.holds (.string "x") = m.holds .null := by
  intro context source item
  have haccepts : context.Accepts source :=
    ⟨⟨[("2", .operators [("not", .signed 1)]), ("k", .literal .null),
      ("+1", .nested ⟨[("k", .literal (.string "x"))]⟩)]⟩, by cbv, by decide⟩
  have hitem : item.kind ≠ .document := by decide
  obtain ⟨m, hm, hfields, -, -⟩ := non_document_shows_positions context haccepts hitem
  have hstring : (Value.string "x").kind ≠ .document := by decide
  obtain ⟨m', hm', -, -, hscalar⟩ := non_document_shows_positions context haccepts hstring
  cases hm.symm.trans hm'
  have hmatcher : context.matcher source = .ok ⟨[(⟨"+1.k", "eq", .string "x"⟩, .eq),
    (⟨"2", "not", .signed 1⟩, .not), (⟨"k", "eq", .null⟩, .eq)], {}⟩ := by cbv
  cases hm.symm.trans hmatcher
  have henters : PathSyntax.Enters {} "+1.k" item :=
    .array (by decide) (by cbv) (by cbv) rfl (by cbv) (by simp)
  have hmem : ((⟨"+1.k", "eq", .string "x"⟩ : Constraint), Operator.eq) ∈
      ([(⟨"+1.k", "eq", .string "x"⟩, .eq), (⟨"2", "not", .signed 1⟩, .not),
        (⟨"k", "eq", .null⟩, .eq)] : List (Constraint × Operator)) := List.mem_cons_self
  exact ⟨haccepts, hitem, _, hm, henters, (hfields _ hmem).mpr henters,
    (hscalar (by decide)).2⟩

/-- An array that is asked for its first item does not get the verdict on null. -/
theorem array_shows_first_item :
    let context : Context Unit := .new .standard
    let source : Query.Source := .document ⟨[("0", .signed 1)]⟩
    let item : Value := .array [.signed 1]
    context.Accepts source ∧ item.kind ≠ .document ∧
      ∃ m, context.matcher source = .ok m ∧ m.holds item = true ∧ m.holds .null = false := by
  intro context source item
  exact ⟨⟨⟨[("0", .literal (.signed 1))]⟩, by cbv, by decide⟩, by decide,
    ⟨[(⟨"0", "eq", .signed 1⟩, .eq)], {}⟩, by cbv, by decide +kernel, by decide +kernel⟩

end Dossier
