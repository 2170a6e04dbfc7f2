import Dossier.Collection.Find
import Dossier.Proofs.Query.Respect

/-! A query selects positions: which ones depends on the query and on the items up to equality
alone, as long as the operators are the built-in ones and nothing is matched against text. -/

namespace Dossier

def itemsAt {α : Type} (keep : Nat → Bool) (xs : List α) : List α :=
  (xs.zipIdx.filter fun (_, i) => keep i).map Prod.fst

theorem filter_eq_itemsAt {α : Type} {p : α → Bool} {keep : Nat → Bool} {xs : List α}
    (h : ∀ i x, xs[i]? = some x → p x = keep i) : xs.filter p = itemsAt keep xs := by
  have hkeep : (xs.zipIdx.filter fun (_, i) => keep i) = xs.zipIdx.filter (p ∘ Prod.fst) := by
    refine List.filter_congr ?_
    rintro ⟨x, i⟩ hx
    exact (h i x (List.mk_mem_zipIdx_iff_getElem?.mp hx)).symm
  calc
    xs.filter p = (xs.zipIdx.map Prod.fst).filter p := by rw [List.zipIdx_map_fst]
    _ = (xs.zipIdx.filter (p ∘ Prod.fst)).map Prod.fst := List.filter_map
    _ = itemsAt keep xs := by rw [itemsAt, hkeep]

section Positions

variable {α : Type} {keep keep' : Nat → Bool} {xs : List α} {x : α}

theorem mem_itemsAt : x ∈ itemsAt keep xs ↔ ∃ i, keep i = true ∧ xs[i]? = some x := by
  simp only [itemsAt, List.mem_map, List.mem_filter, Prod.exists, exists_and_right, exists_eq_right,
    List.mk_mem_zipIdx_iff_getElem?]
  exact exists_congr fun i => and_comm

theorem itemsAt_congr (h : ∀ i < xs.length, keep i = keep' i) :
    itemsAt keep xs = itemsAt keep' xs := by
  refine congrArg (List.map Prod.fst) (List.filter_congr ?_)
  rintro ⟨x, i⟩ hx
  exact h i (List.getElem?_eq_some_iff.mp (List.mk_mem_zipIdx_iff_getElem?.mp hx)).1

theorem itemsAt_concat :
    itemsAt keep (xs ++ [x]) = itemsAt keep xs ++ if keep xs.length then [x] else [] := by
  rw [itemsAt, List.zipIdx_append, List.filter_append, List.map_append]
  cases h : keep xs.length <;> simp [itemsAt, h]

end Positions

namespace Collection

variable {μ : Type} {c : Collection μ} {source : Query.Source}

/-! ### The three ways of asking by the matcher -/

section Matcher

variable {context : Context μ} {m : Matcher} (hm : context.matcher source = .ok m)
  (items : List Value)

include hm

theorem find_of_matcher :
    find ⟨items, context⟩ source = .ok ⟨items.filter m.holds, context⟩ := by
  rw [find, hm]
  rfl

theorem not_of_matcher :
    not ⟨items, context⟩ source = .ok ⟨items.filter fun item => !m.holds item, context⟩ := by
  rw [not, hm]
  rfl

theorem findOne_of_matcher :
    findOne ⟨items, context⟩ source = .ok (items.filter m.holds).head? := by
  rw [findOne, hm, List.head?_filter]
  rfl

end Matcher

/-- Every way of asking keeps the same positions: the first of them only, all of them, or all but
them. -/
structure Selects (c : Collection μ) (source : Query.Source) (keep : Nat → Bool) : Prop where
  find : c.find source = .ok (c.collect (itemsAt keep c.items))
  not : c.not source = .ok (c.collect (itemsAt (fun i => !keep i) c.items))
  findOne : c.findOne source = .ok (itemsAt keep c.items).head?

/-- Every way of asking fails, and with the same failure. -/
structure Refuses (c : Collection μ) (source : Query.Source) (f : Fault) : Prop where
  find : c.find source = .error f
  not : c.not source = .error f
  findOne : c.findOne source = .error f

theorem selects_of_matcher {m : Matcher} (hm : c.context.matcher source = .ok m)
    {keep : Nat → Bool} (h : ∀ i x, c.items[i]? = some x → m.holds x = keep i) :
    c.Selects source keep where
  find := by
    have hfind := find_of_matcher hm c.items
    rw [filter_eq_itemsAt h] at hfind
    exact hfind
  not := by
    have hnot : ∀ i x, c.items[i]? = some x → (!m.holds x) = !keep i :=
      fun i x hx => congrArg (!·) (h i x hx)
    have hrest := not_of_matcher hm c.items
    rw [filter_eq_itemsAt hnot] at hrest
    exact hrest
  findOne := by
    have hfirst := findOne_of_matcher hm c.items
    rw [filter_eq_itemsAt h] at hfirst
    exact hfirst

theorem refuses_of_matcher {f : Fault} (hm : c.context.matcher source = .error f) :
    c.Refuses source f where
  find := by
    rw [find, hm]
    rfl
  not := by
    rw [not, hm]
    rfl
  findOne := by
    rw [findOne, hm]
    rfl

theorem selects_of_endAlike {c' : Collection μ} {source' : Query.Source}
    (h : EndAlike Matcher.TellSame (c.context.matcher source) (c'.context.matcher source'))
    (hitems : List.Forall₂ Value.Alike c.items c'.items) :
    (∃ f g, f.kind = g.kind ∧ c.Refuses source f ∧ c'.Refuses source' g) ∨
      ∃ keep, c.Selects source keep ∧ c'.Selects source' keep := by
  generalize hm : c.context.matcher source = r at h
  generalize hm' : c'.context.matcher source' = r' at h
  cases h with
  | fail hkind => exact .inl ⟨_, _, hkind, refuses_of_matcher hm, refuses_of_matcher hm'⟩
  | @give m m' hsame =>
    let keep : Nat → Bool := fun i => (c.items[i]?.map m.holds).getD false
    refine .inr ⟨keep, selects_of_matcher hm fun i x hx => ?_,
      selects_of_matcher hm' fun i y hy => ?_⟩
    · simp only [keep, hx, Option.map_some, Option.getD_some]
    · have hrel := rel_getElem? hitems i
      rw [hy] at hrel
      cases hx : c.items[i]? with
      | none =>
        rw [hx] at hrel
        cases hrel
      | some x =>
        rw [hx] at hrel
        cases hrel with
        | some hxy => simp only [keep, hx, Option.map_some, Option.getD_some, hsame hxy]

end Collection

/-- Equal queries on equal data select the same positions. Over item lists that are equal one by
one, each way of asking fails for both queries, with failures of one kind, or keeps the same
positions of both lists. -/
theorem equal_queries_select_same_positions {μ : Type} (context : Context μ)
    (hbuiltIn : context.operators = .builtIn) {d e : Document} (hd : d.WellFormed)
    (hde : d.equal e = true) (hpattern : ∀ p, ¬ (Value.pattern p).Within (.document d))
    (hregexp : ∀ q, Query.ofDocument context.settings.marker d = .ok q →
      "regexp" ∉ q.operatorNames)
    {xs ys : List Value} (hxs : ∀ x ∈ xs, x.WellFormed)
    (hxy : List.Forall₂ (fun x y => x.equal y = true) xs ys) :
    (∃ f g, f.kind = g.kind ∧ Collection.Refuses ⟨xs, context⟩ (.document d) f ∧
      Collection.Refuses ⟨ys, context⟩ (.document e) g) ∨
    ∃ keep, Collection.Selects ⟨xs, context⟩ (.document d) keep ∧
      Collection.Selects ⟨ys, context⟩ (.document e) keep := by
  have hdoc : (Value.document d).Alike (.document e) := ⟨hd, by rwa [Value.equal]⟩
  have hitems : List.Forall₂ Value.Alike xs ys :=
    Entries.forall₂_imp_of_mem (fun x hx y h => ⟨hxs x hx, h⟩) hxy
  have htext : ∀ q, Query.ofDocument context.settings.marker d = .ok q → q.TextFree :=
    fun q hq => Query.textFree_of_ofDocument hq hpattern (hregexp q hq)
  exact Collection.selects_of_endAlike (context.endAlike_matcher hbuiltIn hdoc htext) hitems

/-- Queries and items with their keys in other orders and their numbers of other kinds. -/
theorem equal_queries_select_same_positions_reordered :
    let context : Context Unit := .new .standard
    let d : Document := ⟨[("n", .signed 1), ("o", .document ⟨[("$$k", .document
      ⟨[("in", .array [.signed 2, .signed 5]), ("<", .unsigned 9)]⟩)]⟩)]⟩
    let e : Document := ⟨[("o", .document ⟨[("$$k", .document
      ⟨[("<", .signed 9), ("in", .array [.unsigned 2, .unsigned 5])]⟩)]⟩),
      ("n", .double ⟨0x3ff0000000000000⟩)]⟩
    let x : Value := .document ⟨[("n", .signed 1), ("o", .document ⟨[("k", .signed 5)]⟩)]⟩
    let y : Value := .document ⟨[("o", .document ⟨[("k", .unsigned 5)]⟩), ("n", .unsigned 1)]⟩
    d.equal e = true ∧ x.equal y = true ∧
      ∃ keep, itemsAt keep [.null, x] = [x] ∧
        Collection.Selects ⟨[.null, x], context⟩ (.document d) keep ∧
        Collection.Selects ⟨[.null, y], context⟩ (.document e) keep := by
  intro context d e x y
  have hd : d.WellFormed := ⟨by decide, trivial, ⟨by decide, ⟨by decide,
    ⟨trivial, trivial, trivial⟩, trivial, trivial⟩, trivial⟩, trivial⟩
  have hx : x.WellFormed := ⟨by decide, trivial, ⟨by decide, trivial, trivial⟩, trivial⟩
  have hde : d.equal e = true := by decide +kernel
  have hxy : x.equal y = true := by decide +kernel
  have hread : Query.ofDocument context.settings.marker d = .ok ⟨[("n", .literal (.signed 1)),
    ("o", .nested ⟨[("k", .operators [("in", .array [.signed 2, .signed 5]),
      ("<", .unsigned 9)])]⟩)]⟩ := by cbv
  have hnumber : ∀ p n, ¬ (Value.pattern p).Within (.number n) := by
    intro p n hwithin
    have harray : (Value.number n).kind ≠ .array := by simp [Value.kind]
    have hdocument : (Value.number n).kind ≠ .document := by simp [Value.kind]
    cases (Value.within_iff_of_kind_ne harray hdocument).mp hwithin
  have hpattern : ∀ p, ¬ (Value.pattern p).Within (.document d) := by
    intro p
    simp [d, Value.within_document, Value.within_array, Value.signed, Value.unsigned, hnumber]
  have hregexp : ∀ q, Query.ofDocument context.settings.marker d = .ok q →
      "regexp" ∉ q.operatorNames := by
    intro q hq
    cases hread.symm.trans hq
    decide
  have hxs : ∀ v ∈ [.null, x], v.WellFormed := by simp [hx, Value.WellFormed]
  have hitems : List.Forall₂ (fun v w => v.equal w = true) [.null, x] [.null, y] :=
    .cons (by cbv) (.cons hxy .nil)
  have hfound : Collection.find ⟨[.null, x], context⟩ (.document d) = .ok ⟨[x], context⟩ := by cbv
  rcases equal_queries_select_same_positions context rfl hd hde hpattern hregexp hxs hitems with
    ⟨f, g, -, hrefuses, -⟩ | ⟨keep, hselects, hselects'⟩
  · cases hfound.symm.trans hrefuses.find
  · refine ⟨hde, hxy, keep, ?_, hselects, hselects'⟩
    have hkept := hfound.symm.trans hselects.find
    simpa [Collection.collect] using hkept.symm

end Dossier
