import Dossier.Proofs.Collection.Positions

/-! A query and its complement deal the items of a collection out: each item goes to one of the two,
in order, and to that one alone. What a query picks has the context of the collection it is picked
from, so queries can be asked of it in turn; in which order they are asked does not matter. -/

namespace Dossier

/-! ### Dealing out -/

/-- A row dealt out to two others: each item in turn is the next of one of them, and is nowhere in
the other. -/
inductive Dealt {α : Type} : List α → List α → List α → Prop
  | nil : Dealt [] [] []
  | first {x : α} {xs ys zs : List α} (hx : x ∉ zs) (h : Dealt xs ys zs) :
      Dealt (x :: xs) (x :: ys) zs
  | second {x : α} {xs ys zs : List α} (hx : x ∉ ys) (h : Dealt xs ys zs) :
      Dealt (x :: xs) ys (x :: zs)

namespace Dealt

variable {α : Type} {xs ys zs : List α}

theorem sublist_first (h : Dealt xs ys zs) : ys.Sublist xs := by
  induction h with
  | nil => exact .slnil
  | first _ _ ih => exact ih.cons_cons _
  | second _ _ ih => exact ih.cons _

theorem sublist_second (h : Dealt xs ys zs) : zs.Sublist xs := by
  induction h with
  | nil => exact .slnil
  | first _ _ ih => exact ih.cons _
  | second _ _ ih => exact ih.cons_cons _

theorem perm_append (h : Dealt xs ys zs) : (ys ++ zs).Perm xs := by
  induction h with
  | nil => exact .refl _
  | first _ _ ih => exact ih.cons _
  | second _ _ ih => exact List.perm_middle.trans (ih.cons _)

theorem disjoint (h : Dealt xs ys zs) : ys.Disjoint zs := by
  induction h with
  | nil => exact List.disjoint_nil_left _
  | first hx _ ih => exact List.disjoint_cons_left.mpr ⟨hx, ih⟩
  | second hx _ ih => exact List.disjoint_cons_right.mpr ⟨hx, ih⟩

end Dealt

theorem dealt_filter {α : Type} (p : α → Bool) (xs : List α) :
    Dealt xs (xs.filter p) (xs.filter fun x => !p x) := by
  induction xs with
  | nil => exact .nil
  | cons x xs ih =>
    cases hx : p x with
    | true =>
      rw [List.filter_cons_of_pos hx, List.filter_cons_of_neg (by simp [hx])]
      exact .first (by simp [hx]) ih
    | false =>
      rw [List.filter_cons_of_neg (by simp [hx]), List.filter_cons_of_pos (by simp [hx])]
      exact .second (by simp [hx]) ih

namespace Collection

variable {μ : Type}

/-! ### A query and its complement -/

/-- What a query picks, what its complement picks, and what they pick in turn from each other. -/
structure Complements (context : Context μ) (source : Query.Source)
    (items found rest : List Value) : Prop where
  find : Collection.find ⟨items, context⟩ source = .ok ⟨found, context⟩
  not : Collection.not ⟨items, context⟩ source = .ok ⟨rest, context⟩
  findOne : Collection.findOne ⟨items, context⟩ source = .ok found.head?
  dealt : Dealt items found rest
  find_found : Collection.find ⟨found, context⟩ source = .ok ⟨found, context⟩
  find_rest : Collection.find ⟨rest, context⟩ source = .ok ⟨[], context⟩

theorem complements_of_matcher {context : Context μ} {source : Query.Source} {m : Matcher}
    (hm : context.matcher source = .ok m) (items : List Value) :
    Complements context source items (items.filter m.holds)
      (items.filter fun item => !m.holds item) where
  find := find_of_matcher hm items
  not := not_of_matcher hm items
  findOne := findOne_of_matcher hm items
  dealt := dealt_filter m.holds items
  find_found := by
    rw [find_of_matcher hm, List.filter_filter]
    simp only [Bool.and_self]
  find_rest := by
    rw [find_of_matcher hm, List.filter_filter]
    simp

/-! ### One query after the other -/

def findAll (c : Collection μ) (sources : List Query.Source) : Except Fault (Collection μ) :=
  sources.foldlM find c

section FindAll

variable {context : Context μ}

theorem findAll_cons (source : Query.Source) (sources : List Query.Source) (c : Collection μ) :
    c.findAll (source :: sources) = (c.find source >>= fun found => found.findAll sources) :=
  List.foldlM_cons

theorem find_find_comm {source source' : Query.Source} (h : context.Accepts source)
    (h' : context.Accepts source') (items : List Value) :
    ∃ both : List Value,
      (find ⟨items, context⟩ source >>= fun found => found.find source') = .ok ⟨both, context⟩ ∧
      (find ⟨items, context⟩ source' >>= fun found => found.find source) =
        .ok ⟨both, context⟩ := by
  obtain ⟨m, hm⟩ := h.exists_matcher
  obtain ⟨m', hm'⟩ := h'.exists_matcher
  refine ⟨items.filter fun item => m.holds item && m'.holds item, ?_, ?_⟩
  · rw [find_of_matcher hm]
    change find ⟨items.filter m.holds, context⟩ source' = _
    rw [find_of_matcher hm', List.filter_filter]
    simp only [Bool.and_comm]
  · rw [find_of_matcher hm']
    change find ⟨items.filter m'.holds, context⟩ source = _
    rw [find_of_matcher hm, List.filter_filter]

theorem exists_findAll {sources : List Query.Source}
    (h : ∀ source ∈ sources, context.Accepts source) (items : List Value) :
    ∃ found, findAll ⟨items, context⟩ sources = .ok ⟨found, context⟩ := by
  induction sources generalizing items with
  | nil => exact ⟨items, rfl⟩
  | cons source sources ih =>
    obtain ⟨hsource, hsources⟩ := List.forall_mem_cons.mp h
    obtain ⟨m, hm⟩ := hsource.exists_matcher
    rw [findAll_cons, find_of_matcher hm]
    exact ih hsources _

theorem findAll_perm {sources sources' : List Query.Source} (hperm : sources.Perm sources')
    (h : ∀ source ∈ sources, context.Accepts source) (items : List Value) :
    findAll ⟨items, context⟩ sources = findAll ⟨items, context⟩ sources' := by
  induction hperm generalizing items with
  | nil => rfl
  | cons source _ ih =>
    obtain ⟨hsource, hsources⟩ := List.forall_mem_cons.mp h
    obtain ⟨m, hm⟩ := hsource.exists_matcher
    rw [findAll_cons, findAll_cons, find_of_matcher hm]
    exact ih hsources _
  | swap source source' rest =>
    obtain ⟨hsource', hrest⟩ := List.forall_mem_cons.mp h
    obtain ⟨hsource, -⟩ := List.forall_mem_cons.mp hrest
    obtain ⟨both, hboth, hboth'⟩ := find_find_comm hsource hsource' items
    simp only [findAll_cons, ← bind_assoc, hboth, hboth']
  | trans hfirst _ ih ih' =>
    rw [ih h, ih' fun source hsource => h source (hfirst.mem_iff.mpr hsource)]

end FindAll

end Collection

/-- A query and its complement share out the items. A query that is not accepted fails in every
way of asking, for one reason on all items. Of one that is, the items picked and those not picked
come in the order of the collection, have nothing in common and are the whole collection together;
the first one picked is what a search for one gives; picking again changes nothing, and picks
nothing from the others. Accepted queries may be asked one after the other in any order. All of this
goes for whatever operators the context binds, since what is picked has the same context. -/
theorem query_deals_out_items {μ : Type} (context : Context μ) :
    (∀ source, ¬ context.Accepts source →
      ∃ f, ∀ items, Collection.Refuses ⟨items, context⟩ source f) ∧
    (∀ source, context.Accepts source → ∀ items, ∃ found rest,
      Collection.Complements context source items found rest ∧
        found.Sublist items ∧ rest.Sublist items ∧ found.Disjoint rest ∧
        (found ++ rest).Perm items) ∧
    (∀ source source', context.Accepts source → context.Accepts source' →
      ∀ items, ∃ both : List Value,
        (do (← Collection.find ⟨items, context⟩ source).find source') = .ok ⟨both, context⟩ ∧
        (do (← Collection.find ⟨items, context⟩ source').find source) = .ok ⟨both, context⟩) ∧
    ∀ sources sources' : List Query.Source, sources.Perm sources' →
      (∀ source ∈ sources, context.Accepts source) → ∀ items, ∃ found : List Value,
        Collection.findAll ⟨items, context⟩ sources = .ok ⟨found, context⟩ ∧
        Collection.findAll ⟨items, context⟩ sources' = .ok ⟨found, context⟩ := by
  refine ⟨fun source h => ?_, fun source h items => ?_,
    fun source source' h h' items => Collection.find_find_comm h h' items,
    fun sources sources' hperm h items => ?_⟩
  · obtain ⟨f, hf⟩ := context.exists_error_of_not_accepts h
    exact ⟨f, fun items => Collection.refuses_of_matcher hf⟩
  · obtain ⟨m, hm⟩ := h.exists_matcher
    have hdealt := dealt_filter m.holds items
    exact ⟨_, _, Collection.complements_of_matcher hm items, hdealt.sublist_first,
      hdealt.sublist_second, hdealt.disjoint, hdealt.perm_append⟩
  · obtain ⟨found, hfound⟩ := Collection.exists_findAll h items
    exact ⟨found, hfound, (Collection.findAll_perm hperm h items).symm.trans hfound⟩

/-- An operator of the context's own, over items that come twice and an item that is equal to one of
them and told apart; a second query, and one whose operator is bound to nothing. -/
theorem query_deals_out_items_own_operator :
    let context : Context Unit :=
      ⟨.standard, ⟨[("integer", fun _ field => field.isInteger), ("eq", .eq)]⟩, []⟩
    let source : Query.Source := .document ⟨[("$$n", .document ⟨[("integer", .null)]⟩)]⟩
    let source' : Query.Source := .document ⟨[("n", .signed 1)]⟩
    let x : Value := .document ⟨[("n", .signed 1)]⟩
    let y : Value := .document ⟨[("n", .double ⟨0x3ff0000000000000⟩)]⟩
    let z : Value := .document ⟨[("n", .signed 2)]⟩
    x.equal y = true ∧ context.Accepts source ∧ context.Accepts source' ∧
      Collection.Complements context source [x, y, z, x, .null] [x, z, x] [y, .null] ∧
      Collection.findAll ⟨[x, y, z, x, .null], context⟩ [source, source'] = .ok ⟨[x, x], context⟩ ∧
      Collection.findAll ⟨[x, y, z, x, .null], context⟩ [source', source] = .ok ⟨[x, x], context⟩ ∧
      ∃ f, Collection.Refuses ⟨[x], context⟩
        (.document ⟨[("$$n", .document ⟨[("<", .null)]⟩)]⟩) f := by
  intro context source source' x y z
  obtain ⟨hrefused, hpicked, -, horder⟩ := query_deals_out_items context
  have haccepts : context.Accepts source :=
    ⟨⟨[("n", .operators [("integer", .null)])]⟩, by cbv, by decide⟩
  have haccepts' : context.Accepts source' := ⟨⟨[("n", .literal (.signed 1))]⟩, by cbv, by decide⟩
  have hunbound : ¬ context.Accepts (.document ⟨[("$$n", .document ⟨[("<", .null)]⟩)]⟩) := by
    rintro ⟨q, hq, hbound⟩
    have hread : Query.Source.read context.settings.marker
        (.document ⟨[("$$n", .document ⟨[("<", .null)]⟩)]⟩) =
        .ok ⟨[("n", .operators [("<", .null)])]⟩ := by cbv
    cases hread.symm.trans hq
    exact absurd (hbound "<" (by decide)) (by decide)
  obtain ⟨found, rest, hcomplements, -⟩ := hpicked source haccepts [x, y, z, x, .null]
  have hfound : Collection.find ⟨[x, y, z, x, .null], context⟩ source =
      .ok ⟨[x, z, x], context⟩ := by cbv
  have hrest : Collection.not ⟨[x, y, z, x, .null], context⟩ source =
      .ok ⟨[y, .null], context⟩ := by cbv
  cases hfound.symm.trans hcomplements.find
  cases hrest.symm.trans hcomplements.not
  obtain ⟨both, hboth, hboth'⟩ := horder [source, source'] [source', source] (.swap _ _ _)
    (by simp [haccepts, haccepts']) [x, y, z, x, .null]
  have hall : Collection.findAll ⟨[x, y, z, x, .null], context⟩ [source, source'] =
      .ok ⟨[x, x], context⟩ := by cbv
  cases hall.symm.trans hboth
  obtain ⟨f, hf⟩ := hrefused _ hunbound
  exact ⟨by cbv, haccepts, haccepts', hcomplements, hboth, hboth', f, hf [x]⟩

end Dossier
