import Dossier.Collection.Page
import Mathlib.Data.List.Basic
import Mathlib.Tactic.Ring

/-! Pages cut a collection into consecutive runs of one length. The numbers of a page are words, and
what they are multiplied and added up to may be more than a word holds; as a collection has no more
items than a word counts, that never shows. Going on from page to page ends and meets every item
once. -/

namespace Dossier

theorem toNat_max (a b : UInt64) : (max a b).toNat = max a.toNat b.toNat := by
  change (if a ≤ b then b else a).toNat = _
  split_ifs with h
  · exact (Nat.max_eq_right h).symm
  · rw [UInt64.le_iff_toNat_le] at h
    omega

theorem drop_min {α : Type} {xs : List α} {n : Nat} (h : xs.length ≤ n) (i : Nat) :
    xs.drop (min i n) = xs.drop i := by
  rcases Nat.le_total i n with hi | hi
  · rw [Nat.min_eq_left hi]
  · rw [Nat.min_eq_right hi, List.drop_eq_nil_of_le h, List.drop_eq_nil_of_le (h.trans hi)]

namespace Collection

variable {μ : Type}

/-! ### Chunks -/

/-- The piece at a position begins that many lengths on, where there are any items left. -/
theorem getElem?_pieces (size : Nat) (items : List Value) (i : Nat) :
    (pieces size items)[i]? =
      if i * (size + 1) < items.length then some ((items.drop (i * (size + 1))).take (size + 1))
      else none := by
  fun_induction pieces size items generalizing i with
  | case1 => simp
  | case2 item rest ih =>
    cases i with
    | zero => simp
    | succ i =>
      have hbegin : (i + 1) * (size + 1) = size + i * (size + 1) + 1 := by ring
      have hleft : i * (size + 1) < rest.length - size ↔
          size + i * (size + 1) + 1 < rest.length + 1 := by omega
      rw [List.getElem?_cons_succ, ih, List.length_drop, List.drop_drop, hbegin,
        List.drop_succ_cons, List.length_cons]
      simp only [hleft]

theorem getElem?_chunk (c : Collection μ) (size i : Nat) :
    (c.chunk size).items[i]? =
      if i * max size 1 < c.size then
        some (.array ((c.items.drop (i * max size 1)).take (max size 1)))
      else none := by
  have hsize : size - 1 + 1 = max size 1 := by omega
  rw [chunk, collect, List.getElem?_map, getElem?_pieces, hsize, Collection.size]
  split_ifs <;> rfl

/-! ### One page -/

/-- The place of a page, counted from zero; the number zero counts as one. -/
def pageIndex (page : UInt64) : Nat := page.toNat - 1

/-- How many items a full page holds: one at least, and as many as the settings say unless it is
given. -/
def pageLength (c : Collection μ) (perPage : Option UInt64) : Nat :=
  max (perPage.getD c.context.settings.pageSize).toNat 1

section Page

variable {c : Collection μ} {page next : UInt64} {perPage : Option UInt64}

theorem toNat_page : (c.paginate page perPage).page.toNat = pageIndex page + 1 := by
  change (max page 1).toNat = page.toNat - 1 + 1
  rw [toNat_max, Nat.sub_add_eq_max]
  rfl

theorem toNat_perPage : (c.paginate page perPage).perPage.toNat = c.pageLength perPage :=
  toNat_max _ 1

theorem toNat_pred : ((c.paginate page perPage).page - 1).toNat = pageIndex page := by
  have hone : (1 : UInt64) ≤ (c.paginate page perPage).page := by
    rw [UInt64.le_iff_toNat_le, toNat_page]
    exact Nat.le_add_left _ _
  rw [UInt64.toNat_sub_of_le _ _ hone, toNat_page]
  rfl

theorem prev_paginate :
    (c.paginate page perPage).prev.map UInt64.toNat =
      if 1 < pageIndex page + 1 then some (pageIndex page) else none := by
  have hone : 1 < (c.paginate page perPage).page ↔ 1 < pageIndex page + 1 := by
    rw [UInt64.lt_iff_toNat_lt, toNat_page]
    rfl
  change Option.map _ (if 1 < (c.paginate page perPage).page then
    some ((c.paginate page perPage).page - 1) else none) = _
  simp only [hone]
  split_ifs
  · exact congrArg some toNat_pred
  · rfl

theorem toNat_start :
    (Saturating.mul ((c.paginate page perPage).page - 1)
        (c.paginate page perPage).perPage).toNat =
      min (pageIndex page * c.pageLength perPage) (UInt64.size - 1) := by
  rw [Saturating.toNat_mul, toNat_pred, toNat_perPage]

variable (hc : c.size < UInt64.size)

include hc

theorem items_paginate :
    (c.paginate page perPage).items =
      (c.items.drop (pageIndex page * c.pageLength perPage)).take (c.pageLength perPage) := by
  calc
    (c.paginate page perPage).items
        = (c.items.drop (Saturating.mul ((c.paginate page perPage).page - 1)
            (c.paginate page perPage).perPage).toNat).take
              (c.paginate page perPage).perPage.toNat := rfl
    _ = _ := by rw [toNat_start, toNat_perPage, drop_min (Nat.le_sub_one_of_lt hc)]

theorem next_paginate (page : UInt64) (perPage : Option UInt64) :
    (c.paginate page perPage).next.map UInt64.toNat =
      if (pageIndex page + 1) * c.pageLength perPage < c.size then some (pageIndex page + 2)
      else none := by
  have hlength : 1 ≤ c.pageLength perPage := Nat.le_max_right _ _
  have hnumber : pageIndex page + 1 ≤ (pageIndex page + 1) * c.pageLength perPage :=
    Nat.le_mul_of_pos_right _ hlength
  have hleft : (c.paginate page perPage).perPage.toNat < c.size -
        (Saturating.mul ((c.paginate page perPage).page - 1)
          (c.paginate page perPage).perPage).toNat ↔
      (pageIndex page + 1) * c.pageLength perPage < c.size := by
    rw [toNat_start, toNat_perPage, Nat.succ_mul]
    omega
  change Option.map _ (if (c.paginate page perPage).perPage.toNat < c.size -
      (Saturating.mul ((c.paginate page perPage).page - 1)
        (c.paginate page perPage).perPage).toNat then
    some ((c.paginate page perPage).page + 1) else none) = _
  simp only [hleft]
  split_ifs with hmore
  · have hfits : (c.paginate page perPage).page.toNat + (1 : UInt64).toNat < UInt64.size := by
      rw [toNat_page]
      exact (Nat.succ_le_succ hnumber).trans_lt (Nat.lt_of_le_of_lt hmore hc)
    rw [Option.map_some, UInt64.toNat_add, Nat.mod_eq_of_lt hfits, toNat_page]
    rfl
  · rfl

theorem next_eq_none_iff :
    (c.paginate page perPage).next = none ↔
      c.size ≤ (pageIndex page + 1) * c.pageLength perPage := by
  rw [← Option.map_eq_none_iff (f := UInt64.toNat), next_paginate hc]
  split_ifs with hmore <;> simp [hmore, Nat.le_of_not_lt]

theorem pageIndex_next (h : (c.paginate page perPage).next = some next) :
    pageIndex next = pageIndex page + 1 := by
  have hnext := next_paginate hc page perPage
  rw [h, Option.map_some] at hnext
  split_ifs at hnext
  rw [pageIndex, Option.some.inj hnext]
  rfl

end Page

/-! ### From page to page -/

/-- The pages met from a number on by going from each page to the one that it names as the next, up
to one that names none. -/
inductive Turns (c : Collection μ) (perPage : Option UInt64) : UInt64 → List Page → Prop
  | last {page : UInt64} (hlast : (c.paginate page perPage).next = none) :
      Turns c perPage page [c.paginate page perPage]
  | turn {page next : UInt64} {pages : List Page}
      (hnext : (c.paginate page perPage).next = some next) (rest : Turns c perPage next pages) :
      Turns c perPage page (c.paginate page perPage :: pages)

section Turns

variable {c : Collection μ} {page : UInt64} {perPage : Option UInt64} {pages : List Page}
  (hc : c.size < UInt64.size)

include hc

/-- The pages met are numbered without a gap. -/
theorem Turns.numbers (h : c.Turns perPage page pages) :
    pages.map (fun p => p.page.toNat) = List.range' (pageIndex page + 1) pages.length := by
  induction h with
  | last hlast => simp [toNat_page]
  | turn hnext rest ih =>
    rw [List.map_cons, ih, pageIndex_next hc hnext, toNat_page, List.length_cons,
      List.range'_succ]

/-- The pages met hold all items from the first of them on. -/
theorem Turns.items (h : c.Turns perPage page pages) :
    pages.flatMap Page.items = c.items.drop (pageIndex page * c.pageLength perPage) := by
  induction h with
  | @last page hlast =>
    have hend : (c.items.drop (pageIndex page * c.pageLength perPage)).length ≤
        c.pageLength perPage := by
      rw [next_eq_none_iff hc, Nat.succ_mul] at hlast
      rw [List.length_drop]
      exact Nat.sub_le_of_le_add ((Nat.add_comm _ _).symm ▸ hlast)
    rw [List.flatMap_singleton, items_paginate hc, List.take_of_length_le hend]
  | @turn page next pages hnext rest ih =>
    rw [List.flatMap_cons, ih, pageIndex_next hc hnext, items_paginate hc, Nat.succ_mul,
      ← List.drop_drop, List.take_append_drop]

/-- Going on ends, since there are fewer items behind each page that is turned to. -/
theorem exists_turns (perPage : Option UInt64) (page : UInt64) :
    ∃ pages, c.Turns perPage page pages := by
  induction hleft : c.size - (pageIndex page + 1) using Nat.strong_induction_on
    generalizing page with
  | _ left ih =>
    cases hnext : (c.paginate page perPage).next with
    | none => exact ⟨_, .last hnext⟩
    | some next =>
      have hlength : 1 ≤ c.pageLength perPage := Nat.le_max_right _ _
      have hmore : (pageIndex page + 1) * c.pageLength perPage < c.size := by
        rw [← Nat.not_le, ← next_eq_none_iff hc, hnext]
        exact Option.some_ne_none next
      have hnumber : pageIndex page + 1 < c.size :=
        (Nat.le_mul_of_pos_right _ hlength).trans_lt hmore
      obtain ⟨pages, hpages⟩ := ih _ (by rw [pageIndex_next hc hnext]; omega) next rfl
      exact ⟨_, .turn hnext hpages⟩

end Turns

end Collection

/-- Pages cover a collection. With its number and its length taken as one at least, a page holds the
items from where the pages before it end up to where it ends itself; it names the page before it
exactly when it is not the first one, and the page behind it exactly when items lie there; and it is
the chunk of its place, or empty where there is none. Going on from the first page ends, meets the
pages in the order of their numbers, and meets all items in their order. No number that comes up is
cut short. -/
theorem pages_cover_items {μ : Type} (c : Collection μ) (perPage : Option UInt64)
    (hc : c.size < UInt64.size) :
    let given := (perPage.getD c.context.settings.pageSize).toNat
    let length := max given 1
    (∀ page : UInt64,
      let number := max page.toNat 1
      let p := c.paginate page perPage
      p.page.toNat = number ∧ p.perPage.toNat = length ∧
        p.items = (c.items.take (number * length)).drop ((number - 1) * length) ∧
        p.next.map UInt64.toNat = (if number * length < c.size then some (number + 1) else none) ∧
        p.prev.map UInt64.toNat = (if 1 < number then some (number - 1) else none) ∧
        (number ≤ (c.chunk given).size →
          (c.chunk given).get? (number - 1) = some (.array p.items)) ∧
        ((c.chunk given).size < number → p.items = [])) ∧
      (∃ pages, c.Turns perPage 1 pages) ∧
      ∀ pages, c.Turns perPage 1 pages →
        pages.map (fun p => p.page.toNat) = List.range' 1 pages.length ∧
          pages.flatMap Page.items = c.items := by
  intro given length
  refine ⟨fun page => ?_, Collection.exists_turns hc perPage 1, fun pages hpages => ?_⟩
  · intro number p
    have hnumber : number = Collection.pageIndex page + 1 := (Nat.sub_add_eq_max _ _).symm
    rw [hnumber, Nat.add_sub_cancel]
    have hitems : p.items = (c.items.drop (Collection.pageIndex page * length)).take length :=
      Collection.items_paginate hc
    have hchunk := c.getElem?_chunk given (Collection.pageIndex page)
    refine ⟨Collection.toNat_page, Collection.toNat_perPage, ?_,
      Collection.next_paginate hc page perPage, Collection.prev_paginate, fun hthere => ?_,
      fun hbeyond => ?_⟩
    · rw [hitems, List.drop_take, Nat.succ_mul, Nat.add_sub_cancel_left]
    · have hsome : (c.chunk given).items[Collection.pageIndex page]? ≠ none := by
        rw [Ne, List.getElem?_eq_none_iff, Nat.not_le]
        exact hthere
      rw [hchunk] at hsome
      rw [hitems, Collection.get?, hchunk, if_pos (ite_ne_right_iff.mp hsome).1]
    · have hnone : (c.chunk given).items[Collection.pageIndex page]? = none :=
        List.getElem?_eq_none (Nat.le_of_lt_succ hbeyond)
      rw [hchunk] at hnone
      have hend : c.size ≤ Collection.pageIndex page * length := by
        by_contra hmore
        rw [if_pos (Nat.lt_of_not_le hmore)] at hnone
        cases hnone
      rw [hitems, List.drop_eq_nil_of_le hend, List.take_nil]
  · have hitems := hpages.items hc
    have hfirst : Collection.pageIndex 1 = 0 := rfl
    rw [hfirst, Nat.zero_mul, List.drop_zero] at hitems
    exact ⟨hpages.numbers hc, hitems⟩

/-- The number zero and the largest one, of pages of the length that the settings say and of the
longest ones there are; and the way from the first page to the last, which is not full. -/
theorem pages_cover_items_at_ends :
    let c : Collection Unit := ⟨[.null, .bool true, .signed 7], .new { pageSize := 2 }⟩
    let last := c.paginate Saturating.largest (some Saturating.largest)
    c.size < UInt64.size ∧
      (c.paginate 0 none).items = [.null, .bool true] ∧
      (c.paginate 0 none).next.map UInt64.toNat = some 2 ∧
      (c.paginate 0 none).prev.map UInt64.toNat = none ∧
      (c.chunk 2).get? 1 = some (.array (c.paginate 2 none).items) ∧
      last.page.toNat = 18446744073709551615 ∧ last.items = [] ∧
      last.next.map UInt64.toNat = none ∧
      last.prev.map UInt64.toNat = some 18446744073709551614 ∧
      (∃ pages, c.Turns none 1 pages) ∧
      ∀ pages, c.Turns none 1 pages → pages.flatMap Page.items = c.items := by
  intro c last
  have hc : c.size < UInt64.size := by decide
  obtain ⟨hnone, hends, hmet⟩ := pages_cover_items c none hc
  obtain ⟨-, -, hitems, hnext, hprev, -, -⟩ := hnone 0
  obtain ⟨-, -, -, -, -, hchunk, -⟩ := hnone 2
  obtain ⟨hpage, -, -, hlast, hbefore, -, hempty⟩ :=
    (pages_cover_items c (some Saturating.largest) hc).1 Saturating.largest
  have hsize : (c.chunk 2).size = 2 := by cbv
  have hlarge : (c.chunk Saturating.largest.toNat).size = 1 := by cbv
  refine ⟨hc, hitems, hnext, hprev, hchunk hsize.ge, hpage, hempty ?_, hlast, hbefore, hends,
    fun pages hpages => (hmet pages hpages).2⟩
  rw [Option.getD_some, hlarge]
  decide

end Dossier
