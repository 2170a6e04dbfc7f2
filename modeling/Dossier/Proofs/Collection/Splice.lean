import Dossier.Collection.Edit
import Mathlib.Data.List.Basic

/-! A splice exchanges a run of items for others. Its bounds are clamped in words, which loses
nothing as long as a collection has no more items than a word counts, and so it is undone by the
splice that puts back what came out. -/

namespace Dossier

namespace Collection

variable {μ : Type} {c : Collection μ} {start count : UInt64} {before removed after : List Value}

theorem toNat_ofNat_min (start : UInt64) (n : Nat) :
    (UInt64.ofNat (min start.toNat n)).toNat = min start.toNat n := by
  refine UInt64.toNat_ofNat_of_lt' ?_
  exact Nat.lt_of_le_of_lt (Nat.min_le_left _ _) start.toNat_lt

/-- The range begins and ends within the collection, and has as many items as asked for, or all that
are left. -/
theorem bounds_eq (hc : c.size < UInt64.size) (start count : UInt64) :
    c.bounds start count =
      (min start.toNat c.size,
        min start.toNat c.size + min count.toNat (c.size - min start.toNat c.size)) := by
  rw [bounds, Saturating.toNat_add, toNat_ofNat_min]
  refine Prod.ext rfl ?_
  change min (min (min start.toNat c.size + count.toNat) (UInt64.size - 1)) c.size = _
  omega

theorem bounds_of_append (hc : c.size < UInt64.size) (h : c.items = before ++ removed ++ after) :
    c.bounds (.ofNat before.length) (.ofNat removed.length) =
      (before.length, before.length + removed.length) := by
  have hsize : c.size = before.length + removed.length + after.length := by
    rw [size, h, List.length_append, List.length_append]
  have hbefore : (UInt64.ofNat before.length).toNat = before.length :=
    UInt64.toNat_ofNat_of_lt' (by omega)
  have hremoved : (UInt64.ofNat removed.length).toNat = removed.length :=
    UInt64.toNat_ofNat_of_lt' (by omega)
  rw [bounds_eq hc, hbefore, hremoved]
  refine Prod.ext ?_ ?_
  · change min before.length c.size = before.length
    omega
  · change min before.length c.size + min removed.length (c.size - min before.length c.size) = _
    omega

/-- The run within the bounds comes out, and what is put in takes its place. -/
theorem splice_of_append (h : c.items = before ++ removed ++ after)
    (hb : c.bounds start count = (before.length, before.length + removed.length))
    (items : List Value) :
    c.splice start count items = (c.collect removed, c.collect (before ++ items ++ after)) := by
  have hstop : (before ++ removed).length = before.length + removed.length := List.length_append
  rw [splice, hb, h]
  refine Prod.ext (congrArg c.collect ?_) (congrArg c.collect ?_)
  · rw [← hstop, List.take_left, List.drop_left]
  · change ((before ++ removed ++ after).take before.length ++ items) ++
      (before ++ removed ++ after).drop (before.length + removed.length) = _
    rw [← hstop, List.drop_left, List.append_assoc before, List.take_left]

end Collection

/-- A splice can be undone. Its bounds, however large the numbers asked for, are a range within the
collection; exactly the items of that range come out, those before and behind it stay as they are,
and the new ones stand between them. Putting back what came out, in place of as many items as were
put in, gives the collection again and returns these. -/
theorem splice_undone {μ : Type} (c : Collection μ) (start count : UInt64) (inserted : List Value)
    (hc : c.size < UInt64.size) :
    let first := min start.toNat c.size
    let number := min count.toNat (c.size - first)
    let removed := (c.splice start count inserted).1
    let left := (c.splice start count inserted).2
    c.bounds start count = (first, first + number) ∧ first + number ≤ c.size ∧
      removed = c.collect ((c.items.drop first).take number) ∧ removed.size = number ∧
      left = c.collect (c.items.take first ++ inserted ++ c.items.drop (first + number)) ∧
      (left.size < UInt64.size →
        left.splice (.ofNat first) (.ofNat inserted.length) removed.items =
          (c.collect inserted, c)) := by
  intro first number removed left
  have hfirst : (c.items.take first).length = first :=
    List.length_take_of_le (Nat.min_le_right _ _)
  have hstop : first + number ≤ c.size := by omega
  have hnumber : ((c.items.drop first).take number).length = number := by
    rw [List.length_take_of_le]
    rw [List.length_drop]
    exact Nat.min_le_right _ _
  have hparts : c.items = c.items.take first ++ (c.items.drop first).take number ++
      c.items.drop (first + number) := by
    rw [List.append_assoc, ← List.drop_drop, List.take_append_drop, List.take_append_drop]
  have hbounds : c.bounds start count = ((c.items.take first).length,
      (c.items.take first).length + ((c.items.drop first).take number).length) := by
    rw [hfirst, hnumber]
    exact Collection.bounds_eq hc start count
  have hsplice := Collection.splice_of_append hparts hbounds inserted
  have hremoved : removed = c.collect ((c.items.drop first).take number) :=
    congrArg Prod.fst hsplice
  have hleft : left = c.collect (c.items.take first ++ inserted ++ c.items.drop (first + number)) :=
    congrArg Prod.snd hsplice
  refine ⟨Collection.bounds_eq hc start count, hstop, hremoved, ?_, hleft, fun hfits => ?_⟩
  · rw [hremoved]
    exact hnumber
  · have hback : left.items = c.items.take first ++ inserted ++ c.items.drop (first + number) :=
      congrArg Collection.items hleft
    have hwhere := Collection.bounds_of_append hfits hback
    rw [hfirst] at hwhere
    have hcollect : ∀ items, left.collect items = c.collect items := fun _ => rfl
    rw [Collection.splice_of_append hback (by rw [hwhere, hfirst]), hcollect, hcollect, hremoved]
    exact congrArg (fun items => (c.collect inserted, c.collect items)) hparts.symm

/-- The largest numbers, which ask for more items than are left, and a splice behind the last item,
which takes none out. -/
theorem splice_undone_at_ends :
    let c : Collection Unit := .new .standard [.null, .bool true, .signed 7]
    let left := (c.splice 1 Saturating.largest [.string "new"]).2
    let longer := (c.splice Saturating.largest Saturating.largest [.string "new"]).2
    c.size < UInt64.size ∧ left.size < UInt64.size ∧ longer.size < UInt64.size ∧
      c.bounds 1 Saturating.largest = (1, 3) ∧
      left.items = [.null, .string "new"] ∧
      left.splice 1 1 [.bool true, .signed 7] = (c.collect [.string "new"], c) ∧
      c.bounds Saturating.largest Saturating.largest = (3, 3) ∧
      longer.items = [.null, .bool true, .signed 7, .string "new"] ∧
      longer.splice 3 1 [] = (c.collect [.string "new"], c) := by
  intro c left longer
  have hc : c.size < UInt64.size := by decide
  obtain ⟨hbounds, -, hremoved, -, hleft, hback⟩ :=
    splice_undone c 1 Saturating.largest [.string "new"] hc
  obtain ⟨hbounds', -, hremoved', -, hlonger, hback'⟩ :=
    splice_undone c Saturating.largest Saturating.largest [.string "new"] hc
  have hfits : left.size < UInt64.size := by decide
  have hfits' : longer.size < UInt64.size := by decide
  have hout : (c.splice 1 Saturating.largest [.string "new"]).1.items = [.bool true, .signed 7] :=
    congrArg Collection.items hremoved
  have hout' : (c.splice Saturating.largest Saturating.largest [.string "new"]).1.items = [] :=
    congrArg Collection.items hremoved'
  rw [hout] at hback
  rw [hout'] at hback'
  exact ⟨hc, hfits, hfits', hbounds, congrArg Collection.items hleft, hback hfits, hbounds',
    congrArg Collection.items hlonger, hback' hfits'⟩

end Dossier
