import Dossier.Proofs.Path.Removal

/-! Taking out many values at once. Every row of segments is read in the value as it is, and all that
they lead to goes in one pass, with everything else in its order. Taking out one row after the other
comes to the same as long as no row takes an item out of an array that a later row enters at that
item or behind it: there the items have moved down. -/

namespace Dossier

namespace PathSyntax

/-- What is left of the rows that begin with a segment of some kind, behind that segment. -/
def tails (names : String → Bool) (rows : List (List String)) : List (List String) :=
  rows.filterMap fun
    | segment :: rest => if names segment then some rest else none
    | [] => none

def tailsAt (key : String) : List (List String) → List (List String) := tails (· == key)

/-- The rows that go on from a position, however they spell it. -/
def tailsAtIndex (i : Nat) : List (List String) → List (List String) := tails (index? · == some i)

variable {names : String → Bool} {rows : List (List String)}

theorem mem_tails {rest : List String} :
    rest ∈ tails names rows ↔ ∃ segment, names segment = true ∧ segment :: rest ∈ rows := by
  unfold tails
  rw [List.mem_filterMap]
  constructor
  · rintro ⟨row, hrow, heq⟩
    cases row with
    | nil => cases heq
    | cons segment others =>
      obtain ⟨hname, hrest⟩ := (Option.ite_none_right_eq_some ..).mp heq
      exact ⟨segment, hname, Option.some.inj hrest ▸ hrow⟩
  · rintro ⟨segment, hname, hrow⟩
    exact ⟨_, hrow, if_pos hname⟩

theorem mem_tailsAt {key : String} {rest : List String} :
    rest ∈ tailsAt key rows ↔ key :: rest ∈ rows := by
  simp [tailsAt, mem_tails]

theorem mem_tailsAtIndex {i : Nat} {rest : List String} :
    rest ∈ tailsAtIndex i rows ↔ ∃ segment, index? segment = some i ∧ segment :: rest ∈ rows := by
  simp [tailsAtIndex, mem_tails]

@[simp] theorem tails_nil : tails names [] = [] := rfl

theorem tailsAt_append (key : String) (rows more : List (List String)) :
    tailsAt key (rows ++ more) = tailsAt key rows ++ tailsAt key more := List.filterMap_append

theorem tailsAtIndex_append (i : Nat) (rows more : List (List String)) :
    tailsAtIndex i (rows ++ more) = tailsAtIndex i rows ++ tailsAtIndex i more :=
  List.filterMap_append

theorem tails_singleton (segment : String) (rest : List String) :
    tails names [segment :: rest] = if names segment then [rest] else [] := by
  cases h : names segment <;> simp [tails, h]

end PathSyntax

open PathSyntax

mutual

/-- A value without all that rows of segments lead to. -/
def Value.prune (rows : List (List String)) : Value → Value
  | .array xs => .array (Value.pruneItems rows 0 xs)
  | .document d => .document (d.prune rows)
  | v => v

/-- Items of an array from a position on, without those that a row ends at. -/
def Value.pruneItems (rows : List (List String)) (i : Nat) : List Value → List Value
  | [] => []
  | x :: xs =>
    if [] ∈ tailsAtIndex i rows then Value.pruneItems rows (i + 1) xs
    else x.prune (tailsAtIndex i rows) :: Value.pruneItems rows (i + 1) xs

def Document.prune (rows : List (List String)) : Document → Document
  | ⟨es⟩ => ⟨Document.pruneEntries rows es⟩

def Document.pruneEntries (rows : List (List String)) :
    List (String × Value) → List (String × Value)
  | [] => []
  | (key, v) :: rest =>
    if [] ∈ tailsAt key rows then Document.pruneEntries rows rest
    else (key, v.prune (tailsAt key rows)) :: Document.pruneEntries rows rest

end

namespace Value

/-- What is left of a value without all that rows lead to: nothing if one of them ends here. -/
def pruned? (rows : List (List String)) (v : Value) : Option Value :=
  if [] ∈ rows then none else some (v.prune rows)

/-- An entry goes when a row ends at its key, and otherwise keeps what is left of its value. -/
theorem pruneEntries_eq_filterMap (rows : List (List String)) (es : Entries Value) :
    Document.pruneEntries rows es =
      es.filterMap fun e => (e.2.pruned? (tailsAt e.1 rows)).map (e.1, ·) := by
  induction es with
  | nil => rfl
  | cons e es ih =>
    obtain ⟨key, v⟩ := e
    rw [Document.pruneEntries, ih, List.filterMap_cons, pruned?]
    split <;> rfl

theorem pruned?_eq_some_iff {rows : List (List String)} {v w : Value} :
    v.pruned? rows = some w ↔ [] ∉ rows ∧ v.prune rows = w := by
  rw [pruned?, Option.ite_none_left_eq_some, Option.some.injEq]

/-- Whether taking out what the first row leads to changes which item the second row enters: the
first takes an item out of an array, and the second enters that array at this item or behind it. -/
def shifts (v : Value) : List String → List String → Bool
  | k :: ks, l :: ls =>
    match v with
    | array xs =>
      match index? k, index? l with
      | some i, some j =>
        (ks.isEmpty && decide (i ≤ j ∧ j < xs.length)) ||
          (i == j && xs[i]?.any fun x => x.shifts ks ls)
      | _, _ => false
    | document d => k == l && (d.get? k).any fun c => c.shifts ks ls
    | _ => false
  | _, _ => false

theorem shifts_array {xs : List Value} {k l : String} {i j : Nat} (hk : index? k = some i)
    (hl : index? l = some j) (ks ls : List String) :
    (array xs).shifts (k :: ks) (l :: ls) = false ↔
      (ks = [] → i ≤ j → xs.length ≤ j) ∧
        (i = j → ∀ x, xs[i]? = some x → x.shifts ks ls = false) := by
  cases hx : xs[i]? <;> simp [shifts, hk, hl, hx]

theorem shifts_document {d : Document} {key : String} {c : Value} (hc : d.get? key = some c)
    (ks ls : List String) :
    (document d).shifts (key :: ks) (key :: ls) = c.shifts ks ls := by
  simp [shifts, hc]

variable {v c : Value} {rows more : List (List String)} {row : List String}

theorem shifts_eq_false (h : (v.follow? row.dropLast).map kind ≠ some .array)
    (other : List String) : v.shifts row other = false := by
  induction row generalizing v other with
  | nil => simp [shifts]
  | cons k ks ih =>
    cases other with
    | nil => simp [shifts]
    | cons l ls =>
      have hbelow : ks ≠ [] → ∀ c, v.child? k = some c → c.shifts ks ls = false := by
        refine fun hks c hc => ih ?_ ls
        rwa [List.dropLast_cons_of_ne_nil hks, follow?, hc] at h
      have hend : v.kind = .array → ks ≠ [] := by
        rintro hv rfl
        exact h (congrArg some hv)
      cases v with
      | array xs =>
        have hks := hend rfl
        cases hk : index? k with
        | none => simp [shifts, hk]
        | some i =>
          cases hl : index? l with
          | none => simp [shifts, hk, hl]
          | some j =>
            refine (shifts_array hk hl ks ls).mpr ⟨fun hnil => absurd hnil hks, fun _ x hx => ?_⟩
            exact hbelow hks x (by rw [child?_array hk, hx])
      | document d =>
        cases ks with
        | nil => simp [shifts]
        | cons next rest =>
          cases hc : d.get? k with
          | none => simp [shifts, hc]
          | some c => simpa [shifts, hc] using fun _ => hbelow (by simp) c hc
      | _ => rfl

/-! ### What the rows are -/

@[simp] theorem prune_document (rows : List (List String)) (d : Document) :
    (document d).prune rows = document (d.prune rows) := rfl

theorem pruneItems_of_tails {i : Nat} {xs : List Value} (hx : ∀ x ∈ xs, x.prune [] = x)
    (h : ∀ j, i ≤ j → j < i + xs.length → tailsAtIndex j rows = []) :
    pruneItems rows i xs = xs := by
  induction xs generalizing i with
  | nil => rfl
  | cons x xs ih =>
    rw [List.forall_mem_cons] at hx
    rw [pruneItems, h i (Nat.le_refl i) (by simp), if_neg List.not_mem_nil, hx.1,
      ih hx.2 fun j hi hj => h j (by omega) (by simp only [List.length_cons]; omega)]

@[simp] theorem prune_nil (v : Value) : v.prune [] = v := by
  induction v using inductionOn with
  | array xs ih => exact congrArg array (pruneItems_of_tails ih fun _ _ _ => rfl)
  | document d ih =>
    obtain ⟨es⟩ := d
    refine congrArg (fun es => document ⟨es⟩) ?_
    rw [pruneEntries_eq_filterMap, List.filterMap_congr (g := some), List.filterMap_some]
    intro e he
    rw [tailsAt, tails_nil, pruned?, if_neg List.not_mem_nil, ih e he]
    rfl
  | _ => rfl

/-- Only which rows there are matters, not their order or how often they come. -/
theorem prune_congr (v : Value) (h : ∀ row, row ∈ rows ↔ row ∈ more) :
    v.prune rows = v.prune more := by
  induction v using inductionOn generalizing rows more with
  | array xs ih =>
    have hitems : ∀ i, pruneItems rows i xs = pruneItems more i xs := by
      induction xs with
      | nil => exact fun _ => rfl
      | cons x xs ihxs =>
        intro i
        have htails : ∀ rest, rest ∈ tailsAtIndex i rows ↔ rest ∈ tailsAtIndex i more := by
          simp only [mem_tailsAtIndex, h, implies_true]
        rw [List.forall_mem_cons] at ih
        rw [pruneItems, pruneItems, ih.1 htails, ihxs ih.2, if_congr (htails []) rfl rfl]
    exact congrArg array (hitems 0)
  | document d ih =>
    obtain ⟨es⟩ := d
    refine congrArg (fun es => document ⟨es⟩) ?_
    rw [pruneEntries_eq_filterMap, pruneEntries_eq_filterMap]
    refine List.filterMap_congr fun e he => ?_
    have htails : ∀ rest, rest ∈ tailsAt e.1 rows ↔ rest ∈ tailsAt e.1 more := by
      simp only [mem_tailsAt, h, implies_true]
    rw [pruned?, pruned?, ih e he htails, if_congr (htails []) rfl rfl]
  | _ => rfl

/-! ### One row -/

/-- An entry of which the rest of the one row ends here goes, and otherwise what is left of it is put
back. -/
theorem pruneEntries_singleton {es : Entries Value} (hes : es.keys.Nodup) (key : String)
    (rest : List String) :
    Document.pruneEntries [key :: rest] es =
      match es.get? key with
      | some c => (c.pruned? [rest]).elim (es.erase key) (es.insert key)
      | none => es := by
  induction es with
  | nil => rfl
  | cons e es ih =>
    obtain ⟨k, w⟩ := e
    obtain ⟨hk, hrest⟩ := List.nodup_cons.mp hes
    rw [Document.pruneEntries, tailsAt, tails_singleton, ih hrest]
    by_cases hkey : key = k
    · subst hkey
      rw [(Entries.get?_eq_none_iff key es).mpr hk]
      by_cases hend : [] = rest <;>
        simp [pruned?, hend, Entries.get?, Entries.erase, Entries.insert]
    · cases hget : Entries.get? key es with
      | none => simp [hkey, Ne.symm hkey, Entries.get?, hget]
      | some c =>
        cases hc : c.pruned? [rest] <;>
          simp [hkey, Ne.symm hkey, Entries.get?, Entries.erase, Entries.insert, hget, hc]

/-- The same of an item, which is counted from where the items begin. -/
theorem pruneItems_singleton {segment : String} {i n : Nat} (h : index? segment = some (i + n))
    (rest : List String) (xs : List Value) :
    pruneItems [segment :: rest] i xs =
      match xs[n]? with
      | some c => (c.pruned? [rest]).elim (xs.eraseIdx n) (xs.set n)
      | none => xs := by
  induction xs generalizing i n with
  | nil => rfl
  | cons x xs ih =>
    rw [pruneItems, tailsAtIndex, tails_singleton, h]
    cases n with
    | zero =>
      have hbehind : pruneItems [segment :: rest] (i + 1) xs = xs := by
        refine pruneItems_of_tails (fun x _ => prune_nil x) fun j hj _ => ?_
        have hne : i ≠ j := by omega
        simp [tailsAtIndex, tails_singleton, h, hne]
      by_cases hend : [] = rest <;> simp [pruned?, hend, hbehind]
    | succ n =>
      rw [ih (by rw [h, Nat.add_right_comm, Nat.add_assoc])]
      cases hget : xs[n]? with
      | none => simp [hget]
      | some c => cases hc : c.pruned? [rest] <;> simp [hget, hc]

theorem remainder?_eq_pruned? (hv : v.WellFormed) (row : List String) :
    v.remainder? row = v.pruned? [row] := by
  induction row generalizing v with
  | nil => rfl
  | cons segment rest ih =>
    rw [pruned?, if_neg (by simp)]
    cases v with
    | document d =>
      obtain ⟨es⟩ := d
      have hkeys : (Entries.keys es).Nodup := Document.WellFormed.nodup_keys hv
      rw [prune_document, Document.prune, pruneEntries_singleton hkeys]
      cases hget : Entries.get? segment es with
      | none => exact remainder?_of_child?_eq_none hget
      | some c =>
        rw [remainder?_of_child? (v := document ⟨es⟩) hget, ih (Document.WellFormed.get? hv hget)]
        cases hleft : c.pruned? [rest] <;>
          simp [hleft, dropChild, Document.erase, Document.insert]
    | array xs =>
      cases hi : index? segment with
      | none =>
        have hnone : (array xs).child? segment = none := by simp [child?, hi]
        have hsame : pruneItems [segment :: rest] 0 xs = xs := by
          refine pruneItems_of_tails (fun x _ => prune_nil x) fun j _ _ => ?_
          simp [tailsAtIndex, tails_singleton, hi]
        rw [remainder?_of_child?_eq_none hnone, prune, hsame]
      | some n =>
        rw [prune, pruneItems_singleton (by rw [hi, Nat.zero_add])]
        cases hget : xs[n]? with
        | none => exact remainder?_of_child?_eq_none (by rw [child?_array hi, hget])
        | some c =>
          have hchild : (array xs).child? segment = some c := by rw [child?_array hi, hget]
          have hlt : n < xs.length := (List.getElem?_eq_some_iff.mp hget).1
          have hc : c.WellFormed := wellFormed_array.mp hv c (List.mem_of_getElem? hget)
          rw [remainder?_of_child? hchild, ih hc]
          cases hleft : c.pruned? [rest] with
          | none => simp [dropChild, hi, hleft]
          | some x => simp [setChild_array hi hlt, hleft]
    | _ => rfl

/-! ### Row after row -/

theorem wellFormed_prune (hv : v.WellFormed) (rows : List (List String)) :
    (v.prune rows).WellFormed := by
  induction v using inductionOn generalizing rows with
  | array xs ih =>
    rw [wellFormed_array] at hv
    have hitems : ∀ i, ∀ x ∈ pruneItems rows i xs, x.WellFormed := by
      induction xs with
      | nil => nofun
      | cons x xs ihxs =>
        rw [List.forall_mem_cons] at ih hv
        intro i
        rw [pruneItems]
        split
        · exact ihxs ih.2 hv.2 (i + 1)
        · exact List.forall_mem_cons.mpr ⟨ih.1 hv.1 _, ihxs ih.2 hv.2 (i + 1)⟩
    exact wellFormed_array.mpr (hitems 0)
  | document d ih =>
    obtain ⟨hkeys, hvalues⟩ := wellFormed_document.mp hv
    obtain ⟨es⟩ := d
    refine wellFormed_document.mpr ⟨?_, fun e he => ?_⟩
    · refine hkeys.sublist ?_
      change (Entries.keys (Document.pruneEntries rows es)).Sublist (Entries.keys es)
      rw [pruneEntries_eq_filterMap]
      exact Entries.keys_filterMap_sublist (f := fun key => pruned? (tailsAt key rows))
    · change e ∈ Document.pruneEntries rows es at he
      rw [pruneEntries_eq_filterMap, List.mem_filterMap] at he
      obtain ⟨a, ha, heq⟩ := he
      obtain ⟨x, hx, rfl⟩ := Option.map_eq_some_iff.mp heq
      obtain ⟨-, rfl⟩ := pruned?_eq_some_iff.mp hx
      exact ih a ha (hvalues a ha) _
  | _ => trivial

/-- Items taken out of an array by some rows and then by more, counted from `k` in what the first
have left. The items behind one that goes move down, so none of the further rows may enter the array
there. -/
theorem pruneItems_pruneItems {xs : List Value} {i k : Nat}
    (hitem : ∀ (n : Nat) (x : Value), xs[n]? = some x →
      (x.prune (tailsAtIndex (i + n) rows)).prune (tailsAtIndex (i + n) more) =
        x.prune (tailsAtIndex (i + n) rows ++ tailsAtIndex (i + n) more))
    (hgone : ∀ n, [] ∈ tailsAtIndex (i + n) rows →
      ∀ j, i + n ≤ j → j < i + xs.length → tailsAtIndex j more = [])
    (hk : k = i ∨ k < i ∧ ∀ j, k ≤ j → j < i + xs.length → tailsAtIndex j more = []) :
    pruneItems more k (pruneItems rows i xs) = pruneItems (rows ++ more) i xs := by
  induction xs generalizing i k with
  | nil => rfl
  | cons x xs ih =>
    have hnext : ∀ n, i + 1 + n = i + (n + 1) := fun n => by omega
    rw [List.length_cons, ← hnext] at hgone hk
    have hitem' := fun n y (hy : xs[n]? = some y) => hnext n ▸ hitem (n + 1) y hy
    have hgone' : ∀ n, [] ∈ tailsAtIndex (i + 1 + n) rows →
        ∀ j, i + 1 + n ≤ j → j < i + 1 + xs.length → tailsAtIndex j more = [] :=
      fun n => hnext n ▸ hgone (n + 1)
    rw [pruneItems, pruneItems, tailsAtIndex_append]
    by_cases hend : [] ∈ tailsAtIndex i rows
    · rw [if_pos hend, if_pos (List.mem_append_left _ hend)]
      refine ih hitem' hgone' (.inr ⟨by omega, fun j hj hlt => ?_⟩)
      rcases hk with rfl | ⟨-, hk⟩
      · exact hgone 0 hend j hj hlt
      · exact hk j hj hlt
    · rw [if_neg hend, pruneItems]
      rcases hk with rfl | ⟨hlt, hk⟩
      · rw [← Nat.add_zero k, hitem 0 x rfl, Nat.add_zero, ih hitem' hgone' (.inl rfl)]
        simp [hend]
      · rw [hk k (Nat.le_refl k) (by omega), hk i (by omega) (by omega), List.append_nil,
          if_neg List.not_mem_nil, if_neg hend, prune_nil,
          ih hitem' hgone' (.inr ⟨by omega, fun j hj => hk j (by omega)⟩)]

theorem pruned?_bind
    (h : (v.prune rows).prune more = v.prune (rows ++ more)) :
    (v.pruned? rows).bind (·.pruned? more) = v.pruned? (rows ++ more) := by
  by_cases hrows : [] ∈ rows <;> by_cases hmore : [] ∈ more <;> simp [pruned?, hrows, hmore, h]

/-- Taking out some rows and then more is taking all of them out at once, unless one of the first
shifts one of the others. -/
theorem prune_prune (hv : v.WellFormed)
    (h : ∀ row ∈ rows, ∀ other ∈ more, v.shifts row other = false) :
    (v.prune rows).prune more = v.prune (rows ++ more) := by
  induction v using inductionOn generalizing rows more with
  | array xs ih =>
    refine congrArg array (pruneItems_pruneItems (fun n x hx => ?_) (fun n hend j hj hlt => ?_)
      (.inl rfl))
    · have hmem := List.mem_of_getElem? hx
      refine ih x hmem (wellFormed_array.mp hv x hmem) fun row hrow other hother => ?_
      obtain ⟨k, hk, hrow⟩ := mem_tailsAtIndex.mp hrow
      obtain ⟨l, hl, hother⟩ := mem_tailsAtIndex.mp hother
      have hshift := (shifts_array hk hl row other).mp (h _ hrow _ hother)
      exact hshift.2 rfl x (by rwa [Nat.zero_add])
    · refine List.eq_nil_iff_forall_not_mem.mpr fun other hother => ?_
      obtain ⟨k, hk, hrow⟩ := mem_tailsAtIndex.mp hend
      obtain ⟨l, hl, hother⟩ := mem_tailsAtIndex.mp hother
      have hshift := (shifts_array hk hl [] other).mp (h _ hrow _ hother)
      have hbehind := hshift.1 rfl hj
      omega
  | document d ih =>
    obtain ⟨es⟩ := d
    obtain ⟨hkeys, hvalues⟩ := wellFormed_document.mp hv
    refine congrArg (fun es => document ⟨es⟩) ?_
    rw [pruneEntries_eq_filterMap, pruneEntries_eq_filterMap, pruneEntries_eq_filterMap,
      List.filterMap_filterMap]
    refine List.filterMap_congr fun e he => ?_
    have hbelow : ∀ row ∈ tailsAt e.1 rows, ∀ other ∈ tailsAt e.1 more,
        e.2.shifts row other = false := by
      intro row hrow other hother
      have hget : (Document.mk es).get? e.1 = some e.2 := (Document.get?_eq_some_iff hkeys).mpr he
      rw [← shifts_document hget]
      exact h _ (mem_tailsAt.mp hrow) _ (mem_tailsAt.mp hother)
    rw [tailsAt_append, ← pruned?_bind (ih e he (hvalues e he) hbelow), Option.bind_map, Option.map_bind]
    rfl
  | _ => rfl

end Value

end Dossier
