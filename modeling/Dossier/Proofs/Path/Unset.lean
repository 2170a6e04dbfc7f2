import Dossier.Proofs.Path.Congruence
import Dossier.Proofs.Path.Frame

/-! Taking out is reading and a removal. What is returned is what was read, and what is left is the
document written to at the place that held the value, with that place less one entry or one item. So
nothing else moves, and an entry that is put back makes an equal document, in which its key comes
last. -/

namespace Dossier

namespace Entries

variable {α : Type}

theorem erase_eq_filter {es : Entries α} (h : es.keys.Nodup) (key : String) :
    es.erase key = es.filter fun e => e.1 ≠ key := by
  induction es with
  | nil => rfl
  | cons e es ih =>
    obtain ⟨k, v⟩ := e
    obtain ⟨hk, hrest⟩ := List.nodup_cons.mp h
    by_cases hkey : k = key
    · subst hkey
      have hall : ∀ e ∈ es, e.1 ≠ k := fun e he heq => hk (List.mem_map.mpr ⟨e, he, heq⟩)
      have hkept : es.filter (fun e => e.1 ≠ k) = es := by simpa using hall
      rw [erase, if_pos rfl, List.filter_cons_of_neg (by simp), hkept]
    · rw [erase, if_neg hkey, List.filter_cons_of_pos (by simpa using hkey), ih hrest]

end Entries

namespace Value

variable {v w : Value} {before after segments : List String} {last : String}

/-! ### What is left -/

/-- What is left is the value with the place that held what is taken out less that. -/
theorem remainder?_of_follow? {old : Value} (hbefore : v.follow? before = some w)
    (hlast : w.child? last = some old) :
    v.remainder? (before ++ [last]) = some (v.write before (w.dropChild last)) := by
  induction before generalizing v with
  | nil =>
    cases hbefore
    exact remainder?_of_child? hlast
  | cons segment before ih =>
    obtain ⟨c, hc, hrest⟩ := Option.bind_eq_some_iff.mp hbefore
    rw [List.cons_append, remainder?_of_child? hc, ih hrest, Option.elim_some, write, hc,
      Option.getD_some]

/-- A write further on is a write to what stands on the way. -/
theorem write_append (hbefore : v.follow? before = some w) (after : List String) (new : Value) :
    v.write (before ++ after) new = v.write before (w.write after new) := by
  induction before generalizing v with
  | nil =>
    cases hbefore
    rfl
  | cons segment before ih =>
    obtain ⟨c, hc, hrest⟩ := Option.bind_eq_some_iff.mp hbefore
    rw [List.cons_append, write, write, hc, Option.getD_some, ih hrest]

/-! ### What stays -/

/-- Segments that part part on the way to some place, or both come to that place and part from
there. -/
theorem Part.of_append (h : v.Part (before ++ after) segments)
    (hbefore : v.follow? before = some w) :
    v.Part before segments ∨ ∃ same rest, segments = same ++ rest ∧ w.Part after rest ∧
      ∀ x, (v.write before x).follow? same = some x := by
  induction before generalizing v segments with
  | nil =>
    cases hbefore
    exact .inr ⟨[], segments, rfl, h, fun _ => rfl⟩
  | cons segment before ih =>
    obtain ⟨c, hc, hrest⟩ := Option.bind_eq_some_iff.mp hbefore
    cases h with
    | keys hne => exact .inl (.keys hne)
    | items hk hi hl => exact .inl (.items hk hi hl)
    | entry hd h =>
      obtain rfl := Option.some.inj (hc.symm.trans hd)
      rcases ih h hrest with hpart | ⟨same, rest, rfl, hpart, hsame⟩
      · exact .inl (.entry hd hpart)
      · refine .inr ⟨segment :: same, rest, rfl, hpart, fun x => ?_⟩
        rw [write, follow?, child?_setChild, hc, Option.getD_some, Option.bind_some, hsame]
    | @item xs _ l i _ _ _ hk hl hx h =>
      rw [child?_array hk, hx] at hc
      obtain rfl := Option.some.inj hc
      rcases ih h hrest with hpart | ⟨same, rest, rfl, hpart, hsame⟩
      · exact .inl (.item hk hl hx hpart)
      · have hi : i < xs.length := (List.getElem?_eq_some_iff.mp hx).1
        refine .inr ⟨l :: same, rest, rfl, hpart, fun x => ?_⟩
        rw [write, follow?, child?_array hk, hx, setChild_array hk hi, child?_array hl,
          List.getElem?_set_self hi, Option.getD_some, Option.bind_some, hsame]

/-- Where a document on the way loses an entry, nothing that parts from that entry changes. -/
theorem follow?_write_erase {e : Document} (h : v.Part (before ++ [last]) segments)
    (hbefore : v.follow? before = some (document e)) :
    (v.write before (document (e.erase last))).follow? segments = v.follow? segments := by
  rcases h.of_append hbefore with hpart | ⟨same, rest, rfl, hpart, hsame⟩
  · exact follow?_write_of_part hpart _
  · have hthere := hsame (document e)
    rw [write_of_follow? hbefore] at hthere
    rw [follow?_append, follow?_append, hsame, hthere, Option.bind_some, Option.bind_some]
    cases hpart with
    | keys hne =>
      rw [follow?, follow?, child?_document, child?_document, Document.get?_erase_of_ne hne]
    | entry _ hnone => cases hnone

theorem alike_insert_erase {e : Document} (he : e.WellFormed) (hlast : e.get? last = some w) :
    ((e.erase last).insert last w).Alike e := by
  have hkeys : ((e.erase last).insert last w).keys.Nodup :=
    Entries.nodup_keys_insert (Entries.nodup_keys_erase he.nodup_keys last) last w
  refine (alike_document hkeys he.nodup_keys).mpr fun key => ?_
  by_cases h : last = key
  · subst h
    rw [Document.get?_insert_self, hlast]
    exact .some (.refl (he.get? hlast))
  · rw [Document.get?_insert_of_ne h, Document.get?_erase_of_ne h]
    exact Alike.get? (.refl (v := document e) he) key

theorem wellFormed_of_follow? (hv : v.WellFormed) (h : v.follow? segments = some w) :
    w.WellFormed := by
  have hrel := (Alike.refl hv).follow? segments
  rw [h] at hrel
  cases hrel with
  | some halike => exact halike.wellFormed

end Value

namespace PathSyntax

variable {s : PathSyntax} {d e : Document} {path last : String} {before : List String} {v : Value}

/-! ### One path -/

theorem get?_eq_of_follow?_eq {left : Document}
    (h : (Value.document left).follow? (s.split path) = (Value.document d).follow? (s.split path)) :
    s.get? left path = s.get? d path := by
  by_cases hp : path = ""
  · rw [hp]
    rfl
  · rw [get?_of_ne hp, get?_of_ne hp, h]

/-- A path that leads somewhere ends with a key of a document or with the position of an item of an
array. -/
theorem exists_holder (h : s.get? d path = some v) :
    ∃ before last, s.split path = before ++ [last] ∧
      ((∃ e, (Value.document d).follow? before = some (.document e) ∧ e.get? last = some v) ∨
        ∃ as bs, (Value.document d).follow? before = some (.array (as ++ v :: bs)) ∧
          index? last = some as.length) := by
  have hfollow := follow?_of_get? h
  have hconcat := List.dropLast_concat_getLast (s.split_ne_nil path)
  rw [← hconcat, Value.follow?_append] at hfollow
  obtain ⟨w, hw, hlast⟩ := Option.bind_eq_some_iff.mp hfollow
  rw [Value.follow?_singleton] at hlast
  refine ⟨_, _, hconcat.symm, ?_⟩
  rcases w.segment_cases ((s.split path).getLast (s.split_ne_nil path)) with
    ⟨e, rfl⟩ | ⟨xs, i, rfl, hi, hl⟩ | ⟨hnone, -⟩
  · exact .inl ⟨e, hw, hlast⟩
  · rw [Value.child?_array hi] at hlast
    obtain ⟨-, rfl⟩ := List.getElem?_eq_some_iff.mp hlast
    refine .inr ⟨xs.take i, xs.drop (i + 1), ?_, ?_⟩
    · rwa [← List.drop_eq_getElem_cons hl, List.take_append_drop]
    · rw [hi, List.length_take_of_le hl.le]
  · rw [hnone] at hlast
    cases hlast

/-- What is left is the document with the place that held the value less that. -/
theorem document_unset_of_holder {w : Value} (hsplit : s.split path = before ++ [last])
    (hp : path ≠ "") (hbefore : (Value.document d).follow? before = some w)
    (hlast : w.child? last = some v) :
    Value.document (s.unset d path).2 = (Value.document d).write before (w.dropChild last) := by
  have hleft := s.document_unset d hp
  rw [hsplit, Value.remainder?_of_follow? hbefore hlast] at hleft
  exact (Option.some.inj hleft).symm

/-- What it is for an entry to be taken out of a document inside another one: the path to it leads
nowhere any more, the other entries beside it stay in their order, what parts from the path reads as
before, and putting the value back makes an equal document. -/
structure EntryTaken (s : PathSyntax) (d left : Document) (path : String) (before : List String)
    (key : String) (e : Document) (v : Value) : Prop where
  gone : s.get? left path = none
  rest : ∃ e', (Value.document left).follow? before = some (.document e') ∧
    e'.entries = e.entries.filter fun a => a.1 ≠ key
  aside : ∀ other, (Value.document d).Part (s.split path) (s.split other) →
    s.get? left other = s.get? d other
  back : "" ∉ s.split path → ∃ d', s.set left path v = .ok d' ∧ d'.equal d = true

/-- What it is for an item to be taken out of an array inside a document: the items behind it move
down by one, what parts from the array reads as before, and with the array put back the document is
the same. -/
structure ItemTaken (s : PathSyntax) (d left : Document) (before : List String)
    (as bs : List Value) (v : Value) : Prop where
  rest : (Value.document left).follow? before = some (.array (as ++ bs))
  aside : ∀ other, (Value.document d).Part before (s.split other) →
    s.get? left other = s.get? d other
  back : (Value.document left).write before (.array (as ++ v :: bs)) = .document d

theorem entryTaken (hd : d.WellFormed) (hsplit : s.split path = before ++ [last]) (hp : path ≠ "")
    (hbefore : (Value.document d).follow? before = some (.document e))
    (hlast : e.get? last = some v) :
    s.EntryTaken d (s.unset d path).2 path before last e v := by
  have he : e.WellFormed := Value.wellFormed_of_follow? (v := .document d) hd hbefore
  have hleft := document_unset_of_holder hsplit hp hbefore hlast
  have hthere : (Value.document (s.unset d path).2).follow? before =
      some (.document (e.erase last)) := by
    rw [hleft]
    exact Value.follow?_write _ before _
  constructor
  · rw [get?_of_ne hp, hsplit, Value.follow?_append, hthere, Option.bind_some,
      Value.follow?_singleton]
    exact Document.get?_erase_self he.nodup_keys last
  · exact ⟨_, hthere, Entries.erase_eq_filter he.nodup_keys last⟩
  · intro other hpart
    rw [hsplit] at hpart
    refine get?_eq_of_follow?_eq ?_
    rw [hleft]
    exact Value.follow?_write_erase hpart hbefore
  · intro hempty
    refine ⟨writeDocument (s.unset d path).2 (s.split path) v, ?_, ?_⟩
    · rw [set_eq, if_neg hp, if_neg hempty]
    · have halike := (Value.Alike.refl (v := .document d) hd).write before
        (Value.alike_insert_erase he hlast)
      rw [Value.write_of_follow? hbefore] at halike
      rw [← Value.equal_documents, document_writeDocument _ (s.split_ne_nil path), hsplit,
        Value.write_append hthere, hleft, Value.write_write]
      exact halike.equal

theorem itemTaken {as bs : List Value} (hsplit : s.split path = before ++ [last]) (hp : path ≠ "")
    (hbefore : (Value.document d).follow? before = some (.array (as ++ v :: bs)))
    (hlast : index? last = some as.length) :
    s.ItemTaken d (s.unset d path).2 before as bs v := by
  have hchild : (Value.array (as ++ v :: bs)).child? last = some v := by
    simp [Value.child?_array hlast]
  have hdrop : (Value.array (as ++ v :: bs)).dropChild last = .array (as ++ bs) := by
    simp [Value.dropChild, hlast, List.eraseIdx_append_of_length_le]
  have hleft := document_unset_of_holder hsplit hp hbefore hchild
  rw [hdrop] at hleft
  constructor
  · rw [hleft]
    exact Value.follow?_write _ before _
  · intro other hpart
    refine get?_eq_of_follow?_eq ?_
    rw [hleft]
    exact Value.follow?_write_of_part hpart _
  · rw [hleft, Value.write_write]
    exact Value.write_of_follow? hbefore

/-- Taking out is reading and a removal. What is returned is what was read at the path before; where
nothing was, the document is as it was. A value that was an entry of a document is taken from that
document alone, and one that was an item of an array from that array alone. -/
theorem unset_takes_out (s : PathSyntax) {d : Document} (hd : d.WellFormed) (path : String) :
    (s.unset d path).1 = s.get? d path ∧
    (s.get? d path = none → (s.unset d path).2 = d) ∧
    ∀ v, s.get? d path = some v → ∃ before last, s.split path = before ++ [last] ∧
      ((∃ e, (Value.document d).follow? before = some (.document e) ∧ e.get? last = some v ∧
          s.EntryTaken d (s.unset d path).2 path before last e v) ∨
        ∃ as bs, (Value.document d).follow? before = some (.array (as ++ v :: bs)) ∧
          index? last = some as.length ∧ s.ItemTaken d (s.unset d path).2 before as bs v) := by
  refine ⟨s.fst_unset d path, unset_of_get?_eq_none, fun v hv => ?_⟩
  have hp := ne_empty_of_get? hv
  obtain ⟨before, last, hsplit, hholder⟩ := exists_holder hv
  refine ⟨before, last, hsplit, ?_⟩
  rcases hholder with ⟨e, hbefore, hlast⟩ | ⟨as, bs, hbefore, hlast⟩
  · exact .inl ⟨e, hbefore, hlast, entryTaken hd hsplit hp hbefore hlast⟩
  · exact .inr ⟨as, bs, hbefore, hlast, itemTaken hsplit hp hbefore hlast⟩

/-- An entry of a document that is an item of an array, whose position another path spells in
another way, and then an item of that array. -/
theorem unset_takes_out_of_array :
    let s : PathSyntax := {}
    let e : Document := ⟨[("x", .null), ("y", .signed 1), ("z", .bool true)]⟩
    let d : Document := ⟨[("a", .array [.document e, .string "p", .string "q"]), ("b", .null)]⟩
    let left : Document := ⟨[("a", .array [.document ⟨[("x", .null), ("z", .bool true)]⟩,
      .string "p", .string "q"]), ("b", .null)]⟩
    let left' : Document := ⟨[("a", .array [.document e, .string "q"]), ("b", .null)]⟩
    (s.unset d "a.+0.y" = (some (.signed 1), left) ∧ s.get? left "a.+0.y" = none ∧
      s.get? left "a.00.z" = s.get? d "a.00.z" ∧
      ∃ d', s.set left "a.+0.y" (.signed 1) = .ok d' ∧ d'.equal d = true) ∧
    (s.unset d "a.01" = (some (.string "p"), left') ∧ s.get? left' "b" = s.get? d "b" ∧
      (Value.document left').write ["a"] (.array [.document e, .string "p", .string "q"]) =
        .document d) ∧
    s.unset d "a.9.x" = (none, d) := by
  intro s e d left left'
  have hd : d.WellFormed := ⟨by decide, ⟨⟨by decide, trivial, trivial, trivial, trivial⟩, trivial,
    trivial, trivial⟩, trivial, trivial⟩
  obtain ⟨hentry, -, hentries⟩ := unset_takes_out s hd "a.+0.y"
  obtain ⟨hitem, -, hitems⟩ := unset_takes_out s hd "a.01"
  obtain ⟨hnone, hsame, -⟩ := unset_takes_out s hd "a.9.x"
  have hleft : (s.unset d "a.+0.y").2 = left := by cbv
  have hleft' : (s.unset d "a.01").2 = left' := by cbv
  have hmissing : s.get? d "a.9.x" = none := by cbv
  refine ⟨⟨Prod.ext (hentry.trans (by cbv)) hleft, ?_⟩,
    ⟨Prod.ext (hitem.trans (by cbv)) hleft', ?_⟩, Prod.ext (hnone.trans hmissing) (hsame hmissing)⟩
  · obtain ⟨before, last, hsplit, hholder⟩ := hentries (.signed 1) (by cbv)
    obtain ⟨rfl, ⟨⟩⟩ := List.append_inj' ((show ["a", "+0"] ++ ["y"] = s.split "a.+0.y" by cbv).trans
      hsplit) rfl
    have hplace : (Value.document d).follow? ["a", "+0"] = some (.document e) := by cbv
    rcases hholder with ⟨e', -, -, htaken⟩ | ⟨as, bs, hbefore, -⟩
    · have hpart : (Value.document d).Part (s.split "a.+0.y") (s.split "a.00.z") := by
        rw [hsplit, show s.split "a.00.z" = ["a", "00", "z"] by cbv]
        exact .entry rfl (.item rfl rfl rfl (.keys (by decide)))
      rw [hleft] at htaken
      exact ⟨htaken.gone, htaken.aside "a.00.z" hpart, htaken.back (by rw [hsplit]; decide)⟩
    · rw [hplace] at hbefore
      cases hbefore
  · obtain ⟨before, last, hsplit, hholder⟩ := hitems (.string "p") (by cbv)
    obtain ⟨rfl, ⟨⟩⟩ := List.append_inj' ((show ["a"] ++ ["01"] = s.split "a.01" by cbv).trans
      hsplit) rfl
    have hplace : (Value.document d).follow? ["a"] =
        some (.array [.document e, .string "p", .string "q"]) := by cbv
    rcases hholder with ⟨e', hbefore, -⟩ | ⟨as, bs, hbefore, -, htaken⟩
    · rw [hplace] at hbefore
      cases hbefore
    · have hpart : (Value.document d).Part ["a"] (s.split "b") := by
        rw [show s.split "b" = ["b"] by cbv]
        exact .keys (by decide)
      rw [hplace] at hbefore
      rw [hleft'] at htaken
      have hback := htaken.back
      rw [← Value.array.inj (Option.some.inj hbefore)] at hback
      exact ⟨htaken.aside "b" hpart, hback⟩

end PathSyntax

end Dossier
