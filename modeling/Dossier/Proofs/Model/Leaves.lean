import Dossier.Model.Walk
import Dossier.Proofs.Path.Lens
import Dossier.Proofs.Value.Lookup

/-! A document as a tree of keys. Its leaves are the values that are no documents, each named by the
keys that lead to it, and its places are where a walk stops: at a leaf, or at a document that it
does not enter any more. No row of keys to a place goes on from another one, and every leaf is at a
place or below one. -/

namespace Dossier

/-! ### Rows of keys -/

namespace Value

/-- The value that a row of keys leads to through documents. An array on the way leads nowhere: a
difference takes it as one value. -/
def keyed? (v : Value) : List String → Option Value
  | [] => some v
  | key :: rest => (v.document?.bind (·.get? key)).bind (·.keyed? rest)

theorem keyed?_document (d : Document) (key : String) (rest : List String) :
    (document d).keyed? (key :: rest) = (d.get? key).bind (·.keyed? rest) := rfl

theorem exists_document_of_keyed? {v w : Value} {key : String} {rest : List String}
    (h : v.keyed? (key :: rest) = some w) : ∃ d, v = document d := by
  cases v with
  | document d => exact ⟨d, rfl⟩
  | _ => cases h

theorem keyed?_append (v : Value) (as bs : List String) :
    v.keyed? (as ++ bs) = (v.keyed? as).bind (·.keyed? bs) := by
  induction as generalizing v with
  | nil => rfl
  | cons a as ih => cases h : v.document?.bind (·.get? a) <;> simp [keyed?, h, ih]

theorem keyed?_concat {v : Value} {before : List String} {holder : Document}
    (h : v.keyed? before = some (document holder)) (key : String) :
    v.keyed? (before ++ [key]) = holder.get? key := by
  rw [keyed?_append, h, Option.bind_some, keyed?_document]
  exact Option.bind_fun_some (holder.get? key)

theorem follow?_of_keyed? {v w : Value} {keys : List String} (h : v.keyed? keys = some w) :
    v.follow? keys = some w := by
  induction keys generalizing v with
  | nil => exact h
  | cons key rest ih =>
    obtain ⟨d, rfl⟩ := exists_document_of_keyed? h
    rw [keyed?_document] at h
    obtain ⟨c, hc, hrest⟩ := Option.bind_eq_some_iff.mp h
    rw [follow?, child?_document, hc, Option.bind_some, ih hrest]

end Value

theorem Document.nests_of_keyed? {d : Document} {keys : List String} {v : Value}
    (h : (Value.document d).keyed? keys = some v) : ∀ key ∈ keys, ∃ w, d.Nests key w := by
  induction keys generalizing d with
  | nil => nofun
  | cons key rest ih =>
    obtain ⟨c, hc, hrest⟩ := Option.bind_eq_some_iff.mp h
    have hmem := mem_entries_of_get? hc
    refine List.forall_mem_cons.mpr ⟨⟨c, .here hmem⟩, fun k hk => ?_⟩
    cases rest with
    | nil => cases hk
    | cons next rest =>
      obtain ⟨e, rfl⟩ := Value.exists_document_of_keyed? hrest
      obtain ⟨w, hw⟩ := ih hrest k hk
      exact ⟨w, .inner hmem hw⟩

/-! ### Leaves -/

/-- A value that is no document, with the keys that lead to it through documents only. -/
structure Leaf where
  keys : List String
  value : Value

def Leaf.under (key : String) (leaf : Leaf) : Leaf := ⟨key :: leaf.keys, leaf.value⟩

mutual

/-- The leaves of a value: it is one itself unless it is a document. -/
def Value.leaves : Value → List Leaf
  | .document d => d.leaves
  | v => [⟨[], v⟩]

def Document.leaves : Document → List Leaf
  | ⟨es⟩ => Document.leavesOf es

def Document.leavesOf : List (String × Value) → List Leaf
  | [] => []
  | (key, v) :: rest => v.leaves.map (Leaf.under key) ++ Document.leavesOf rest

end

namespace Document

theorem leaves_eq_flatMap (d : Document) :
    d.leaves = d.entries.flatMap fun e => e.2.leaves.map (Leaf.under e.1) := by
  obtain ⟨es⟩ := d
  rw [leaves]
  induction es with
  | nil => rfl
  | cons e es ih => rw [leavesOf, ih, List.flatMap_cons]

end Document

theorem Value.leaves_of_kind_ne {v : Value} (h : v.kind ≠ .document) : v.leaves = [⟨[], v⟩] := by
  cases v with
  | document d => exact absurd rfl h
  | _ => rfl

theorem Document.nests_of_mem_leaves {d : Document} :
    ∀ leaf ∈ d.leaves, leaf.keys ≠ [] ∧ ∀ key ∈ leaf.keys, ∃ v, d.Nests key v := by
  induction d using Document.inductionOn with
  | nested d ih =>
    intro leaf hleaf
    rw [leaves_eq_flatMap, List.mem_flatMap] at hleaf
    obtain ⟨⟨key, v⟩, he, hleaf⟩ := hleaf
    obtain ⟨inner, hinner, rfl⟩ := List.mem_map.mp hleaf
    refine ⟨List.cons_ne_nil key inner.keys, List.forall_mem_cons.mpr ⟨⟨v, .here he⟩, ?_⟩⟩
    intro k hk
    by_cases hv : v.kind = .document
    · obtain ⟨e, rfl⟩ := Value.exists_of_kind_document hv
      obtain ⟨w, hw⟩ := (ih key e he inner hinner).2 k hk
      exact ⟨w, .inner he hw⟩
    · rw [Value.leaves_of_kind_ne hv, List.mem_singleton] at hinner
      simp [hinner] at hk

/-! ### Places -/

/-- Where a walk stops: the keys to the document that holds the value there, the key under which it
does, and both of them. -/
structure Place where
  before : List String
  key : String
  value : Value
  holder : Document

namespace Place

def keys (p : Place) : List String := p.before ++ [p.key]

def under (key : String) (p : Place) : Place := { p with before := key :: p.before }

@[simp] theorem keys_under (key : String) (p : Place) : (p.under key).keys = key :: p.keys := rfl

@[simp] theorem length_keys (p : Place) : p.keys.length = p.before.length + 1 := by
  simp [keys]

theorem under_inj {k l : String} {p q : Place} : p.under k = q.under l ↔ k = l ∧ p = q := by
  obtain ⟨before, key, v, holder⟩ := p
  obtain ⟨before', key', v', holder'⟩ := q
  simp [under, and_assoc]

/-- A place as the leaf that it is if its value is no document. -/
def leaf (p : Place) : Leaf := ⟨p.keys, p.value⟩

end Place

mutual

/-- The places of a document for a walk that enters so many levels of documents more, or all. -/
def Document.places (levels : Option Nat) : Document → List Place
  | ⟨es⟩ => Document.placesOf levels ⟨es⟩ es

def Document.placesOf (levels : Option Nat) (holder : Document) :
    List (String × Value) → List Place
  | [] => []
  | (key, v) :: rest => v.placesAt levels holder key ++ Document.placesOf levels holder rest

def Value.placesAt (levels : Option Nat) (holder : Document) (key : String) : Value → List Place
  | .document d =>
    if levels = some 0 then [⟨[], key, .document d, holder⟩]
    else (d.places (levels.map (· - 1))).map (Place.under key)
  | v => [⟨[], key, v, holder⟩]

end

theorem Document.places_eq_flatMap (levels : Option Nat) (d : Document) :
    d.places levels = d.entries.flatMap fun e => e.2.placesAt levels d e.1 := by
  have hentries (holder : Document) (es : List (String × Value)) :
      placesOf levels holder es = es.flatMap fun e => e.2.placesAt levels holder e.1 := by
    induction es with
    | nil => rfl
    | cons e es ih => rw [placesOf, ih, List.flatMap_cons]
  obtain ⟨es⟩ := d
  exact hentries ⟨es⟩ es

theorem Value.placesAt_of_kind_ne {v : Value} (h : v.kind ≠ .document) (levels : Option Nat)
    (holder : Document) (key : String) : v.placesAt levels holder key = [⟨[], key, v, holder⟩] := by
  cases v with
  | document d => exact absurd rfl h
  | _ => rfl

theorem Value.mem_placesAt_iff {v : Value} {levels : Option Nat} {holder : Document} {key : String}
    {p : Place} :
    p ∈ v.placesAt levels holder key ↔
      (p = ⟨[], key, v, holder⟩ ∧ (v.kind = .document → levels = some 0)) ∨
      ∃ d, v = .document d ∧ levels ≠ some 0 ∧
        ∃ q ∈ d.places (levels.map (· - 1)), q.under key = p := by
  by_cases hv : v.kind = .document
  · obtain ⟨d, rfl⟩ := Value.exists_of_kind_document hv
    rw [placesAt]
    by_cases hlevels : levels = some 0 <;> simp [hlevels, kind]
  · rw [placesAt_of_kind_ne hv, List.mem_singleton]
    have hnone : ∀ d, v ≠ .document d := fun d hd => hv (hd ▸ rfl)
    simp [hv, hnone]

namespace Document

variable {d : Document} {levels : Option Nat} {p q : Place}

theorem mem_places_nil_iff (hd : d.keys.Nodup) {key : String} {v : Value} {holder : Document} :
    ⟨[], key, v, holder⟩ ∈ d.places levels ↔
      holder = d ∧ d.get? key = some v ∧ (v.kind = .document → levels = some 0) := by
  rw [places_eq_flatMap, List.mem_flatMap, get?_eq_some_iff hd]
  constructor
  · rintro ⟨⟨_, w⟩, he, hmem⟩
    rcases Value.mem_placesAt_iff.mp hmem with ⟨⟨⟩, hlevels⟩ | ⟨_, _, _, _, _, ⟨⟩⟩
    exact ⟨rfl, he, hlevels⟩
  · rintro ⟨rfl, he, hlevels⟩
    exact ⟨(key, v), he, Value.mem_placesAt_iff.mpr (.inl ⟨rfl, hlevels⟩)⟩

/-- The places further down are those of the documents under the keys, for one level less. -/
theorem under_mem_places_iff (hd : d.keys.Nodup) {k : String} :
    p.under k ∈ d.places levels ↔
      ∃ e, d.get? k = some (.document e) ∧ levels ≠ some 0 ∧
        p ∈ e.places (levels.map (· - 1)) := by
  rw [places_eq_flatMap, List.mem_flatMap]
  constructor
  · rintro ⟨⟨_, w⟩, he, hmem⟩
    rcases Value.mem_placesAt_iff.mp hmem with ⟨⟨⟩, _⟩ | ⟨e, rfl, hlevels, q, hq, heq⟩
    obtain ⟨rfl, rfl⟩ := Place.under_inj.mp heq
    exact ⟨e, (get?_eq_some_iff hd).mpr he, hlevels, hq⟩
  · rintro ⟨e, hget, hlevels, hp⟩
    exact ⟨(k, .document e), mem_entries_of_get? hget,
      Value.mem_placesAt_iff.mpr (.inr ⟨e, rfl, hlevels, p, hp, rfl⟩)⟩

/-- The places are the entries of the documents that the walk enters, but for the documents among
them, which are places only when they lie as deep as the walk goes. -/
theorem mem_places_iff (hd : d.WellFormed) :
    p ∈ d.places levels ↔
      (Value.document d).keyed? p.before = some (.document p.holder) ∧
      p.holder.get? p.key = some p.value ∧
      (p.value.kind = .document → levels = some p.before.length) ∧
      ∀ most, levels = some most → p.before.length ≤ most := by
  obtain ⟨before, key, v, holder⟩ := p
  dsimp only
  induction before generalizing d levels with
  | nil =>
    rw [mem_places_nil_iff hd.nodup_keys]
    constructor
    · rintro ⟨rfl, hget, hlevels⟩
      exact ⟨rfl, hget, hlevels, fun _ _ => Nat.zero_le _⟩
    · rintro ⟨⟨⟩, hget, hlevels, -⟩
      exact ⟨rfl, hget, hlevels⟩
  | cons k before ih =>
    change Place.under k ⟨before, key, v, holder⟩ ∈ d.places levels ↔ _
    rw [under_mem_places_iff hd.nodup_keys, Value.keyed?_document, List.length_cons]
    constructor
    · rintro ⟨e, hget, hlevels, hmem⟩
      obtain ⟨hkeyed, hholder, hkind, hmost⟩ := (ih (hd.get? hget)).mp hmem
      rw [hget, Option.bind_some]
      refine ⟨hkeyed, hholder, ?_⟩
      rcases levels with - | - | most <;> grind
    · rintro ⟨hkeyed, hholder, hkind, hmost⟩
      obtain ⟨c, hget, hrest⟩ := Option.bind_eq_some_iff.mp hkeyed
      have hdocument : ∃ e, c = .document e := by
        cases before with
        | nil => exact ⟨_, Option.some.inj hrest⟩
        | cons next before => exact Value.exists_document_of_keyed? hrest
      obtain ⟨e, rfl⟩ := hdocument
      refine ⟨e, hget, ?_, (ih (hd.get? hget)).mpr ⟨hrest, hholder, ?_⟩⟩
      · rintro rfl
        exact absurd (hmost 0 rfl) (by omega)
      · rcases levels with - | - | most <;> grind

/-- A row of keys leads to one place at most. -/
theorem place_unique (hd : d.WellFormed) (hp : p ∈ d.places levels) (hq : q ∈ d.places levels)
    (hkeys : p.keys = q.keys) : p = q := by
  obtain ⟨hpbefore, hpkey, -, -⟩ := (mem_places_iff hd).mp hp
  obtain ⟨hqbefore, hqkey, -, -⟩ := (mem_places_iff hd).mp hq
  obtain ⟨before, key, v, holder⟩ := p
  obtain ⟨before', key', v', holder'⟩ := q
  obtain ⟨rfl, heq⟩ := List.append_inj' hkeys rfl
  obtain rfl := List.singleton_inj.mp heq
  obtain rfl := Value.document.inj (Option.some.inj (hpbefore.symm.trans hqbefore))
  obtain rfl := Option.some.inj (hpkey.symm.trans hqkey)
  rfl

end Document

theorem Value.exists_keys_of_mem_placesAt {v : Value} {levels : Option Nat} {holder : Document}
    {key : String} {p : Place} (h : p ∈ v.placesAt levels holder key) :
    ∃ rest, p.keys = key :: rest := by
  rcases mem_placesAt_iff.mp h with ⟨rfl, -⟩ | ⟨_, _, _, q, -, rfl⟩
  · exact ⟨[], rfl⟩
  · exact ⟨q.keys, rfl⟩

namespace Document

variable {d : Document} {levels : Option Nat}

/-- No row of keys to a place goes on from another one. -/
theorem pairwise_places (hd : d.WellFormed) :
    (d.places levels).Pairwise fun p q => ¬ p.keys <+: q.keys ∧ ¬ q.keys <+: p.keys := by
  induction d using inductionOn generalizing levels with
  | nested d ih =>
    rw [places_eq_flatMap, List.pairwise_flatMap]
    constructor
    · rintro ⟨key, v⟩ he
      by_cases hv : v.kind = .document
      · obtain ⟨e, rfl⟩ := Value.exists_of_kind_document hv
        have he' := hd.get? ((get?_eq_some_iff hd.nodup_keys).mpr he)
        rw [Value.placesAt]
        split
        · exact List.pairwise_singleton _ _
        · rw [List.pairwise_map]
          refine (ih key e he he').imp fun hpq => ?_
          simpa [List.cons_prefix_cons] using hpq
      · rw [Value.placesAt_of_kind_ne hv]
        exact List.pairwise_singleton _ _
    · -- Two entries have two keys, and these come first.
      have hkeys : d.entries.Pairwise fun e f => e.1 ≠ f.1 := List.pairwise_map.mp hd.nodup_keys
      refine hkeys.imp fun hne p hp q hq => ?_
      obtain ⟨_, hpkeys⟩ := Value.exists_keys_of_mem_placesAt hp
      obtain ⟨_, hqkeys⟩ := Value.exists_keys_of_mem_placesAt hq
      rw [hpkeys, hqkeys, List.cons_prefix_cons, List.cons_prefix_cons]
      exact ⟨fun h => hne h.1, fun h => hne h.1.symm⟩

/-- A walk without a limit stops at the leaves, in their order. -/
theorem map_leaf_places (d : Document) : (d.places none).map Place.leaf = d.leaves := by
  induction d using inductionOn with
  | nested d ih =>
    rw [places_eq_flatMap, leaves_eq_flatMap, List.map_flatMap]
    refine List.flatMap_congr fun ⟨key, v⟩ he => ?_
    by_cases hv : v.kind = .document
    · obtain ⟨e, rfl⟩ := Value.exists_of_kind_document hv
      rw [Value.placesAt, if_neg (by simp), Value.leaves, ← ih key e he, List.map_map,
        List.map_map]
      rfl
    · rw [Value.placesAt_of_kind_ne hv, Value.leaves_of_kind_ne hv]
      rfl

theorem exists_holder_of_keyed? {before after : List String} {key : String} {v : Value}
    (h : (Value.document d).keyed? (before ++ key :: after) = some v) :
    ∃ holder w, (Value.document d).keyed? before = some (.document holder) ∧
      holder.get? key = some w ∧ w.keyed? after = some v := by
  rw [Value.keyed?_append] at h
  obtain ⟨u, hu, hrest⟩ := Option.bind_eq_some_iff.mp h
  obtain ⟨holder, rfl⟩ := Value.exists_document_of_keyed? hrest
  obtain ⟨w, hw, hafter⟩ := Option.bind_eq_some_iff.mp hrest
  exact ⟨holder, w, hu, hw, hafter⟩

theorem mem_leaves_iff (hd : d.WellFormed) {leaf : Leaf} :
    leaf ∈ d.leaves ↔
      (Value.document d).keyed? leaf.keys = some leaf.value ∧ leaf.value.kind ≠ .document := by
  rw [← map_leaf_places, List.mem_map]
  constructor
  · rintro ⟨p, hp, rfl⟩
    obtain ⟨hbefore, hkey, hkind, -⟩ := (mem_places_iff hd).mp hp
    exact ⟨(Value.keyed?_concat hbefore p.key).trans hkey, fun hv => nomatch hkind hv⟩
  · rintro ⟨hkeyed, hv⟩
    obtain ⟨keys, v⟩ := leaf
    rcases keys.eq_nil_or_concat with rfl | ⟨before, key, rfl⟩
    · obtain rfl := Option.some.inj hkeyed
      exact absurd rfl hv
    · rw [List.concat_eq_append] at hkeyed ⊢
      obtain ⟨holder, w, hbefore, hkey, ⟨⟩⟩ := exists_holder_of_keyed? hkeyed
      exact ⟨⟨before, key, v, holder⟩,
        (mem_places_iff hd).mpr ⟨hbefore, hkey, fun h => absurd h hv, nofun⟩, rfl⟩

/-- Under a limit a leaf is at a place if that lies no deeper than the limit. -/
theorem exists_place_of_leaf (hd : d.WellFormed) {most : Nat} {leaf : Leaf} (h : leaf ∈ d.leaves)
    (hlength : leaf.keys.length ≤ most + 1) : ∃ p ∈ d.places (some most), p.leaf = leaf := by
  rw [← map_leaf_places, List.mem_map] at h
  obtain ⟨p, hp, rfl⟩ := h
  obtain ⟨hbefore, hkey, hkind, -⟩ := (mem_places_iff hd).mp hp
  refine ⟨p, (mem_places_iff hd).mpr ⟨hbefore, hkey, fun hv => ?_, ?_⟩, rfl⟩
  · cases hkind hv
  · rintro _ ⟨⟩
    simpa [Place.leaf] using hlength

/-- Under a limit a leaf is below one place if that lies deeper than the limit. -/
theorem exists_place_above_leaf (hd : d.WellFormed) {most : Nat} {leaf : Leaf}
    (h : leaf ∈ d.leaves) (hlength : most + 1 < leaf.keys.length) :
    ∃! p, p ∈ d.places (some most) ∧ p.keys.length = most + 1 ∧ p.keys <+: leaf.keys := by
  obtain ⟨keys, v⟩ := leaf
  obtain ⟨hkeyed, -⟩ := (mem_leaves_iff hd).mp h
  dsimp only at hlength hkeyed ⊢
  -- The keys are cut behind as many as the walk takes at most.
  obtain ⟨before, key, next, after, rfl, hbefore⟩ :
      ∃ before key next after, keys = before ++ key :: next :: after ∧ before.length = most := by
    refine ⟨keys.take most, keys[most], keys[most + 1], keys.drop (most + 2), ?_, by simp; omega⟩
    rw [← List.drop_eq_getElem_cons, ← List.drop_eq_getElem_cons, List.take_append_drop]
  obtain ⟨holder, w, hholder, hkey, hnext⟩ := exists_holder_of_keyed? hkeyed
  have hplace : ⟨before, key, w, holder⟩ ∈ d.places (some most) := by
    refine (mem_places_iff hd).mpr ⟨hholder, hkey, fun _ => congrArg some hbefore.symm, ?_⟩
    rintro _ ⟨⟩
    exact hbefore.le
  refine ⟨⟨before, key, w, holder⟩, ⟨hplace, by simp [hbefore], ?_⟩, ?_⟩
  · exact ⟨next :: after, by simp [Place.keys]⟩
  · rintro q ⟨hq, hqlength, hqprefix⟩
    have hbegins : before ++ [key] <+: before ++ key :: next :: after := ⟨next :: after, by simp⟩
    have hsame : q.keys.length = (before ++ [key]).length := by
      rw [hqlength, List.length_append, hbefore, List.length_singleton]
    have hkeys := (List.prefix_of_prefix_length_le hqprefix hbegins hsame.le).eq_of_length hsame
    exact place_unique hd hq hplace hkeys

end Document

end Dossier
