import Dossier.Value.Basic

/-! Induction over values, through arrays and documents, the values inside a value, the entries of
the documents nested in one, and the values in whose documents no key comes twice. Every document
that is made by insertion is of that kind. -/

namespace Dossier

namespace Value

/-- Induction over values: what holds of all items of an array holds of the array, and what holds of
all values in a document holds of the document. -/
@[elab_as_elim]
theorem inductionOn {motive : Value → Prop} (v : Value) (null : motive .null)
    (bool : ∀ b, motive (.bool b)) (number : ∀ n, motive (.number n))
    (string : ∀ s, motive (.string s))
    (array : ∀ xs : List Value, (∀ x ∈ xs, motive x) → motive (.array xs))
    (document : ∀ d : Document, (∀ e ∈ d.entries, motive e.2) → motive (.document d))
    (pattern : ∀ p, motive (.pattern p)) : motive v :=
  @Value.rec motive (fun d => ∀ e ∈ d.entries, motive e.2) (fun xs => ∀ x ∈ xs, motive x)
    (fun es => ∀ e ∈ es, motive e.2) (fun e => motive e.2) null bool number string array document
    pattern (fun _ ih => ih) nofun (fun _ _ hx hxs => List.forall_mem_cons.mpr ⟨hx, hxs⟩) nofun
    (fun _ _ he hes => List.forall_mem_cons.mpr ⟨he, hes⟩) (fun _ _ h => h) v

/-- The values inside a value: itself, and those inside the items of an array or inside the values
of a document. -/
inductive Within (u : Value) : Value → Prop where
  | here : Within u u
  | item {xs : List Value} {x : Value} (hx : x ∈ xs) (h : Within u x) : Within u (.array xs)
  | entry {d : Document} {e : String × Value} (he : e ∈ d.entries) (h : Within u e.2) :
      Within u (.document d)

theorem within_array {u : Value} {xs : List Value} :
    u.Within (array xs) ↔ u = array xs ∨ ∃ x ∈ xs, u.Within x := by
  constructor
  · rintro (_ | ⟨hx, h⟩)
    · exact .inl rfl
    · exact .inr ⟨_, hx, h⟩
  · rintro (rfl | ⟨x, hx, h⟩)
    · exact .here
    · exact .item hx h

theorem within_document {u : Value} {d : Document} :
    u.Within (document d) ↔ u = document d ∨ ∃ e ∈ d.entries, u.Within e.2 := by
  constructor
  · rintro (_ | _ | ⟨he, h⟩)
    · exact .inl rfl
    · exact .inr ⟨_, he, h⟩
  · rintro (rfl | ⟨e, he, h⟩)
    · exact .here
    · exact .entry he h

theorem within_iff_of_kind_ne {u v : Value} (ha : v.kind ≠ .array) (hd : v.kind ≠ .document) :
    u.Within v ↔ u = v := by
  constructor
  · rintro (_ | _ | _)
    · rfl
    · exact absurd rfl ha
    · exact absurd rfl hd
  · rintro rfl
    exact .here

theorem exists_of_kind_document {v : Value} (h : v.kind = .document) : ∃ d, v = document d := by
  cases v with
  | document d => exact ⟨d, rfl⟩
  | _ => cases h

end Value

namespace Document

/-- Induction over documents: what holds of all documents that are values of a document holds of the
document. -/
@[elab_as_elim]
theorem inductionOn {motive : Document → Prop} (d : Document)
    (nested : ∀ d, (∀ key e, (key, Value.document e) ∈ d.entries → motive e) → motive d) :
    motive d := by
  have hvalue : ∀ v d, v = Value.document d → motive d := by
    intro v
    induction v using Value.inductionOn with
    | document d ih =>
      rintro _ ⟨⟩
      exact nested d fun key e he => ih (key, .document e) he e rfl
    | _ => nofun
  exact hvalue (.document d) d rfl

/-- The entries of a document and, at any depth, of the documents that are values in it. What stands
in arrays is not among them. -/
inductive Nests : Document → String → Value → Prop
  | here {d : Document} {key : String} {v : Value} (h : (key, v) ∈ d.entries) : Nests d key v
  | inner {d e : Document} {k key : String} {v : Value} (he : (k, .document e) ∈ d.entries)
      (h : Nests e key v) : Nests d key v

theorem not_nests_nil {key : String} {v : Value} : ¬ Nests ⟨[]⟩ key v := by
  rintro (h | ⟨he, -⟩)
  · cases h
  · cases he

theorem nests_cons_iff {k : String} {w : Value} {es : List (String × Value)} {key : String}
    {v : Value} :
    Nests ⟨(k, w) :: es⟩ key v ↔
      (key = k ∧ v = w) ∨ (∃ e, w = .document e ∧ e.Nests key v) ∨ Nests ⟨es⟩ key v := by
  constructor
  · rintro (h | ⟨he, h⟩)
    · rcases List.mem_cons.mp h with heq | h
      · exact .inl (Prod.mk.inj heq)
      · exact .inr (.inr (.here h))
    · rcases List.mem_cons.mp he with heq | he
      · exact .inr (.inl ⟨_, (Prod.mk.inj heq).2.symm, h⟩)
      · exact .inr (.inr (.inner he h))
  · rintro (⟨rfl, rfl⟩ | ⟨e, rfl, h⟩ | (h | ⟨he, h⟩))
    · exact .here List.mem_cons_self
    · exact .inner List.mem_cons_self h
    · exact .here (List.mem_cons_of_mem _ h)
    · exact .inner (List.mem_cons_of_mem _ he) h

end Document

mutual

/-- Whether no document in a value has a key twice. -/
def Value.WellFormed : Value → Prop
  | .array xs => Value.WellFormedItems xs
  | .document d => d.WellFormed
  | _ => True

def Value.WellFormedItems : List Value → Prop
  | [] => True
  | x :: xs => x.WellFormed ∧ Value.WellFormedItems xs

def Document.WellFormed : Document → Prop
  | ⟨es⟩ => (Entries.keys es).Nodup ∧ Document.WellFormedEntries es

def Document.WellFormedEntries : List (String × Value) → Prop
  | [] => True
  | (_, v) :: rest => v.WellFormed ∧ Document.WellFormedEntries rest

end

theorem Value.wellFormedItems_iff (xs : List Value) :
    Value.WellFormedItems xs ↔ ∀ x ∈ xs, x.WellFormed := by
  induction xs with
  | nil => simp [Value.WellFormedItems]
  | cons x xs ih => rw [Value.WellFormedItems, ih, List.forall_mem_cons]

theorem Document.wellFormedEntries_iff (es : List (String × Value)) :
    Document.WellFormedEntries es ↔ ∀ e ∈ es, e.2.WellFormed := by
  induction es with
  | nil => simp [Document.WellFormedEntries]
  | cons e es ih => rw [Document.WellFormedEntries, ih, List.forall_mem_cons]

theorem Value.wellFormed_array {xs : List Value} :
    (Value.array xs).WellFormed ↔ ∀ x ∈ xs, x.WellFormed := Value.wellFormedItems_iff xs

theorem Document.wellFormed_iff {d : Document} :
    d.WellFormed ↔ d.keys.Nodup ∧ ∀ e ∈ d.entries, e.2.WellFormed := by
  obtain ⟨es⟩ := d
  exact and_congr_right fun _ => Document.wellFormedEntries_iff es

theorem Value.wellFormed_document {d : Document} :
    (Value.document d).WellFormed ↔ d.keys.Nodup ∧ ∀ e ∈ d.entries, e.2.WellFormed :=
  Document.wellFormed_iff

/-! ### Documents made by insertion -/

theorem Entries.mem_insert {α : Type} {e : String × α} {k : String} {v : α} {es : Entries α}
    (h : e ∈ es.insert k v) : e = (k, v) ∨ e ∈ es := by
  induction es with
  | nil => exact .inl (List.mem_singleton.mp h)
  | cons a es ih =>
    obtain ⟨l, w⟩ := a
    by_cases hl : l = k
    · rw [Entries.insert, if_pos hl, hl, List.mem_cons] at h
      exact h.imp_right (List.mem_cons_of_mem _)
    · rw [Entries.insert, if_neg hl, List.mem_cons] at h
      rcases h with rfl | h
      · exact .inr List.mem_cons_self
      · exact (ih h).imp_right (List.mem_cons_of_mem _)

namespace Document

theorem wellFormed_insert {d : Document} (hd : d.WellFormed) (key : String) {v : Value}
    (hv : v.WellFormed) : (d.insert key v).WellFormed := by
  rw [wellFormed_iff] at hd ⊢
  refine ⟨Entries.nodup_keys_insert hd.1 key v, fun e he => ?_⟩
  rcases Entries.mem_insert he with rfl | he
  · exact hv
  · exact hd.2 e he

end Document

end Dossier
