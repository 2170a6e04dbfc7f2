import Dossier.Proofs.Query.Binding
import Dossier.Proofs.Query.Reading

/-! What documents denote as queries, told without reading one. A grammar gives what each entry of a
document asks for. A document is refused exactly when an entry that is read as part of a query, at
whatever depth, has a key behind the marker that names no field or holds no document, and the first
such entry is why. Operands are not looked into. -/

namespace Dossier

namespace Query

variable {marker : String}

def Marked (marker key : String) : Prop := marker.toList <+: key.toList

instance (marker key : String) : Decidable (Marked marker key) :=
  inferInstanceAs (Decidable (_ <+: _))

theorem exists_of_marked {key : String} (hk : Marked marker key) :
    ∃ field, key = marker ++ field := by
  obtain ⟨cs, hcs⟩ := hk
  refine ⟨.ofList cs, ?_⟩
  rw [← String.toList_inj, String.toList_append, String.toList_ofList, hcs]

/-! ### The grammar -/

/-- What the entry of a document asks for. Behind the marker that is all operators of a document,
with their operands as they are; under any other key a pattern, a query of its own, which is denoted
entry by entry, or a literal. -/
inductive Denotes (marker : String) : String × Value → String × Node → Prop where
  | operators {field : String} {d : Document} (hf : field ≠ "") :
      Denotes marker (marker ++ field, .document d) (field, .operators d.entries)
  | pattern {key : String} {p : Pattern} (hk : ¬ Marked marker key) :
      Denotes marker (key, .pattern p) (key, .pattern p)
  | nested {key : String} {d : Document} {q : Query} (hk : ¬ Marked marker key)
      (h : List.Forall₂ (Denotes marker) d.entries q.entries) :
      Denotes marker (key, .document d) (key, .nested q)
  | literal {key : String} {v : Value} (hk : ¬ Marked marker key) (hp : v.kind ≠ .pattern)
      (hd : v.kind ≠ .document) : Denotes marker (key, v) (key, .literal v)

/-- What is read of an entry is what it denotes, if that is so of the document in it. -/
theorem reads_iff_denotes {key : String} {v : Value} {n : String × Node}
    (hnested : ∀ d, v = .document d → ∀ q : Query,
      ofDocument marker d = .ok q ↔ List.Forall₂ (Denotes marker) d.entries q.entries) :
    Reads marker key v n ↔ Denotes marker (key, v) n := by
  constructor
  · rintro (⟨hm, hf⟩ | hm | ⟨hm, hq⟩ | ⟨hm, hp, hd⟩)
    · obtain rfl := markedField?_eq_some_iff.mp hm
      exact .operators hf
    · exact .pattern (markedField?_eq_none_iff.mp hm)
    · exact .nested (markedField?_eq_none_iff.mp hm) ((hnested _ rfl _).mp hq)
    · exact .literal (markedField?_eq_none_iff.mp hm) hp hd
  · rintro (⟨hf⟩ | hk | ⟨hk, hq⟩ | ⟨hk, hp, hd⟩)
    · exact .operators (markedField?_eq_some_iff.mpr rfl) hf
    · exact .pattern (markedField?_eq_none_iff.mpr hk)
    · exact .nested (markedField?_eq_none_iff.mpr hk) ((hnested _ rfl _).mpr hq)
    · exact .literal (markedField?_eq_none_iff.mpr hk) hp hd

theorem ofEntry_eq_ok_iff_denotes {key : String} {v : Value} {n : String × Node} :
    ofEntry marker key v = .ok n ↔ Denotes marker (key, v) n := by
  rw [ofEntry_eq_ok_iff]
  induction v using Value.inductionOn generalizing key n with
  | document d ih =>
    refine reads_iff_denotes ?_
    rintro _ ⟨⟩ q
    rw [ofDocument_eq_ok_iff]
    exact Entries.forall₂_congr_of_mem fun e he n => ofEntry_eq_ok_iff.trans (ih e he)
  | _ => exact reads_iff_denotes nofun

/-- A document is read as the query whose entries its own denote, one by one. -/
theorem ofDocument_eq_ok_iff_denotes {d : Document} {q : Query} :
    ofDocument marker d = .ok q ↔ List.Forall₂ (Denotes marker) d.entries q.entries := by
  rw [ofDocument_eq_ok_iff]
  exact Entries.forall₂_congr_of_mem fun e _ n => ofEntry_eq_ok_iff_denotes

/-! ### Entries that are read -/

mutual

/-- The entries that are read of a document, depth first: its own, each followed by those of the
document under it if its key is not behind the marker. -/
def entriesRead (marker : String) : Document → List (String × Value)
  | ⟨es⟩ => entriesReadOf marker es

def entriesReadOf (marker : String) : List (String × Value) → List (String × Value)
  | [] => []
  | (key, v) :: rest => (key, v) :: (entriesBelow marker key v ++ entriesReadOf marker rest)

def entriesBelow (marker key : String) : Value → List (String × Value)
  | .document d => if Marked marker key then [] else entriesRead marker d
  | _ => []

end

/-- The documents that are read as part of a query: itself, and those that are reached through keys
that do not start with the marker. -/
inductive Reaches (marker : String) : Document → Document → Prop where
  | here (d : Document) : Reaches marker d d
  | inner {d e f : Document} {key : String} (he : (key, .document e) ∈ d.entries)
      (hk : ¬ Marked marker key) (h : Reaches marker e f) : Reaches marker d f

theorem mem_entriesReadOf {x : String × Value} {es : List (String × Value)} :
    x ∈ entriesReadOf marker es ↔
      x ∈ es ∨ ∃ e ∈ es, x ∈ entriesBelow marker e.1 e.2 := by
  induction es with
  | nil => simp [entriesReadOf]
  | cons e es ih =>
    obtain ⟨key, v⟩ := e
    simp only [entriesReadOf, List.mem_cons, List.mem_append, ih, exists_eq_or_imp]
    tauto

/-- The entries that are read are those of the documents that are reached. -/
theorem mem_entriesRead_iff {x : String × Value} {d : Document} :
    x ∈ entriesRead marker d ↔ ∃ e, Reaches marker d e ∧ x ∈ e.entries := by
  induction d using Document.inductionOn with
  | nested d ih =>
    obtain ⟨es⟩ := d
    rw [entriesRead, mem_entriesReadOf]
    constructor
    · rintro (hx | ⟨⟨key, v⟩, he, hx⟩)
      · exact ⟨⟨es⟩, .here _, hx⟩
      · cases v with
        | document e =>
          rw [entriesBelow] at hx
          split_ifs at hx with hk
          · cases hx
          · obtain ⟨f, hf, hxf⟩ := (ih key e he).mp hx
            exact ⟨f, .inner he hk hf, hxf⟩
        | _ => cases hx
    · rintro ⟨e, _ | ⟨he, hk, hf⟩, hx⟩
      · exact .inl hx
      · refine .inr ⟨_, he, ?_⟩
        rw [entriesBelow, if_neg hk]
        exact (ih _ _ he).mpr ⟨_, hf, hx⟩

/-! ### Refusals -/

/-- An entry that no query has: its key starts with the marker, and there is nothing more of it or
its value is no document. -/
structure Malformed (marker : String) (e : String × Value) : Prop where
  marked : Marked marker e.1
  wrong : e.1 = marker ∨ e.2.kind ≠ .document

instance (marker : String) (e : String × Value) : Decidable (Malformed marker e) :=
  decidable_of_iff (Marked marker e.1 ∧ (e.1 = marker ∨ e.2.kind ≠ .document))
    ⟨fun h => ⟨h.1, h.2⟩, fun h => ⟨h.1, h.2⟩⟩

def complaint (marker key : String) : Fault :=
  if key = marker then .keyWithoutField key else .operatorsExpected key

def complaint? (marker : String) (e : String × Value) : Option Fault :=
  if Malformed marker e then some (complaint marker e.1) else none

theorem complaint?_eq_some_iff {e : String × Value} {f : Fault} :
    complaint? marker e = some f ↔ Malformed marker e ∧ f = complaint marker e.1 := by
  rw [complaint?]
  split_ifs with h <;> simp [h, eq_comm]

theorem complaint?_eq_none_iff {e : String × Value} :
    complaint? marker e = none ↔ ¬ Malformed marker e := by
  rw [complaint?]
  split_ifs with h <;> simp [h]

/-- Success, unless there is something to complain of. -/
def refusal : Option Fault → Except Fault Unit
  | some f => .error f
  | none => .ok ()

theorem refusal_or (x y : Option Fault) : refusal (x.or y) = refusal x >>= fun _ => refusal y := by
  cases x <;> rfl

theorem entriesBelow_of_marked {key : String} (hk : Marked marker key) (v : Value) :
    entriesBelow marker key v = [] := by
  cases v with
  | document d => rw [entriesBelow, if_pos hk]
  | _ => rfl

theorem ofEntry_marker (marker : String) (v : Value) :
    ofEntry marker marker v = .error (.keyWithoutField marker) := by
  have hm : markedField? marker marker = some "" :=
    markedField?_eq_some_iff.mpr String.append_empty.symm
  unfold ofEntry
  simp only [hm, if_true]

theorem ofEntry_append {field : String} (hf : field ≠ "") {v : Value} (hv : v.kind ≠ .document) :
    ofEntry marker (marker ++ field) v = .error (.operatorsExpected (marker ++ field)) := by
  have hm : markedField? marker (marker ++ field) = some field := markedField?_eq_some_iff.mpr rfl
  unfold ofEntry
  simp only [hm, if_neg hf]
  cases v with
  | document d => exact absurd rfl hv
  | _ => rfl

/-- Behind the marker an entry is refused when it is malformed, whatever is in its document. -/
theorem outcome_ofEntry_of_marked {key : String} (hk : Marked marker key) (v : Value) :
    outcome (ofEntry marker key v) = refusal (complaint? marker (key, v)) := by
  obtain ⟨field, rfl⟩ := exists_of_marked hk
  by_cases hf : field = ""
  · subst hf
    rw [String.append_empty] at hk ⊢
    have hbad : Malformed marker (marker, v) := ⟨hk, .inl rfl⟩
    rw [ofEntry_marker, complaint?, if_pos hbad, complaint, if_pos rfl]
    rfl
  · have hne : marker ++ field ≠ marker := fun h => hf (String.append_eq_left_iff.mp h)
    by_cases hd : v.kind = .document
    · obtain ⟨d, rfl⟩ := Value.exists_of_kind_document hd
      have hfine : ¬ Malformed marker (marker ++ field, .document d) :=
        fun h => h.wrong.elim hne fun h => h rfl
      rw [ofEntry_eq_ok_iff_denotes.mpr (.operators hf), complaint?, if_neg hfine]
      rfl
    · have hbad : Malformed marker (marker ++ field, v) := ⟨hk, .inr hd⟩
      rw [ofEntry_append hf hd, complaint?, if_pos hbad, complaint, if_neg hne]
      rfl

mutual

/-- Reading ends with the first complaint about the entries that are read, or well without one. -/
theorem outcome_ofDocument : ∀ d : Document,
    outcome (ofDocument marker d) = refusal ((entriesRead marker d).findSome? (complaint? marker))
  | ⟨es⟩ => (outcome_bind_pure (ofEntries marker es) Query.mk).trans (outcome_ofEntries es)

theorem outcome_ofEntries : ∀ es : List (String × Value),
    outcome (ofEntries marker es) =
      refusal ((entriesReadOf marker es).findSome? (complaint? marker))
  | [] => rfl
  | (key, v) :: rest => by
    have hstep : outcome (ofEntries marker ((key, v) :: rest)) =
        outcome (ofEntry marker key v) >>= fun _ => outcome (ofEntries marker rest) := by
      rw [ofEntries]
      cases ofEntry marker key v with
      | error f => rfl
      | ok n => exact outcome_bind_pure (ofEntries marker rest) fun ns => n :: ns
    rw [hstep, outcome_ofEntry key v, outcome_ofEntries rest, entriesReadOf, ← List.cons_append,
      List.findSome?_append, refusal_or]

theorem outcome_ofEntry (key : String) : ∀ v : Value,
    outcome (ofEntry marker key v) =
      refusal (((key, v) :: entriesBelow marker key v).findSome? (complaint? marker)) := by
  intro v
  by_cases hk : Marked marker key
  · rw [entriesBelow_of_marked hk, List.findSome?_singleton]
    exact outcome_ofEntry_of_marked hk v
  · have hm := markedField?_eq_none_iff.mpr hk
    have hfine : complaint? marker (key, v) = none :=
      complaint?_eq_none_iff.mpr fun h => hk h.marked
    rw [List.findSome?_cons, hfine]
    match v with
    | .document d =>
      rw [entriesBelow, if_neg hk, ← outcome_ofDocument d]
      simp only [ofEntry, hm]
      exact outcome_bind_pure (ofDocument marker d) fun q => (key, Node.nested q)
    | .null | .bool _ | .number _ | .string _ | .array _ | .pattern _ =>
      simp only [ofEntry, hm]
      rfl

end

theorem ofDocument_eq_error_iff_findSome? {d : Document} {f : Fault} :
    ofDocument marker d = .error f ↔
      (entriesRead marker d).findSome? (complaint? marker) = some f := by
  rw [← outcome_eq_error_iff, outcome_ofDocument]
  cases (entriesRead marker d).findSome? (complaint? marker) <;> simp [refusal]

theorem message_complaint (marker key : String) :
    (complaint marker key).message = "Operator-form key `" ++ key ++
      if key = marker then "` has no field name" else "` expects a document of operators" := by
  unfold complaint
  split_ifs <;> rfl

theorem kind_complaint (marker key : String) : (complaint marker key).kind = .invalidQuery := by
  unfold complaint
  split_ifs <;> rfl

/-- A document is read as the query that it denotes entry by entry. It is refused exactly when a
document that is reached through keys without the marker has a malformed entry. The query is then
not valid, and the first malformed entry of all that are read, depth first, is the one whose key is
named. -/
theorem ofDocument_follows_grammar (marker : String) (d : Document) :
    (∀ q, ofDocument marker d = .ok q ↔ List.Forall₂ (Denotes marker) d.entries q.entries) ∧
    ((∃ f, ofDocument marker d = .error f) ↔
      ∃ e, Reaches marker d e ∧ ∃ x ∈ e.entries, Malformed marker x) ∧
    ∀ f, ofDocument marker d = .error f → f.kind = .invalidQuery ∧
      ∃ before x after, entriesRead marker d = before ++ x :: after ∧
        (∀ b ∈ before, ¬ Malformed marker b) ∧ Malformed marker x ∧
        f.message = "Operator-form key `" ++ x.1 ++
          if x.1 = marker then "` has no field name" else "` expects a document of operators" := by
  refine ⟨fun q => ofDocument_eq_ok_iff_denotes, ?_, fun f hf => ?_⟩
  · simp only [ofDocument_eq_error_iff_findSome?, ← Option.isSome_iff_exists,
      List.findSome?_isSome_iff]
    constructor
    · rintro ⟨x, hx, hbad⟩
      obtain ⟨f, hf⟩ := Option.isSome_iff_exists.mp hbad
      obtain ⟨e, he, hxe⟩ := mem_entriesRead_iff.mp hx
      exact ⟨e, he, x, hxe, (complaint?_eq_some_iff.mp hf).1⟩
    · rintro ⟨e, he, x, hx, hbad⟩
      refine ⟨x, mem_entriesRead_iff.mpr ⟨e, he, hx⟩, ?_⟩
      rw [complaint?_eq_some_iff.mpr ⟨hbad, rfl⟩]
      rfl
  · rw [ofDocument_eq_error_iff_findSome?, List.findSome?_eq_some_iff] at hf
    obtain ⟨before, x, after, hentries, hx, hbefore⟩ := hf
    obtain ⟨hbad, rfl⟩ := complaint?_eq_some_iff.mp hx
    refine ⟨kind_complaint marker x.1, before, x, after, hentries, fun b hb => ?_, hbad,
      message_complaint marker x.1⟩
    exact complaint?_eq_none_iff.mp (hbefore b hb)

/-- The malformed entry that is nested comes before the one behind it, and operands are not read. -/
example :
    let d : Document := ⟨[("$$a", .document ⟨[("in", .document ⟨[("$$", .null)]⟩)]⟩),
      ("b", .document ⟨[("c", .null), ("$$d", .array [])]⟩), ("$$", .null)]⟩
    ofDocument "$$" d = .error (.operatorsExpected "$$d") := by
  cbv

end Query

end Dossier
