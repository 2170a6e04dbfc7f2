import Dossier.Proofs.Value.Order
import Dossier.Value.Json

/-! Values through JSON and back. The way back gives the value again but for what JSON has no room
for: patterns, doubles that are not finite, and the kind of an unsigned integer that a signed one
holds as well. What is left after one round stays as it is, and writing a value without a tree in
between gives the text of the tree. -/

namespace Dossier

/-! ### What JSON leaves of a value -/

def Value.jsonLeaf : Value → Value
  | .number (.unsigned n) =>
    if n.toNat < 0x8000000000000000 then .signed n.toInt64 else .unsigned n
  | .number (.double x) => if x.isFinite then .double x else .null
  | .pattern p => .string p.source
  | v => v

mutual

/-- What JSON leaves of a value: arrays and documents stay, with what is left of the values in
them. -/
def Value.jsonForm : Value → Value
  | .array xs => .array (Value.jsonForms xs)
  | .document d => .document d.jsonForm
  | v => v.jsonLeaf

def Value.jsonForms : List Value → List Value
  | [] => []
  | x :: xs => x.jsonForm :: Value.jsonForms xs

def Document.jsonForm : Document → Document
  | ⟨es⟩ => ⟨Document.jsonFormsOf es⟩

def Document.jsonFormsOf : List (String × Value) → List (String × Value)
  | [] => []
  | (key, v) :: rest => (key, v.jsonForm) :: Document.jsonFormsOf rest

end

theorem Value.jsonForms_eq_map (xs : List Value) : Value.jsonForms xs = xs.map Value.jsonForm := by
  induction xs with
  | nil => rfl
  | cons x xs ih => rw [Value.jsonForms, ih, List.map_cons]

theorem Document.jsonFormsOf_eq_map (es : List (String × Value)) :
    Document.jsonFormsOf es = es.map fun e => (e.1, e.2.jsonForm) := by
  induction es with
  | nil => rfl
  | cons e es ih => rw [Document.jsonFormsOf, ih, List.map_cons]

theorem Value.jsonForm_unsigned (n : UInt64) :
    (number (.unsigned n)).jsonForm =
      if n.toNat < 0x8000000000000000 then signed n.toInt64 else unsigned n := rfl

theorem Value.jsonForm_double (x : Double) :
    (number (.double x)).jsonForm = if x.isFinite then double x else null := rfl

/-! ### One round -/

theorem Number.ofInt_signed (n : Int64) : Number.ofInt n.toInt = .signed n := by
  have hl := n.le_toInt
  have hr := n.toInt_lt
  rw [ofInt, ofInt?, if_pos (by omega), Option.getD_some, Int64.ofInt_toInt]

theorem Number.ofInt_unsigned (n : UInt64) :
    Number.ofInt n.toNat =
      if n.toNat < 0x8000000000000000 then .signed n.toInt64 else .unsigned n := by
  have hr := n.toNat_lt
  have hsigned : Int64.ofInt n.toNat = n.toInt64 := by
    rw [Int64.ofInt_eq_ofNat, ← UInt64.toInt64_ofNat', UInt64.ofNat_toNat]
  rw [ofInt, ofInt?]
  by_cases h : n.toNat < 0x8000000000000000
  · rw [if_pos (by omega), if_pos h, Option.getD_some, hsigned]
  · rw [if_neg (by omega), if_pos (by omega), if_neg h, Option.getD_some, Int.toNat_natCast,
      UInt64.ofNat_toNat]

theorem toInt_toInt64 {n : UInt64} (h : n.toNat < 0x8000000000000000) :
    n.toInt64.toInt = n.toNat := by
  rw [← UInt64.ofNat_toNat (x := n), UInt64.toInt64_ofNat', Int64.toInt_ofNat_of_lt h,
    UInt64.ofNat_toNat]

mutual

/-- The value of the tree of a value is what JSON leaves of it. -/
theorem Value.ofJson_toJson : ∀ v : Value, Value.ofJson v.toJson = v.jsonForm
  | .null | .bool _ | .string _ | .pattern _ => rfl
  | .number (.signed n) => congrArg Value.number (Number.ofInt_signed n)
  | .number (.unsigned n) => by
    rw [Value.toJson, Value.ofJson, Number.ofInt_unsigned, Value.jsonForm_unsigned]
    split_ifs <;> rfl
  | .number (.double x) => by
    rw [Value.toJson, Value.jsonForm_double]
    split_ifs <;> rfl
  | .array xs => congrArg Value.array (ofJsonItems_toJsonItems xs)
  | .document ⟨es⟩ => congrArg (fun es => Value.document ⟨es⟩) (ofJsonEntries_toJsonEntries es)

theorem ofJsonItems_toJsonItems :
    ∀ xs, Value.ofJsonItems (Value.toJsonItems xs) = Value.jsonForms xs
  | [] => rfl
  | x :: xs => by
    rw [Value.toJsonItems, Value.ofJsonItems, Value.jsonForms, Value.ofJson_toJson x,
      ofJsonItems_toJsonItems xs]

theorem ofJsonEntries_toJsonEntries :
    ∀ es, Value.ofJsonEntries (Document.toJsonEntries es) = Document.jsonFormsOf es
  | [] => rfl
  | (key, v) :: rest => by
    rw [Document.toJsonEntries, Value.ofJsonEntries, Document.jsonFormsOf, Value.ofJson_toJson v,
      ofJsonEntries_toJsonEntries rest]

end

/-! ### A second round -/

mutual

theorem Value.toJson_jsonForm : ∀ v : Value, v.jsonForm.toJson = v.toJson
  | .null | .bool _ | .string _ | .pattern _ | .number (.signed _) => rfl
  | .number (.unsigned n) => by
    rw [Value.jsonForm_unsigned]
    split_ifs with h
    · exact congrArg Json.integer (toInt_toInt64 h)
    · rfl
  | .number (.double x) => by
    rw [Value.jsonForm_double, Value.toJson]
    split_ifs with h
    · exact if_pos h
    · rfl
  | .array xs => congrArg Json.array (toJsonItems_jsonForms xs)
  | .document ⟨es⟩ => congrArg Json.object (toJsonEntries_jsonFormsOf es)

theorem toJsonItems_jsonForms :
    ∀ xs, Value.toJsonItems (Value.jsonForms xs) = Value.toJsonItems xs
  | [] => rfl
  | x :: xs => by
    rw [Value.jsonForms, Value.toJsonItems, Value.toJsonItems, Value.toJson_jsonForm x,
      toJsonItems_jsonForms xs]

theorem toJsonEntries_jsonFormsOf :
    ∀ es, Document.toJsonEntries (Document.jsonFormsOf es) = Document.toJsonEntries es
  | [] => rfl
  | (key, v) :: rest => by
    rw [Document.jsonFormsOf, Document.toJsonEntries, Document.toJsonEntries,
      Value.toJson_jsonForm v, toJsonEntries_jsonFormsOf rest]

end

/-! ### What is equal to its form -/

/-- Whether JSON has room for all there is in a value: no pattern, and no double that is not
finite. -/
def Value.FitsJson (v : Value) : Prop :=
  ∀ u : Value, u.Within v → u.kind ≠ .pattern ∧ ∀ x, u = double x → x.isFinite = true

namespace Value

theorem fitsJson_array {xs : List Value} : (array xs).FitsJson ↔ ∀ x ∈ xs, x.FitsJson := by
  constructor
  · intro h x hx u hu
    exact h u (.item hx hu)
  · intro h u hu
    rcases within_array.mp hu with rfl | ⟨x, hx, hu⟩
    · exact ⟨nofun, nofun⟩
    · exact h x hx u hu

theorem fitsJson_document {d : Document} :
    (document d).FitsJson ↔ ∀ e ∈ d.entries, e.2.FitsJson := by
  constructor
  · intro h e he u hu
    exact h u (.entry he hu)
  · intro h u hu
    rcases within_document.mp hu with rfl | ⟨e, he, hu⟩
    · exact ⟨nofun, nofun⟩
    · exact h e he u hu

theorem fitsJson_of_kind_ne {v : Value} (ha : v.kind ≠ .array) (hd : v.kind ≠ .document) :
    v.FitsJson ↔ v.kind ≠ .pattern ∧ ∀ x, v = double x → x.isFinite = true := by
  constructor
  · intro h
    exact h v .here
  · rintro h u hu
    rw [(within_iff_of_kind_ne ha hd).mp hu]
    exact h

theorem fitsJson_number {n : Number} :
    (number n).FitsJson ↔ ∀ x, n = .double x → x.isFinite = true := by
  rw [fitsJson_of_kind_ne (by simp [kind]) (by simp [kind])]
  simp [double, kind]

theorem equal_number_of_magnitude_eq {a b : Number} (h : a.magnitude = b.magnitude) :
    (number a).equal (number b) = true := by
  rw [equal, Number.equal_iff, Number.compare_eq, h]
  exact Std.ReflCmp.compare_self

theorem equal_jsonForm_number (n : Number) :
    (number n).jsonForm.equal (number n) = true ↔ ∀ x, n = .double x → x.isFinite = true := by
  cases n with
  | signed n => exact ⟨fun _ => nofun, fun _ => equal_number_of_magnitude_eq rfl⟩
  | unsigned n =>
    refine ⟨fun _ => nofun, fun _ => ?_⟩
    rw [jsonForm_unsigned]
    split_ifs with h
    · exact equal_number_of_magnitude_eq (congrArg Magnitude.ofInt (toInt_toInt64 h))
    · exact equal_number_of_magnitude_eq rfl
  | double x =>
    rw [jsonForm_double]
    split_ifs with h
    · exact ⟨fun _ y hy => Number.double.inj hy ▸ h, fun _ => equal_number_of_magnitude_eq rfl⟩
    · exact ⟨fun heq => absurd (kind_eq_of_equal heq) nofun, fun hx => absurd (hx x rfl) h⟩

/-- A value is equal to what JSON leaves of it exactly when JSON has room for all of it. -/
theorem equal_jsonForm_iff {v : Value} (hv : v.WellFormed) :
    v.jsonForm.equal v = true ↔ v.FitsJson := by
  induction v using inductionOn with
  | array xs ih =>
    rw [wellFormed_array] at hv
    rw [fitsJson_array, jsonForm, equal_array, jsonForms_eq_map, List.forall₂_map_left_iff,
      List.forall₂_same]
    exact forall₂_congr fun x hx => ih x hx (hv x hx)
  | document d ih =>
    rw [wellFormed_document] at hv
    obtain ⟨es⟩ := d
    have hkeys : (Document.mk (Document.jsonFormsOf es)).keys = (Document.mk es).keys := by
      simp [Document.keys, Entries.keys, Document.jsonFormsOf_eq_map, Function.comp_def]
    rw [fitsJson_document, jsonForm, Document.jsonForm, equal_document (hkeys ▸ hv.1),
      Document.jsonFormsOf_eq_map, Entries.sortByKey_map, List.forall₂_map_left_iff,
      List.forall₂_same]
    constructor
    · intro h e he
      exact (ih e he (hv.2 e he)).mp (h e (Entries.mem_sortByKey.mpr he)).2
    · intro h e he
      have hmem := Entries.mem_sortByKey.mp he
      exact ⟨rfl, (ih e hmem (hv.2 e hmem)).mpr (h e hmem)⟩
  | number n => rw [equal_jsonForm_number, fitsJson_number]
  | pattern p =>
    constructor
    · intro h
      cases kind_eq_of_equal h
    · intro h
      exact absurd rfl (h _ .here).1
  | _ =>
    rw [fitsJson_of_kind_ne (by simp [kind]) (by simp [kind])]
    simp [kind, double, jsonForm, jsonLeaf, equal_refl hv]

end Value

/-! ### Without a tree -/

mutual

theorem Value.serialize_eq_render : ∀ v : Value, v.serialize = v.toJson.render
  | .null | .bool _ | .string _ | .pattern _ | .number (.signed _) => rfl
  | .number (.unsigned n) => rfl
  | .number (.double x) => by
    rw [Value.serialize, Value.toJson]
    split_ifs <;> rfl
  | .array xs => congrArg Json.bracketed (serializeItems_eq_renderItems xs)
  | .document ⟨es⟩ => congrArg Json.braced (serializeEntries_eq_renderEntries es)

theorem serializeItems_eq_renderItems :
    ∀ xs, Value.serializeItems xs = Json.renderItems (Value.toJsonItems xs)
  | [] => rfl
  | x :: xs => by
    rw [Value.serializeItems, Value.toJsonItems, Json.renderItems, Value.serialize_eq_render x,
      serializeItems_eq_renderItems xs]

theorem serializeEntries_eq_renderEntries :
    ∀ es, Document.serializeEntries es = Json.renderEntries (Document.toJsonEntries es)
  | [] => rfl
  | (key, v) :: rest => by
    rw [Document.serializeEntries, Document.toJsonEntries, Json.renderEntries,
      Value.serialize_eq_render v, serializeEntries_eq_renderEntries rest]

end

/-- A value that has been in JSON is the same value but for what JSON has no room for: in every
place a pattern is its source, a double that is not finite is null, and an unsigned integer that a
signed one holds is that. So it is equal to the value exactly when there are no patterns and no such
doubles in it; its tree is the tree it came from, a document is always a document again, and the
text written without a tree is the text of the tree. -/
theorem Value.json_round_trip (v : Value) :
    Value.ofJson v.toJson = v.jsonForm ∧
      (v.WellFormed → ((Value.ofJson v.toJson).equal v = true ↔ v.FitsJson)) ∧
      (Value.ofJson v.toJson).toJson = v.toJson ∧
      (∀ d : Document, Document.ofJson d.toJson = .ok d.jsonForm) ∧
      v.serialize = v.jsonText := by
  rw [ofJson_toJson]
  refine ⟨rfl, equal_jsonForm_iff, toJson_jsonForm v, fun d => ?_, serialize_eq_render v⟩
  have hd : Value.ofJson d.toJson = .document d.jsonForm := ofJson_toJson (.document d)
  rw [Document.ofJson, hd]

/-- A pattern, integers on both sides of the largest signed one, and doubles of which one is not a
number and one is a negative zero. -/
theorem Value.json_round_trip_mixed :
    let p : Pattern := ⟨"a", .text ['a'], rfl⟩
    let kept := array [unsigned 9223372036854775808, double ⟨0x8000000000000000⟩, unsigned 7]
    let d : Document := ⟨[("p", .pattern p), ("n", .array [double .nan, kept])]⟩
    let form := array [unsigned 9223372036854775808, double ⟨0x8000000000000000⟩, signed 7]
    Document.ofJson d.toJson = .ok ⟨[("p", .string "a"), ("n", .array [.null, form])]⟩ ∧
      (Value.ofJson kept.toJson).equal kept = true ∧
      (Value.ofJson (document d).toJson).equal (document d) = false := by
  intro p kept d form
  obtain ⟨-, hequal, -⟩ := json_round_trip kept
  obtain ⟨-, hdiffers, -, hdocument, -⟩ := json_round_trip (document d)
  have hkept : kept.WellFormed := ⟨trivial, trivial, trivial, trivial⟩
  have hd : (document d).WellFormed := ⟨by decide, trivial, ⟨trivial, hkept, trivial⟩, trivial⟩
  have hfits : kept.FitsJson := by
    rw [fitsJson_array, List.forall_mem_cons, List.forall_mem_cons, List.forall_mem_singleton]
    refine ⟨fitsJson_number.mpr nofun, fitsJson_number.mpr ?_, fitsJson_number.mpr nofun⟩
    rintro x ⟨⟩
    decide
  refine ⟨hdocument d, (hequal hkept).mpr hfits, ?_⟩
  rw [← Bool.not_eq_true, hdiffers hd]
  intro h
  exact (h (.pattern p) (.entry List.mem_cons_self .here)).1 rfl

end Dossier
