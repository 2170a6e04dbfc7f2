/-! Entries in the order in which their keys first came: lists of keys with values, no key twice.
What stands under a key after an insertion or an erasure is stated once here, through `get?` and
`keys`. -/

namespace Dossier

/-- Keys with values, in order. -/
abbrev Entries (α : Type) := List (String × α)

namespace Entries

variable {α : Type}

/-- The value under a key. -/
def get? (key : String) : Entries α → Option α
  | [] => none
  | (k, v) :: rest => if k = key then some v else get? key rest

def contains (key : String) (es : Entries α) : Bool := (es.get? key).isSome

/-- Puts a value under a key: in place of the value there, or behind all entries. -/
def insert (key : String) (value : α) : Entries α → Entries α
  | [] => [(key, value)]
  | (k, v) :: rest => if k = key then (k, value) :: rest else (k, v) :: insert key value rest

/-- Takes a key out; the others keep their order. -/
def erase (key : String) : Entries α → Entries α
  | [] => []
  | (k, v) :: rest => if k = key then rest else (k, v) :: erase key rest

/-- Puts entries one after the other. -/
def insertAll (es more : Entries α) : Entries α := more.foldl (fun es (k, v) => es.insert k v) es

/-- Entries put one after the other: of a key that comes twice the last value counts, at the first
place. -/
def ofList (es : List (String × α)) : Entries α := insertAll [] es

def keys (es : Entries α) : List String := es.map Prod.fst

def values (es : Entries α) : List α := es.map Prod.snd

@[simp] theorem keys_nil : keys ([] : Entries α) = [] := rfl

@[simp] theorem keys_cons (k : String) (v : α) (es : Entries α) :
    keys ((k, v) :: es) = k :: keys es := rfl

@[simp] theorem isSome_get? (key : String) (es : Entries α) :
    (es.get? key).isSome = true ↔ key ∈ es.keys := by
  induction es with
  | nil => simp [get?]
  | cons e es ih =>
    obtain ⟨k, v⟩ := e
    by_cases h : k = key
    · simp [get?, h]
    · simp [get?, h, ih, Ne.symm h]

theorem get?_eq_none_iff (key : String) (es : Entries α) :
    es.get? key = none ↔ key ∉ es.keys := by
  rw [← isSome_get?, Option.not_isSome_iff_eq_none]

theorem contains_iff (key : String) (es : Entries α) : es.contains key = true ↔ key ∈ es.keys :=
  isSome_get? key es

/-! ### Insertion -/

theorem get?_insert (key k : String) (v : α) (es : Entries α) :
    (es.insert k v).get? key = if k = key then some v else es.get? key := by
  induction es with
  | nil => simp [insert, get?]
  | cons e es ih =>
    obtain ⟨l, w⟩ := e
    by_cases h : l = k
    · subst h
      by_cases hk : l = key <;> simp [insert, get?, hk]
    · by_cases hl : l = key
      · subst hl
        simp [insert, get?, h, Ne.symm h]
      · simp [insert, get?, h, hl, ih]

@[simp] theorem get?_insert_self (k : String) (v : α) (es : Entries α) :
    (es.insert k v).get? k = some v := by rw [get?_insert, if_pos rfl]

theorem get?_insert_of_ne {key k : String} (h : k ≠ key) (v : α) (es : Entries α) :
    (es.insert k v).get? key = es.get? key := by rw [get?_insert, if_neg h]

/-- Of two values put under one key the last counts. -/
theorem insert_insert (k : String) (v w : α) (es : Entries α) :
    (es.insert k v).insert k w = es.insert k w := by
  induction es with
  | nil => simp [insert]
  | cons e es ih =>
    obtain ⟨l, u⟩ := e
    by_cases h : l = k <;> simp [insert, h, ih]

/-- Putting back what is there changes nothing. -/
theorem insert_of_get? {k : String} {v : α} {es : Entries α} (h : es.get? k = some v) :
    es.insert k v = es := by
  induction es with
  | nil => cases h
  | cons e es ih =>
    obtain ⟨l, u⟩ := e
    by_cases hl : l = k
    · simp only [get?, hl, if_true, Option.some.injEq] at h
      simp [insert, hl, h]
    · simp only [get?, hl, if_false] at h
      simp [insert, hl, ih h]

/-- The entries under other keys stay as they are, in their order. -/
theorem filter_insert (k : String) (v : α) (es : Entries α) :
    (es.insert k v).filter (fun e => e.1 ≠ k) = es.filter fun e => e.1 ≠ k := by
  induction es with
  | nil => simp [insert]
  | cons e es ih =>
    obtain ⟨l, u⟩ := e
    by_cases h : l = k
    · simp [insert, h]
    · simp only [ne_eq, decide_not] at ih
      simp [insert, h, ih]

/-- A key that is there keeps its place. -/
theorem keys_insert_of_mem {k : String} {es : Entries α} (h : k ∈ es.keys) (v : α) :
    (es.insert k v).keys = es.keys := by
  induction es with
  | nil => simp at h
  | cons e es ih =>
    obtain ⟨l, w⟩ := e
    by_cases hl : l = k
    · simp [insert, hl]
    · have hk : k ∈ keys es := by simpa [Ne.symm hl] using h
      simp [insert, hl, ih hk]

/-- A new entry comes last. -/
theorem insert_of_not_mem {k : String} {es : Entries α} (h : k ∉ es.keys) (v : α) :
    es.insert k v = es ++ [(k, v)] := by
  induction es with
  | nil => rfl
  | cons e es ih =>
    obtain ⟨l, w⟩ := e
    simp only [keys_cons, List.mem_cons, not_or] at h
    simp [insert, Ne.symm h.1, ih h.2]

theorem keys_insert_of_not_mem {k : String} {es : Entries α} (h : k ∉ es.keys) (v : α) :
    (es.insert k v).keys = es.keys ++ [k] := by
  rw [insert_of_not_mem h]
  simp [keys]

theorem nodup_keys_insert {es : Entries α} (h : es.keys.Nodup) (k : String) (v : α) :
    (es.insert k v).keys.Nodup := by
  by_cases hk : k ∈ es.keys
  · rwa [keys_insert_of_mem hk]
  · rw [keys_insert_of_not_mem hk, List.nodup_append]
    refine ⟨h, by simp, ?_⟩
    intro a ha b hb
    rw [List.mem_singleton] at hb
    exact fun hab => hk (hb ▸ hab ▸ ha)

theorem nodup_keys_insertAll {es : Entries α} (h : es.keys.Nodup) (more : Entries α) :
    (es.insertAll more).keys.Nodup := by
  induction more generalizing es with
  | nil => exact h
  | cons e more ih => exact ih (nodup_keys_insert h e.1 e.2)

/-! ### Erasure -/

theorem keys_erase (k : String) (es : Entries α) : (es.erase k).keys = es.keys.erase k := by
  induction es with
  | nil => rfl
  | cons e es ih =>
    obtain ⟨l, w⟩ := e
    by_cases h : l = k <;> simp [erase, h, ih]

theorem nodup_keys_erase {es : Entries α} (h : es.keys.Nodup) (k : String) :
    (es.erase k).keys.Nodup := by
  rw [keys_erase]
  exact h.erase k

theorem get?_erase_of_ne {key k : String} (h : k ≠ key) (es : Entries α) :
    (es.erase k).get? key = es.get? key := by
  induction es with
  | nil => rfl
  | cons e es ih =>
    obtain ⟨l, w⟩ := e
    by_cases hl : l = k
    · subst hl
      simp [erase, get?, h]
    · simp [erase, get?, hl, ih]

theorem get?_erase_self {es : Entries α} (h : es.keys.Nodup) (k : String) :
    (es.erase k).get? k = none := by
  rw [get?_eq_none_iff, keys_erase]
  exact h.not_mem_erase

end Entries

end Dossier
