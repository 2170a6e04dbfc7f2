import Dossier.Proofs.Path.Segments
import Mathlib.Data.List.Infix

/-! Rows of keys spelled as paths. Splitting the path gives the row back exactly when every separator
between two keys is found where it stands, that is, when none begins inside of a key or across its
end. Keys that share no character with the separator, however long that is, are such. -/

namespace Dossier

namespace PathSyntax

/-! ### Cutting at longer separators -/

section Cut

variable {separator : List Char}

theorem cut_skip (separator as bs : List Char) :
    cut separator as.length (as ++ bs) = cut separator 0 bs := by
  induction as with
  | nil => rfl
  | cons a as ih => rwa [List.length_cons, List.cons_append, cut]

theorem cut_separator_append (hs : separator ≠ []) (cs : List Char) :
    cut separator 0 (separator ++ cs) = [] :: cut separator 0 cs := by
  cases separator with
  | nil => exact absurd rfl hs
  | cons x rest =>
    have hbegins : (x :: rest).isPrefixOf (x :: (rest ++ cs)) = true := by
      rw [List.isPrefixOf_iff_prefix]
      exact List.prefix_append (x :: rest) cs
    rw [List.cons_append, cut_cons, if_pos hbegins, List.length_cons, Nat.add_sub_cancel, cut_skip]

/-- Whether a separator behind a key is found where it stands: none begins earlier, neither inside
the key nor across its end. -/
def Clear (separator key : List Char) : Prop :=
  ∀ tail ∈ key.tails, separator <+: tail ++ separator → tail = []

instance (separator key : List Char) : Decidable (Clear separator key) :=
  inferInstanceAs (Decidable (∀ _ ∈ _, _))

theorem clear_nil (separator : List Char) : Clear separator [] := by
  simp [Clear]

theorem clear_cons {x : Char} {key : List Char} :
    Clear separator (x :: key) ↔
      ¬ separator <+: x :: (key ++ separator) ∧ Clear separator key := by
  simp [Clear]

variable {key cs : List Char}

theorem not_infix_of_clear (hs : separator ≠ []) (h : Clear separator key) :
    ¬ separator <:+: key := by
  rintro ⟨before, after, rfl⟩
  have htail := h (separator ++ after) (by simp [List.mem_tails]) (by simp)
  exact hs (List.append_eq_nil_iff.mp htail).1

/-- One character cannot begin inside of a key and go on behind it. -/
theorem clear_of_length (hs : separator.length = 1) (h : ¬ separator <:+: key) :
    Clear separator key := by
  obtain ⟨c, rfl⟩ := List.length_eq_one_iff.mp hs
  induction key with
  | nil => exact clear_nil [c]
  | cons x key ih =>
    rw [List.infix_cons_iff, not_or] at h
    refine clear_cons.mpr ⟨?_, ih h.2⟩
    simpa [List.cons_prefix_cons] using h.1

theorem clear_of_disjoint (hs : separator ≠ []) (hk : ∀ c ∈ key, c ∉ separator) :
    Clear separator key := by
  induction key with
  | nil => exact clear_nil separator
  | cons x key ih =>
    rw [List.forall_mem_cons] at hk
    refine clear_cons.mpr ⟨fun h => ?_, ih hk.2⟩
    cases separator with
    | nil => exact hs rfl
    | cons y rest =>
      obtain ⟨rfl, -⟩ := List.cons_prefix_cons.mp h
      exact hk.1 List.mem_cons_self

/-- A separator is no longer than one that follows, so what comes behind that is not part of it. -/
theorem prefix_append_separator_iff {x : Char} :
    separator <+: x :: key ++ (separator ++ cs) ↔ separator <+: x :: (key ++ separator) := by
  rw [← List.append_assoc, List.cons_append]
  refine ⟨fun h => ?_, fun h => h.trans (List.prefix_append _ cs)⟩
  exact List.prefix_of_prefix_length_le h (List.prefix_append _ cs) (by simp; omega)

theorem cut_key_append (hs : separator ≠ []) (h : Clear separator key) (cs : List Char) :
    cut separator 0 (key ++ (separator ++ cs)) = key :: cut separator 0 cs := by
  induction key with
  | nil => exact cut_separator_append hs cs
  | cons x key ih =>
    obtain ⟨hx, hkey⟩ := clear_cons.mp h
    have hbegins : ¬ separator.isPrefixOf (x :: key ++ (separator ++ cs)) = true := by
      rwa [List.isPrefixOf_iff_prefix, prefix_append_separator_iff]
    rw [List.cons_append] at hbegins ⊢
    rw [cut_cons, if_neg hbegins, ih hkey, List.modifyHead_cons]

/-- A separator that begins earlier cuts the key short. -/
theorem clear_of_cut (h : (cut separator 0 (key ++ (separator ++ cs))).head? = some key) :
    Clear separator key := by
  induction key with
  | nil => exact clear_nil separator
  | cons x key ih =>
    rw [List.cons_append, cut_cons] at h
    split_ifs at h with hbegins
    · cases h
    · rw [List.head?_modifyHead, Option.map_eq_some_iff] at h
      obtain ⟨_, hkey, ⟨⟩⟩ := h
      rw [List.isPrefixOf_iff_prefix, ← List.cons_append, prefix_append_separator_iff] at hbegins
      exact clear_cons.mpr ⟨hbegins, ih hkey⟩

/-- A text is one segment exactly when there is no separator in it. -/
theorem cut_eq_singleton_iff (hs : separator ≠ []) :
    cut separator 0 key = [key] ↔ ¬ separator <:+: key := by
  induction key with
  | nil => simp [cut, hs]
  | cons x key ih =>
    rw [cut_cons, List.infix_cons_iff, not_or, ← ih, ← List.isPrefixOf_iff_prefix]
    split_ifs with hbegins
    · simp [hbegins]
    · obtain ⟨first, others, he⟩ := List.exists_cons_of_ne_nil (cut_ne_nil separator 0 key)
      simp [hbegins, he]

/-- A row of keys is cut into these keys again exactly when every separator between them is found
where it stands and there is none in the last key. -/
theorem cut_intercalate_iff (hs : separator ≠ []) {keys : List (List Char)} (hne : keys ≠ []) :
    cut separator 0 (separator.intercalate keys) = keys ↔
      (∀ key ∈ keys.dropLast, Clear separator key) ∧ ¬ separator <:+: keys.getLast hne := by
  induction keys with
  | nil => exact absurd rfl hne
  | cons key keys ih =>
    cases keys with
    | nil =>
      rw [List.intercalate_singleton, cut_eq_singleton_iff hs]
      simp
    | cons next keys =>
      rw [List.intercalate_cons_cons, List.append_assoc, List.dropLast_cons_cons,
        List.forall_mem_cons, List.getLast_cons_cons, and_assoc, ← ih (List.cons_ne_nil next keys)]
      constructor
      · intro h
        have hclear : Clear separator key := clear_of_cut (congrArg List.head? h)
        rw [cut_key_append hs hclear] at h
        exact ⟨hclear, List.tail_eq_of_cons_eq h⟩
      · rintro ⟨hclear, hrest⟩
        rw [cut_key_append hs hclear, hrest]

end Cut

/-! ### Spelling a row of keys -/

/-- A key that a path takes as one segment: there is something of it, and nothing of it could be
part of the separator. -/
structure Whole (s : PathSyntax) (key : String) : Prop where
  ne_empty : key ≠ ""
  disjoint : ∀ c ∈ key.toList, c ∉ s.separator.toList

theorem whole_iff {s : PathSyntax} {key : String} :
    s.Whole key ↔ key ≠ "" ∧ (key.toList.all fun c => !s.separator.toList.contains c) = true := by
  constructor
  · rintro ⟨hne, hdisjoint⟩
    exact ⟨hne, by simpa using hdisjoint⟩
  · rintro ⟨hne, hall⟩
    exact ⟨hne, by simpa using hall⟩

instance (s : PathSyntax) (key : String) : Decidable (s.Whole key) :=
  decidable_of_iff' _ whole_iff

def spell (s : PathSyntax) (keys : List String) : String := s.separator.intercalate keys

variable {s : PathSyntax}

@[simp] theorem spell_nil (s : PathSyntax) : s.spell [] = "" := String.intercalate_nil

@[simp] theorem spell_singleton (s : PathSyntax) (key : String) : s.spell [key] = key :=
  String.intercalate_singleton

/-- Splitting gives back a row of keys exactly when every separator between them is found where it
stands and there is none in the last key. -/
theorem split_spell_iff (hs : s.separator ≠ "") {keys : List String} (hne : keys ≠ []) :
    s.split (s.spell keys) = keys ↔
      (∀ key ∈ keys.dropLast, Clear s.separator.toList key.toList) ∧
      ¬ s.separator.toList <:+: (keys.getLast hne).toList := by
  have hsep : s.separator.toList ≠ [] := fun h => hs (String.toList_eq_nil_iff.mp h)
  have hmap : ∀ css : List (List Char),
      css.map String.ofList = keys ↔ css = keys.map String.toList := by
    intro css
    constructor <;> (rintro rfl; simp [Function.comp_def])
  rw [split, if_neg hs, spell, String.toList_intercalate, hmap,
    cut_intercalate_iff hsep (by simpa using hne), ← List.map_dropLast, List.forall_mem_map,
    List.getLast_map]

theorem Whole.clear (hs : s.separator ≠ "") {key : String} (h : s.Whole key) :
    Clear s.separator.toList key.toList :=
  clear_of_disjoint (fun hnil => hs (String.toList_eq_nil_iff.mp hnil)) h.disjoint

theorem split_spell (hs : s.separator ≠ "") {keys : List String} (hne : keys ≠ [])
    (hk : ∀ key ∈ keys, s.Whole key) : s.split (s.spell keys) = keys := by
  refine (split_spell_iff hs hne).mpr ⟨fun key hkey => ?_, ?_⟩
  · exact (hk key (List.mem_of_mem_dropLast hkey)).clear hs
  · refine not_infix_of_clear (fun hnil => hs (String.toList_eq_nil_iff.mp hnil)) ?_
    exact (hk _ (List.getLast_mem hne)).clear hs

theorem split_whole (hs : s.separator ≠ "") {key : String} (hk : s.Whole key) :
    s.split key = [key] := by
  have h := split_spell hs (List.cons_ne_nil key []) (by simpa using hk)
  rwa [spell_singleton] at h

theorem spell_ne_empty {keys : List String} (hne : keys ≠ []) (hk : ∀ key ∈ keys, key ≠ "") :
    s.spell keys ≠ "" := by
  cases keys with
  | nil => exact absurd rfl hne
  | cons key keys =>
    rw [List.forall_mem_cons] at hk
    cases keys with
    | nil => simpa using hk.1
    | cons next keys =>
      rw [spell, String.intercalate_cons_cons]
      intro h
      have hl := congrArg String.toList h
      simp [hk.1] at hl

theorem join_spell (s : PathSyntax) {keys : List String} (hk : ∀ key ∈ keys, key ≠ "")
    (key : String) : s.join (s.spell keys) key = s.spell (keys ++ [key]) := by
  by_cases hne : keys = []
  · subst hne
    simp [join]
  · rw [join, if_neg (spell_ne_empty hne hk), spell, spell,
      String.intercalate_append_of_ne_nil hne (List.cons_ne_nil key []),
      String.intercalate_singleton]

theorem foldl_join (s : PathSyntax) {keys : List String} (hk : ∀ key ∈ keys, key ≠ "") :
    keys.foldl s.join "" = s.spell keys := by
  induction keys using List.reverseRecOn with
  | nil => exact s.spell_nil.symm
  | append_singleton keys key ih =>
    have hkeys : ∀ k ∈ keys, k ≠ "" := fun k h => hk k (List.mem_append_left _ h)
    rw [List.foldl_append, ih hkeys]
    exact s.join_spell hkeys key

/-- Whether the path that is made by joining keys one after the other leads along these keys. -/
structure Legible (s : PathSyntax) (keys : List String) : Prop where
  ne_nil : keys ≠ []
  ne_empty : ∀ key ∈ keys, key ≠ ""
  split : s.split (keys.foldl s.join "") = keys

theorem legible_of_whole (hs : s.separator ≠ "") {keys : List String} (hne : keys ≠ [])
    (hk : ∀ key ∈ keys, s.Whole key) : s.Legible keys where
  ne_nil := hne
  ne_empty key hkey := (hk key hkey).ne_empty
  split := by rw [s.foldl_join fun key hkey => (hk key hkey).ne_empty, split_spell hs hne hk]

theorem Legible.getValue? {keys : List String} (h : s.Legible keys) (v : Value) :
    s.getValue? v (keys.foldl s.join "") = v.follow? keys := by
  have hpath : keys.foldl s.join "" ≠ "" := by
    rw [s.foldl_join h.ne_empty]
    exact spell_ne_empty h.ne_nil h.ne_empty
  rw [PathSyntax.getValue?, if_neg hpath, h.split]

theorem Legible.get? {keys : List String} (h : s.Legible keys) (d : Document) :
    s.get? d (keys.foldl s.join "") = (Value.document d).follow? keys := by
  rw [get?_eq_getValue?, h.getValue?]

theorem separable_of_whole (hs : s.separator ≠ "") :
    s.Separable (fun path => ∃ keys, (∀ key ∈ keys, s.Whole key) ∧ path = s.spell keys)
      s.Whole where
  root := ⟨[], nofun, (s.spell_nil).symm⟩
  ne_empty _ hk := hk.ne_empty
  join path key hpath hk := by
    obtain ⟨keys, hkeys, rfl⟩ := hpath
    refine ⟨keys ++ [key], ?_, s.join_spell (fun k h => (hkeys k h).ne_empty) key⟩
    simpa [or_imp, forall_and] using And.intro hkeys hk
  split path key hpath hp hk := by
    obtain ⟨keys, hkeys, rfl⟩ := hpath
    have hne : keys ≠ [] := by
      rintro rfl
      exact hp s.spell_nil
    have happend : ∀ k ∈ keys ++ [key], s.Whole k := by
      simpa [or_imp, forall_and] using And.intro hkeys hk
    rw [s.join_spell fun k h => (hkeys k h).ne_empty, split_spell hs (by simp) happend,
      split_spell hs hne hkeys, split_whole hs hk]

end PathSyntax

end Dossier
