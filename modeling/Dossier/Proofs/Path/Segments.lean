import Dossier.Path.Access
import Mathlib.Tactic.SplitIfs

/-! Paths put together from a prefix and a key, and the segments they are cut into again. A
separator of one character cannot arise where two parts meet, so cutting a joined path cuts its two
parts. -/

namespace Dossier

namespace PathSyntax

/-! ### Cutting at a separator -/

theorem cut_ne_nil (separator : List Char) (skip : Nat) (cs : List Char) :
    cut separator skip cs ≠ [] := by
  induction cs generalizing skip with
  | nil => simp [cut]
  | cons c cs ih =>
    cases skip with
    | succ skip => exact ih skip
    | zero =>
      rw [cut]
      split
      · simp
      · split <;> simp

theorem cut_cons (separator : List Char) (x : Char) (cs : List Char) :
    cut separator 0 (x :: cs) =
      if separator.isPrefixOf (x :: cs) then [] :: cut separator (separator.length - 1) cs
      else (cut separator 0 cs).modifyHead (x :: ·) := by
  obtain ⟨first, others, he⟩ := List.exists_cons_of_ne_nil (cut_ne_nil separator 0 cs)
  by_cases h : separator.isPrefixOf (x :: cs) <;> simp [cut, h, he]

theorem cut_singleton_cons (c x : Char) (cs : List Char) :
    cut [c] 0 (x :: cs) =
      if c = x then [] :: cut [c] 0 cs else (cut [c] 0 cs).modifyHead (x :: ·) := by
  simp [cut_cons]

theorem cut_singleton_append (c : Char) (as bs : List Char) :
    cut [c] 0 (as ++ c :: bs) = cut [c] 0 as ++ cut [c] 0 bs := by
  induction as with
  | nil => simp [cut_singleton_cons, cut]
  | cons a as ih =>
    rw [List.cons_append, cut_singleton_cons, cut_singleton_cons, ih]
    by_cases h : c = a
    · simp [h]
    · obtain ⟨first, others, he⟩ := List.exists_cons_of_ne_nil (cut_ne_nil [c] 0 as)
      simp [h, he]

variable {s : PathSyntax}

theorem separator_eq_singleton (hs : s.separator.length = 1) :
    ∃ c, s.separator = String.ofList [c] := by
  obtain ⟨c, hc⟩ := List.length_eq_one_iff.mp (String.length_toList.trans hs)
  exact ⟨c, by rw [← hc, String.ofList_toList]⟩

theorem split_ne_nil (s : PathSyntax) (path : String) : s.split path ≠ [] := by
  unfold split
  split_ifs
  · simp
  · simpa using cut_ne_nil s.separator.toList 0 path.toList

theorem split_join (hs : s.separator.length = 1) {path : String} (hp : path ≠ "") (key : String) :
    s.split (s.join path key) = s.split path ++ s.split key := by
  obtain ⟨c, hc⟩ := separator_eq_singleton hs
  have hne : s.separator ≠ "" := by
    intro h
    simp [h] at hs
  have hj : (s.join path key).toList = path.toList ++ c :: key.toList := by
    simp [join, hp, hc]
  simp only [split, if_neg hne, hj]
  rw [hc, String.toList_ofList, cut_singleton_append, List.map_append]

theorem join_ne_empty (s : PathSyntax) (path : String) {key : String} (hk : key ≠ "") :
    s.join path key ≠ "" := by
  unfold join
  split_ifs with hp
  · exact hk
  · intro h
    have hl := congrArg String.toList h
    simp [hp, hk] at hl

end PathSyntax

/-! ### Following segments -/

theorem Value.follow?_singleton (v : Value) (segment : String) :
    v.follow? [segment] = v.child? segment := by
  cases h : v.child? segment <;> simp [follow?, h]

theorem Value.follow?_append (v : Value) (as bs : List String) :
    v.follow? (as ++ bs) = (v.follow? as).bind (·.follow? bs) := by
  induction as generalizing v with
  | nil => rfl
  | cons a as ih =>
    cases h : v.child? a with
    | none => simp [Value.follow?, h]
    | some w => simp [Value.follow?, h, ih]

namespace PathSyntax

/-- Reading in a document is reading in the value that it is. -/
theorem get?_eq_getValue? (s : PathSyntax) (d : Document) (path : String) :
    s.get? d path = s.getValue? (.document d) path := by
  unfold get? getValue?
  split_ifs with hp
  · rfl
  · cases hsplit : s.split path with
    | nil => exact absurd hsplit (s.split_ne_nil path)
    | cons key rest => rfl

variable {s : PathSyntax}

/-- The value below a prefix of paths: the empty prefix stands for the root. -/
def below? (s : PathSyntax) (root : Value) (path : String) : Option Value :=
  if path = "" then some root else s.getValue? root path

/-- Paths and keys that splitting tells apart again: a key that is joined to a path adds its
segments to those of the path. -/
structure Separable (s : PathSyntax) (IsPath IsKey : String → Prop) : Prop where
  root : IsPath ""
  ne_empty : ∀ key, IsKey key → key ≠ ""
  join : ∀ path key, IsPath path → IsKey key → IsPath (s.join path key)
  split : ∀ path key, IsPath path → path ≠ "" → IsKey key →
    s.split (s.join path key) = s.split path ++ s.split key

/-- With a separator of one character every key that is there can be told apart. -/
theorem separable_of_length (hs : s.separator.length = 1) :
    s.Separable (fun _ => True) (· ≠ "") where
  root := trivial
  ne_empty _ hk := hk
  join _ _ _ _ := trivial
  split _ key _ hp _ := split_join hs hp key

variable {IsPath IsKey : String → Prop} {path key : String}

/-- Reading at a joined path goes on from what is below its prefix. -/
theorem getValue?_join (h : s.Separable IsPath IsKey) (root : Value) (hpath : IsPath path)
    (hkey : IsKey key) :
    s.getValue? root (s.join path key) = (s.below? root path).bind (·.follow? (s.split key)) := by
  have hk := h.ne_empty key hkey
  have hj := s.join_ne_empty path hk
  by_cases hp : path = ""
  · subst hp
    simp [getValue?, below?, join, hk]
  · simp only [getValue?, below?, if_neg hj, if_neg hp]
    rw [h.split path key hpath hp hkey, Value.follow?_append]

theorem below?_join (h : s.Separable IsPath IsKey) (root : Value) (hpath : IsPath path)
    (hkey : IsKey key) :
    s.below? root (s.join path key) = (s.below? root path).bind (·.follow? (s.split key)) := by
  have hk := h.ne_empty key hkey
  rw [← getValue?_join h root hpath hkey, below?, if_neg (s.join_ne_empty path hk)]

end PathSyntax

end Dossier
