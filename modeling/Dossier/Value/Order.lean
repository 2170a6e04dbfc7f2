import Dossier.Value.Basic

/-! Equality and order of values. Numbers of different kinds are equal when they denote the same,
and documents are equal whatever the order of their keys; for the order, the entries of documents
are sorted by key first. -/

namespace Dossier

mutual

/-- Equality: of documents, the same number of entries and each one found in the other. -/
def Value.equal : Value → Value → Bool
  | .null, .null => true
  | .bool a, .bool b => a == b
  | .number a, .number b => a.equal b
  | .string a, .string b => a == b
  | .array xs, .array ys => Value.equalItems xs ys
  | .document d, .document e => d.equal e
  | .pattern p, .pattern q => p.source == q.source
  | _, _ => false

def Value.equalItems : List Value → List Value → Bool
  | [], [] => true
  | x :: xs, y :: ys => x.equal y && Value.equalItems xs ys
  | _, _ => false

def Document.equal : Document → Document → Bool
  | ⟨es⟩, e => es.length == e.size && Document.entriesIn es e

/-- Whether a document has all these entries. -/
def Document.entriesIn : List (String × Value) → Document → Bool
  | [], _ => true
  | (key, v) :: rest, e =>
    (match e.get? key with
      | some w => v.equal w
      | none => false) && Document.entriesIn rest e

end

instance : BEq Value := ⟨Value.equal⟩

instance : BEq Document := ⟨Document.equal⟩

/-- Entries sorted by key. -/
def Entries.sortByKey {α : Type} (es : Entries α) : Entries α :=
  es.mergeSort fun a b => (Ord.compare a.1 b.1).isLE

mutual

/-- The value with the entries of all documents in it sorted by key. -/
def Value.sorted : Value → Value
  | .array xs => .array (Value.sortedItems xs)
  | .document d => .document d.sorted
  | v => v

def Value.sortedItems : List Value → List Value
  | [] => []
  | x :: xs => x.sorted :: Value.sortedItems xs

def Document.sorted : Document → Document
  | ⟨es⟩ => ⟨Entries.sortByKey (Document.sortedEntries es)⟩

def Document.sortedEntries : List (String × Value) → List (String × Value)
  | [] => []
  | (key, v) :: rest => (key, v.sorted) :: Document.sortedEntries rest

end

mutual

/-- The order of two values whose documents are sorted: by kind first; arrays and documents item by
item, the shorter one first. -/
def Value.compareSorted : Value → Value → Ordering
  | .bool a, .bool b => Ord.compare a b
  | .number a, .number b => a.compare b
  | .string a, .string b => Ord.compare a b
  | .array xs, .array ys => Value.compareItems xs ys
  | .document ⟨es⟩, .document ⟨fs⟩ => Value.compareEntries es fs
  | .pattern p, .pattern q => Ord.compare p.source q.source
  | v, w => Ord.compare v.kind.rank w.kind.rank

def Value.compareItems : List Value → List Value → Ordering
  | [], [] => .eq
  | [], _ :: _ => .lt
  | _ :: _, [] => .gt
  | x :: xs, y :: ys => (x.compareSorted y).then (Value.compareItems xs ys)

def Value.compareEntries : List (String × Value) → List (String × Value) → Ordering
  | [], [] => .eq
  | [], _ :: _ => .lt
  | _ :: _, [] => .gt
  | (k, x) :: xs, (l, y) :: ys =>
    (Ord.compare k l).then ((x.compareSorted y).then (Value.compareEntries xs ys))

end

/-- The order of values. -/
def Value.compare (v w : Value) : Ordering := v.sorted.compareSorted w.sorted

def Document.compare (d e : Document) : Ordering :=
  Value.compareEntries d.sorted.entries e.sorted.entries

instance : Ord Value := ⟨Value.compare⟩

instance : Ord Document := ⟨Document.compare⟩

/-- A stable sort in the order of values. -/
def Value.sort (xs : List Value) : List Value := xs.mergeSort fun v w => (v.compare w).isLE

end Dossier
