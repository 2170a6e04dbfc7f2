import Dossier.Collection.Basic
import Dossier.Number.Saturating

/-! Edits at the ends and in the middle of a collection. What is taken out comes first, where there
is something to take. -/

namespace Dossier.Collection

variable {μ : Type}

def push (c : Collection μ) (item : Value) : Collection μ := c.collect (c.items ++ [item])

def unshift (c : Collection μ) (item : Value) : Collection μ := c.collect (item :: c.items)

def pop (c : Collection μ) : Option Value × Collection μ :=
  (c.items.getLast?, c.collect c.items.dropLast)

def shift (c : Collection μ) : Option Value × Collection μ :=
  (c.items.head?, c.collect c.items.tail)

/-- The first position of a range of `count` items and the position behind its last one, both brought
within the collection. -/
def bounds (c : Collection μ) (start count : UInt64) : Nat × Nat :=
  let first := min start.toNat c.size
  (first, min (Saturating.add (.ofNat first) count).toNat c.size)

/-- Puts items in place of `count` ones from a position on; the collection of those taken out comes
first. -/
def splice (c : Collection μ) (start count : UInt64) (items : List Value) :
    Collection μ × Collection μ :=
  let range := c.bounds start count
  (c.collect ((c.items.take range.2).drop range.1),
    c.collect (c.items.take range.1 ++ items ++ c.items.drop range.2))

end Dossier.Collection
