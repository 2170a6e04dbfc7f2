import Dossier.Collection.Basic
import Dossier.Value.Hash

/-! Sorting, dropping duplicates, and drawing at random. -/

namespace Dossier

/-- The two directions of a sort. -/
inductive Direction where
  | ascending
  | descending
  deriving DecidableEq, Inhabited

def Direction.apply : Direction → Ordering → Ordering
  | ascending, o => o
  | descending, o => o.swap

namespace Collection

variable {μ : Type}

/-- A stable sort by a comparison. -/
def sortBy (c : Collection μ) (compare : Value → Value → Ordering) : Collection μ :=
  c.collect (c.items.mergeSort fun v w => (compare v w).isLE)

def sort (c : Collection μ) : Collection μ := c.sortBy Value.compare

/-- The order of what two items have at a path; an item without it comes last. -/
def compareAt (s : PathSyntax) (path : String) (v w : Value) : Ordering :=
  match s.getValue? v path, s.getValue? w path with
  | some x, some y => x.compare y
  | some _, none => .lt
  | none, some _ => .gt
  | none, none => .eq

/-- A stable sort by what items have at a path. -/
def sortByKey (c : Collection μ) (path : String) (direction : Direction) : Collection μ :=
  c.sortBy fun v w => direction.apply (compareAt c.context.paths path v w)

/-! ### Duplicates -/

/-- Whether a key is among those seen, each kept with its hash: only keys of the same hash are
compared. -/
def isSeen (hash : Value → UInt64) (seen : List (UInt64 × Value)) (key : Value) : Bool :=
  seen.any fun (h, v) => h == hash key && v.equal key

/-- The items whose key has not been seen before. -/
def dropSeen (hash : Value → UInt64) (key : Value → Value) :
    List (UInt64 × Value) → List Value → List Value
  | _, [] => []
  | seen, item :: rest =>
    let k := key item
    if isSeen hash seen k then dropSeen hash key seen rest
    else item :: dropSeen hash key ((hash k, k) :: seen) rest

/-- The first item of each selected value. -/
def uniqueBy (c : Collection μ) (s : Selector) : Collection μ :=
  c.collect (dropSeen Value.hash (c.select s) [] c.items)

def unique (c : Collection μ) : Collection μ := c.collect (dropSeen Value.hash id [] c.items)

/-! ### Chance -/

/-- The items in the order of numbers drawn for them, one each. -/
def shuffle (c : Collection μ) (draws : List Nat) : Collection μ :=
  let drawn := c.items.mapIdx fun i item => (draws.getD i 0, item)
  c.collect ((drawn.mergeSort fun a b => decide (a.1 ≤ b.1)).map Prod.snd)

/-- As many items as asked for, as long as there are some, chosen by numbers drawn for them. -/
def random (c : Collection μ) (count : Nat) (draws : List Nat) : Collection μ :=
  c.collect ((c.shuffle draws).items.take count)

end Collection

end Dossier
