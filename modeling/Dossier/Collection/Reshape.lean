import Dossier.Collection.Basic

/-! Changing items and cutting, padding and joining lists of them. -/

namespace Dossier.Collection

variable {μ : Type}

/-- A function applied to every item and its position. -/
def map (c : Collection μ) (f : Value → Nat → Value) : Collection μ :=
  c.collect (c.items.mapIdx fun i item => f item i)

/-- The value at a path of every item, null where there is none. -/
def pluck (c : Collection μ) (path : String) : Collection μ := c.collect (c.selected (.path path))

def reduce {α : Type} (c : Collection μ) (f : α → Value → Nat → α) (seed : α) : α :=
  c.items.zipIdx.foldl (fun acc (item, i) => f acc item i) seed

/-- The items that a visitor sees: it stops after the first one for which it says so. -/
def visited (f : Value → Nat → Bool) (start : Nat) : List Value → List Value
  | [] => []
  | item :: rest => if f item start then item :: visited f (start + 1) rest else [item]

/-- Shows the items to a visitor, for its effects only. -/
def each (c : Collection μ) (_ : Value → Nat → Bool) : Collection μ := c

def concat (c : Collection μ) (items : List Value) : Collection μ := c.collect (c.items ++ items)

/-- The items from a position up to another, both brought within the collection. -/
def slice (c : Collection μ) (start : Nat) (stop : Option Nat) : Collection μ :=
  let stop := min (stop.getD c.size) c.size
  let start := min start stop
  c.collect ((c.items.take stop).drop start)

/-- The side on which a collection is filled up. -/
inductive Side where
  | left
  | right
  deriving DecidableEq, Inhabited

/-- Fills a collection up to a size. -/
def pad (c : Collection μ) (size : Nat) (fill : Value) (side : Side) : Collection μ :=
  let padding := List.replicate (size - c.size) fill
  match side with
  | .left => c.collect (padding ++ c.items)
  | .right => c.collect (c.items ++ padding)

/-- The keys of all documents, in the order in which they first come. -/
def keys (c : Collection μ) : List String :=
  (c.items.filterMap Value.document?).flatMap Document.keys |>.eraseDups

/-! ### Projection -/

/-- A document with the paths given and nothing else, as far as they lead somewhere. -/
def projectDocument (s : PathSyntax) (d : Document) (paths : List String) : Except Fault Document :=
  paths.foldlM (fun projected path =>
    match s.get? d path with
    | some v => s.set projected path v
    | none => .ok projected) .empty

/-- A document without what is at the paths, taken out one after the other. -/
def forgetPaths (s : PathSyntax) (d : Document) (paths : List String) : Document :=
  paths.foldl (fun d path => (s.unset d path).2) d

/-- Every document projected to the paths; other items stay. -/
def only (c : Collection μ) (paths : List String) : Except Fault (Collection μ) :=
  return c.collect (← c.items.mapM fun item =>
    match item with
    | .document d => return .document (← projectDocument c.context.paths d paths)
    | item => return item)

/-- Every document without the paths; other items stay. -/
def forget (c : Collection μ) (paths : List String) : Collection μ :=
  c.collect (c.items.map fun item =>
    match item with
    | .document d => .document (forgetPaths c.context.paths d paths)
    | item => item)

end Dossier.Collection
