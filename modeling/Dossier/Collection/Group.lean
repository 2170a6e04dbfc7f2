import Dossier.Collection.Basic

/-! Grouping items by the plain text of a selected value. -/

namespace Dossier.Collection

variable {μ : Type}

/-- The key of an item's group. -/
def groupKey (c : Collection μ) (s : Selector) (item : Value) : String :=
  (c.select s item).plainText

/-- The items of each group; groups come in the order of their first items. -/
def groupBy (c : Collection μ) (s : Selector) : Entries (List Value) :=
  c.items.foldl (fun groups item =>
    let key := c.groupKey s item
    groups.insert key ((groups.get? key).getD [] ++ [item])) []

/-- The number of items in each group. -/
def countBy (c : Collection μ) (s : Selector) : Entries Nat :=
  c.items.foldl (fun counts item =>
    let key := c.groupKey s item
    counts.insert key ((counts.get? key).getD 0 + 1)) []

end Dossier.Collection
