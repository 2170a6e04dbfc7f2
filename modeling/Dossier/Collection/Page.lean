import Dossier.Collection.Basic
import Dossier.Number.Saturating

/-! Chunks and pages. -/

namespace Dossier

/-- One page of a collection, with the numbers of its neighbours. -/
structure Page where
  items : List Value
  prev : Option UInt64
  next : Option UInt64
  page : UInt64
  perPage : UInt64

namespace Page

def inspect (p : Page) : String :=
  let number (n : UInt64) := toString n.toNat
  Inspect.record "Page" [("items", Inspect.listing (Value.inspectItems p.items)),
    ("prev", Inspect.optional (p.prev.map number)), ("next", Inspect.optional (p.next.map number)),
    ("page", number p.page), ("per_page", number p.perPage)]

/-- The JSON text of a page. -/
def serialize (p : Page) : String :=
  let number (n : UInt64) := toString n.toNat
  let optional (n : Option UInt64) := (n.map number).getD "null"
  Json.braced [Json.quoted "items" ++ ":" ++ Json.bracketed (Value.serializeItems p.items),
    Json.quoted "prev" ++ ":" ++ optional p.prev, Json.quoted "next" ++ ":" ++ optional p.next,
    Json.quoted "page" ++ ":" ++ number p.page, Json.quoted "per_page" ++ ":" ++ number p.perPage]

end Page

namespace Collection

variable {μ : Type}

/-- Cuts a list into pieces of `size + 1` items; the last one may be shorter. -/
def pieces (size : Nat) : List Value → List (List Value)
  | [] => []
  | item :: rest => (item :: rest.take size) :: pieces size (rest.drop size)
termination_by items => items.length
decreasing_by simp only [List.length_cons, List.length_drop]; omega

/-- Arrays of consecutive items, at least one in each. -/
def chunk (c : Collection μ) (size : Nat) : Collection μ :=
  c.collect ((pieces (size - 1) c.items).map .array)

/-- A page by its number, counted from one; its size is that of the settings unless given. A number
or size of zero counts as one. -/
def paginate (c : Collection μ) (page : UInt64) (perPage : Option UInt64) : Page :=
  let page := max page 1
  let perPage := max (perPage.getD c.context.settings.pageSize) 1
  let start := (Saturating.mul (page - 1) perPage).toNat
  { items := (c.items.drop start).take perPage.toNat
    prev := if 1 < page then some (page - 1) else none
    next := if perPage.toNat < c.size - start then some (page + 1) else none
    page
    perPage }

end Collection

end Dossier
