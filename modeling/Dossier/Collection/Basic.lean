import Dossier.Context

/-! Collections: values in order, with the context that they hand on. -/

namespace Dossier

structure Collection (μ : Type) where
  items : List Value
  context : Context μ

/-- What a grouping, a sum or a comparison looks at: the value at a path, or what a function makes
of the item. -/
inductive Selector where
  | path (path : String)
  | function (f : Value → Value)

namespace Selector

/-- The value selected from an item; the empty path selects the item itself. -/
def select (s : PathSyntax) (item : Value) : Selector → Value
  | path p => if p = "" then item else (s.getValue? item p).getD .null
  | function f => f item

def inspect : Selector → String
  | path p => Inspect.application "Selector::Path" p
  | function _ => "Selector::Fn"

end Selector

namespace Collection

variable {μ : Type}

/-- A collection that starts a lineage. -/
def new (settings : Settings) (items : List Value) : Collection μ := ⟨items, .new settings⟩

def empty : Collection μ := new .standard []

instance : Inhabited (Collection μ) := ⟨empty⟩

/-- Other items in the same context. -/
def collect (c : Collection μ) (items : List Value) : Collection μ := { c with items }

def size (c : Collection μ) : Nat := c.items.length

def isEmpty (c : Collection μ) : Bool := c.items.isEmpty

def get? (c : Collection μ) (i : Nat) : Option Value := c.items[i]?

def first? (c : Collection μ) : Option Value := c.items.head?

def last? (c : Collection μ) : Option Value := c.items.getLast?

def addOperator (c : Collection μ) (name : String) (op : Operator) :
    Except Fault (Collection μ) :=
  return { c with context := ← c.context.addOperator name op }

def addMacro (c : Collection μ) (name : String) (body : μ) : Except Fault (Collection μ) :=
  return { c with context := ← c.context.addMacro name body }

def call [MacroBody μ (Collection μ)] (c : Collection μ) (name : String) (args : List Value) :
    Except Fault Value :=
  c.context.call c name args

/-- Two collections are equal when their items are. -/
def equal (c d : Collection μ) : Bool := Value.equalItems c.items d.items

instance : BEq (Collection μ) := ⟨equal⟩

/-- The value that a selector selects from an item of the collection. -/
def select (c : Collection μ) (s : Selector) (item : Value) : Value := s.select c.context.paths item

/-- The values selected from all items. -/
def selected (c : Collection μ) (s : Selector) : List Value := c.items.map (c.select s)

def toValue (c : Collection μ) : Value := .array c.items

def inspect (c : Collection μ) : String :=
  Inspect.record "Collection" [("items", Inspect.listing (Value.inspectItems c.items)),
    ("macros", c.context.macroListing)]

/-! ### Conditions -/

/-- Applies a change where a condition holds. -/
def when (c : Collection μ) (condition : Bool) (f : Collection μ → Collection μ) : Collection μ :=
  if condition then f c else c

def whenElse (c : Collection μ) (condition : Bool) (f g : Collection μ → Collection μ) :
    Collection μ :=
  if condition then f c else g c

def whenEmpty (c : Collection μ) (f : Collection μ → Collection μ) : Collection μ :=
  c.when c.isEmpty f

def whenNotEmpty (c : Collection μ) (f : Collection μ → Collection μ) : Collection μ :=
  c.when (!c.isEmpty) f

end Collection

end Dossier
