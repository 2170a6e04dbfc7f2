import Dossier.Stage

/-! Chains kept for later: a source whose items may not be there yet, and steps that wait for them.
-/

namespace Dossier

/-- A step with the context as it was when the step was put into the chain. It makes the items of the
next step from the collection of those it waits for. -/
structure Deferred.Pending (μ : Type) where
  context : Context μ
  step : Collection μ → Except Fault (List Value)

/-- A source of items, the steps that wait for it, and the context for what follows. A source that
fails has its failure in place of items. -/
structure Deferred (μ : Type) where
  source : Except Fault (List Value)
  pending : List (Deferred.Pending μ)
  context : Context μ

namespace Deferred

variable {μ : Type}

/-- A chain that starts a lineage. -/
def new (settings : Settings) (source : Except Fault (List Value)) : Deferred μ :=
  ⟨source, [], .new settings⟩

/-- A chain over the items of a collection, in its context. -/
def ofCollection (c : Collection μ) : Deferred μ := ⟨.ok c.items, [], c.context⟩

/-- Another source in the same context; nothing of the chain so far is kept. -/
def collect (d : Deferred μ) (source : Except Fault (List Value)) : Deferred μ :=
  ⟨source, [], d.context⟩

/-- Puts a step behind the others. -/
def andThen (d : Deferred μ) (step : Collection μ → Except Fault (List Value)) : Deferred μ :=
  { d with pending := d.pending ++ [⟨d.context, step⟩] }

/-- Puts a stage behind the others. A query is read at once, and what is wrong with it shows when the
stage runs. -/
def add (d : Deferred μ) : Stage μ → Deferred μ
  | .find q =>
    let read := q.read d.context.settings.marker
    d.andThen fun c => return (← c.find (.built (← read))).items
  | .not q =>
    let read := q.read d.context.settings.marker
    d.andThen fun c => return (← c.not (.built (← read))).items
  | .findBy p => d.andThen fun c => .ok (c.findBy p).items
  | .notBy p => d.andThen fun c => .ok (c.notBy p).items
  | .whereOp field operator operand =>
    d.andThen fun c => return (← c.whereOp field operator operand).items
  | .map f => d.andThen fun c => .ok (c.map f).items
  | .pluck path => d.andThen fun c => .ok (c.pluck path).items
  | .each visitor => d.andThen fun c => .ok (c.each visitor).items
  | .concat items => d.andThen fun c => .ok (c.concat items).items
  | .slice start stop => d.andThen fun c => .ok (c.slice start stop).items
  | .pad size fill side => d.andThen fun c => .ok (c.pad size fill side).items
  | .compact => d.andThen fun c => .ok c.compact.items
  | .only paths => d.andThen fun c => return (← c.only paths).items
  | .forget paths => d.andThen fun c => .ok (c.forget paths).items
  | .sort => d.andThen fun c => .ok c.sort.items
  | .sortByKey path direction => d.andThen fun c => .ok (c.sortByKey path direction).items
  | .sortBy compare => d.andThen fun c => .ok (c.sortBy compare).items
  | .unique => d.andThen fun c => .ok c.unique.items
  | .uniqueBy s => d.andThen fun c => .ok (c.uniqueBy s).items
  | .chunk size => d.andThen fun c => .ok (c.chunk size).items
  | .shuffle draws => d.andThen fun c => .ok (c.shuffle draws).items
  | .random count draws => d.andThen fun c => .ok (c.random count draws).items
  | .push item => d.andThen fun c => .ok (c.push item).items
  | .unshift item => d.andThen fun c => .ok (c.unshift item).items
  | .when condition f => d.andThen fun c => .ok (c.when condition f).items
  | .whenElse condition f g => d.andThen fun c => .ok (c.whenElse condition f g).items
  | .whenEmpty f => d.andThen fun c => .ok (c.whenEmpty f).items
  | .whenNotEmpty f => d.andThen fun c => .ok (c.whenNotEmpty f).items
  | .dump => d.andThen fun c => .ok c.items

def addOperator (d : Deferred μ) (name : String) (op : Operator) : Except Fault (Deferred μ) :=
  return { d with context := ← d.context.addOperator name op }

def addMacro (d : Deferred μ) (name : String) (body : μ) : Except Fault (Deferred μ) :=
  return { d with context := ← d.context.addMacro name body }

/-- Puts a link behind the others; a registration takes effect at once, for what follows. -/
def link (d : Deferred μ) : Link μ → Except Fault (Deferred μ)
  | .stage s => .ok (d.add s)
  | .addOperator name op => d.addOperator name op
  | .addMacro name body => d.addMacro name body

def linkAll (d : Deferred μ) (links : List (Link μ)) : Except Fault (Deferred μ) :=
  links.foldlM link d

/-- Runs a step on the items that it waited for. -/
def Pending.run (items : List Value) (p : Pending μ) : Except Fault (List Value) :=
  p.step ⟨items, p.context⟩

/-- Waits for the source and runs the steps, up to the first failure. -/
def items (d : Deferred μ) : Except Fault (List Value) := do
  d.pending.foldlM Pending.run (← d.source)

/-- The collection at the end of the chain. -/
def collection (d : Deferred μ) : Except Fault (Collection μ) := return ⟨← d.items, d.context⟩

/-! ### Endings -/

/-- Ends the chain with what is made of the collection, which may fail. -/
def resolve {α : Type} (d : Deferred μ) (f : Collection μ → Except Fault α) : Except Fault α := do
  f (← d.collection)

/-- Ends the chain with what a function makes of the collection. The endings below that cannot fail
by themselves are this one. -/
def pipe {α : Type} (d : Deferred μ) (f : Collection μ → α) : Except Fault α :=
  d.resolve fun c => .ok (f c)

/-- Ends the chain with the first item that satisfies a query; the query is read at once. -/
def findOne (d : Deferred μ) (q : Query.Source) : Except Fault (Option Value) :=
  let read := q.read d.context.settings.marker
  d.resolve fun c => do c.findOne (.built (← read))

/-- Ends the chain with what a macro makes of the collection. -/
def call [MacroBody μ (Collection μ)] (d : Deferred μ) (name : String) (args : List Value) :
    Except Fault Value :=
  d.resolve fun c => c.call name args

section Pipes

variable (d : Deferred μ) (p : Value → Bool) (s : Selector)

def all : Except Fault (List Value) := d.pipe Collection.items

def count : Except Fault Nat := d.pipe Collection.size

def isEmpty : Except Fault Bool := d.pipe Collection.isEmpty

def isNotEmpty : Except Fault Bool := d.pipe fun c => !c.isEmpty

def first? : Except Fault (Option Value) := d.pipe Collection.first?

def last? : Except Fault (Option Value) := d.pipe Collection.last?

def firstWhere : Except Fault (Option Value) := d.pipe (·.firstWhere p)

def lastWhere : Except Fault (Option Value) := d.pipe (·.lastWhere p)

def findOneBy : Except Fault (Option Value) := d.pipe (·.findOneBy p)

def indexOf : Except Fault (Option Nat) := d.pipe (·.indexOf p)

def every : Except Fault Bool := d.pipe (·.every p)

def any : Except Fault Bool := d.pipe (·.any p)

def partition : Except Fault (Collection μ × Collection μ) := d.pipe (·.partition p)

def reduce {α : Type} (f : α → Value → Nat → α) (seed : α) : Except Fault α :=
  d.pipe (·.reduce f seed)

def keys : Except Fault (List String) := d.pipe Collection.keys

def groupBy : Except Fault (Entries (List Value)) := d.pipe (·.groupBy s)

def countBy : Except Fault (Entries Nat) := d.pipe (·.countBy s)

def join (glue lastGlue : String) : Except Fault String := d.pipe (·.join s glue lastGlue)

def sum : Except Fault Value := d.pipe (·.sum s)

def max? : Except Fault (Option Value) := d.pipe (·.max? s)

def min? : Except Fault (Option Value) := d.pipe (·.min? s)

def paginate (page : UInt64) (perPage : Option UInt64) : Except Fault Page :=
  d.pipe (·.paginate page perPage)

/-! What an edit takes out is the result; what it leaves ends with the chain. -/

def pop : Except Fault (Option Value) := d.pipe (·.pop.1)

def shift : Except Fault (Option Value) := d.pipe (·.shift.1)

def splice (start count : UInt64) (items : List Value) : Except Fault (Collection μ) :=
  d.pipe fun c => (c.splice start count items).1

end Pipes

/-! ### Before the end -/

/-- Whether a macro is registered so far; the source is not waited for. -/
def hasMacro (d : Deferred μ) (name : String) : Bool := d.context.hasMacro name

def inspect (d : Deferred μ) : String :=
  "Eloquent \x7b macros: " ++ d.context.macroListing ++ ", .. \x7d"

end Deferred

end Dossier
