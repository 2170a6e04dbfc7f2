import Dossier.Query.Matcher

/-! What an instance hands on to those derived from it: settings, operators and macros. A macro's
body is of a type that the user chooses and says how to run. -/

namespace Dossier

/-- Bodies of macros and how they run: on a target and arguments they give a value or fail. -/
class MacroBody (μ : Type) (σ : Type) where
  run : μ → σ → List Value → Except Fault Value

structure Context (μ : Type) where
  settings : Settings
  operators : Operators
  macros : Entries μ

/-- A query as it is handed over: a document still to be read, or built already. -/
inductive Query.Source where
  | document (d : Document)
  | built (q : Query)

/-- The query itself; the marker says which keys of a document hold operators. -/
def Query.Source.read (marker : String) : Query.Source → Except Fault Query
  | document d => Query.ofDocument marker d
  | built q => .ok q

namespace Context

variable {μ : Type}

/-- The context of a new lineage: built-in operators and no macros. -/
def new (settings : Settings) : Context μ := ⟨settings, .builtIn, []⟩

instance : Inhabited (Context μ) := ⟨.new .standard⟩

def paths (c : Context μ) : PathSyntax := c.settings.paths

def addOperator (c : Context μ) (name : String) (op : Operator) : Except Fault (Context μ) :=
  return { c with operators := ← c.operators.register name op }

def addMacro (c : Context μ) (name : String) (body : μ) : Except Fault (Context μ) :=
  if isBlankText name then .error .blankMacroName
  else .ok { c with macros := c.macros.insert name body }

def hasMacro (c : Context μ) (name : String) : Bool := c.macros.contains name

/-- Runs the macro of a name. -/
def call {σ : Type} [MacroBody μ σ] (c : Context μ) (target : σ) (name : String)
    (args : List Value) : Except Fault Value :=
  match c.macros.get? name with
  | some body => MacroBody.run body target args
  | none => .error (.unknownMacro name)

/-- A query ready to be matched under the context's settings and operators. -/
def matcher (c : Context μ) (q : Query.Source) : Except Fault Matcher := do
  Matcher.ofQuery c.paths c.operators (← q.read c.settings.marker)

/-- The names of the macros in ascending order. -/
def macroNames (c : Context μ) : List String :=
  c.macros.keys.mergeSort fun a b => (compare a b).isLE

def macroListing (c : Context μ) : String := Inspect.listing (c.macroNames.map Inspect.quoted)

def inspect (c : Context μ) : String :=
  Inspect.record "Context" [("config", c.settings.inspect), ("operators", c.operators.inspect),
    ("macros", Inspect.record "MacroRegistry" [("macros", c.macroListing)])]

end Context

end Dossier
