import Dossier.Context

/-! Models: one document, with the context that it hands on. -/

namespace Dossier

structure Model (μ : Type) where
  document : Document
  context : Context μ

namespace Model

variable {μ : Type}

/-- A model that starts a lineage. -/
def new (settings : Settings) (document : Document) : Model μ := ⟨document, .new settings⟩

def empty : Model μ := new .standard .empty

instance : Inhabited (Model μ) := ⟨empty⟩

/-- The model of a JSON tree, which must be an object. -/
def ofJson (tree : Json) : Except Fault (Model μ) := return new .standard (← Document.ofJson tree)

/-- Another document in the same context. -/
def create (m : Model μ) (document : Document) : Model μ := { m with document }

def addOperator (m : Model μ) (name : String) (op : Operator) : Except Fault (Model μ) :=
  return { m with context := ← m.context.addOperator name op }

def addMacro (m : Model μ) (name : String) (body : μ) : Except Fault (Model μ) :=
  return { m with context := ← m.context.addMacro name body }

def call [MacroBody μ (Model μ)] (m : Model μ) (name : String) (args : List Value) :
    Except Fault Value :=
  m.context.call m name args

/-- Two models are equal when their documents are. -/
def equal (m n : Model μ) : Bool := m.document.equal n.document

instance : BEq (Model μ) := ⟨equal⟩

def toValue (m : Model μ) : Value := .document m.document

def inspect (m : Model μ) : String :=
  Inspect.record "Model" [("document", m.document.inspect), ("macros", m.context.macroListing)]

/-! ### Paths -/

def get? (m : Model μ) (path : String) : Option Value := m.context.paths.get? m.document path

def getD (m : Model μ) (path : String) (fallback : Value) : Value := (m.get? path).getD fallback

def has (m : Model μ) (path : String) : Bool := (m.get? path).isSome

/-- Writes at a path. -/
def set (m : Model μ) (path : String) (v : Value) : Except Fault (Model μ) :=
  return m.create (← m.context.paths.set m.document path v)

/-- Takes out what is at a path: it and the model left. -/
def pull (m : Model μ) (path : String) : Option Value × Model μ :=
  let (old, document) := m.context.paths.unset m.document path
  (old, m.create document)

/-- Removes what is at a path, and whether there was something. -/
def unset (m : Model μ) (path : String) : Bool × Model μ :=
  let (old, m) := m.pull path
  (old.isSome, m)

/-- Takes out what is at a path, or gives a value instead. -/
def pullD (m : Model μ) (path : String) (fallback : Value) : Value × Model μ :=
  let (old, m) := m.pull path
  (old.getD fallback, m)

def paths (m : Model μ) : List String := m.context.paths.paths m.document

/-- Whether the document satisfies a query. -/
def isMatch (m : Model μ) (q : Query.Source) : Except Fault Bool :=
  return (← m.context.matcher q).holdsOn m.document

/-! ### Conditions -/

/-- Applies a change where a condition holds. -/
def when (m : Model μ) (condition : Bool) (f : Model μ → Model μ) : Model μ :=
  if condition then f m else m

def whenElse (m : Model μ) (condition : Bool) (f g : Model μ → Model μ) : Model μ :=
  if condition then f m else g m

def whenEmpty (m : Model μ) (f : Model μ → Model μ) : Model μ := m.when m.document.isEmpty f

def whenNotEmpty (m : Model μ) (f : Model μ → Model μ) : Model μ := m.when (!m.document.isEmpty) f

end Model

end Dossier
