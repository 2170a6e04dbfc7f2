import Dossier.Path.Access
import Dossier.Query.Constraint
import Dossier.Query.Operator

/-! Queries ready to be matched: every constraint with the operator that its name is bound to. -/

namespace Dossier

structure Matcher where
  constraints : List (Constraint × Operator)
  paths : PathSyntax

namespace Matcher

/-- Resolves the operators of constraints in order; the first name that is bound to none is the
failure. -/
def resolve (operators : Operators) :
    List Constraint → Except Fault (List (Constraint × Operator))
  | [] => .ok []
  | c :: rest => do
    let op ← operators.resolve c.operator
    return (c, op) :: (← resolve operators rest)

/-- Makes a query ready. -/
def ofQuery (s : PathSyntax) (operators : Operators) (q : Query) : Except Fault Matcher :=
  return ⟨← resolve operators (q.constraints s), s⟩

/-- Whether a value satisfies all constraints; a path that leads nowhere counts as null. -/
def holds (m : Matcher) (item : Value) : Bool :=
  m.constraints.all fun (c, op) => op c.operand ((m.paths.getValue? item c.path).getD .null)

/-- Whether a document satisfies all constraints. -/
def holdsOn (m : Matcher) (d : Document) : Bool :=
  m.constraints.all fun (c, op) => op c.operand ((m.paths.get? d c.path).getD .null)

def inspect (m : Matcher) : String :=
  Inspect.record "Matcher"
    [("triples", Inspect.listing (m.constraints.map fun (c, _) => c.inspect)),
      ("accessor", m.paths.inspect)]

end Matcher

/-- Whether a document satisfies a query, with paths and operators as they are by default. -/
def Query.isMatch (q : Query) (d : Document) : Except Fault Bool :=
  return (← Matcher.ofQuery {} .builtIn q).holdsOn d

end Dossier
