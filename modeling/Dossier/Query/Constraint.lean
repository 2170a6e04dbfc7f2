import Dossier.Path.Syntax
import Dossier.Query.Basic

/-! Queries written out flat: one constraint for each condition, sorted by path. -/

namespace Dossier

/-- A condition on the value at a path. -/
structure Constraint where
  path : String
  operator : String
  operand : Value

namespace Constraint

/-- Path, operator and operand as they are. -/
def text (c : Constraint) : String :=
  "(" ++ c.path ++ ", " ++ c.operator ++ ", " ++ c.operand.jsonText ++ ")"

def inspect (c : Constraint) : String :=
  Inspect.record "Triple" [("path", Inspect.quoted c.path),
    ("operator", Inspect.quoted c.operator), ("operand", c.operand.inspect)]

/-- A stable sort by path, in the order of code points. -/
def sort (cs : List Constraint) : List Constraint :=
  cs.mergeSort fun a b => (Ord.compare a.path b.path).isLE

end Constraint

namespace Query

mutual

/-- The constraints of a query whose fields lie below a path, in the order in which they are
declared. -/
def constraintsBelow (s : PathSyntax) (path : String) : Query → List Constraint
  | ⟨es⟩ => constraintsOfEntries s path es

def constraintsOfEntries (s : PathSyntax) (path : String) :
    List (String × Node) → List Constraint
  | [] => []
  | (field, node) :: rest =>
    node.constraintsAt s (s.join path field) ++ constraintsOfEntries s path rest

def Node.constraintsAt (s : PathSyntax) (path : String) : Node → List Constraint
  | .literal v => [⟨path, "eq", v⟩]
  | .pattern p => [⟨path, "regexp", .pattern p⟩]
  | .nested q => q.constraintsBelow s path
  | .operators ops => ops.map fun (op, v) => ⟨path, op, v⟩

end

/-- The constraints of a query, sorted by path; those on one path keep their order. -/
def constraints (s : PathSyntax) (q : Query) : List Constraint :=
  Constraint.sort (q.constraintsBelow s "")

end Query

end Dossier
