import Dossier.Value.Order
import Dossier.Value.Text

/-! Queries: conditions on fields, possibly nested, as they are built step by step or read from a
document. -/

namespace Dossier

mutual

/-- What a field is asked for: to equal a value, to match a pattern, to satisfy a query of its own,
or to satisfy operators with their operands. -/
inductive Query.Node where
  | literal (v : Value)
  | pattern (p : Pattern)
  | nested (q : Query)
  | operators (ops : List (String × Value))

/-- Fields with what they are asked for, in order; a field may come more than once. -/
structure Query where
  entries : List (String × Query.Node)

end

instance : Inhabited Query := ⟨⟨[]⟩⟩

namespace Query

def empty : Query := ⟨[]⟩

def size (q : Query) : Nat := q.entries.length

def isEmpty (q : Query) : Bool := q.entries.isEmpty

/-! ### Building -/

def push (q : Query) (field : String) (node : Node) : Query := ⟨q.entries ++ [(field, node)]⟩

/-- Asks a field to match a pattern. -/
def matching (q : Query) (field : String) (p : Pattern) : Query := q.push field (.pattern p)

/-- Asks a field to equal a value; a pattern is matched instead. -/
def equalTo (q : Query) (field : String) (v : Value) : Query :=
  match v with
  | .pattern p => q.matching field p
  | v => q.push field (.literal v)

/-- Asks the document in a field to satisfy a query. -/
def nesting (q : Query) (field : String) (inner : Query) : Query := q.push field (.nested inner)

/-- Adds an operator to the first entry of a field that holds operators, if there is one. -/
def addOperator? (field operator : String) (operand : Value) :
    List (String × Node) → Option (List (String × Node))
  | [] => none
  | (name, .operators ops) :: rest =>
    if name = field then some ((name, .operators (ops ++ [(operator, operand)])) :: rest)
    else (addOperator? field operator operand rest).map ((name, .operators ops) :: ·)
  | entry :: rest => (addOperator? field operator operand rest).map (entry :: ·)

/-- Asks a field to satisfy an operator, next to the operators it is asked for already. -/
def satisfying (q : Query) (field operator : String) (operand : Value) : Query :=
  match addOperator? field operator operand q.entries with
  | some entries => ⟨entries⟩
  | none => q.push field (.operators [(operator, operand)])

/-! ### Reading from a document -/

/-- The field that a key names behind the marker, if the key starts with the marker. -/
def markedField? (marker key : String) : Option String :=
  (marker.toList.isPrefixOf? key.toList).map String.ofList

mutual

/-- Reads a query from a document. A key behind the marker holds a document of operators; under any
other key a pattern is matched, a document is a query of its own, and another value is a literal. -/
def ofDocument (marker : String) : Document → Except Fault Query
  | ⟨es⟩ => do return ⟨← ofEntries marker es⟩

def ofEntries (marker : String) : List (String × Value) → Except Fault (List (String × Node))
  | [] => .ok []
  | (key, v) :: rest => do
    let entry ← ofEntry marker key v
    return entry :: (← ofEntries marker rest)

def ofEntry (marker key : String) (v : Value) : Except Fault (String × Node) :=
  match markedField? marker key with
  | some field =>
    if field = "" then .error (.keyWithoutField key)
    else match v with
      | .document d => .ok (field, .operators d.entries)
      | _ => .error (.operatorsExpected key)
  | none =>
    match v with
    | .pattern p => .ok (key, .pattern p)
    | .document d => do return (key, .nested (← ofDocument marker d))
    | v => .ok (key, .literal v)

end

/-! ### Equality -/

/-- Equality of operators with their operands, in order. -/
def equalOperators : List (String × Value) → List (String × Value) → Bool
  | [], [] => true
  | (op, v) :: ops, (op', v') :: ops' => op == op' && v.equal v' && equalOperators ops ops'
  | _, _ => false

mutual

def equal : Query → Query → Bool
  | ⟨es⟩, ⟨fs⟩ => equalEntries es fs

def equalEntries : List (String × Node) → List (String × Node) → Bool
  | [], [] => true
  | (field, n) :: es, (field', n') :: fs => field == field' && n.equal n' && equalEntries es fs
  | _, _ => false

def Node.equal : Node → Node → Bool
  | .literal v, .literal w => v.equal w
  | .pattern p, .pattern q => p.source == q.source
  | .nested q, .nested r => q.equal r
  | .operators ops, .operators ops' => equalOperators ops ops'
  | _, _ => false

end

instance : BEq Query := ⟨equal⟩

/-! ### Text -/

def inspectOperators (ops : List (String × Value)) : String :=
  Inspect.listing (ops.map fun (op, v) => Inspect.pair (Inspect.quoted op) v.inspect)

mutual

def inspect : Query → String
  | ⟨es⟩ => Inspect.record "QuerySpec" [("entries", Inspect.listing (inspectEntries es))]

def inspectEntries : List (String × Node) → List String
  | [] => []
  | (field, n) :: rest => Inspect.pair (Inspect.quoted field) n.inspect :: inspectEntries rest

def Node.inspect : Node → String
  | .literal v => Inspect.application "Literal" v.inspect
  | .pattern p => Inspect.application "Pattern" p.inspect
  | .nested q => Inspect.application "Nested" q.inspect
  | .operators ops => Inspect.application "Operators" (inspectOperators ops)

end

end Query

end Dossier
