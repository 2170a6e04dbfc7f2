import Dossier.Value.Order
import Dossier.Value.Text

/-! Operators and the tables that bind them to names. -/

namespace Dossier

/-- An operator tells of an operand and the value of a field whether the field satisfies it. -/
abbrev Operator := Value → Value → Bool

namespace Operator

/-- Whether one text occurs in another. -/
def occursIn (needle : List Char) : List Char → Bool
  | [] => needle.isEmpty
  | c :: rest => needle.isPrefixOf (c :: rest) || occursIn needle rest

/-- How a field compares with an operand: only numbers, strings and truth values do, each with its
own kind. -/
def compare? (operand field : Value) : Option Ordering :=
  if operand.kind = field.kind && [Value.Kind.number, .string, .bool].contains operand.kind then
    some (field.compare operand)
  else none

/-- Equality, or a match where the operand is a pattern. -/
def eq : Operator := fun operand field =>
  match operand with
  | .pattern p => p.isMatch field.plainText
  | operand => field.equal operand

def not : Operator := fun operand field => !eq operand field

def gt : Operator := fun operand field => compare? operand field == some .gt

def gte : Operator := fun operand field => (compare? operand field).any Ordering.isGE

def lt : Operator := fun operand field => compare? operand field == some .lt

def lte : Operator := fun operand field => (compare? operand field).any Ordering.isLE

/-- The operand is an array that holds the field. -/
def isIn : Operator := fun operand field =>
  match operand with
  | .array candidates => candidates.any (·.equal field)
  | _ => false

def notIn : Operator := fun operand field => !isIn operand field

/-- The field is an array that holds the operand, or a string in which the operand occurs. -/
def contains : Operator := fun operand field =>
  match field, operand with
  | .array items, operand => items.any (·.equal operand)
  | .string text, .string needle => occursIn needle.toList text.toList
  | _, _ => false

def notContains : Operator := fun operand field => !contains operand field

/-- The plain text of the field matches a pattern, or a string occurs in it. -/
def regexp : Operator := fun operand field =>
  match operand with
  | .pattern p => p.isMatch field.plainText
  | .string needle => occursIn needle.toList field.plainText.toList
  | _ => false

/-- The name that an alias stands for; any other name stands for itself. -/
def canonicalName : String → String
  | "<" => "lt"
  | ">" => "gt"
  | "<=" => "lte"
  | ">=" => "gte"
  | "==" => "eq"
  | "!=" => "not"
  | name => name

end Operator

/-- Names with the operators they are bound to. -/
structure Operators where
  bindings : Entries Operator

namespace Operators

/-- The operators that every table starts with. -/
def builtIn : Operators := ⟨[("eq", .eq), ("not", .not), ("gt", .gt), ("gte", .gte), ("lt", .lt),
  ("lte", .lte), ("in", .isIn), ("notIn", .notIn), ("contains", .contains),
  ("notContains", .notContains), ("regexp", .regexp)]⟩

instance : Inhabited Operators := ⟨builtIn⟩

/-- Binds a name, or what it is an alias of, to an operator. -/
def register (t : Operators) (name : String) (op : Operator) : Except Fault Operators :=
  if isBlankText name then .error .blankOperatorName
  else .ok ⟨t.bindings.insert (Operator.canonicalName name) op⟩

def get? (t : Operators) (name : String) : Option Operator :=
  t.bindings.get? (Operator.canonicalName name)

/-- A binding is found under every name that stands for the same as the one it was made for. -/
theorem get?_bind (t : Operators) (name key : String) (op : Operator) :
    Operators.get? ⟨t.bindings.insert (Operator.canonicalName name) op⟩ key =
      if Operator.canonicalName name = Operator.canonicalName key then some op else t.get? key :=
  Entries.get?_insert _ _ _ _

def contains (t : Operators) (name : String) : Bool :=
  t.bindings.contains (Operator.canonicalName name)

def resolve (t : Operators) (name : String) : Except Fault Operator :=
  match t.get? name with
  | some op => .ok op
  | none => .error (.unknownOperator name)

def evaluate (t : Operators) (name : String) (operand field : Value) : Except Fault Bool :=
  return (← t.resolve name) operand field

/-- The names in ascending order. -/
def names (t : Operators) : List String := t.bindings.keys.mergeSort fun a b => (compare a b).isLE

def inspect (t : Operators) : String :=
  Inspect.record "OperatorTable" [("operators", Inspect.listing (t.names.map Inspect.quoted))]

end Operators

end Dossier
