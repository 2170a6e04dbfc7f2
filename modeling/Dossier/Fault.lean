/-! What can go wrong, by cause, and the words for it. -/

namespace Dossier

/-- The kinds of failure that a caller tells apart. -/
inductive Fault.Kind where
  | unknownOperator
  | unknownMacro
  | invalidArgument
  | invalidQuery
  | configuration
  | deferred
  | internal
  deriving DecidableEq, Inhabited

def Fault.Kind.title : Fault.Kind → String
  | unknownOperator => "Unknown operator"
  | unknownMacro => "Unknown macro"
  | invalidArgument => "Invalid argument"
  | invalidQuery => "Invalid query"
  | configuration => "Configuration error"
  | deferred => "Deferred error"
  | internal => "Internal error"

/-- A failure. The last two are raised by the caller's own code, alone or on top of another one. -/
inductive Fault where
  | emptySeparator
  | emptyMarker
  | markerIsSeparator
  | zeroPageSize
  | emptyPath
  | emptySegment (path : String)
  | unreadableJson
  | notAnObject
  | unreadableRegex
  | badPattern (source : String)
  | keyWithoutField (key : String)
  | operatorsExpected (key : String)
  | emptyWhereField
  | blankOperatorName
  | unknownOperator (name : String)
  | blankMacroName
  | unknownMacro (name : String)
  | raised (kind : Fault.Kind) (message : String)
  | wrapped (kind : Fault.Kind) (message : String) (cause : Fault)
  deriving DecidableEq, Inhabited

namespace Fault

def kind : Fault → Kind
  | emptySeparator | emptyMarker | markerIsSeparator | zeroPageSize => .configuration
  | emptyPath | emptySegment _ | unreadableJson | notAnObject => .invalidArgument
  | unreadableRegex | badPattern _ | keyWithoutField _ | operatorsExpected _ => .invalidQuery
  | emptyWhereField | blankOperatorName | blankMacroName => .invalidArgument
  | unknownOperator _ => .unknownOperator
  | unknownMacro _ => .unknownMacro
  | raised kind _ => kind
  | wrapped kind _ _ => kind

def message : Fault → String
  | emptySeparator => "Field separator cannot be empty"
  | emptyMarker => "Operator marker cannot be empty"
  | markerIsSeparator => "Field separator and operator marker must differ"
  | zeroPageSize => "Page size must be at least 1"
  | emptyPath => "Field path cannot be empty"
  | emptySegment path => "Field path `" ++ path ++ "` has an empty segment"
  | unreadableJson => "JSON conversion error"
  | notAnObject => "A document can only be built from a JSON object"
  | unreadableRegex => "Invalid regular expression"
  | badPattern source => "Invalid pattern /" ++ source ++ "/"
  | keyWithoutField key => "Operator-form key `" ++ key ++ "` has no field name"
  | operatorsExpected key => "Operator-form key `" ++ key ++ "` expects a document of operators"
  | emptyWhereField => "Field name of a where clause cannot be empty"
  | blankOperatorName => "Operator name cannot be empty"
  | unknownOperator name => "Operator `" ++ name ++ "` is not registered"
  | blankMacroName => "Macro name cannot be empty"
  | unknownMacro name => "Macro `" ++ name ++ "` is not registered"
  | raised _ message => message
  | wrapped _ message _ => message

/-- The failure underneath. -/
def cause? : Fault → Option Fault
  | badPattern _ => some unreadableRegex
  | wrapped _ _ cause => some cause
  | _ => none

/-- The failures underneath, from the nearest to the deepest. -/
def causes : Fault → List Fault
  | badPattern _ => [unreadableRegex]
  | wrapped _ _ cause => cause :: cause.causes
  | _ => []

/-- The message and, line by line, the messages of what is underneath. -/
def report (f : Fault) : String :=
  "\nCaused by: ".intercalate (f.message :: f.causes.map message)

/-- The lines of the report, each of which ends with a line feed or with a carriage return and a
line feed. -/
def reportLines (f : Fault) : List String :=
  (f.report.splitOn "\n").map fun line =>
    match line.toList.reverse with
    | '\r' :: rest => .ofList rest.reverse
    | _ => line

end Fault

/-! ### One result after another -/

theorem bind_eq_ok_iff {α β : Type} {x : Except Fault α} {f : α → Except Fault β} {b : β} :
    (x >>= f) = .ok b ↔ ∃ a, x = .ok a ∧ f a = .ok b := by
  cases x <;> simp [bind, Except.bind]

theorem bind_eq_error_iff {α β : Type} {x : Except Fault α} {f : α → Except Fault β} {e : Fault} :
    (x >>= f) = .error e ↔ x = .error e ∨ ∃ a, x = .ok a ∧ f a = .error e := by
  cases x <;> simp [bind, Except.bind]

end Dossier
