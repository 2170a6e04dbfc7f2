import Dossier.Entries
import Dossier.Number.Basic
import Dossier.Pattern

/-! Values and documents. A pattern is a value so that a query can hold one. -/

namespace Dossier

mutual

inductive Value where
  | null
  | bool (b : Bool)
  | number (n : Number)
  | string (s : String)
  | array (items : List Value)
  | document (d : Document)
  | pattern (p : Pattern)

/-- Keys with values, in order; no key comes twice. -/
structure Document where
  entries : List (String × Value)

end

instance : Inhabited Value := ⟨.null⟩

instance : Inhabited Document := ⟨⟨[]⟩⟩

namespace Value

def signed (n : Int64) : Value := .number (.signed n)

def unsigned (n : UInt64) : Value := .number (.unsigned n)

def double (x : Double) : Value := .number (.double x)

/-! ### Views -/

def bool? : Value → Option Bool
  | bool b => some b
  | _ => none

def number? : Value → Option Number
  | number n => some n
  | _ => none

/-- An integer that fits a signed one. -/
def signed? (v : Value) : Option Int64 := v.number?.bind Number.signed?

def integer? (v : Value) : Option Int := v.number?.bind Number.integer?

/-- Any number as a double. -/
def double? (v : Value) : Option Double := v.number?.map Number.toDouble

def string? : Value → Option String
  | string s => some s
  | _ => none

def array? : Value → Option (List Value)
  | array items => some items
  | _ => none

def document? : Value → Option Document
  | document d => some d
  | _ => none

def pattern? : Value → Option Pattern
  | pattern p => some p
  | _ => none

/-- The kinds of value. -/
inductive Kind where
  | null
  | bool
  | number
  | string
  | array
  | document
  | pattern
  deriving DecidableEq, Inhabited

def kind : Value → Kind
  | null => .null
  | bool _ => .bool
  | number _ => .number
  | string _ => .string
  | array _ => .array
  | document _ => .document
  | pattern _ => .pattern

/-- The place of a kind in the order of values. -/
def Kind.rank : Kind → Nat
  | .null => 0
  | .bool => 1
  | .number => 2
  | .string => 3
  | .array => 4
  | .document => 5
  | .pattern => 6

def isInteger (v : Value) : Bool := v.integer?.isSome

/-- A value moved out of its place: it, and the null left behind. -/
def take (v : Value) : Value × Value := (v, null)

/-- Whether a value carries nothing: null, white space only, or an empty array or document. -/
def isBlank : Value → Bool
  | null => true
  | string s => isBlankText s
  | array items => items.isEmpty
  | document d => d.entries.isEmpty
  | _ => false

end Value

namespace Document

def empty : Document := ⟨[]⟩

def size (d : Document) : Nat := d.entries.length

def isEmpty (d : Document) : Bool := d.entries.isEmpty

def get? (d : Document) (key : String) : Option Value := Entries.get? key d.entries

def contains (d : Document) (key : String) : Bool := Entries.contains key d.entries

def insert (d : Document) (key : String) (value : Value) : Document :=
  ⟨Entries.insert key value d.entries⟩

def erase (d : Document) (key : String) : Document := ⟨Entries.erase key d.entries⟩

def keys (d : Document) : List String := Entries.keys d.entries

def values (d : Document) : List Value := Entries.values d.entries

/-- Puts entries one after the other. -/
def insertAll (d : Document) (es : List (String × Value)) : Document :=
  ⟨Entries.insertAll d.entries es⟩

def ofList (es : List (String × Value)) : Document := ⟨Entries.ofList es⟩

/-- The entries that satisfy a condition. -/
def filter (p : String → Value → Bool) (d : Document) : Document :=
  ⟨d.entries.filter fun (k, v) => p k v⟩

/-- The same keys with other values. -/
def mapValues (f : String → Value → Value) (d : Document) : Document :=
  ⟨d.entries.map fun (k, v) => (k, f k v)⟩

/-- Writes through to the value under a key, if there is one. -/
def modify (d : Document) (key : String) (f : Value → Value) : Document :=
  match d.get? key with
  | some v => d.insert key (f v)
  | none => d

/-- Puts a value under a key that has none yet. -/
def insertNew (d : Document) (key : String) (value : Value) : Document :=
  if d.contains key then d else d.insert key value

/-- A key without the quotes around it. -/
def plainKey (key : String) : String :=
  let quote := fun c => c == '"'
  String.ofList (((key.toList.dropWhile quote).reverse.dropWhile quote).reverse)

/-! ### Merging -/

mutual

/-- Merges the second document into the first: documents under the same key are merged, and any
other value replaces what is there. -/
def mergeDeep (d : Document) : Document → Document
  | ⟨es⟩ => mergeEntries d es

def mergeEntries (d : Document) : List (String × Value) → Document
  | [] => d
  | (key, .document inner) :: rest =>
    match d.get? key with
    | some (.document old) => mergeEntries (d.insert key (.document (old.mergeDeep inner))) rest
    | _ => mergeEntries (d.insert key (.document inner)) rest
  | (key, value) :: rest => mergeEntries (d.insert key value) rest

end

/-- Merges the first level only. -/
def mergeShallow (d e : Document) : Document := d.insertAll e.entries

end Document

end Dossier
