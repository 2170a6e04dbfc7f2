import Dossier.Path.Syntax
import Dossier.Value.Basic

/-! Reading and writing inside a value along the segments of a path: keys of documents and positions
of arrays. -/

namespace Dossier

namespace Value

/-- The child that a segment names. -/
def child? (v : Value) (segment : String) : Option Value :=
  match v with
  | document d => d.get? segment
  | array xs => (PathSyntax.index? segment).bind (xs[·]?)
  | _ => none

/-- The value that segments lead to. -/
def follow? (v : Value) : List String → Option Value
  | [] => some v
  | segment :: rest => (v.child? segment).bind (·.follow? rest)

/-- Puts a child in place of the one that a segment names. Where the segment names none, a document
gets a new entry, and whatever else stands there gives way to a document. -/
def setChild (v : Value) (segment : String) (child : Value) : Value :=
  match v with
  | document d => document (d.insert segment child)
  | array xs =>
    match PathSyntax.index? segment with
    | some i =>
      if i < xs.length then array (xs.set i child)
      else document (Document.empty.insert segment child)
    | none => document (Document.empty.insert segment child)
  | _ => document (Document.empty.insert segment child)

/-- Writes at the end of segments, making documents on the way where there is nothing to enter. -/
def write (v : Value) (segments : List String) (new : Value) : Value :=
  match segments with
  | [] => new
  | segment :: rest => v.setChild segment (((v.child? segment).getD .null).write rest new)

/-- The value without the child that a segment names: later items of an array move down. -/
def dropChild (v : Value) (segment : String) : Value :=
  match v with
  | document d => document (d.erase segment)
  | array xs =>
    match PathSyntax.index? segment with
    | some i => array (xs.eraseIdx i)
    | none => array xs
  | v => v

/-- Takes out the value that segments lead to: that value and what is left. -/
def remove? (v : Value) : List String → Option (Value × Value)
  | [] => none
  | [segment] => (v.child? segment).map fun old => (old, v.dropChild segment)
  | segment :: rest => do
    let child ← v.child? segment
    let (old, child) ← child.remove? rest
    return (old, v.setChild segment child)

end Value

namespace PathSyntax

/-- The value at a path inside any value; the empty path leads nowhere. -/
def getValue? (s : PathSyntax) (v : Value) (path : String) : Option Value :=
  if path = "" then none else v.follow? (s.split path)

/-- The value at a path of a document: its first segment is a key, and the others are followed from
the value under that key. -/
def get? (s : PathSyntax) (d : Document) (path : String) : Option Value :=
  if path = "" then none
  else match s.split path with
    | [] => none
    | key :: rest => (d.get? key).bind (·.follow? rest)

def getD (s : PathSyntax) (d : Document) (path : String) (fallback : Value) : Value :=
  (s.get? d path).getD fallback

def has (s : PathSyntax) (d : Document) (path : String) : Bool := (s.get? d path).isSome

/-- A document written to at segments, of which there is at least one. -/
def writeDocument (d : Document) (segments : List String) (new : Value) : Document :=
  match (Value.document d).write segments new with
  | .document d => d
  | _ => d

/-- Writes at a path. -/
def set (s : PathSyntax) (d : Document) (path : String) (new : Value) : Except Fault Document :=
  return writeDocument d (← s.writable path) new

/-- Takes out what is at a path: it and the document left, or nothing and the document as it was. -/
def unset (s : PathSyntax) (d : Document) (path : String) : Option Value × Document :=
  if path = "" then (none, d)
  else match (Value.document d).remove? (s.split path) with
    | some (old, .document d) => (some old, d)
    | _ => (none, d)

/-! ### Leaves -/

mutual

/-- The paths of all values that are no documents and are reached through documents only, below a
given path. -/
def pathsBelow (s : PathSyntax) (path : String) : Document → List String
  | ⟨es⟩ => pathsOfEntries s path es

def pathsOfEntries (s : PathSyntax) (path : String) : List (String × Value) → List String
  | [] => []
  | (key, .document d) :: rest => s.pathsBelow (s.join path key) d ++ s.pathsOfEntries path rest
  | (key, _) :: rest => s.join path key :: s.pathsOfEntries path rest

end

/-- The paths of all leaves of a document, in order. -/
def paths (s : PathSyntax) (d : Document) : List String := s.pathsBelow "" d

end PathSyntax

end Dossier
