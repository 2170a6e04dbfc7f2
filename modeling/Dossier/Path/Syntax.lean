import Dossier.Settings

/-! Paths as text: segments with a separator between them. -/

namespace Dossier

/-- How paths are written: what separates their segments. -/
structure PathSyntax where
  separator : String := "."
  deriving DecidableEq, Inhabited

namespace PathSyntax

/-- Cuts at every separator, from the left; `skip` characters of the last one found are still to be
passed over. The separator is not empty. -/
def cut (separator : List Char) : Nat → List Char → List (List Char)
  | _, [] => [[]]
  | skip + 1, _ :: rest => cut separator skip rest
  | 0, c :: rest =>
    if separator.isPrefixOf (c :: rest) then [] :: cut separator (separator.length - 1) rest
    else match cut separator 0 rest with
      | segment :: segments => (c :: segment) :: segments
      | [] => [[c]]

/-- The segments of a path. Without a separator each character is one, and so is the empty text at
either end. -/
def split (s : PathSyntax) (path : String) : List String :=
  if s.separator = "" then "" :: (path.toList.map fun c => String.ofList [c]) ++ [""]
  else (cut s.separator.toList 0 path.toList).map String.ofList

/-- The path of a key below another path; the empty path stands for the root. -/
def join (s : PathSyntax) (path key : String) : String :=
  if path = "" then key else path ++ s.separator ++ key

/-- The segments of a path that can be written to: there is one, and none is empty. -/
def writable (s : PathSyntax) (path : String) : Except Fault (List String) :=
  if path = "" then .error .emptyPath
  else
    let segments := s.split path
    if segments.contains "" then .error (.emptySegment path) else .ok segments

def inspect (s : PathSyntax) : String :=
  Inspect.record "PathAccessor" [("separator", Inspect.quoted s.separator)]

/-- The position that a segment names in an array: digits, possibly behind a plus sign, of a number
that fits a word. -/
def index? (segment : String) : Option Nat :=
  let digits := match segment.toList with
    | '+' :: rest => rest
    | cs => cs
  if !digits.isEmpty && digits.all Char.isDigit then
    let position := digits.foldl (fun n c => 10 * n + (c.toNat - 48)) 0
    if position < UInt64.size then some position else none
  else none

end PathSyntax

/-- The way that settings write paths. -/
def Settings.paths (s : Settings) : PathSyntax := ⟨s.separator⟩

end Dossier
