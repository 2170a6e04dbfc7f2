import Dossier.Model.Basic

/-! Walking through a document down to a depth. -/

namespace Dossier

/-- What a walk reports: a path, the value there, and the document that holds it. -/
structure Visit where
  path : String
  value : Value
  holder : Document

namespace PathSyntax

mutual

/-- The visits of a walk below a path; `levels` is how many more levels of documents it enters, all
of them when there is none. -/
def walkBelow (s : PathSyntax) (path : String) (levels : Option Nat) : Document → List Visit
  | ⟨es⟩ => walkEntries s path levels ⟨es⟩ es

/-- The visits of a walk through entries of a document. -/
def walkEntries (s : PathSyntax) (path : String) (levels : Option Nat) (holder : Document) :
    List (String × Value) → List Visit
  | [] => []
  | (key, .document d) :: rest =>
    (if levels = some 0 then [⟨s.join path key, .document d, holder⟩]
      else s.walkBelow (s.join path key) (levels.map (· - 1)) d) ++
      walkEntries s path levels holder rest
  | (key, v) :: rest => ⟨s.join path key, v, holder⟩ :: walkEntries s path levels holder rest

end

/-- The visits of a walk through a whole document. -/
def walk (s : PathSyntax) (levels : Option Nat) (d : Document) : List Visit :=
  s.walkBelow "" levels d

end PathSyntax

/-- The visits of a walk through a model's document. -/
def Model.eachPath {μ : Type} (m : Model μ) (levels : Option Nat) : List Visit :=
  m.context.paths.walk levels m.document

end Dossier
