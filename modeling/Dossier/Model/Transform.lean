import Dossier.Model.Basic

/-! Comparing, merging and mapping documents. -/

namespace Dossier

mutual

/-- What of another document is missing here or differs: of two documents under one key only the
differing part, if there is any. -/
def Document.diff (d : Document) : Document → Document
  | ⟨es⟩ => ⟨Document.diffEntries d es⟩

def Document.diffEntries (d : Document) : List (String × Value) → List (String × Value)
  | [] => []
  | (key, .document theirs) :: rest =>
    match d.get? key with
    | some (.document mine) =>
      let inner := mine.diff theirs
      if inner.isEmpty then Document.diffEntries d rest
      else (key, .document inner) :: Document.diffEntries d rest
    | _ => (key, .document theirs) :: Document.diffEntries d rest
  | (key, v) :: rest =>
    match d.get? key with
    | some w =>
      if w.equal v then Document.diffEntries d rest
      else (key, v) :: Document.diffEntries d rest
    | none => (key, v) :: Document.diffEntries d rest

end

namespace Model

variable {μ : Type}

/-- What of a document is missing in the model or differs. -/
def diff (m : Model μ) (d : Document) : Model μ := m.create (m.document.diff d)

def merge (m : Model μ) (ds : List Document) : Model μ :=
  m.create (ds.foldl Document.mergeShallow m.document)

def mergeDeep (m : Model μ) (ds : List Document) : Model μ :=
  m.create (ds.foldl Document.mergeDeep m.document)

/-- A function applied to every value and its key. -/
def map (m : Model μ) (f : Value → String → Value) : Model μ :=
  m.create (m.document.mapValues fun key v => f v key)

/-- A function applied to every value and its key that may also rename the key. -/
def mapWithKeys (m : Model μ) (f : Value → String → Value × Option String) : Model μ :=
  m.create (Document.ofList (m.document.entries.map fun (key, v) =>
    let (v, renamed) := f v key
    (renamed.getD key, v)))

/-- The document without the paths, taken out one after the other. -/
def except (m : Model μ) (paths : List String) : Model μ :=
  m.create (paths.foldl (fun d path => (m.context.paths.unset d path).2) m.document)

/-- The entries that do not satisfy a condition. -/
def exceptBy (m : Model μ) (p : Value → String → Bool) : Model μ :=
  m.create (m.document.filter fun key v => !p v key)

def reduce {α : Type} (m : Model μ) (f : α → String → Value → α) (seed : α) : α :=
  m.document.entries.foldl (fun acc (key, v) => f acc key v) seed

end Model

end Dossier
