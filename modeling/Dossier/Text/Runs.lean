import Dossier.Text.CharSet

/-! Tables of runs. A table is a text of labels, each with the number of code points in a row that
it covers, from zero on. -/

namespace Dossier

/-- A label and the first and the last of the code points that it covers in a row. -/
structure Run where
  label : String
  first : Nat
  last : Nat

namespace Run

/-- One step of reading a table: `start` is the first code point of the run being read, and
`letters` and `count` are what is read of it. -/
structure Scan where
  start : Nat
  letters : List Char
  count : Nat
  runs : List Run

/-- The runs read so far, with the one being read closed. -/
def Scan.close (s : Scan) : Scan :=
  if s.count = 0 then { s with letters := [] }
  else
    let run := ⟨String.ofList s.letters.reverse, s.start, s.start + s.count - 1⟩
    ⟨s.start + s.count, [], 0, run :: s.runs⟩

def Scan.step (s : Scan) (c : Char) : Scan :=
  if c = ' ' then s.close
  else if c.isDigit then { s with count := 10 * s.count + (c.toNat - 48) }
  else { s with letters := c :: s.letters }

/-- The runs of a table, in order. -/
def ofTable (table : List String) : List Run :=
  ((" ".intercalate table).toList.foldl Scan.step ⟨0, [], 0, []⟩).close.runs.reverse

/-- The code points that one of some labels covers. -/
def chars (labels : List String) (runs : List Run) : CharSet :=
  .ofRanges (runs.filterMap fun r =>
    if labels.contains r.label then some (r.first, r.last) else none)

end Run

end Dossier
