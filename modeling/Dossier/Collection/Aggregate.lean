import Dossier.Collection.Basic
import Dossier.Number.Saturating

/-! Sums, extremes and joined texts. -/

namespace Dossier

namespace Number

/-- A running sum: of the integers in 128 bits, of all numbers in doubles, and whether all of them
are integers. -/
structure Total where
  integers : Int
  doubles : Double
  integral : Bool

namespace Total

def zero : Total := ⟨0, .zero false, true⟩

def add (t : Total) (n : Number) : Total :=
  match n.integer? with
  | some i => ⟨Saturating.addWide t.integers i, t.doubles + n.toDouble, t.integral⟩
  | none => ⟨t.integers, t.doubles + n.toDouble, false⟩

/-- The sum of integers as a signed or else an unsigned one where it fits; any other sum as a
double. -/
def result (t : Total) : Number :=
  if t.integral then (ofInt? t.integers).getD (.double t.doubles) else .double t.doubles

end Total

end Number

namespace Collection

variable {μ : Type}

/-- The sum of the numbers among values. -/
def sumOf (vs : List Value) : Number :=
  ((vs.filterMap Value.number?).foldl Number.Total.add Number.Total.zero).result

def sum (c : Collection μ) (s : Selector) : Value := .number (sumOf (c.selected s))

/-- The greatest of the values, the last of several. -/
def greatest? : List Value → Option Value
  | [] => none
  | v :: vs => some (vs.foldl (fun best w => if best.compare w == .gt then best else w) v)

/-- The least of the values, the first of several. -/
def least? : List Value → Option Value
  | [] => none
  | v :: vs => some (vs.foldl (fun best w => if best.compare w == .gt then w else best) v)

/-- The selected values that are not null. -/
def present (c : Collection μ) (s : Selector) : List Value :=
  (c.selected s).filter fun v => v.kind != .null

def max? (c : Collection μ) (s : Selector) : Option Value := greatest? (c.present s)

def min? (c : Collection μ) (s : Selector) : Option Value := least? (c.present s)

/-- The plain texts of the selected values, with glue between them; another one may stand before the
last. -/
def join (c : Collection μ) (s : Selector) (glue lastGlue : String) : String :=
  let texts := (c.selected s).map Value.plainText
  match texts.getLast? with
  | none => ""
  | some last =>
    match texts.dropLast with
    | [] => last
    | others => glue.intercalate others ++ lastGlue ++ last

end Collection

end Dossier
