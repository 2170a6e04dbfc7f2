/-! Sets of characters as sorted ranges of code points. -/

namespace Dossier

/-- A set of code points: ranges in ascending order that neither meet nor touch. -/
structure CharSet where
  ranges : List (Nat × Nat)
  deriving DecidableEq, Inhabited

namespace CharSet

/-- The largest code point. -/
def top : Nat := 0x10ffff

def contains (s : CharSet) (c : Char) : Bool :=
  s.ranges.any fun (first, last) => decide (first ≤ c.toNat) && decide (c.toNat ≤ last)

/-- Joins neighbours that meet or touch, in a list sorted by first code point; `first` and `last`
are the range before the list. -/
def mergeAfter (first last : Nat) : List (Nat × Nat) → List (Nat × Nat)
  | [] => [(first, last)]
  | (first', last') :: rest =>
    if first' ≤ last + 1 then mergeAfter first (max last last') rest
    else (first, last) :: mergeAfter first' last' rest

/-- The set that holds all of some ranges, which may be empty and in any order. -/
def ofRanges (ranges : List (Nat × Nat)) : CharSet :=
  let filled := ranges.filter fun (first, last) => decide (first ≤ last)
  match filled.mergeSort fun a b => decide (a.1 ≤ b.1) with
  | [] => ⟨[]⟩
  | (first, last) :: rest => ⟨mergeAfter first last rest⟩

/-- The number that hexadecimal digits in small letters spell. -/
def code (digits : String) : Nat :=
  digits.toList.foldl (fun n c => 16 * n + if c.isDigit then c.toNat - 48 else c.toNat - 87) 0

/-- The set written as hexadecimal code points and ranges of them, such as `41-5a 5f`. -/
def ofText (rows : List String) : CharSet :=
  .ofRanges <| (rows.flatMap (·.splitOn " ")).map fun item =>
    match item.splitOn "-" with
    | [first, last] => (code first, code last)
    | _ => (code item, code item)

def empty : CharSet := ⟨[]⟩

def full : CharSet := ⟨[(0, top)]⟩

def single (c : Char) : CharSet := ⟨[(c.toNat, c.toNat)]⟩

def range (first last : Char) : CharSet := ofRanges [(first.toNat, last.toNat)]

def union (a b : CharSet) : CharSet := ofRanges (a.ranges ++ b.ranges)

instance : Union CharSet := ⟨union⟩

/-- The code point after another one. Between `d7ff` and `e000` there are none that are
characters. -/
def codeAfter (n : Nat) : Nat := if n = 0xd7ff then 0xe000 else n + 1

/-- The code point before another one. -/
def codeBefore (n : Nat) : Nat := if n = 0xe000 then 0xd7ff else n - 1

/-- The gaps between sorted ranges, from `start` on. -/
def gaps (start : Nat) : List (Nat × Nat) → List (Nat × Nat)
  | [] => if start ≤ top then [(start, top)] else []
  | (first, last) :: rest =>
    if start < first ∧ start ≤ codeBefore first then
      (start, codeBefore first) :: gaps (codeAfter last) rest
    else gaps (codeAfter last) rest

def complement (s : CharSet) : CharSet := ⟨gaps 0 s.ranges⟩

/-- What two sorted lists of ranges have in common: the range that ends first is cut with the other
list's first one and then left behind. -/
def overlaps : List (Nat × Nat) → List (Nat × Nat) → List (Nat × Nat)
  | [], _ => []
  | _, [] => []
  | (first, last) :: rest, (first', last') :: rest' =>
    let common := (max first first', min last last')
    let others :=
      if last ≤ last' then overlaps rest ((first', last') :: rest')
      else overlaps ((first, last) :: rest) rest'
    if common.1 ≤ common.2 then common :: others else others
termination_by a b => a.length + b.length

def inter (a b : CharSet) : CharSet := ⟨overlaps a.ranges b.ranges⟩

instance : Inter CharSet := ⟨inter⟩

def difference (a b : CharSet) : CharSet := a ∩ b.complement

def symmetricDifference (a b : CharSet) : CharSet := (a ∪ b).difference (a ∩ b)

end CharSet

end Dossier
