import Dossier.Text.CharSet

/-! Sets of characters as rows of byte ranges: a row stands for the characters whose bytes each lie
in the range at their place. -/

namespace Dossier.CharSet

/-- The first and the last byte at a place. -/
abbrev ByteRange := Nat × Nat

/-- The rows of the codes from `first` to `last` that have `more` bytes after the first one. What is
left of a code for the first byte is added to `mark`; six bits go into each byte after it. Rows
cover whole blocks of codes as far as possible, and the codes of a row are in order. -/
def rowsBetween (mark : Nat) : Nat → Nat → Nat → List (List ByteRange)
  | 0, first, last => [[(mark + first, mark + last)]]
  | more + 1, first, last =>
    let size := 64 ^ (more + 1)
    let within (block first last : Nat) : List (List ByteRange) :=
      (rowsBetween 0x80 more first last).map ((mark + block, mark + block) :: ·)
    let firstBlock := first / size
    let lastBlock := last / size
    if firstBlock = lastBlock then within firstBlock (first % size) (last % size)
    else
      let cutFirst := first % size ≠ 0
      let cutLast := last % size ≠ size - 1
      let firstWhole := if cutFirst then firstBlock + 1 else firstBlock
      let endWhole := if cutLast then lastBlock else lastBlock + 1
      (if cutFirst then within firstBlock (first % size) (size - 1) else []) ++
        (if firstWhole < endWhole then
          [(mark + firstWhole, mark + endWhole - 1) :: List.replicate (more + 1) (0x80, 0xbf)]
        else []) ++
        (if cutLast then within lastBlock 0 (last % size) else [])

/-- The codes that take the same number of bytes: the first and the last one, the mark in the first
byte and the number of bytes after it. -/
def codeLengths : List (Nat × Nat × Nat × Nat) :=
  [(0, 0x7f, 0, 0), (0x80, 0x7ff, 0xc0, 1), (0x800, 0xd7ff, 0xe0, 2), (0xe000, 0xffff, 0xe0, 2),
    (0x10000, top, 0xf0, 3)]

/-- The rows of a set, in order of its characters. -/
def byteRows (s : CharSet) : List (List ByteRange) :=
  s.ranges.flatMap fun (first, last) =>
    codeLengths.flatMap fun (least, greatest, mark, more) =>
      if max first least ≤ min last greatest then
        rowsBetween mark more (max first least) (min last greatest)
      else []

end Dossier.CharSet
