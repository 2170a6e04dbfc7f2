import Dossier.Value.Order

/-! What hashing a value feeds to a hasher. A number is fed by what it denotes and a document as the
sum of the hashes of its entries, so that equal values feed the same. -/

namespace Dossier

/-- One thing fed to a hasher. -/
inductive Hash.Feed where
  | rank (n : Nat)
  | bool (b : Bool)
  | integer (n : Int)
  | bits (b : UInt64)
  | text (s : String)
  | length (n : Nat)
  deriving DecidableEq

namespace Hash

/-- What a number feeds: a whole number in the range of 128-bit integers as such, and any other
double by its bits, of which there is one pattern for all that are not numbers. -/
def ofNumber : Number → Feed
  | .signed n => .integer n.toInt
  | .unsigned n => .integer n.toNat
  | .double x =>
    match x.toInt? with
    | some n => .integer n
    | none => .bits (if x.isNaN then Double.nan.bits else x.bits)

mutual

/-- What a value feeds; `entryHash` is the hash of one entry of a document. -/
def ofValue (entryHash : List Feed → UInt64) : Value → List Feed
  | .null => [.rank 0]
  | .bool b => [.rank 1, .bool b]
  | .number n => [.rank 2, ofNumber n]
  | .string s => [.rank 3, .text s]
  | .array xs => .rank 4 :: .length xs.length :: ofItems entryHash xs
  | .document d => .rank 5 :: ofDocument entryHash d
  | .pattern p => [.rank 6, .text p.source]

def ofItems (entryHash : List Feed → UInt64) : List Value → List Feed
  | [] => []
  | x :: xs => ofValue entryHash x ++ ofItems entryHash xs

/-- A document feeds its size and the sum of the hashes of its entries. -/
def ofDocument (entryHash : List Feed → UInt64) : Document → List Feed
  | ⟨es⟩ => [.length es.length, .bits (sumOfEntries entryHash es)]

def sumOfEntries (entryHash : List Feed → UInt64) : List (String × Value) → UInt64
  | [] => 0
  | (key, v) :: rest =>
    entryHash (.text key :: ofValue entryHash v) + sumOfEntries entryHash rest

end

/-- One word mixed into a hash; the shift carries high bits back to where the product spreads them.
-/
def mix (h word : UInt64) : UInt64 :=
  let product := (h ^^^ word) * 1099511628211
  product ^^^ (product >>> 29)

/-- The words of one thing fed, its kind first. -/
def Feed.words : Feed → List UInt64
  | .rank n => [1, .ofNat n]
  | .bool b => [2, if b then 1 else 0]
  | .integer n => [3, .ofInt n, .ofInt (n / 0x10000000000000000)]
  | .bits b => [4, b]
  | .text s => 5 :: s.toList.map fun c => .ofNat c.toNat
  | .length n => [6, .ofNat n]

/-- A hash of all that is fed. -/
def finish (fed : List Feed) : UInt64 :=
  fed.foldl (fun h f => f.words.foldl mix h) 14695981039346656037

end Hash

/-- The hash of a value. -/
def Value.hash (v : Value) : UInt64 := Hash.finish (Hash.ofValue Hash.finish v)

/-- The hash of a document. -/
def Document.hash (d : Document) : UInt64 := Hash.finish (Hash.ofDocument Hash.finish d)

end Dossier
