import Dossier.Json.Tree
import Dossier.Text.CharClass

/-! Reading JSON text. Nesting is limited, a number too large for a double is refused, and of a key
that comes twice the last value counts. -/

namespace Dossier.Json

namespace Reader

def skipSpace : List Char → List Char :=
  List.dropWhile fun c => c == ' ' || c == '\n' || c == '\t' || c == '\r'

/-! ### Numbers

The first digits that fit an unsigned integer of sixty-four bits are kept as one; the others only
count as places. That integer is then scaled by a power of ten, in steps of at most `10 ^ 308`, each
of which rounds. -/

/-- Whether another digit still fits sixty-four bits. -/
def fits (significand digit : Nat) : Bool := decide (significand * 10 + digit < 0x10000000000000000)

def digitValue (c : Char) : Nat := c.toNat - 48

/-- A power of ten as a double. -/
def powerOfTen (n : Nat) : Double := .ofQuotient false (Nat.pow 10 n) 1

/-- A significand times a power of ten, in the steps described above. Every step that divides by
`10 ^ 308` brings the exponent nearer to zero, and two of them make the significand zero. -/
def scale : Nat → Double → Int → Option Double
  | 0, _, _ => none
  | fuel + 1, x, exponent =>
    if exponent.natAbs ≤ 308 then
      if 0 ≤ exponent then
        let y := x * powerOfTen exponent.natAbs
        if y.isFinite then some y else none
      else some (x / powerOfTen exponent.natAbs)
    else if x.units = 0 then some x
    else if 0 ≤ exponent then none
    else scale fuel (x / powerOfTen 308) (exponent + 308)

def toDouble (negative : Bool) (significand : Nat) (exponent : Int) : Option Double :=
  (scale 5 (.ofInt significand) exponent).map fun x => if negative then x.neg else x

/-- An exponent kept within the range of 32-bit integers. -/
def clampExponent (n : Int) : Int := max (-0x80000000) (min n 0x7fffffff)

/-- The part from an exponent's letter on, after the letter. An exponent beyond thirty-two bits
makes zero, or is refused. -/
def readExponent (negative : Bool) (significand : Nat) (places : Int) (cs : List Char) :
    Option (Double × List Char) :=
  let (down, cs) := match cs with
    | '+' :: cs => (false, cs)
    | '-' :: cs => (true, cs)
    | cs => (false, cs)
  let digits := cs.takeWhile Char.isDigit
  let rest := cs.drop digits.length
  let exponent : Nat := digits.foldl (fun n c => 10 * n + digitValue c) 0
  if digits.isEmpty then none
  else if exponent < 0x80000000 then
    let power := clampExponent (if down then places - exponent else places + exponent)
    (toDouble negative significand power).map (·, rest)
  else if significand ≠ 0 ∧ !down then none
  else some (.zero negative, rest)

/-- What follows the digits of a number that is no integer. -/
def finishDouble (negative : Bool) (significand : Nat) (places : Int) (cs : List Char) :
    Option (Double × List Char) :=
  match cs with
  | 'e' :: cs | 'E' :: cs => readExponent negative significand places cs
  | cs => (toDouble negative significand places).map (·, cs)

/-- Digits behind the point, as long as they fit: the significand and the places used. -/
def takeFraction (significand : Nat) (places : Int) : List Char → Nat × Int × List Char
  | [] => (significand, places, [])
  | c :: cs =>
    if c.isDigit && fits significand (digitValue c) then
      takeFraction (significand * 10 + digitValue c) (places - 1) cs
    else (significand, places, c :: cs)

/-- The part behind the point, after the point: at least one digit. -/
def readFraction (negative : Bool) (significand : Nat) (places : Int) (cs : List Char) :
    Option (Double × List Char) :=
  match cs with
  | c :: _ =>
    if !c.isDigit then none
    else
      let (significand, places, rest) := takeFraction significand places cs
      finishDouble negative significand places (rest.dropWhile Char.isDigit)
  | [] => none

/-- Digits before the point, as long as they fit. -/
def takeInteger (significand : Nat) : List Char → Nat × List Char
  | [] => (significand, [])
  | c :: cs =>
    if c.isDigit && fits significand (digitValue c) then
      takeInteger (significand * 10 + digitValue c) cs
    else (significand, c :: cs)

/-- What follows the integral digits. Without point and exponent it is an integer if it fits one; a
negative zero is a double. -/
def afterInteger (negative : Bool) (significand : Nat) (cs : List Char) :
    Option (Json × List Char) :=
  let ofDouble (r : Option (Double × List Char)) := r.map fun (x, rest) => (Json.double x, rest)
  match cs with
  | '.' :: cs => ofDouble (readFraction negative significand 0 cs)
  | 'e' :: cs | 'E' :: cs => ofDouble (readExponent negative significand 0 cs)
  | cs =>
    let further := cs.takeWhile Char.isDigit
    if !further.isEmpty then
      let rest := cs.drop further.length
      match rest with
      | '.' :: rest => ofDouble (readFraction negative significand further.length rest)
      | rest => ofDouble (finishDouble negative significand further.length rest)
    else if !negative then some (.integer significand, cs)
    else if significand = 0 ∨ 0x8000000000000000 < significand then
      some (.double (Double.ofInt significand).neg, cs)
    else some (.integer (-significand), cs)

/-- A number: a zero that starts it is its only integral digit. -/
def readNumber (negative : Bool) (cs : List Char) : Option (Json × List Char) :=
  match cs with
  | '0' :: rest =>
    if rest.head?.any Char.isDigit then none else afterInteger negative 0 rest
  | c :: _ =>
    if c.isDigit then
      let (significand, rest) := takeInteger 0 cs
      afterInteger negative significand rest
    else none
  | [] => none

/-! ### Strings -/

def hexValue? (c : Char) : Option Nat :=
  if c.isDigit then some (c.toNat - 48)
  else if decide ('a' ≤ c) && decide (c ≤ 'f') then some (c.toNat - 87)
  else if decide ('A' ≤ c) && decide (c ≤ 'F') then some (c.toNat - 55)
  else none

/-- Four hexadecimal digits. -/
def hexCode? (a b c d : Char) : Option Nat := do
  return 4096 * (← hexValue? a) + 256 * (← hexValue? b) + 16 * (← hexValue? c) + (← hexValue? d)

def isHighSurrogate (n : Nat) : Bool := decide (0xd800 ≤ n) && decide (n < 0xdc00)

def isLowSurrogate (n : Nat) : Bool := decide (0xdc00 ≤ n) && decide (n < 0xe000)

/-- The character that a letter after a backslash stands for. -/
def shortEscape? : Char → Option Char
  | '"' => some '"'
  | '\\' => some '\\'
  | '/' => some '/'
  | 'b' => some '\x08'
  | 'f' => some '\x0c'
  | 'n' => some '\n'
  | 'r' => some '\r'
  | 't' => some '\t'
  | _ => none

/-- A string after its opening quote: its characters and what follows the closing one. Characters
beyond sixteen bits are escaped as two surrogates, neither of which may stand alone. -/
def readString : List Char → Option (List Char × List Char)
  | [] => none
  | '"' :: rest => some ([], rest)
  | '\\' :: 'u' :: a :: b :: c :: d :: '\\' :: 'u' :: e :: f :: g :: h :: rest => do
    let n ← hexCode? a b c d
    if isHighSurrogate n then
      let m ← hexCode? e f g h
      if !isLowSurrogate m then failure
      let (s, rest) ← readString rest
      return (Char.ofNat (0x10000 + (n - 0xd800) * 0x400 + (m - 0xdc00)) :: s, rest)
    if isLowSurrogate n then failure
    let (s, rest) ← readString ('\\' :: 'u' :: e :: f :: g :: h :: rest)
    return (Char.ofNat n :: s, rest)
  | '\\' :: 'u' :: a :: b :: c :: d :: rest => do
    let n ← hexCode? a b c d
    if isHighSurrogate n || isLowSurrogate n then failure
    let (s, rest) ← readString rest
    return (Char.ofNat n :: s, rest)
  | '\\' :: c :: rest => do
    let c ← shortEscape? c
    let (s, rest) ← readString rest
    return (c :: s, rest)
  | c :: rest => do
    if c.toNat < 0x20 then failure
    let (s, rest) ← readString rest
    return (c :: s, rest)

/-! ### Arrays, objects and values -/

/-- Items up to a closing bracket, at least one, a comma between them; `read` reads one item. -/
def readItems (read : List Char → Option (Json × List Char)) :
    Nat → List Char → Option (List Json × List Char)
  | 0, _ => none
  | fuel + 1, cs => do
    let (item, rest) ← read cs
    match skipSpace rest with
    | ',' :: rest =>
      let (items, rest) ← readItems read fuel rest
      return (item :: items, rest)
    | ']' :: rest => return ([item], rest)
    | _ => failure

/-- Entries up to a closing brace, at least one, a comma between them. -/
def readEntries (read : List Char → Option (Json × List Char)) :
    Nat → List Char → Option (List (String × Json) × List Char)
  | 0, _ => none
  | fuel + 1, cs =>
    match skipSpace cs with
    | '"' :: rest => do
      let (key, rest) ← readString rest
      match skipSpace rest with
      | ':' :: rest =>
        let (item, rest) ← read rest
        let entry := (String.ofList key, item)
        match skipSpace rest with
        | ',' :: rest =>
          let (entries, rest) ← readEntries read fuel rest
          return (entry :: entries, rest)
        | '}' :: rest => return ([entry], rest)
        | _ => failure
      | _ => failure
    | _ => none

/-- A value; `depth` is how much deeper arrays and objects may nest. -/
def readValue : Nat → List Char → Option (Json × List Char)
  | depth, cs =>
    match skipSpace cs with
    | 'n' :: 'u' :: 'l' :: 'l' :: rest => some (.null, rest)
    | 't' :: 'r' :: 'u' :: 'e' :: rest => some (.bool true, rest)
    | 'f' :: 'a' :: 'l' :: 's' :: 'e' :: rest => some (.bool false, rest)
    | '"' :: rest => (readString rest).map fun (s, rest) => (.string (.ofList s), rest)
    | '-' :: rest => readNumber true rest
    | '[' :: rest =>
      match depth with
      | 0 => none
      | depth + 1 =>
        match skipSpace rest with
        | ']' :: rest => some (.array [], rest)
        | rest =>
          (readItems (readValue depth) rest.length rest).map fun (xs, rest) => (.array xs, rest)
    | '{' :: rest =>
      match depth with
      | 0 => none
      | depth + 1 =>
        match skipSpace rest with
        | '}' :: rest => some (.object [], rest)
        | rest =>
          (readEntries (readValue depth) rest.length rest).map fun (es, rest) =>
            (.object (Entries.ofList es), rest)
    | rest => readNumber false rest

end Reader

/-- Reads a whole text as one JSON value; arrays and objects nest at most 127 deep. -/
def ofString? (text : String) : Option Json :=
  match Reader.readValue 127 text.toList with
  | some (x, rest) => if (Reader.skipSpace rest).isEmpty then some x else none
  | none => none

end Dossier.Json
