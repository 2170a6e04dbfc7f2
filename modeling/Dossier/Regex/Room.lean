import Dossier.Text.ByteRow

/-! How much room the parts of an automaton over bytes take. The automaton is not needed itself:
only its states are numbered and counted, with the ways on that they list. -/

namespace Dossier.Regex

/-- How many states there are, and how many bytes their lists of ways on take. -/
structure Room where
  states : Nat := 0
  lists : Nat := 0

namespace Room

/-- The bytes of a state without its list. -/
def stateSize : Nat := 32

/-- The bytes of a listed way on that takes a byte of some range. -/
def rangeSize : Nat := 8

/-- The bytes of a listed way on that takes nothing. -/
def linkSize : Nat := 4

/-- How many bytes an automaton may take. -/
def limit : Nat := 10 * 1024 * 1024

def size (r : Room) : Nat := stateSize * r.states + r.lists

end Room

/-- A layout goes on with more room taken, or has run out of room. -/
abbrev Layout := StateT Room Option

/-- Which way an automaton reads a text. -/
inductive Direction where
  | forward
  | backward
  deriving DecidableEq

/-- The list as it is met in a direction. -/
def Direction.order {α : Type} : Direction → List α → List α
  | forward, xs => xs
  | backward, xs => xs.reverse

namespace Layout

def take (states lists : Nat) : Layout Unit := do
  let r ← get
  let r : Room := ⟨r.states + states, r.lists + lists⟩
  if r.size ≤ Room.limit then set r else failure

/-- A further state and its number. -/
def state (list : Nat) : Layout Nat := do
  let number := (← get).states
  take 1 list
  return number

/-- States that list nothing. -/
def plain (n : Nat) : Layout Unit := take n 0

/-- A state that lists some ways on which take nothing. -/
def fork (ways : Nat) : Layout Unit := take 1 (Room.linkSize * ways)

/-- The room to go on from the end of a part: a fork there lists one more way. -/
def link (forked : Bool) : Layout Unit := if forked then take 0 Room.linkSize else pure ()

/-! ### Sets of characters -/

/-- The states that can be found again by what they are made of. There is a fixed number of slots,
and of two states with the same slot only the later one is found. -/
structure Slots where
  entries : Array (Option (List Nat × Nat))

def Slots.ofSize (n : Nat) : Slots := ⟨Array.replicate n none⟩

/-- A number of 64 bits into which all of some numbers go. -/
def fingerprint (ns : List Nat) : UInt64 :=
  ns.foldl (fun h n => (h ^^^ n.toUInt64) * 1099511628211) 14695981039346656037

/-- The slot of what a state is made of. -/
def Slots.slot (s : Slots) (key : List Nat) : Nat :=
  (fingerprint key).toNat % s.entries.size

/-- The state made of `key`; unless it is found there is a further one. -/
def shared (key : List Nat) (list : Nat) : StateT Slots Layout Nat := do
  let s ← get
  let slot := s.slot key
  let found := (s.entries.getD slot none).bind fun (made, number) =>
    if made == key then some number else none
  match found with
  | some number => return number
  | none =>
    let number ← state list
    set (Slots.mk (s.entries.setIfInBounds slot (some (key, number))))
    return number

/-- The states that read rows of bytes forwards and go on at `stop`. Rows share the states of a
common start and, where these are found, of a common end. The first number bounds the length of a
row. -/
def rowsForward (stop : Nat) : Nat → List (List CharSet.ByteRange) → StateT Slots Layout Nat
  | 0, _ => return stop
  | length + 1, rows => do
    let ways ← (rows.splitBy fun a b => a.head? == b.head?).mapM fun group => do
      let others := (group.map List.tail).filter (!·.isEmpty)
      let next ← if others.isEmpty then pure stop else rowsForward stop length others
      let (first, last) := (group.head?.bind List.head?).getD (0, 0)
      return [first, last, next]
    shared ways.flatten (Room.rangeSize * ways.length)

/-- The states that read rows of bytes backwards and go on at `stop`. Rows share the states of a
common start where these are found. -/
def rowsBackward (stop : Nat) (rows : List (List CharSet.ByteRange)) : StateT Slots Layout Unit :=
  for row in rows do
    let _ ← row.foldlM (fun next (first, last) => shared [next, first, last] 0) stop
    link true

/-- One character of a set. -/
def chars (d : Direction) (s : CharSet) : Layout Unit := do
  if s.ranges.all (decide <| ·.2 < 128) then take 2 (Room.rangeSize * s.ranges.length)
  else match d with
    | .forward =>
      let stop ← state 0
      let _ ← (rowsForward stop 4 s.byteRows).run (.ofSize 10000)
    | .backward =>
      fork 0
      let stop ← state 0
      let _ ← (rowsBackward stop s.byteRows).run (.ofSize 1000)

/-! ### Choices of texts -/

/-- The words between the empty ones, which follow a full match each. Empty words at the very start
are one. -/
def segments (words : List (List Nat)) : List (List (List Nat)) :=
  let others := words.dropWhile List.isEmpty
  let words := if others.length < words.length then [] :: others else others
  words.foldr (fun w found => match w, found with
    | [], found => [] :: found
    | w, segment :: found => (w :: segment) :: found
    | w, [] => [[w]]) [[]]

/-- The states that read one of some words: a state for the bytes that may come first after each
full match, and a fork to them all. The first number bounds the length of a word. -/
def words : Nat → List (List Nat) → Layout Unit
  | 0, _ => pure ()
  | length + 1, ws => do
    let found := segments ws
    let filled := found.filter (!·.isEmpty)
    for segment in filled do
      let groups := (segment.mergeSort fun a b => decide (a.headD 0 ≤ b.headD 0)).splitBy
        fun a b => a.head? == b.head?
      let _ ← state (if groups.length = 1 then 0 else Room.rangeSize * groups.length)
      for group in groups do
        let others := group.map List.tail
        if others.any (!·.isEmpty) then words length others
    fork (filled.length + (found.length - 1))

/-! ### Repetitions -/

/-- A part again and again, `n` times after an end. -/
def chain (body : Layout Bool) : Nat → Bool → Layout Bool
  | 0, forked => return forked
  | n + 1, forked => do
    link forked
    chain body n (← body)

/-- A part `n` times. -/
def copies (body : Layout Bool) : Nat → Layout Bool
  | 0 => do
    plain 1
    return false
  | n + 1 => do chain body n (← body)

/-- A part up to `n` times after an end. -/
def optionals (body : Layout Bool) : Nat → Bool → Layout Unit
  | 0, forked => link forked
  | n + 1, forked => do
    fork 2
    link forked
    optionals body n (← body)

/-- A part between both bounds; `consumes` says whether each round surely takes a character. -/
def repeated (body : Layout Bool) (consumes : Bool) : Nat → Option Nat → Layout Bool
  | 0, some 1 => do
    fork 2
    link (← body)
    plain 1
    return false
  | 0, none => do
    if consumes then
      fork 1
      link (← body)
      return true
    link (← body)
    fork 2
    fork 2
    plain 1
    return false
  | least + 1, none => do
    link (← copies body (least + 1))
    fork 1
    return true
  | least, some most => do
    let forked ← copies body least
    if least = most then return forked
    plain 1
    optionals body (most - least) forked
    return false

end Layout

end Dossier.Regex
