import Dossier.Text.CharSet

/-! Regular expressions as trees, put together so that they stay simple: characters in a row are one
text, a sequence holds no sequence and a choice no choice, and a choice of characters is a set. -/

namespace Dossier.Regex

/-- A condition on a position; `ascii` restricts the notion of a word to ASCII. -/
inductive Look where
  | textStart
  | textEnd
  | lineStart (crlf : Bool)
  | lineEnd (crlf : Bool)
  | boundary (ascii : Bool)
  | noBoundary (ascii : Bool)
  | wordStart (ascii : Bool)
  | wordEnd (ascii : Bool)
  | noWordBefore (ascii : Bool)
  | noWordAfter (ascii : Bool)
  deriving DecidableEq

/-- A regular expression. A text is not empty, and an empty set matches nothing. Only groups whose
match can be asked for are kept. A repetition without `most` has no upper bound, and one that is not
greedy prefers to stop. -/
inductive Tree where
  | empty
  | text (chars : List Char)
  | set (chars : CharSet)
  | look (condition : Look)
  | group (inner : Tree)
  | sequence (parts : List Tree)
  | choice (branches : List Tree)
  | repetition (inner : Tree) (least : Nat) (most : Option Nat) (greedy : Bool)

namespace Tree

/-! ### Lengths of matches -/

/-- How many bytes a code point takes. -/
def codeSize (n : Nat) : Nat :=
  if n < 0x80 then 1 else if n < 0x800 then 2 else if n < 0x10000 then 3 else 4

mutual

/-- The least number of bytes of a match, unless some part of the expression matches nothing. -/
def minLength? : Tree → Option Nat
  | empty | look _ => some 0
  | text cs => some (cs.map Char.utf8Size).sum
  | set s => s.ranges.head?.map fun r => codeSize r.1
  | group t => t.minLength?
  | sequence ts => sumMinLengths? ts
  | choice ts => leastLength? ts
  | repetition t least _ _ => t.minLength?.map (· * least)

def sumMinLengths? : List Tree → Option Nat
  | [] => some 0
  | t :: ts => do return (← t.minLength?) + (← sumMinLengths? ts)

def leastLength? : List Tree → Option Nat
  | [] => none
  | [t] => t.minLength?
  | t :: ts => do return min (← t.minLength?) (← leastLength? ts)

end

mutual

/-- The greatest number of bytes of a match, if there is one and no part of the expression matches
nothing. -/
def maxLength? : Tree → Option Nat
  | empty | look _ => some 0
  | text cs => some (cs.map Char.utf8Size).sum
  | set s => s.ranges.getLast?.map fun r => codeSize r.2
  | group t => t.maxLength?
  | sequence ts => sumMaxLengths? ts
  | choice ts => greatestLength? ts
  | repetition t _ most _ => do return (← t.maxLength?) * (← most)

def sumMaxLengths? : List Tree → Option Nat
  | [] => some 0
  | t :: ts => do return (← t.maxLength?) + (← sumMaxLengths? ts)

def greatestLength? : List Tree → Option Nat
  | [] => none
  | [t] => t.maxLength?
  | t :: ts => do return max (← t.maxLength?) (← greatestLength? ts)

end

/-- Whether a match surely takes a character. -/
def consumes (t : Tree) : Bool := t.minLength?.any (decide <| 0 < ·)

mutual

/-- Whether two expressions are the same. Every group is one of its own. -/
def same : Tree → Tree → Bool
  | empty, empty => true
  | text a, text b => a == b
  | set a, set b => a == b
  | look a, look b => a == b
  | sequence as, sequence bs => sameAll as bs
  | choice as, choice bs => sameAll as bs
  | repetition a least most greedy, repetition b least' most' greedy' =>
    a.same b && least == least' && most == most' && greedy == greedy'
  | _, _ => false

def sameAll : List Tree → List Tree → Bool
  | [], [] => true
  | a :: as, b :: bs => a.same b && sameAll as bs
  | _, _ => false

end

/-! ### Putting expressions together -/

/-- One character of a set; a set of one character is a text. -/
def ofSet (s : CharSet) : Tree :=
  match s.ranges with
  | [(first, last)] => if first = last then text [Char.ofNat first] else set s
  | _ => set s

def ofChar (c : Char) : Tree := text [c]

/-- Joins the texts that stand side by side. -/
def joinTexts : List Tree → List Tree
  | [] => []
  | text a :: rest =>
    match joinTexts rest with
    | text b :: rest => text (a ++ b) :: rest
    | rest => text a :: rest
  | t :: rest => t :: joinTexts rest

/-- What a sequence is made of; any other expression stands for itself. -/
def parts : Tree → List Tree
  | empty => []
  | sequence ts => ts
  | t => [t]

/-- Expressions one after the other. -/
def inOrder (ts : List Tree) : Tree :=
  match joinTexts (ts.flatMap parts) with
  | [] => empty
  | [t] => t
  | ts => sequence ts

/-- What a choice is made of; any other expression stands for itself. -/
def branches : Tree → List Tree
  | choice ts => ts
  | t => [t]

def char? : Tree → Option Char
  | text [c] => some c
  | _ => none

def set? : Tree → Option CharSet
  | set s => some s
  | _ => none

/-- A choice that has the branches as they are, unless they are characters or sets throughout. -/
def choose (ts : List Tree) : Tree :=
  match ts with
  | [] => set .empty
  | [t] => t
  | ts =>
    match ts.mapM char?, ts.mapM set? with
    | some cs, _ => ofSet (.ofRanges (cs.map fun c => (c.toNat, c.toNat)))
    | none, some sets => ofSet (.ofRanges (sets.flatMap CharSet.ranges))
    | none, none => choice ts

/-- The parts that two sequences start with. -/
def sharedStart : List Tree → List Tree → List Tree
  | a :: as, b :: bs => if a.same b then a :: sharedStart as bs else []
  | _, _ => []

/-- The parts that all branches start with; there are none unless all are sequences. -/
def sharedParts : List Tree → List Tree
  | sequence ts :: rest =>
    rest.foldl (fun shared t => match t with
      | sequence us => sharedStart shared us
      | _ => []) ts
  | _ => []

/-- One of some expressions, the first ones preferred. What all branches start with is put in front
of the choice; after it no further part can be common to all. -/
def oneOf (ts : List Tree) : Tree :=
  let ts := ts.flatMap branches
  match sharedParts ts with
  | [] => choose ts
  | shared =>
    let others := ts.map fun t => inOrder (t.parts.drop shared.length)
    inOrder (shared ++ [choose (others.flatMap branches)])

/-- An expression over and over, but at most once where more rounds cannot match more. -/
def times (t : Tree) (least : Nat) (most : Option Nat) (greedy : Bool) : Tree :=
  let once := t.maxLength? == some 0
  let least := if once then min least 1 else least
  let most := if once then some (min (most.getD 1) 1) else most
  match least, most with
  | 0, some 0 => empty
  | 1, some 1 => t
  | least, most => repetition t least most greedy

end Tree

end Dossier.Regex
