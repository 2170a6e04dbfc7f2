import Dossier.Regex.Program
import Dossier.Text.CharClass

/-! Running a program over a text. The ways a program can be at once are kept in order of
preference, so the match found is the one that the program's forks prefer. -/

namespace Dossier.Regex

/-- A position: the character before it and the one after it. -/
structure Position where
  before : Option Char
  after : Option Char

namespace Look

def isWord (ascii : Bool) (c : Option Char) : Bool :=
  c.any fun c => CharClass.word.contains c && (!ascii || decide (c.toNat < 128))

/-- Whether a condition holds at a position. -/
def holds (p : Position) : Look → Bool
  | textStart => p.before.isNone
  | textEnd => p.after.isNone
  | lineStart crlf =>
    p.before.isNone || p.before == some '\n' ||
      (crlf && p.before == some '\r' && p.after != some '\n')
  | lineEnd crlf =>
    p.after.isNone || (p.after == some '\n' && !(crlf && p.before == some '\r')) ||
      (crlf && p.after == some '\r')
  | boundary ascii => isWord ascii p.before != isWord ascii p.after
  | noBoundary ascii => isWord ascii p.before == isWord ascii p.after
  | wordStart ascii => !isWord ascii p.before && isWord ascii p.after
  | wordEnd ascii => isWord ascii p.before && !isWord ascii p.after
  | noWordBefore ascii => !isWord ascii p.before
  | noWordAfter ascii => !isWord ascii p.after

end Look

namespace Program

/-- The places in order of preference at which the program waits for a character, and whether it
accepts; what is less preferred than accepting is dropped. -/
structure Waiting where
  places : List (CharSet × Nat)
  accepts : Bool

/-- Follows the steps that take no character. `todo` holds the places to look at, the preferred one
first; `seen` marks the places looked at, none of which is looked at again. -/
def settle (p : Program) (pos : Position) : Nat → List Nat → Array Bool → List (CharSet × Nat) →
    Waiting
  | 0, _, _, found => ⟨found.reverse, false⟩
  | _, [], _, found => ⟨found.reverse, false⟩
  | fuel + 1, i :: todo, seen, found =>
    if seen.getD i true then settle p pos fuel todo seen found
    else
      let seen := seen.set! i true
      match p.steps.getD i .accept with
      | .accept => ⟨found.reverse, true⟩
      | .take set next => settle p pos fuel todo seen ((set, next) :: found)
      | .test condition next =>
        settle p pos fuel (if condition.holds pos then next :: todo else todo) seen found
      | .fork a b => settle p pos fuel (a :: b :: todo) seen found

/-- Settles at a position. Every place is looked at once and adds at most two to look at. -/
def settleAll (p : Program) (pos : Position) (places : List Nat) : Waiting :=
  p.settle pos (places.length + 2 * p.steps.size + 1) places
    (Array.replicate p.steps.size false) []

/-- The length of the preferred match that starts here; `places` is where the program is, `taken`
how many characters are behind, and `best` the match found so far. -/
def run (p : Program) (before : Option Char) (taken : Nat) (best : Option Nat) (places : List Nat) :
    List Char → Option Nat
  | [] => if (p.settleAll ⟨before, none⟩ places).accepts then some taken else best
  | c :: rest =>
    let waiting := p.settleAll ⟨before, some c⟩ places
    let best := if waiting.accepts then some taken else best
    let places := waiting.places.filterMap fun (set, next) =>
      if set.contains c then some next else none
    if places.isEmpty then best else run p (some c) (taken + 1) best places rest

/-- The first match in a text: the leftmost one, and of those that start there the preferred one. -/
def find? (p : Program) (before : Option Char) : List Char → Option (List Char)
  | [] => (p.run before 0 none [p.start] []).map fun _ => []
  | c :: rest =>
    match p.run before 0 none [p.start] (c :: rest) with
    | some length => some ((c :: rest).take length)
    | none => find? p (some c) rest

end Program

end Dossier.Regex
