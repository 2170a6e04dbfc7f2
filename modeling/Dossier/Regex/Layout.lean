import Dossier.Regex.Room
import Dossier.Regex.Syntax

/-! The room of an expression: it is laid out as an automaton over bytes twice, to read a text
forwards and to read it backwards, and both automata have to fit. -/

namespace Dossier.Regex

namespace Tree

/-- The bytes of a text. -/
def bytes (cs : List Char) : List Nat :=
  (cs.flatMap String.utf8EncodeChar).map UInt8.toNat

/-- The bytes of the texts that a choice is between, if it is between texts only. -/
def words? (d : Direction) (ts : List Tree) : Option (List (List Nat)) :=
  ts.mapM fun
    | text cs => some (d.order (bytes cs))
    | _ => none

mutual

/-- The states of an expression. The answer says whether the last one is a fork. -/
def layout (d : Direction) : Tree → Layout Bool
  | empty | look _ => do
    Layout.plain 1
    return false
  | text cs => do
    Layout.plain (bytes cs).length
    return false
  | set s => do
    Layout.chars d s
    return false
  | group t =>
    match d with
    | .forward => do
      Layout.plain 1
      Layout.link (← t.layout d)
      Layout.plain 1
      return false
    | .backward => t.layout d
  | sequence ts => sequenceLayout d ts
  | choice ts =>
    match words? d ts with
    | some ws => do
      Layout.plain 1
      Layout.words ((ws.map List.length).foldl max 0) ws
      return false
    | none => do
      choiceLayout d ts
      return false
  | repetition t least most _ => Layout.repeated (t.layout d) t.consumes least most

/-- The parts of a sequence as they are met. -/
def sequenceLayout (d : Direction) : List Tree → Layout Bool
  | [] => return false
  | [t] => t.layout d
  | t :: ts =>
    match d with
    | .forward => do
      Layout.link (← t.layout d)
      sequenceLayout d ts
    | .backward => do
      Layout.link (← sequenceLayout d ts)
      t.layout d

/-- The branches of a choice; its own states come after the second one. -/
def choiceLayout (d : Direction) : List Tree → Layout Unit
  | [] => pure ()
  | [t] => do Layout.link (← t.layout d)
  | t :: u :: ts => do
    Layout.link (← t.layout d)
    Layout.link (← u.layout d)
    Layout.fork 2
    Layout.plain 1
    branchesLayout d ts

/-- Further branches of a choice. -/
def branchesLayout (d : Direction) : List Tree → Layout Unit
  | [] => pure ()
  | t :: ts => do
    Layout.link (← t.layout d)
    Layout.link true
    branchesLayout d ts

end

/-- The condition that holds only where reading in a direction starts. -/
def edge : Direction → Look
  | .forward => .textStart
  | .backward => .textEnd

/-- Whether one of some parts begins with the edge and those before it match only the empty text; of
each part it is known whether the one and the other holds. -/
def beginAtEdge : List (Bool × Bool) → Bool
  | [] => false
  | (held, onlyEmpty) :: rest => held || onlyEmpty && beginAtEdge rest

mutual

/-- Whether a match must begin, in a direction, with the edge of the text. -/
def anchored (d : Direction) : Tree → Bool
  | look l => l == edge d
  | group t => t.anchored d
  | sequence ts => beginAtEdge (d.order (anchors d ts))
  | choice ts => !ts.isEmpty && (anchors d ts).all (·.1)
  | repetition t least _ _ => decide (0 < least) && t.anchored d
  | empty | text _ | set _ => false

/-- For each part whether it must begin with the edge and whether it matches only the empty text. -/
def anchors (d : Direction) : List Tree → List (Bool × Bool)
  | [] => []
  | t :: ts => (t.anchored d, t.maxLength? == some 0) :: anchors d ts

end

/-- The states of a whole automaton: those that skip to where a match starts, the expression, for
reading forwards what notes both ends of the match, and the state that accepts. -/
def wholeLayout (d : Direction) (t : Tree) : Layout Unit := do
  if t.anchored d then Layout.plain 1
  else
    Layout.fork 2
    Layout.plain 1
    let _ ← Layout.state Room.rangeSize
  match d with
  | .forward =>
    Layout.plain 1
    Layout.link (← t.layout d)
    Layout.plain 2
  | .backward =>
    Layout.link (← t.layout d)
    Layout.plain 1

/-- Whether both automata of an expression fit into the room for one. -/
def fits (t : Tree) : Bool :=
  ((t.wholeLayout .forward).run {}).isSome && ((t.wholeLayout .backward).run {}).isSome

end Tree

end Dossier.Regex
