import Dossier.Regex.Bracket
import Dossier.Regex.Layout
import Dossier.Text.Shown

/-! Reading a regular expression. There are neither back references nor conditions that look further
than one character around a position; both are refused. -/

namespace Dossier.Regex

namespace Reader

/-! ### Repetitions -/

/-- A decimal with blanks around it, below two to the thirty-second. -/
def decimal : Reader Nat := do
  let blank := CharClass.blank.contains
  let _ ← takePlain blank
  let digits ← takeWhile Char.isDigit
  let _ ← takePlain blank
  let n : Nat := digits.foldl (fun n d => 10 * n + (d.toNat - 48)) 0
  if digits.isEmpty || decide (0x100000000 ≤ n) then failure
  return n

/-- The bounds of a counted repetition, after its opening brace. -/
def bounds : Reader (Nat × Option Nat) := do
  skipSpace
  let least ← decimal
  let most ←
    if ← acceptChar ',' then do
      skipSpace
      if (← peek) == some '}' then pure none else pure (some (← decimal))
    else pure (some least)
  expect '}'
  if most.any (decide <| · < least) then failure
  return (least, most)

/-- The bounds that a repetition operator stands for. -/
def operatorBounds? : Char → Option (Reader (Nat × Option Nat))
  | '*' => some (pure (0, none))
  | '+' => some (pure (1, none))
  | '?' => some (pure (0, some 1))
  | '{' => some bounds
  | _ => none

/-! ### Groups -/

/-- One flag letter, set or cleared. -/
def setFlag (f : Flags) (on : Bool) : Char → Option Flags
  | 'i' => some { f with ignoreCase := on }
  | 'm' => some { f with multiLine := on }
  | 's' => some { f with dotAll := on }
  | 'U' => some { f with swapGreed := on }
  | 'x' => some { f with extended := on }
  | 'R' => some { f with crlf := on }
  | 'u' => some { f with unicode := on }
  | _ => none

/-- Flag letters up to a colon or a closing parenthesis, each at most once; after a hyphen they are
cleared, and at least one must follow it. -/
def applyFlags (f : Flags) (seen : List Char) (on : Bool) (fresh : Bool) :
    List Char → Option Flags
  | [] => if on || !fresh then some f else none
  | c :: rest =>
    if c = '-' then if on then applyFlags f seen false true rest else none
    else if seen.contains c then none
    else (setFlag f on c).bind fun f => applyFlags f (c :: seen) on false rest

/-- The name of a group, after its opening angle bracket. -/
def groupName : Reader Unit := do
  let name ← takePlain (· != '>')
  expect '>'
  let starts (c : Char) := c == '_' || CharClass.anyAlphabetic.contains c
  let goesOn (c : Char) :=
    ['_', '.', '[', ']'].contains c || CharClass.anyAlphanumeric.contains c
  match name with
  | [] => failure
  | c :: rest => if !starts c || !rest.all goesOn then failure
  let text := String.ofList name
  if (← get).names.contains text then failure
  modify fun s => { s with names := text :: s.names }

/-- What a parenthesis opens: a group that its match can be asked for, one that only holds together,
or no group but flags for what follows. -/
inductive Opening where
  | capturing
  | plain
  | directive

/-- What opens a group, after its parenthesis. -/
def opening : Reader Opening := do
  skipSpace
  let rest := (← get).rest
  let looks := ["?=", "?!", "?<=", "?<!"].any fun l => l.toList.isPrefixOf rest
  if looks then failure
  if ← accept "?P<" then
    groupName
    return .capturing
  if ← accept "?<" then
    groupName
    return .capturing
  if !(← acceptChar '?') then return .capturing
  let letters ← takePlain fun c => c != ':' && c != ')'
  let stop ← next
  match applyFlags (← flags) [] true false letters with
  | none => failure
  | some f =>
    modify fun s => { s with flags := f }
    if stop = ':' then return .plain
    if letters.isEmpty then failure
    return .directive

/-! ### Sequences and choices -/

/-- A part that is no group, class or repetition: an escape, a dot, an anchor or a literal. -/
def simple (c : Char) : Reader Tree := do
  let f ← flags
  match c with
  | '\\' =>
    match ← escape with
    | .literal c asByte => literal c asByte
    | .set s => return .ofSet (← checkSet s)
    | .look l => return .look l
  | '.' =>
    let breaks : CharSet :=
      if f.dotAll then .empty else if f.crlf then .single '\n' ∪ .single '\r' else .single '\n'
    return .ofSet (← checkSet breaks.complement)
  | '^' => return .look (if f.multiLine then .lineStart f.crlf else .textStart)
  | '$' => return .look (if f.multiLine then .lineEnd f.crlf else .textEnd)
  | c => literal c false

/-- Parts in order. A change of flags has a place among them but matches nothing by itself. -/
def ofParts (ts : List (Option (Nested Tree))) : Nested Tree :=
  ⟨.inOrder (ts.filterMap (·.map Nested.value)), rowDepth (ts.map (·.elim 0 Nested.depth))⟩

/-- A choice of branches. -/
def ofBranches (ts : List (Nested Tree)) : Nested Tree :=
  ⟨.oneOf (ts.map Nested.value), rowDepth (ts.map Nested.depth)⟩

mutual

/-- Branches up to a closing parenthesis or the end. -/
def branches : Nat → Reader (List (Nested Tree))
  | 0 => failure
  | fuel + 1 => do
    let first ← parts fuel []
    if ← acceptChar '|' then return first :: (← branches fuel)
    return [first]

/-- Parts up to a bar, a closing parenthesis or the end; `done` holds those read, the last one
first. -/
def parts : Nat → List (Option (Nested Tree)) → Reader (Nested Tree)
  | 0, _ => failure
  | fuel + 1, done => do
    skipSpace
    match ← peek with
    | none | some ')' | some '|' => return ofParts done.reverse
    | some '(' =>
      skip
      let outer ← flags
      match ← opening with
      | .directive => parts fuel (none :: done)
      | kind =>
        let inner := ofBranches (← branches fuel)
        expect ')'
        modify fun s => { s with flags := outer }
        let tree := match kind with
          | .capturing => .group inner.value
          | _ => inner.value
        parts fuel (some ⟨tree, inner.depth + 1⟩ :: done)
    | some '[' =>
      skip
      let content ← bracketed fuel
      parts fuel (some ⟨.ofSet content.value, content.depth⟩ :: done)
    | some c =>
      skip
      match operatorBounds? c with
      | none => parts fuel (some ⟨← simple c, 0⟩ :: done)
      | some readBounds =>
        match done with
        | some last :: done =>
          let (least, most) ← readBounds
          if c = '{' then skipSpace
          let lazy ← acceptChar '?'
          let greedy := lazy == (← flags).swapGreed
          parts fuel (some ⟨last.value.times least most greedy, last.depth + 1⟩ :: done)
        | _ => failure

end

/-- How deeply an expression may nest. -/
def depthLimit : Nat := 250

end Reader

/-- Reads a whole text as a regular expression. -/
def Tree.ofString? (source : String) : Option Tree :=
  let read := Reader.branches (2 * source.length + 4)
  match read.run { rest := source.toList } with
  | some (branches, { rest := [], .. }) =>
    let whole := Reader.ofBranches branches
    if whole.depth ≤ Reader.depthLimit ∧ whole.value.fits then some whole.value else none
  | _ => none

end Dossier.Regex
