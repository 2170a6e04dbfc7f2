import Dossier.Text.CharClass

/-! The place in the text of a regular expression: what is left to read and the flags in force. -/

namespace Dossier.Regex

/-- The flags in force: letters of either case alike, `^` and `$` at line ends, `.` also at a line
break, lazy repetitions first, blanks and comments between the parts ignored, carriage returns as
line breaks, and classes beyond ASCII. -/
structure Flags where
  ignoreCase : Bool := false
  multiLine : Bool := false
  dotAll : Bool := false
  swapGreed : Bool := false
  extended : Bool := false
  crlf : Bool := false
  unicode : Bool := true

/-- What is left to read, the flags in force, and the names of groups so far. -/
structure Cursor where
  rest : List Char
  flags : Flags := {}
  names : List String := []

/-- A reader refuses the text or goes on from a new place. -/
abbrev Reader := StateT Cursor Option

/-- Something read, and how deeply its text nests. -/
structure Nested (α : Type) where
  value : α
  depth : Nat

/-- How deeply a row of texts nests: a row of several is a level of its own. -/
def rowDepth (depths : List Nat) : Nat :=
  let inner := depths.foldl max 0
  if depths.length < 2 then inner else inner + 1

namespace Reader

def peek : Reader (Option Char) := return (← get).rest.head?

def skipBy (n : Nat) : Reader Unit := modify fun s => { s with rest := s.rest.drop n }

def skip : Reader Unit := skipBy 1

def flags : Reader Flags := return (← get).flags

/-- The next character, taken. -/
def next : Reader Char := do
  match (← get).rest with
  | [] => failure
  | c :: rest =>
    modify fun s => { s with rest }
    return c

/-- Takes a given character if it comes next. -/
def acceptChar (c : Char) : Reader Bool := do
  let found := (← get).rest.head? == some c
  if found then skip
  return found

/-- Takes a given text if it comes next. -/
def accept (text : String) : Reader Bool := do
  let found := text.toList.isPrefixOf (← get).rest
  if found then skipBy text.length
  return found

/-- Takes a given character or refuses the text. -/
def expect (c : Char) : Reader Unit := do
  if !(← acceptChar c) then failure

/-- The characters that satisfy a condition, up to the first one that does not, and what is left. -/
def spanPlain (p : Char → Bool) : List Char → List Char × List Char
  | [] => ([], [])
  | c :: rest =>
    if p c then
      let (kept, rest) := spanPlain p rest
      (c :: kept, rest)
    else ([], c :: rest)

/-- The same where blanks and comments are left out; a comment runs from a hash sign to the end of
its line. -/
def spanSpaced (p : Char → Bool) (comment : Bool) : List Char → List Char × List Char
  | [] => ([], [])
  | c :: rest =>
    if comment then spanSpaced p (c != '\n') rest
    else if CharClass.blank.contains c then spanSpaced p false rest
    else if c = '#' then spanSpaced p true rest
    else if p c then
      let (kept, rest) := spanSpaced p false rest
      (c :: kept, rest)
    else ([], c :: rest)

/-- Takes the characters that satisfy a condition, whatever the flags. -/
def takePlain (p : Char → Bool) : Reader (List Char) := do
  let s ← get
  let (kept, rest) := spanPlain p s.rest
  set { s with rest }
  return kept

/-- Takes the characters that satisfy a condition, and where the flags say so the blanks and
comments among them and after them. -/
def takeWhile (p : Char → Bool) : Reader (List Char) := do
  let s ← get
  let (kept, rest) := if s.flags.extended then spanSpaced p false s.rest else spanPlain p s.rest
  set { s with rest }
  return kept

/-- Skips blanks and comments where the flags say so. -/
def skipSpace : Reader Unit := do
  let _ ← takeWhile fun _ => false

/-- The character after the next one. Where blanks are ignored, so is one hash sign among them, and
not the comment that it starts. -/
def peekSecond : Reader (Option Char) := do
  let s ← get
  let rest := s.rest.drop 1
  if !s.flags.extended then return rest.head?
  let blank := CharClass.blank.contains
  match rest.dropWhile blank with
  | '#' :: rest => return (rest.dropWhile blank).head?
  | rest => return rest.head?

end Reader

end Dossier.Regex
