import Dossier.Regex.Cursor
import Dossier.Regex.Syntax
import Dossier.Text.Folding
import Dossier.Text.Property

/-! What a backslash makes of the text after it: a character, a class or a condition on a
position. -/

namespace Dossier.Regex.Reader

/-! ### Sets under the flags -/

/-- A set closed under case where case is ignored. -/
def foldCase (f : Flags) (s : CharSet) : CharSet :=
  if !f.ignoreCase then s
  else if f.unicode then Folding.closure s
  else s ∪ (Folding.closure s ∩ ⟨[(0, 127)]⟩)

/-- What is not in a set. Two ranges that only the surrogates part are taken to have a gap between
them, which is then made of their two ends. -/
def denied (s : CharSet) : CharSet :=
  if s.ranges.any (·.2 == 0xd7ff) && s.ranges.any (·.1 == 0xe000) then
    s.complement ∪ ⟨[(0xd7ff, 0xe000)]⟩
  else s.complement

/-- A set as it is or denied; cases are made alike before it is denied. -/
def foldAndDeny (f : Flags) (negated : Bool) (s : CharSet) : CharSet :=
  if negated then denied (foldCase f s) else foldCase f s

/-- Refuses a set that reaches beyond ASCII where the classes do not. -/
def checkSet (s : CharSet) : Reader CharSet := do
  if !(← flags).unicode && s.ranges.any fun (_, last) => decide (127 < last) then failure
  return s

/-! ### Classes -/

def named (ascii : String) (wide : CharSet) : Reader CharSet := do
  if (← flags).unicode then return wide
  return (CharClass.ascii? ascii).getD .empty

/-- The class that a letter after a backslash stands for. -/
def letterClass? : Char → Option (Reader CharSet)
  | 'd' => some (named "digit" CharClass.digit)
  | 's' => some (named "space" CharClass.blank)
  | 'w' => some (named "word" CharClass.word)
  | 'D' => some (denied <$> named "digit" CharClass.digit)
  | 'S' => some (denied <$> named "space" CharClass.blank)
  | 'W' => some (denied <$> named "word" CharClass.word)
  | _ => none

/-- Where a text is first found in another: what comes before it and what comes after. -/
def splitAt? (mark : List Char) : List Char → Option (List Char × List Char)
  | [] => none
  | c :: rest =>
    if mark.isPrefixOf (c :: rest) then some ([], (c :: rest).drop mark.length)
    else (splitAt? mark rest).map fun (before, after) => (c :: before, after)

/-- A property in braces: a name alone, or a name and a value. Even the sign that would deny the
value only parts the two. -/
def bracedProperty? (text : List Char) : Option CharSet :=
  let parted := splitAt? ['!', '='] text <|> splitAt? [':'] text <|> splitAt? ['='] text
  match parted with
  | some (name, value) => Property.ofValue? name value
  | none => Property.ofName? text

/-- A property class after its letter. -/
def property (negated : Bool) : Reader CharSet := do
  let f ← flags
  if !f.unicode then failure
  skipSpace
  let c ← next
  let found ←
    if c = '{' then do
      let text ← takeWhile (· != '}')
      expect '}'
      pure (bracedProperty? text)
    else pure (if c = '\\' then none else Property.ofName? [c])
  match found with
  | some s => return foldAndDeny f negated s
  | none => failure

/-! ### Characters and positions -/

/-- What an escape stands for. A character may be written as a byte, with two digits. -/
inductive Escape where
  | literal (c : Char) (asByte : Bool)
  | set (s : CharSet)
  | look (l : Look)

def hexDigit? (c : Char) : Option Nat :=
  if c.isDigit then some (c.toNat - 48)
  else if decide ('a' ≤ c) && decide (c ≤ 'f') then some (c.toNat - 87)
  else if decide ('A' ≤ c) && decide (c ≤ 'F') then some (c.toNat - 55)
  else none

/-- The character whose code these hexadecimal digits spell. -/
def scalar (digits : List Char) : Reader Char := do
  let values := digits.filterMap hexDigit?
  let code := values.foldl (fun n d => 16 * n + d) 0
  if digits.isEmpty || values.length != digits.length then failure
  if h : code.isValidChar then return Char.ofNatAux code h
  failure

/-- A character by its code, in braces or with a fixed number of digits. -/
def byCode (digits : Nat) : Reader Escape := do
  skipSpace
  if ← acceptChar '{' then
    let text ← takeWhile (· != '}')
    expect '}'
    return .literal (← scalar text) false
  let text ← (List.range digits).mapM fun _ => do
    let c ← next
    skipSpace
    return c
  return .literal (← scalar text) (digits == 2)

/-- The special word boundaries, whose names stand in braces; anything but a letter or a hyphen
after the brace belongs to a repetition instead. -/
def boundary (ascii : Bool) : Reader Look := do
  let s ← get
  if !(← acceptChar '{') then return .boundary ascii
  skipSpace
  let isLetter (c : Char) := c.isAlpha || c == '-'
  match ← peek with
  | none => failure
  | some c =>
    if !isLetter c then
      set s
      return .boundary ascii
    let name ← takeWhile isLetter
    expect '}'
    match String.ofList name with
    | "start" => return .wordStart ascii
    | "end" => return .wordEnd ascii
    | "start-half" => return .noWordBefore ascii
    | "end-half" => return .noWordAfter ascii
    | _ => failure

/-- An escape, after its backslash. -/
def escape : Reader Escape := do
  let c ← next
  let ascii := !(← flags).unicode
  if let some s := letterClass? c then return .set (← s)
  if c.isDigit then failure
  if !c.isAlpha && decide (c.toNat < 128) && c != '<' && c != '>' then return .literal c false
  match c with
  | 'x' => byCode 2
  | 'u' => byCode 4
  | 'U' => byCode 8
  | 'p' => return .set (← property false)
  | 'P' => return .set (← property true)
  | 'a' => return .literal '\x07' false
  | 'f' => return .literal '\x0c' false
  | 't' => return .literal '\t' false
  | 'n' => return .literal '\n' false
  | 'r' => return .literal '\r' false
  | 'v' => return .literal '\x0b' false
  | 'A' => return .look .textStart
  | 'z' => return .look .textEnd
  | 'b' => return .look (← boundary ascii)
  | 'B' => return .look (.noBoundary ascii)
  | '<' => return .look (.wordStart ascii)
  | '>' => return .look (.wordEnd ascii)
  | _ => failure

/-- The expression that a character stands for under the flags. Without classes beyond ASCII, other
characters have no case, and none of them can be written as a byte. -/
def literal (c : Char) (asByte : Bool) : Reader Tree := do
  let f ← flags
  if !f.unicode && decide (127 < c.toNat) then
    if asByte then failure
    return .ofChar c
  return .ofSet (foldCase f (.single c))

end Dossier.Regex.Reader
