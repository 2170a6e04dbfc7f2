import Dossier.Regex.Escape

/-! Bracketed classes. -/

namespace Dossier.Regex.Reader

/-- One character or class inside brackets. -/
def classItem : Reader (Char ⊕ CharSet) := do
  let c ← next
  if c = '\\' then
    match ← escape with
    | .literal c _ => return .inl c
    | .set s => return .inr (← checkSet s)
    | .look _ => failure
  else return .inl c

/-- A character, class or range inside brackets. A hyphen before the closing bracket or before
another hyphen makes no range. -/
def classRange : Reader CharSet := do
  let first ← classItem
  skipSpace
  let after ← peekSecond
  match ← peek with
  | none => failure
  | some c =>
    if c != '-' || after == some ']' || after == some '-' then
      match first with
      | .inl c => checkSet (.single c)
      | .inr s => return s
    else
      skip
      skipSpace
      match first, ← classItem with
      | .inl a, .inl b => if a ≤ b then checkSet (.range a b) else failure
      | _, _ => failure

/-- A named ASCII class, such as `[:alpha:]`; nothing is taken when the text is no such class. -/
def asciiClass? : Reader (Option CharSet) := do
  let s ← get
  match s.rest with
  | '[' :: ':' :: rest =>
    let (negated, rest) := match rest with
      | '^' :: rest => (true, rest)
      | _ => (false, rest)
    let name := rest.takeWhile (· != ':')
    match CharClass.ascii? (.ofList name), rest.drop name.length with
    | some found, ':' :: ']' :: rest =>
      set { s with rest }
      return some (← checkSet (foldAndDeny s.flags negated found))
    | _, _ => return none
  | _ => return none

/-- The items of a class as one set. -/
def unite (items : List (Nested CharSet)) : Nested CharSet :=
  ⟨.ofRanges (items.flatMap (·.value.ranges)), rowDepth (items.map Nested.depth)⟩

/-- Two operands of an operator on sets. -/
def combine (f : Flags) (op : CharSet → CharSet → CharSet) (a b : Nested CharSet) :
    Nested CharSet :=
  ⟨op (foldCase f a.value) (foldCase f b.value), max a.depth b.depth + 1⟩

mutual

/-- A bracketed class, after its opening bracket. A closing bracket or hyphens at the very start
stand for themselves. -/
def bracketed : Nat → Reader (Nested CharSet)
  | 0 => failure
  | fuel + 1 => do
    skipSpace
    let negated ← acceptChar '^'
    let hyphens ← takeWhile (· == '-')
    let bracket ← if hyphens.isEmpty then acceptChar ']' else pure false
    let first := if bracket then [']'] else hyphens
    let content ← classBody fuel id (first.map fun c => ⟨.single c, 0⟩)
    let s ← checkSet (foldAndDeny (← flags) negated content.value)
    return ⟨s, content.depth + 1⟩

/-- The content of a bracketed class up to its closing bracket. `left` combines what comes before
the last operator with what is found after it; `items` is what is found so far. -/
def classBody : Nat → (Nested CharSet → Nested CharSet) → List (Nested CharSet) →
    Reader (Nested CharSet)
  | 0, _, _ => failure
  | fuel + 1, left, items => do
    skipSpace
    let f ← flags
    let operator (op : CharSet → CharSet → CharSet) : Reader (Nested CharSet) :=
      classBody fuel (combine f op (left (unite items))) []
    if ← acceptChar ']' then return left (unite items)
    if ← accept "&&" then return ← operator .inter
    if ← accept "--" then return ← operator .difference
    if ← accept "~~" then return ← operator .symmetricDifference
    if let some s ← asciiClass? then return ← classBody fuel left (⟨s, 0⟩ :: items)
    if ← acceptChar '[' then return ← classBody fuel left ((← bracketed fuel) :: items)
    classBody fuel left (⟨← classRange, 0⟩ :: items)

end

end Dossier.Regex.Reader
