import Dossier.Fault
import Dossier.Regex.Reader
import Dossier.Regex.Search
import Dossier.Text.Inspect

/-! Patterns: regular expressions together with the text they were read from. -/

namespace Dossier

/-- A regular expression and its source, which determines it. An expression that was built with
flags that its source does not show, such as one that ignores case throughout, is not what the source
reads as; `read` leaves it out. -/
structure Pattern where
  source : String
  tree : Regex.Tree
  read : Regex.Tree.ofString? source = some tree

namespace Pattern

/-- Two patterns are the same when their sources are. -/
theorem ext_source {p q : Pattern} (h : p.source = q.source) : p = q := by
  obtain ⟨s, t, hp⟩ := p
  obtain ⟨s', t', hq⟩ := q
  obtain rfl : s = s' := h
  obtain rfl : t = t' := Option.some.inj (hp.symm.trans hq)
  rfl

instance : DecidableEq Pattern := fun p q =>
  if h : p.source = q.source then isTrue (ext_source h) else isFalse fun e => h (e ▸ rfl)

/-- Reads a pattern, unless the text is no regular expression. -/
def ofString? (source : String) : Option Pattern :=
  match h : Regex.Tree.ofString? source with
  | some tree => some ⟨source, tree, h⟩
  | none => none

/-- Reads a pattern. -/
def ofString (source : String) : Except Fault Pattern :=
  match ofString? source with
  | some p => .ok p
  | none => .error (.badPattern source)

/-- The first match in a text. -/
def find? (p : Pattern) (text : String) : Option String :=
  (p.tree.program.find? none text.toList).map String.ofList

/-- Whether the pattern matches somewhere in a text. -/
def isMatch (p : Pattern) (text : String) : Bool := (p.find? text).isSome

/-- The source between slashes. -/
def text (p : Pattern) : String := "/" ++ p.source ++ "/"

def inspect (p : Pattern) : String := Inspect.application "Pattern" p.text

end Pattern

end Dossier
