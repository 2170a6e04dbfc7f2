import Dossier.Text.Shown

/-! Texts that show the parts of an object: quoted strings, listings, and records with named fields.
-/

namespace Dossier.Inspect

/-- The hexadecimal digits of a code point. -/
def hex (n : Nat) : List Char := Nat.toDigits 16 n

/-- A character inside quotes: controls, quotes and backslashes by their short escapes, and whatever
has no shape of its own by its code point. -/
def escapeChar (c : Char) : List Char :=
  match c with
  | '\x00' => ['\\', '0']
  | '\t' => ['\\', 't']
  | '\r' => ['\\', 'r']
  | '\n' => ['\\', 'n']
  | '"' => ['\\', '"']
  | '\\' => ['\\', '\\']
  | c =>
    if CharClass.shown.contains c then [c]
    else '\\' :: 'u' :: '{' :: (hex c.toNat ++ ['}'])

/-- A text in quotes. -/
def quoted (s : String) : String :=
  String.ofList ('"' :: (s.toList.flatMap escapeChar ++ ['"']))

/-- Texts in brackets. -/
def listing (items : List String) : String := "[" ++ ", ".intercalate items ++ "]"

/-- Texts in braces. -/
def braced (items : List String) : String := "\x7b" ++ ", ".intercalate items ++ "\x7d"

/-- A name and the fields that follow it in braces. -/
def record (name : String) (fields : List (String × String)) : String :=
  name ++ " \x7b " ++ ", ".intercalate (fields.map fun (field, text) => field ++ ": " ++ text) ++
    " \x7d"

/-- A name and what it is applied to. -/
def application (name : String) (argument : String) : String := name ++ "(" ++ argument ++ ")"

/-- Two texts in parentheses. -/
def pair (first second : String) : String := "(" ++ first ++ ", " ++ second ++ ")"

/-- A value that may be missing. -/
def optional : Option String → String
  | some text => application "Some" text
  | none => "None"

end Dossier.Inspect
