import Dossier.Number.Basic
import Dossier.Entries

/-! JSON as trees, and the compact text of a tree. The texts of the parts stand for the writer of a
JSON library and take over what is documented of it: nothing between the parts but commas and colons,
no more escaped in a string than has to be, integers in full, finite doubles with the shortest digits
that read back and others as null, entries in the order in which they come, and the same text for a
part of a tree as for one that is written without a tree. -/

namespace Dossier

/-- A JSON tree. Integers lie in the range of signed or unsigned ones of sixty-four bits, and
doubles are finite. -/
inductive Json where
  | null
  | bool (b : Bool)
  | integer (n : Int)
  | double (x : Double)
  | string (s : String)
  | array (items : List Json)
  | object (entries : List (String × Json))

instance : Inhabited Json := ⟨.null⟩

namespace Json

/-- A character inside quotes: quotes and backslashes escaped, and so the controls below the blank.
-/
def escapeChar (c : Char) : List Char :=
  match c with
  | '"' => ['\\', '"']
  | '\\' => ['\\', '\\']
  | '\x08' => ['\\', 'b']
  | '\x0c' => ['\\', 'f']
  | '\n' => ['\\', 'n']
  | '\r' => ['\\', 'r']
  | '\t' => ['\\', 't']
  | c =>
    if c.toNat < 0x20 then
      '\\' :: 'u' :: '0' :: '0' :: Nat.digitChar (c.toNat / 16) :: [Nat.digitChar (c.toNat % 16)]
    else [c]

def quoted (s : String) : String :=
  String.ofList ('"' :: (s.toList.flatMap escapeChar ++ ['"']))

def boolText (b : Bool) : String := if b then "true" else "false"

/-- Texts in brackets, a comma between them. -/
def bracketed (items : List String) : String := "[" ++ ",".intercalate items ++ "]"

/-- Texts in braces, a comma between them. -/
def braced (items : List String) : String := "\x7b" ++ ",".intercalate items ++ "\x7d"

mutual

/-- The compact text of a tree. -/
def render : Json → String
  | null => "null"
  | bool b => boolText b
  | integer n => toString n
  | double x => x.jsonText
  | string s => quoted s
  | array items => bracketed (renderItems items)
  | object entries => braced (renderEntries entries)

def renderItems : List Json → List String
  | [] => []
  | x :: xs => x.render :: renderItems xs

def renderEntries : List (String × Json) → List String
  | [] => []
  | (key, x) :: rest => (quoted key ++ ":" ++ x.render) :: renderEntries rest

end

end Json

end Dossier
