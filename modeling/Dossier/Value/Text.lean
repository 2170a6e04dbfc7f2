import Dossier.Value.Json

/-! Plain text of values, which groups and patterns look at, and text that shows what a value is
made of. -/

namespace Dossier

mutual

/-- Plain text: strings without quotes, items of arrays with commas between them, documents as JSON,
and patterns between slashes. -/
def Value.plainText : Value → String
  | .null => "null"
  | .bool b => Json.boolText b
  | .number n => n.plainText
  | .string s => s
  | .array xs => ",".intercalate (Value.plainTexts xs)
  | .document d => d.jsonText
  | .pattern p => p.text

def Value.plainTexts : List Value → List String
  | [] => []
  | x :: xs => x.plainText :: Value.plainTexts xs

end

mutual

/-- Text that tells kinds apart; strings and keys stand in quotes as they are. -/
def Value.inspect : Value → String
  | .null => "null"
  | .bool b => Inspect.application "bool" (Json.boolText b)
  | .number n => n.inspect
  | .string s => Inspect.application "string" ("\"" ++ s ++ "\"")
  | .array xs => Inspect.application "array" (Inspect.listing (Value.inspectItems xs))
  | .document d => Inspect.application "object" d.inspect
  | .pattern p => Inspect.application "pattern" p.text

def Value.inspectItems : List Value → List String
  | [] => []
  | x :: xs => x.inspect :: Value.inspectItems xs

def Document.inspect : Document → String
  | ⟨es⟩ => Inspect.braced (Document.inspectEntries es)

def Document.inspectEntries : List (String × Value) → List String
  | [] => []
  | (key, v) :: rest => ("\"" ++ key ++ "\": " ++ v.inspect) :: Document.inspectEntries rest

end

end Dossier
