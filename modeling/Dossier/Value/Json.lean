import Dossier.Json.Reader
import Dossier.Value.Basic

/-! Values as JSON and back, and the JSON text of a value written without a tree in between. Both
texts have the parts of `Json.render`, which stand for one writer; a value decides which part is
written where, in which order, and that a pattern is a string. -/

namespace Dossier

mutual

/-- The JSON tree of a value: a pattern becomes its source, and a double that is not finite null. -/
def Value.toJson : Value → Json
  | .null => .null
  | .bool b => .bool b
  | .number (.signed n) => .integer n.toInt
  | .number (.unsigned n) => .integer n.toNat
  | .number (.double x) => if x.isFinite then .double x else .null
  | .string s => .string s
  | .array xs => .array (Value.toJsonItems xs)
  | .document d => d.toJson
  | .pattern p => .string p.source

def Value.toJsonItems : List Value → List Json
  | [] => []
  | x :: xs => x.toJson :: Value.toJsonItems xs

def Document.toJson : Document → Json
  | ⟨es⟩ => .object (Document.toJsonEntries es)

def Document.toJsonEntries : List (String × Value) → List (String × Json)
  | [] => []
  | (key, v) :: rest => (key, v.toJson) :: Document.toJsonEntries rest

end

mutual

/-- The value of a JSON tree; an integer becomes a signed one where it fits. -/
def Value.ofJson : Json → Value
  | .null => .null
  | .bool b => .bool b
  | .integer n => .number (.ofInt n)
  | .double x => .number (.double x)
  | .string s => .string s
  | .array xs => .array (Value.ofJsonItems xs)
  | .object es => .document ⟨Value.ofJsonEntries es⟩

def Value.ofJsonItems : List Json → List Value
  | [] => []
  | x :: xs => Value.ofJson x :: Value.ofJsonItems xs

def Value.ofJsonEntries : List (String × Json) → List (String × Value)
  | [] => []
  | (key, x) :: rest => (key, Value.ofJson x) :: Value.ofJsonEntries rest

end

/-- The JSON text of the tree of a value. -/
def Value.jsonText (v : Value) : String := v.toJson.render

def Document.jsonText (d : Document) : String := d.toJson.render

mutual

/-- The JSON text of a value, written as the value is walked. -/
def Value.serialize : Value → String
  | .null => "null"
  | .bool b => Json.boolText b
  | .number (.signed n) => toString n.toInt
  | .number (.unsigned n) => toString n.toNat
  | .number (.double x) => if x.isFinite then x.jsonText else "null"
  | .string s => Json.quoted s
  | .array xs => Json.bracketed (Value.serializeItems xs)
  | .document d => d.serialize
  | .pattern p => Json.quoted p.source

def Value.serializeItems : List Value → List String
  | [] => []
  | x :: xs => x.serialize :: Value.serializeItems xs

def Document.serialize : Document → String
  | ⟨es⟩ => Json.braced (Document.serializeEntries es)

def Document.serializeEntries : List (String × Value) → List String
  | [] => []
  | (key, v) :: rest => (Json.quoted key ++ ":" ++ v.serialize) :: Document.serializeEntries rest

end

/-- The document of a JSON tree, which must be an object. -/
def Document.ofJson (tree : Json) : Except Fault Document :=
  match Value.ofJson tree with
  | .document d => .ok d
  | _ => .error .notAnObject

/-- The document in a JSON text. -/
def Document.ofJsonText (text : String) : Except Fault Document :=
  match Json.ofString? text with
  | some tree => Document.ofJson tree
  | none => .error .unreadableJson

end Dossier
