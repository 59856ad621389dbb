import SensorCore.Lib.Checks

/-!
YAML trees and how a program reads them.

A `Node` is what a YAML parser returns: nothing is converted yet, a scalar is its
text. Reading follows yaml-cpp on a constant node: `get` is `node[key]`, which finds
the first entry of a map with that key, is undefined on a sequence and on null, and
throws on a scalar; `asString` and `asNumber` are the conversions, which throw on a
node of the wrong kind. How the text of a number is read is a parameter.

`get_object` says what `get` finds in a map that is written field by field.
-/

namespace SensorCore.Lib.Yaml

inductive Node where
  | null
  | scalar (text : String)
  | sequence (items : List Node)
  | map (entries : List (Node × Node))

/-- The exceptions of the reader, without the position they report. -/
inductive YamlException where
  | badSubscript (key : String)
  | badConversion
  | parser (what : String)
  deriving DecidableEq, Repr

def YamlException.what : YamlException → String
  | .badSubscript key => "operator[] call on a scalar (key: \"" ++ key ++ "\")"
  | .badConversion => "bad conversion"
  | .parser what => what

namespace Node

/-- Only a scalar equals a key that is a string. -/
def isKey (key : String) : Node → Bool
  | .scalar text => text = key
  | _ => false

/-- The value of the first entry under a key. -/
def lookup (key : String) : List (Node × Node) → Option Node
  | [] => none
  | (k, value) :: rest => if k.isKey key then some value else lookup key rest

/-- `node[key]`; `none` is the undefined node. -/
def get (node : Node) (key : String) : Except YamlException (Option Node) :=
  match node with
  | .scalar _ => .error (.badSubscript key)
  | .map entries => .ok (lookup key entries)
  | .sequence _ | .null => .ok none

/-- `node.as<std::string>()`. -/
def asString : Node → Except YamlException String
  | .scalar text => .ok text
  | .null => .ok "null"
  | .sequence _ | .map _ => .error .badConversion

/-- `node.as<T>()` for a number, whose text `decode` reads. -/
def asNumber {α : Type} (decode : String → Option α) : Node → Except YamlException α
  | .scalar text =>
      match decode text with
      | some value => .ok value
      | none => .error .badConversion
  | _ => .error .badConversion

@[simp] theorem asString_scalar (text : String) : (scalar text).asString = .ok text := rfl

theorem asNumber_scalar {α : Type} {decode : String → Option α} {text : String} {value : α}
    (reads : decode text = some value) : (scalar text).asNumber decode = .ok value := by
  rw [asNumber, reads]

end Node

/-! ### Writing -/

/-- A map with scalar keys. -/
def object (fields : List (String × Node)) : Node :=
  .map (fields.map fun field => (.scalar field.1, field.2))

theorem lookup_scalar_keys (key : String) (fields : List (String × Node)) :
    Node.lookup key (fields.map fun field => (.scalar field.1, field.2)) =
      (fields.find? fun field => field.1 = key).map Prod.snd := by
  induction fields with
  | nil => rfl
  | cons field rest ih =>
      rw [List.map_cons, Node.lookup, List.find?_cons]
      by_cases same : field.1 = key
      · simp [Node.isKey, same]
      · simp [Node.isKey, same, ih]

/-- Reading a field of an object. -/
@[simp] theorem get_object (fields : List (String × Node)) (key : String) :
    (object fields).get key = .ok ((fields.find? fun field => field.1 = key).map Prod.snd) := by
  rw [object, Node.get, lookup_scalar_keys]

end SensorCore.Lib.Yaml
