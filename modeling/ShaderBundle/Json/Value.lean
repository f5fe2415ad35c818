import ShaderBundle.Number.Layout
import ShaderBundle.Text.Display

/-!
# Documents

The values of a reflection document: the usual six kinds, with whole numbers kept apart from
floating-point ones. An object keeps its keys in the order in which they first appear.
-/

namespace ShaderBundle

inductive Json
  | null
  | bool (b : Bool)
  | integer (n : Int)
  | real (x : Float)
  | text (s : String)
  | list (items : List Json)
  | object (fields : List (String × Json))

namespace Json

/-- Sets a key: a key that is there keeps its place and gets the new value. -/
def putField (key : String) (value : Json) : List (String × Json) → List (String × Json)
  | [] => [(key, value)]
  | (k, v) :: rest => if k = key then (key, value) :: rest else (k, v) :: putField key value rest

/-- The value of a key of an object, and nothing for any other value. -/
def field? (key : String) : Json → Option Json
  | .object fields => fields.lookup key
  | _ => none

/-! ## Display -/

mutual

/-- The text of a value in a message: texts are quoted, containers bracketed. -/
def display : Json → String
  | .null => "None"
  | .bool b => if b then "True" else "False"
  | .integer n => toString n
  | .real x => floatText x
  | .text s => Text.display s
  | .list items => "[" ++ ", ".intercalate (displayItems items) ++ "]"
  | .object fields => "\x7b" ++ ", ".intercalate (displayFields fields) ++ "\x7d"

def displayItems : List Json → List String
  | [] => []
  | v :: rest => display v :: displayItems rest

def displayFields : List (String × Json) → List String
  | [] => []
  | (k, v) :: rest => (Text.display k ++ ": " ++ display v) :: displayFields rest

end

/-- The text of a value on its own: a text stands without quotes. -/
def plain : Json → String
  | .text s => s
  | v => display v

end Json

end ShaderBundle
