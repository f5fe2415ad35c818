import ShaderBundle.Json.Value

/-!
# Writing documents

The text of a document on one line, with no space in it. Floating-point numbers are written in their
shortest form.
-/

namespace ShaderBundle.Json

mutual

def render : Json → String
  | .null => "null"
  | .bool b => if b then "true" else "false"
  | .integer n => toString n
  | .real x => floatText x
  | .text s => Text.quote s
  | .list items => "[" ++ ",".intercalate (renderItems items) ++ "]"
  | .object fields => "\x7b" ++ ",".intercalate (renderFields fields) ++ "\x7d"

def renderItems : List Json → List String
  | [] => []
  | v :: rest => render v :: renderItems rest

def renderFields : List (String × Json) → List String
  | [] => []
  | (k, v) :: rest => (Text.quote k ++ ":" ++ render v) :: renderFields rest

end

end ShaderBundle.Json
