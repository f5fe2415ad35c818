import ShaderBundle.Text.Encoding
import ShaderBundle.Text.Quoted

/-!
# Literals of the generated module

Strings, byte lists and comments in Go. A comment's text cannot end it.
-/

namespace ShaderBundle.Go

/-- An interpreted string literal. Mirrors `go_string`. -/
def stringLiteral (s : String) : String := Text.quote s

/-! ## Bytes -/

def bytesPerLine : Nat := 16

/-- Cuts bytes into lines of sixteen, the last line holding what remains. -/
def byteLines (data : Bytes) : List Bytes :=
  if data = [] then [] else data.take bytesPerLine :: byteLines (data.drop bytesPerLine)
termination_by data.length
decreasing_by
  have : 0 < data.length := List.length_pos_iff.mpr ‹_›
  simp only [List.length_drop, bytesPerLine]
  omega

theorem flatten_byteLines (data : Bytes) : (byteLines data).flatten = data := by
  fun_induction byteLines data with
  | case1 => rfl
  | case2 data _ ih => rw [List.flatten_cons, ih, List.take_append_drop]

def byteElement (b : UInt8) : String := "0x" ++ Text.hexByte b

/-- One line of a byte list: its elements, each followed by a comma. -/
def byteLine (indent : String) (line : Bytes) : String :=
  indent ++ "\t" ++ ", ".intercalate (line.map byteElement) ++ ","

/-- A byte slice; the empty one is `nil`. Mirrors `go_bytes`. -/
def bytesLiteral (data : Bytes) (indent : String) : String :=
  if data = [] then "nil"
  else
    "[]byte\x7b\n" ++ "\n".intercalate ((byteLines data).map (byteLine indent)) ++ "\n" ++ indent ++
      "\x7d"

/-! ## Comments -/

/-- Puts a space into every pair of characters that would end a comment. -/
def guardComment : List Char → List Char
  | [] => []
  | '*' :: '/' :: rest => '*' :: ' ' :: '/' :: guardComment rest
  | c :: rest => c :: guardComment rest

/-- A general comment whose text stands on lines of its own. -/
def comment (indent text : String) : String :=
  indent ++ "/*\n" ++ String.ofList (guardComment text.toList) ++ "\n" ++ indent ++ "*/"

/-! ## Slices -/

/-- A slice of the backend's values, one element on each line. -/
def sliceLiteral (typeName : String) (elements : List String) (indent : String) : String :=
  let lines := elements.map fun e => indent ++ "\t" ++ e ++ ",\n"
  "[]backend." ++ typeName ++ "\x7b\n" ++ String.join lines ++ indent ++ "\x7d"

end ShaderBundle.Go
