/-!
# Data types

The portable kinds of a reflected value, and the type names that stand for them.
-/

namespace ShaderBundle

inductive DataType
  | float | int
  deriving Repr, DecidableEq

namespace DataType

/-- The constant of the graphics backend. -/
def constant : DataType → String
  | .float => "DataTypeFloat"
  | .int => "DataTypeInt"

/-- A kind and the number of its components for each type name that has a portable equivalent. -/
def names : List (String × DataType × Nat) :=
  [("float", .float, 1), ("float2", .float, 2), ("float3", .float, 3), ("float4", .float, 4),
   ("int", .int, 1), ("int2", .int, 2), ("int3", .int, 3), ("int4", .int, 4)]

def ofName? (name : String) : Option (DataType × Nat) := names.lookup name

end DataType

end ShaderBundle
