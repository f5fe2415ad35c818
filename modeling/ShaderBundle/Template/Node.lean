/-!
# Parsed templates

Expressions, and the nodes that a template is a list of.
-/

namespace ShaderBundle.Template

inductive Constant
  | none
  | bool (b : Bool)
  | integer (n : Int)
  | real (x : Float)
  | text (s : String)

inductive Arithmetic
  | add | sub | mul | div | floorDiv | mod | pow
  deriving Repr, DecidableEq

inductive Comparison
  | eq | ne | lt | le | gt | ge | isIn | notIn
  deriving Repr, DecidableEq

/-- How an argument is given: in its place, by name, as a list of more or as a dictionary of more. -/
inductive ArgKind
  | placed
  | named (word : String)
  | more
  | moreNamed
  deriving Repr, DecidableEq

inductive Expr
  | constant (c : Constant)
  | name (word : String) (line : Nat)
  | list (items : List Expr)
  | tuple (items : List Expr) (line : Nat)
  | dict (pairs : List (Expr × Expr))
  | member (of : Expr) (word : String)
  | item (of index : Expr)
  /-- A range of places; a bound may be missing. -/
  | slice (start stop step : Option Expr)
  | call (of : Expr) (args : List (ArgKind × Expr))
  | filter (of : Option Expr) (word : String) (args : List (ArgKind × Expr)) (line : Nat)
  | test (of : Expr) (word : String) (args : List (ArgKind × Expr)) (line : Nat)
  | negative (e : Expr)
  | positive (e : Expr)
  | arithmetic (op : Arithmetic) (a b : Expr)
  | concat (parts : List Expr)
  | compare (first : Expr) (rest : List (Comparison × Expr))
  | both (a b : Expr)
  | either (a b : Expr)
  | negation (e : Expr)
  | conditional (test then_ : Expr) (else_ : Option Expr) (line : Nat)
  /-- A member as the target of an assignment. -/
  | cell (word key : String)

/-- What an assignment or a loop stores into. -/
inductive Target
  | name (word : String) (line : Nat)
  | tuple (parts : List Target)
  | cell (word key : String)

inductive Node
  | data (text : List Char)
  | print (e : Expr)
  | branch (cases : List (Expr × List Node)) (otherwise : List Node)
  | loop (target : Target) (sequence : Expr) (only : Option Expr) (body otherwise : List Node)
      (line : Nat)
  | assign (target : Target) (value : Expr)
  /-- Assigns the text of its body, passed through a filter if there is one. -/
  | assignBody (target : Target) (filter : Option Expr) (body : List Node)
  | include_ (template : Expr) (ignoreMissing withContext : Bool)
  | extends_ (template : Expr) (line : Nat)

end ShaderBundle.Template
