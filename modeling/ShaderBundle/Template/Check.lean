import ShaderBundle.Template.Access

/-!
# Checks before rendering

Filters and tests have to be known, and the name of the loop is not to be stored into, before anything is
rendered. Under a condition an unknown filter or test is let pass: it fails when it is reached.
-/

namespace ShaderBundle.Template

namespace Check

/-- Where a node stands. -/
structure Place where
  /-- Under a condition, with no loop in between. -/
  conditional : Bool := false
  /-- In no loop. -/
  outermost : Bool := true

abbrev Checked := Except Malformed Unit

def known (what : String) (names : List String) (p : Place) (word : String) (line : Nat) : Checked :=
  if p.conditional || names.contains word then .ok ()
  else .error ⟨line, s!"No {what} named {Text.display word}."⟩

mutual

def expr (p : Place) : Expr → Checked
  | .constant _ | .name .. | .cell .. => .ok ()
  | .list items => exprs p items
  | .tuple items _ => exprs p items
  | .dict entries => pairs p entries
  | .member of _ => expr p of
  | .item of index => do
    expr p of
    expr p index
  | .slice start stop step => do
    optional p start
    optional p stop
    optional p step
  | .call of args => do
    expr p of
    arguments p args
  | .filter of word args line => do
    known "filter" Value.filterNames p word line
    optional p of
    arguments p args
  | .test of word args line => do
    known "test" Value.testNames p word line
    expr p of
    arguments p args
  | .negative e | .positive e | .negation e => expr p e
  | .arithmetic _ a b | .both a b | .either a b => do
    expr p a
    expr p b
  | .concat parts => exprs p parts
  | .compare first rest => do
    expr p first
    comparisons p rest
  | .conditional condition then_ else_ _ => do
    let inner := { p with conditional := true }
    expr inner condition
    expr inner then_
    optional inner else_

def exprs (p : Place) : List Expr → Checked
  | [] => .ok ()
  | e :: rest => do
    expr p e
    exprs p rest

def optional (p : Place) : Option Expr → Checked
  | none => .ok ()
  | some e => expr p e

def pairs (p : Place) : List (Expr × Expr) → Checked
  | [] => .ok ()
  | (k, v) :: rest => do
    expr p k
    expr p v
    pairs p rest

def arguments (p : Place) : List (ArgKind × Expr) → Checked
  | [] => .ok ()
  | (_, e) :: rest => do
    expr p e
    arguments p rest

def comparisons (p : Place) : List (Comparison × Expr) → Checked
  | [] => .ok ()
  | (_, e) :: rest => do
    expr p e
    comparisons p rest

end

/-! ## Stores into the loop's name -/

mutual

/-- The line of the first place in a target that is named `loop`. -/
def loopStore? : Target → Option Nat
  | .name word line => if word = "loop" then some line else none
  | .tuple parts => loopStores? parts
  | .cell .. => none

def loopStores? : List Target → Option Nat
  | [] => none
  | t :: rest => (loopStore? t).or (loopStores? rest)

end

mutual

def nodeStore? : Node → Option Nat
  | .branch cases otherwise => (caseStores? cases).or (nodeStores? otherwise)
  | .loop target _ _ body otherwise _ =>
    (loopStore? target).or ((nodeStores? body).or (nodeStores? otherwise))
  | .assign target _ => loopStore? target
  | .assignBody target _ body => (loopStore? target).or (nodeStores? body)
  | _ => none

def nodeStores? : List Node → Option Nat
  | [] => none
  | n :: rest => (nodeStore? n).or (nodeStores? rest)

def caseStores? : List (Expr × List Node) → Option Nat
  | [] => none
  | (_, body) :: rest => (nodeStores? body).or (caseStores? rest)

end

/-! ## Nodes -/

mutual

def node (p : Place) : Node → Checked
  | .data _ => .ok ()
  | .print e => expr p e
  | .branch branches otherwise => do
    let inner := { p with conditional := true }
    cases inner branches
    nodes inner otherwise
  | .loop target sequence only body otherwise _ => do
    let inner : Place := ⟨false, false⟩
    optional inner only
    match (loopStore? target).or ((nodeStores? body).or (nodeStores? otherwise)) with
    | some line => .error ⟨line, "Can't assign to special loop variable in for-loop target"⟩
    | none =>
      expr p sequence
      nodes inner body
      nodes inner otherwise
  | .assign _ value => expr p value
  | .assignBody _ filter body => do
    nodes { p with conditional := false, outermost := false } body
    optional p filter
  | .include_ template _ _ => expr p template
  | .extends_ template line => do
    if p.outermost then expr p template
    else .error ⟨line, "cannot use extend from a non top-level scope"⟩

def nodes (p : Place) : List Node → Checked
  | [] => .ok ()
  | n :: rest => do
    node p n
    nodes p rest

def cases (p : Place) : List (Expr × List Node) → Checked
  | [] => .ok ()
  | (condition, body) :: rest => do
    expr p condition
    nodes p body
    cases p rest

end

end Check

/-- Checks a template that has been read. -/
def check (nodes : List Node) : Except Malformed Unit := Check.nodes {} nodes

end ShaderBundle.Template
