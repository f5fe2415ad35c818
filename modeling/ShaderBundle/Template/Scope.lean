import ShaderBundle.Template.Access

/-!
# Names and their values

A name is looked up in the loops around it, from the inside, then among what the whole template knows, itself
among it, then among the functions that every template knows. An assignment inside a loop ends with the turn of the loop.
-/

namespace ShaderBundle.Template

abbrev Bindings := List (String × Value)

structure Scope where
  /-- What the turns of the loops around bind, the innermost first. -/
  turns : List Bindings := []
  /-- What the template as a whole binds. -/
  context : Bindings := []
  /-- The template that takes over at the end, with its name, once there is one. -/
  extended : Option (String × List Node) := none

/-- The functions that every template knows. -/
def builtins : List String := ["range", "dict", "lipsum", "cycler", "joiner", "namespace"]

namespace Scope

/-- What is bound at the start of a template of that name: what it is given, and itself. -/
def ofTemplate (name : String) (given : Bindings) : Scope :=
  { context := ("self", .template name) :: given }

def lookup? (s : Scope) (word : String) : Option Value :=
  match s.turns.findSome? (·.lookup word) with
  | some v => some v
  | none =>
    match s.context.lookup word with
    | some v => some v
    | none => if builtins.contains word then some (.builtin word) else none

/-- The value of a name; an unknown name has the undefined one. -/
def lookup (s : Scope) (word : String) : Value :=
  (s.lookup? word).getD (.undefined s!"{Text.display word} is undefined")

def bind (s : Scope) (word : String) (v : Value) : Scope :=
  match s.turns with
  | [] => { s with context := (word, v) :: s.context }
  | turn :: outer => { s with turns := ((word, v) :: turn) :: outer }

/-- All that is bound, as a context for another template. -/
def flatten (s : Scope) : Bindings := s.turns.flatten ++ s.context

end Scope

/-! ## Evaluation -/

def Constant.value : Constant → Value
  | .none => .none
  | .bool b => .bool b
  | .integer n => .integer n
  | .real x => .real x
  | .text s => .text s

/-- The message for a condition that is false and says nothing for that case. -/
def noOtherwise (template : String) (line : Nat) : String :=
  s!"the inline if-expression on line {line} in {Text.display template} evaluated to false and no " ++
    "else section was defined."

/-- The arguments that a list or a dictionary of more adds. -/
def moreArgs (v : Value) : Eval (List Value) :=
  match v with
  | .undefined message => .error (.undefined message)
  | .text _ | .list _ | .tuple _ | .dict _ | .range .. => v.iterate
  | v => wrongType s!"Value after * must be an iterable, not {v.typeName}"

def moreNamedArgs (v : Value) : Eval Bindings :=
  match v with
  | .dict pairs => .ok (pairs.filterMap fun (k, v) => match k with
    | .text word => some (word, v)
    | _ => none)
  | v => wrongType s!"Value after ** must be a mapping, not {v.typeName}"

/-- Puts an entry into a dictionary, in the place of an equal key. -/
def putPair (key value : Value) : List (Value × Value) → Eval (List (Value × Value))
  | [] => .ok [(key, value)]
  | (k, v) :: rest => do
    if ← Value.equals k key then return (k, value) :: rest
    else return (k, v) :: (← putPair key value rest)

/-- A dictionary of entries, which are put into it in their order. -/
def dictOf (entries : List (Value × Value)) : Eval Value := do
  let pairs ← entries.foldlM (fun pairs (key, value) => do
    key.needKey
    putPair key value pairs) []
  return .dict pairs

mutual

/-- The value of an expression in the template of that name. -/
def evaluate (template : String) (s : Scope) : Expr → Eval Value
  | .constant c => .ok c.value
  | .name word _ => .ok (s.lookup word)
  | .list items => do return .list (← evaluateAll template s items)
  | .tuple items _ => do return .tuple (← evaluateAll template s items)
  | .dict entries => do dictOf (← evaluatePairs template s entries)
  | .member of word => do (← evaluate template s of).member word
  | .item of (.slice start stop step) => do
    let v ← evaluate template s of
    let start ← evaluateOptional template s start
    let stop ← evaluateOptional template s stop
    let step ← evaluateOptional template s step
    v.slice start stop step
  | .item of index => do
    let v ← evaluate template s of
    v.subscript (← evaluate template s index)
  | .slice .. => wrongType "unhashable type: 'slice'"
  | .call of args => do
    let f ← evaluate template s of
    f.call (← evaluateArgs template s args)
  | .filter of word args _ => do
    let v ← evaluateOptional template s of
    let args ← evaluateArgs template s args
    if Value.filterNames.contains word then (v.getD .none).applyFilter word args
    else .error (.crash (.templateRuntime s!"No filter named {Text.display word} found."))
  | .test of word args _ => do
    let v ← evaluate template s of
    let args ← evaluateArgs template s args
    if Value.testNames.contains word then return .bool (← v.applyTest word args)
    else .error (.crash (.templateRuntime s!"No test named {Text.display word} found."))
  | .negative e => do (← evaluate template s e).negative
  | .positive e => do (← evaluate template s e).positive
  | .arithmetic op a b => do
    let x ← evaluate template s a
    let y ← evaluate template s b
    x.arithmetic op y
  | .concat parts => do
    let values ← evaluateAll template s parts
    return .text (String.join (← values.mapM Value.plain))
  | .compare first rest => do
    let v ← evaluate template s first
    evaluateComparisons template s v rest
  | .both a b => do
    let v ← evaluate template s a
    if ← v.truth then evaluate template s b else return v
  | .either a b => do
    let v ← evaluate template s a
    if ← v.truth then return v else evaluate template s b
  | .negation e => do return .bool !(← (← evaluate template s e).truth)
  | .conditional condition then_ else_ line => do
    if ← (← evaluate template s condition).truth then evaluate template s then_
    else
      match ← evaluateOptional template s else_ with
      | some v => return v
      | none => return .undefined (noOtherwise template line)
  | .cell word _ => .ok (s.lookup word)

def evaluateOptional (template : String) (s : Scope) : Option Expr → Eval (Option Value)
  | none => .ok none
  | some e => do return some (← evaluate template s e)

def evaluateAll (template : String) (s : Scope) : List Expr → Eval (List Value)
  | [] => .ok []
  | e :: rest => do return (← evaluate template s e) :: (← evaluateAll template s rest)

def evaluatePairs (template : String) (s : Scope) : List (Expr × Expr) → Eval (List (Value × Value))
  | [] => .ok []
  | (k, v) :: rest => do
    let key ← evaluate template s k
    let value ← evaluate template s v
    return (key, value) :: (← evaluatePairs template s rest)

def evaluateArgs (template : String) (s : Scope) : List (ArgKind × Expr) → Eval Value.Args
  | [] => .ok {}
  | (kind, e) :: rest => do
    let v ← evaluate template s e
    let args ← evaluateArgs template s rest
    match kind with
    | .placed => return { args with placed := v :: args.placed }
    | .named word => return { args with named := (word, v) :: args.named }
    | .more => return { args with placed := (← moreArgs v) ++ args.placed }
    | .moreNamed => return { args with named := (← moreNamedArgs v) ++ args.named }

/-- Whether each value stands in the given relation to the next; the first that does not decides. -/
def evaluateComparisons (template : String) (s : Scope) (v : Value) :
    List (Comparison × Expr) → Eval Value
  | [] => .ok (.bool true)
  | (op, e) :: rest => do
    let w ← evaluate template s e
    if ← Value.compare op v w then evaluateComparisons template s w rest
    else return .bool false

end

end ShaderBundle.Template
