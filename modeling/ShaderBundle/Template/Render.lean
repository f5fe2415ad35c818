import ShaderBundle.Template.Check
import ShaderBundle.Template.Mention
import ShaderBundle.Template.Placeholder
import ShaderBundle.Template.Reader
import ShaderBundle.Template.Scope

/-!
# Rendering

A template is loaded, its dotted placeholders are rewritten, it is read, checked and rendered. Included
templates see all names of the place that includes them. Undefined values are errors, nothing is escaped, and
every newline is kept.
-/

namespace ShaderBundle.Template

/-- What a name of a template leads to. -/
inductive Loaded
  | missing
  | undecodable (detail : String)
  | text (cs : List Char)

/-- Templates by name. -/
abbrev Library := String → Loaded

/-- What rendering nodes gives: text and what is bound afterwards. -/
abbrev Rendered := Eval (List Char × Scope)

/-! ## Reading -/

def unknownPlaceholder (u : UnknownPlaceholder) : Malformed :=
  ⟨u.line, s!"unknown placeholder {String.ofList u.written}"⟩

/-- The nodes of a template's text, read and checked. -/
def compile (text : List Char) : Except Malformed (List Node) := do
  let text ← (rewritePlaceholders (Text.unifyNewlines text)).mapError unknownPlaceholder
  let nodes ← parseTokens (tokens text)
  check nodes
  return nodes

def loadNodes (library : Library) (name : String) : Eval (List Node) :=
  match library name with
  | .missing => .error .missing
  | .undecodable detail => .error (.undecodable detail)
  | .text cs => (compile cs).mapError .malformed

/-! ## Assigning -/

mutual

/-- Stores a value into a target; a tuple takes as many items as it has parts. -/
def store (s : Scope) : Target → Value → Eval Scope
  | .name word _, v => .ok (s.bind word v)
  | .cell .., _ =>
    .error (.crash (.templateRuntime "cannot assign attribute on non-namespace object"))
  | .tuple parts, v => do
    let items ← match v with
      | .integer _ | .real _ | .bool _ | .none | .builtin _ | .method .. =>
        wrongType s!"cannot unpack non-iterable {v.typeName} object"
      | v => v.iterate
    if items.length < parts.length then
      badValue s!"not enough values to unpack (expected {parts.length}, got {items.length})"
    else if parts.length < items.length then
      badValue s!"too many values to unpack (expected {parts.length})"
    else storeAll s parts items

def storeAll (s : Scope) : List Target → List Value → Eval Scope
  | t :: ts, v :: vs => do storeAll (← store s t v) ts vs
  | _, _ => .ok s

end

/-! ## Templates in templates -/

/-- Other templates: finding the first that is there, and rendering it with what is bound for it. -/
structure Others where
  find : (names : List String) → Eval (Option (String × List Node))
  render : (name : String) → List Node → Bindings → Eval (List Char)

/-- The names that an expression for a template stands for. -/
def templateNames (v : Value) : Eval (List String) :=
  match v with
  | .text s => .ok [s]
  | v => do
    let items ← v.iterate
    return items.filterMap fun item => match item with
      | .text s => some s
      | _ => none

/-- Gives a chain of filters the text that it starts from. -/
def feed (text : String) : Expr → Expr
  | .filter none word args line => .filter (some (.constant (.text text))) word args line
  | .filter (some e) word args line => .filter (some (feed text e)) word args line
  | e => e

/-! ## Nodes -/

/-- The scope of one turn of a loop. `loop` is bound for a body that uses the word itself: an included
template sees it only then. -/
def turnOf (s : Scope) (index : Nat) (items : List Value) (body : List Node) : Scope :=
  let own : Bindings := if nodesUse "loop" body then [("loop", .loop index items)] else []
  { s with turns := own :: s.turns }

mutual

def renderNode (template : String) (others : Others) (s : Scope) : Node → Rendered
  | .data text => .ok (if s.extended.isSome then [] else text, s)
  | .print e => do
    if s.extended.isSome then return ([], s)
    let v ← evaluate template s e
    return ((← v.plain).toList, s)
  | .branch branches otherwise =>
    renderCases template others s (fun () => renderNodes template others s otherwise) branches
  | .loop target sequence only body otherwise _ => do
    let items ← (← evaluate template s sequence).iterate
    let chosen ← items.filterM fun item => do
      match only with
      | none => return true
      | some e =>
        let inner ← store { s with turns := [] :: s.turns } target item
        (← evaluate template inner e).truth
    if chosen.isEmpty then
      let (text, _) ← renderNodes template others { s with turns := [] :: s.turns } otherwise
      return (text, s)
    else
      let texts ← (chosen.zipIdx).mapM fun (item, index) => do
        let inner ← store (turnOf s index chosen body) target item
        return (← renderNodes template others inner body).1
      return (texts.flatten, s)
  | .assign target value => do
    return ([], ← store s target (← evaluate template s value))
  | .assignBody target filter body => do
    let (text, _) ← renderNodes template others { s with turns := [] :: s.turns } body
    let text := String.ofList text
    let v ← match filter with
      | none => pure (.text text)
      | some e => evaluate template s (feed text e)
    return ([], ← store s target v)
  | .include_ e ignoreMissing withContext => do
    let names ← templateNames (← evaluate template s e)
    match ← others.find names with
    | some (name, nodes) =>
      return (← others.render name nodes (if withContext then s.flatten else []), s)
    | none => if ignoreMissing then return ([], s) else .error .missing
  | .extends_ e _ => do
    let names ← templateNames (← evaluate template s e)
    match ← others.find names with
    | some found => return ([], { s with extended := some found })
    | none => .error .missing

def renderNodes (template : String) (others : Others) (s : Scope) : List Node → Rendered
  | [] => .ok ([], s)
  | n :: rest => do
    let (text, s) ← renderNode template others s n
    let (more, s) ← renderNodes template others s rest
    return (text ++ more, s)

/-- Renders the body of the first condition that holds. -/
def renderCases (template : String) (others : Others) (s : Scope) (otherwise : Unit → Rendered) :
    List (Expr × List Node) → Rendered
  | [] => otherwise ()
  | (condition, body) :: rest => do
    if ← (← evaluate template s condition).truth then renderNodes template others s body
    else renderCases template others s otherwise rest

end

/-- Renders a whole template, and the one it extends in its place. -/
def renderTemplate (others : Others) (name : String) (nodes : List Node) (context : Bindings) :
    Eval (List Char) := do
  let (text, s) ← renderNodes name others (.ofTemplate name context) nodes
  match s.extended with
  | none => return text
  | some (base, nodes) => return text ++ (← others.render base nodes s.context)

/-! ## The whole -/

/-- Finds the first template that is there. -/
def findTemplate (library : Library) : List String → Eval (Option (String × List Node))
  | [] => .ok none
  | name :: rest =>
    match loadNodes library name with
    | .ok nodes => .ok (some (name, nodes))
    | .error .missing => findTemplate library rest
    | .error stop => .error stop

/-- How deep templates may be in one another. -/
def deepest : Nat := 150

/-- The other templates, in which more may be found down to a depth. -/
def othersAt (library : Library) : (depth : Nat) → Others
  | 0 => ⟨findTemplate library, fun _ _ _ => .error (.crash .tooDeep)⟩
  | depth + 1 =>
    ⟨findTemplate library, fun name nodes context =>
      renderTemplate (othersAt library depth) name nodes context⟩

/-- The names that a variant's arguments bind. -/
def argBindings (args : VariantArgs) : Bindings :=
  [("fetch_color_expr", .text args.fetchColorExpr), ("header", .text args.header)]

/-- Renders the template of that name with a variant's arguments. -/
def render (library : Library) (name : String) (args : VariantArgs) : Eval String := do
  let nodes ← loadNodes library name
  return String.ofList (← renderTemplate (othersAt library deepest) name nodes (argBindings args))

end ShaderBundle.Template
