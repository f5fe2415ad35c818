import ShaderBundle.Template.Check

/-!
# Lines are labels

What is read from a template keeps the lines of its tokens, and a complaint names one of them. Nothing depends on what
these lines are: with others, the same is complained of, and with the line that has taken the place of the first.

* `Expr.relabel`, `Target.relabel`, `Node.relabel`: the same with other lines.
* `Corresponds`: one outcome is the other with other lines.
* `check_relabel`: so it is when nodes are checked.
-/

namespace ShaderBundle.Template

variable (f : Nat → Nat)

/-! ## Expressions -/

mutual

def Expr.relabel : Expr → Expr
  | .constant c => .constant c
  | .name word line => .name word (f line)
  | .list items => .list (relabelAll items)
  | .tuple items line => .tuple (relabelAll items) (f line)
  | .dict entries => .dict (relabelPairs entries)
  | .member of word => .member of.relabel word
  | .item of index => .item of.relabel index.relabel
  | .slice start stop step => .slice (relabelOptional start) (relabelOptional stop) (relabelOptional step)
  | .call of args => .call of.relabel (relabelArguments args)
  | .filter of word args line => .filter (relabelOptional of) word (relabelArguments args) (f line)
  | .test of word args line => .test of.relabel word (relabelArguments args) (f line)
  | .negative e => .negative e.relabel
  | .positive e => .positive e.relabel
  | .arithmetic op a b => .arithmetic op a.relabel b.relabel
  | .concat parts => .concat (relabelAll parts)
  | .compare first rest => .compare first.relabel (relabelOperands rest)
  | .both a b => .both a.relabel b.relabel
  | .either a b => .either a.relabel b.relabel
  | .negation e => .negation e.relabel
  | .conditional condition then_ else_ line =>
    .conditional condition.relabel then_.relabel (relabelOptional else_) (f line)
  | .cell word key => .cell word key

def relabelOptional : Option Expr → Option Expr
  | none => none
  | some e => some e.relabel

def relabelAll : List Expr → List Expr
  | [] => []
  | e :: rest => e.relabel :: relabelAll rest

def relabelPairs : List (Expr × Expr) → List (Expr × Expr)
  | [] => []
  | (k, v) :: rest => (k.relabel, v.relabel) :: relabelPairs rest

def relabelArguments : List (ArgKind × Expr) → List (ArgKind × Expr)
  | [] => []
  | (kind, e) :: rest => (kind, e.relabel) :: relabelArguments rest

def relabelOperands : List (Comparison × Expr) → List (Comparison × Expr)
  | [] => []
  | (op, e) :: rest => (op, e.relabel) :: relabelOperands rest

end

/-! ## Nodes -/

mutual

def Target.relabel : Target → Target
  | .name word line => .name word (f line)
  | .tuple parts => .tuple (relabelTargets parts)
  | .cell word key => .cell word key

def relabelTargets : List Target → List Target
  | [] => []
  | t :: rest => t.relabel :: relabelTargets rest

end

mutual

def Node.relabel : Node → Node
  | .data text => .data text
  | .print e => .print (e.relabel f)
  | .branch cases otherwise => .branch (relabelCases cases) (relabelNodes otherwise)
  | .loop target sequence only body otherwise line =>
    .loop (target.relabel f) (sequence.relabel f) (relabelOptional f only) (relabelNodes body) (relabelNodes otherwise) (f line)
  | .assign target value => .assign (target.relabel f) (value.relabel f)
  | .assignBody target filter body => .assignBody (target.relabel f) (relabelOptional f filter) (relabelNodes body)
  | .include_ template ignoreMissing withContext => .include_ (template.relabel f) ignoreMissing withContext
  | .extends_ template line => .extends_ (template.relabel f) (f line)

def relabelNodes : List Node → List Node
  | [] => []
  | n :: rest => n.relabel :: relabelNodes rest

def relabelCases : List (Expr × List Node) → List (Expr × List Node)
  | [] => []
  | (condition, body) :: rest => (condition.relabel f, relabelNodes body) :: relabelCases rest

end

section
variable {f}

theorem relabelAll_eq (es : List Expr) : relabelAll f es = es.map (Expr.relabel f) := by
  induction es <;> simp_all [relabelAll]

theorem relabelPairs_eq (entries : List (Expr × Expr)) :
    relabelPairs f entries = entries.map (Prod.map (Expr.relabel f) (Expr.relabel f)) := by
  induction entries <;> simp_all [relabelPairs, Prod.map]

theorem relabelArguments_eq (args : List (ArgKind × Expr)) :
    relabelArguments f args = args.map (Prod.map id (Expr.relabel f)) := by
  induction args <;> simp_all [relabelArguments, Prod.map]

theorem relabelOperands_eq (rest : List (Comparison × Expr)) :
    relabelOperands f rest = rest.map (Prod.map id (Expr.relabel f)) := by
  induction rest <;> simp_all [relabelOperands, Prod.map]

theorem relabelNodes_eq (ns : List Node) : relabelNodes f ns = ns.map (Node.relabel f) := by
  induction ns <;> simp_all [relabelNodes]

theorem relabelCases_eq (cs : List (Expr × List Node)) :
    relabelCases f cs = cs.map (Prod.map (Expr.relabel f) (relabelNodes f)) := by
  induction cs <;> simp_all [relabelCases, Prod.map]

end

/-! ## Outcomes -/

def Malformed.relabel (m : Malformed) : Malformed := { m with line := f m.line }

/-- The second outcome is the first with other lines, which `F` gives to what is there without a fault. -/
def Corresponds {α : Type} (F : α → α) : Except Malformed α → Except Malformed α → Prop
  | .error m, r' => r' = .error (m.relabel f)
  | .ok a, r' => r' = .ok (F a)

theorem Corresponds.bind {α β : Type} {f : Nat → Nat} {F : α → α} {G : β → β} {r r' : Except Malformed α}
    {k k' : α → Except Malformed β} (hr : Corresponds f F r r') (hk : ∀ a, Corresponds f G (k a) (k' (F a))) :
    Corresponds f G (r >>= k) (r' >>= k') := by
  cases r with
  | error m =>
    cases hr
    rfl
  | ok a =>
    cases hr
    exact hk a

/-! ## Checks -/

namespace Check

/-- The second check is the first with other lines. -/
def Same (r r' : Checked) : Prop := Corresponds f id r r'

variable {f}

theorem Same.ok : Same f (.ok ()) (.ok ()) := rfl

theorem Same.bind {a a' : Checked} {b b' : Unit → Checked} (ha : Same f a a') (hb : Same f (b ()) (b' ())) :
    Same f (a >>= b) (a' >>= b') :=
  Corresponds.bind ha fun _ => hb

theorem known_relabel (what : String) (names : List String) (p : Place) (word : String) (line : Nat) :
    Same f (known what names p word line) (known what names p word (f line)) := by
  unfold known
  split <;> rfl

mutual

theorem expr_relabel (p : Place) : ∀ e : Expr, Same f (expr p e) (expr p (e.relabel f))
  | .constant _ | .cell .. => by rw [Expr.relabel, expr]; exact .ok
  | .name .. => by rw [Expr.relabel, expr, expr]; exact .ok
  | .list items | .concat items => by rw [Expr.relabel, expr, expr]; exact exprs_relabel p items
  | .tuple items _ => by rw [Expr.relabel, expr, expr]; exact exprs_relabel p items
  | .dict entries => by rw [Expr.relabel, expr, expr]; exact pairs_relabel p entries
  | .member of _ => by rw [Expr.relabel, expr, expr]; exact expr_relabel p of
  | .item of index => by rw [Expr.relabel, expr, expr]; exact .bind (expr_relabel p of) (expr_relabel p index)
  | .slice start stop step => by
    rw [Expr.relabel, expr, expr]
    exact .bind (optional_relabel p start) (.bind (optional_relabel p stop) (optional_relabel p step))
  | .call of args => by rw [Expr.relabel, expr, expr]; exact .bind (expr_relabel p of) (arguments_relabel p args)
  | .filter of word args line => by
    rw [Expr.relabel, expr, expr]
    exact .bind (known_relabel _ _ p word line) (.bind (optional_relabel p of) (arguments_relabel p args))
  | .test of word args line => by
    rw [Expr.relabel, expr, expr]
    exact .bind (known_relabel _ _ p word line) (.bind (expr_relabel p of) (arguments_relabel p args))
  | .negative e | .positive e | .negation e => by rw [Expr.relabel, expr, expr]; exact expr_relabel p e
  | .arithmetic _ a b | .both a b | .either a b => by
    rw [Expr.relabel, expr, expr]
    exact .bind (expr_relabel p a) (expr_relabel p b)
  | .compare first rest => by
    rw [Expr.relabel, expr, expr]
    exact .bind (expr_relabel p first) (comparisons_relabel p rest)
  | .conditional condition then_ else_ _ => by
    rw [Expr.relabel, expr, expr]
    exact .bind (expr_relabel _ condition) (.bind (expr_relabel _ then_) (optional_relabel _ else_))

theorem exprs_relabel (p : Place) : ∀ es : List Expr, Same f (exprs p es) (exprs p (relabelAll f es))
  | [] => by rw [relabelAll, exprs]; exact .ok
  | e :: rest => by rw [relabelAll, exprs, exprs]; exact .bind (expr_relabel p e) (exprs_relabel p rest)

theorem optional_relabel (p : Place) : ∀ e : Option Expr, Same f (optional p e) (optional p (relabelOptional f e))
  | none => by rw [relabelOptional, optional]; exact .ok
  | some e => by rw [relabelOptional, optional, optional]; exact expr_relabel p e

theorem pairs_relabel (p : Place) :
    ∀ entries : List (Expr × Expr), Same f (pairs p entries) (pairs p (relabelPairs f entries))
  | [] => by rw [relabelPairs, pairs]; exact .ok
  | (k, v) :: rest => by
    rw [relabelPairs, pairs, pairs]
    exact .bind (expr_relabel p k) (.bind (expr_relabel p v) (pairs_relabel p rest))

theorem arguments_relabel (p : Place) :
    ∀ args : List (ArgKind × Expr), Same f (arguments p args) (arguments p (relabelArguments f args))
  | [] => by rw [relabelArguments, arguments]; exact .ok
  | (_, e) :: rest => by
    rw [relabelArguments, arguments, arguments]
    exact .bind (expr_relabel p e) (arguments_relabel p rest)

theorem comparisons_relabel (p : Place) :
    ∀ rest : List (Comparison × Expr), Same f (comparisons p rest) (comparisons p (relabelOperands f rest))
  | [] => by rw [relabelOperands, comparisons]; exact .ok
  | (_, e) :: rest => by
    rw [relabelOperands, comparisons, comparisons]
    exact .bind (expr_relabel p e) (comparisons_relabel p rest)

end

/-! ## Stores into the loop's name -/

mutual

theorem loopStore?_relabel : ∀ t : Target, loopStore? (t.relabel f) = (loopStore? t).map f
  | .name word line => by
    rw [Target.relabel, loopStore?, loopStore?]
    split <;> rfl
  | .tuple parts => by rw [Target.relabel, loopStore?, loopStore?]; exact loopStores?_relabel parts
  | .cell .. => by rw [Target.relabel, loopStore?]; rfl

theorem loopStores?_relabel : ∀ ts : List Target, loopStores? (relabelTargets f ts) = (loopStores? ts).map f
  | [] => by rw [relabelTargets, loopStores?]; rfl
  | t :: rest => by
    rw [relabelTargets, loopStores?, loopStores?, loopStore?_relabel t, loopStores?_relabel rest, Option.map_or]

end

mutual

theorem nodeStore?_relabel : ∀ n : Node, nodeStore? (n.relabel f) = (nodeStore? n).map f
  | .branch cases otherwise => by
    rw [Node.relabel, nodeStore?, nodeStore?, caseStores?_relabel cases, nodeStores?_relabel otherwise, Option.map_or]
  | .loop target _ _ body otherwise _ => by
    rw [Node.relabel, nodeStore?, nodeStore?, loopStore?_relabel target, nodeStores?_relabel body,
      nodeStores?_relabel otherwise, Option.map_or, Option.map_or]
  | .assign target _ => by rw [Node.relabel, nodeStore?, nodeStore?]; exact loopStore?_relabel target
  | .assignBody target _ body => by
    rw [Node.relabel, nodeStore?, nodeStore?, loopStore?_relabel target, nodeStores?_relabel body, Option.map_or]
  | .data _ | .print _ | .include_ .. | .extends_ .. => rfl

theorem nodeStores?_relabel : ∀ ns : List Node, nodeStores? (relabelNodes f ns) = (nodeStores? ns).map f
  | [] => by rw [relabelNodes, nodeStores?]; rfl
  | n :: rest => by
    rw [relabelNodes, nodeStores?, nodeStores?, nodeStore?_relabel n, nodeStores?_relabel rest, Option.map_or]

theorem caseStores?_relabel :
    ∀ cs : List (Expr × List Node), caseStores? (relabelCases f cs) = (caseStores? cs).map f
  | [] => by rw [relabelCases, caseStores?]; rfl
  | (_, body) :: rest => by
    rw [relabelCases, caseStores?, caseStores?, nodeStores?_relabel body, caseStores?_relabel rest, Option.map_or]

end

/-! ## Nodes -/

mutual

theorem node_relabel (p : Place) : ∀ n : Node, Same f (node p n) (node p (n.relabel f))
  | .data _ => by rw [Node.relabel, node]; exact .ok
  | .print e => by rw [Node.relabel, node, node]; exact expr_relabel p e
  | .include_ e _ _ => by rw [Node.relabel, node, node]; exact expr_relabel p e
  | .branch branches otherwise => by
    rw [Node.relabel, node, node]
    exact .bind (cases_relabel _ branches) (nodes_relabel _ otherwise)
  | .loop target sequence only body otherwise _ => by
    rw [Node.relabel, node, node]
    refine .bind (optional_relabel _ only) ?_
    rw [loopStore?_relabel, nodeStores?_relabel, nodeStores?_relabel, ← Option.map_or, ← Option.map_or]
    cases (loopStore? target).or ((nodeStores? body).or (nodeStores? otherwise)) with
    | some line => rfl
    | none => exact .bind (expr_relabel p sequence) (.bind (nodes_relabel _ body) (nodes_relabel _ otherwise))
  | .assign _ value => by rw [Node.relabel, node, node]; exact expr_relabel p value
  | .assignBody _ filter body => by
    rw [Node.relabel, node, node]
    exact .bind (nodes_relabel _ body) (optional_relabel p filter)
  | .extends_ template line => by
    rw [Node.relabel, node, node]
    split
    · exact expr_relabel p template
    · rfl

theorem nodes_relabel (p : Place) : ∀ ns : List Node, Same f (nodes p ns) (nodes p (relabelNodes f ns))
  | [] => by rw [relabelNodes, nodes]; exact .ok
  | n :: rest => by rw [relabelNodes, nodes, nodes]; exact .bind (node_relabel p n) (nodes_relabel p rest)

theorem cases_relabel (p : Place) :
    ∀ cs : List (Expr × List Node), Same f (cases p cs) (cases p (relabelCases f cs))
  | [] => by rw [relabelCases, cases]; exact .ok
  | (condition, body) :: rest => by
    rw [relabelCases, cases, cases]
    exact .bind (expr_relabel p condition) (.bind (nodes_relabel p body) (cases_relabel p rest))

end

end Check

theorem check_relabel {f : Nat → Nat} (ns : List Node) : Corresponds f id (check ns) (check (relabelNodes f ns)) :=
  Check.nodes_relabel {} ns

end ShaderBundle.Template
