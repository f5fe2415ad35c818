import ShaderBundle.Template.Grammar

/-!
# Reading templates

Text, print tags and block tags become nodes. A block tag that is not known, or that does not belong where it
stands, is refused with what was expected there.
-/

namespace ShaderBundle.Template

/-- The tags that are open, the innermost first, and the tags that each of them waits for. -/
structure Surrounding where
  openTags : List String := []
  awaited : List (List String) := []

/-- What is said of a tag that does not belong here, or of the end of the template. -/
def Surrounding.complaint (s : Surrounding) (tag : Option String) : String :=
  let opening := match tag with
    | none => "Unexpected end of template."
    | some tag => s!"Encountered unknown tag {Text.display tag}."
  let looking := match s.awaited with
    | [] => []
    | tags :: _ =>
      let names := " or ".intercalate (tags.map Text.display)
      if tag.any fun tag => s.awaited.any (·.contains tag) then
        ["You probably made a nesting mistake. Jinja is expecting this tag, but currently looking for " ++
          names ++ "."]
      else ["Jinja was looking for the following tags: " ++ names ++ "."]
  let innermost := match s.openTags with
    | [] => []
    | tag :: _ =>
      [s!"The innermost block that needs to be closed is {Text.display tag}."]
  " ".intercalate (opening :: looking ++ innermost)

namespace Parse

/-! ## Targets -/

/-- What an expression is called as a target that nothing can be stored into. -/
def kindOf : Expr → String
  | .constant _ => "const"
  | .name .. => "name"
  | .list _ => "list"
  | .tuple .. => "tuple"
  | .dict _ => "dict"
  | .member .. => "getattr"
  | .item .. => "getitem"
  | .slice .. => "slice"
  | .call .. => "call"
  | .filter .. => "filter"
  | .test .. => "test"
  | .negative _ => "neg"
  | .positive _ => "pos"
  | .arithmetic op _ _ =>
    match op with
    | .add => "add"
    | .sub => "sub"
    | .mul => "mul"
    | .div => "div"
    | .floorDiv => "floordiv"
    | .mod => "mod"
    | .pow => "pow"
  | .concat _ => "concat"
  | .compare .. => "compare"
  | .both .. => "and"
  | .either .. => "or"
  | .negation _ => "not"
  | .conditional .. => "condexpr"
  | .cell .. => "nsref"

mutual

def targetOf? : Expr → Option Target
  | .name word line => some (.name word line)
  | .cell word key => some (.cell word key)
  | .tuple items _ => (targetsOf? items).map .tuple
  | _ => none

def targetsOf? : List Expr → Option (List Target)
  | [] => some []
  | e :: rest =>
    match targetOf? e, targetsOf? rest with
    | some t, some ts => some (t :: ts)
    | _, _ => none

end

/-- A name, or several separated by commas, up to one of the given ends. -/
def target (depth : Nat) (atEnd : Lexeme → Bool) (cells : Bool) : Parse Target := do
  let line ← line
  let e ← tuple (primary (expression depth) cells) atEnd false
  match targetOf? e with
  | some t => return t
  | none =>
    let line := match e with
      | .tuple _ line => line
      | _ => line
    fail line s!"can't assign to {Text.display (kindOf e)}"

/-! ## Block tags -/

/-- Reads nodes up to one of the awaited tags, whose name is then in front, or to the end. -/
abbrev Body := Surrounding → Option (List String) → Parse (List Node)

/-- The nodes of a block: from the end of its tag up to one of the tags that may follow. -/
def bodyUntil (body : Body) (s : Surrounding) (tags : List String) : Parse (List Node) := do
  let _ ← skipOperator .colon
  let _ ← expectBlockEnd
  let nodes ← body s (some tags)
  let t ← current
  if t.lexeme.isEof then
    fail t.line ({ s with awaited := tags :: s.awaited }.complaint none)
  else return nodes

/-- The last nodes of a block, and the name of its closing tag. -/
def bodyThrough (body : Body) (s : Surrounding) (tag : String) : Parse (List Node) := do
  let nodes ← bodyUntil body s [tag]
  let _ ← next
  return nodes

def withEnd (word : String) (l : Lexeme) : Bool := tupleEnd l || l.isName word

def cases (depth : Nat) (body : Body) (s : Surrounding) :
    (fuel : Nat) → List (Expr × List Node) → Parse Node
  | 0, read => return .branch read.reverse []
  | fuel + 1, read => do
    let condition ← tuple (unconditional depth) tupleEnd false
    let nodes ← bodyUntil body s ["elif", "else", "endif"]
    let read := (condition, nodes) :: read
    let t ← next
    if t.lexeme.isName "elif" then cases depth body s fuel read
    else if t.lexeme.isName "else" then
      return .branch read.reverse (← bodyThrough body s "endif")
    else return .branch read.reverse []

def loop (depth : Nat) (body : Body) (s : Surrounding) (line : Nat) : Parse Node := do
  let into ← target depth (withEnd "in") false
  let _ ← expectWord "in"
  let sequence ← tuple (unconditional depth) (withEnd "recursive") false
  let only ← if ← skipWord "if" then some <$> expression depth else pure none
  let _ ← skipWord "recursive"
  let nodes ← bodyUntil body s ["endfor", "else"]
  let t ← next
  let otherwise ← if t.lexeme.isName "endfor" then pure [] else bodyThrough body s "endfor"
  return .loop into sequence only nodes otherwise line

def assignment (depth : Nat) (body : Body) (s : Surrounding) : Parse Node := do
  let into ← target depth tupleEnd true
  if ← skipOperator .assign then
    return .assign into (← tuple (expression depth) tupleEnd false)
  else
    let filter ← filters (expression depth) (← budget) none
    return .assignBody into filter (← bodyThrough body s "endset")

/-- Moves over two words if both are in front. -/
def skipWords (first : List String) (second : String) : Parse (Option String) := do
  match ← lexeme with
  | .name word =>
    if first.contains word then
      if (← look).lexeme.isName second then
        let _ ← next
        let _ ← next
        return some word
      else return none
    else return none
  | _ => return none

def inclusion (depth : Nat) : Parse Node := do
  let template ← expression depth
  let missing ← skipWords ["ignore"] "missing"
  let context ← skipWords ["with", "without"] "context"
  return .include_ template missing.isSome (context != some "without")

def statement (depth : Nat) (body : Body) (s : Surrounding) : Parse Node := do
  let t ← current
  match t.lexeme with
  | .name tag =>
    let inner := { s with openTags := tag :: s.openTags }
    match tag with
    | "if" =>
      let _ ← next
      cases depth body inner (← budget) []
    | "for" =>
      let _ ← next
      loop depth body inner t.line
    | "set" =>
      let _ ← next
      assignment depth body inner
    | "include" =>
      let _ ← next
      inclusion depth
    | "extends" =>
      let _ ← next
      return .extends_ (← expression depth) t.line
    | _ => fail t.line (s.complaint (some tag))
  | _ => fail t.line "tag name expected"

/-! ## Bodies -/

/-- Whether one of the awaited tags is in front. -/
def atTag (tags : Option (List String)) : Lexeme → Bool
  | .name word => (tags.getD []).contains word
  | _ => false

/-- Reads nodes one after another; `read` holds those before, the last first. -/
def nodes (depth : Nat) (body : Body) (s : Surrounding) (tags : Option (List String)) :
    (fuel : Nat) → List Node → Parse (List Node)
  | 0, read => return read.reverse
  | fuel + 1, read => do
    match ← lexeme with
    | .data text =>
      let _ ← next
      nodes depth body s tags fuel (.data text :: read)
    | .variableBegin =>
      let _ ← next
      let e ← tuple (expression depth) tupleEnd false
      let _ ← expectVariableEnd
      nodes depth body s tags fuel (.print e :: read)
    | .blockBegin =>
      let _ ← next
      if atTag tags (← lexeme) then return read.reverse
      let node ← statement depth body s
      let _ ← expectBlockEnd
      nodes depth body s tags fuel (node :: read)
    | _ => return read.reverse

/-- A body whose blocks nest at most so deep. -/
def bodyAt (depth : Nat) : (nesting : Nat) → Body
  | 0, _, _ => do fail (← line) "blocks nested too deeply"
  | nesting + 1, s, tags => do
    let inner := match tags with
      | none => s
      | some tags => { s with awaited := tags :: s.awaited }
    nodes depth (bodyAt depth nesting) inner tags (← budget) []

end Parse

/-- Reads the tokens of a template as its nodes. -/
def parseTokens (ts : Tokens) : Except Malformed (List Node) := do
  let stream ← Stream.ofTokens ts
  let depth := ts.tokens.length + 1
  let (nodes, _) ← (Parse.bodyAt depth depth {} none).run stream
  return nodes

end ShaderBundle.Template
