import ShaderBundle.Template.Lexer
import ShaderBundle.Template.Node

/-!
# The grammar of expressions

Tokens are read from left to right with at most one token looked at in advance. The parsers of single
constructs take the parser of whole expressions as an argument; `expression` closes the circle, with a
bound on how deep expressions may nest that the number of tokens gives.
-/

namespace ShaderBundle.Template

/-- The token in front, those behind it, and the fault behind them if there is one. -/
structure Stream where
  current : Token
  rest : List Token
  fault : Option Malformed

abbrev Parse := StateT Stream (Except Malformed)

namespace Stream

/-- Moves on by one token. The end of the template has the line of the last token. -/
def advance (s : Stream) : Except Malformed Stream :=
  match s.rest, s.fault with
  | t :: rest, _ => .ok { s with current := t, rest }
  | [], some fault => .error fault
  | [], none => .ok { s with current := ⟨s.current.line, .eof⟩ }

def ofTokens (ts : Tokens) : Except Malformed Stream :=
  advance ⟨⟨1, .eof⟩, ts.tokens, ts.fault⟩

end Stream

namespace Parse

def fail {α : Type} (line : Nat) (detail : String) : Parse α := throw ⟨line, detail⟩

def current : Parse Token := return (← get).current

def lexeme : Parse Lexeme := return (← get).current.lexeme

def line : Parse Nat := return (← get).current.line

/-- Moves on, and gives the token that was in front. -/
def next : Parse Token := do
  let s ← get
  set (← s.advance)
  return s.current

/-- The token behind the one in front. -/
def look : Parse Token := do
  return (← (← get).advance).current

/-- A bound on the number of tokens that are left. -/
def budget : Parse Nat := return (← get).rest.length + 2

/-- Moves over a token that has to be there. -/
def expect (description : String) (test : Lexeme → Bool) : Parse Token := do
  let t ← current
  if test t.lexeme then next
  else if t.lexeme.isEof then
    fail t.line s!"unexpected end of template, expected {Text.display description}."
  else
    fail t.line
      s!"expected token {Text.display description}, got {Text.display t.lexeme.describe}"

def expectOperator (o : Operator) : Parse Token := expect o.text (·.isOperator o)

def expectWord (word : String) : Parse Token := expect word (·.isName word)

def expectBlockEnd : Parse Token := expect Lexeme.blockEnd.describe (·.isBlockEnd)

def expectVariableEnd : Parse Token := expect Lexeme.variableEnd.describe (·.isVariableEnd)

/-- Moves over a name, and gives it with its line. -/
def expectName : Parse (String × Nat) := do
  let t ← expect "name" fun
    | .name _ => true
    | _ => false
  match t.lexeme with
  | .name word => return (word, t.line)
  | _ => return ("", t.line)

def isOperator (o : Operator) : Parse Bool := return (← lexeme).isOperator o

def isWord (word : String) : Parse Bool := return (← lexeme).isName word

/-- Moves over a word if it is in front. -/
def skipWord (word : String) : Parse Bool := do
  if ← isWord word then
    let _ ← next
    return true
  else return false

def skipOperator (o : Operator) : Parse Bool := do
  if ← isOperator o then
    let _ ← next
    return true
  else return false

/-! ## Lists -/

/-- Items separated by commas up to a closing bracket, which stays in front. A comma may precede it. -/
def itemsUntil {α : Type} (closer : Operator) (item : Parse α) : (fuel : Nat) → List α → Parse (List α)
  | 0, items => return items.reverse
  | fuel + 1, items => do
    if ← isOperator closer then return items.reverse
    if !items.isEmpty then
      let _ ← expectOperator .comma
      if ← isOperator closer then return items.reverse
    itemsUntil closer item fuel ((← item) :: items)

/-- Items of a tuple without brackets: the items, whether there was a comma, and a line. -/
def tupleItems (item : Parse Expr) (atEnd : Lexeme → Bool) :
    (fuel : Nat) → List Expr → Bool → Nat → Parse (List Expr × Bool × Nat)
  | 0, items, isTuple, line => return (items.reverse, isTuple, line)
  | fuel + 1, items, isTuple, line => do
    if !items.isEmpty then
      let _ ← expectOperator .comma
    if atEnd (← lexeme) then return (items.reverse, isTuple, line)
    let items := (← item) :: items
    if ← isOperator .comma then tupleItems item atEnd fuel items true (← Parse.line)
    else return (items.reverse, isTuple, line)

/-- Where a tuple without brackets ends. -/
def tupleEnd : Lexeme → Bool
  | .variableEnd | .blockEnd | .operator .closeParen => true
  | _ => false

/-- One item, or several separated by commas. Nothing at all is a tuple only in parentheses. -/
def tuple (item : Parse Expr) (atEnd : Lexeme → Bool) (inParentheses : Bool) : Parse Expr := do
  let (items, isTuple, line) ← tupleItems item atEnd (← budget) [] false (← line)
  if isTuple then return .tuple items line
  else
    match items with
    | e :: _ => return e
    | [] =>
      if inParentheses then return .tuple [] line
      else
        let t ← current
        fail t.line s!"Expected an expression, got {Text.display t.lexeme.describe}"

/-! ## Primary expressions -/

/-- The texts of neighbouring quoted texts, joined. -/
def joinedTexts : (fuel : Nat) → String → Parse String
  | 0, read => return read
  | fuel + 1, read => do
    match ← lexeme with
    | .text s =>
      let _ ← next
      joinedTexts fuel (read ++ s)
    | _ => return read

def pair (expr : Parse Expr) : Parse (Expr × Expr) := do
  let key ← expr
  let _ ← expectOperator .colon
  return (key, ← expr)

/-- A word that stands for a value. -/
def constantWord? : String → Option Constant
  | "true" | "True" => some (.bool true)
  | "false" | "False" => some (.bool false)
  | "none" | "None" => some .none
  | _ => none

/-- A name, a literal or something in brackets. With `cells`, a name may be followed by a dot and the
name of a member. -/
def primary (expr : Parse Expr) (cells : Bool) : Parse Expr := do
  let t ← current
  match t.lexeme with
  | .name word =>
    let _ ← next
    match constantWord? word with
    | some c => return .constant c
    | none =>
      if cells && (← isOperator .dot) then
        let _ ← next
        let (key, _) ← expectName
        return .cell word key
      else return .name word t.line
  | .text _ => return .constant (.text (← joinedTexts (← budget) ""))
  | .integer n =>
    let _ ← next
    return .constant (.integer n)
  | .real x =>
    let _ ← next
    return .constant (.real x)
  | .operator .openParen =>
    let _ ← next
    let e ← tuple expr tupleEnd true
    let _ ← expectOperator .closeParen
    return e
  | .operator .openBracket =>
    let _ ← next
    let items ← itemsUntil .closeBracket expr (← budget) []
    let _ ← expectOperator .closeBracket
    return .list items
  | .operator .openBrace =>
    let _ ← next
    let pairs ← itemsUntil .closeBrace (pair expr) (← budget) []
    let _ ← expectOperator .closeBrace
    return .dict pairs
  | l => fail t.line s!"unexpected {Text.display l.describe}"

/-! ## Subscripts and calls -/

/-- Whether a bound of a slice is left out here. -/
def boundMissing : Lexeme → Bool
  | .operator .closeBracket | .operator .comma => true
  | _ => false

/-- An index, or a range of places. -/
def subscript (expr : Parse Expr) : Parse Expr := do
  let bound : Parse (Option Expr) := do
    if boundMissing (← lexeme) then return none else return some (← expr)
  let first ← if ← isOperator .colon then pure none else some <$> expr
  match first, ← isOperator .colon with
  | some e, false => return e
  | start, _ =>
    let _ ← next
    let stop ← if ← isOperator .colon then pure none else bound
    let step ← if ← skipOperator .colon then bound else pure none
    return .slice start stop step

def subscripts (expr : Parse Expr) : (fuel : Nat) → List Expr → Parse (List Expr)
  | 0, read => return read.reverse
  | fuel + 1, read => do
    if ← isOperator .closeBracket then return read.reverse
    if !read.isEmpty then
      let _ ← expectOperator .comma
    subscripts expr fuel ((← subscript expr) :: read)

/-- What kinds of arguments have been given so far. -/
structure Given where
  named : Bool := false
  more : Bool := false
  moreNamed : Bool := false

/-- The arguments of a call up to its closing parenthesis. -/
def arguments (expr : Parse Expr) (line : Nat) :
    (fuel : Nat) → Given → List (ArgKind × Expr) → Parse (List (ArgKind × Expr))
  | 0, _, args => return args.reverse
  | fuel + 1, given, args => do
    let ensure (b : Bool) : Parse Unit :=
      if b then pure () else fail line "invalid syntax for function call expression"
    if ← isOperator .closeParen then return args.reverse
    if !args.isEmpty then
      let _ ← expectOperator .comma
      if ← isOperator .closeParen then return args.reverse
    match ← lexeme with
    | .operator .mul =>
      ensure (!given.more && !given.moreNamed)
      let _ ← next
      let e ← expr
      arguments expr line fuel { given with more := true } ((.more, e) :: args)
    | .operator .pow =>
      ensure !given.moreNamed
      let _ ← next
      let e ← expr
      arguments expr line fuel { given with moreNamed := true } ((.moreNamed, e) :: args)
    | .name word =>
      if (← look).lexeme.isOperator .assign then
        ensure !given.moreNamed
        let _ ← next
        let _ ← next
        let e ← expr
        arguments expr line fuel { given with named := true } ((.named word, e) :: args)
      else
        ensure (!given.more && !given.moreNamed && !given.named)
        let e ← expr
        arguments expr line fuel given ((.placed, e) :: args)
    | _ =>
      ensure (!given.more && !given.moreNamed && !given.named)
      let e ← expr
      arguments expr line fuel given ((.placed, e) :: args)

def callArguments (expr : Parse Expr) : Parse (List (ArgKind × Expr)) := do
  let t ← expectOperator .openParen
  let args ← arguments expr t.line (← budget) {} []
  let _ ← expectOperator .closeParen
  return args

/-- The member that a dot leads to: a name, or a whole number as an index. -/
def afterDot (e : Expr) : Parse Expr := do
  let t ← next
  match t.lexeme with
  | .name word => return .member e word
  | .integer n => return .item e (.constant (.integer n))
  | _ => fail t.line "expected name or number"

/-- Members, subscripts and calls behind an expression. -/
def postfixes (expr : Parse Expr) : (fuel : Nat) → Expr → Parse Expr
  | 0, e => return e
  | fuel + 1, e => do
    let t ← current
    match t.lexeme with
    | .operator .dot =>
      let _ ← next
      postfixes expr fuel (← afterDot e)
    | .operator .openBracket =>
      let _ ← next
      let read ← subscripts expr (← budget) []
      let _ ← expectOperator .closeBracket
      let index := match read with
        | [i] => i
        | _ => .tuple read t.line
      postfixes expr fuel (.item e index)
    | .operator .openParen =>
      let args ← callArguments expr
      postfixes expr fuel (.call e args)
    | _ => return e

/-! ## Filters and tests -/

/-- A name with dots in it. -/
def dottedRest : (fuel : Nat) → String → Parse String
  | 0, read => return read
  | fuel + 1, read => do
    if ← skipOperator .dot then
      let (word, _) ← expectName
      dottedRest fuel (read ++ "." ++ word)
    else return read

def optionalArguments (expr : Parse Expr) : Parse (List (ArgKind × Expr)) := do
  if ← isOperator .openParen then callArguments expr else return []

/-- Filters behind an expression, or on their own. -/
def filters (expr : Parse Expr) : (fuel : Nat) → Option Expr → Parse (Option Expr)
  | 0, e => return e
  | fuel + 1, e => do
    if ← skipOperator .pipe then
      let (word, line) ← expectName
      let word ← dottedRest (← budget) word
      let args ← optionalArguments expr
      filters expr fuel (some (.filter e word args line))
    else return e

/-- Whether a test takes the value in front as its argument. -/
def startsArgument : Lexeme → Bool
  | .name word => word != "else" && word != "or" && word != "and"
  | .text _ | .integer _ | .real _ => true
  | .operator .openBracket | .operator .openBrace => true
  | _ => false

/-- A test behind an expression; the word in front is `is`. -/
def test (expr : Parse Expr) (e : Expr) : Parse Expr := do
  let t ← next
  let negated ← skipWord "not"
  let (word, _) ← expectName
  let word ← dottedRest (← budget) word
  let args ←
    if ← isOperator .openParen then callArguments expr
    else if startsArgument (← lexeme) then do
      if ← isWord "is" then
        fail (← line) "You cannot chain multiple tests with is"
      let arg ← postfixes expr (← budget) (← primary expr false)
      pure [(.placed, arg)]
    else pure []
  let tested := Expr.test e word args t.line
  return if negated then .negation tested else tested

/-- Filters, tests and calls behind an expression. -/
def filtersAndTests (expr : Parse Expr) : (fuel : Nat) → Expr → Parse Expr
  | 0, e => return e
  | fuel + 1, e => do
    match ← lexeme with
    | .operator .pipe =>
      match ← filters expr (← budget) (some e) with
      | some e => filtersAndTests expr fuel e
      | none => return e
    | .operator .openParen =>
      let args ← callArguments expr
      filtersAndTests expr fuel (.call e args)
    | .name "is" => do
      let e ← test expr e
      filtersAndTests expr fuel e
    | _ => return e

/-! ## Operators, tightest first -/

/-- A sign binds tighter than all that may stand behind its operand but filters and tests. -/
def unary (expr : Parse Expr) (withFilters : Bool) : (fuel : Nat) → Parse Expr
  | 0 => do fail (← line) "unexpected end"
  | fuel + 1 => do
    let e ←
      match ← lexeme with
      | .operator .sub => do
        let _ ← next
        pure (.negative (← unary expr false fuel))
      | .operator .add => do
        let _ ← next
        pure (.positive (← unary expr false fuel))
      | _ => primary expr false
    let e ← postfixes expr (← budget) e
    if withFilters then filtersAndTests expr (← budget) e else return e

/-- Operands joined from the left by operators of one strength. -/
def chain (operation? : Lexeme → Option Arithmetic) (operand : Parse Expr) :
    (fuel : Nat) → Expr → Parse Expr
  | 0, left => return left
  | fuel + 1, left => do
    match operation? (← lexeme) with
    | some op =>
      let _ ← next
      chain operation? operand fuel (.arithmetic op left (← operand))
    | none => return left

def powerOf? : Lexeme → Option Arithmetic
  | .operator .pow => some .pow
  | _ => none

def productOf? : Lexeme → Option Arithmetic
  | .operator .mul => some .mul
  | .operator .div => some .div
  | .operator .floorDiv => some .floorDiv
  | .operator .mod => some .mod
  | _ => none

def sumOf? : Lexeme → Option Arithmetic
  | .operator .add => some .add
  | .operator .sub => some .sub
  | _ => none

def chained (operation? : Lexeme → Option Arithmetic) (operand : Parse Expr) : Parse Expr := do
  let first ← operand
  chain operation? operand (← budget) first

def power (expr : Parse Expr) : Parse Expr := do
  chained powerOf? (unary expr true (← budget))

def product (expr : Parse Expr) : Parse Expr := chained productOf? (power expr)

def concatParts (expr : Parse Expr) : (fuel : Nat) → List Expr → Parse (List Expr)
  | 0, parts => return parts.reverse
  | fuel + 1, parts => do
    if ← skipOperator .tilde then concatParts expr fuel ((← product expr) :: parts)
    else return parts.reverse

def concatenation (expr : Parse Expr) : Parse Expr := do
  let first ← product expr
  match ← concatParts expr (← budget) [first] with
  | [e] => return e
  | parts => return .concat parts

def sum (expr : Parse Expr) : Parse Expr := chained sumOf? (concatenation expr)

def comparisonOf? : Lexeme → Option Comparison
  | .operator .eq => some .eq
  | .operator .ne => some .ne
  | .operator .lt => some .lt
  | .operator .le => some .le
  | .operator .gt => some .gt
  | .operator .ge => some .ge
  | .name "in" => some .isIn
  | _ => none

def comparisons (expr : Parse Expr) :
    (fuel : Nat) → List (Comparison × Expr) → Parse (List (Comparison × Expr))
  | 0, read => return read.reverse
  | fuel + 1, read => do
    match comparisonOf? (← lexeme) with
    | some op =>
      let _ ← next
      comparisons expr fuel ((op, ← sum expr) :: read)
    | none =>
      if ← isWord "not" then
        if (← look).lexeme.isName "in" then
          let _ ← next
          let _ ← next
          comparisons expr fuel ((.notIn, ← sum expr) :: read)
        else return read.reverse
      else return read.reverse

def comparison (expr : Parse Expr) : Parse Expr := do
  let first ← sum expr
  match ← comparisons expr (← budget) [] with
  | [] => return first
  | rest => return .compare first rest

def negation (expr : Parse Expr) : (fuel : Nat) → Parse Expr
  | 0 => comparison expr
  | fuel + 1 => do
    if ← skipWord "not" then return .negation (← negation expr fuel) else comparison expr

/-- Operands joined from the left by a word. -/
def joinedBy (word : String) (join : Expr → Expr → Expr) (operand : Parse Expr) :
    (fuel : Nat) → Expr → Parse Expr
  | 0, left => return left
  | fuel + 1, left => do
    if ← skipWord word then joinedBy word join operand fuel (join left (← operand))
    else return left

def conjunction (expr : Parse Expr) : Parse Expr := do
  let operand : Parse Expr := do negation expr (← budget)
  let first ← operand
  joinedBy "and" .both operand (← budget) first

def disjunction (expr : Parse Expr) : Parse Expr := do
  let first ← conjunction expr
  joinedBy "or" .either (conjunction expr) (← budget) first

/-- An expression with a condition behind it, and what holds otherwise. -/
def conditionals (expr : Parse Expr) : (fuel : Nat) → Expr → Nat → Parse Expr
  | 0, e, _ => return e
  | fuel + 1, e, line => do
    if ← skipWord "if" then
      let condition ← disjunction expr
      let otherwise ← if ← skipWord "else" then some <$> expr else pure none
      let next ← Parse.line
      conditionals expr fuel (.conditional condition e otherwise line) next
    else return e

/-- An expression that nests at most so deep. -/
def expression : (depth : Nat) → Parse Expr
  | 0 => do fail (← line) "expression nested too deeply"
  | depth + 1 => do
    let line ← line
    let e ← disjunction (expression depth)
    conditionals (expression depth) (← budget) e line

/-- An expression with no condition behind it. -/
def unconditional (depth : Nat) : Parse Expr := disjunction (expression depth)

end Parse

end ShaderBundle.Template
