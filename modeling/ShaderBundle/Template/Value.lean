import ShaderBundle.Failure
import ShaderBundle.Template.Lexer
import ShaderBundle.Template.Node

/-!
# Values of expressions

What an expression of a template evaluates to. An undefined value is a value as long as nobody looks at it:
every use of it but a test for being defined stops the rendering.
-/

namespace ShaderBundle.Template

/-- Why a rendering stops. -/
inductive Stop
  /-- A template is not there. -/
  | missing
  | malformed (m : Malformed)
  | undefined (detail : String)
  | undecodable (detail : String)
  | crash (c : Crash)

abbrev Eval := Except Stop

def wrongType {α : Type} (text : String) : Eval α := .error (.crash (.wrongType text))

def badValue {α : Type} (text : String) : Eval α := .error (.crash (.badValue text))

inductive Value
  /-- The message tells what is not defined. -/
  | undefined (message : String)
  | none
  | bool (b : Bool)
  | integer (n : Int)
  | real (x : Float)
  | text (s : String)
  | list (items : List Value)
  | tuple (items : List Value)
  | dict (pairs : List (Value × Value))
  | range (start stop step : Int)
  /-- A function of a value, not called yet. -/
  | method (of : Value) (word : String)
  /-- A function that every template knows. -/
  | builtin (word : String)
  /-- The template itself, by its name. -/
  | template (name : String)
  /-- The place in a loop: its number from zero and all items. -/
  | loop (index : Nat) (items : List Value)

namespace Value

def typeName : Value → String
  | .undefined _ => "StrictUndefined"
  | .none => "NoneType"
  | .bool _ => "bool"
  | .integer _ => "int"
  | .real _ => "float"
  | .text _ => "str"
  | .list _ => "list"
  | .tuple _ => "tuple"
  | .dict _ => "dict"
  | .range .. => "range"
  | .method .. => "builtin_function_or_method"
  | .builtin "lipsum" => "function"
  | .builtin _ => "type"
  | .template _ => "TemplateReference"
  | .loop .. => "LoopContext"

/-- What a message about a missing part calls the value. -/
def kind : Value → String
  | .none => "None"
  | .loop .. => "jinja2.runtime.LoopContext object"
  | .template _ => "jinja2.runtime.TemplateReference object"
  | v => v.typeName ++ " object"

/-! ## Numbers -/

/-- A number: whole or floating-point. -/
inductive Number
  | whole (n : Int)
  | real (x : Float)

def number? : Value → Option Number
  | .bool b => some (.whole (if b then 1 else 0))
  | .integer n => some (.whole n)
  | .real x => some (.real x)
  | _ => Option.none

/-- A whole number where one is needed; truth values count as zero and one. -/
def whole? : Value → Option Int
  | .bool b => some (if b then 1 else 0)
  | .integer n => some n
  | _ => Option.none

/-- The text of a whole number of at most 4300 digits. -/
def integerText (n : Int) : Eval String :=
  if Go.isWritable n then .ok (toString n) else badValue integerTooLong

/-- How many numbers a range holds. -/
def rangeLength (start stop step : Int) : Nat :=
  if step > 0 then ((stop - start + step - 1) / step).toNat
  else ((start - stop - step - 1) / -step).toNat

def rangeItem (start step : Int) (i : Nat) : Value := .integer (start + step * i)

def rangeItems (start stop step : Int) : List Value :=
  (List.range (rangeLength start stop step)).map (rangeItem start step)

/-! ## Text of a value -/

/-- What a function that every template knows is shown as; where it is in memory is left out. -/
def builtinText : String → String
  | "cycler" => "<class 'jinja2.utils.Cycler'>"
  | "joiner" => "<class 'jinja2.utils.Joiner'>"
  | "namespace" => "<class 'jinja2.utils.Namespace'>"
  | "lipsum" => "<function generate_lorem_ipsum>"
  | word => s!"<class '{word}'>"

mutual

/-- The text of a value inside another one: texts are quoted. -/
def display : Value → Eval String
  | .undefined _ => .ok "Undefined"
  | .none => .ok "None"
  | .bool b => .ok (if b then "True" else "False")
  | .integer n => integerText n
  | .real x => .ok (floatText x)
  | .text s => .ok (Text.display s)
  | .list items => do return "[" ++ ", ".intercalate (← displayAll items) ++ "]"
  | .tuple items => do
    match ← displayAll items with
    | [one] => return "(" ++ one ++ ",)"
    | all => return "(" ++ ", ".intercalate all ++ ")"
  | .dict pairs => do return "\x7b" ++ ", ".intercalate (← displayPairs pairs) ++ "\x7d"
  | .range start stop step =>
    .ok (if step = 1 then s!"range({start}, {stop})" else s!"range({start}, {stop}, {step})")
  | .method of word => .ok s!"<built-in method {word} of {of.typeName} object>"
  | .builtin word => .ok (builtinText word)
  | .template name => .ok s!"<TemplateReference {Text.display name}>"
  | .loop index items => .ok s!"<LoopContext {index + 1}/{items.length}>"

def displayAll : List Value → Eval (List String)
  | [] => .ok []
  | v :: rest => do return (← display v) :: (← displayAll rest)

def displayPairs : List (Value × Value) → Eval (List String)
  | [] => .ok []
  | (k, v) :: rest => do
    let pair := (← display k) ++ ": " ++ (← display v)
    return pair :: (← displayPairs rest)

end

/-- The text of a value where it is printed. -/
def plain : Value → Eval String
  | .undefined message => .error (.undefined message)
  | .text s => .ok s
  | v => v.display

/-! ## Parts -/

def notIterable {α : Type} (v : Value) : Eval α :=
  wrongType s!"'{v.typeName}' object is not iterable"

def characters (s : String) : List Value := s.toList.map fun c => .text (String.ofList [c])

/-- A template has parts by name only, and none that is numbered. -/
def noPart {α : Type} : Eval α := .error (.crash (.badKey "0"))

/-- The items that a loop goes over. -/
def iterate : Value → Eval (List Value)
  | .undefined message => .error (.undefined message)
  | .text s => .ok (characters s)
  | .list items => .ok items
  | .tuple items => .ok items
  | .dict pairs => .ok (pairs.map (·.1))
  | .range start stop step => .ok (rangeItems start stop step)
  | .template _ => noPart
  | v => notIterable v

def length : Value → Eval Nat
  | .undefined message => .error (.undefined message)
  | .text s => .ok s.length
  | .list items => .ok items.length
  | .tuple items => .ok items.length
  | .dict pairs => .ok pairs.length
  | .range start stop step => .ok (rangeLength start stop step)
  | .loop _ items => .ok items.length
  | v => wrongType s!"object of type '{v.typeName}' has no len()"

/-- Whether a value counts as true. -/
def truth : Value → Eval Bool
  | .undefined message => .error (.undefined message)
  | .none => .ok false
  | .bool b => .ok b
  | .integer n => .ok (n != 0)
  | .real x => .ok (x != 0)
  | .text s => .ok (s != "")
  | .list items => .ok !items.isEmpty
  | .tuple items => .ok !items.isEmpty
  | .dict pairs => .ok !pairs.isEmpty
  | .range start stop step => .ok (rangeLength start stop step != 0)
  | .loop _ items => .ok !items.isEmpty
  | .method .. | .builtin _ | .template _ => .ok true

/-! ## Comparison -/

/-- A finite number as a quotient of whole numbers. -/
def Number.quotient? : Number → Option (Int × Nat)
  | .whole n => some (n, 1)
  | .real x =>
    match Binary64.ofFloat x with
    | .finite negative m q =>
      let m : Int := if negative then -m else m
      some (if q ≥ 0 then (m * Nat.pow 2 q.toNat, 1) else (m, Nat.pow 2 (-q).toNat))
    | _ => Option.none

/-- Which of two numbers is greater, unless one is no number. -/
def Number.compare? (a b : Number) : Option Ordering :=
  match a.quotient?, b.quotient? with
  | some (n, d), some (m, e) => some (Ord.compare (n * e) (m * d))
  | _, _ =>
    let real : Number → Float
      | .real x => x
      | .whole _ => 0
    let (x, y) := (real a, real b)
    if x < y then some .lt else if x > y then some .gt else if x == y then some .eq
    else Option.none

def numberEquals (a : Number) (b : Option Number) : Bool :=
  match b with
  | some b => a.compare? b == some .eq
  | Option.none => false

def rangeItemsEqual (a b c d e f : Int) : Bool :=
  let n := rangeLength a b c
  n == rangeLength d e f && (n == 0 || a == d && (n == 1 || c == f))

mutual

/-- Whether two values are equal. -/
def equals : Value → Value → Eval Bool
  | .undefined message, _ => .error (.undefined message)
  | _, .undefined message => .error (.undefined message)
  | .none, .none => .ok true
  | .text a, .text b => .ok (a == b)
  | .list a, .list b => if a.length = b.length then equalsAll a b else .ok false
  | .tuple a, .tuple b => if a.length = b.length then equalsAll a b else .ok false
  | .dict a, .dict b => if a.length = b.length then equalsPairs a b else .ok false
  | .range a b c, .range d e f => .ok (rangeItemsEqual a b c d e f)
  | .builtin a, .builtin b => .ok (a == b)
  | .template a, .template b => .ok (a == b)
  | .bool a, w => .ok (numberEquals (.whole (if a then 1 else 0)) w.number?)
  | .integer a, w => .ok (numberEquals (.whole a) w.number?)
  | .real a, w => .ok (numberEquals (.real a) w.number?)
  | _, _ => .ok false

def equalsAll : List Value → List Value → Eval Bool
  | a :: as, b :: bs => do if ← equals a b then equalsAll as bs else return false
  | _, _ => .ok true

def equalsPairs : List (Value × Value) → List (Value × Value) → Eval Bool
  | (.text k, v) :: rest, other =>
    match other.find? fun (k', _) => match k' with
        | .text s => s == k
        | _ => false with
    | some (_, w) => do if ← equals v w then equalsPairs rest other else return false
    | Option.none => .ok false
  | _ :: _, _ => .ok false
  | [], _ => .ok true

end

/-- The sign that a message shows for an order. -/
def orderSign : Comparison → String
  | .lt => "<"
  | .le => "<="
  | .gt => ">"
  | _ => ">="

def orderHolds (op : Comparison) (o : Ordering) : Bool :=
  match op with
  | .lt => o == .lt
  | .le => o != .gt
  | .gt => o == .gt
  | _ => o != .lt

mutual

/-- Whether an order holds between two values. -/
def ordered (op : Comparison) : Value → Value → Eval Bool
  | .undefined message, _ => .error (.undefined message)
  | _, .undefined message => .error (.undefined message)
  | .text a, .text b => .ok (orderHolds op (compareOfLessAndEq a b))
  | .list a, .list b => orderedAll op a b
  | .tuple a, .tuple b => orderedAll op a b
  | a, b =>
    match a.number?, b.number? with
    | some x, some y => .ok (((x.compare? y).map (orderHolds op)).getD false)
    | _, _ =>
      wrongType s!"'{orderSign op}' not supported between instances of '{a.typeName}' and '{b.typeName}'"

/-- Two lists are in the order of the first items that differ, or of their lengths. -/
def orderedAll (op : Comparison) : List Value → List Value → Eval Bool
  | [], [] => .ok (orderHolds op .eq)
  | [], _ :: _ => .ok (orderHolds op .lt)
  | _ :: _, [] => .ok (orderHolds op .gt)
  | a :: as, b :: bs => do if ← equals a b then orderedAll op as bs else ordered op a b

end

/-! ## Keys -/

mutual

/-- Lists and dictionaries, and what holds one, are no keys. -/
def needKey : Value → Eval Unit
  | .undefined message => .error (.undefined message)
  | .list _ => wrongType "unhashable type: 'list'"
  | .dict _ => wrongType "unhashable type: 'dict'"
  | .tuple items => needKeys items
  | _ => .ok ()

def needKeys : List Value → Eval Unit
  | [] => .ok ()
  | v :: rest => do
    needKey v
    needKeys rest

end

/-! ## Membership -/

def containsEqual (v : Value) : List Value → Eval Bool
  | [] => .ok false
  | w :: rest => do if ← equals w v then return true else containsEqual v rest

/-- Whether a value is in another one. -/
def isIn (v : Value) : Value → Eval Bool
  | .undefined message => .error (.undefined message)
  | .text s =>
    match v with
    | .text t => .ok (Text.contains t.toList s.toList)
    | _ => wrongType s!"'in <string>' requires string as left operand, not {v.typeName}"
  | .list items => containsEqual v items
  | .tuple items => containsEqual v items
  | .dict pairs => do
    needKey v
    containsEqual v (pairs.map (·.1))
  | .range start stop step => containsEqual v (rangeItems start stop step)
  | .template _ => noPart
  | w => wrongType s!"argument of type '{w.typeName}' is not iterable"

def compare (op : Comparison) (a b : Value) : Eval Bool :=
  match op with
  | .eq => equals a b
  | .ne => do return !(← equals a b)
  | .isIn => a.isIn b
  | .notIn => do return !(← a.isIn b)
  | op => ordered op a b

end Value

end ShaderBundle.Template
