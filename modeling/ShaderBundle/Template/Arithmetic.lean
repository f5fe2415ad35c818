import ShaderBundle.Template.Value

/-!
# Arithmetic in expressions

Whole numbers are exact and unbounded; division of them gives a floating-point number. Quotients and
remainders go to the floor. Texts and lists can be joined and repeated, and a text on the left of `%` is a
format.
-/

namespace ShaderBundle.Template

namespace Arithmetic

def sign : Arithmetic → String
  | .add => "+"
  | .sub => "-"
  | .mul => "*"
  | .div => "/"
  | .floorDiv => "//"
  | .mod => "%"
  | .pow => "** or pow()"

end Arithmetic

namespace Value

def divisionByZero {α : Type} (text : String) : Eval α := .error (.crash (.divisionByZero text))

def overflow {α : Type} (text : String) : Eval α := .error (.crash (.overflow text))

/-! ## Floating-point numbers -/

/-- A number as a floating-point one. -/
def Number.toReal : Number → Eval Float
  | .real x => .ok x
  | .whole n =>
    match Binary64.ofInt? n with
    | some x => .ok x
    | Option.none => overflow "int too large to convert to float"

/-- The remainder of a division towards zero, exactly; it has the sign of the dividend. -/
def remainderToZero (x y : Float) : Float :=
  match Binary64.ofFloat x, Binary64.ofFloat y with
  | .finite negative m q, .finite _ n p =>
    if n = 0 then 0 / 0
    else
      let e := min q p
      let r := (m * Nat.pow 2 (q - e).toNat) % (n * Nat.pow 2 (p - e).toNat)
      if e ≥ 0 then Binary64.nearest negative (r * Nat.pow 2 e.toNat) 1
      else Binary64.nearest negative r (Nat.pow 2 (-e).toNat)
  | .finite .., .infinite _ => x
  | _, _ => 0 / 0

/-- A zero with the sign of `y`. -/
def zeroLike (y : Float) : Float := if y.toBits.toNat ≥ Nat.pow 2 63 then -0.0 else 0.0

/-- Quotient to the floor and remainder with the sign of the divisor. -/
def floorDivide (x y : Float) : Float × Float :=
  let r := remainderToZero x y
  let q := (x - r) / y
  let (q, r) :=
    if r != 0 then if (y < 0) != (r < 0) then (q - 1, r + y) else (q, r) else (q, zeroLike y)
  let q :=
    if q != 0 then
      let f := q.floor
      if q - f > 0.5 then f + 1 else f
    else zeroLike (x / y)
  (q, r)

def realPower (x y : Float) : Eval Value :=
  if x == 0 && y < 0 then divisionByZero "0.0 cannot be raised to a negative power"
  else if x < 0 && y != y.floor then badValue "a negative number has no real root here"
  else
    let z := Float.pow x y
    if z.isInf && !x.isInf && !y.isInf then overflow "(34, 'Numerical result out of range')"
    else .ok (.real z)

def realArithmetic (op : Arithmetic) (x y : Float) : Eval Value :=
  match op with
  | .add => .ok (.real (x + y))
  | .sub => .ok (.real (x - y))
  | .mul => .ok (.real (x * y))
  | .div => if y == 0 then divisionByZero "float division by zero" else .ok (.real (x / y))
  | .floorDiv =>
    if y == 0 then divisionByZero "float floor division by zero"
    else .ok (.real (floorDivide x y).1)
  | .mod =>
    if y == 0 then divisionByZero "float modulo" else .ok (.real (floorDivide x y).2)
  | .pow => realPower x y

/-! ## Whole numbers -/

/-- The quotient of two whole numbers, to the nearest floating-point number. -/
def wholeQuotient (a b : Int) : Eval Value :=
  match Binary64.nearest? (decide (a < 0) != decide (b < 0)) a.natAbs b.natAbs with
  | some x => .ok (.real (if a = 0 then 0.0 else x))
  | Option.none => overflow "integer division result too large for a float"

def wholeArithmetic (op : Arithmetic) (a b : Int) : Eval Value :=
  match op with
  | .add => .ok (.integer (a + b))
  | .sub => .ok (.integer (a - b))
  | .mul => .ok (.integer (a * b))
  | .div => if b = 0 then divisionByZero "division by zero" else wholeQuotient a b
  | .floorDiv =>
    if b = 0 then divisionByZero "integer division or modulo by zero"
    else .ok (.integer (Int.fdiv a b))
  | .mod =>
    if b = 0 then divisionByZero "integer modulo by zero" else .ok (.integer (Int.fmod a b))
  | .pow =>
    if b ≥ 0 then .ok (.integer (a.pow b.toNat))
    else do realPower (← Number.toReal (.whole a)) (← Number.toReal (.whole b))

def numberArithmetic (op : Arithmetic) : Number → Number → Eval Value
  | .whole a, .whole b => wholeArithmetic op a b
  | a, b => do realArithmetic op (← a.toReal) (← b.toReal)

/-! ## Texts and lists -/

def repeated {α : Type} (n : Int) (items : List α) : List α :=
  (List.replicate n.toNat items).flatten

/-- Whether a value is a row of items that can be repeated. -/
def isSequence : Value → Bool
  | .text _ | .list _ | .tuple _ => true
  | _ => false

def repeatSequence (n : Int) : Value → Value
  | .text s => .text (String.ofList (repeated n s.toList))
  | .list items => .list (repeated n items)
  | .tuple items => .tuple (repeated n items)
  | v => v

/-- Fills the places of a format with values, in order; `used` says whether all of them have to be. -/
def formatFrom (mustUseAll : Bool) : (position : Nat) → List Char → List Value → Eval (List Char)
  | _, [], [] => .ok []
  | _, [], _ :: _ =>
    if mustUseAll then wrongType "not all arguments converted during string formatting" else .ok []
  | position, '%' :: c :: rest, args =>
    if c = '%' then do return '%' :: (← formatFrom mustUseAll (position + 2) rest args)
    else if c = 's' ∨ c = 'd' then
      match args with
      | [] => wrongType "not enough arguments for format string"
      | v :: args => do
        let shown ←
          if c = 's' then v.plain
          else
            match v.number? with
            | some (.whole n) => integerText n
            | some (.real x) => integerText (x.toInt64.toInt)
            | Option.none =>
              wrongType s!"%d format: a real number is required, not {v.typeName}"
        return shown.toList ++ (← formatFrom mustUseAll (position + 2) rest args)
    else
      badValue (s!"unsupported format character '{c}' (0x{String.ofList (Nat.toDigits 16 c.toNat)}) " ++
        s!"at index {position + 1}")
  | _, ['%'], _ => badValue "incomplete format"
  | position, c :: rest, args => do return c :: (← formatFrom mustUseAll (position + 1) rest args)

def format (s : String) (v : Value) : Eval Value := do
  let (args, mustUseAll) : List Value × Bool :=
    match v with
    | .tuple items => (items, true)
    | .list _ | .dict _ | .range .. | .undefined _ => ([v], false)
    | _ => ([v], true)
  return .text (String.ofList (← formatFrom mustUseAll 0 s.toList args))

/-! ## Operations on values -/

def unsupported (op : Arithmetic) (a b : Value) : Eval Value :=
  wrongType s!"unsupported operand type(s) for {op.sign}: '{a.typeName}' and '{b.typeName}'"

/-- What joining something else to a row of items is answered with. -/
def notJoined (a b : Value) : Eval Value :=
  wrongType s!"can only concatenate {a.typeName} (not \"{b.typeName}\") to {a.typeName}"

def sequenceArithmetic (op : Arithmetic) (a b : Value) : Eval Value :=
  match op with
  | .add =>
    match a, b with
    | .text s, .text t => .ok (.text (s ++ t))
    | .list xs, .list ys => .ok (.list (xs ++ ys))
    | .tuple xs, .tuple ys => .ok (.tuple (xs ++ ys))
    | _, _ => if a.isSequence then notJoined a b else unsupported op a b
  | .mul =>
    if a.isSequence then
      match b.whole? with
      | some n => .ok (repeatSequence n a)
      | Option.none => wrongType s!"can't multiply sequence by non-int of type '{b.typeName}'"
    else if b.isSequence then
      match a.whole? with
      | some n => .ok (repeatSequence n b)
      | Option.none => wrongType s!"can't multiply sequence by non-int of type '{a.typeName}'"
    else unsupported op a b
  | .mod =>
    match a with
    | .text s => format s b
    | _ => unsupported op a b
  | op => unsupported op a b

/-- Whether the operation is the filling of a format, which looks at its argument only where needed. -/
def isFormat (op : Arithmetic) : Value → Bool
  | .text _ => op == .mod
  | _ => false

def arithmetic (op : Arithmetic) (a b : Value) : Eval Value :=
  match a, b with
  | .undefined message, _ => .error (.undefined message)
  | _, .undefined message =>
    if isFormat op a then sequenceArithmetic op a b else .error (.undefined message)
  | _, _ =>
    match a.number?, b.number? with
    | some x, some y => numberArithmetic op x y
    | _, _ => sequenceArithmetic op a b

/-- A number with its sign turned, or kept. -/
def signed (sign : String) (whole : Int → Int) (real : Float → Float) (v : Value) : Eval Value :=
  match v, v.number? with
  | .undefined message, _ => .error (.undefined message)
  | _, some (.whole n) => .ok (.integer (whole n))
  | _, some (.real x) => .ok (.real (real x))
  | _, Option.none => wrongType s!"bad operand type for unary {sign}: '{v.typeName}'"

def negative (v : Value) : Eval Value := signed "-" (fun n => -n) (fun x => -x) v

def positive (v : Value) : Eval Value := signed "+" id id v

end Value

end ShaderBundle.Template
