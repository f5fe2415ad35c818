import ShaderBundle.Template.Arithmetic
import ShaderBundle.Text.LetterCase

/-!
# Parts and functions of values

Subscripts, slices, members and calls. A part that is not there is an undefined value, not an error; a slice
of something that has none is an error.
-/

namespace ShaderBundle.Template

namespace Value

/-! ## Parts that are not there -/

def noElement (of index : Value) : Eval Value := do
  return .undefined s!"{of.kind} has no element {← index.display}"

def noMember (of : Value) (word : String) : Value :=
  .undefined s!"{Text.display of.kind} has no attribute {Text.display word}"

/-! ## Members -/

/-- The functions of a text that can be called. -/
def textMethods : List String :=
  ["upper", "lower", "strip", "lstrip", "rstrip", "replace", "split", "startswith", "endswith",
   "count", "find", "join"]

def hasMethod : Value → String → Bool
  | .text _, word => textMethods.contains word
  | .dict _, word => ["items", "keys", "values", "get"].contains word
  | .loop .., word => word == "cycle"
  | _, _ => false

/-- What a loop tells about itself. -/
def loopMember? (index : Nat) (items : List Value) (word : String) : Option Value :=
  let number (n : Int) : Option Value := some (.integer n)
  let beyond (what : String) (i : Nat) : Option Value :=
    some (items[i]?.getD (.undefined s!"there is no {what} item"))
  match word with
  | "index" => number (index + 1)
  | "index0" => number index
  | "revindex" => number (items.length - index)
  | "revindex0" => number (items.length - index - 1)
  | "length" => number items.length
  | "first" => some (.bool (index == 0))
  | "last" => some (.bool (index + 1 == items.length))
  | "depth" => number 1
  | "depth0" => number 0
  | "previtem" => if index = 0 then beyond "previous" items.length else beyond "previous" (index - 1)
  | "nextitem" => beyond "next" (index + 1)
  | _ => Option.none

/-- The member of that name which the kind of the value brings with it. -/
def ownMember? (of : Value) (word : String) : Option Value :=
  match of with
  | .loop index items =>
    match loopMember? index items word with
    | some v => some v
    | Option.none => if hasMethod of word then some (.method of word) else Option.none
  | .range start stop step =>
    match word with
    | "start" => some (.integer start)
    | "stop" => some (.integer stop)
    | "step" => some (.integer step)
    | _ => Option.none
  | _ => if hasMethod of word then some (.method of word) else Option.none

/-- The value of a key. -/
def entry? (key : Value) : List (Value × Value) → Eval (Option Value)
  | [] => .ok Option.none
  | (k, v) :: rest => do if ← equals k key then return some v else entry? key rest

/-- The value behind a dot. -/
def member (of : Value) (word : String) : Eval Value :=
  match of, ownMember? of word with
  | .undefined message, _ => .error (.undefined message)
  | _, some v => .ok v
  | .dict pairs, Option.none => do
    return (← entry? (.text word) pairs).getD (noMember of word)
  | _, Option.none => .ok (noMember of word)

/-! ## Subscripts -/

/-- A place counted from the start, or from the end below zero. -/
def place? (length : Nat) (i : Int) : Option Nat :=
  let i := if i < 0 then i + length else i
  if 0 ≤ i ∧ i < length then some i.toNat else Option.none

def itemAt? (of : Value) (i : Int) : Option Value :=
  match of with
  | .text s => (place? s.length i).bind fun p => (characters s)[p]?
  | .list items => (place? items.length i).bind fun p => items[p]?
  | .tuple items => (place? items.length i).bind fun p => items[p]?
  | .range start stop step =>
    (place? (rangeLength start stop step) i).map (rangeItem start step)
  | _ => Option.none

/-- What a subscript gives when the value has no such element: a member of that name, or nothing. -/
def memberOrElement (of index : Value) : Eval Value :=
  match index with
  | .text word =>
    match ownMember? of word with
    | some v => .ok v
    | Option.none => .ok (noMember of word)
  | _ => noElement of index

def subscript (of index : Value) : Eval Value :=
  match of with
  | .undefined message => .error (.undefined message)
  | .dict pairs => do
    match needKey index with
    | .error (.undefined message) => .error (.undefined message)
    | .error _ => noElement of index
    | .ok () =>
      match ← entry? index pairs with
      | some v => return v
      | Option.none => memberOrElement of index
  | _ =>
    match index.whole?.bind (itemAt? of) with
    | some v => .ok v
    | Option.none => memberOrElement of index

/-! ## Slices -/

/-- A bound of a slice: a whole number, or none. -/
def bound : Option Value → Eval (Option Int)
  | Option.none | some .none => .ok Option.none
  | some v =>
    match v.whole? with
    | some n => .ok (some n)
    | Option.none =>
      wrongType "slice indices must be integers or None or have an __index__ method"

/-- The places of a slice: first, end and step, the first and the end kept within the row. -/
def sliceBounds (length : Nat) (start stop step : Option Int) : Eval (Int × Int × Int) :=
  let step := step.getD 1
  if step = 0 then badValue "slice step cannot be zero"
  else
    let n : Int := length
    let (least, most) : Int × Int := if step < 0 then (-1, n - 1) else (0, n)
    let clip (i : Int) : Int := max least (min most (if i < 0 then i + n else i))
    let (first, last) : Int × Int := if step < 0 then (most, least) else (least, most)
    .ok ((start.map clip).getD first, (stop.map clip).getD last, step)

def pick {α : Type} (items : List α) (start stop step : Int) : List α :=
  (List.range (rangeLength start stop step)).filterMap fun (i : Nat) =>
    items[(start + step * i).toNat]?

def slice (of : Value) (start stop step : Option Value) : Eval Value := do
  let bounds (length : Nat) : Eval (Int × Int × Int) := do
    -- the step is looked at first
    let step ← bound step
    let start ← bound start
    let stop ← bound stop
    sliceBounds length start stop step
  match of with
  | .undefined message => .error (.undefined message)
  | .text s =>
    let (start, stop, step) ← bounds s.length
    return .text (String.ofList (pick s.toList start stop step))
  | .list items =>
    let (start, stop, step) ← bounds items.length
    return .list (pick items start stop step)
  | .tuple items =>
    let (start, stop, step) ← bounds items.length
    return .tuple (pick items start stop step)
  | .range first last by_ =>
    let (start, stop, step) ← bounds (rangeLength first last by_)
    return .range (first + by_ * start) (first + by_ * stop) (by_ * step)
  | .dict _ => wrongType "unhashable type: 'slice'"
  | v => wrongType s!"'{v.typeName}' object is not subscriptable"

/-! ## Calls -/

/-- The arguments of a call: in order, and by name. -/
structure Args where
  placed : List Value := []
  named : List (String × Value) := []

def notInteger {α : Type} (v : Value) : Eval α :=
  wrongType s!"'{v.typeName}' object cannot be interpreted as an integer"

def needWhole (v : Value) : Eval Int :=
  match v.whole? with
  | some n => .ok n
  | Option.none => notInteger v

def callRange (args : Args) : Eval Value := do
  if !args.named.isEmpty then wrongType "range() takes no keyword arguments"
  else
    match args.placed with
    | [] => wrongType "range expected at least 1 argument, got 0"
    | [stop] => return .range 0 (← needWhole stop) 1
    | [start, stop] => return .range (← needWhole start) (← needWhole stop) 1
    | [start, stop, step] =>
      let start ← needWhole start
      let stop ← needWhole stop
      let step ← needWhole step
      if step = 0 then badValue "range() arg 3 must not be zero" else return .range start stop step
    | more => wrongType s!"range expected at most 3 arguments, got {more.length}"

/-- Checks how many arguments a function is given. -/
def arity (word : String) (least most : Nat) (args : Args) : Eval Unit :=
  let n := args.placed.length
  let noun (n : Nat) := if n = 1 then "argument" else "arguments"
  if !args.named.isEmpty then wrongType s!"str.{word}() takes no keyword arguments"
  else if least ≤ n ∧ n ≤ most then .ok ()
  else if most = 0 then wrongType s!"str.{word}() takes no arguments ({n} given)"
  else if least = most then
    let count := if most = 1 then "one" else toString most
    wrongType s!"str.{word}() takes exactly {count} {noun most} ({n} given)"
  else if n < least then wrongType s!"{word} expected at least {least} {noun least}, got {n}"
  else wrongType s!"{word} expected at most {most} {noun most}, got {n}"

def stripBy (isStripped : Char → Bool) (atStart atEnd : Bool) (cs : List Char) : List Char :=
  let cs := if atStart then cs.dropWhile isStripped else cs
  if atEnd then (cs.reverse.dropWhile isStripped).reverse else cs

/-- Takes blanks, or the given characters, off a text. -/
def strip (word s : String) (chars : Value) : Eval Value :=
  let atStart := word != "rstrip"
  let atEnd := word != "lstrip"
  match chars with
  | .none => .ok (.text (String.ofList (stripBy Text.isBlank atStart atEnd s.toList)))
  | .text set =>
    let set := set.toList
    .ok (.text (String.ofList (stripBy set.contains atStart atEnd s.toList)))
  | _ => wrongType s!"{word} arg must be None or str"

/-- The limit that a count below zero stands for none of. -/
def limitOf (v : Value) : Eval (Option Nat) := do
  let n ← needWhole v
  return if n < 0 then Option.none else some n.toNat

def needText (rule : String) (v : Value) : Eval String :=
  match v with
  | .text s => .ok s
  | _ => wrongType s!"{rule}, not {v.typeName}"

def needAffix (word : String) (v : Value) : Eval String :=
  needText s!"{word} first arg must be str or a tuple of str" v

/-- What texts are joined from. -/
def joinable (v : Value) : Eval (List Value) :=
  match v with
  | .undefined message => .error (.undefined message)
  | .text _ | .list _ | .tuple _ | .dict _ | .range .. | .template _ => v.iterate
  | _ => wrongType "can only join an iterable"

/-- Splits at a separator, at most so many times. -/
def splitBy (separator : List Char) : (fuel : Nat) → (limit : Nat) → List Char → List (List Char)
  | 0, _, cs => [cs]
  | fuel + 1, limit, cs =>
    if limit = 0 then [cs]
    else
      match Text.cut separator cs with
      | some (before, after) => before :: splitBy separator fuel (limit - 1) after
      | Option.none => [cs]

def joinTexts (separator : String) (items : List Value) : (index : Nat) → Eval (List String)
  | index =>
    match items with
    | [] => .ok []
    | .text s :: rest => do return s :: (← joinTexts separator rest (index + 1))
    | v :: _ => wrongType s!"sequence item {index}: expected str instance, {v.typeName} found"

def callTextMethod (s word : String) (args : Args) : Eval Value := do
  let cs := s.toList
  match word, args.placed with
  | "upper", _ =>
    arity word 0 0 args
    return .text (Text.upper s)
  | "lower", _ =>
    arity word 0 0 args
    return .text (Text.lower s)
  | "replace", placed =>
    arity word 2 3 args
    let old ← needText "replace() argument 1 must be str" (placed[0]?.getD .none)
    let new ← needText "replace() argument 2 must be str" (placed[1]?.getD .none)
    let limit ← limitOf (placed[2]?.getD (.integer (-1)))
    return .text (String.ofList (Text.replace old.toList new.toList limit cs))
  | "split", placed =>
    arity word 0 2 args
    let limit := (← limitOf (placed[1]?.getD (.integer (-1)))).getD (cs.length + 1)
    match placed[0]?.getD .none with
    | .none => return .list ((Text.words s).map .text)
    | separator =>
      let separator ← match separator with
        | .text separator => pure separator
        | v => wrongType s!"must be str or None, not {v.typeName}"
      if separator = "" then badValue "empty separator"
      else
        let parts := splitBy separator.toList (cs.length + 1) limit cs
        return .list (parts.map fun part => .text (String.ofList part))
  | "startswith", placed =>
    arity word 1 1 args
    let start ← needAffix "startswith" (placed[0]?.getD .none)
    return .bool (start.toList.isPrefixOf cs)
  | "endswith", placed =>
    arity word 1 1 args
    let tail ← needAffix "endswith" (placed[0]?.getD .none)
    return .bool (tail.toList.isSuffixOf cs)
  | "count", placed =>
    arity word 1 1 args
    let needle ← needText "must be str" (placed[0]?.getD .none)
    return .integer (Text.count needle.toList cs)
  | "find", placed =>
    arity word 1 1 args
    let needle ← needText "must be str" (placed[0]?.getD .none)
    match Text.cut needle.toList cs with
    | some (before, _) => return .integer before.length
    | Option.none => return .integer (-1)
  | "join", placed =>
    arity word 1 1 args
    let items ← joinable (placed[0]?.getD .none)
    return .text (s.intercalate (← joinTexts s items 0))
  | word, placed =>
    arity word 0 1 args
    strip word s (placed[0]?.getD .none)

def callMethod (of : Value) (word : String) (args : Args) : Eval Value :=
  match of, word, args.placed with
  | .text s, _, _ => callTextMethod s word args
  | .loop index _, _, placed =>
    match placed[index % placed.length]? with
    | some v => .ok v
    | Option.none => wrongType "no items for cycling given"
  | .dict pairs, "items", _ => .ok (.list (pairs.map fun (k, v) => .tuple [k, v]))
  | .dict pairs, "keys", _ => .ok (.list (pairs.map (·.1)))
  | .dict pairs, "values", _ => .ok (.list (pairs.map (·.2)))
  | .dict pairs, "get", key :: rest => do
    needKey key
    return (← entry? key pairs).getD (rest.headD .none)
  | v, _, _ => wrongType s!"{v.typeName}.{word}() takes other arguments"

def call (of : Value) (args : Args) : Eval Value :=
  match of with
  | .undefined message => .error (.undefined message)
  | .builtin "range" => callRange args
  | .builtin "dict" => .ok (.dict (args.named.map fun (k, v) => (.text k, v)))
  | .method of word => callMethod of word args
  | v => wrongType s!"'{v.typeName}' object is not callable"

/-! ## Filters -/

/-- What a filter or a test gets besides the value: its parameters in order, each with the value it has when
it is left out. -/
structure Shape where
  function : String
  required : List String
  optional : List (String × Value)

/-- The last of several names is joined by "and". -/
def namesInWords (names : List String) : String :=
  let shown := names.map Text.display
  match shown.reverse with
  | [] => ""
  | [one] => one
  | [last, first] => first ++ " and " ++ last
  | last :: before => ", ".intercalate before.reverse ++ ", and " ++ last

/-- The arguments by their parameters; `extra` parameters come before them. -/
def Shape.bind (f : Shape) (extra : Nat) (args : Args) : Eval (List Value) :=
  let names := f.required ++ f.optional.map (·.1)
  let given := args.placed.length
  match args.named.find? fun (k, _) => !names.contains k with
  | some (k, _) => wrongType s!"{f.function}() got an unexpected keyword argument {Text.display k}"
  | Option.none =>
    if given > names.length then
      let most := names.length + extra
      let least := f.required.length + extra
      let count := if least = most then toString most else s!"from {least} to {most}"
      let noun := if most = 1 then "argument" else "arguments"
      wrongType
        s!"{f.function}() takes {count} positional {noun} but {given + extra} were given"
    else
      let missing := (f.required.drop given).filter fun k => (args.named.lookup k).isNone
      if missing.isEmpty then
        let values := names.mapIdx fun i k =>
          match args.placed[i]? with
          | some v => v
          | Option.none => (args.named.lookup k).getD ((f.optional.lookup k).getD .none)
        .ok values
      else
        let noun := if missing.length = 1 then "argument" else "arguments"
        wrongType (s!"{f.function}() missing {missing.length} required positional {noun}: " ++
          namesInWords missing)

/-- The names of the filters. -/
def filterNames : List String :=
  ["upper", "lower", "length", "count", "replace", "trim", "default", "d"]

def applyFilter (word : String) (v : Value) (args : Args) : Eval Value :=
  match word with
  | "upper" => do
    let _ ← Shape.bind ⟨"do_upper", [], []⟩ 1 args
    return .text (Text.upper (← v.plain))
  | "lower" => do
    let _ ← Shape.bind ⟨"do_lower", [], []⟩ 1 args
    return .text (Text.lower (← v.plain))
  | "length" | "count" =>
    if !args.named.isEmpty then wrongType "len() takes no keyword arguments"
    else if args.placed.isEmpty then do return .integer (← v.length)
    else wrongType s!"len() takes exactly one argument ({args.placed.length + 1} given)"
  | "replace" => do
    match ← Shape.bind ⟨"do_replace", ["old", "new"], [("count", .none)]⟩ 2 args with
    | [old, new, count] =>
      let limit ← match count with
        | .none => pure Option.none
        | count => do
          let _ ← needWhole count
          limitOf count
      let s ← v.plain
      let old ← old.plain
      let new ← new.plain
      return .text (String.ofList (Text.replace old.toList new.toList limit s.toList))
    | _ => return v
  | "trim" => do
    match ← Shape.bind ⟨"do_trim", [], [("chars", .none)]⟩ 1 args with
    | [chars] => strip "strip" (← v.plain) chars
    | _ => return v
  | _ => do
    let shape : Shape :=
      ⟨"do_default", [], [("default_value", .text ""), ("boolean", .bool false)]⟩
    match v, ← shape.bind 1 args with
    | .undefined _, otherwise :: _ => return otherwise
    | _, [otherwise, boolean] =>
      if ← boolean.truth then if ← v.truth then return v else return otherwise else return v
    | _, _ => return v

/-! ## Tests -/

def testNames : List String :=
  ["defined", "undefined", "none", "string", "number", "integer", "float", "boolean", "true",
   "false", "odd", "even"]

/-- Whether a value passes a test. -/
def passes (word : String) (v : Value) : Eval Bool :=
  match word, v with
  | "defined", .undefined _ => .ok false
  | "defined", _ => .ok true
  | "undefined", .undefined _ => .ok true
  | "none", .none => .ok true
  | "string", .text _ => .ok true
  | "number", .bool _ | "number", .integer _ | "number", .real _ => .ok true
  | "integer", .integer _ => .ok true
  | "float", .real _ => .ok true
  | "boolean", .bool _ => .ok true
  | "true", .bool b => .ok b
  | "false", .bool b => .ok !b
  | "odd", v => do compare .eq (← arithmetic .mod v (.integer 2)) (.integer 1)
  | "even", v => do compare .eq (← arithmetic .mod v (.integer 2)) (.integer 0)
  | _, _ => .ok false

/-- A test takes no arguments besides the value. -/
def applyTest (word : String) (v : Value) (args : Args) : Eval Bool := do
  let _ ← Shape.bind ⟨s!"test_{word}", [], []⟩ 1 args
  passes word v

end Value

end ShaderBundle.Template
