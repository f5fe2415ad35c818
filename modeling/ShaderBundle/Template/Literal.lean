import ShaderBundle.Json.Reader
import ShaderBundle.Text.Identifier
import ShaderBundle.Text.WordChar

/-!
# Literals in tags

Numbers, names and quoted texts in the tags of a template. Digits may be grouped by single low lines. A
quoted text holds backslash escapes.
-/

namespace ShaderBundle.Template

/-! ## Numbers -/

/-- Digits of a class, groups of them joined by single low lines. A low line counts only with a digit
after it. -/
def groupedDigits (isDigit : Char → Bool) : List Char → List Char × List Char
  | [] => ([], [])
  | c :: rest =>
    if isDigit c then
      let (ds, after) := groupedDigits isDigit rest
      (c :: ds, after)
    else ([], c :: rest)

/-- Digit groups: digits, and again digits after each low line. The low lines are left out. -/
def digitGroups (isDigit : Char → Bool) : (fuel : Nat) → List Char → List Char × List Char
  | 0, cs => ([], cs)
  | fuel + 1, cs =>
    match groupedDigits isDigit cs with
    | ([], _) => ([], cs)
    | (ds, '_' :: rest) =>
      match digitGroups isDigit fuel rest with
      | ([], _) => (ds, '_' :: rest)
      | (more, after) => (ds ++ more, after)
    | found => found

def decimalGroups (cs : List Char) : List Char × List Char :=
  digitGroups Char.isDigit (cs.length + 1) cs

/-- The exponent at the start: its sign, its digits, and what follows. -/
def exponentAt? : List Char → Option (Bool × List Char × List Char)
  | e :: rest =>
    if e = 'e' ∨ e = 'E' then
      let (negative, rest) :=
        match rest with
        | '-' :: rest => (true, rest)
        | '+' :: rest => (false, rest)
        | _ => (false, rest)
      match decimalGroups rest with
      | ([], _) => none
      | (ds, rest) => some (negative, ds, rest)
    else none
  | [] => none

/-- The fraction at the start: its digits, and what follows. -/
def fractionAt? : List Char → Option (List Char × List Char)
  | '.' :: rest =>
    match decimalGroups rest with
    | ([], _) => none
    | found => some found
  | _ => none

def realOf (whole fraction : List Char) (exponent : Int) : Float :=
  Binary64.ofDecimal false (Json.digitsValue (whole ++ fraction)) (exponent - fraction.length)

/-- A floating-point number: digits with a fraction, an exponent, or both. -/
def realAt? (cs : List Char) : Option (Float × List Char) :=
  match decimalGroups cs with
  | ([], _) => none
  | (whole, rest) =>
    let exponent (fraction rest : List Char) : Option (Float × List Char) :=
      (exponentAt? rest).map fun (negative, ds, rest) =>
        let e : Int := Json.digitsValue ds
        (realOf whole fraction (if negative then -e else e), rest)
    match fractionAt? rest with
    | some (fraction, rest) => some ((exponent fraction rest).getD (realOf whole fraction 0, rest))
    | none => exponent [] rest

/-- The number that digits of a base up to sixteen stand for. -/
def valueInBase (base : Nat) (ds : List Char) : Nat :=
  ds.foldl (fun n d => n * base + (Text.hexValue? d).getD 0) 0

/-- Digits of a base after its letter; a low line may come first. -/
def basedAt? (base : Nat) (isDigit : Char → Bool) (rest : List Char) : Option (Nat × List Char) :=
  let rest' := match rest with
    | '_' :: more => more
    | _ => rest
  match digitGroups isDigit (rest.length + 1) rest' with
  | ([], _) => none
  | (ds, rest) => some (valueInBase base ds, rest)

/-- A whole number: in base two, eight or sixteen after a zero and a letter, or in base ten without a
leading zero, or zeros alone. -/
def integerAt? (cs : List Char) : Option (Nat × List Char) :=
  match cs with
  | '0' :: rest =>
    let based : Option (Nat × List Char) :=
      match rest with
      | 'b' :: rest | 'B' :: rest => basedAt? 2 (fun c => c == '0' || c == '1') rest
      | 'o' :: rest | 'O' :: rest => basedAt? 8 (fun c => '0' ≤ c && c ≤ '7') rest
      | 'x' :: rest | 'X' :: rest => basedAt? 16 (fun c => (Text.hexValue? c).isSome) rest
      | _ => none
    match based with
    | some found => some found
    | none => some (0, (digitGroups (· == '0') (cs.length + 1) cs).2)
  | _ =>
    match decimalGroups cs with
    | ([], _) => none
    | (ds, rest) => some (Json.digitsValue ds, rest)

/-! ## Names -/

def isNameChar (c : Char) : Bool := Text.isWordChar c || Text.isIdentifierContinue c

/-! ## Quoted texts -/

/-- What stands between a quote and the next of its kind that no backslash precedes, and what follows
that one. -/
def quotedAt? (mark : Char) : List Char → Option (List Char × List Char)
  | [] => none
  | '\\' :: c :: rest => (quotedAt? mark rest).map fun (body, rest) => ('\\' :: c :: body, rest)
  | c :: rest =>
    if c = mark then some ([], rest)
    else if c = '\\' then none
    else (quotedAt? mark rest).map fun (body, rest) => (c :: body, rest)

/-- A character beyond ASCII spelled as an escape without its backslash. -/
def spelled (c : Char) : List Char :=
  if c.toNat < 0x100 then 'x' :: Text.hexDigits 2 c.toNat
  else if c.toNat < 0x10000 then 'u' :: Text.hexDigits 4 c.toNat
  else 'U' :: Text.hexDigits 8 c.toNat

def isOctal (c : Char) : Bool := '0' ≤ c && c ≤ '7'

/-- The character that a letter after a backslash stands for. -/
def simpleEscape? : Char → Option Char
  | '\\' => some '\\'
  | '\'' => some '\''
  | '"' => some '"'
  | 'a' => some '\x07'
  | 'b' => some '\x08'
  | 'f' => some '\x0c'
  | 'n' => some '\n'
  | 'r' => some '\r'
  | 't' => some '\t'
  | 'v' => some '\x0b'
  | _ => none

/-- An escape of so many hexadecimal digits: the number and what follows, or what is wrong. -/
def numericEscape (width : Nat) (letter : Char) (cs : List Char) :
    Except String (Char × List Char) :=
  let ds := cs.take width
  if ds.length = width ∧ ds.all fun d => (Text.hexValue? d).isSome then
    let code := valueInBase 16 ds
    if code < 0x110000 then .ok (Text.Utf8.charOf code, cs.drop width)
    else .error "illegal Unicode character"
  else
    let shape := String.ofList (letter :: List.replicate width 'X')
    .error s!"truncated \\{shape} escape"

/-- Undoes the escapes of a quoted text. A backslash that starts none stands for itself. -/
def unescape : (fuel : Nat) → List Char → Except String (List Char)
  | 0, _ => .ok []
  | _ + 1, [] => .ok []
  | fuel + 1, '\\' :: c :: rest =>
    let numeric (width : Nat) (letter : Char) : Except String (List Char) := do
      let (c, rest) ← numericEscape width letter rest
      return c :: (← unescape fuel rest)
    if c = '\n' then unescape fuel rest
    else if isOctal c then do
      let ds := (c :: rest.takeWhile isOctal).take 3
      return Char.ofNat (valueInBase 8 ds) :: (← unescape fuel ((c :: rest).drop ds.length))
    else if c = 'x' then numeric 2 'x'
    else if c = 'u' then numeric 4 'u'
    else if c = 'U' then numeric 8 'U'
    else if c = 'N' then
      match rest with
      | '{' :: _ => .error "unknown Unicode character name"
      | _ => .error "malformed \\N character escape"
    else
      match simpleEscape? c with
      | some e => return e :: (← unescape fuel rest)
      | none =>
        if c.toNat < 128 then return '\\' :: c :: (← unescape fuel rest)
        else return '\\' :: spelled c ++ (← unescape fuel rest)
  | fuel + 1, c :: rest => do return c :: (← unescape fuel rest)

def unescapeText (cs : List Char) : Except String String :=
  String.ofList <$> unescape (cs.length + 1) cs

end ShaderBundle.Template
