import ShaderBundle.Json.Value
import ShaderBundle.Text.Encoding
import ShaderBundle.Text.Hexadecimal

/-!
# Reading documents

A document is read from text, or from bytes in any of the five usual encodings. A reader that
refuses its input names the problem and the place, counted in characters from the start of the
text. Besides the standard's numbers there are `NaN`, `Infinity` and `-Infinity`; of equal keys in an
object the last value counts; a whole number has at most 4300 digits.
-/

namespace ShaderBundle.Json

inductive Problem
  | expectedValue
  | expectedName
  | expectedColon
  | expectedComma
  | extraData
  | unterminatedText
  | controlCharacter
  | badEscape
  | badUnicodeEscape
  | byteOrderMark
  deriving Repr, DecidableEq

def Problem.message : Problem → String
  | .expectedValue => "Expecting value"
  | .expectedName => "Expecting property name enclosed in double quotes"
  | .expectedColon => "Expecting ':' delimiter"
  | .expectedComma => "Expecting ',' delimiter"
  | .extraData => "Extra data"
  | .unterminatedText => "Unterminated string starting at"
  | .controlCharacter => "Invalid control character at"
  | .badEscape => "Invalid \\escape"
  | .badUnicodeEscape => "Invalid \\uXXXX escape"
  | .byteOrderMark => "Unexpected UTF-8 BOM (decode using utf-8-sig)"

inductive ReadFault
  | malformed (problem : Problem) (offset : Nat)
  | tooManyDigits (count : Nat)
  | undecodable (fault : Text.DecodeFault)
  deriving Repr, DecidableEq

/-- The line of an offset, from one, and its column in the line, from one. -/
def placeOf (text : List Char) (offset : Nat) : Nat × Nat :=
  let before := text.take offset
  (before.count '\n' + 1, (before.reverse.takeWhile (· ≠ '\n')).length + 1)

def ReadFault.message (text : List Char) : ReadFault → String
  | .malformed problem offset =>
    let (line, column) := placeOf text offset
    s!"{problem.message}: line {line} column {column} (char {offset})"
  | .tooManyDigits count =>
    s!"Exceeds the limit (4300 digits) for integer string conversion: value has {count} digits; " ++
      "use sys.set_int_max_str_digits() to increase the limit"
  | .undecodable fault => fault.message

/-- What is still to be read, and the offset at which it starts. -/
structure Cursor where
  rest : List Char
  offset : Nat

def Cursor.fail {α : Type} (cur : Cursor) (problem : Problem) : Except ReadFault (α × Cursor) :=
  .error (.malformed problem cur.offset)

def isSpace (c : Char) : Bool := c == ' ' || c == '\t' || c == '\n' || c == '\r'

def skipFrom (offset : Nat) : List Char → Cursor
  | [] => ⟨[], offset⟩
  | c :: rest => if isSpace c then skipFrom (offset + 1) rest else ⟨c :: rest, offset⟩

def Cursor.skipSpace (cur : Cursor) : Cursor := skipFrom cur.offset cur.rest

/-! ## Texts -/

/-- The character that a letter after a backslash stands for. -/
def escaped? : Char → Option Char
  | '"' => some '"'
  | '\\' => some '\\'
  | '/' => some '/'
  | 'b' => some '\x08'
  | 'f' => some '\x0c'
  | 'n' => some '\n'
  | 'r' => some '\r'
  | 't' => some '\t'
  | _ => none

/-- Four hexadecimal digits that do not end the input. -/
def fourDigits? : List Char → Option (Nat × List Char)
  | a :: b :: c :: d :: e :: rest =>
    match Text.hexValue? a, Text.hexValue? b, Text.hexValue? c, Text.hexValue? d with
    | some a, some b, some c, some d => some (((a * 16 + b) * 16 + c) * 16 + d, e :: rest)
    | _, _, _, _ => none
  | _ => none

/-- What a numeric escape is followed by, after a high surrogate: the digits of another numeric
escape, if there is room for them. -/
def pairDigits? : List Char → Option (List Char)
  | '\\' :: 'u' :: rest => if rest.length > 4 then some rest else none
  | _ => none

/-- Reads a text from behind its opening quote, which stands at `start`. -/
def readTextFrom (start : Nat) : (fuel offset : Nat) → (read rest : List Char) → Except ReadFault (String × Cursor)
  | 0, _, _, _ => .error (.malformed .unterminatedText start)
  | _ + 1, _, _, [] => .error (.malformed .unterminatedText start)
  | fuel + 1, offset, read, c :: rest =>
    if c = '"' then .ok (String.ofList read.reverse, ⟨rest, offset + 1⟩)
    else if c = '\\' then
      match rest with
      | [] => .error (.malformed .unterminatedText start)
      | 'u' :: digits =>
        match fourDigits? digits with
        | none => .error (.malformed .badUnicodeEscape (offset + 1))
        | some (unit, rest) =>
          match if Text.isHighSurrogate unit then pairDigits? rest else none with
          | none => readTextFrom start fuel (offset + 6) (Text.Utf8.charOf unit :: read) rest
          | some digits =>
            match fourDigits? digits with
            | none => .error (.malformed .badUnicodeEscape (offset + 7))
            | some (low, after) =>
              if Text.isLowSurrogate low then
                let c := Char.ofNat (Text.joinSurrogates unit low)
                readTextFrom start fuel (offset + 12) (c :: read) after
              else readTextFrom start fuel (offset + 6) (Text.Utf8.charOf unit :: read) rest
      | e :: rest =>
        match escaped? e with
        | some c => readTextFrom start fuel (offset + 2) (c :: read) rest
        | none => .error (.malformed .badEscape offset)
    else if c.toNat < 32 then .error (.malformed .controlCharacter offset)
    else readTextFrom start fuel (offset + 1) (c :: read) rest

/-- Reads a text whose opening quote has just been passed. -/
def readText (start : Nat) (rest : List Char) : Except ReadFault (String × Cursor) :=
  readTextFrom start (rest.length + 1) (start + 1) [] rest

/-! ## Numbers -/

def digitsValue (ds : List Char) : Nat := ds.foldl (fun n d => n * 10 + (d.toNat - 48)) 0

/-- The digits at the start, and what follows. -/
def spanDigits (cs : List Char) : List Char × List Char := cs.span Char.isDigit

/-- The digits of a fraction; a point without a digit after it is none. -/
def fraction (cs : List Char) : List Char × List Char :=
  match cs with
  | '.' :: rest =>
    match spanDigits rest with
    | ([], _) => ([], cs)
    | found => found
  | _ => ([], cs)

/-- An exponent with its digits; without a digit it is none. -/
def exponent? (cs : List Char) : Option (Bool × List Char × List Char) :=
  match cs with
  | e :: rest =>
    if e = 'e' ∨ e = 'E' then
      let (negative, rest) :=
        match rest with
        | '-' :: rest => (true, rest)
        | '+' :: rest => (false, rest)
        | _ => (false, rest)
      match spanDigits rest with
      | ([], _) => none
      | (ds, rest) => some (negative, ds, rest)
    else none
  | [] => none

/-- A number whose sign has been read, from its first digit on. -/
def readUnsigned (negative : Bool) (cs : List Char) : Except ReadFault (Option (Json × List Char)) :=
  let whole :=
    match cs with
    | '0' :: rest => (['0'], rest)
    | _ => spanDigits cs
  match whole with
  | ([], _) => .ok none
  | (whole, rest) =>
    let (fractional, rest) := fraction rest
    match exponent? rest, fractional with
    | none, [] =>
      if whole.length > 4300 then .error (.tooManyDigits whole.length)
      else
        let n : Int := digitsValue whole
        .ok (some (.integer (if negative then -n else n), rest))
    | none, _ =>
      let m := digitsValue (whole ++ fractional)
      .ok (some (.real (Binary64.ofDecimal negative m (-(fractional.length : Int))), rest))
    | some (down, ds, rest), _ =>
      let m := digitsValue (whole ++ fractional)
      let e : Int := digitsValue ds
      let e := (if down then -e else e) - fractional.length
      .ok (some (.real (Binary64.ofDecimal negative m e), rest))

def readNumber (cur : Cursor) : Except ReadFault (Json × Cursor) := do
  let (negative, rest) :=
    match cur.rest with
    | '-' :: rest => (true, rest)
    | rest => (false, rest)
  match ← readUnsigned negative rest with
  | some (value, rest) => .ok (value, ⟨rest, cur.offset + (cur.rest.length - rest.length)⟩)
  | none => cur.fail .expectedValue

/-! ## Values -/

/-- The words that stand for a value. -/
def wordValues : List (List Char × Json) :=
  [(['n', 'u', 'l', 'l'], .null), (['t', 'r', 'u', 'e'], .bool true),
   (['f', 'a', 'l', 's', 'e'], .bool false), (['N', 'a', 'N'], .real (0 / 0)),
   ("Infinity".toList, .real (1 / 0)), ("-Infinity".toList, .real (-1 / 0))]

def word? (cur : Cursor) : Option (Json × Cursor) :=
  wordValues.findSome? fun (w, value) =>
    if w.isPrefixOf cur.rest then some (value, ⟨cur.rest.drop w.length, cur.offset + w.length⟩)
    else none

mutual

/-- Reads the value that starts here. The fuel counts nested reads and list steps. -/
def readValue : (fuel : Nat) → Cursor → Except ReadFault (Json × Cursor)
  | 0, cur => cur.fail .expectedValue
  | fuel + 1, cur =>
    match cur.rest with
    | '"' :: rest => do
      let (s, cur) ← readText cur.offset rest
      .ok (.text s, cur)
    | '[' :: rest =>
      let inner := skipFrom (cur.offset + 1) rest
      match inner.rest with
      | ']' :: rest => .ok (.list [], ⟨rest, inner.offset + 1⟩)
      | _ => readElements fuel inner []
    | '\x7b' :: rest =>
      let inner := skipFrom (cur.offset + 1) rest
      match inner.rest with
      | '\x7d' :: rest => .ok (.object [], ⟨rest, inner.offset + 1⟩)
      | _ => readMembers fuel inner []
    | _ =>
      match word? cur with
      | some found => .ok found
      | none => readNumber cur

/-- Reads the elements of a list up to its end; `read` holds those before, the last first. -/
def readElements : (fuel : Nat) → Cursor → List Json → Except ReadFault (Json × Cursor)
  | 0, cur, _ => cur.fail .expectedValue
  | fuel + 1, cur, read => do
    let (v, cur) ← readValue fuel cur
    let cur := cur.skipSpace
    match cur.rest with
    | ']' :: rest => .ok (.list (v :: read).reverse, ⟨rest, cur.offset + 1⟩)
    | ',' :: rest => readElements fuel (skipFrom (cur.offset + 1) rest) (v :: read)
    | _ => cur.fail .expectedComma

/-- Reads the members of an object up to its end; `read` holds those before. -/
def readMembers : (fuel : Nat) → Cursor → List (String × Json) → Except ReadFault (Json × Cursor)
  | 0, cur, _ => cur.fail .expectedName
  | fuel + 1, cur, read =>
    match cur.rest with
    | '"' :: rest => do
      let (key, cur) ← readText cur.offset rest
      let cur := cur.skipSpace
      match cur.rest with
      | ':' :: rest =>
        let (v, cur) ← readValue fuel (skipFrom (cur.offset + 1) rest)
        let cur := cur.skipSpace
        let read := putField key v read
        match cur.rest with
        | '\x7d' :: rest => .ok (.object read, ⟨rest, cur.offset + 1⟩)
        | ',' :: rest => readMembers fuel (skipFrom (cur.offset + 1) rest) read
        | _ => cur.fail .expectedComma
      | _ => cur.fail .expectedColon
    | _ => cur.fail .expectedName

end

/-- Reads a whole text as one value. A bracket takes two steps of fuel and any other step moves on by at least
one character. -/
def ofChars (cs : List Char) : Except ReadFault Json := do
  let (v, cur) ← readValue (2 * cs.length + 2) (skipFrom 0 cs)
  let cur := cur.skipSpace
  match cur.rest with
  | [] => .ok v
  | _ => .error (.malformed .extraData cur.offset)

/-- Reads a text. A byte order mark is for bytes only. -/
def ofText (cs : List Char) : Except ReadFault Json :=
  match cs with
  | '\ufeff' :: _ => .error (.malformed .byteOrderMark 0)
  | _ => ofChars cs

/-! ## Encodings -/

open Text in
/-- Reads bytes as text: a byte order mark tells the encoding, else the places of the zero bytes at
the start do, else it is UTF-8. Offsets count from the first byte after a UTF-8 mark. Surrogates are let
pass. -/
def decodeBytes (bytes : Bytes) : Except DecodeFault (List Char) :=
  let utf16 (order : ByteOrder) (first : Nat) (bs : Bytes) := (units16 order first bs).map charsOfUnits
  match bytes with
  | 0x00 :: 0x00 :: 0xfe :: 0xff :: rest => codes32 .big 4 rest
  | 0xff :: 0xfe :: 0x00 :: 0x00 :: rest => codes32 .little 4 rest
  | 0xfe :: 0xff :: rest => utf16 .big 2 rest
  | 0xff :: 0xfe :: rest => utf16 .little 2 rest
  | 0xef :: 0xbb :: 0xbf :: rest => Utf8.decodeFrom true 0 rest
  | a :: b :: c :: d :: _ =>
    if a = 0 then if b = 0 then codes32 .big 0 bytes else utf16 .big 0 bytes
    else if b = 0 then if c = 0 ∧ d = 0 then codes32 .little 0 bytes else utf16 .little 0 bytes
    else Utf8.decodeFrom true 0 bytes
  | [a, b] =>
    if a = 0 then utf16 .big 0 bytes
    else if b = 0 then utf16 .little 0 bytes
    else Utf8.decodeFrom true 0 bytes
  | _ => Utf8.decodeFrom true 0 bytes

end Json

/-- A document as it comes: text, or bytes still to be decoded. -/
inductive Source
  | text (s : String)
  | bytes (bs : Bytes)

/-- Reads a document; what is refused comes with its full message. -/
def Source.read : Source → Except String Json
  | .text s => (Json.ofText s.toList).mapError (Json.ReadFault.message s.toList)
  | .bytes bs =>
    match Json.decodeBytes bs with
    | .error fault => .error fault.message
    | .ok cs => (Json.ofChars cs).mapError (Json.ReadFault.message cs)

end ShaderBundle
