import ShaderBundle.Template.Literal
import ShaderBundle.Template.Token
import ShaderBundle.Text.Blank

/-!
# Reading tokens

A template is text with print tags, block tags, comments and raw sections in it. A minus at a tag's edge
takes away the blanks next to it. Within a tag the closing mark counts only when all brackets are closed.

Tokens come one by one: a fault stands behind the tokens before it, so that whoever reads them meets
it only when he gets there.
-/

namespace ShaderBundle.Template

/-- A fault of a template's text or grammar, with its line. -/
structure Malformed where
  line : Nat
  detail : String
  deriving Repr, DecidableEq

/-- All tokens up to the end of the template, or up to a fault. -/
structure Tokens where
  tokens : List Token
  fault : Option Malformed

def Tokens.cons (token : Token) (rest : Tokens) : Tokens := { rest with tokens := token :: rest.tokens }

def Tokens.failed (line : Nat) (detail : String) : Tokens := ⟨[], some ⟨line, detail⟩⟩

def newlines (cs : List Char) : Nat := cs.count '\n'

/-! ## Marks -/

inductive Opening
  | raw | comment | block | variable
  deriving DecidableEq

/-- Takes an optional sign off a mark: whether it is a minus, and the rest. -/
def sign : List Char → Bool × List Char
  | '-' :: rest => (true, rest)
  | '+' :: rest => (false, rest)
  | cs => (false, cs)

/-- The end of a tag's inside: `-%}` with the blanks behind it, or `%}`. -/
def closeRaw? : List Char → Option (List Char)
  | '-' :: '%' :: '}' :: rest => some (Text.dropBlank rest)
  | '%' :: '}' :: rest => some rest
  | _ => none

/-- A closing mark of blocks: that of raw sections, or one with a plus. -/
def closeBlock? : List Char → Option (List Char)
  | '+' :: '%' :: '}' :: rest => some rest
  | cs => closeRaw? cs

def closeVariable? : List Char → Option (List Char)
  | '-' :: '}' :: '}' :: rest => some (Text.dropBlank rest)
  | '}' :: '}' :: rest => some rest
  | _ => none

def closeComment? : List Char → Option (List Char)
  | '+' :: '#' :: '}' :: rest => some rest
  | '-' :: '#' :: '}' :: rest => some (Text.dropBlank rest)
  | '#' :: '}' :: rest => some rest
  | _ => none

/-- A word between blanks, and what follows. -/
def blankWord? (word : List Char) (cs : List Char) : Option (List Char) :=
  let cs := Text.dropBlank cs
  if word.isPrefixOf cs then some (Text.dropBlank (cs.drop word.length)) else none

/-- The mark that opens something here: what, whether it trims the text before it, and the rest. -/
def openingAt? : List Char → Option (Opening × Bool × List Char)
  | '{' :: '{' :: rest => some (.variable, sign rest)
  | '{' :: '#' :: rest => some (.comment, sign rest)
  | '{' :: '%' :: rest =>
    let (trims, inner) := sign rest
    match (blankWord? ['r', 'a', 'w'] inner).bind closeRaw? with
    | some after => some (.raw, trims, after)
    | none => some (.block, trims, inner)
  | _ => none

/-- The mark that ends a raw section here. -/
def endRawAt? : List Char → Option (Bool × List Char)
  | '{' :: '%' :: rest =>
    let (trims, inner) := sign rest
    ((blankWord? "endraw".toList inner).bind closeBlock?).map fun after => (trims, after)
  | _ => none

/-- The characters before the first place where `mark` finds something, and what it finds there. -/
def cutAtMark {α : Type} (mark : List Char → Option α) : List Char → Option (List Char × α)
  | [] => (mark []).map fun found => ([], found)
  | c :: rest =>
    match mark (c :: rest) with
    | some found => some ([], found)
    | none => (cutAtMark mark rest).map fun (before, found) => (c :: before, found)

/-! ## Inside tags -/

inductive TagKind
  | variable | block
  deriving DecidableEq

def TagKind.close? : TagKind → List Char → Option (List Char)
  | .variable => closeVariable?
  | .block => closeBlock?

def TagKind.closing : TagKind → Lexeme
  | .variable => .variableEnd
  | .block => .blockEnd

/-- What is read next inside a tag. -/
inductive Piece
  | blank (rest : List Char)
  | close (rest : List Char)
  | lexeme (l : Lexeme) (rest : List Char)
  | failed (detail : String)

/-- The name at the start, which has to be an identifier. -/
def namePiece (cs : List Char) : Piece :=
  let name := cs.takeWhile isNameChar
  if Text.isIdentifier name then .lexeme (.name (String.ofList name)) (cs.dropWhile isNameChar)
  else .failed "Invalid character in identifier"

def textPiece? (cs : List Char) : Option Piece :=
  let read (mark : Char) (rest : List Char) : Option Piece :=
    (quotedAt? mark rest).map fun (body, rest) =>
      match unescapeText body with
      | .ok s => .lexeme (.text s) rest
      | .error detail => .failed detail
  match cs with
  | '\'' :: rest => read '\'' rest
  | '"' :: rest => read '"' rest
  | _ => none

/-- The number at the start. No fraction is read right behind a dot. -/
def numberPiece? (afterDot : Bool) (cs : List Char) : Option Piece :=
  match if afterDot then none else realAt? cs with
  | some (x, rest) => some (.lexeme (.real x) rest)
  | none => (integerAt? cs).map fun (n, rest) => .lexeme (.integer n) rest

/-- Reads one piece at an offset of the whole template. -/
def pieceAt (kind : TagKind) (brackets : List Operator) (afterDot : Bool) (offset : Nat)
    (c : Char) (cs : List Char) : Piece :=
  match if brackets.isEmpty then kind.close? (c :: cs) else none with
  | some rest => .close rest
  | none =>
    if Text.isBlank c then .blank (Text.dropBlank cs)
    else
      match numberPiece? afterDot (c :: cs) with
      | some piece => piece
      | none =>
        if isNameChar c then namePiece (c :: cs)
        else
          match textPiece? (c :: cs) with
          | some piece => piece
          | none =>
            match Operator.at? (c :: cs) with
            | some (o, rest) => .lexeme (.operator o) rest
            | none => .failed s!"unexpected char {Text.display (String.ofList [c])} at {offset}"

/-- Opens or closes a bracket; a bracket that closes nothing, or the wrong one, is refused. -/
def balance (brackets : List Operator) (l : Lexeme) : Except String (List Operator) :=
  match l with
  | .operator o =>
    match o.closer? with
    | some closer => .ok (closer :: brackets)
    | none =>
      if o.isCloser then
        match brackets with
        | [] => .error s!"unexpected '{o.text}'"
        | expected :: rest =>
          if expected = o then .ok rest
          else .error s!"unexpected '{o.text}', expected '{expected.text}'"
      else .ok brackets
  | _ => .ok brackets

/-! ## The whole -/

inductive Mode
  | text
  | comment
  | raw
  | tag (kind : TagKind) (brackets : List Operator) (afterDot : Bool)

def withData (line : Nat) (text : List Char) (rest : Tokens) : Tokens :=
  if text.isEmpty then rest else rest.cons ⟨line, .data text⟩

/-- The text before a mark, trimmed if the mark trims. -/
def trimmed (trims : Bool) (text : List Char) : List Char :=
  if trims then Text.dropBlankEnd text else text

/-- Reads on in a mode. `line` and `offset` are those of the first character, and `count` tells how many lines
a piece of text leads on. -/
def lexFrom (count : List Char → Nat) : (fuel : Nat) → Mode → (line offset : Nat) → List Char → Tokens
  | 0, _, _, _, _ => ⟨[], none⟩
  | _ + 1, _, _, _, [] => ⟨[], none⟩
  | fuel + 1, .text, line, offset, c :: cs =>
    match cutAtMark openingAt? (c :: cs) with
    | none => withData line (c :: cs) ⟨[], none⟩
    | some (before, opening, trims, rest) =>
      let used := (c :: cs).length - rest.length
      let mark := ((c :: cs).take used).drop before.length
      let lineOfMark := line + count before
      let go (mode : Mode) : Tokens :=
        lexFrom count fuel mode (lineOfMark + count mark) (offset + used) rest
      withData line (trimmed trims before)
        (match opening with
        | .raw => go .raw
        | .comment => go .comment
        | .block => (go (.tag .block [] false)).cons ⟨lineOfMark, .blockBegin⟩
        | .variable => (go (.tag .variable [] false)).cons ⟨lineOfMark, .variableBegin⟩)
  | fuel + 1, .comment, line, offset, c :: cs =>
    match cutAtMark closeComment? (c :: cs) with
    | none => .failed line "Missing end of comment tag"
    | some (_, rest) =>
      let used := (c :: cs).length - rest.length
      lexFrom count fuel .text (line + count ((c :: cs).take used)) (offset + used) rest
  | fuel + 1, .raw, line, offset, c :: cs =>
    match cutAtMark endRawAt? (c :: cs) with
    | none => .failed line "Missing end of raw directive"
    | some (before, trims, rest) =>
      let used := (c :: cs).length - rest.length
      withData line (trimmed trims before)
        (lexFrom count fuel .text (line + count ((c :: cs).take used)) (offset + used) rest)
  | fuel + 1, .tag kind brackets afterDot, line, offset, c :: cs =>
    let go (mode : Mode) (rest : List Char) : Tokens :=
      let used := (c :: cs).length - rest.length
      lexFrom count fuel mode (line + count ((c :: cs).take used)) (offset + used) rest
    match pieceAt kind brackets afterDot offset c cs with
    | .blank rest => go (.tag kind brackets false) rest
    | .close rest => (go .text rest).cons ⟨line, kind.closing⟩
    | .failed detail => .failed line detail
    | .lexeme l rest =>
      match balance brackets l with
      | .error detail => .failed line detail
      | .ok brackets => (go (.tag kind brackets (l.isOperator .dot)) rest).cons ⟨line, l⟩

/-- The tokens of a whole template. -/
def tokens (text : List Char) : Tokens := lexFrom newlines (text.length + 1) .text 1 0 text

end ShaderBundle.Template
