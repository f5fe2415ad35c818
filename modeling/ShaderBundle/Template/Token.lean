/-!
# Tokens of a template

Text between tags, the marks that open and close them, and the names, literals and operators in them.
-/

namespace ShaderBundle.Template

inductive Operator
  | add | sub | mul | div | floorDiv | mod | pow | tilde
  | eq | ne | lt | le | gt | ge
  | assign | pipe | dot | comma | colon | semicolon
  | openParen | closeParen | openBracket | closeBracket | openBrace | closeBrace
  deriving Repr, DecidableEq

namespace Operator

def text : Operator → String
  | .add => "+" | .sub => "-" | .mul => "*" | .div => "/" | .floorDiv => "//" | .mod => "%"
  | .pow => "**" | .tilde => "~" | .eq => "==" | .ne => "!=" | .lt => "<" | .le => "<="
  | .gt => ">" | .ge => ">=" | .assign => "=" | .pipe => "|" | .dot => "." | .comma => ","
  | .colon => ":" | .semicolon => ";" | .openParen => "(" | .closeParen => ")"
  | .openBracket => "[" | .closeBracket => "]" | .openBrace => "\x7b" | .closeBrace => "\x7d"

/-- The longest operator at the start, and what follows it. -/
def at? : List Char → Option (Operator × List Char)
  | '/' :: '/' :: rest => some (.floorDiv, rest)
  | '*' :: '*' :: rest => some (.pow, rest)
  | '=' :: '=' :: rest => some (.eq, rest)
  | '!' :: '=' :: rest => some (.ne, rest)
  | '<' :: '=' :: rest => some (.le, rest)
  | '>' :: '=' :: rest => some (.ge, rest)
  | '+' :: rest => some (.add, rest)
  | '-' :: rest => some (.sub, rest)
  | '*' :: rest => some (.mul, rest)
  | '/' :: rest => some (.div, rest)
  | '%' :: rest => some (.mod, rest)
  | '~' :: rest => some (.tilde, rest)
  | '<' :: rest => some (.lt, rest)
  | '>' :: rest => some (.gt, rest)
  | '=' :: rest => some (.assign, rest)
  | '|' :: rest => some (.pipe, rest)
  | '.' :: rest => some (.dot, rest)
  | ',' :: rest => some (.comma, rest)
  | ':' :: rest => some (.colon, rest)
  | ';' :: rest => some (.semicolon, rest)
  | '(' :: rest => some (.openParen, rest)
  | ')' :: rest => some (.closeParen, rest)
  | '[' :: rest => some (.openBracket, rest)
  | ']' :: rest => some (.closeBracket, rest)
  | '{' :: rest => some (.openBrace, rest)
  | '}' :: rest => some (.closeBrace, rest)
  | _ => none

/-- The bracket that closes this one. -/
def closer? : Operator → Option Operator
  | .openParen => some .closeParen
  | .openBracket => some .closeBracket
  | .openBrace => some .closeBrace
  | _ => none

def isCloser (o : Operator) : Bool :=
  o == .closeParen || o == .closeBracket || o == .closeBrace

end Operator

inductive Lexeme
  | data (text : List Char)
  | variableBegin
  | variableEnd
  | blockBegin
  | blockEnd
  | name (text : String)
  | text (value : String)
  | integer (n : Int)
  | real (x : Float)
  | operator (o : Operator)
  | eof

/-- A lexeme and the line on which it starts. -/
structure Token where
  line : Nat
  lexeme : Lexeme

namespace Lexeme

/-- What a message calls a lexeme: names and operators by their text, all others by their kind. -/
def describe : Lexeme → String
  | .data _ => "template data / text"
  | .variableBegin => "begin of print statement"
  | .variableEnd => "end of print statement"
  | .blockBegin => "begin of statement block"
  | .blockEnd => "end of statement block"
  | .name word => word
  | .text _ => "string"
  | .integer _ => "integer"
  | .real _ => "float"
  | .operator o => o.text
  | .eof => "end of template"

def isName (word : String) : Lexeme → Bool
  | .name found => found == word
  | _ => false

def isOperator (o : Operator) : Lexeme → Bool
  | .operator p => p == o
  | _ => false

def isBlockEnd : Lexeme → Bool
  | .blockEnd => true
  | _ => false

def isVariableEnd : Lexeme → Bool
  | .variableEnd => true
  | _ => false

def isEof : Lexeme → Bool
  | .eof => true
  | _ => false

end Lexeme

end ShaderBundle.Template
