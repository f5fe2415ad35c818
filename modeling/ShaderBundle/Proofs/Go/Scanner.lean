import ShaderBundle.Text.Hexadecimal

/-!
# Scanning Go

The lexical grammar of Go, one character at a time: identifiers and keywords, integers, interpreted
strings, operators and other marks, line comments and general comments. A line whose last token may
end a statement ends in a semicolon, which the scanner puts in.

Only a part of the language is scanned: integers are decimal or hexadecimal, operators are single
characters or the ellipsis, and the escapes of a string stand for characters, not for bytes. Whatever
lies outside is refused; it is never taken for something else.

* `Scanner.step` takes one character, `scan` a whole text.
* `Scans u cs ts`: between two tokens, the characters `cs` give exactly the tokens `ts`.
* `ScansUpTo u cs ts`: they do so in front of a character that ends a word or a number.
* `ScansOn u cs ts`: they do so where no statement ends with the line, which is so behind them again.
-/

namespace ShaderBundle.Go

/-! ## Tokens -/

inductive Token
  | name (s : String)
  | keyword (s : String)
  | integer (n : Nat)
  /-- An interpreted string, by the text it stands for. -/
  | text (s : String)
  | mark (c : Char)
  | ellipsis
  deriving Repr, DecidableEq

def keywords : List String :=
  ["break", "case", "chan", "const", "continue", "default", "defer", "else", "fallthrough", "for",
   "func", "go", "goto", "if", "import", "interface", "map", "package", "range", "return", "select",
   "struct", "switch", "type", "var"]

/-- Whether a line that ends behind this token ends a statement. -/
def Token.endsLine : Token → Bool
  | .name _ | .integer _ | .text _ => true
  | .keyword s => ["break", "continue", "fallthrough", "return"].contains s
  | .mark c => [')', ']', '}'].contains c
  | .ellipsis => false

/-- The letters and digits beyond ASCII, which a version of Unicode decides. -/
structure Alphabet where
  isLetter : Char → Bool
  isDigit : Char → Bool

namespace Alphabet

def letter (u : Alphabet) (c : Char) : Bool :=
  if c.toNat < 128 then c.isAlpha || c == '_' else u.isLetter c

def digit (u : Alphabet) (c : Char) : Bool :=
  if c.toNat < 128 then c.isDigit else u.isDigit c

/-- Whether a character goes on with an identifier. -/
def inWord (u : Alphabet) (c : Char) : Bool := u.letter c || u.digit c

/-- A letter and then letters and digits, but no keyword. -/
def isIdentifier (u : Alphabet) (s : String) : Bool :=
  match s.toList with
  | [] => false
  | c :: rest => u.letter c && rest.all u.inWord && !keywords.contains s

end Alphabet

def wordToken (s : String) : Token := if keywords.contains s then .keyword s else .name s

/-- The number that hexadecimal digits stand for. -/
def hexNumber? (cs : List Char) : Option Nat :=
  cs.foldlM (fun n c => (Text.hexValue? c).map (n * 16 + ·)) 0

/-- The number that an integer literal stands for. -/
def integer? (cs : List Char) : Option Nat :=
  match cs with
  | [] => none
  | '0' :: [] => some 0
  | '0' :: x :: digits =>
    if (x = 'x' ∨ x = 'X') ∧ digits ≠ [] then hexNumber? digits else none
  | _ => if cs.all Char.isDigit then some (Nat.ofDigitChars 10 cs 0) else none

/-! ## The scanner -/

/-- What has been begun. Characters that were read come last one first. -/
inductive Mode
  | between
  | word (read : List Char)
  | number (read : List Char)
  | operator (c : Char)
  /-- One dot, or two. -/
  | dots (two : Bool)
  | slash
  | lineComment
  /-- Whether the last character was a star, and whether a line has ended in the comment. -/
  | comment (star lines : Bool)
  | text (read : List Char)
  | escape (read : List Char)
  /-- An escape by number: the digits still missing, and the number so far. -/
  | code (read : List Char) (missing value : Nat)
  deriving Repr, DecidableEq

structure Scanner where
  mode : Mode
  /-- The last one first. -/
  tokens : List Token
  deriving Repr, DecidableEq

def operators : List Char := "+-*%&|^<>=!:~".toList

def delimiters : List Char := "()[]{},;".toList

/-- The end of a line: it may end a statement. -/
def endLine : List Token → List Token
  | [] => []
  | t :: before => if t.endsLine then .mark ';' :: t :: before else t :: before

/-- The character that an escape of two characters stands for. -/
def escaped? : Char → Option Char
  | '"' => some '"'
  | '\\' => some '\\'
  | 'n' => some '\n'
  | 'r' => some '\r'
  | 't' => some '\t'
  | 'a' => some '\x07'
  | 'b' => some '\x08'
  | 'f' => some '\x0c'
  | 'v' => some '\x0b'
  | _ => none

/-- One more digit of an escape by number. -/
def codeDigit (read : List Char) (missing value : Nat) (c : Char) : Option Mode :=
  (Text.hexValue? c).bind fun d =>
    let value := value * 16 + d
    if missing ≠ 1 then some (.code read (missing - 1) value)
    else if value.isValidChar then some (.text (Char.ofNat value :: read)) else none

namespace Scanner

/-- Takes a character with which something new begins. -/
def start (u : Alphabet) (tokens : List Token) (c : Char) : Option Scanner :=
  if c = '\n' then some ⟨.between, endLine tokens⟩
  else if c = ' ' ∨ c = '\t' ∨ c = '\r' then some ⟨.between, tokens⟩
  else if c = '"' then some ⟨.text [], tokens⟩
  else if c = '/' then some ⟨.slash, tokens⟩
  else if c = '.' then some ⟨.dots false, tokens⟩
  else if u.letter c then some ⟨.word [c], tokens⟩
  else if c.isDigit then some ⟨.number [c], tokens⟩
  else if delimiters.contains c then some ⟨.between, .mark c :: tokens⟩
  else if operators.contains c then some ⟨.operator c, tokens⟩
  else none

def step (u : Alphabet) (s : Scanner) (c : Char) : Option Scanner :=
  match s.mode with
  | .between => start u s.tokens c
  | .word read =>
    if u.inWord c then some ⟨.word (c :: read), s.tokens⟩
    else start u (wordToken (String.ofList read.reverse) :: s.tokens) c
  | .number read =>
    if u.inWord c || c == '.' then some ⟨.number (c :: read), s.tokens⟩
    else (integer? read.reverse).bind fun n => start u (.integer n :: s.tokens) c
  | .operator o => if operators.contains c then none else start u (.mark o :: s.tokens) c
  | .dots false =>
    if c = '.' then some ⟨.dots true, s.tokens⟩
    else if c.isDigit then none
    else start u (.mark '.' :: s.tokens) c
  | .dots true => if c = '.' then some ⟨.between, .ellipsis :: s.tokens⟩ else none
  | .slash =>
    if c = '/' then some ⟨.lineComment, s.tokens⟩
    else if c = '*' then some ⟨.comment false false, s.tokens⟩
    else if operators.contains c then none
    else start u (.mark '/' :: s.tokens) c
  | .lineComment => if c = '\n' then some ⟨.between, endLine s.tokens⟩ else some s
  | .comment star lines =>
    -- a general comment with a line end in it counts as one
    if star && c == '/' then some ⟨.between, if lines then endLine s.tokens else s.tokens⟩
    else some ⟨.comment (c == '*') (lines || c == '\n'), s.tokens⟩
  | .text read =>
    if c = '"' then some ⟨.between, .text (String.ofList read.reverse) :: s.tokens⟩
    else if c = '\\' then some ⟨.escape read, s.tokens⟩
    else if c = '\n' then none
    else some ⟨.text (c :: read), s.tokens⟩
  | .escape read =>
    if c = 'u' then some ⟨.code read 4 0, s.tokens⟩
    else if c = 'U' then some ⟨.code read 8 0, s.tokens⟩
    else (escaped? c).map fun d => ⟨.text (d :: read), s.tokens⟩
  | .code read missing value => (codeDigit read missing value c).map fun m => ⟨m, s.tokens⟩

def run (u : Alphabet) (s : Scanner) (cs : List Char) : Option Scanner := cs.foldlM (step u) s

end Scanner

/-- The tokens of a text. Its end is the end of a line. -/
def scan (u : Alphabet) (s : String) : Option (List Token) :=
  match Scanner.run u ⟨.between, []⟩ (s.toList ++ ['\n']) with
  | some ⟨.between, tokens⟩ => some tokens.reverse
  | _ => none

/-! ## Composition -/

namespace Scanner

section
variable (u : Alphabet) (ts : List Token) (c : Char)

theorem step_word (read : List Char) :
    step u ⟨.word read, ts⟩ c =
      if u.inWord c then some ⟨.word (c :: read), ts⟩
      else start u (wordToken (String.ofList read.reverse) :: ts) c := rfl

theorem step_number (read : List Char) :
    step u ⟨.number read, ts⟩ c =
      if u.inWord c || c == '.' then some ⟨.number (c :: read), ts⟩
      else (integer? read.reverse).bind fun n => start u (.integer n :: ts) c := rfl

theorem step_comment (star lines : Bool) :
    step u ⟨.comment star lines, ts⟩ c =
      if star && c == '/' then some ⟨.between, if lines then endLine ts else ts⟩
      else some ⟨.comment (c == '*') (lines || c == '\n'), ts⟩ := rfl

theorem step_text (read : List Char) :
    step u ⟨.text read, ts⟩ c =
      if c = '"' then some ⟨.between, .text (String.ofList read.reverse) :: ts⟩
      else if c = '\\' then some ⟨.escape read, ts⟩
      else if c = '\n' then none
      else some ⟨.text (c :: read), ts⟩ := rfl

theorem step_code (read : List Char) (missing value : Nat) :
    step u ⟨.code read missing value, ts⟩ c =
      (codeDigit read missing value c).map fun m => ⟨m, ts⟩ := rfl

end

theorem run_append (u : Alphabet) (s : Scanner) (cs ds : List Char) :
    run u s (cs ++ ds) = (run u s cs).bind fun s => run u s ds := List.foldlM_append

theorem run_cons (u : Alphabet) (s : Scanner) (c : Char) (cs : List Char) :
    run u s (c :: cs) = (step u s c).bind fun s => run u s cs := List.foldlM_cons

end Scanner

/-- Between two tokens, the characters give exactly these tokens. -/
def Scans (u : Alphabet) (cs : List Char) (ts : List Token) : Prop :=
  ∀ before, Scanner.run u ⟨.between, before⟩ cs = some ⟨.between, ts.reverse ++ before⟩

/-- A character behind which a word or a number cannot go on. -/
def Delimits (c : Char) : Prop := c = ',' ∨ c = '}' ∨ c = ' ' ∨ c = '\n' ∨ c = ':'

/-- In front of a character that delimits, the characters give exactly these tokens. -/
def ScansUpTo (u : Alphabet) (cs : List Char) (ts : List Token) : Prop :=
  ∀ before c rest, Delimits c →
    Scanner.run u ⟨.between, before⟩ (cs ++ c :: rest) =
      Scanner.run u ⟨.between, ts.reverse ++ before⟩ (c :: rest)

variable {u : Alphabet} {cs ds : List Char} {ts us : List Token}

theorem Scans.nil : Scans u [] [] := fun _ => rfl

theorem Scans.append (h : Scans u cs ts) (h' : Scans u ds us) : Scans u (cs ++ ds) (ts ++ us) := by
  intro before
  rw [Scanner.run_append, h before, Option.bind_some, h', List.reverse_append, List.append_assoc]

theorem Scans.upTo (h : Scans u cs ts) : ScansUpTo u cs ts := by
  intro before c rest _
  rw [Scanner.run_append, h before, Option.bind_some]

theorem ScansUpTo.append {c : Char} (h : ScansUpTo u cs ts) (hc : Delimits c) (h' : Scans u (c :: ds) us) :
    Scans u (cs ++ c :: ds) (ts ++ us) := by
  intro before
  rw [h before c ds hc, h', List.reverse_append, List.append_assoc]

theorem Scans.appendUpTo (h : Scans u cs ts) (h' : ScansUpTo u ds us) :
    ScansUpTo u (cs ++ ds) (ts ++ us) := by
  intro before c rest hc
  rw [List.append_assoc, Scanner.run_append, h before, Option.bind_some, h' _ c rest hc,
    List.reverse_append, List.append_assoc]

/-- The end of a line ends a statement. -/
theorem ScansUpTo.endLine (ts : List Token) {t : Token} (h : ScansUpTo u cs (ts ++ [t])) (ht : t.endsLine = true) :
    Scans u (cs ++ ['\n']) (ts ++ [t, .mark ';']) := by
  intro before
  have hend : Scanner.run u ⟨.between, t :: (ts.reverse ++ before)⟩ ['\n'] =
      some ⟨.between, Go.endLine (t :: (ts.reverse ++ before))⟩ := rfl
  rw [h before '\n' [] (.inr (.inr (.inr (.inl rfl))))]
  simp only [List.reverse_append, List.reverse_cons, List.reverse_nil, List.nil_append, List.cons_append,
    hend, Go.endLine, ht, if_true]

/-- The end of a line behind a token that a statement goes on after. -/
theorem Scans.skipLine (ts : List Token) {t : Token} (h : Scans u cs (ts ++ [t])) (ht : t.endsLine = false) :
    Scans u (cs ++ ['\n']) (ts ++ [t]) := by
  intro before
  have hend : Scanner.run u ⟨.between, t :: (ts.reverse ++ before)⟩ ['\n'] =
      some ⟨.between, Go.endLine (t :: (ts.reverse ++ before))⟩ := rfl
  rw [Scanner.run_append, h before, Option.bind_some]
  simp only [List.reverse_append, List.reverse_cons, List.reverse_nil, List.nil_append, List.cons_append,
    hend, Go.endLine, ht, Bool.false_eq_true, if_false]

theorem Scans.flatMap {α : Type} {f : α → List Char} {g : α → List Token} {xs : List α}
    (h : ∀ x ∈ xs, Scans u (f x) (g x)) : Scans u (xs.flatMap f) (xs.flatMap g) := by
  induction xs with
  | nil => exact Scans.nil
  | cons x xs ih =>
    exact (h x (by simp)).append (ih fun y hy => h y (List.mem_cons_of_mem x hy))

/-! ## Within a statement -/

/-- Where no statement ends with the line, the characters give exactly these tokens, and none ends behind them. -/
def ScansOn (u : Alphabet) (cs : List Char) (ts : List Token) : Prop :=
  ∀ before, endLine before = before →
    Scanner.run u ⟨.between, before⟩ cs = some ⟨.between, ts.reverse ++ before⟩ ∧
      endLine (ts.reverse ++ before) = ts.reverse ++ before

theorem ScansOn.nil : ScansOn u [] [] := fun _ hb => ⟨rfl, hb⟩

theorem ScansOn.append (h : ScansOn u cs ts) (h' : ScansOn u ds us) : ScansOn u (cs ++ ds) (ts ++ us) := by
  intro before hb
  obtain ⟨hfirst, hon⟩ := h before hb
  obtain ⟨hsecond, hend⟩ := h' _ hon
  rw [Scanner.run_append, hfirst, Option.bind_some, hsecond, List.reverse_append, List.append_assoc]
  exact ⟨rfl, hend⟩

theorem ScansOn.flatMap {α : Type} {f : α → List Char} {g : α → List Token} {xs : List α}
    (h : ∀ x ∈ xs, ScansOn u (f x) (g x)) : ScansOn u (xs.flatMap f) (xs.flatMap g) := by
  induction xs with
  | nil => exact ScansOn.nil
  | cons x xs ih =>
    exact (h x (by simp)).append (ih fun y hy => h y (List.mem_cons_of_mem x hy))

/-- A token that ends no statement is last. -/
def GoesOn (ts : List Token) : Prop := ∃ before t, ts = before ++ [t] ∧ t.endsLine = false

theorem GoesOn.endLine {ts : List Token} (h : GoesOn ts) (before : List Token) :
    Go.endLine (ts.reverse ++ before) = ts.reverse ++ before := by
  obtain ⟨first, t, rfl, ht⟩ := h
  simp [Go.endLine, ht]

theorem Scans.on (h : Scans u cs ts) (hts : GoesOn ts) : ScansOn u cs ts := fun before _ =>
  ⟨h before, hts.endLine before⟩

theorem Scans.appendOn (h : Scans u cs ts) (hts : GoesOn ts) (h' : ScansOn u ds us) : Scans u (cs ++ ds) (ts ++ us) := by
  intro before
  rw [Scanner.run_append, h before, Option.bind_some, (h' _ (hts.endLine before)).1, List.reverse_append,
    List.append_assoc]

end ShaderBundle.Go
