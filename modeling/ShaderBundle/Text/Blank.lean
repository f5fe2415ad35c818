import ShaderBundle.Text.Ranges

/-!
# Blank characters

Spaces, line and paragraph ends and the four information separators: what trimming removes, what
separates words, and what may stand around a placeholder's name.
-/

namespace ShaderBundle.Text

def blankRanges : List (Nat × Nat) :=
  [(0x09, 0x0d), (0x1c, 0x20), (0x85, 0x85), (0xa0, 0xa0), (0x1680, 0x1680), (0x2000, 0x200a),
   (0x2028, 0x2029), (0x202f, 0x202f), (0x205f, 0x205f), (0x3000, 0x3000)]

def isBlank (c : Char) : Bool := inRanges blankRanges c

def dropBlank (cs : List Char) : List Char := cs.dropWhile isBlank

def dropBlankEnd (cs : List Char) : List Char := (cs.reverse.dropWhile isBlank).reverse

def trimEnd (s : String) : String := String.ofList (dropBlankEnd s.toList)

def trim (s : String) : String := String.ofList (dropBlankEnd (dropBlank s.toList))

/-- Whether nothing is left of a text once its blanks are gone. -/
def isAllBlank (s : String) : Bool := s.toList.all isBlank

/-- Collects words: `word` is the word being read, its last character first. -/
def wordsFrom (word : List Char) : List Char → List (List Char)
  | [] => if word.isEmpty then [] else [word.reverse]
  | c :: rest =>
    if isBlank c then
      if word.isEmpty then wordsFrom [] rest else word.reverse :: wordsFrom [] rest
    else wordsFrom (c :: word) rest

/-- The longest runs of characters that are not blank. -/
def words (s : String) : List String := (wordsFrom [] s.toList).map String.ofList

end ShaderBundle.Text
