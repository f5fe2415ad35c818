import ShaderBundle.Text.Encoding
import ShaderBundle.Text.Printable
import ShaderBundle.Text.Quoted

/-!
# Text as shown in messages

A message shows a text between single quotes, or between double quotes when the text holds a single
quote and no double one. What is not printable is shown by its number.
-/

namespace ShaderBundle.Text

/-- How a displayed text writes one character, given the quote around it. -/
def displayChar (mark c : Char) : List Char :=
  if c = mark ∨ c = '\\' then ['\\', c]
  else if c = '\n' then ['\\', 'n']
  else if c = '\r' then ['\\', 'r']
  else if c = '\t' then ['\\', 't']
  else if isSurrogate c then '\\' :: 'u' :: hexDigits 4 (surrogateCode c)
  else if isPrintable c then [c]
  else if c.toNat < 0x100 then '\\' :: 'x' :: hexDigits 2 c.toNat
  else if c.toNat < 0x10000 then '\\' :: 'u' :: hexDigits 4 c.toNat
  else '\\' :: 'U' :: hexDigits 8 c.toNat

def displayMark (cs : List Char) : Char :=
  if cs.contains '\'' && !cs.contains '"' then '"' else '\''

def display (s : String) : String :=
  let mark := displayMark s.toList
  String.ofList (mark :: (s.toList.flatMap (displayChar mark) ++ [mark]))

end ShaderBundle.Text
