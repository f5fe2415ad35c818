import ShaderBundle.Text.Hexadecimal

/-!
# Quoted text

Text between double quotes, with a backslash before what cannot stand for itself: the quote, the
backslash and the control characters below the space. All other characters are kept. The same form
is a string of a document and an interpreted string of the generated module.
-/

namespace ShaderBundle.Text

namespace Quoted

/-- How one character is written between the quotes. -/
def encodeChar (c : Char) : List Char :=
  if c = '"' then ['\\', '"']
  else if c = '\\' then ['\\', '\\']
  else if c = '\n' then ['\\', 'n']
  else if c = '\r' then ['\\', 'r']
  else if c = '\t' then ['\\', 't']
  else if c = '\x08' then ['\\', 'b']
  else if c = '\x0c' then ['\\', 'f']
  else if c.toNat < 32 then '\\' :: 'u' :: hexDigits 4 c.toNat
  else [c]

def encode (cs : List Char) : List Char := '"' :: (cs.flatMap encodeChar ++ ['"'])

end Quoted

def quote (s : String) : String := String.ofList (Quoted.encode s.toList)

end ShaderBundle.Text
