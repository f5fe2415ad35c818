import ShaderBundle.Json.Reader

/-!
# Deeply nested documents

A document is read as deep as the stack goes. Reading one that is nested deeper does not end with a refusal: it
breaks off where the first bracket is reached that is too much.
-/

namespace ShaderBundle.Json

/-- How many brackets can be open at once. -/
def nestingLimit : Nat := 970

/-- The offset of the first bracket that is too much, if `room` more of them can be open. Brackets in texts do not
count. -/
def excessFrom? (room offset : Nat) (quoted : Bool) : List Char → Option Nat
  | [] => none
  | '\\' :: c :: rest =>
    if quoted then excessFrom? room (offset + 2) true rest else excessFrom? room (offset + 1) false (c :: rest)
  | c :: rest =>
    if c = '"' then excessFrom? room (offset + 1) (!quoted) rest
    else if quoted then excessFrom? room (offset + 1) true rest
    else if c = '[' ∨ c = '\x7b' then
      match room with
      | 0 => some offset
      | room + 1 => excessFrom? room (offset + 1) false rest
    else if c = ']' ∨ c = '\x7d' then excessFrom? (room + 1) (offset + 1) false rest
    else excessFrom? room (offset + 1) false rest

/-- Whether a bracket is reached that is too much: the document in front of it is one as far as it goes, and has a
value next. -/
def overflows (bytes : Bytes) : Bool :=
  match decodeBytes bytes with
  | .error _ => false
  | .ok cs =>
    match excessFrom? nestingLimit 0 false cs with
    | none => false
    | some offset =>
      match ofChars (cs.take offset) with
      | .error (.malformed .expectedValue place) => place == offset
      | _ => false

end ShaderBundle.Json
