import ShaderBundle.Text.Blank
import ShaderBundle.Text.WordChar

/-!
# Dotted placeholders

A placeholder may be written with a dot and a capitalised name, `{{.Header}}`. Before anything else
is read, every one of them in the file is rewritten to the name that it stands for; one with an unknown
name is refused with the line on which it starts.
-/

namespace ShaderBundle.Template

/-- What each dotted name stands for. -/
def dottedNames : List (List Char × List Char) :=
  [("FetchColorExpr".toList, "fetch_color_expr".toList), ("Header".toList, "header".toList)]

/-- The name of the dotted placeholder that starts here, and what follows it. -/
def placeholderAt? : List Char → Option (List Char × List Char)
  | '{' :: '{' :: rest =>
    match Text.dropBlank rest with
    | '.' :: rest =>
      match rest.takeWhile Text.isWordChar with
      | [] => none
      | name =>
        match Text.dropBlank (rest.dropWhile Text.isWordChar) with
        | '}' :: '}' :: rest => some (name, rest)
        | _ => none
    | _ => none
  | _ => none

/-- A dotted placeholder that stands for nothing: how it is written and on which line. -/
structure UnknownPlaceholder where
  written : List Char
  line : Nat
  deriving Repr, DecidableEq

def plainPlaceholder (name : List Char) : List Char :=
  ['{', '{', ' '] ++ name ++ [' ', '}', '}']

/-- Rewrites from the left. `line` is the line of the first character, and `skip` of them belong to
a placeholder that is already written. -/
def rewriteFrom (line skip : Nat) : List Char → Except UnknownPlaceholder (List Char)
  | [] => .ok []
  | c :: rest =>
    let next := if c = '\n' then line + 1 else line
    if skip > 0 then rewriteFrom next (skip - 1) rest
    else
      match placeholderAt? (c :: rest) with
      | none => (rewriteFrom next 0 rest).map (c :: ·)
      | some (name, after) =>
        let length := (c :: rest).length - after.length
        match dottedNames.lookup name with
        | none => .error ⟨(c :: rest).take length, line⟩
        | some plain =>
          (rewriteFrom next (length - 1) rest).map (plainPlaceholder plain ++ ·)

def rewritePlaceholders (text : List Char) : Except UnknownPlaceholder (List Char) :=
  rewriteFrom 1 0 text

end ShaderBundle.Template
