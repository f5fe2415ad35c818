import ShaderBundle.Json.Reader
import ShaderBundle.Workbench.Workspace

/-!
# Descriptions of workspaces

A workspace is described by a document: its files by path, and its tools by name with the rules that they
follow.
-/

namespace ShaderBundle.Description

/-- What is read, or what is wrong with the document. -/
abbrev Decoded := Except String

def need (v : Json) (key : String) : Decoded Json :=
  match v.field? key with
  | some x => .ok x
  | none => .error s!"{key} is missing"

def text : Json → Decoded String
  | .text s => .ok s
  | v => .error s!"{v.display} is no text"

def integer : Json → Decoded Int
  | .integer n => .ok n
  | v => .error s!"{v.display} is no whole number"

def flag : Json → Decoded Bool
  | .bool b => .ok b
  | v => .error s!"{v.display} is no truth value"

def list : Json → Decoded (List Json)
  | .list items => .ok items
  | v => .error s!"{v.display} is no list"

def fields : Json → Decoded (List (String × Json))
  | .object fs => .ok fs
  | v => .error s!"{v.display} is no object"

/-- Bytes as pairs of hexadecimal digits. -/
def bytes (v : Json) : Decoded Bytes := do
  match Text.bytesOfHex? (← text v).toList with
  | some bs => return bs
  | none => throw s!"{v.display} is not hexadecimal"

/-- A key that may be absent or null. -/
def optional {α : Type} (v : Json) (key : String) (read : Json → Decoded α) :
    Decoded (Option α) :=
  match v.field? key with
  | none | some .null => .ok none
  | some x => some <$> read x

def orElse {α : Type} (v : Json) (key : String) (read : Json → Decoded α) (otherwise : α) :
    Decoded α := do
  return (← optional v key read).getD otherwise

def texts (v : Json) : Decoded (List String) := do (← list v).mapM text

/-! ## Files -/

def content (v : Json) : Decoded Workspace.Content := do
  if ← orElse v "dir" flag false then return .directory
  else
    let executable ← orElse v "exec" flag false
    match v.field? "hex" with
    | some h => return .file (← bytes h) executable
    | none => return .file (Text.toUtf8 (← orElse v "text" text "")) executable

/-- Files by path. -/
def files (v : Json) : Decoded (List (String × Workspace.Content)) := do
  (← fields v).mapM fun (path, v) => return (path, ← content v)

/-! ## Tools -/

/-- An output given as text or as bytes. -/
def output (v : Json) (key hexKey : String) : Decoded (Option Bytes) := do
  match ← optional v hexKey bytes with
  | some bs => return some bs
  | none => return (← optional v key text).map Text.toUtf8

def rule (v : Json) : Decoded ToolRule := do
  return {
    language := ← optional v "lang" text
    profile := ← optional v "profile" text
    stage := ← optional v "stage" text
    entry := ← optional v "entry" text
    holds := ← optional v "contains" text
    status := ← orElse v "exit" integer 0
    stdout := ← orElse v "stdout" text ""
    stderr := ← orElse v "stderr" text ""
    skip := ← orElse v "skip" texts []
    writesAlways := ← orElse v "write" flag false
    source := ← output v "source" "source_hex"
    reflection := ← output v "reflect" "reflect_hex"
    bytecode := ← optional v "hex" bytes
    append := ← optional v "append" text
    replace := ← optional v "replace" text
    remove := ← orElse v "remove" flag false }

def kind (v : Json) : Decoded ToolKind := do
  match ← text v with
  | "glslcc" => return .glslcc
  | "fxc" => return .fxc
  | "formatter" => return .formatter
  | other => throw s!"{other} is no kind of tool"

def startFault (v : Json) : Decoded Fault := do
  match ← list v with
  | [number, words] => return ⟨← integer number, ← text words⟩
  | _ => throw "a start error is a number and a text"

def tool (v : Json) : Decoded ScriptedTool := do
  return ⟨← kind (← need v "kind"), ← (← orElse v "rules" list []).mapM rule,
    ← optional v "start_error" startFault⟩

def standardTools : Toolbox :=
  [("glslcc", ⟨.glslcc, [], none⟩), ("fxc", ⟨.fxc, [], none⟩), ("gofmt", ⟨.formatter, [], none⟩)]

def tools (v : Json) : Decoded Toolbox := do
  (← fields v).mapM fun (name, v) => return (name, ← tool v)

/-! ## The whole -/

/-- The tools and the files that a document describes. -/
def workspace (v : Json) : Decoded (Toolbox × Tree) := do
  let box ← orElse v "tools" tools standardTools
  let files ← orElse v "files" files []
  return (box, Workspace.start (box.map (·.1)) files)

/-- Environment variables by name. -/
def environment (v : Json) : Decoded (List (String × String)) := do
  (← fields v).mapM fun (name, v) => return (name, ← text v)

end ShaderBundle.Description
