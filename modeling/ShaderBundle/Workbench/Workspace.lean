import ShaderBundle.Workbench.Toolbox
import ShaderBundle.Files.Path

/-!
# Workspaces

A directory with shaders, tools and scratch space in it, to try a run out in. It is called `/w`; its tools are in
`bin`, scratch files in `scratch`, and the scratch directories of runs are made in `tmp`.
-/

namespace ShaderBundle

namespace Workspace

def root : Location := ["w"]

def toolDir : String := "/w/bin"

/-- A host in the workspace with scripted tools. -/
def host (box : Toolbox) : Host where
  here := root
  toolPath := [toolDir]
  scratchRoot := "/w/tmp"
  scratchName := "shader-convertXXXXXXXX"
  tools := box.run root toolDir

/-! ## Contents -/

inductive Content
  | file (bytes : Bytes) (executable : Bool)
  | directory

def Content.entry : Content → Entry
  | .file bytes executable => .file bytes executable
  | .directory => .directory

/-- The location of a path in the workspace. -/
def place (path : String) : Location :=
  let p := Path.ofText path
  if p.isAbsolute then p.parts else root ++ p.parts

/-- Makes the directories that are missing above a location. -/
def withParents (t : Tree) (l : Location) : Tree :=
  (List.range l.length).foldl
    (fun t n =>
      let above := l.take n
      if (t.get? above).isNone then t.put above .directory else t)
    t

def putContent (t : Tree) (path : String) (content : Content) : Tree :=
  let l := place path
  match content, t.get? l with
  | .directory, some .directory => t
  | _, _ => (withParents t l).put l content.entry

/-- The workspace at the start: its directories, the executables of its tools, and its files. -/
def start (tools : List String) (files : List (String × Content)) : Tree :=
  let empty : Tree := (["bin", "scratch", "tmp"].foldl
    (fun t name => t.put (root ++ [name]) .directory) (Tree.put {} root .directory))
  let withTools := tools.foldl
    (fun t name => t.put (root ++ ["bin", name]) (.file [] true)) empty
  files.foldl (fun t (path, content) => putContent t path content) withTools

/-- The line for an entry in a listing; tools are not listed. -/
def listed? : Location × Entry → Option String
  | (_ :: first :: rest, entry) =>
    if first = "bin" then none
    else
      let name := "/".intercalate (first :: rest)
      some (match entry with
        | .directory => name ++ "/"
        | .file .. => name)
  | _ => none

/-- Everything in the workspace but its tools, in the order of the paths. -/
def listing (t : Tree) : List String :=
  (t.entries.filterMap listed?).mergeSort fun a b => decide (a ≤ b)

end Workspace

end ShaderBundle
