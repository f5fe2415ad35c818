import ShaderBundle.Action
import ShaderBundle.Template.Render

/-!
# Rendered shaders

A shader file is a template; the files beside it can be included. Its rendering for one variant is written to a
scratch file that lasts as long as it is worked on.
-/

namespace ShaderBundle.Shader

/-- The path of a template in a directory; a name that would lead out of it has none. -/
def templatePath? (directory name : String) : Option String :=
  let pieces := Text.splitOn '/' name
  if pieces.contains ".." then none
  else some ((pieces.filter Path.isPart).foldl Tree.inside directory)

/-- The templates of a directory, as the loader of `_environment` finds and reads them. -/
def libraryOf (t : Tree) (here : Location) (directory : String) : Template.Library := fun name =>
  match (templatePath? directory name).map (t.readFile here) with
  | some (.ok bytes) =>
    match Text.Utf8.decodeFrom false 0 bytes with
    | .ok cs => .text cs
    | .error fault => .undecodable fault.message
  | _ => .missing

/-- How `render_shader` reports a rendering that stops. -/
def stopFailure (path : String) : Template.Stop → Failure
  | .missing => .reported ⟨.template (.unreadable path) (some path), none⟩
  | .malformed m => .reported ⟨.template (.malformed path m.line m.detail) (some path), none⟩
  | .undefined detail => .reported ⟨.template (.undefined path detail) (some path), none⟩
  | .undecodable detail => .reported ⟨.template (.undecodable path detail) (some path), none⟩
  | .crash c => .crashed c

/-- The text of a shader for one variant. Mirrors `render_shader`, with `render`. -/
def renderIn (t : Tree) (here : Location) (path : Path) (args : VariantArgs) :
    Except Failure String :=
  (Template.render (libraryOf t here path.parent.text) path.name args).mapError
    (stopFailure path.text)

def render (h : Host) (path : Path) (args : VariantArgs) : Action String := do
  match renderIn (← get).tree h.here path args with
  | .ok text => return text
  | .error f => throw f

/-- Removes a scratch file that may be gone already. -/
def removeScratch (h : Host) (path : String) : Action Unit := Action.clear (·.removeFile h.here path)

/-- The scratch file of a shader, which keeps the shader's name. -/
def scratchFile (scratch : Path) (path : String) : Path := scratch.join (.ofText (Path.ofText path).name)

/-- Works on the rendering of a shader, in its scratch file. Mirrors `rendered_shader`. -/
def withRendered {α : Type} (h : Host) (path : String) (args : VariantArgs) (scratch : Path)
    (body : Path → Action α) : Action α := do
  let text ← render h (.ofText path) args
  let file := scratchFile scratch path
  match ← Action.save h file.text text with
  | .error e => Action.fail (.file (.cannotWrite file.text e.message) (some file.text))
  | .ok () =>
    Action.log .debug s!"Rendered {path} to {file.text}"
    Action.ensure (body file) (removeScratch h file.text)

end ShaderBundle.Shader
