import ShaderBundle.CrossCompiler
import ShaderBundle.Proofs.Action.Laws
import ShaderBundle.Proofs.Files.Folder

/-!
# Outputs of tools in a folder

A tool writes an output or leaves what is there, and what has been read of it is removed.

* `Folder.writeOutput`: what is there after a run.
* `discard_adds`: what is there once it is removed.
-/

namespace ShaderBundle

open ShaderBundle.Action ShaderBundle.Tree

/-! ## Names -/

def CrossCompiler.sourceName (stage : Stage) : String := outputBase ++ "_" ++ stage.outputSuffix

def CrossCompiler.reflectionName (stage : Stage) : String := outputBase ++ "_" ++ stage.outputSuffix ++ ".json"

theorem isName_source (stage : Stage) : IsName (CrossCompiler.sourceName stage) := by
  cases stage <;> decide

theorem isName_reflection (stage : Stage) : IsName (CrossCompiler.reflectionName stage) := by
  cases stage <;> decide

theorem isName_hlsl : IsName "shader.hlsl" := by decide

theorem isName_cso : IsName "shader.cso" := by decide

/-! ## Writing and removing -/

/-- Writes an output, or leaves what is there. -/
def Tree.writeOutput (t : Tree) (here : Location) (path : String) : Option Bytes → Except FileError Tree
  | none => .ok t
  | some content => t.writeFile here path content

variable {h : Host} {t0 t : Tree} {here s : Location} {p : Path} {files : Files} {w : World} {n m : String}

theorem Tree.Folder.writeOutput (hd : Folder t0 here p s) (ha : Adds t0 s files t) (hn : IsName n)
    (hfree : t0.get? (s ++ [n]) = none) (content : Option Bytes) :
    ∃ t', t.writeOutput here (p.child n).text content = .ok t' ∧
      Adds t0 s (Function.update files n (content.or (files n))) t' := by
  cases content with
  | none => exact ⟨t, rfl, by rwa [Option.none_or, Function.update_eq_self]⟩
  | some bytes => exact hd.writeFile ha hn hfree bytes

theorem discard_adds (hd : Folder t0 h.here p s) (ha : Adds t0 s files w.tree) (hn : IsName n)
    (hfree : t0.get? (s ++ [n]) = none) :
    ∃ t, discard h (p.child n).text w = (.ok (), { w with tree := t }) ∧
      Adds t0 s (Function.update files n none) t := by
  unfold Action.discard
  rw [bind_run, attempt_run]
  cases hr : w.tree.removeFile h.here (p.child n).text with
  | ok t => exact ⟨t, rfl, hd.removeFile_ok ha hn hfree hr⟩
  | error e =>
    refine ⟨w.tree, rfl, ?_⟩
    have hnone := hd.removeFile_error ha hn hfree hr
    rwa [← hnone, Function.update_eq_self]

/-- Both of two files. -/
theorem discard_two (hd : Folder t0 h.here p s) (ha : Adds t0 s files w.tree) (hn : IsName n) (hm : IsName m)
    (hfree : t0.get? (s ++ [n]) = none) (hfree' : t0.get? (s ++ [m]) = none) :
    ∃ t, (do discard h (p.child n).text; discard h (p.child m).text : Action Unit) w =
        (.ok (), { w with tree := t }) ∧
      Adds t0 s (Function.update (Function.update files n none) m none) t := by
  obtain ⟨t1, hfirst, ha1⟩ := discard_adds hd ha hn hfree
  obtain ⟨t2, hsecond, ha2⟩ := discard_adds (w := { w with tree := t1 }) hd ha1 hm hfree'
  exact ⟨t2, bind_ok.mpr ⟨(), _, hfirst, hsecond⟩, ha2⟩

/-- Files that are taken away again. -/
theorem update_taken (hm : files m = none) (hn : files n = none) (x y : Option Bytes) :
    Function.update (Function.update (Function.update (Function.update files m x) n y) m none) n none = files := by
  funext k
  by_cases hkn : k = n
  · rw [hkn, Function.update_self, hn]
  · rw [Function.update_of_ne hkn]
    by_cases hkm : k = m
    · rw [hkm, Function.update_self, hm]
    · rw [Function.update_of_ne hkm, Function.update_of_ne hkn, Function.update_of_ne hkm]

end ShaderBundle
