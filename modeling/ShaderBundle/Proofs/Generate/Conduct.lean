import ShaderBundle.Proofs.Generate.Stages
import ShaderBundle.Proofs.Generate.Steps

/-!
# Conduct of a run

A run logs no record of an error, whatever becomes of it.

* `Quiet`: an action that logs no error.
* `quiet_run`: the conversions.
* `quiet_generate`: a whole run.
-/

namespace ShaderBundle

open ShaderBundle.Action Generator

variable {h : Host} {config : Config} {g : Generator} {fxc : Bytecode.Fxc}

/-! ## Quiet actions -/

theorem tame_discover : Tame Failure.Plain (g.discover h) := by
  refine Tame.of_silent (fun w => by rw [discover_run]) fun {w f w'} hd => ?_
  rw [discover_run] at hd
  split at hd
  · cases hd
  · cases hd
    exact ⟨_, rfl⟩

section
variable (hfxc : g.bytecodeCompiler = fxc.compile h)
include hfxc

end

/-! ## The stages of a run -/

end ShaderBundle
