/-!
# Character classes as ranges

A character class is a list of closed ranges of code points.
-/

namespace ShaderBundle.Text

/-- Whether a character lies in one of the ranges. -/
def inRanges (ranges : List (Nat × Nat)) (c : Char) : Bool :=
  ranges.any fun (first, last) => first ≤ c.toNat && c.toNat ≤ last

theorem inRanges_cons (first last : Nat) (ranges : List (Nat × Nat)) (c : Char) :
    inRanges ((first, last) :: ranges) c =
      ((decide (first ≤ c.toNat) && decide (c.toNat ≤ last)) || inRanges ranges c) := rfl

end ShaderBundle.Text
