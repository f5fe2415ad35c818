import ShaderBundle.Text.Search

/-!
# Replacing all occurrences

What it does at the front of a text: either the needle stands there and gives way, or the first character is passed
over. The limit of a replacement is one that no text can use up.

* `replace_all_needle`, `replace_all_cons`: the two cases.
-/

namespace ShaderBundle.Text

variable {needle new : List Char}

/-- The characters of an occurrence that is replaced already are passed over. -/
theorem replaceFrom_skip (limit : Nat) (as bs : List Char) :
    replaceFrom needle new limit as.length (as ++ bs) = replaceFrom needle new limit 0 bs := by
  induction as with
  | nil => rfl
  | cons a as ih => simpa [replaceFrom] using ih

/-- Each replacement passes over a character at least. -/
theorem replaceFrom_limit {limit limit' : Nat} (skip : Nat) {cs : List Char} (h : cs.length ≤ limit)
    (h' : cs.length ≤ limit') : replaceFrom needle new limit skip cs = replaceFrom needle new limit' skip cs := by
  induction cs generalizing limit limit' skip with
  | nil => rfl
  | cons c cs ih =>
    rw [List.length_cons] at h h'
    have hpos : 0 < limit := by omega
    have hpos' : 0 < limit' := by omega
    simp only [replaceFrom, hpos, hpos', decide_true, Bool.true_and]
    split
    · exact ih _ (by omega) (by omega)
    · split
      · rw [ih _ (show cs.length ≤ limit - 1 by omega) (show cs.length ≤ limit' - 1 by omega)]
      · rw [ih 0 (show cs.length ≤ limit by omega) (show cs.length ≤ limit' by omega)]

section
variable (h : needle ≠ [])
include h

theorem replace_all_eq (cs : List Char) {limit : Nat} (hl : cs.length ≤ limit) :
    replace needle new none cs = replaceFrom needle new limit 0 cs := by
  have hempty : needle.isEmpty = false := by simpa using h
  simp only [replace, hempty, Option.getD_none, Bool.false_eq_true, if_false]
  exact replaceFrom_limit 0 (Nat.le_succ _) hl

theorem replace_all_nil : replace needle new none [] = [] := replace_all_eq h [] (Nat.zero_le 0)

/-- An occurrence in front gives way, and what follows it is gone on with. -/
theorem replace_all_needle (cs : List Char) :
    replace needle new none (needle ++ cs) = new ++ replace needle new none cs := by
  obtain ⟨c, rest, rfl⟩ := List.exists_cons_of_ne_nil h
  have hfront : (c :: rest).isPrefixOf (c :: (rest ++ cs)) = true :=
    List.isPrefixOf_iff_prefix.mpr (List.prefix_append (c :: rest) cs)
  have hlength : (c :: rest ++ cs).length ≤ (rest ++ cs).length + 1 := Nat.le_refl _
  have hleft : cs.length ≤ (rest ++ cs).length := by simp
  rw [replace_all_eq h _ hlength, replace_all_eq h cs hleft, List.cons_append, replaceFrom]
  simp only [Nat.lt_irrefl, if_false, Nat.succ_pos, decide_true, hfront, Bool.and_self, if_true]
  rw [List.length_cons, Nat.add_sub_cancel, Nat.add_sub_cancel, replaceFrom_skip]

/-- Where no occurrence stands in front, the first character is kept. -/
theorem replace_all_cons {c : Char} {cs : List Char} (hc : ¬needle <+: c :: cs) :
    replace needle new none (c :: cs) = c :: replace needle new none cs := by
  have hfront : needle.isPrefixOf (c :: cs) = false := by
    rw [Bool.eq_false_iff, ne_eq, List.isPrefixOf_iff_prefix]
    exact hc
  rw [replace_all_eq h (c :: cs) (Nat.le_refl _), replace_all_eq h cs (Nat.le_succ _), replaceFrom]
  simp [hfront]

end

end ShaderBundle.Text
