import Mathlib.Logic.Function.Iterate
import ShaderBundle.Proofs.Text.Places
import ShaderBundle.Shader.Sources

/-!
# GLSL 1.50 from GLSL 1.30

Moving a source on changes one character of its first version directive. No directive comes about by that and no other
one is lost, so that moving on again goes through the directives from the left.

* `directives`: where the version directives of GLSL 1.30 stand.
* `directives_iterate`, `getElem?_iterate`: what is left of them, and every character, however often a source is moved on.
* `to150_repeated`: the directives that are changed, and all that is kept.
-/

namespace ShaderBundle.Glsl

/-- The places of the version directives of GLSL 1.30. -/
def directives (source : String) : List Nat := Text.places version130 source.toList

/-- Within a directive, the place of the character that tells the two versions apart. -/
def versionDigit : Nat := 10

theorem version150_eq : version150 = version130.set versionDigit '5' := by decide

/-- Nowhere else does a directive hold the character that it starts with. -/
theorem version130_marked : version130 = '#' :: "version 130".toList ∧ '#' ∉ "version 130".toList := by decide

theorem version150_marked : version150 = '#' :: "version 150".toList ∧ '#' ∉ "version 150".toList := by decide

variable {s : String} {p : Nat}

theorem mem_directives : p ∈ directives s ↔ version130 <+: s.toList.drop p := Text.mem_places (by decide)

/-- A directive character by character. -/
theorem getElem?_directive (h : p ∈ directives s) {j : Nat} (hj : j < version130.length) :
    s.toList[p + j]? = version130[j]? := Text.prefix_drop_iff.mp (mem_directives.mp h) j hj

/-! ## Once -/

theorem toList_to150 (s : String) : (to150 s).toList = Text.replaceFirst version130 version150 s.toList :=
  String.toList_ofList

theorem directives_to150 (s : String) : directives (to150 s) = (directives s).tail := by
  rw [directives, directives, toList_to150, version130_marked.1, version150_marked.1]
  exact Text.places_replaceFirst version130_marked.2 version150_marked.2 (by decide) (by decide) s.toList

theorem to150_of_nil (h : directives s = []) : to150 s = s := by
  have hcut : Text.cut version130 s.toList = none := (Text.cut_eq_none (by decide)).mpr h
  rw [to150, Text.replaceFirst, hcut, String.ofList_toList]

theorem toList_to150_of_cons {rest : List Nat} (h : directives s = p :: rest) :
    (to150 s).toList = s.toList.set (p + versionDigit) '5' := by
  cases hcut : Text.cut version130 s.toList with
  | none =>
    have hnone : directives s = [] := (Text.cut_eq_none (by decide)).mp hcut
    rw [hnone] at h
    cases h
  | some found =>
    obtain ⟨before, after⟩ := found
    have hdigit : versionDigit < version130.length := by decide
    obtain ⟨more, hplaces⟩ : ∃ more, directives s = before.length :: more := by
      rw [version130_marked.1] at hcut
      rw [directives, version130_marked.1, Text.places_of_cut version130_marked.2 hcut]
      exact ⟨_, rfl⟩
    obtain rfl : before.length = p := (List.cons.inj (hplaces.symm.trans h)).1
    rw [toList_to150, Text.replaceFirst, hcut, ← Text.append_of_cut hcut, version150_eq]
    dsimp only
    rw [List.append_assoc, List.append_assoc, List.set_append_right _ _ (Nat.le_add_right _ _), Nat.add_sub_cancel_left,
      List.set_append_left _ _ hdigit]

/-! ## Again and again -/

theorem directives_iterate (s : String) (k : Nat) : directives (to150^[k] s) = (directives s).drop k := by
  induction k with
  | zero => rfl
  | succ k ih => rw [Function.iterate_succ_apply', directives_to150, ih, List.tail_drop]

theorem length_iterate (s : String) (k : Nat) : (to150^[k] s).length = s.length := by
  have honce (s : String) : (to150 s).length = s.length := by
    cases h : directives s with
    | nil => rw [to150_of_nil h]
    | cons p rest => rw [← String.length_toList, toList_to150_of_cons h, List.length_set, String.length_toList]
  induction k with
  | zero => rfl
  | succ k ih => rw [Function.iterate_succ_apply', honce, ih]

/-- The first directives are changed, and all else is as before. -/
theorem getElem?_iterate (s : String) (k i : Nat) : (to150^[k] s).toList[i]? =
    if ∃ p ∈ (directives s).take k, i = p + versionDigit then some '5' else s.toList[i]? := by
  induction k generalizing s with
  | zero => simp
  | succ k ih =>
    rw [Function.iterate_succ_apply]
    cases h : directives s with
    | nil => rw [to150_of_nil h, ih s, h, List.take_nil, List.take_nil]
    | cons p rest =>
      have hplace : s.toList[p + versionDigit]? = some '3' := getElem?_directive (h ▸ List.mem_cons_self) (by decide)
      obtain ⟨hlength, -⟩ := List.getElem?_eq_some_iff.mp hplace
      rw [ih (to150 s), directives_to150, toList_to150_of_cons h, h, List.tail_cons, List.take_succ_cons]
      by_cases hlater : ∃ q ∈ rest.take k, i = q + versionDigit
      · rw [if_pos hlater, if_pos (List.exists_mem_cons_of_exists hlater)]
      · rw [if_neg hlater]
        by_cases hfirst : i = p + versionDigit
        · rw [hfirst, List.getElem?_set_self hlength, if_pos ⟨p, List.mem_cons_self, rfl⟩]
        · rw [List.getElem?_set_ne (Ne.symm hfirst), if_neg]
          rintro ⟨q, hq, hi⟩
          rcases List.mem_cons.mp hq with rfl | hq
          · exact hfirst hi
          · exact hlater ⟨q, hq, hi⟩

/-- A directive that has been reached is one of the other version: of its characters one is changed, and the one of no
other directive is among the rest. -/
theorem version150_of_iterate {k : Nat} (hp : p ∈ (directives s).take k) :
    version150 <+: (to150^[k] s).toList.drop p := by
  have hmem := List.mem_of_mem_take hp
  have hthree : ∀ j < version130.length, version130[j]? = some '3' → j = versionDigit := by decide
  refine Text.prefix_drop_iff.mpr fun j hj => ?_
  rw [version150_eq, List.length_set] at hj
  rw [getElem?_iterate]
  by_cases hdigit : j = versionDigit
  · rw [hdigit, if_pos ⟨p, hp, rfl⟩]
    rfl
  · rw [if_neg, getElem?_directive hmem hj, version150_eq, List.getElem?_set_ne (Ne.symm hdigit)]
    rintro ⟨q, hq, hqj⟩
    have hplace : s.toList[q + versionDigit]? = some '3' := getElem?_directive (List.mem_of_mem_take hq) (by decide)
    rw [← hqj, getElem?_directive hmem hj] at hplace
    exact hdigit (hthree j hj hplace)

theorem changed_iterate (s : String) (k i : Nat) :
    (to150^[k] s).toList[i]? ≠ s.toList[i]? ↔ ∃ p ∈ (directives s).take k, i = p + versionDigit := by
  rw [getElem?_iterate]
  constructor
  · intro hchanged
    by_contra hnone
    rw [if_neg hnone] at hchanged
    exact hchanged rfl
  · rintro ⟨p, hp, rfl⟩
    have hplace : s.toList[p + versionDigit]? = some '3' := getElem?_directive (List.mem_of_mem_take hp) (by decide)
    rw [if_pos ⟨p, hp, rfl⟩, hplace]
    decide

/-- A source without a directive stays as it is. Otherwise one character is changed, within the first directive, which
becomes one of GLSL 1.50; the other directives stay. A source that is moved on `k` times keeps its length: of its `m`
directives the first `min k m` are changed in this way and the others are left, and no character is changed elsewhere. -/
theorem to150_repeated (s : String) :
    (to150 s).length = s.length ∧
    (directives s = [] → to150 s = s) ∧
    (∀ p rest, directives s = p :: rest → directives (to150 s) = rest ∧ version150 <+: (to150 s).toList.drop p ∧
      ∀ i, (to150 s).toList[i]? ≠ s.toList[i]? ↔ i = p + versionDigit) ∧
    ∀ k, ∃ changed left, directives s = changed ++ left ∧ changed.length = min k (directives s).length ∧
      (to150^[k] s).length = s.length ∧ directives (to150^[k] s) = left ∧
      (∀ p ∈ changed, version150 <+: (to150^[k] s).toList.drop p) ∧
      ∀ i, (to150^[k] s).toList[i]? ≠ s.toList[i]? ↔ ∃ p ∈ changed, i = p + versionDigit := by
  refine ⟨length_iterate s 1, to150_of_nil, fun p rest h => ⟨?_, ?_, fun i => ?_⟩, fun k => ?_⟩
  · rw [directives_to150, h, List.tail_cons]
  · exact version150_of_iterate (k := 1) (h ▸ List.mem_cons_self)
  · have hchanged := changed_iterate s 1 i
    rw [h, List.take_succ_cons, List.take_zero] at hchanged
    simpa using hchanged
  · exact ⟨_, _, (List.take_append_drop k _).symm, List.length_take, length_iterate s k, directives_iterate s k,
      fun p => version150_of_iterate, changed_iterate s k⟩

/-! One directive is cut short by the next, and one stands at the end. -/

def crowded : String := "#version 130#version 13#version 130\n##version 130"

theorem to150_crowded : directives crowded = [0, 23, 37] ∧ directives (to150 crowded) = [23, 37] ∧
    (to150^[2] crowded).length = 49 ∧ directives (to150^[2] crowded) = [37] ∧
    version150 <+: (to150^[2] crowded).toList.drop 23 ∧ to150 "#version 13" = "#version 13" := by
  have hplaces : directives crowded = [0, 23, 37] := by decide
  have hnone : directives "#version 13" = [] := by decide
  obtain ⟨-, -, honce, htwice⟩ := to150_repeated crowded
  obtain ⟨changed, left, hsplit, hcount, hlength, hleft, hchanged, -⟩ := htwice 2
  rw [hplaces] at hsplit hcount
  obtain ⟨rfl, rfl⟩ := List.append_inj (show [0, 23] ++ [37] = changed ++ left from hsplit) hcount.symm
  exact ⟨hplaces, (honce 0 [23, 37] hplaces).1, hlength, hleft, hchanged 23 (by decide),
    (to150_repeated "#version 13").2.1 hnone⟩

end ShaderBundle.Glsl
