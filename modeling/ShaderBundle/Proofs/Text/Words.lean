import ShaderBundle.Text.Blank
import ShaderBundle.Text.Identifier
import ShaderBundle.Text.WordChar

/-!
# Blanks and words

There are few blanks, and none of them is part of a word or of an identifier: where blanks meet a word, each of the two
ends.

* `disjoint_of_codePoints`: two classes of characters with none in common.
* `isIdentifierContinue_of_mem`, `exists_cons_of_isIdentifier`: what an identifier is made of.
* `head_append`: what a text can start with.
* `dropBlank_append`, `takeWhile_append_eq`, `dropWhile_append_eq`: a text taken apart where its blanks or words end.
-/

namespace ShaderBundle.Text

/-- The code points of a class. -/
def codePoints (ranges : List (Nat × Nat)) : List Nat :=
  ranges.flatMap fun (first, last) => List.range' first (last + 1 - first)

theorem mem_codePoints {ranges : List (Nat × Nat)} {c : Char} (h : inRanges ranges c = true) :
    c.toNat ∈ codePoints ranges := by
  obtain ⟨⟨first, last⟩, hmem, hin⟩ := List.any_eq_true.mp h
  rw [Bool.and_eq_true, decide_eq_true_eq, decide_eq_true_eq] at hin
  exact List.mem_flatMap.mpr ⟨_, hmem, List.mem_range'_1.mpr ⟨hin.1, by omega⟩⟩

/-- What is true of no code point of a class is true of none of its characters. -/
theorem disjoint_of_codePoints {ranges : List (Nat × Nat)} {p : Char → Bool}
    (h : ∀ n ∈ codePoints ranges, p (Char.ofNat n) = false) {c : Char} (hc : inRanges ranges c = true) :
    p c = false := by
  have := h c.toNat (mem_codePoints hc)
  rwa [Char.ofNat_toNat] at this

theorem isWordChar_of_isBlank {c : Char} (h : isBlank c = true) : isWordChar c = false :=
  disjoint_of_codePoints (by decide +kernel) h

theorem isIdentifierContinue_of_isBlank {c : Char} (h : isBlank c = true) : isIdentifierContinue c = false :=
  disjoint_of_codePoints (by decide +kernel) h

theorem not_isBlank_of_identifier {c : Char} (h : isIdentifierContinue c = true) : isBlank c = false :=
  Bool.eq_false_iff.mpr fun hc => by
    rw [isIdentifierContinue_of_isBlank hc] at h
    cases h

/-! ## Identifiers -/

section
variable {cs : List Char} (h : isIdentifier cs = true)
include h

theorem exists_cons_of_isIdentifier : ∃ c rest, cs = c :: rest ∧ isIdentifierStart c = true := by
  cases cs with
  | nil => cases h
  | cons c rest =>
    rw [isIdentifier, Bool.and_eq_true] at h
    exact ⟨c, rest, rfl, h.1⟩

theorem isIdentifierContinue_of_mem {c : Char} (hc : c ∈ cs) : isIdentifierContinue c = true := by
  cases cs with
  | nil => cases h
  | cons d rest =>
    rw [isIdentifier, Bool.and_eq_true, List.all_eq_true] at h
    rcases List.mem_cons.mp hc with rfl | hc
    · rw [isIdentifierContinue, h.1, Bool.true_or]
    · exact h.2 c hc

end

theorem isDigit_bounds {c : Char} (h : c.isDigit = true) : 48 ≤ c.toNat ∧ c.toNat ≤ 57 := by
  simp only [Char.isDigit, Bool.and_eq_true, decide_eq_true_eq, UInt32.le_iff_toNat_le, ge_iff_le] at h
  exact h

/-- A number in decimal is made of digits, and a sign. -/
theorem mem_toString_int {n : Int} {c : Char} (h : c ∈ (toString n).toList) : c = '-' ∨ c.isDigit = true := by
  have hdigits {m : Nat} (hc : c ∈ m.repr.toList) : c.isDigit = true := by
    rw [Nat.toList_repr] at hc
    exact Nat.isDigit_of_mem_toDigits (by decide) (by decide) hc
  cases n with
  | ofNat n => exact Or.inr (hdigits h)
  | negSucc n =>
    have hsign : toString (Int.negSucc n) = "-" ++ (n + 1).repr := rfl
    rw [hsign, String.toList_append, List.mem_append] at h
    rcases h with hminus | hc
    · exact Or.inl (List.mem_singleton.mp hminus)
    · exact Or.inr (hdigits hc)

theorem isDigit_of_isIdentifierStart {c : Char} (h : isIdentifierStart c = true) : c.isDigit = false := by
  refine Bool.eq_false_iff.mpr fun hc => ?_
  obtain ⟨hlow, hhigh⟩ := isDigit_bounds hc
  have hdigits : inRanges [(48, 57)] c = true := by
    rw [inRanges_cons, decide_eq_true hlow, decide_eq_true hhigh]
    rfl
  rw [disjoint_of_codePoints (p := isIdentifierStart) (by decide) hdigits] at h
  cases h

/-! ## Where a run starts -/

/-- A run, be there some of it or none, and what follows it. -/
theorem head_append {P : Char → Prop} {as bs : List Char} (has : ∀ c ∈ as, P c) (hbs : ∀ c, bs.head? = some c → P c) :
    ∀ c, (as ++ bs).head? = some c → P c := by
  intro c hc
  cases as with
  | nil => exact hbs c hc
  | cons d as =>
    cases hc
    exact has c List.mem_cons_self

theorem isIdentifierContinue_of_head {name rest : List Char} (h : isIdentifier name = true) :
    ∀ c, (name ++ rest).head? = some c → isIdentifierContinue c = true := by
  intro c hc
  obtain ⟨d, ds, rfl, -⟩ := exists_cons_of_isIdentifier h
  cases hc
  exact isIdentifierContinue_of_mem h List.mem_cons_self

/-! ## Where a run ends -/

section
variable {p : Char → Bool} {as bs : List Char} (has : ∀ c ∈ as, p c = true) (hbs : ∀ c, bs.head? = some c → p c = false)
include has hbs

theorem takeWhile_append_eq : (as ++ bs).takeWhile p = as := by
  rw [List.takeWhile_append_of_pos has]
  cases bs with
  | nil => rw [List.takeWhile_nil, List.append_nil]
  | cons c bs => rw [List.takeWhile_cons_of_neg (by simp [hbs c rfl]), List.append_nil]

theorem dropWhile_append_eq : (as ++ bs).dropWhile p = bs := by
  rw [List.dropWhile_append_of_pos has]
  cases bs with
  | nil => rfl
  | cons c bs => rw [List.dropWhile_cons_of_neg (by simp [hbs c rfl])]

end

theorem dropBlank_append {as bs : List Char} (has : ∀ c ∈ as, isBlank c = true)
    (hbs : ∀ c, bs.head? = some c → isBlank c = false) : dropBlank (as ++ bs) = bs :=
  dropWhile_append_eq has hbs

end ShaderBundle.Text
