import Mathlib.Data.List.Infix
import ShaderBundle.Go.Module
import ShaderBundle.Proofs.Text.Occurrences
import ShaderBundle.Text.Blank

/-!
# Where a comment ends

A general comment ends at the first `*/` behind its `/*`. Guarding puts a space between a star and the slash behind
it. It runs through the text once, from the left, and so has to leave no pair behind and to make none of a star and a
slash that were apart before.

* `guardComment_eq`: guarding is replacing each `*/` by `* /`.
* `unended_guardComment`: a guarded text has no `*/`.
* `rejoin_guardComment`: guarding loses nothing but which of the two stood there.
* `comment_closes`: the comment of a variant's sources ends where it is meant to.
-/

namespace ShaderBundle.Go

/-- What ends a comment. -/
def commentEnd : List Char := ['*', '/']

/-- What is written for it inside a comment. -/
def guardedEnd : List Char := ['*', ' ', '/']

/-- Nothing in the text ends a comment. -/
def Unended (cs : List Char) : Prop := ¬commentEnd <:+: cs

/-! ## Texts without an end -/

theorem prefix_commentEnd {c : Char} {cs : List Char} : commentEnd <+: c :: cs ↔ c = '*' ∧ cs.head? = some '/' := by
  cases cs with
  | nil => simp [commentEnd]
  | cons d ds => simp [commentEnd, List.cons_prefix_cons, eq_comm]

theorem prefix_guardedEnd {c : Char} {cs : List Char} :
    guardedEnd <+: c :: cs ↔ c = '*' ∧ ∃ tail, cs = ' ' :: '/' :: tail := by
  constructor
  · rintro ⟨tail, ht⟩
    cases ht
    exact ⟨rfl, tail, rfl⟩
  · rintro ⟨rfl, tail, rfl⟩
    exact List.prefix_append guardedEnd tail

theorem unended_nil : Unended [] := by simp [Unended, commentEnd]

theorem unended_cons {c : Char} {cs : List Char} :
    Unended (c :: cs) ↔ ¬(c = '*' ∧ cs.head? = some '/') ∧ Unended cs := by
  rw [Unended, List.infix_cons_iff, not_or, prefix_commentEnd]
  rfl

theorem unended_of_not_mem {cs : List Char} (h : '*' ∉ cs) : Unended cs := fun hin => h (hin.mem (by decide))

/-- A text that does not start with a slash may follow. -/
theorem Unended.append {as bs : List Char} (ha : Unended as) (hb : Unended bs) (hseam : bs.head? ≠ some '/') :
    Unended (as ++ bs) := by
  induction as with
  | nil => exact hb
  | cons a as ih =>
    obtain ⟨hpair, has⟩ := unended_cons.mp ha
    refine unended_cons.mpr ⟨?_, ih has⟩
    rintro ⟨hstar, hslash⟩
    cases as with
    | nil => exact hseam hslash
    | cons d ds => exact hpair ⟨hstar, hslash⟩

/-- An end put behind such a text is the only one there: none before it reaches into it. -/
theorem Unended.only_end {inside before after : List Char} (h : Unended inside) :
    inside ++ commentEnd = before ++ (commentEnd ++ after) ↔ before = inside ∧ after = [] := by
  constructor
  · intro heq
    rcases List.append_eq_append_iff.mp heq with ⟨mid, rfl, hmid⟩ | ⟨mid, rfl, hmid⟩
    · have hlength := congrArg List.length hmid
      simp only [List.length_append] at hlength
      have hm : mid = [] := List.eq_nil_of_length_eq_zero (by omega)
      have ha : after = [] := List.eq_nil_of_length_eq_zero (by omega)
      simp [hm, ha]
    · rcases mid with _ | ⟨a, _ | ⟨b, rest⟩⟩
      · simpa using hmid
      · -- the last character before the end would be a star, and the slash behind it one too
        simp [commentEnd] at hmid
      · have hab : '*' = a ∧ '/' = b ∧ after = rest ++ commentEnd := by
          simpa [commentEnd] using hmid
        obtain ⟨rfl, rfl, -⟩ := hab
        exact absurd ⟨before, rest, by simp [commentEnd]⟩ h
  · rintro ⟨rfl, rfl⟩
    rw [List.append_nil]

/-! ## Guarding -/

theorem head?_guardComment (cs : List Char) : (guardComment cs).head? = cs.head? := by
  cases cs using guardComment.induct with
  | case1 => rfl
  | case2 rest => rfl
  | case3 c rest hpair =>
    rw [guardComment]
    · rfl
    · exact hpair

/-- Behind a star that is kept there is no slash. -/
theorem unended_guardComment (cs : List Char) : Unended (guardComment cs) := by
  induction cs using guardComment.induct with
  | case1 => exact unended_nil
  | case2 rest ih =>
    rw [guardComment, unended_cons, unended_cons, unended_cons]
    simpa using ih
  | case3 c rest hpair ih =>
    rw [guardComment]
    · refine unended_cons.mpr ⟨?_, ih⟩
      rintro ⟨rfl, hslash⟩
      rw [head?_guardComment] at hslash
      obtain ⟨tail, rfl⟩ := List.head?_eq_some_iff.mp hslash
      exact hpair tail rfl rfl
    · exact hpair

/-- Guarding replaces each end of a comment, from the left. -/
theorem guardComment_eq (cs : List Char) : guardComment cs = Text.replace commentEnd guardedEnd none cs := by
  have hne : commentEnd ≠ [] := by decide
  induction cs using guardComment.induct with
  | case1 => exact (Text.replace_all_nil hne).symm
  | case2 rest ih =>
    have hneedle : Text.replace commentEnd guardedEnd none (commentEnd ++ rest) =
        guardedEnd ++ Text.replace commentEnd guardedEnd none rest := Text.replace_all_needle hne rest
    rw [guardComment, ih]
    exact hneedle.symm
  | case3 c rest hpair ih =>
    have hfront : ¬commentEnd <+: c :: rest := by
      rw [prefix_commentEnd]
      rintro ⟨rfl, hslash⟩
      obtain ⟨tail, rfl⟩ := List.head?_eq_some_iff.mp hslash
      exact hpair tail rfl rfl
    rw [guardComment, ih, Text.replace_all_cons hne hfront]
    exact hpair

/-! ## Reading a guarded text -/

/-- Reads each guarded end as the end that may have stood there. -/
def rejoin (cs : List Char) : List Char := Text.replace guardedEnd commentEnd none cs

theorem guardedEnd_ne_nil : guardedEnd ≠ [] := by decide

theorem rejoin_guardedEnd (cs : List Char) : rejoin ('*' :: ' ' :: '/' :: cs) = '*' :: '/' :: rejoin cs :=
  Text.replace_all_needle guardedEnd_ne_nil cs

theorem rejoin_cons {c : Char} {cs : List Char} (h : ¬guardedEnd <+: c :: cs) : rejoin (c :: cs) = c :: rejoin cs :=
  Text.replace_all_cons guardedEnd_ne_nil h

theorem not_prefix_guardedEnd {c : Char} (hc : c ≠ '*') (cs : List Char) : ¬guardedEnd <+: c :: cs := fun h =>
  hc (prefix_guardedEnd.mp h).1

theorem guardComment_cons {c : Char} (hc : c ≠ '*') (cs : List Char) :
    guardComment (c :: cs) = c :: guardComment cs := by
  rw [guardComment]
  intro tail h
  exact absurd h hc

/-- A space and a slash are kept as they stand, and come from nothing else. -/
theorem guardComment_eq_blank {cs tail : List Char} (h : guardComment cs = ' ' :: '/' :: tail) :
    ∃ rest, cs = ' ' :: '/' :: rest ∧ tail = guardComment rest := by
  have hspace : cs.head? = some ' ' := by rw [← head?_guardComment, h]; rfl
  obtain ⟨ds, rfl⟩ := List.head?_eq_some_iff.mp hspace
  rw [guardComment_cons (by decide), List.cons.injEq] at h
  have hslash : ds.head? = some '/' := by rw [← head?_guardComment, h.2]; rfl
  obtain ⟨rest, rfl⟩ := List.head?_eq_some_iff.mp hslash
  rw [guardComment_cons (by decide), List.cons.injEq] at h
  exact ⟨rest, rfl, h.2.2.symm⟩

/-- A guarded end of the text is not told from a guarded one of its own; all else is kept. -/
theorem rejoin_guardComment (cs : List Char) : rejoin (guardComment cs) = rejoin cs := by
  induction cs using guardComment.induct with
  | case1 => rfl
  | case2 rest ih =>
    have hslash : rejoin ('/' :: rest) = '/' :: rejoin rest :=
      rejoin_cons (not_prefix_guardedEnd (by decide) rest)
    have hstar : rejoin ('*' :: '/' :: rest) = '*' :: rejoin ('/' :: rest) := by
      apply rejoin_cons
      simp [guardedEnd]
    rw [guardComment, rejoin_guardedEnd, ih, hstar, hslash]
  | case3 c rest hpair ih =>
    rw [guardComment]
    · by_cases hfront : guardedEnd <+: c :: rest
      · obtain ⟨rfl, tail, rfl⟩ := prefix_guardedEnd.mp hfront
        have hkept : guardComment (' ' :: '/' :: tail) = ' ' :: '/' :: guardComment tail := by
          rw [guardComment_cons (by decide), guardComment_cons (by decide)]
        -- behind the space and the slash the two sides agree, as they do in front of them
        have hblank (ds : List Char) : rejoin (' ' :: '/' :: ds) = ' ' :: '/' :: rejoin ds := by
          rw [rejoin_cons (not_prefix_guardedEnd (by decide) _), rejoin_cons (not_prefix_guardedEnd (by decide) _)]
        rw [hkept, hblank, hblank, List.cons.injEq, List.cons.injEq] at ih
        rw [hkept, rejoin_guardedEnd, rejoin_guardedEnd, ih.2.2]
      · have hguarded : ¬guardedEnd <+: c :: guardComment rest := by
          intro h
          obtain ⟨rfl, tail, htail⟩ := prefix_guardedEnd.mp h
          obtain ⟨ds, rfl, -⟩ := guardComment_eq_blank htail
          exact hfront (List.prefix_append guardedEnd ds)
        rw [rejoin_cons hguarded, rejoin_cons hfront, ih]
    · exact hpair

/-! ## The comment of a variant's sources -/

theorem mem_sourceFields_comment (s : VariantSources) (indent : String) :
    comment indent s.hlslText ∈ sourceFields s indent := by
  simp [sourceFields]

/-- Blanks are neither stars nor slashes. -/
theorem not_mem_blanks {cs : List Char} (h : ∀ c ∈ cs, Text.isBlank c = true) : '*' ∉ cs := by
  intro hstar
  have := h _ hstar
  contradiction

/-- The sources of a variant are written with one comment that holds their HLSL text. The only end behind its opening
is its own: what stands between is the guarded text on lines of its own, and that has none. The guarded text has a
guarded end for each end of the text, and is the text again where both are read alike. -/
theorem comment_closes {s : VariantSources} {indent : String} (hi : ∀ c ∈ indent.toList, Text.isBlank c = true)
    (hs : checkSources s = .ok ()) :
    ∃ lines block body, emitSources s indent = .ok lines ∧ block ∈ lines ∧
      let inside := '\n' :: (body ++ '\n' :: (indent.toList ++ ['\t']))
      block.toList = indent.toList ++ '\t' :: '/' :: '*' :: (inside ++ commentEnd) ∧
      (∀ before after, inside ++ commentEnd = before ++ (commentEnd ++ after) ↔ before = inside ∧ after = []) ∧
      ¬commentEnd <:+: body ∧
      body = Text.replace commentEnd guardedEnd none s.hlslText.toList ∧
      Text.replace guardedEnd commentEnd none body = Text.replace guardedEnd commentEnd none s.hlslText.toList := by
  have hlines : emitSources s indent = .ok (sourceLines "" "" s indent) := by
    rw [emitSources, hs]
    rfl
  have hbody := unended_guardComment s.hlslText.toList
  have hinside : Unended ('\n' :: (guardComment s.hlslText.toList ++ '\n' :: (indent.toList ++ ['\t']))) := by
    have hindent : Unended ('\n' :: (indent.toList ++ ['\t'])) := by
      apply unended_of_not_mem
      simpa using not_mem_blanks hi
    exact unended_cons.mpr ⟨by simp, hbody.append hindent (by simp)⟩
  refine ⟨_, comment (indent ++ "\t") s.hlslText, guardComment s.hlslText.toList, hlines, ?_, ?_, ?_, hbody,
    guardComment_eq _, rejoin_guardComment _⟩
  · rw [sourceLines]
    exact List.mem_cons_of_mem _ (List.mem_append_left _ (mem_sourceFields_comment s (indent ++ "\t")))
  · simp [comment, commentEnd]
  · exact fun before after => hinside.only_end

/-! Stars and slashes in all orders, and an end that is guarded already. -/

def starredVariant : VariantSources := { hlslText := "/**/*/ * / **//*" }

theorem comment_starred : ∃ lines block, emitSources starredVariant " \t" = .ok lines ∧ block ∈ lines ∧
    block = " \t\t/*\n/** /* / * / ** //*\n \t\t*/" := by
  have hblank : ∀ c ∈ " \t".toList, Text.isBlank c = true := List.all_eq_true.mp rfl
  obtain ⟨lines, block, body, hlines, hmem, htext, -, -, hbody, -⟩ := comment_closes (s := starredVariant) hblank rfl
  refine ⟨lines, block, hlines, hmem, ?_⟩
  rw [← String.toList_inj, htext, hbody]
  decide

end ShaderBundle.Go
