import ShaderBundle.Proofs.Template.Spelling
import ShaderBundle.Template.Lexer

/-!
# The lines of a respelled text

A text is made of dotted placeholders and of characters that stand for themselves. Respelling puts a plain placeholder
without line ends in the place of each dotted one: where that one spans several lines, all that follows moves up.

* `spans`: the pieces of a text.
* `rewritePlaceholders_spans`, `respell_known`, `respell_unknown`: what respelling makes of them.
* `newlines_writtenText`: how far the text behind some pieces moves up.
-/

namespace ShaderBundle.Template

theorem newlines_append (as bs : List Char) : newlines (as ++ bs) = newlines as + newlines bs := List.count_append

theorem newlines_nil : newlines [] = 0 := rfl

theorem newlines_cons (c : Char) (cs : List Char) : newlines (c :: cs) = newlines [c] + newlines cs :=
  newlines_append [c] cs

/-! ## Pieces -/

/-- A character that stands for itself, or a dotted placeholder as it is written. -/
inductive Span
  | char (c : Char)
  | dotted (written name : List Char)

namespace Span

def written : Span → List Char
  | .char c => [c]
  | .dotted written _ => written

/-- What it is respelled as, if it is known. -/
def respelled : Span → List Char
  | .char c => [c]
  | .dotted _ name => plainPlaceholder ((dottedNames.lookup name).getD [])

/-- It is no placeholder, or one of an argument. -/
def Known : Span → Prop
  | .char _ => True
  | .dotted _ name => ∃ plain, dottedNames.lookup name = some plain

instance decidableKnown : (s : Span) → Decidable s.Known
  | .char _ => isTrue trivial
  | .dotted _ _ => decidable_of_iff _ Option.isSome_iff_exists

/-- What is written of a placeholder, and nothing of other characters. -/
def tag : Span → List Char
  | .char _ => []
  | .dotted written _ => written

end Span

/-- The pieces of a text, but for so many characters at its start. -/
def spansFrom (skip : Nat) : List Char → List Span
  | [] => []
  | c :: rest =>
    if skip > 0 then spansFrom (skip - 1) rest
    else
      match placeholderAt? (c :: rest) with
      | none => .char c :: spansFrom 0 rest
      | some (name, after) =>
        let length := (c :: rest).length - after.length
        .dotted ((c :: rest).take length) name :: spansFrom (length - 1) rest

def spans (text : List Char) : List Span := spansFrom 0 text

def writtenText (ss : List Span) : List Char := ss.flatMap Span.written

def respelledText (ss : List Span) : List Char := ss.flatMap Span.respelled

/-- The line ends within placeholders, which their plain spellings do not have. -/
def foldedLines (ss : List Span) : Nat := newlines (ss.flatMap Span.tag)

/-- A placeholder has at least one character. -/
theorem length_of_placeholderAt? {c : Char} {rest name after : List Char}
    (h : placeholderAt? (c :: rest) = some (name, after)) : after.length ≤ rest.length := by
  obtain ⟨written, hdotted, htext⟩ := placeholderAt?_eq_some.mp h
  obtain ⟨inside, rfl, -⟩ := hdotted.eq_cons
  have hlength := congrArg List.length htext
  simp only [List.length_append, List.length_cons] at hlength
  omega

theorem take_of_placeholderAt? {c : Char} {rest name after : List Char}
    (h : placeholderAt? (c :: rest) = some (name, after)) :
    (c :: rest).take ((c :: rest).length - after.length) =
      c :: rest.take ((c :: rest).length - after.length - 1) := by
  have hlength := length_of_placeholderAt? h
  obtain ⟨n, hn⟩ : ∃ n, (c :: rest).length - after.length = n + 1 :=
    ⟨rest.length - after.length, by rw [List.length_cons]; omega⟩
  rw [hn, List.take_succ_cons, Nat.add_sub_cancel]

theorem writtenText_spansFrom (text : List Char) : ∀ skip, writtenText (spansFrom skip text) = text.drop skip := by
  induction text with
  | nil => exact fun skip => (List.drop_nil).symm
  | cons c rest ih =>
    intro skip
    rw [spansFrom]
    split
    · next hskip =>
      obtain ⟨n, rfl⟩ : ∃ n, skip = n + 1 := ⟨skip - 1, by omega⟩
      exact ih n
    · next hskip =>
      obtain rfl : skip = 0 := by omega
      split
      · exact congrArg (c :: ·) ((ih 0).trans List.drop_zero)
      · next name after hat =>
        dsimp only
        rw [take_of_placeholderAt? hat, writtenText, List.flatMap_cons, ← writtenText, ih, Span.written,
          List.cons_append, List.take_append_drop, List.drop_zero]

/-- The pieces make up the text. -/
theorem writtenText_spans (text : List Char) : writtenText (spans text) = text := by
  rw [spans, writtenText_spansFrom, List.drop_zero]

/-! ## Respelling -/

/-- Respells the pieces of a text from a line on, up to one that is not known. -/
def respell (line : Nat) : List Span → Except UnknownPlaceholder (List Char)
  | [] => .ok []
  | .char c :: ss => (respell (line + newlines [c]) ss).map (c :: ·)
  | .dotted written name :: ss =>
    match dottedNames.lookup name with
    | none => .error ⟨written, line⟩
    | some plain => (respell (line + newlines written) ss).map (plainPlaceholder plain ++ ·)

theorem rewriteFrom_spansFrom (text : List Char) : ∀ line skip,
    rewriteFrom line skip text = respell (line + newlines (text.take skip)) (spansFrom skip text) := by
  have hnext (line : Nat) (c : Char) : (if c = '\n' then line + 1 else line) = line + newlines [c] := by
    unfold newlines
    split <;> simp_all
  induction text with
  | nil => exact fun line skip => rfl
  | cons c rest ih =>
    intro line skip
    rw [rewriteFrom, spansFrom, hnext]
    split
    · next hskip =>
      obtain ⟨n, rfl⟩ : ∃ n, skip = n + 1 := ⟨skip - 1, by omega⟩
      rw [Nat.add_sub_cancel, ih, List.take_succ_cons, newlines_cons c (rest.take n), Nat.add_assoc]
    · next hskip =>
      obtain rfl : skip = 0 := by omega
      rw [List.take_zero, newlines_nil, Nat.add_zero]
      cases hat : placeholderAt? (c :: rest) with
      | none =>
        dsimp only
        rw [respell, ih, List.take_zero, newlines_nil, Nat.add_zero]
      | some found =>
        obtain ⟨name, after⟩ := found
        dsimp only
        rw [respell]
        cases dottedNames.lookup name with
        | none => rfl
        | some plain =>
          dsimp only
          rw [ih, take_of_placeholderAt? hat, newlines_cons c (rest.take _), Nat.add_assoc]

theorem rewritePlaceholders_spans (text : List Char) : rewritePlaceholders text = respell 1 (spans text) := by
  rw [rewritePlaceholders, rewriteFrom_spansFrom, List.take_zero]
  rfl

/-- Known placeholders are respelled one by one. -/
theorem respell_known {ss : List Span} (h : ∀ s ∈ ss, s.Known) (line : Nat) : respell line ss = .ok (respelledText ss) := by
  induction ss generalizing line with
  | nil => rfl
  | cons s ss ih =>
    have hrest := ih (fun s hs => h s (List.mem_cons_of_mem _ hs))
    cases s with
    | char c => rw [respell, hrest]; rfl
    | dotted written name =>
      obtain ⟨plain, hplain⟩ : (Span.dotted written name).Known := h _ List.mem_cons_self
      rw [respell, hplain]
      dsimp only
      rw [hrest, respelledText, respelledText, List.flatMap_cons, Span.respelled, hplain]
      rfl

/-- The first placeholder that is not known is refused, on the line on which it starts. -/
theorem respell_unknown {before after : List Span} {written name : List Char} (hbefore : ∀ s ∈ before, s.Known)
    (hname : ¬(Span.dotted written name).Known) (line : Nat) :
    respell line (before ++ .dotted written name :: after) = .error ⟨written, line + newlines (writtenText before)⟩ := by
  induction before generalizing line with
  | nil =>
    have hlookup : dottedNames.lookup name = none := Option.eq_none_iff_forall_ne_some.mpr fun plain h => hname ⟨plain, h⟩
    rw [List.nil_append, respell, hlookup]
    rfl
  | cons s before ih =>
    have hrest := ih (fun s hs => hbefore s (List.mem_cons_of_mem _ hs))
    rw [writtenText, List.flatMap_cons, newlines_append, ← writtenText, ← Nat.add_assoc, List.cons_append]
    cases s with
    | char c => rw [respell, hrest]; rfl
    | dotted written name =>
      obtain ⟨plain, hplain⟩ : (Span.dotted written name).Known := hbefore _ List.mem_cons_self
      rw [respell, hplain]
      dsimp only
      rw [hrest]
      rfl

/-! ## Lines -/

/-- No plain placeholder spans lines. -/
theorem newlines_plainPlaceholder {name plain : List Char} (h : dottedNames.lookup name = some plain) :
    newlines (plainPlaceholder plain) = 0 := by
  obtain ⟨before, after, heq, -⟩ := List.lookup_eq_some_iff.mp h
  have hall : ∀ entry ∈ dottedNames, newlines (plainPlaceholder entry.2) = 0 := by decide
  exact hall (name, plain) (heq ▸ List.mem_append_right before List.mem_cons_self)

/-- Behind known pieces, the text moves up by the line ends within their placeholders. -/
theorem newlines_writtenText {ss : List Span} (h : ∀ s ∈ ss, s.Known) :
    newlines (writtenText ss) = newlines (respelledText ss) + foldedLines ss := by
  induction ss with
  | nil => rfl
  | cons s ss ih =>
    have hrest := ih (fun s hs => h s (List.mem_cons_of_mem _ hs))
    have hfirst : newlines s.written = newlines s.respelled + newlines s.tag := by
      cases s with
      | char c => rfl
      | dotted written name =>
        obtain ⟨plain, hplain⟩ : (Span.dotted written name).Known := h _ List.mem_cons_self
        rw [Span.respelled, hplain, Option.getD_some, newlines_plainPlaceholder hplain, Nat.zero_add]
        rfl
    simp only [writtenText, respelledText, foldedLines, List.flatMap_cons, newlines_append] at hrest ⊢
    omega

/-- The text does not move if no placeholder spans lines. -/
theorem foldedLines_eq_zero {ss : List Span} :
    foldedLines ss = 0 ↔ ∀ written name, Span.dotted written name ∈ ss → '\n' ∉ written := by
  rw [foldedLines, newlines, List.count_eq_zero, List.mem_flatMap, not_exists]
  constructor
  · exact fun h written name hmem hline => h _ ⟨hmem, hline⟩
  · rintro h (c | ⟨written, name⟩) ⟨hmem, hline⟩
    · cases hline
    · exact h written name hmem hline

end ShaderBundle.Template
