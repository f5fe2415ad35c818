import Mathlib.Data.List.Infix
import ShaderBundle.Proofs.Template.Spans

/-!
# The dotted placeholders of a text

The placeholders of a text are those that are found from the left, each where it starts first. Respelling leaves none
behind. It keeps the characters between placeholders, and a brace in front of a plain placeholder opens nothing together
with it: behind its first two braces a dotted placeholder has no other, and before its dot no name.

* `splits_iff`: a text has one split from the left, its pieces.
* `Span.known_iff`, `known_or_unknown`: the placeholders that stand for something, and the first one that does not.
* `clear_respelledText`: no placeholder is left in a respelled text.
* `rewritePlaceholders_clear`: a text without placeholders stays as it is.
-/

namespace ShaderBundle.Template

/-! ## From the left -/

variable {text cs rest written name : List Char} {ss : List Span}

/-- A placeholder starts here. -/
def Starts (cs : List Char) : Prop := ∃ written name, Dotted written name ∧ written <+: cs

theorem placeholderAt?_eq_none : placeholderAt? cs = none ↔ ¬Starts cs := by
  constructor
  · rintro h ⟨written, name, hdotted, rest, rfl⟩
    rw [placeholderAt?_eq_some.mpr ⟨written, hdotted, rfl⟩] at h
    cases h
  · intro h
    refine Option.eq_none_iff_forall_ne_some.mpr fun ⟨name, rest⟩ hat => h ?_
    obtain ⟨written, hdotted, rfl⟩ := placeholderAt?_eq_some.mp hat
    exact ⟨written, name, hdotted, List.prefix_append written rest⟩

/-- The pieces of a text, every placeholder being taken where it starts first. -/
inductive Splits : List Char → List Span → Prop
  | nil : Splits [] []
  | char {c : Char} {cs : List Char} {ss : List Span} (h : ¬Starts (c :: cs)) (hs : Splits cs ss) :
      Splits (c :: cs) (.char c :: ss)
  | dotted {written name rest : List Char} {ss : List Span} (h : Dotted written name) (hs : Splits rest ss) :
      Splits (written ++ rest) (.dotted written name :: ss)

theorem spansFrom_append (as bs : List Char) : spansFrom as.length (as ++ bs) = spansFrom 0 bs := by
  induction as with
  | nil => rfl
  | cons a as ih =>
    rw [List.length_cons, List.cons_append, spansFrom, if_pos (Nat.succ_pos _), Nat.add_sub_cancel]
    exact ih

theorem spansFrom_char {c : Char} (h : ¬Starts (c :: cs)) : spansFrom 0 (c :: cs) = .char c :: spansFrom 0 cs := by
  rw [spansFrom, if_neg (Nat.lt_irrefl 0), placeholderAt?_eq_none.mpr h]

theorem spansFrom_dotted (h : Dotted written name) (rest : List Char) :
    spansFrom 0 (written ++ rest) = .dotted written name :: spansFrom 0 rest := by
  have hat : placeholderAt? (written ++ rest) = some (name, rest) := placeholderAt?_eq_some.mpr ⟨written, h, rfl⟩
  obtain ⟨inside, rfl, -⟩ := h.eq_cons
  have hlength : ('{' :: ('{' :: inside ++ rest)).length - rest.length = ('{' :: inside).length + 1 := by
    simp only [List.length_cons, List.length_append]
    omega
  rw [List.cons_append] at hat ⊢
  rw [spansFrom, if_neg (Nat.lt_irrefl 0), hat]
  dsimp only
  rw [hlength, Nat.add_sub_cancel, List.take_succ_cons, List.take_left, spansFrom_append]

theorem splits_spansFrom (text : List Char) : ∀ skip, Splits (text.drop skip) (spansFrom skip text) := by
  induction text with
  | nil =>
    intro skip
    rw [List.drop_nil]
    exact .nil
  | cons c cs ih =>
    rintro (_ | skip)
    · by_cases hstart : Starts (c :: cs)
      · obtain ⟨written, name, hdotted, rest, htext⟩ := hstart
        obtain ⟨inside, rfl, -⟩ := hdotted.eq_cons
        have hbehind : '{' :: inside ++ rest = cs := List.tail_eq_of_cons_eq htext
        have hrest := ih ('{' :: inside).length
        rw [← hbehind, spansFrom_append, List.drop_left] at hrest
        rw [List.drop_zero, ← htext, spansFrom_dotted hdotted]
        exact .dotted hdotted hrest
      · rw [spansFrom_char hstart]
        exact .char hstart (ih 0)
    · rw [spansFrom, if_pos (Nat.succ_pos _), Nat.add_sub_cancel]
      exact ih skip

theorem Splits.eq_spans (h : Splits text ss) : ss = spans text := by
  induction h with
  | nil => rfl
  | char hno _ ih => rw [ih, spans, spans, spansFrom_char hno]
  | dotted hdotted _ ih => rw [ih, spans, spans, spansFrom_dotted hdotted]

/-- There is one such split, and it is found. -/
theorem splits_iff : Splits text ss ↔ ss = spans text := by
  constructor
  · exact Splits.eq_spans
  · rintro rfl
    exact splits_spansFrom text 0

/-! ## Known placeholders -/

/-- A known placeholder is one of an argument, and becomes the plain placeholder of that argument. -/
theorem Span.known_iff : (Span.dotted written name).Known ↔
    ∃ a : Argument, name = a.dottedName ∧ (Span.dotted written name).respelled = plainPlaceholder a.name := by
  constructor
  · rintro ⟨plain, hplain⟩
    have hargument := hplain
    rw [Argument.lookup_dottedNames] at hargument
    obtain ⟨a, hname, rfl⟩ := Option.map_eq_some_iff.mp hargument
    exact ⟨a, Argument.ofDotted?_eq_some.mp hname, by rw [Span.respelled, hplain, Option.getD_some]⟩
  · rintro ⟨a, hname, -⟩
    exact ⟨a.name, by rw [Argument.lookup_dottedNames, Argument.ofDotted?_eq_some.mpr hname, Option.map_some]⟩

/-- Pieces are all known, or there is a first one that is not; it is a placeholder. -/
theorem known_or_unknown (ss : List Span) : (∀ s ∈ ss, s.Known) ∨ ∃ before written name after,
    ss = before ++ .dotted written name :: after ∧ (∀ s ∈ before, s.Known) ∧ ¬(Span.dotted written name).Known := by
  cases hfind : ss.find? (fun s => !decide s.Known) with
  | none =>
    left
    simpa using hfind
  | some s =>
    right
    obtain ⟨hs, before, after, hsplit, hbefore⟩ := List.find?_eq_some_iff_append.mp hfind
    have hunknown : ¬s.Known := by simpa using hs
    cases s with
    | char c => exact absurd trivial hunknown
    | dotted written name => exact ⟨before, written, name, after, hsplit, by simpa using hbefore, hunknown⟩

/-! ## Respelled texts -/

/-- No placeholder stands in the text. -/
def Clear (cs : List Char) : Prop := ∀ written name, Dotted written name → ¬written <:+: cs

theorem clear_cons {c : Char} : Clear (c :: cs) ↔ ¬Starts (c :: cs) ∧ Clear cs := by
  constructor
  · intro h
    refine ⟨?_, fun written name hdotted hin => h written name hdotted (hin.trans (List.suffix_cons c cs).isInfix)⟩
    rintro ⟨written, name, hdotted, hleads⟩
    exact h written name hdotted hleads.isInfix
  · rintro ⟨hstart, hrest⟩ written name hdotted hin
    rcases List.infix_cons_iff.mp hin with hleads | hin
    · exact hstart ⟨written, name, hdotted, hleads⟩
    · exact hrest written name hdotted hin

theorem clear_nil : Clear [] := by
  intro written name hdotted hin
  obtain ⟨inside, rfl, -⟩ := hdotted.eq_cons
  cases List.infix_nil.mp hin

theorem Starts.of_cons {c : Char} (h : Starts (c :: cs)) : c = '{' ∧ cs.head? = some '{' := by
  obtain ⟨written, name, hdotted, hleads⟩ := h
  obtain ⟨inside, rfl, -⟩ := hdotted.eq_cons
  obtain ⟨rest, hrest⟩ := hleads
  cases hrest
  exact ⟨rfl, rfl⟩

/-- No placeholder starts in text without braces. -/
theorem Clear.append {as bs : List Char} (ha : '{' ∉ as) (hb : Clear bs) : Clear (as ++ bs) := by
  induction as with
  | nil => exact hb
  | cons a as ih =>
    refine clear_cons.mpr ⟨fun hstart => ha ?_, ih fun h => ha (List.mem_cons_of_mem a h)⟩
    rw [hstart.of_cons.1]
    exact List.mem_cons_self

/-- No placeholder starts in a plain one. -/
theorem clear_plain {plain : List Char} (hplain : Text.isIdentifier plain = true) (hrest : Clear rest) :
    Clear (plainPlaceholder plain ++ rest) := by
  have htext : plainPlaceholder plain ++ rest = '{' :: '{' :: ([' '] ++ (plain ++ ([' ', '}', '}'] ++ rest))) := by
    simp [plainPlaceholder]
  have hbrace : '{' ∉ [' '] ++ plain ++ [' ', '}', '}'] := by
    simp only [List.mem_append, not_or]
    exact ⟨⟨by decide, fun h => absurd (Text.isIdentifierContinue_of_mem hplain h) (by decide)⟩, by decide⟩
  have hinside : Clear ([' '] ++ (plain ++ ([' ', '}', '}'] ++ rest))) := by
    have := Clear.append hbrace hrest
    simpa using this
  have hsecond : ¬Starts ('{' :: ([' '] ++ (plain ++ ([' ', '}', '}'] ++ rest)))) := fun h => by
    cases h.of_cons.2
  have hfirst : ¬Starts ('{' :: '{' :: ([' '] ++ (plain ++ ([' ', '}', '}'] ++ rest)))) :=
    placeholderAt?_eq_none.mp (placeholderAt?_plain _ (List.all_eq_true.mp rfl) hplain)
  rw [htext]
  exact clear_cons.mpr ⟨hfirst, clear_cons.mpr ⟨hsecond, hinside⟩⟩

/-- What has no brace in it is in front of a respelled text only if it is in front of the text: it reaches into no
placeholder, and all before the first one is kept. -/
theorem prefix_writtenText {inside : List Char} (hbrace : '{' ∉ inside) (h : inside <+: respelledText ss) :
    inside <+: writtenText ss := by
  induction ss generalizing inside with
  | nil => exact h
  | cons s ss ih =>
    cases inside with
    | nil => exact List.nil_prefix
    | cons d inside =>
      rw [respelledText, List.flatMap_cons] at h
      cases s with
      | char c =>
        obtain ⟨rfl, hrest⟩ := List.cons_prefix_cons.mp h
        exact List.cons_prefix_cons.mpr ⟨rfl, ih (fun hin => hbrace (List.mem_cons_of_mem d hin)) hrest⟩
      | dotted written name =>
        obtain ⟨rfl, -⟩ := List.cons_prefix_cons.mp h
        exact absurd List.mem_cons_self hbrace

theorem Splits.writtenText (h : Splits text ss) : Template.writtenText ss = text := by
  rw [h.eq_spans, writtenText_spans]

/-- A placeholder that starts in front of a respelled text would start in front of the text. -/
theorem not_starts_respelledText {c : Char} (hno : ¬Starts (c :: cs)) (hs : Splits cs ss) :
    ¬Starts (c :: respelledText ss) := by
  rintro ⟨written, name, hdotted, hleads⟩
  obtain ⟨inside, rfl, hbrace, hne⟩ := hdotted.eq_cons
  obtain ⟨rfl, hsecond⟩ := List.cons_prefix_cons.mp hleads
  cases hs with
  | nil => cases List.prefix_nil.mp hsecond
  | @char d ds ss _ hs =>
    rw [respelledText, List.flatMap_cons] at hsecond
    obtain ⟨hd, hinside⟩ := List.cons_prefix_cons.mp hsecond
    have hkept := prefix_writtenText hbrace hinside
    rw [hs.writtenText] at hkept
    exact hno ⟨_, name, hdotted, List.cons_prefix_cons.mpr ⟨rfl, List.cons_prefix_cons.mpr ⟨hd, hkept⟩⟩⟩
  | dotted =>
    -- Its second brace is the first one of the plain placeholder, whose second one is inside.
    obtain ⟨d, inside, rfl⟩ := List.exists_cons_of_ne_nil hne
    obtain ⟨-, hthird⟩ := List.cons_prefix_cons.mp hsecond
    obtain ⟨hd, -⟩ := List.cons_prefix_cons.mp hthird
    exact hbrace (hd ▸ List.mem_cons_self)

/-- No placeholder is left, and none comes about. -/
theorem clear_respelledText (h : Splits text ss) (hknown : ∀ s ∈ ss, s.Known) : Clear (respelledText ss) := by
  induction h with
  | nil => exact clear_nil
  | char hno hs ih =>
    exact clear_cons.mpr ⟨not_starts_respelledText hno hs, ih fun s h => hknown s (List.mem_cons_of_mem _ h)⟩
  | dotted _ _ ih =>
    obtain ⟨a, -, hplain⟩ := Span.known_iff.mp (hknown _ List.mem_cons_self)
    rw [respelledText, List.flatMap_cons, hplain]
    exact clear_plain a.isIdentifier_name (ih fun s h => hknown s (List.mem_cons_of_mem _ h))

theorem rewritePlaceholders_clear (h : Clear cs) : rewritePlaceholders cs = .ok cs := by
  have hkept : Respelled cs cs [] := by
    refine .kept fun c tail hs => placeholderAt?_eq_none.mpr ?_
    rintro ⟨written, name, hdotted, hleads⟩
    rw [List.append_nil] at hleads
    exact h written name hdotted (hleads.isInfix.trans hs.isInfix)
  obtain ⟨line, hrewritten⟩ := hkept 1
  rw [List.append_nil] at hrewritten
  rw [rewritePlaceholders, hrewritten, rewriteFrom]
  exact congrArg Except.ok (List.append_nil _)

end ShaderBundle.Template
