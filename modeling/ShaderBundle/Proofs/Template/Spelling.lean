import ShaderBundle.Proofs.Template.Draft
import ShaderBundle.Proofs.Text.Words
import ShaderBundle.Shader.Sources
import ShaderBundle.Template.Placeholder
import Mathlib.Data.List.TakeWhile

/-!
# How placeholders are spelled

Each argument of a variant has a placeholder in two spellings, a plain one and a dotted one. The dotted ones are
respelled before a template is read; nothing else in a draft changes, and one that is dotted and stands for nothing is
refused.

* `Placeholder`: an argument and how it is spelled.
* `Word`: whatever may stand in the place of a placeholder's name.
* `Dotted`: how a dotted placeholder is written.
* `rewritePlaceholders_written`, `rewritePlaceholders_refused`: what becomes of a draft.
-/

namespace ShaderBundle.Template

/-! ## Spellings -/

inductive Argument
  | header
  | fetchColorExpr

namespace Argument

/-- The plain name. -/
def name : Argument → List Char
  | .header => "header".toList
  | .fetchColorExpr => "fetch_color_expr".toList

/-- The name behind a dot. -/
def dottedName : Argument → List Char
  | .header => "Header".toList
  | .fetchColorExpr => "FetchColorExpr".toList

def value (args : VariantArgs) : Argument → String
  | .header => args.header
  | .fetchColorExpr => args.fetchColorExpr

end Argument

structure Placeholder where
  argument : Argument
  dotted : Bool

def Placeholder.spelling (p : Placeholder) : List Char :=
  if p.dotted then '.' :: p.argument.dottedName else p.argument.name

/-! ## Words -/

/-- An identifier, plain or behind a dot. -/
structure Word where
  dotted : Bool
  name : List Char
  identifier : Text.isIdentifier name = true

theorem Argument.isIdentifier_name (a : Argument) : Text.isIdentifier a.name = true := by
  cases a <;> decide +kernel

/-- The plain word of an argument. -/
def Argument.word (a : Argument) : Word := ⟨false, a.name, a.isIdentifier_name⟩

/-- The argument with this name behind a dot. -/
def Argument.ofDotted? (name : List Char) : Option Argument :=
  if name = fetchColorExpr.dottedName then some fetchColorExpr
  else if name = header.dottedName then some header
  else none

theorem Argument.lookup_dottedNames (name : List Char) :
    dottedNames.lookup name = (ofDotted? name).map Argument.name := by
  have hnames : dottedNames = [(fetchColorExpr.dottedName, fetchColorExpr.name), (header.dottedName, header.name)] := rfl
  rw [hnames, ofDotted?]
  by_cases hfetch : name = fetchColorExpr.dottedName
  · rw [hfetch, List.lookup_cons_self, if_pos rfl]
    rfl
  · rw [List.lookup_cons, beq_false_of_ne hfetch, if_neg hfetch]
    by_cases hheader : name = header.dottedName
    · rw [hheader, List.lookup_cons_self, if_pos rfl]
      rfl
    · rw [List.lookup_cons, beq_false_of_ne hheader, if_neg hheader]
      rfl

theorem Argument.ofDotted?_eq_some {name : List Char} {a : Argument} : ofDotted? name = some a ↔ name = a.dottedName := by
  have hne : header.dottedName ≠ fetchColorExpr.dottedName := by decide
  unfold ofDotted?
  split
  · next h => cases a <;> simp [h, hne.symm]
  · next h =>
    split
    · next h' => cases a <;> simp [h', hne]
    · next h' => cases a <;> simp [h, h']

namespace Word

def spelling (w : Word) : List Char := if w.dotted then '.' :: w.name else w.name

/-- The argument that a dotted word stands for. -/
def argument? (w : Word) : Option Argument := if w.dotted then Argument.ofDotted? w.name else none

theorem argument?_eq_some {w : Word} {a : Argument} : w.argument? = some a ↔ w.dotted = true ∧ w.name = a.dottedName := by
  unfold argument?
  split
  · next h => rw [Argument.ofDotted?_eq_some, h, eq_self, true_and]
  · next h => simp [h]

/-- The word that it is respelled as. -/
def respelled (w : Word) : Word :=
  match w.argument? with
  | some a => a.word
  | none => w

/-- Dotted, as a word behind a dot has to be, and yet no argument's. -/
def Unknown (w : Word) : Prop := w.dotted = true ∧ w.argument? = none ∧ ∀ c ∈ w.name, Text.isWordChar c = true

end Word

def Placeholder.word (p : Placeholder) : Word where
  dotted := p.dotted
  name := if p.dotted then p.argument.dottedName else p.argument.name
  identifier := by
    obtain ⟨argument, dotted⟩ := p
    cases argument <;> cases dotted <;> decide +kernel

/-- What a tag is respelled as. -/
def Tag.respelled (t : Tag Word) : Tag Word :=
  match t.inside.argument? with
  | some a => ⟨[' '], a.word, [' '], blank_space, blank_space⟩
  | none => t

theorem Tag.inside_respelled (t : Tag Word) : t.respelled.inside = t.inside.respelled := by
  unfold Tag.respelled Word.respelled
  split <;> rfl

/-! ## Respelling -/

/-- A text is respelled by itself, whatever line it stands on. -/
def Respelled (cs out rest : List Char) : Prop :=
  ∀ line, ∃ line', rewriteFrom line 0 (cs ++ rest) = (rewriteFrom line' 0 rest).map (out ++ ·)

namespace Respelled

variable {as bs outs outs' rest : List Char}

theorem nil : Respelled [] [] rest := by
  intro line
  refine ⟨line, ?_⟩
  cases h : rewriteFrom line 0 rest with
  | error e => rw [List.nil_append, h]; rfl
  | ok out => rw [List.nil_append, h]; rfl

theorem append (h : Respelled as outs (bs ++ rest)) (h' : Respelled bs outs' rest) :
    Respelled (as ++ bs) (outs ++ outs') rest := by
  intro line
  obtain ⟨line1, h1⟩ := h line
  obtain ⟨line2, h2⟩ := h' line1
  refine ⟨line2, ?_⟩
  rw [List.append_assoc, h1, h2]
  cases rewriteFrom line2 0 rest with
  | error e => rfl
  | ok out => exact congrArg Except.ok (List.append_assoc outs outs' out).symm

theorem cons {c : Char} (hc : placeholderAt? (c :: (as ++ rest)) = none) (h : Respelled as outs rest) :
    Respelled (c :: as) (c :: outs) rest := by
  intro line
  obtain ⟨line', h'⟩ := h (if c = '\n' then line + 1 else line)
  refine ⟨line', ?_⟩
  rw [List.cons_append, rewriteFrom]
  simp only [hc]
  rw [if_neg (by decide), h']
  cases rewriteFrom line' 0 rest with
  | error e => rfl
  | ok out => rfl

/-- Text is kept where no placeholder starts. -/
theorem kept (h : ∀ c cs, c :: cs <:+ as → placeholderAt? (c :: (cs ++ rest)) = none) : Respelled as as rest := by
  induction as with
  | nil => exact nil
  | cons c cs ih =>
    exact cons (h c cs (List.suffix_refl _)) (ih fun d ds hs => h d ds (hs.trans (List.suffix_cons c cs)))

end Respelled

theorem placeholderAt?_of_closed {cs : List Char} (h : opensTag cs = false) : placeholderAt? cs = none := by
  unfold placeholderAt?
  split
  · next rest =>
    rw [Bool.eq_false_iff, Ne, opensTag_cons] at h
    exact absurd ⟨rfl, .inl rfl⟩ h
  · rfl

/-- Right before two braces starts no placeholder, even if it is a brace that stands there. -/
theorem placeholderAt?_before (c : Char) (more : List Char) : placeholderAt? (c :: '{' :: '{' :: more) = none := by
  have hdrop : Text.dropBlank ('{' :: more) = '{' :: more := List.dropWhile_cons_of_neg (by decide)
  unfold placeholderAt?
  split
  · next heq =>
    obtain ⟨-, hrest⟩ := List.cons.inj heq
    obtain ⟨-, rfl⟩ := List.cons.inj hrest
    rw [hdrop]
    rfl
  · rfl

/-- Text is kept, at the end of a template and in front of a tag. -/
theorem Unmarked.respelled {cs rest : List Char} (h : Unmarked cs)
    (hrest : rest = [] ∨ ∃ more, rest = '{' :: '{' :: more) : Respelled cs cs rest := by
  refine .kept fun c tail hs => ?_
  rcases hrest with rfl | ⟨more, rfl⟩
  · exact placeholderAt?_of_closed (h.opensTag_append hs (.inr (.inl rfl)))
  · cases tail with
    | nil => exact placeholderAt?_before c more
    | cons d tail => exact placeholderAt?_of_closed (h.opensTag_append hs (.inr (.inr (by simp))))

/-! ## Placeholders -/

section
variable {before name : List Char} (rest : List Char) (hbefore : ∀ c ∈ before, Text.isBlank c = true)
include hbefore

/-- A tag with an identifier in it is no dotted placeholder. -/
theorem placeholderAt?_plain (hname : Text.isIdentifier name = true) :
    placeholderAt? ('{' :: '{' :: (before ++ (name ++ rest))) = none := by
  have hhead : ∀ c, (name ++ rest).head? = some c → Text.isIdentifierContinue c = true :=
    Text.isIdentifierContinue_of_head hname
  rw [placeholderAt?, Text.dropBlank_append hbefore fun c hc => Text.not_isBlank_of_identifier (hhead c hc)]
  split
  · next heq => exact absurd (hhead '.' (by rw [heq]; rfl)) (by decide)
  · rfl

theorem dropBlank_dot : Text.dropBlank (before ++ '.' :: rest) = '.' :: rest :=
  Text.dropBlank_append hbefore fun c hc => by
    cases hc
    decide

/-- Neither is one with something behind a dot that is no word. -/
theorem placeholderAt?_improper (hname : Text.isIdentifier name = true) {c : Char} (hc : c ∈ name)
    (hword : Text.isWordChar c = false) : placeholderAt? ('{' :: '{' :: (before ++ '.' :: (name ++ rest))) = none := by
  obtain ⟨d, ds, hdrop⟩ : ∃ d ds, name.dropWhile Text.isWordChar = d :: ds := by
    refine List.exists_cons_of_ne_nil fun hnil => ?_
    rw [List.dropWhile_eq_nil_iff] at hnil
    rw [hnil c hc] at hword
    cases hword
  have hd : Text.isIdentifierContinue d = true :=
    Text.isIdentifierContinue_of_mem hname ((List.dropWhile_suffix _).subset (hdrop ▸ List.mem_cons_self))
  have hrest : Text.dropBlank ((name ++ rest).dropWhile Text.isWordChar) = d :: (ds ++ rest) := by
    rw [List.dropWhile_append, hdrop]
    exact List.dropWhile_cons_of_neg (by simp [Text.not_isBlank_of_identifier hd])
  rw [placeholderAt?, dropBlank_dot _ hbefore]
  split
  · next heq =>
    cases heq
    rw [hrest]
    split
    · rfl
    · split
      · next hclose =>
        rw [(List.cons.inj hclose).1] at hd
        exact absurd hd (by decide)
      · rfl
  · rfl

variable {after : List Char} (hafter : ∀ c ∈ after, Text.isBlank c = true)
include hafter

theorem placeholderAt?_dotted (hne : name ≠ []) (hname : ∀ c ∈ name, Text.isWordChar c = true) :
    placeholderAt? ('{' :: '{' :: (before ++ ('.' :: (name ++ (after ++ ('}' :: '}' :: rest)))))) =
      some (name, rest) := by
  have hclose : Text.dropBlank (after ++ ('}' :: '}' :: rest)) = '}' :: '}' :: rest :=
    Text.dropBlank_append hafter fun d hd => by
      cases hd
      decide
  have hend : ∀ d, (after ++ ('}' :: '}' :: rest)).head? = some d → Text.isWordChar d = false :=
    Text.head_append (fun d hd => Text.isWordChar_of_isBlank (hafter d hd)) fun d hd => by
      cases hd
      decide
  have htake := Text.takeWhile_append_eq hname hend
  have hdrop := Text.dropWhile_append_eq hname hend
  rw [placeholderAt?, dropBlank_dot _ hbefore]
  split
  · next heq =>
    cases heq
    rw [htake, hdrop, hclose]
    split
    · exact absurd rfl hne
    · rfl
  · next hdot => exact absurd rfl (hdot _)

end

/-- Two braces, a dot and a name between blanks, two braces. -/
inductive Dotted : List Char → List Char → Prop
  | mk (before name after : List Char) (blank_before : ∀ c ∈ before, Text.isBlank c = true)
      (blank_after : ∀ c ∈ after, Text.isBlank c = true) (name_ne_nil : name ≠ [])
      (word : ∀ c ∈ name, Text.isWordChar c = true) :
      Dotted ('{' :: '{' :: (before ++ '.' :: (name ++ (after ++ ['}', '}'])))) name

theorem placeholderAt?_eq_some {cs name rest : List Char} :
    placeholderAt? cs = some (name, rest) ↔ ∃ written, Dotted written name ∧ cs = written ++ rest := by
  have hjoin {p : Char → Bool} {l r : List Char} (h : l.dropWhile p = r) : l.takeWhile p ++ r = l :=
    h ▸ List.takeWhile_append_dropWhile
  constructor
  · intro h
    unfold placeholderAt? at h
    split at h
    · next inside =>
      split at h
      · next behind hdot =>
        split at h
        · cases h
        · next hne =>
          split at h
          · next hclose =>
            cases h
            refine ⟨_, .mk (inside.takeWhile Text.isBlank) (behind.takeWhile Text.isWordChar)
              ((behind.dropWhile Text.isWordChar).takeWhile Text.isBlank) (fun c => List.mem_takeWhile_imp)
              (fun c => List.mem_takeWhile_imp) hne (fun c => List.mem_takeWhile_imp), ?_⟩
            have hinside := hjoin hdot
            have hbehind := hjoin (rfl : behind.dropWhile Text.isWordChar = _)
            have hafter := hjoin hclose
            simp only [List.cons_append, List.append_assoc, List.nil_append, hafter, hbehind, hinside]
          · cases h
      · cases h
    · cases h
  · rintro ⟨_, ⟨before, name, after, hbefore, hafter, hne, hword⟩, rfl⟩
    have := placeholderAt?_dotted rest hbefore hafter hne hword
    simpa using this

theorem Dotted.eq_cons {written name : List Char} (h : Dotted written name) :
    ∃ inside, written = '{' :: '{' :: inside ∧ '{' ∉ inside ∧ inside ≠ [] := by
  obtain ⟨before, name, after, hbefore, hafter, -, hword⟩ := h
  refine ⟨_, rfl, ?_, by simp⟩
  have hblank : Text.isBlank '{' = false := by decide
  have hname : Text.isWordChar '{' = false := by decide
  simp only [List.mem_append, List.mem_cons, List.not_mem_nil, or_false, not_or]
  refine ⟨fun hc => ?_, by decide, fun hc => ?_, fun hc => ?_, by decide, by decide⟩
  · rw [hbefore _ hc] at hblank
    cases hblank
  · rw [hword _ hc] at hname
    cases hname
  · rw [hafter _ hc] at hblank
    cases hblank

/-! ## Tags -/

theorem rewriteFrom_skip (as rest : List Char) (line : Nat) :
    ∃ line', rewriteFrom line as.length (as ++ rest) = rewriteFrom line' 0 rest := by
  induction as generalizing line with
  | nil => exact ⟨line, rfl⟩
  | cons c as ih =>
    obtain ⟨line', h⟩ := ih (if c = '\n' then line + 1 else line)
    refine ⟨line', ?_⟩
    rw [List.length_cons, List.cons_append, rewriteFrom, if_pos (Nat.succ_pos _), Nat.add_sub_cancel]
    exact h

/-- A known dotted placeholder is respelled. -/
theorem Respelled.dotted {c : Char} {cs name plain rest : List Char}
    (hat : placeholderAt? (c :: (cs ++ rest)) = some (name, rest)) (hname : dottedNames.lookup name = some plain) :
    Respelled (c :: cs) (plainPlaceholder plain) rest := by
  intro line
  obtain ⟨line', h⟩ := rewriteFrom_skip cs rest (if c = '\n' then line + 1 else line)
  refine ⟨line', ?_⟩
  have hlength : (c :: (cs ++ rest)).length - rest.length - 1 = cs.length := by
    rw [List.length_cons, List.length_append]
    omega
  rw [List.cons_append, rewriteFrom, if_neg (by decide), hat]
  dsimp only
  rw [hname, hlength]
  dsimp only
  rw [h]

/-- An unknown one is refused. -/
theorem rewriteFrom_unknown {c : Char} {cs name rest : List Char} (hat : placeholderAt? (c :: cs) = some (name, rest))
    (hname : dottedNames.lookup name = none) (line : Nat) : ∃ u, rewriteFrom line 0 (c :: cs) = .error u := by
  rw [rewriteFrom, if_neg (by decide), hat]
  dsimp only
  rw [hname]
  exact ⟨_, rfl⟩

namespace Tag

variable (t : Tag Word) (rest : List Char)

/-- Nothing behind the first two braces of a tag with a word in it could open another. -/
theorem unmarking : ∀ c ∈ t.before ++ (t.inside.spelling ++ (t.after ++ ['}', '}'])), c ≠ '{' ∧ c ≠ '%' ∧ c ≠ '#' := by
  have hblank (c : Char) (hc : Text.isBlank c = true) : c ≠ '{' ∧ c ≠ '%' ∧ c ≠ '#' := by
    refine ⟨?_, ?_, ?_⟩ <;> rintro rfl <;> cases hc
  have hname (c : Char) (hc : c ∈ t.inside.name) : c ≠ '{' ∧ c ≠ '%' ∧ c ≠ '#' := by
    have := Text.isIdentifierContinue_of_mem t.inside.identifier hc
    refine ⟨?_, ?_, ?_⟩ <;> rintro rfl <;> exact absurd this (by decide)
  have hword (c : Char) (hc : c ∈ t.inside.spelling) : c ≠ '{' ∧ c ≠ '%' ∧ c ≠ '#' := by
    unfold Word.spelling at hc
    split at hc
    · rcases List.mem_cons.mp hc with rfl | hc
      · decide
      · exact hname c hc
    · exact hname c hc
  intro c hc
  rw [List.mem_append, List.mem_append, List.mem_append] at hc
  rcases hc with hc | hc | hc | hc
  · exact hblank c (t.blank_before c hc)
  · exact hword c hc
  · exact hblank c (t.blank_after c hc)
  · rw [List.eq_of_mem_replicate (n := 2) hc]
    decide

/-- A tag with a word in it is kept unless a placeholder starts with it. -/
theorem respelled_kept (h : placeholderAt? (t.written Word.spelling ++ rest) = none) :
    Respelled (t.written Word.spelling) (t.written Word.spelling) rest := by
  have hwritten : t.written Word.spelling = '{' :: '{' :: (t.before ++ (t.inside.spelling ++ (t.after ++ ['}', '}']))) := rfl
  have hunmarking := t.unmarking
  have hne : t.before ++ (t.inside.spelling ++ (t.after ++ ['}', '}'])) ≠ [] := by simp
  rw [hwritten] at h ⊢
  generalize t.before ++ (t.inside.spelling ++ (t.after ++ ['}', '}'])) = tail at h hunmarking hne
  obtain ⟨d, ds, rfl⟩ := List.exists_cons_of_ne_nil hne
  have hsecond : opensTag ('{' :: ((d :: ds) ++ rest)) = false := by
    rw [Bool.eq_false_iff, Ne, opensTag_cons, List.cons_append, List.head?_cons]
    simp [hunmarking d List.mem_cons_self]
  refine .cons h (.cons (placeholderAt?_of_closed hsecond) (.kept fun c cs hs => placeholderAt?_of_closed ?_))
  rw [Bool.eq_false_iff, Ne, opensTag_cons]
  exact fun hopens => (hunmarking c (hs.subset List.mem_cons_self)).1 hopens.1

theorem written_plain (h : t.inside.dotted = false) : t.written Word.spelling ++ rest =
    '{' :: '{' :: (t.before ++ (t.inside.name ++ (t.after ++ '}' :: '}' :: rest))) := by
  simp [written, Word.spelling, h]

theorem written_dotted (h : t.inside.dotted = true) : t.written Word.spelling ++ rest =
    '{' :: '{' :: (t.before ++ '.' :: (t.inside.name ++ (t.after ++ '}' :: '}' :: rest))) := by
  simp [written, Word.spelling, h]

theorem placeholderAt?_written (h : t.inside.dotted = true) (hword : ∀ c ∈ t.inside.name, Text.isWordChar c = true) :
    placeholderAt? (t.written Word.spelling ++ rest) = some (t.inside.name, rest) := by
  rw [t.written_dotted rest h]
  refine placeholderAt?_dotted rest t.blank_before t.blank_after ?_ hword
  obtain ⟨c, cs, hname, -⟩ := Text.exists_cons_of_isIdentifier t.inside.identifier
  rw [hname]
  exact List.cons_ne_nil c cs

theorem respelled_word (h : ¬t.inside.Unknown) :
    Respelled (t.written Word.spelling) (t.respelled.written Word.spelling) rest := by
  cases ha : t.inside.argument? with
  | some a =>
    have hrespelled : t.respelled = ⟨[' '], a.word, [' '], blank_space, blank_space⟩ := by
      rw [respelled, ha]
    obtain ⟨hdotted, hname⟩ := Word.argument?_eq_some.mp ha
    have hword : ∀ c ∈ t.inside.name, Text.isWordChar c = true := by
      rw [hname]
      exact List.all_eq_true.mp (by cases a <;> decide)
    have hlookup : dottedNames.lookup t.inside.name = some a.name := by
      rw [Argument.lookup_dottedNames, Argument.ofDotted?_eq_some.mpr hname]
      rfl
    have hat := t.placeholderAt?_written rest hdotted hword
    rw [hrespelled]
    exact .dotted hat hlookup
  | none =>
    have hrespelled : t.respelled = t := by
      rw [respelled, ha]
    rw [hrespelled]
    refine t.respelled_kept rest ?_
    cases hdotted : t.inside.dotted with
    | false =>
      rw [t.written_plain rest hdotted]
      exact placeholderAt?_plain _ t.blank_before t.inside.identifier
    | true =>
      have himproper : ∃ c ∈ t.inside.name, Text.isWordChar c = false := by
        by_contra hnone
        push Not at hnone
        exact h ⟨hdotted, ha, fun c hc => by simpa using hnone c hc⟩
      obtain ⟨c, hc, hword⟩ := himproper
      rw [t.written_dotted rest hdotted]
      exact placeholderAt?_improper _ t.blank_before t.inside.identifier hc hword

end Tag

/-! ## Drafts -/

namespace Draft

/-- What follows the text in front of a slot are two braces. -/
theorem slot_written (t : Tag Word) (rest : List Char) :
    ∃ more, t.written Word.spelling ++ rest = '{' :: '{' :: more := ⟨_, rfl⟩

theorem respelled (d : Draft (Tag Word)) (h : d.All fun _ t => ¬t.inside.Unknown) :
    Respelled (d.written (·.written Word.spelling)) ((d.map Tag.respelled).written (·.written Word.spelling)) [] := by
  induction d with
  | text cs hcs => exact hcs.respelled (.inl rfl)
  | slot cs hcs t rest ih =>
    refine (hcs.respelled (.inr ?_)).append ((t.respelled_word _ h.1).append (ih h.2))
    rw [List.append_nil]
    exact slot_written t _

theorem refused (d : Draft (Tag Word)) (h : ¬d.All fun _ t => ¬t.inside.Unknown) (line : Nat) :
    ∃ u, rewriteFrom line 0 (d.written (·.written Word.spelling)) = .error u := by
  induction d generalizing line with
  | text cs hcs => exact absurd trivial h
  | slot cs hcs t rest ih =>
    obtain ⟨line1, htext⟩ := hcs.respelled (.inr (slot_written t (rest.written (·.written Word.spelling)))) line
    have htag : ∃ u, rewriteFrom line1 0 (t.written Word.spelling ++ rest.written (·.written Word.spelling)) = .error u := by
      by_cases ht : t.inside.Unknown
      · obtain ⟨hdotted, hargument, hword⟩ := ht
        refine rewriteFrom_unknown (t.placeholderAt?_written _ hdotted hword) ?_ line1
        rw [Word.argument?, if_pos hdotted] at hargument
        rw [Argument.lookup_dottedNames, hargument]
        rfl
      · obtain ⟨line2, htag⟩ := t.respelled_word (rest.written (·.written Word.spelling)) ht line1
        obtain ⟨u, hrest⟩ := ih (fun hall => h ⟨ht, hall⟩) line2
        exact ⟨u, by rw [htag, hrest]; rfl⟩
    obtain ⟨u, htag⟩ := htag
    exact ⟨u, by rw [written, htext, htag]; rfl⟩

/-- All known placeholders become plain, and the rest is kept. -/
theorem rewritePlaceholders_written (d : Draft (Tag Word)) (h : d.All fun _ t => ¬t.inside.Unknown) :
    rewritePlaceholders (d.written (·.written Word.spelling)) =
      .ok ((d.map Tag.respelled).written (·.written Word.spelling)) := by
  obtain ⟨line, h⟩ := d.respelled h 1
  rw [List.append_nil] at h
  rw [rewritePlaceholders, h, rewriteFrom]
  exact congrArg Except.ok (List.append_nil _)

end Draft

end ShaderBundle.Template
