import ShaderBundle.Template.Lexer
import ShaderBundle.Text.Identifier
import ShaderBundle.Text.Search
import Mathlib.Data.List.Infix

/-!
# Templates in parts

A template may be no more than text with print tags in it. The text then opens no tag, by itself or where it meets
one.

* `Parts`: text, and a slot between each two pieces of it.
* `Tag`: what is printed, with the blanks around it.
* `Tag.unifyNewlines_written`: line ends in a tag stand in its blanks only.
-/

namespace ShaderBundle

/-! ## Line ends -/

namespace Text

theorem unifyNewlines_cons {c : Char} (h : c ≠ '\r') (cs : List Char) :
    unifyNewlines (c :: cs) = c :: unifyNewlines cs := by
  rw [unifyNewlines]
  · rintro rest rfl
    exact absurd rfl h
  · exact h

theorem unifyNewlines_cr {rest : List Char} (h : ∀ more, rest ≠ '\n' :: more) :
    unifyNewlines ('\r' :: rest) = '\n' :: unifyNewlines rest := by
  rw [unifyNewlines]
  rintro more rfl
  exact h more rfl

/-- Only a line feed makes a difference to what precedes it. -/
theorem unifyNewlines_append {as bs : List Char} (h : bs.head? ≠ some '\n') :
    unifyNewlines (as ++ bs) = unifyNewlines as ++ unifyNewlines bs := by
  induction as using unifyNewlines.induct with
  | case1 => rfl
  | case2 rest ih => rw [List.cons_append, List.cons_append, unifyNewlines, ih, unifyNewlines, List.cons_append]
  | case3 rest hrest ih =>
    have hnext : ∀ more, rest ++ bs ≠ '\n' :: more := by
      intro more heq
      cases rest with
      | nil =>
        rw [List.nil_append] at heq
        rw [heq] at h
        exact h rfl
      | cons c rest => exact hrest rest (by rw [(List.cons.inj heq).1])
    rw [List.cons_append, unifyNewlines_cr hnext, ih, unifyNewlines_cr fun more heq => hrest more heq, List.cons_append]
  | case4 c rest _ hc ih =>
    rw [List.cons_append, unifyNewlines_cons hc, ih, unifyNewlines_cons hc, List.cons_append]

theorem unifyNewlines_append_of_not_mem {as : List Char} (h : '\r' ∉ as) (bs : List Char) :
    unifyNewlines (as ++ bs) = as ++ unifyNewlines bs := by
  induction as with
  | nil => rfl
  | cons c as ih =>
    obtain ⟨hc, has⟩ := not_or.mp (mt List.mem_cons.mpr h)
    rw [List.cons_append, unifyNewlines_cons (Ne.symm hc), ih has, List.cons_append]

theorem mem_unifyNewlines {cs : List Char} {c : Char} (h : c ∈ unifyNewlines cs) : c ∈ cs ∨ c = '\n' := by
  induction cs using unifyNewlines.induct with
  | case1 => cases h
  | case2 rest ih =>
    rw [unifyNewlines] at h
    grind
  | case3 rest hrest ih =>
    rw [unifyNewlines_cr fun more heq => hrest more heq] at h
    grind
  | case4 d rest _ hd ih =>
    rw [unifyNewlines_cons hd] at h
    grind

/-- What becomes of a character that is left. -/
def unified (c : Char) : Char := if c = '\r' then '\n' else c

theorem head?_unifyNewlines (cs : List Char) :
    (unifyNewlines cs).head? = cs.head?.map unified := by
  induction cs using unifyNewlines.induct with
  | case1 => rfl
  | case2 rest _ => rw [unifyNewlines]; rfl
  | case3 rest hrest _ => rw [unifyNewlines_cr fun more heq => hrest more heq]; rfl
  | case4 c rest _ hc _ =>
    rw [unifyNewlines_cons hc]
    exact congrArg some (if_neg hc).symm

theorem map_unified_eq_some {o : Option Char} {c : Char} (hcr : c ≠ '\r') (hlf : c ≠ '\n') :
    o.map unified = some c ↔ o = some c := by
  cases o with
  | none => simp
  | some d => grind [unified]

theorem getLast?_unifyNewlines (cs : List Char) :
    (unifyNewlines cs).getLast? = cs.getLast?.map unified := by
  induction cs using unifyNewlines.induct with
  | case1 => rfl
  | case2 rest ih =>
    rw [unifyNewlines, List.getLast?_cons, ih, List.getLast?_cons, List.getLast?_cons]
    cases rest.getLast? <;> rfl
  | case3 rest hrest ih =>
    rw [unifyNewlines_cr fun more heq => hrest more heq, List.getLast?_cons, ih, List.getLast?_cons]
    cases rest.getLast? <;> rfl
  | case4 c rest _ hc ih =>
    rw [unifyNewlines_cons hc, List.getLast?_cons, ih, List.getLast?_cons]
    cases rest.getLast? with
    | none => exact congrArg some (if_neg hc).symm
    | some d => rfl

end Text

namespace Template

/-! ## Text that opens no tag -/

/-- What opens a tag. -/
def openers : List (List Char) := [['{', '{'], ['{', '%'], ['{', '#']]

/-- Nothing in the text opens a tag. -/
def Unmarked (cs : List Char) : Prop := ∀ opener ∈ openers, ¬opener <:+: cs

instance (cs : List Char) : Decidable (Unmarked cs) := inferInstanceAs (Decidable (∀ opener ∈ openers, _))

/-- Whether a tag is opened right here. -/
def opensTag (cs : List Char) : Bool := openers.any (·.isPrefixOf cs)

theorem unmarked_nil : Unmarked [] := by decide

theorem unmarked_cons {c : Char} {cs : List Char} : Unmarked (c :: cs) ↔ opensTag (c :: cs) = false ∧ Unmarked cs := by
  simp only [Unmarked, opensTag, List.infix_cons_iff, List.any_eq_false, List.isPrefixOf_iff_prefix, not_or,
    forall_and]

theorem opensTag_cons {c : Char} {cs : List Char} : opensTag (c :: cs) = true ↔
    c = '{' ∧ (cs.head? = some '{' ∨ cs.head? = some '%' ∨ cs.head? = some '#') := by
  cases cs with
  | nil => simp [opensTag, openers, List.isPrefixOf]
  | cons d cs =>
    simp [opensTag, openers]
    grind

/-- In text that opens none, no tag is opened where the text meets something else, unless it ends in a brace there. -/
theorem Unmarked.opensTag_append {as bs : List Char} (h : Unmarked as) {c : Char} {cs : List Char} (hs : c :: cs <:+ as)
    (hlast : as.getLast? ≠ some '{' ∨ bs = [] ∨ cs ≠ []) : opensTag (c :: (cs ++ bs)) = false := by
  obtain ⟨before, rfl⟩ := hs
  have hmarked : Unmarked (c :: cs) := fun opener hopener hin =>
    h opener hopener (hin.trans (List.suffix_append before (c :: cs)).isInfix)
  have hopens := (unmarked_cons.mp hmarked).1
  rw [Bool.eq_false_iff, Ne, opensTag_cons] at hopens ⊢
  rintro ⟨rfl, hnext⟩
  cases cs with
  | nil =>
    rcases hlast with hlast | rfl | hne
    · exact hlast List.getLast?_concat
    · exact hopens ⟨rfl, hnext⟩
    · exact hne rfl
  | cons d cs => exact hopens ⟨rfl, hnext⟩

theorem Unmarked.unifyNewlines {cs : List Char} (h : Unmarked cs) : Unmarked (Text.unifyNewlines cs) := by
  have hline (rest : List Char) : opensTag ('\n' :: rest) = false := by
    rw [Bool.eq_false_iff, Ne, opensTag_cons]
    exact fun h => absurd h.1 (by decide)
  induction cs using Text.unifyNewlines.induct with
  | case1 => exact h
  | case2 rest ih =>
    rw [Text.unifyNewlines, unmarked_cons]
    exact ⟨hline _, ih (unmarked_cons.mp (unmarked_cons.mp h).2).2⟩
  | case3 rest hrest ih =>
    rw [Text.unifyNewlines_cr fun more heq => hrest more heq, unmarked_cons]
    exact ⟨hline _, ih (unmarked_cons.mp h).2⟩
  | case4 c rest _ hc ih =>
    obtain ⟨hopens, hrest⟩ := unmarked_cons.mp h
    rw [Text.unifyNewlines_cons hc, unmarked_cons]
    refine ⟨?_, ih hrest⟩
    rw [Bool.eq_false_iff, Ne, opensTag_cons] at hopens ⊢
    rwa [Text.head?_unifyNewlines, Text.map_unified_eq_some (by decide) (by decide),
      Text.map_unified_eq_some (by decide) (by decide), Text.map_unified_eq_some (by decide) (by decide)]

/-! ## Parts -/

/-- A template's text, with a slot between each two pieces of it. -/
inductive Parts (α : Type)
  | text (cs : List Char) (unmarked : Unmarked cs)
  /-- A brace at the end of the text would open a tag together with the slot's first character. -/
  | slot (cs : List Char) (unmarked : Unmarked cs) (apart : cs.getLast? ≠ some '{') (a : α) (rest : Parts α)

namespace Parts

variable {α β : Type}

/-- The whole, for what stands in the slots. -/
def written (content : α → List Char) : Parts α → List Char
  | .text cs _ => cs
  | .slot cs _ _ a rest => cs ++ (content a ++ rest.written content)

/-- Other slots in the same text. -/
def map (g : α → β) : Parts α → Parts β
  | .text cs h => .text cs h
  | .slot cs h happart a rest => .slot cs h happart (g a) (rest.map g)

theorem apart_unifyNewlines {cs : List Char} (h : cs.getLast? ≠ some '{') :
    (Text.unifyNewlines cs).getLast? ≠ some '{' := by
  rwa [Text.getLast?_unifyNewlines, Ne, Text.map_unified_eq_some (by decide) (by decide)]

/-- The same slots in text with its line ends unified. -/
def unifyNewlines : Parts α → Parts α
  | .text cs h => .text (Text.unifyNewlines cs) h.unifyNewlines
  | .slot cs h happart a rest =>
    .slot (Text.unifyNewlines cs) h.unifyNewlines (apart_unifyNewlines happart) a rest.unifyNewlines

theorem written_map (g : α → β) (content : β → List Char) (parts : Parts α) :
    (parts.map g).written content = parts.written (content ∘ g) := by
  induction parts with
  | text cs h => rfl
  | slot cs h happart a rest ih => rw [map, written, ih, written, Function.comp_apply]

theorem unifyNewlines_map (g : α → β) (parts : Parts α) : (parts.map g).unifyNewlines = parts.unifyNewlines.map g := by
  induction parts with
  | text cs h => rfl
  | slot cs h happart a rest ih => rw [map, unifyNewlines, ih, unifyNewlines, map]

end Parts

/-! ## Tags -/

/-- A print tag, with the blanks around what it prints. -/
structure Tag (α : Type) where
  before : List Char
  inside : α
  after : List Char
  blank_before : ∀ c ∈ before, Text.isBlank c = true
  blank_after : ∀ c ∈ after, Text.isBlank c = true

namespace Tag

variable {α : Type} {spelling : α → List Char}

def written (spelling : α → List Char) (t : Tag α) : List Char :=
  ['{', '{'] ++ (t.before ++ (spelling t.inside ++ (t.after ++ ['}', '}'])))

theorem blank_space : ∀ c ∈ [' '], Text.isBlank c = true := List.all_eq_true.mp rfl

theorem blank_unifyNewlines {cs : List Char} (h : ∀ c ∈ cs, Text.isBlank c = true) :
    ∀ c ∈ Text.unifyNewlines cs, Text.isBlank c = true := by
  intro c hc
  rcases Text.mem_unifyNewlines hc with hc | rfl
  · exact h c hc
  · decide

def unifyNewlines (t : Tag α) : Tag α where
  before := Text.unifyNewlines t.before
  inside := t.inside
  after := Text.unifyNewlines t.after
  blank_before := blank_unifyNewlines t.blank_before
  blank_after := blank_unifyNewlines t.blank_after

/-- Within a tag, line ends stand in its blanks only. -/
theorem unifyNewlines_written (hspelling : ∀ a, spelling a ≠ [] ∧ '\r' ∉ spelling a ∧ '\n' ∉ spelling a) (t : Tag α)
    (rest : List Char) :
    Text.unifyNewlines (t.written spelling ++ rest) = t.unifyNewlines.written spelling ++ Text.unifyNewlines rest := by
  obtain ⟨hne, hcr, hlf⟩ := hspelling t.inside
  have hname (bs : List Char) : (spelling t.inside ++ bs).head? ≠ some '\n' := by
    obtain ⟨c, cs, hcons⟩ := List.exists_cons_of_ne_nil hne
    rw [hcons, List.cons_append, List.head?_cons, Ne, Option.some.injEq]
    rintro rfl
    exact hlf (hcons ▸ List.mem_cons_self)
  have hopen (bs : List Char) : Text.unifyNewlines (['{', '{'] ++ bs) = ['{', '{'] ++ Text.unifyNewlines bs :=
    Text.unifyNewlines_append_of_not_mem (by decide) bs
  have hclose : Text.unifyNewlines (['}', '}'] ++ rest) = ['}', '}'] ++ Text.unifyNewlines rest :=
    Text.unifyNewlines_append_of_not_mem (by decide) rest
  simp only [written, List.append_assoc]
  rw [hopen, Text.unifyNewlines_append (hname _), Text.unifyNewlines_append_of_not_mem hcr,
    Text.unifyNewlines_append (by simp), hclose]
  rfl

end Tag

end Template

end ShaderBundle
