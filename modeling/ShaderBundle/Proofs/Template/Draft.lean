import ShaderBundle.Proofs.Template.Parts

/-!
# Drafts of templates

A draft is text with slots in it as somebody may write it: the text in front of a slot may end in a brace, which a
template in parts excludes.

* `Draft`: text, and a slot between each two pieces of it.
* `Draft.unifyNewlines_written`: line ends are unified in every piece by itself.
* `Parts.draft`: a template in parts as a draft.
-/

namespace ShaderBundle.Template

/-- Text that opens no tag by itself, with a slot between each two pieces of it. -/
inductive Draft (α : Type)
  | text (cs : List Char) (unmarked : Unmarked cs)
  | slot (cs : List Char) (unmarked : Unmarked cs) (a : α) (rest : Draft α)

namespace Draft

variable {α β : Type}

/-- The whole, for what stands in the slots. -/
def written (content : α → List Char) : Draft α → List Char
  | .text cs _ => cs
  | .slot cs _ a rest => cs ++ (content a ++ rest.written content)

/-- Other slots in the same text. -/
def map (g : α → β) : Draft α → Draft β
  | .text cs h => .text cs h
  | .slot cs h a rest => .slot cs h (g a) (rest.map g)

/-- The same slots in text with its line ends unified. -/
def unifyNewlines : Draft α → Draft α
  | .text cs h => .text (Text.unifyNewlines cs) h.unifyNewlines
  | .slot cs h a rest => .slot (Text.unifyNewlines cs) h.unifyNewlines a rest.unifyNewlines

/-- What stands in the slots. -/
def slots : Draft α → List α
  | .text .. => []
  | .slot _ _ a rest => a :: rest.slots

/-- What holds for each slot and the text in front of it. -/
def All (P : List Char → α → Prop) : Draft α → Prop
  | .text .. => True
  | .slot cs _ a rest => P cs a ∧ rest.All P

theorem written_map (g : α → β) (content : β → List Char) (d : Draft α) :
    (d.map g).written content = d.written (content ∘ g) := by
  induction d with
  | text cs h => rfl
  | slot cs h a rest ih => rw [map, written, ih, written, Function.comp_apply]

theorem map_map {γ : Type} (g : α → β) (g' : β → γ) (d : Draft α) : (d.map g).map g' = d.map (g' ∘ g) := by
  induction d with
  | text cs h => rfl
  | slot cs h a rest ih => rw [map, map, ih, map, Function.comp_apply]

theorem unifyNewlines_map (g : α → β) (d : Draft α) : (d.map g).unifyNewlines = d.unifyNewlines.map g := by
  induction d with
  | text cs h => rfl
  | slot cs h a rest ih => rw [map, unifyNewlines, ih, unifyNewlines, map]

/-- Line ends are unified in every piece by itself, if they are in the slots. -/
theorem unifyNewlines_written {content content' : α → List Char} (d : Draft α)
    (hslot : ∀ a rest, Text.unifyNewlines (content a ++ rest) = content' a ++ Text.unifyNewlines rest)
    (hhead : ∀ a rest, (content a ++ rest).head? ≠ some '\n') :
    Text.unifyNewlines (d.written content) = d.unifyNewlines.written content' := by
  induction d with
  | text cs h => rfl
  | slot cs h a rest ih => rw [written, Text.unifyNewlines_append (hhead a _), hslot, ih, unifyNewlines, written]

theorem slots_map (g : α → β) (d : Draft α) : (d.map g).slots = d.slots.map g := by
  induction d with
  | text cs h => rfl
  | slot cs h a rest ih => exact congrArg (g a :: ·) ih

theorem slots_unifyNewlines (d : Draft α) : d.unifyNewlines.slots = d.slots := by
  induction d with
  | text cs h => rfl
  | slot cs h a rest ih => exact congrArg (a :: ·) ih

theorem all_map {g : α → β} {P : List Char → β → Prop} {d : Draft α} :
    (d.map g).All P ↔ d.All fun cs a => P cs (g a) := by
  induction d with
  | text cs h => exact Iff.rfl
  | slot cs h a rest ih => exact and_congr_right' ih

theorem all_unifyNewlines {P : List Char → α → Prop} {d : Draft α} :
    d.unifyNewlines.All P ↔ d.All fun cs a => P (Text.unifyNewlines cs) a := by
  induction d with
  | text cs h => exact Iff.rfl
  | slot cs h a rest ih => exact and_congr_right' ih

theorem All.imp {P Q : List Char → α → Prop} (h : ∀ cs a, P cs a → Q cs a) {d : Draft α} (hd : d.All P) : d.All Q := by
  induction d with
  | text cs _ => trivial
  | slot cs _ a rest ih => exact ⟨h cs a hd.1, ih hd.2⟩

theorem all_and {P Q : List Char → α → Prop} {d : Draft α} : (d.All fun cs a => P cs a ∧ Q cs a) ↔ d.All P ∧ d.All Q := by
  induction d with
  | text cs _ => exact (and_self_iff).symm
  | slot cs _ a rest ih => rw [All, ih, All, All, and_and_and_comm]

theorem all_congr {P Q : List Char → α → Prop} (h : ∀ cs a, P cs a ↔ Q cs a) {d : Draft α} : d.All P ↔ d.All Q := by
  induction d with
  | text cs _ => exact Iff.rfl
  | slot cs _ a rest ih => exact and_congr (h cs a) ih

end Draft

/-- The text does not end in a brace, which would open a tag together with what follows. -/
def Apart (cs : List Char) : Prop := cs.getLast? ≠ some '{'

theorem apart_unifyNewlines {cs : List Char} : Apart (Text.unifyNewlines cs) ↔ Apart cs := by
  rw [Apart, Text.getLast?_unifyNewlines, Ne, Text.map_unified_eq_some (by decide) (by decide)]
  rfl

/-- Text that ends in a brace has only one there. -/
theorem Unmarked.exists_of_not_apart {cs : List Char} (h : Unmarked cs) (hbrace : ¬Apart cs) :
    ∃ before, cs = before ++ ['{'] ∧ Unmarked before ∧ Apart before := by
  obtain ⟨before, rfl⟩ := List.getLast?_eq_some_iff.mp (not_not.mp hbrace)
  refine ⟨before, rfl, fun opener hopener hin => h opener hopener (hin.trans (List.prefix_append _ _).isInfix), ?_⟩
  intro hlast
  obtain ⟨more, rfl⟩ := List.getLast?_eq_some_iff.mp hlast
  exact h ['{', '{'] (by decide) ⟨more, [], by simp⟩

namespace Parts

variable {α β : Type}

/-- A template in parts as a draft. -/
def draft : Parts α → Draft α
  | .text cs h => .text cs h
  | .slot cs h _ a rest => .slot cs h a rest.draft

theorem written_draft (content : α → List Char) (parts : Parts α) : parts.draft.written content = parts.written content := by
  induction parts with
  | text cs h => rfl
  | slot cs h happart a rest ih => rw [draft, Draft.written, ih, written]

theorem unifyNewlines_draft (parts : Parts α) : parts.unifyNewlines.draft = parts.draft.unifyNewlines := by
  induction parts with
  | text cs h => rfl
  | slot cs h happart a rest ih => rw [unifyNewlines, draft, ih, draft, Draft.unifyNewlines]

theorem all_draft {P : List Char → α → Prop} (h : ∀ cs a, Apart cs → P cs a) (parts : Parts α) : parts.draft.All P := by
  induction parts with
  | text cs _ => trivial
  | slot cs _ happart a rest ih => exact ⟨h cs a happart, ih⟩

end Parts

end ShaderBundle.Template
