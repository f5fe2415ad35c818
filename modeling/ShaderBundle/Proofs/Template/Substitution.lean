import ShaderBundle.Proofs.Template.Rendering

/-!
# Rendering is substitution

A shader that is text and placeholders is rendered by putting the arguments in the place of the placeholders. In the
text only line ends change; the arguments stand as they are, whatever is in them.

* `renderIn_substitutes`: the rendering of such a shader, whichever way its placeholders are spelled.
-/

namespace ShaderBundle.Template

/-! ## Placeholders as words -/

/-- The tag of a placeholder as one with a word in it. -/
def Tag.word (t : Tag Placeholder) : Tag Word := { t with inside := t.inside.word }

theorem Placeholder.spelling_word (p : Placeholder) : p.word.spelling = p.spelling := by
  obtain ⟨argument, dotted⟩ := p
  cases dotted <;> rfl

theorem Placeholder.respelled_word (p : Placeholder) : p.word.respelled = p.argument.word := by
  obtain ⟨argument, dotted⟩ := p
  cases argument <;> cases dotted <;> rfl

theorem Argument.printed_name (template : String) (args : VariantArgs) (a : Argument) :
    printedWord template args (String.ofList a.name) = .ok (a.value args).toList := by
  cases a <;> rfl

namespace Parts

variable (parts : Parts (Tag Placeholder))

/-- A template in parts as a draft with words. -/
def worded : Draft (Tag Word) := parts.draft.map Tag.word

theorem written_worded : parts.worded.written (·.written Word.spelling) = parts.written (·.written Placeholder.spelling) := by
  rw [worded, Draft.written_map, ← written_draft]
  refine congrArg (Draft.written · _) (funext fun t => ?_)
  rw [Function.comp_apply, Tag.written, Tag.written]
  exact congrArg (fun cs => ['{', '{'] ++ (t.before ++ (cs ++ (t.after ++ ['}', '}'])))) t.inside.spelling_word

theorem readable_worded : parts.worded.Readable := by
  refine Draft.all_map.mpr (parts.all_draft fun cs t hapart => ⟨hapart, ?_⟩)
  rw [Tag.word, Placeholder.respelled_word]
  exact t.inside.argument.plain_word

/-- The text with its line ends unified, and each argument in the place of its placeholders. -/
def substituted (args : VariantArgs) : List Char :=
  parts.unifyNewlines.written fun t => (t.inside.argument.value args).toList

/-- The spelling of a placeholder leaves no trace. -/
theorem substituted_map {respell : Tag Placeholder → Tag Placeholder}
    (h : ∀ t, (respell t).inside.argument = t.inside.argument) (args : VariantArgs) :
    (parts.map respell).substituted args = parts.substituted args := by
  rw [substituted, substituted, unifyNewlines_map, written_map]
  exact congrArg (Parts.written · _) (funext fun t => by rw [Function.comp_apply, h])

theorem printed_worded (template : String) (args : VariantArgs) :
    parts.worded.readings.printed (printedWord template args) = .ok (parts.substituted args) := by
  have hreadings : parts.worded.readings =
      parts.unifyNewlines.draft.map fun t => String.ofList t.inside.argument.name := by
    rw [Draft.readings, worded, Draft.unifyNewlines_map, Draft.map_map, unifyNewlines_draft]
    refine congrArg (Draft.map · _) (funext fun t => ?_)
    rw [Function.comp_apply, Tag.word, Placeholder.respelled_word]
    rfl
  rw [hreadings, Draft.printed_map, Draft.printed_of_ok fun t => t.inside.argument.printed_name template args, written_draft,
    substituted]

theorem render_written {library : Library} {name : String}
    (h : library name = .text (parts.written (·.written Placeholder.spelling))) (args : VariantArgs) :
    render library name args = .ok (String.ofList (parts.substituted args)) := by
  rw [← written_worded] at h
  rw [(parts.worded.render_written h args).1 parts.readable_worded, printed_worded]
  rfl

end Parts

end ShaderBundle.Template

namespace ShaderBundle.Shader

open Template

/-- A shader of text and placeholders is rendered by substitution, however its placeholders are spelled. -/
theorem renderIn_substitutes {t : Tree} (ht : t.WellFormed) (here : Location) (path : String)
    (parts : Parts (Tag Placeholder))
    (hread : t.readFile here (Path.ofText path).text =
      .ok (Text.toUtf8 (String.ofList (parts.written (·.written Placeholder.spelling))))) (args : VariantArgs) :
    renderIn t here (.ofText path) args = .ok (String.ofList (parts.substituted args)) ∧
      ∀ respell : Tag Placeholder → Tag Placeholder, (∀ t, (respell t).inside.argument = t.inside.argument) →
        (parts.map respell).substituted args = parts.substituted args := by
  refine ⟨?_, fun respell h => parts.substituted_map h args⟩
  rw [renderIn, parts.render_written (libraryOf_self ht hread)]
  rfl

/-- Braces and line ends around placeholders of both spellings. -/
def bracedParts : Parts (Tag Placeholder) :=
  .slot "void main() \x7b ".toList (by decide) (by decide)
      ⟨[' '], ⟨.header, false⟩, ['\t'], Tag.blank_space, List.all_eq_true.mp rfl⟩ <|
    .slot "\x7d\r\n".toList (by decide) (by decide)
        ⟨[], ⟨.fetchColorExpr, true⟩, [], List.all_eq_true.mp rfl, List.all_eq_true.mp rfl⟩ <|
      .slot [] (by decide) (by decide)
          ⟨['\r', '\n'], ⟨.header, true⟩, [' '], List.all_eq_true.mp rfl, Tag.blank_space⟩ <|
        .text "\x7d\r\n\n".toList (by decide)

def bracedTree : Tree :=
  ⟨[(["quad.frag"], .file (Text.toUtf8 ("void main() \x7b \x7b\x7b header\t\x7d\x7d\x7d\r\n" ++
    "\x7b\x7b.FetchColorExpr\x7d\x7d\x7b\x7b\r\n.Header \x7d\x7d\x7d\r\n\n")) false)]⟩

theorem renderIn_braced :
    renderIn bracedTree [] (.ofText "quad.frag") ⟨"\x7d\x7d\r\n", "\x7b\x7b header \x7d\x7d"⟩ =
      .ok "void main() \x7b \x7b\x7b header \x7d\x7d\x7d\n\x7d\x7d\r\n\x7b\x7b header \x7d\x7d\x7d\n\n" := by
  have hread : bracedTree.readFile [] (Path.ofText "quad.frag").text =
      .ok (Text.toUtf8 (String.ofList (bracedParts.written (·.written Placeholder.spelling)))) := by
    rfl
  have hrendered := renderIn_substitutes (by decide) [] "quad.frag" bracedParts hread
    ⟨"\x7d\x7d\r\n", "\x7b\x7b header \x7d\x7d"⟩
  rw [hrendered.1]
  rfl

end ShaderBundle.Shader
