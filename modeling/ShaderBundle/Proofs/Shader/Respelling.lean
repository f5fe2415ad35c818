import ShaderBundle.Proofs.Shader.Lines
import ShaderBundle.Proofs.Template.Matches

/-!
# Respelling a shader

The text that a shader is read from has no dotted placeholder in it, so respelling it once more changes nothing. A
placeholder that stands for nothing is refused before the rest of the shader is looked at: neither a comment hides it, nor
does a fault in front of it come first.

* `placeholders_projected`: what becomes of all the placeholders of a text.
-/

namespace ShaderBundle.Shader

open Template

/-- A text is split in one way into characters and the placeholders that start first. If these are all known, respelling
puts the plain one of its argument in the place of each and keeps every character. In what comes out no placeholder
stands, wherever one touched another or a brace, and it stays as it is if respelled again. Otherwise there is a first
placeholder that is not known, and it is refused, whatever else is wrong with the text. -/
theorem placeholders_projected (text : List Char) :
    (∀ ss, Splits text ss ↔ ss = spans text) ∧ writtenText (spans text) = text ∧
      (∀ written name, (Span.dotted written name).Known ↔
        ∃ a : Argument, name = a.dottedName ∧ (Span.dotted written name).respelled = plainPlaceholder a.name) ∧
      ((∀ s ∈ spans text, s.Known) →
        rewritePlaceholders text = .ok (respelledText (spans text)) ∧
        (∀ written name, Dotted written name → ¬written <:+: respelledText (spans text)) ∧
        rewritePlaceholders (respelledText (spans text)) = .ok (respelledText (spans text))) ∧
      ((∀ s ∈ spans text, s.Known) ∨ ∃ before written name after,
        spans text = before ++ .dotted written name :: after ∧ (∀ s ∈ before, s.Known) ∧
          ¬(Span.dotted written name).Known) ∧
      ∀ before written name after, spans text = before ++ .dotted written name :: after → (∀ s ∈ before, s.Known) →
        ¬(Span.dotted written name).Known →
        rewritePlaceholders text = .error ⟨written, 1 + newlines (writtenText before)⟩ ∧
        ∀ cs, Text.unifyNewlines cs = text →
          compile cs =
            .error ⟨1 + newlines (writtenText before), s!"unknown placeholder {String.ofList written}"⟩ ∧
          ∀ (t : Tree), t.WellFormed → ∀ (here : Location) (path : String) (args : VariantArgs),
            t.readFile here (Path.ofText path).text = .ok (Text.toUtf8 (String.ofList cs)) →
            renderIn t here (.ofText path) args = .error (stopFailure (Path.ofText path).text (.malformed
              ⟨1 + newlines (writtenText before), s!"unknown placeholder {String.ofList written}"⟩)) := by
  refine ⟨fun ss => splits_iff, writtenText_spans text, fun written name => Span.known_iff, fun hknown => ?_,
    known_or_unknown (spans text), fun before written name after hsplit hbefore hname => ⟨?_, ?_⟩⟩
  · have hclear := clear_respelledText (splits_iff.mpr rfl) hknown
    exact ⟨by rw [rewritePlaceholders_spans, respell_known hknown], hclear, rewritePlaceholders_clear hclear⟩
  · rw [rewritePlaceholders_spans, hsplit, respell_unknown hbefore hname]
  · rintro cs rfl
    have hcompile := compile_unknown hsplit hbefore hname
    exact ⟨hcompile, fun t ht here path args hread => renderIn_malformed ht hread args hcompile⟩

/-- Two placeholders that touch, the first of them between braces. -/
def crowdedText : List Char := "\x7b\x7b\x7b.Header\x7d\x7d\x7b\x7b .FetchColorExpr\n\x7d\x7d\x7d".toList

/-- A tag that is not known. -/
def taggedFront : List Char := "\x7b% foo %\x7d\n\x7b# ".toList

/-- Below it a comment holds a placeholder that stands for nothing. -/
def taggedText : List Char := taggedFront ++ "\x7b\x7b.Nope\x7d\x7d #\x7d".toList

def taggedTree : Tree := ⟨[(["a.frag"], .file (Text.toUtf8 (String.ofList taggedText)) false)]⟩

/-- Neither do the braces make up another placeholder, nor does the tag come before the one in the comment. -/
theorem placeholders_crowded :
    rewritePlaceholders crowdedText = .ok "\x7b\x7b\x7b header \x7d\x7d\x7b\x7b fetch_color_expr \x7d\x7d\x7d".toList ∧
      rewritePlaceholders (respelledText (spans crowdedText)) = .ok (respelledText (spans crowdedText)) ∧
      renderIn taggedTree [] (.ofText "a.frag") ⟨"", ""⟩ =
        .error (stopFailure "a.frag" (.malformed ⟨2, "unknown placeholder \x7b\x7b.Nope\x7d\x7d"⟩)) := by
  have hknown : ∀ s ∈ spans crowdedText, s.Known := by decide +kernel
  obtain ⟨-, -, -, hcrowded, -, -⟩ := placeholders_projected crowdedText
  obtain ⟨hrewritten, -, hagain⟩ := hcrowded hknown
  obtain ⟨-, -, -, -, -, htagged⟩ := placeholders_projected (Text.unifyNewlines taggedText)
  have hfront : ∀ s ∈ taggedFront.map Span.char, s.Known := by decide +kernel
  have hname : ¬(Span.dotted "\x7b\x7b.Nope\x7d\x7d".toList "Nope".toList).Known := by decide +kernel
  have hsplit : spans (Text.unifyNewlines taggedText) = taggedFront.map Span.char ++
      .dotted "\x7b\x7b.Nope\x7d\x7d".toList "Nope".toList :: " #\x7d".toList.map Span.char := by rfl
  refine ⟨hrewritten, hagain, ?_⟩
  exact ((htagged _ _ _ _ hsplit hfront hname).2 taggedText rfl).2 taggedTree (by decide) [] "a.frag" ⟨"", ""⟩ rfl

end ShaderBundle.Shader
