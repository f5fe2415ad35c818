import ShaderBundle.Proofs.Template.Positions
import ShaderBundle.Proofs.Template.Rendering

/-!
# The lines that are reported

A dotted placeholder that stands for nothing is reported on the line of the file on which it starts. All else that is
wrong with a shader is found in its respelled text, on the line of it that is reported. In the file it stands as many lines
further down as there are line ends within the placeholders before it.

* `exists_inFront`: the pieces in front of what stands in a respelled text.
* `compile_unknown`, `compile_known`: what is wrong with a template, and where.
* `renderIn_lines`: what is reported for a shader.
-/

namespace ShaderBundle.Template

/-! ## Places of a respelled text -/

/-- The pieces in front of an offset in their respelled text; the next one reaches beyond it. -/
structure InFront (offset : Nat) (before after : List Span) : Prop where
  ended : (respelledText before).length ≤ offset
  reached : ∀ s rest, after = s :: rest → offset < (respelledText before).length + s.respelled.length

/-- As no plain placeholder spans lines, all that stands in a piece is on the line on which the piece starts. -/
theorem exists_inFront {ss : List Span} (h : ∀ s ∈ ss, s.Known) (offset : Nat) :
    ∃ before after, ss = before ++ after ∧ InFront offset before after ∧
      lineAt (respelledText ss) offset = 1 + newlines (respelledText before) := by
  induction ss generalizing offset with
  | nil => exact ⟨[], [], rfl, ⟨Nat.zero_le _, nofun⟩, by rw [lineAt, respelledText, List.flatMap_nil, List.take_nil]⟩
  | cons s ss ih =>
    have htext : respelledText (s :: ss) = s.respelled ++ respelledText ss := List.flatMap_cons
    by_cases hin : offset < s.respelled.length
    · have hline : newlines (s.respelled.take offset) = 0 := by
        cases s with
        | char c =>
          obtain rfl : offset = 0 := by simpa [Span.respelled] using hin
          rfl
        | dotted written name =>
          obtain ⟨plain, hplain⟩ : (Span.dotted written name).Known := h _ List.mem_cons_self
          have hlines := newlines_plainPlaceholder hplain
          rw [Span.respelled, hplain, Option.getD_some]
          exact Nat.eq_zero_of_le_zero (hlines ▸ (List.take_sublist _ _).count_le _)
      refine ⟨[], s :: ss, rfl, ⟨Nat.zero_le _, ?_⟩, ?_⟩
      · rintro _ _ ⟨⟩
        exact hin.trans_le (Nat.le_add_left _ _)
      · rw [lineAt, htext, List.take_append_of_le_length hin.le, hline]
        rfl
    · obtain ⟨rest, hrest⟩ : ∃ rest, offset = s.respelled.length + rest := ⟨offset - s.respelled.length, by omega⟩
      obtain ⟨before, after, rfl, hfront, hline⟩ := ih (fun s hs => h s (List.mem_cons_of_mem _ hs)) rest
      have hbefore : respelledText (s :: before) = s.respelled ++ respelledText before := List.flatMap_cons
      refine ⟨s :: before, after, rfl, ⟨?_, fun s' rest' hafter => ?_⟩, ?_⟩
      · have := hfront.ended
        rw [hbefore, List.length_append]
        omega
      · have := hfront.reached s' rest' hafter
        rw [hbefore, List.length_append]
        omega
      · rw [lineAt] at hline ⊢
        rw [htext, hrest, List.take_length_add_append, newlines_append, hbefore, newlines_append]
        omega

/-! ## What is wrong with a template -/

theorem compile_eq (cs : List Char) : compile cs =
    (rewritePlaceholders (Text.unifyNewlines cs)).mapError unknownPlaceholder >>= readBy newlines := rfl

variable {cs : List Char}

theorem compile_unknown {before after : List Span} {written name : List Char}
    (hsplit : spans (Text.unifyNewlines cs) = before ++ .dotted written name :: after) (hbefore : ∀ s ∈ before, s.Known)
    (hname : ¬(Span.dotted written name).Known) :
    compile cs = .error ⟨1 + newlines (writtenText before), s!"unknown placeholder {String.ofList written}"⟩ := by
  rw [compile_eq, rewritePlaceholders_spans, hsplit, respell_unknown hbefore hname]
  rfl

theorem compile_known (hknown : ∀ s ∈ spans (Text.unifyNewlines cs), s.Known) {m : Malformed} (h : compile cs = .error m) :
    ∃ offset, faultOffset? (respelledText (spans (Text.unifyNewlines cs))) = some offset ∧
      m.line = lineAt (respelledText (spans (Text.unifyNewlines cs))) offset := by
  rw [compile_eq, rewritePlaceholders_spans, respell_known hknown] at h
  exact read_lines h

end ShaderBundle.Template

namespace ShaderBundle.Shader

open Template

theorem renderIn_malformed {t : Tree} (ht : t.WellFormed) {here : Location} {path : String} {cs : List Char}
    (hread : t.readFile here (Path.ofText path).text = .ok (Text.toUtf8 (String.ofList cs))) (args : VariantArgs)
    {m : Malformed} (h : compile cs = .error m) :
    renderIn t here (.ofText path) args = .error (stopFailure (Path.ofText path).text (.malformed m)) := by
  rw [renderIn, Template.render, loadNodes, libraryOf_self ht hread]
  dsimp only
  rw [h]
  rfl

/-- The first placeholder of a shader that stands for nothing is reported on the line on which it starts. If there is
none, respelling keeps the line ends before every piece but for those within placeholders. Whatever is wrong with the
text of the shader stands in one of the pieces: it is reported on that line of the file on which the piece starts, less
the line ends within the placeholders before it. -/
theorem renderIn_lines {t : Tree} (ht : t.WellFormed) (here : Location) (path : String) (cs : List Char)
    (hread : t.readFile here (Path.ofText path).text = .ok (Text.toUtf8 (String.ofList cs))) (args : VariantArgs) :
    (∀ before written name after, spans (Text.unifyNewlines cs) = before ++ .dotted written name :: after →
        (∀ s ∈ before, s.Known) → ¬(Span.dotted written name).Known →
        renderIn t here (.ofText path) args = .error (stopFailure (Path.ofText path).text (.malformed
          ⟨1 + newlines (writtenText before), s!"unknown placeholder {String.ofList written}"⟩))) ∧
      writtenText (spans (Text.unifyNewlines cs)) = Text.unifyNewlines cs ∧
      ((∀ s ∈ spans (Text.unifyNewlines cs), s.Known) →
        rewritePlaceholders (Text.unifyNewlines cs) = .ok (respelledText (spans (Text.unifyNewlines cs))) ∧
        (∀ before after, spans (Text.unifyNewlines cs) = before ++ after →
          newlines (writtenText before) = newlines (respelledText before) + foldedLines before ∧
            (foldedLines before = 0 ↔ ∀ written name, .dotted written name ∈ before → '\n' ∉ written)) ∧
        ∀ m, compile cs = .error m →
          renderIn t here (.ofText path) args = .error (stopFailure (Path.ofText path).text (.malformed m)) ∧
          ∃ offset before after, faultOffset? (respelledText (spans (Text.unifyNewlines cs))) = some offset ∧
            spans (Text.unifyNewlines cs) = before ++ after ∧ InFront offset before after ∧
            m.line + foldedLines before = 1 + newlines (writtenText before)) := by
  refine ⟨fun before written name after hsplit hbefore hname => ?_, writtenText_spans _, fun hknown =>
    ⟨?_, ?_, fun m hm => ⟨?_, ?_⟩⟩⟩
  · exact renderIn_malformed ht hread args (compile_unknown hsplit hbefore hname)
  · rw [rewritePlaceholders_spans, respell_known hknown]
  · exact fun before after hsplit =>
      ⟨newlines_writtenText fun s hs => hknown s (hsplit ▸ List.mem_append_left after hs), foldedLines_eq_zero⟩
  · exact renderIn_malformed ht hread args hm
  · obtain ⟨offset, hfault, hline⟩ := compile_known hknown hm
    obtain ⟨before, after, hsplit, hfront, hplace⟩ := exists_inFront hknown offset
    have hbefore : ∀ s ∈ before, s.Known := fun s hs => hknown s (hsplit ▸ List.mem_append_left after hs)
    have hlines := newlines_writtenText hbefore
    exact ⟨offset, before, after, hfault, hsplit, hfront, by omega⟩

/-- A placeholder over two lines. -/
def foldedFront : List Char := "\x7b\x7b\n.Header\x7d\x7d\n".toList

/-- Below it stands a tag that is not known. -/
def foldedText : List Char := foldedFront ++ "\x7b% foo %\x7d".toList

def foldedTree : Tree := ⟨[(["a.frag"], .file (Text.toUtf8 (String.ofList foldedText)) false)]⟩

/-- The tag is on the third line, and the second is reported. -/
theorem renderIn_folded : newlines foldedFront = 2 ∧ renderIn foldedTree [] (.ofText "a.frag") ⟨"", ""⟩ =
    .error (stopFailure "a.frag" (.malformed ⟨2, "Encountered unknown tag 'foo'."⟩)) := by
  refine ⟨by decide, ?_⟩
  have hknown : ∀ s ∈ spans (Text.unifyNewlines foldedText), s.Known := by decide +kernel
  have hcompile : compile foldedText = .error ⟨2, "Encountered unknown tag 'foo'."⟩ :=
    fault?_eq_some.mp (by decide +kernel)
  exact (((renderIn_lines (by decide) [] "a.frag" foldedText rfl ⟨"", ""⟩).2.2 hknown).2.2 _ hcompile).1

end ShaderBundle.Shader
