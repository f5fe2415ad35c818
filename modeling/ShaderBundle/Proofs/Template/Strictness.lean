import ShaderBundle.Proofs.Template.Rendering

/-!
# Placeholders that stand for nothing

A shader whose tags hold one word each is rendered if every tag stands apart and its word is an argument's or one that
every template has of its own. Any other word is an error, whichever way it is spelled, and so is a tag behind a brace.

* `ownWords`: what a template prints without being given it.
* `renderIn_strict`: when such a shader is rendered, and what is reported otherwise.
-/

namespace ShaderBundle.Template

/-! ## Words with a value -/

/-- The words that are printed in every template, whatever arguments it is given: literals, itself, and the functions
that all templates know. -/
def ownWords : List String := ["true", "True", "false", "False", "none", "None", "self"] ++ builtins

namespace Word

/-- The word is the name of an argument, as it is spelled behind a dot or without one. -/
def Declared (w : Word) : Prop := ∃ a : Argument, w.name = if w.dotted then a.dottedName else a.name

def Own (w : Word) : Prop := w.dotted = false ∧ String.ofList w.name ∈ ownWords

end Word

variable (template : String) (args : VariantArgs)

theorem printedWord_own {word : String} (h : word ∈ ownWords) : ∃ text, printedWord template args word = .ok text := by
  simp only [ownWords, builtins, List.cons_append, List.nil_append, List.mem_cons, List.not_mem_nil, or_false] at h
  rcases h with rfl | rfl | rfl | rfl | rfl | rfl | rfl | rfl | rfl | rfl | rfl | rfl | rfl <;> exact ⟨_, rfl⟩

theorem printedWord_argument (a : Argument) : ∃ text, printedWord template args (String.ofList a.name) = .ok text := by
  cases a <;> exact ⟨_, rfl⟩

theorem printedWord_other {word : String} (hown : word ∉ ownWords) (hargument : ∀ a : Argument, word ≠ String.ofList a.name) :
    printedWord template args word = .error (.undefined s!"{Text.display word} is undefined") := by
  have hliteral : Parse.constantWord? word = none := by
    unfold Parse.constantWord?
    split
    all_goals first | rfl | exact absurd (by decide) hown
  have hnames : word ≠ "self" ∧ word ≠ "fetch_color_expr" ∧ word ≠ "header" :=
    ⟨fun h => hown (h ▸ by decide), hargument .fetchColorExpr, hargument .header⟩
  have hbuiltin : word ∉ builtins := fun h => hown (List.mem_append_right _ h)
  have hbound : (("self", Value.template template) :: argBindings args).lookup word = none :=
    List.lookup_eq_none_iff.mpr (by simp [argBindings, hnames])
  have hlookup : (Scope.ofTemplate template (argBindings args)).lookup? word = none := by
    simp [Scope.lookup?, Scope.ofTemplate, hbound, hbuiltin]
  rw [printedWord, wordValue, hliteral]
  dsimp only
  rw [Scope.lookup, hlookup]
  rfl

/-- A word is read and has a value if it is an argument's or the template's own. -/
theorem Word.printable_iff (w : Word) :
    w.respelled.Plain ∧ (∃ text, printedWord template args (String.ofList w.respelled.name) = .ok text) ↔
      w.Declared ∨ w.Own := by
  constructor
  · rintro ⟨⟨hdotted, -⟩, text, hprinted⟩
    cases ha : w.argument? with
    | some a =>
      obtain ⟨hdotted, hname⟩ := argument?_eq_some.mp ha
      exact .inl ⟨a, by rw [hdotted]; exact hname⟩
    | none =>
      have hrespelled : w.respelled = w := by rw [respelled, ha]
      rw [hrespelled] at hdotted hprinted
      by_cases hown : String.ofList w.name ∈ ownWords
      · exact .inr ⟨hdotted, hown⟩
      · by_cases hargument : ∃ a : Argument, w.name = a.name
        · obtain ⟨a, ha⟩ := hargument
          exact .inl ⟨a, by rw [hdotted]; exact ha⟩
        · rw [printedWord_other template args hown fun a ha => hargument ⟨a, String.ofList_injective ha⟩] at hprinted
          cases hprinted
  · rintro (⟨a, ha⟩ | ⟨hdotted, hown⟩)
    · have hrespelled : w.respelled = a.word := by
        obtain ⟨dotted, name, identifier⟩ := w
        cases dotted with
        | true =>
          rw [respelled, argument?_eq_some.mpr ⟨rfl, ha⟩]
        | false =>
          cases ha
          rfl
      rw [hrespelled]
      exact ⟨a.plain_word, printedWord_argument template args a⟩
    · have hrespelled : w.respelled = w := by
        rw [respelled, argument?, if_neg (by simp [hdotted])]
      rw [hrespelled]
      refine ⟨⟨hdotted, fun hnot => ?_⟩, printedWord_own template args hown⟩
      rw [hnot] at hown
      exact absurd hown (by decide)

/-- A word that cannot be printed is neither, and it is named. -/
theorem Word.undefined_of_error {w : Word} {stop : Stop}
    (h : printedWord template args (String.ofList w.respelled.name) = .error stop) :
    ¬(w.Declared ∨ w.Own) ∧ stop = .undefined s!"{Text.display (String.ofList w.name)} is undefined" := by
  have hnot : ¬∃ text, printedWord template args (String.ofList w.respelled.name) = .ok text := by
    rw [h]
    exact nofun
  have hargument : w.argument? = none := by
    cases ha : w.argument? with
    | none => rfl
    | some a =>
      rw [respelled, ha] at hnot
      exact absurd (printedWord_argument template args a) hnot
  have hrespelled : w.respelled = w := by rw [respelled, hargument]
  refine ⟨fun hword => hnot ((w.printable_iff template args).mpr hword).2, ?_⟩
  rw [hrespelled] at h hnot
  have hother := printedWord_other template args (fun hown => hnot (printedWord_own template args hown))
    fun a ha => hnot (ha ▸ printedWord_argument template args a)
  rw [hother] at h
  exact (Except.error.inj h).symm

/-! ## Drafts -/

namespace Draft

variable {α : Type} {print : α → Eval (List Char)} {d : Draft α}

theorem printed_ok_iff : (∃ text, d.printed print = .ok text) ↔ d.All fun _ a => ∃ text, print a = .ok text := by
  induction d with
  | text cs h => exact ⟨fun _ => trivial, fun _ => ⟨cs, rfl⟩⟩
  | slot cs h a rest ih =>
    rw [printed, All, ← ih]
    constructor
    · rintro ⟨text, hprinted⟩
      obtain ⟨first, hfirst, hrest⟩ := bind_eq_ok.mp hprinted
      obtain ⟨more, hmore, -⟩ := bind_eq_ok.mp hrest
      exact ⟨⟨first, hfirst⟩, ⟨more, hmore⟩⟩
    · rintro ⟨⟨first, hfirst⟩, ⟨more, hmore⟩⟩
      rw [hfirst, hmore]
      exact ⟨_, rfl⟩

/-- What stops a draft stops one of its slots. -/
theorem exists_of_printed_error {stop : Stop} (h : d.printed print = .error stop) : ∃ a ∈ d.slots, print a = .error stop := by
  induction d with
  | text cs _ => cases h
  | slot cs _ a rest ih =>
    rw [printed] at h
    cases hfirst : print a with
    | error e =>
      rw [hfirst] at h
      cases h
      exact ⟨a, List.mem_cons_self, hfirst⟩
    | ok first =>
      cases hrest : rest.printed print with
      | error e =>
        rw [hfirst, hrest] at h
        cases h
        obtain ⟨b, hb, hstop⟩ := ih hrest
        exact ⟨b, List.mem_cons_of_mem a hb, hstop⟩
      | ok more =>
        rw [hfirst, hrest] at h
        cases h

end Draft

end ShaderBundle.Template

namespace ShaderBundle.Shader

open Template

/-- A shader with a word in each of its tags is rendered if every tag stands apart, and its word is the name of an
argument or one of the template's own. In every other case what is wrong is reported; a word that is not defined, by
name. -/
theorem renderIn_strict {t : Tree} (ht : t.WellFormed) (here : Location) (path : String) (d : Draft (Tag Word))
    (hread : t.readFile here (Path.ofText path).text =
      .ok (Text.toUtf8 (String.ofList (d.written (·.written Word.spelling))))) (args : VariantArgs) :
    ((∃ text, renderIn t here (.ofText path) args = .ok text) ↔
        d.All fun cs tag => Apart cs ∧ (tag.inside.Declared ∨ tag.inside.Own)) ∧
      ∀ f, renderIn t here (.ofText path) args = .error f → ∃ problem,
        f = .reported ⟨.template problem (some (Path.ofText path).text), none⟩ ∧
        ((∃ line detail, problem = .malformed (Path.ofText path).text line detail) ∨
          ∃ tag ∈ d.slots, ¬(tag.inside.Declared ∨ tag.inside.Own) ∧ problem =
            .undefined (Path.ofText path).text s!"{Text.display (String.ofList tag.inside.name)} is undefined") := by
  obtain ⟨hgood, hbad⟩ := d.render_written (libraryOf_self ht hread) args
  have hall : (d.All fun cs tag => Apart cs ∧ (tag.inside.Declared ∨ tag.inside.Own)) ↔
      d.Readable ∧ d.readings.All fun _ word => ∃ text, printedWord (Path.ofText path).name args word = .ok text := by
    rw [Draft.Readable, Draft.readings, Draft.all_map, Draft.all_unifyNewlines, ← Draft.all_and]
    refine Draft.all_congr fun cs tag => ?_
    rw [← Word.printable_iff (Path.ofText path).name args, and_assoc]
  rw [hall, renderIn]
  by_cases hreadable : d.Readable
  · rw [hgood hreadable, ← Draft.printed_ok_iff]
    cases hprinted : d.readings.printed (printedWord (Path.ofText path).name args) with
    | ok text =>
      refine ⟨⟨fun _ => ⟨hreadable, text, rfl⟩, fun _ => ⟨_, rfl⟩⟩, ?_⟩
      rintro f ⟨⟩
    | error stop =>
      obtain ⟨word, hword, hstop⟩ := Draft.exists_of_printed_error hprinted
      rw [Draft.readings, Draft.slots_map, Draft.slots_unifyNewlines] at hword
      obtain ⟨tag, htag, rfl⟩ := List.mem_map.mp hword
      obtain ⟨hundefined, rfl⟩ := Word.undefined_of_error _ _ hstop
      refine ⟨⟨?_, ?_⟩, ?_⟩
      · rintro ⟨text, ⟨⟩⟩
      · rintro ⟨-, text, ⟨⟩⟩
      · rintro _ ⟨⟩
        exact ⟨_, rfl, .inr ⟨tag, htag, hundefined, rfl⟩⟩
  · obtain ⟨m, hmalformed⟩ := hbad hreadable
    rw [hmalformed]
    refine ⟨⟨?_, fun h => absurd h.1 hreadable⟩, ?_⟩
    · rintro ⟨text, ⟨⟩⟩
    · rintro _ ⟨⟩
      exact ⟨_, rfl, .inl ⟨m.line, m.detail, rfl⟩⟩

/-- A built-in function in the place of a placeholder. -/
def builtinDraft : Draft (Tag Word) :=
  .slot [] unmarked_nil ⟨[' '], ⟨false, "range".toList, by decide +kernel⟩, [' '], Tag.blank_space, Tag.blank_space⟩ <|
    .text [] unmarked_nil

def builtinTree : Tree := ⟨[(["a.frag"], .file (Text.toUtf8 "\x7b\x7b range \x7d\x7d") false)]⟩

/-- No argument has this name, and yet it is printed. -/
theorem renderIn_builtin : ¬builtinDraft.All (fun _ tag => tag.inside.Declared) ∧
    ∃ text, renderIn builtinTree [] (.ofText "a.frag") ⟨"", ""⟩ = .ok text := by
  refine ⟨?_, ?_⟩
  · rintro ⟨⟨a, ha⟩, -⟩
    cases a <;> exact absurd ha (by decide)
  · refine (renderIn_strict (by decide) [] "a.frag" builtinDraft rfl ⟨"", ""⟩).1.mpr ⟨⟨?_, .inr ⟨rfl, ?_⟩⟩, trivial⟩
    · exact nofun
    · decide

end ShaderBundle.Shader
