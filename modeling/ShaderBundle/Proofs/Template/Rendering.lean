import ShaderBundle.Proofs.Files.Below
import ShaderBundle.Proofs.Template.Parsing
import ShaderBundle.Proofs.Text.Utf8
import ShaderBundle.Shader.Rendered

/-!
# How a draft is rendered

A draft is compiled if each tag stands apart and names a value, and refused otherwise. Rendering then prints the words
one after another; the first that is not defined stops it.

* `Draft.compile_written`: what a draft is compiled to.
* `Draft.render_written`: what it is rendered as.
* `libraryOf_self`: a shader is itself a template of its directory.
-/

namespace ShaderBundle.Template

/-! ## Compiling -/

theorem Word.spelling_lineless (w : Word) : w.spelling ≠ [] ∧ '\r' ∉ w.spelling ∧ '\n' ∉ w.spelling := by
  have hname (c : Char) (hc : Text.isBlank c = true) : c ∉ w.name := fun hmem => by
    have := Text.not_isBlank_of_identifier (Text.isIdentifierContinue_of_mem w.identifier hmem)
    rw [hc] at this
    cases this
  obtain ⟨c, cs, hcons, -⟩ := Text.exists_cons_of_isIdentifier w.identifier
  have hcr := hname '\r' (by decide)
  have hlf := hname '\n' (by decide)
  unfold Word.spelling
  split
  · simp [hcr, hlf]
  · exact ⟨by rw [hcons]; exact List.cons_ne_nil c cs, hcr, hlf⟩

namespace Draft

/-- Nodes that print words pass all checks. -/
theorem check_prints {d : Draft String} {ns : List Node} (h : d.Prints ns) : check ns = .ok () := by
  have hdata (cs : List Char) {ns : List Node} (h : Check.nodes {} ns = .ok ()) :
      Check.nodes {} (dataNodes cs ++ ns) = .ok () := by
    cases cs with
    | nil => exact h
    | cons c cs =>
      rw [dataNodes, if_neg (by simp), List.singleton_append, Check.nodes, Check.node]
      exact h
  have hword (word : String) (line : Nat) : Check.expr {} (Parse.wordExpr word line) = .ok () := by
    unfold Parse.wordExpr
    split <;> rw [Check.expr]
  rw [check]
  induction d generalizing ns with
  | text cs _ =>
    rw [show ns = dataNodes cs ++ [] from h.trans (List.append_nil _).symm]
    exact hdata cs (by rw [Check.nodes])
  | slot cs _ word rest ih =>
    obtain ⟨line, ns', rfl, hrest⟩ := h
    refine hdata cs ?_
    rw [Check.nodes, Check.node, hword]
    exact ih hrest

variable (d : Draft (Tag Word))

/-- The draft that is read: line feeds at the ends of lines, and plain placeholders. -/
def prepared : Draft (Tag Word) := (d.unifyNewlines.map Tag.unifyNewlines).map Tag.respelled

/-- Every tag stands apart, and the word in it is plain once it is respelled. -/
def Readable : Prop := d.All fun cs t => Apart cs ∧ t.inside.respelled.Plain

/-- The words that are read, in text with its line ends unified. -/
def readings : Draft String := d.unifyNewlines.map fun t => String.ofList t.inside.respelled.name

theorem legible_prepared : d.prepared.All Legible ↔ d.Readable := by
  rw [prepared, all_map, all_map, all_unifyNewlines]
  refine all_congr fun cs t => ?_
  rw [Legible, apart_unifyNewlines, Tag.inside_respelled]
  rfl

theorem words_prepared : d.prepared.words = d.readings := by
  rw [words, prepared, map_map, map_map, readings]
  exact congrArg (Draft.map · _) (funext fun t => by rw [Function.comp_apply, Function.comp_apply, Tag.inside_respelled]; rfl)

theorem unifyNewlines_written_words :
    Text.unifyNewlines (d.written (·.written Word.spelling)) =
      (d.unifyNewlines.map Tag.unifyNewlines).written (·.written Word.spelling) := by
  rw [written_map]
  exact unifyNewlines_written d (Tag.unifyNewlines_written Word.spelling_lineless) fun t rest => by simp [Tag.written]

/-- A draft is compiled to nodes that print its words, or it is refused. -/
theorem compile_written :
    (d.Readable → ∃ ns, d.readings.Prints ns ∧ compile (d.written (·.written Word.spelling)) = .ok ns) ∧
      (¬d.Readable → ∃ m, compile (d.written (·.written Word.spelling)) = .error m) := by
  have hcompile : compile (d.written (·.written Word.spelling)) =
      (rewritePlaceholders ((d.unifyNewlines.map Tag.unifyNewlines).written (·.written Word.spelling))).mapError
        unknownPlaceholder >>= fun text => parseTokens (tokens text) >>= fun ns => check ns >>= fun _ => .ok ns := by
    rw [← unifyNewlines_written_words]
    rfl
  rw [hcompile]
  by_cases hknown : (d.unifyNewlines.map Tag.unifyNewlines).All fun _ t => ¬t.inside.Unknown
  · obtain ⟨hgood, hbad⟩ := (d.prepared.lexed _ 1 0 (Nat.lt_succ_self _)).parseTokens
    rw [legible_prepared, words_prepared] at hgood
    rw [legible_prepared] at hbad
    have hread : ((rewritePlaceholders ((d.unifyNewlines.map Tag.unifyNewlines).written (·.written Word.spelling))).mapError
        unknownPlaceholder >>= fun text => parseTokens (tokens text) >>= fun ns => check ns >>= fun _ => .ok ns) =
        parseTokens (tokens (d.prepared.written (·.written Word.spelling))) >>= fun ns => check ns >>= fun _ => .ok ns := by
      rw [rewritePlaceholders_written _ hknown]
      rfl
    rw [hread]
    constructor
    · intro hall
      obtain ⟨ns, hprints, hparse⟩ := hgood hall
      refine ⟨ns, hprints, ?_⟩
      rw [tokens, hparse]
      dsimp only [bind, Except.bind]
      rw [check_prints hprints]
    · intro hall
      obtain ⟨m, hparse⟩ := hbad hall
      exact ⟨m, by rw [tokens, hparse]; rfl⟩
  · have hnot : ¬d.Readable := by
      refine fun hall => hknown (all_map.mpr (all_unifyNewlines.mpr (hall.imp fun cs t ht hunknown => ?_)))
      have hdotted : t.inside.dotted = true := hunknown.1
      have hargument : t.inside.argument? = none := hunknown.2.1
      have hplain := ht.2.1
      rw [Word.respelled, hargument] at hplain
      exact absurd (hplain.symm.trans hdotted) (by decide)
    obtain ⟨u, hrefused⟩ := (d.unifyNewlines.map Tag.unifyNewlines).refused hknown 1
    refine ⟨fun hall => absurd hall hnot, fun _ => ⟨unknownPlaceholder u, ?_⟩⟩
    rw [rewritePlaceholders, hrefused]
    rfl

end Draft

/-! ## Rendering -/

/-- The value of a word. -/
def wordValue (s : Scope) (word : String) : Value :=
  match Parse.constantWord? word with
  | some c => c.value
  | none => s.lookup word

/-- The text of a draft, for what its slots are printed as; the first that cannot be printed stops it. -/
def Draft.printed {α : Type} (print : α → Eval (List Char)) : Draft α → Eval (List Char)
  | .text cs _ => .ok cs
  | .slot cs _ a rest => do
    let text ← print a
    return cs ++ (text ++ (← rest.printed print))

namespace Draft

variable {α β : Type}

theorem printed_map (g : α → β) (print : β → Eval (List Char)) (d : Draft α) :
    (d.map g).printed print = d.printed fun a => print (g a) := by
  induction d with
  | text cs h => rfl
  | slot cs h a rest ih => rw [map, printed, ih, printed]

theorem printed_of_ok {print : α → Eval (List Char)} {value : α → List Char} (h : ∀ a, print a = .ok (value a))
    (d : Draft α) : d.printed print = .ok (d.written value) := by
  induction d with
  | text cs _ => rfl
  | slot cs _ a rest ih => rw [printed, h, ih, written]; rfl

end Draft

section
variable {template : String} {others : Others} {s : Scope} {d : Draft String} {ns : List Node}

theorem evaluate_word (word : String) (line : Nat) :
    evaluate template s (Parse.wordExpr word line) = .ok (wordValue s word) := by
  rw [Parse.wordExpr, wordValue]
  cases Parse.constantWord? word <;> rw [evaluate]

theorem renderNodes_prints {print : String → Eval (List Char)} (hs : s.extended = none)
    (hprint : ∀ word, print word = (wordValue s word).plain.map String.toList) (h : d.Prints ns) :
    renderNodes template others s ns = (d.printed print).map fun text => (text, s) := by
  have hdata (cs : List Char) (ns : List Node) : renderNodes template others s (dataNodes cs ++ ns) =
      (renderNodes template others s ns).map fun r => (cs ++ r.1, r.2) := by
    cases cs with
    | nil => cases h : renderNodes template others s ns <;> exact h
    | cons c cs =>
      rw [dataNodes, if_neg (by simp), List.singleton_append, renderNodes, renderNode, hs]
      dsimp only [bind, Except.bind]
      cases renderNodes template others s ns <;> rfl
  induction d generalizing ns with
  | text cs _ =>
    have hnil : renderNodes template others s [] = .ok ([], s) := by rw [renderNodes]
    rw [show ns = dataNodes cs ++ [] from h.trans (List.append_nil _).symm, hdata, hnil, Draft.printed]
    exact congrArg (fun text => Except.ok (text, s)) (List.append_nil cs)
  | slot cs _ word rest ih =>
    obtain ⟨line, ns', rfl, hrest⟩ := h
    have hnode : renderNode template others s (.print (Parse.wordExpr word line)) =
        (print word).map fun text => (text, s) := by
      rw [renderNode, hs, evaluate_word, hprint]
      dsimp only [bind, Except.bind, Option.isSome_none, Bool.false_eq_true, if_false]
      cases (wordValue s word).plain <;> rfl
    rw [hdata, renderNodes, hnode, Draft.printed]
    cases print word with
    | error stop => rfl
    | ok text =>
      dsimp only [bind, Except.bind, Except.map]
      rw [ih hrest]
      cases rest.printed print <;> rfl

end

/-- What a word is printed as in the template of that name. -/
def printedWord (template : String) (args : VariantArgs) (word : String) : Eval (List Char) :=
  (wordValue (.ofTemplate template (argBindings args)) word).plain.map String.toList

/-- A draft that is readable is rendered by printing its words; any other is refused. -/
theorem Draft.render_written {library : Library} {template : String} (d : Draft (Tag Word))
    (h : library template = .text (d.written (·.written Word.spelling))) (args : VariantArgs) :
    (d.Readable → render library template args =
        (d.readings.printed (printedWord template args)).map String.ofList) ∧
      (¬d.Readable → ∃ m, render library template args = .error (.malformed m)) := by
  obtain ⟨hgood, hbad⟩ := d.compile_written
  have hrender : render library template args =
      ((compile (d.written (·.written Word.spelling))).mapError .malformed >>= fun ns =>
        renderTemplate (othersAt library deepest) template ns (argBindings args)).map String.ofList := by
    rw [render, loadNodes, h]
    dsimp only
    cases compile (d.written (·.written Word.spelling)) <;> rfl
  rw [hrender]
  constructor
  · intro hall
    obtain ⟨ns, hprints, hcompile⟩ := hgood hall
    have hnodes : renderNodes template (othersAt library deepest) (.ofTemplate template (argBindings args)) ns =
        (d.readings.printed (printedWord template args)).map fun text => (text, .ofTemplate template (argBindings args)) :=
      renderNodes_prints rfl (fun _ => rfl) hprints
    rw [hcompile]
    dsimp only [Except.mapError, bind, Except.bind]
    rw [renderTemplate, hnodes]
    cases d.readings.printed (printedWord template args) <;> rfl
  · intro hall
    obtain ⟨m, hcompile⟩ := hbad hall
    exact ⟨m, by rw [hcompile]; rfl⟩

end ShaderBundle.Template

namespace ShaderBundle.Shader

/-- The file that is rendered is a template of the directory that it stands in. -/
theorem libraryOf_self {t : Tree} (ht : t.WellFormed) {here : Location} {path : String} {cs : List Char}
    (hread : t.readFile here (Path.ofText path).text = .ok (Text.toUtf8 (String.ofList cs))) :
    libraryOf t here (Path.ofText path).parent.text (Path.ofText path).name = .text cs := by
  obtain ⟨hname, hbeside⟩ := Tree.readFile_beside ht (Path.proper_ofText path) (Path.rootOf_le _) hread
  have hsplit : Text.splitOn '/' (Path.ofText path).name = [(Path.ofText path).name] := by
    rw [Text.splitOn, Text.splitAt_of_not_mem hname.no_slash]
    simp
  have hpath : templatePath? (Path.ofText path).parent.text (Path.ofText path).name =
      some (Tree.inside (Path.ofText path).parent.text (Path.ofText path).name) := by
    have hup : [(Path.ofText path).name].contains ".." = false := by
      simp [Ne.symm hname.not_up]
    rw [templatePath?, hsplit, hup, if_neg (by decide), List.filter_cons_of_pos hname.isPart]
    rfl
  rw [libraryOf, hpath, Option.map_some, hbeside]
  dsimp only
  rw [Text.toUtf8, String.toList_ofList, Text.Utf8.decodeFrom_encode]

end ShaderBundle.Shader
