import ShaderBundle.Proofs.Go.Fields

/-!
# Emission loses nothing

The text of a module says what the records say, and nothing else.

* `emission_lossless`: records that can be written give a module; its text scans, and what it says is the
  outline of the records. The HLSL text has no part in its tokens, and records with another outline
  have another text.
-/

namespace ShaderBundle.Go

variable {u : Alphabet}

/-! ## Records -/

/-- A variable and its value: the sources of one variant, or an array of sources. -/
def recordField (r : ShaderRecord) : Field where
  key := r.variableName
  text :=
    if r.isMultiVariant then
      "[...]backend.ShaderSources\x7b\n".toList ++
        (onLines ['\t', '\t'] (sourcesChars · "\t\t") r.exported ++ ['\t', '}'])
    else "backend.ShaderSources".toList ++ sourcesChars (r.variants.headD {}) "\t"
  tokens :=
    if r.isMultiVariant then
      .mark '[' :: [.ellipsis, .mark ']', .name "backend", .mark '.', .name "ShaderSources"] ++
        .mark '{' :: (onLinesTokens (sourcesTokens · "\t\t") r.exported ++ [.mark '}'])
    else .name "backend" :: [.mark '.', .name "ShaderSources"] ++ sourcesTokens (r.variants.headD {}) "\t"
  value :=
    if r.isMultiVariant then
      .composite (some (.array ["backend", "ShaderSources"]))
        (r.exported.map fun s => (none, .composite none (sourcesEntries s "\t\t")))
    else .composite (some (.named ["backend", "ShaderSources"])) (sourcesEntries (r.variants.headD {}) "\t")

theorem exported_eq_singleton {r : ShaderRecord} (hv : r.variants ≠ []) (hm : r.isMultiVariant = false) :
    r.exported = [r.variants.headD {}] := by
  obtain ⟨s, ss, hs⟩ := List.exists_cons_of_ne_nil hv
  simp [ShaderRecord.exported, hm, hs]

theorem good_recordField {r : ShaderRecord} (hname : u.isIdentifier r.variableName = true) :
    (recordField r).Good u := by
  have hone : IsIndent "\t".toList := by decide
  have htwo : IsIndent "\t\t".toList := by decide
  cases hm : r.isMultiVariant with
  | true =>
    have hopen : Scans u "[...]backend.ShaderSources\x7b\n".toList
        [.mark '[', .ellipsis, .mark ']', .name "backend", .mark '.', .name "ShaderSources", .mark '{'] :=
      fun _ => rfl
    have hclose : Scans u ['\t', '}'] [.mark '}'] := fun _ => rfl
    have hlines := scans_lines (u := u) r.exported htwo fun s _ =>
      (scans_sources (s := s) [] [] htwo fun _ => rfl).upTo
    have hread : ∀ s ∈ r.exported, ReadsEntry (sourcesTokens s "\t\t")
        (none, .composite none (sourcesEntries s "\t\t")) := fun s _ =>
      .plain (reads_untyped (reads_sources htwo)) (by simp) (by simp)
    refine ⟨hname, ?_, ?_⟩
    · have := hopen.append (hlines.append hclose)
      simpa [recordField, hm] using this.upTo
    · have := reads_typed (.mark '[')
        [.ellipsis, .mark ']', .name "backend", .mark '.', .name "ShaderSources"]
        (reads_block hread) (fun _ => rfl) (Or.inl rfl)
      simpa [recordField, hm] using this
  | false =>
    have hopen : Scans u ("backend.ShaderSources".toList ++ ['{', '\n'])
        ([.name "backend", .mark '.', .name "ShaderSources"] ++ [.mark '{']) := fun _ => rfl
    refine ⟨hname, ?_, ?_⟩
    · have := scans_sources (s := r.variants.headD {}) _ _ hone hopen
      simpa [recordField, hm] using this.upTo
    · have := reads_typed (.name "backend") [.mark '.', .name "ShaderSources"]
        (reads_sources (s := r.variants.headD {}) hone) (fun _ => rfl) (Or.inr ⟨_, rfl⟩)
      simpa [recordField, hm, sourcesTokens] using this

theorem toList_recordLines {r : ShaderRecord} (hv : r.variants ≠ []) :
    (textOfLines (recordLines r "\t")).toList =
      '\t' :: (r.variableName.toList ++ (" = ".toList ++ ((recordField r).text ++ ['\n']))) := by
  cases hm : r.isMultiVariant with
  | true =>
    have helements : (r.exported.flatMap fun s => sourceLines "" "," s ("\t" ++ "\t")).flatMap
        (fun l => l.toList ++ ['\n']) = onLines ['\t', '\t'] (sourcesChars · "\t\t") r.exported := by
      rw [List.flatMap_assoc, onLines]
      congr 1
      funext s
      rw [← toList_textOfLines, toList_sourceLines]
      simp
    rw [recordLines, hm, if_pos rfl, toList_textOfLines, List.flatMap_append, List.flatMap_cons, helements]
    simp [recordField, hm, toString_string]
  | false =>
    rw [recordLines, hm, if_neg (by decide), exported_eq_singleton hv hm, List.flatMap_singleton,
      toList_sourceLines]
    simp [recordField, hm, toString_string]

/-- A variable with its value, and the end of its line. -/
def recordTokens (r : ShaderRecord) : List Token :=
  .name r.variableName :: .mark '=' :: ((recordField r).tokens ++ [.mark ';'])

theorem recordField_tokens (r : ShaderRecord) : ∃ ts, (recordField r).tokens = ts ++ [.mark '}'] := by
  unfold recordField
  cases r.isMultiVariant with
  | true => exact ⟨_, (List.append_assoc _ (_ :: _) _).symm⟩
  | false => exact ⟨_, (List.append_assoc _ (_ :: _) _).symm⟩

theorem scans_record {r : ShaderRecord} (hv : r.variants ≠ []) (hname : u.isIdentifier r.variableName = true) :
    Scans u (textOfLines (recordLines r "\t")).toList (recordTokens r) := by
  have htab : Scans u ['\t'] [] := fun _ => rfl
  have hequals : Scans u [' ', '=', ' '] [.mark '='] := fun _ => rfl
  have hvalue : Scans u ((recordField r).text ++ ['\n']) ((recordField r).tokens ++ [.mark ';']) := by
    obtain ⟨ts, hts⟩ := recordField_tokens r
    have hscans := (good_recordField hname).scans
    rw [hts] at hscans ⊢
    simpa using hscans.endLine ts rfl
  have := htab.append ((scansUpTo_identifier hname).append (.inr (.inr (.inl rfl))) (hequals.append hvalue))
  rw [toList_recordLines hv]
  exact this

/-! ## Modules -/

def moduleTokens (package : String) (records : List ShaderRecord) : List Token :=
  [.keyword "package", .name package, .mark ';', .keyword "import", .text backendPackage, .mark ';',
    .keyword "var", .mark '('] ++ (records.flatMap recordTokens ++ [.mark ')', .mark ';'])

/-- What is checked of a record before it is written, and what its reader relies on. -/
structure Expressible (u : Alphabet) (r : ShaderRecord) : Prop where
  variant : r.variants ≠ []
  named : u.isIdentifier r.variableName = true
  printable : ∀ s ∈ r.exported, ∀ n ∈ integersOf s.reflection, n.natAbs < integerLimit
  /-- A buffer without blocks holds nothing else. -/
  buffer : ∀ s ∈ r.exported, s.reflection.uniforms.blocks = [] →
    s.reflection.uniforms.members = [] ∧ s.reflection.uniforms.size = 0

theorem scan_module {package : String} {records : List ShaderRecord} (hp : u.isIdentifier package = true)
    (h : ∀ r ∈ records, Expressible u r) :
    scan u (textOfLines (moduleLines package records)) = some (moduleTokens package records) := by
  have hheader : Scanner.run u ⟨.between, []⟩ (header.toList ++ ['\n', '\n']) = some ⟨.between, []⟩ := rfl
  have hpackage : Scans u "package ".toList [.keyword "package"] := fun _ => rfl
  have himport : Scans u "import ".toList [.keyword "import"] := fun _ => rfl
  have hvar : Scans u "var (\n".toList [.keyword "var", .mark '('] := fun _ => rfl
  have hname : Scans u (package.toList ++ ['\n'] ++ ['\n']) [.name package, .mark ';'] :=
    ((scansUpTo_identifier hp).endLine [] rfl).skipLine [_] rfl
  have hpath : Scans u ((stringLiteral backendPackage).toList ++ ['\n'] ++ ['\n'])
      [.text backendPackage, .mark ';'] :=
    ((scans_stringLiteral backendPackage).upTo.endLine [] rfl).skipLine [_] rfl
  have hrecords : Scans u (records.flatMap fun r => (textOfLines (recordLines r "\t")).toList)
      (records.flatMap recordTokens) := Scans.flatMap fun r hr => scans_record (h r hr).variant (h r hr).named
  have hclose : Scans u ([')', '\n'] ++ ['\n']) [.mark ')', .mark ';'] := fun _ => rfl
  have hall := hpackage.append (hname.append (himport.append (hpath.append (hvar.append
    (hrecords.append hclose)))))
  have htext : (textOfLines (moduleLines package records)).toList ++ ['\n'] =
      header.toList ++ ['\n', '\n'] ++ ("package ".toList ++ (package.toList ++ ['\n'] ++ ['\n'] ++
        ("import ".toList ++ ((stringLiteral backendPackage).toList ++ ['\n'] ++ ['\n'] ++
          ("var (\n".toList ++ ((records.flatMap fun r => (textOfLines (recordLines r "\t")).toList) ++
            ([')', '\n'] ++ ['\n'])))))))  := by
    simp [toList_textOfLines, moduleLines, List.flatMap_assoc, toString_string]
  rw [scan, htext, Scanner.run_append, hheader, Option.bind_some, hall]
  simp [moduleTokens]

/-! ## Reading a module back -/

theorem readVariables_records {records : List ShaderRecord}
    (h : ∀ r ∈ records, u.isIdentifier r.variableName = true) (rest : List Token) :
    ∀ n, (records.flatMap recordTokens).length < n →
      readVariables n (records.flatMap recordTokens ++ .mark ')' :: rest) =
        some (records.map fun r => (r.variableName, (recordField r).value), rest) := by
  induction records with
  | nil =>
    intro n hn
    obtain ⟨n, rfl⟩ := Nat.exists_eq_add_of_lt (Nat.zero_lt_of_lt hn)
    rw [Nat.zero_add]
    rfl
  | cons r records ih =>
    intro n hn
    obtain ⟨n, rfl⟩ := Nat.exists_eq_add_of_lt (Nat.zero_lt_of_lt hn)
    simp only [List.flatMap_cons, recordTokens, List.length_append, List.length_cons] at hn
    have hvalue := (good_recordField (h r (by simp))).reads n
      (.mark ';' :: (records.flatMap recordTokens ++ .mark ')' :: rest)) (by omega) (.semicolon _)
    have hrest := ih (fun s hs => h s (List.mem_cons_of_mem r hs)) n (by omega)
    simp only [List.flatMap_cons, recordTokens, List.cons_append, List.append_assoc, List.nil_append,
      Nat.zero_add, readVariables, hvalue, hrest, Option.map_some, List.map_cons]

theorem readFile_moduleTokens {package : String} {records : List ShaderRecord}
    (h : ∀ r ∈ records, u.isIdentifier r.variableName = true) :
    readFile (moduleTokens package records) =
      some ⟨package, backendPackage, records.map fun r => (r.variableName, (recordField r).value)⟩ := by
  have hread := readVariables_records h [.mark ';']
    (records.flatMap recordTokens ++ [Token.mark ')', .mark ';']).length (by simp)
  simp only [moduleTokens, List.cons_append, List.nil_append, readFile, hread]

theorem exportedOf?_recordField {r : ShaderRecord} (h : Expressible u r) :
    exportedOf? (recordField r).value = some (exportedOf r) := by
  cases hm : r.isMultiVariant with
  | true =>
    have hread : (r.exported.map fun s =>
        ((none : Option String), Value.composite none (sourcesEntries s "\t\t"))).mapM elementOf? =
          some (r.exported.map visible) :=
      mapM_map_some r.exported fun s hs => sourcesOf?_allFields (h.buffer s hs)
    simp [recordField, exportedOf, hm, exportedOf?, hread]
  | false =>
    have hone := exported_eq_singleton h.variant hm
    have hread : sourcesOf? (sourcesEntries (r.variants.headD {}) "\t") =
        some (visible (r.variants.headD {})) := sourcesOf?_allFields (h.buffer _ (by simp [hone]))
    simp only [recordField, exportedOf, hm, exportedOf?, hread, Bool.false_eq_true, if_false, if_true,
      Option.map_some]

theorem readOutline_module {package : String} {records : List ShaderRecord} (hp : u.isIdentifier package = true)
    (h : ∀ r ∈ records, Expressible u r) :
    readOutline u (textOfLines (moduleLines package records)) = some (outline package records) := by
  have hvariables : (records.map fun r => (r.variableName, (recordField r).value)).mapM
      (fun x => do return (x.1, ← exportedOf? x.2)) =
        some (records.map fun r => (r.variableName, exportedOf r)) := by
    refine mapM_map_some records fun r hr => ?_
    simp only [exportedOf?_recordField (h r hr)]
    rfl
  simp only [readOutline, scan_module hp h, Option.bind_eq_bind, Option.bind_some,
    readFile_moduleTokens fun r hr => (h r hr).named, outlineOf?, if_true]
  simp only [Option.bind_eq_bind, Option.pure_def] at hvariables
  rw [Option.pure_def, hvariables]
  rfl

/-! ## The text of the comment -/

/-- The record without the HLSL text of its variants. -/
def withoutText (r : ShaderRecord) : ShaderRecord := { r with variants := r.variants.map visible }

section
variable (r : ShaderRecord)

theorem isMultiVariant_withoutText : (withoutText r).isMultiVariant = r.isMultiVariant := by
  unfold ShaderRecord.isMultiVariant
  rcases hv : r.variants with _ | ⟨a, _ | ⟨b, vs⟩⟩ <;> simp [withoutText, hv, visible]

theorem exported_withoutText : (withoutText r).exported = r.exported.map visible := by
  unfold ShaderRecord.exported
  rw [isMultiVariant_withoutText]
  cases r.isMultiVariant <;> simp [withoutText, List.map_take]

theorem recordTokens_withoutText : recordTokens (withoutText r) = recordTokens r := by
  have hname : (withoutText r).variableName = r.variableName := rfl
  have hfirst : (withoutText r).variants.headD {} = visible (r.variants.headD {}) := by
    cases hv : r.variants with
    | nil =>
      simp only [withoutText, hv, List.map_nil, List.headD_nil]
      rfl
    | cons s rest => simp [withoutText, hv]
  have hvisible (s : VariantSources) (indent : String) :
      sourcesTokens (visible s) indent = sourcesTokens s indent := rfl
  unfold recordTokens recordField
  simp only [hname, hfirst, isMultiVariant_withoutText, exported_withoutText, onLinesTokens, List.flatMap_map,
    hvisible]

end

theorem moduleTokens_withoutText (package : String) (records : List ShaderRecord) :
    moduleTokens package (records.map withoutText) = moduleTokens package records := by
  simp only [moduleTokens, List.flatMap_map, recordTokens_withoutText]

theorem expressible_withoutText {r : ShaderRecord} : Expressible u (withoutText r) ↔ Expressible u r := by
  have hexported {P : VariantSources → Prop} (hP : ∀ s, P (visible s) ↔ P s) :
      (∀ s ∈ (withoutText r).exported, P s) ↔ ∀ s ∈ r.exported, P s := by
    rw [exported_withoutText, List.forall_mem_map]
    exact forall₂_congr fun s _ => hP s
  have hvariants : (withoutText r).variants ≠ [] ↔ r.variants ≠ [] := by simp [withoutText]
  constructor
  · exact fun h => ⟨hvariants.mp h.variant, h.named, (hexported fun _ => Iff.rfl).mp h.printable,
      (hexported fun _ => Iff.rfl).mp h.buffer⟩
  · exact fun h => ⟨hvariants.mpr h.variant, h.named, (hexported fun _ => Iff.rfl).mpr h.printable,
      (hexported fun _ => Iff.rfl).mpr h.buffer⟩

/-! ## Emission -/

theorem forM_eq_ok {ε α : Type} {f : α → Except ε Unit} {xs : List α} :
    xs.forM f = .ok () ↔ ∀ x ∈ xs, f x = .ok () := by
  induction xs with
  | nil => exact ⟨fun _ => nofun, fun _ => rfl⟩
  | cons x xs ih =>
    rw [List.forM, List.forall_mem_cons, ← ih]
    cases f x with
    | ok u => exact ⟨fun h => ⟨rfl, h⟩, And.right⟩
    | error e => exact ⟨nofun, nofun⟩

theorem checkRecord_ok {r : ShaderRecord} (h : Expressible u r) : checkRecord r = .ok () := by
  have hsources : ∀ s ∈ r.exported, checkSources s = .ok () := by
    intro s hs
    have hall : (integersOf s.reflection).all isWritable = true :=
      List.all_eq_true.mpr fun n hn => decide_eq_true (h.printable s hs n hn)
    rw [checkSources, if_pos hall]
  have hv : ¬r.variants.isEmpty = true := by simpa using h.variant
  rw [checkRecord, if_neg hv]
  exact forM_eq_ok.mpr hsources

/-- A module is emitted if and only if all of its records can be. -/
theorem emitModule_eq_ok {package source : String} {records : List ShaderRecord} :
    emitModule package records = .ok source ↔
      (∀ r ∈ records, checkRecord r = .ok ()) ∧ source = textOfLines (moduleLines package records) := by
  rw [← forM_eq_ok, emitModule]
  cases records.forM checkRecord with
  | ok u => exact ⟨fun h => ⟨rfl, (Except.ok.inj h).symm⟩, fun h => congrArg _ h.2.symm⟩
  | error e => exact ⟨nofun, nofun⟩

theorem emitModule_ok {records : List ShaderRecord} (package : String) (h : ∀ r ∈ records, Expressible u r) :
    emitModule package records = .ok (textOfLines (moduleLines package records)) :=
  emitModule_eq_ok.mpr ⟨fun r hr => checkRecord_ok (h r hr), rfl⟩

/-- Records that can be written give a module that says what they say. Its tokens do not depend on the HLSL
text, and no other outline has the same text. -/
theorem emission_lossless (u : Alphabet) (package : String) {records : List ShaderRecord}
    (hp : u.isIdentifier package = true) (h : ∀ r ∈ records, Expressible u r) :
    ∃ text tokens, emitModule package records = .ok text ∧ scan u text = some tokens ∧
      readOutline u text = some (outline package records) ∧
      (∀ records', records'.map withoutText = records.map withoutText →
        ∃ text', emitModule package records' = .ok text' ∧ scan u text' = some tokens) ∧
      ∀ package' records', u.isIdentifier package' = true → (∀ r ∈ records', Expressible u r) →
        emitModule package' records' = .ok text → outline package' records' = outline package records := by
  refine ⟨_, _, emitModule_ok package h, scan_module hp h, readOutline_module hp h, ?_, ?_⟩
  · intro records' hsame
    have h' : ∀ r ∈ records', Expressible u r := by
      have hmap : ∀ r ∈ records'.map withoutText, Expressible u r := by
        rw [hsame]
        exact List.forall_mem_map.mpr fun r hr => expressible_withoutText.mpr (h r hr)
      exact fun r hr => expressible_withoutText.mp (List.forall_mem_map.mp hmap r hr)
    refine ⟨_, emitModule_ok package h', ?_⟩
    rw [scan_module hp h', ← moduleTokens_withoutText, hsame, moduleTokens_withoutText]
  · intro package' records' hp' h' hemit
    rw [emitModule_ok package' h', Except.ok.injEq] at hemit
    have hread := readOutline_module hp' h'
    rw [hemit, readOutline_module hp h] at hread
    exact (Option.some.inj hread).symm

/-! A shader with two variants whose texts hold quotes, braces, line ends and the end of a comment. -/

def hostileVariant : VariantSources where
  reflection :=
    { inputs := [⟨"p\"os\n", -1, "\x7d", 0, .float, 2⟩]
      uniforms := ⟨[⟨"Bl\\ock", 0⟩], [⟨"/*", .int, 4, 16⟩], 16⟩
      textures := [] }
  glsl100es := "a\x00\",\n)"
  glsl150 := "\u2028é"
  hlslText := "/* **/ */ \x7d ) \"\nvar x = 1"
  hlsl := [0, 44, 255]

def hostileRecord : ShaderRecord := ⟨"a.vert", [hostileVariant, { hostileVariant with glsl100es := "*/" }]⟩

theorem hostileRecord_expressible : Expressible ⟨fun _ => false, fun _ => false⟩ hostileRecord where
  variant := by decide
  named := isIdentifier_of rfl rfl rfl rfl
  printable := by
    have hsmall : ∀ s ∈ hostileRecord.exported, ∀ n ∈ integersOf s.reflection, n.natAbs < 4300 := by decide
    have hlimit (n : Nat) : n < Nat.pow 10 n := Nat.lt_pow_self (by decide)
    exact fun s hs n hn => Nat.lt_trans (hsmall s hs n hn) (hlimit 4300)
  buffer := by decide

theorem hostileRecord_lossless :
    ∃ text, emitModule "gpu" [hostileRecord] = .ok text ∧
      readOutline ⟨fun _ => false, fun _ => false⟩ text = some (outline "gpu" [hostileRecord]) := by
  have hrecords : ∀ r ∈ [hostileRecord], Expressible ⟨fun _ => false, fun _ => false⟩ r :=
    List.forall_mem_singleton.mpr hostileRecord_expressible
  obtain ⟨text, _, hemit, _, hread, _⟩ := emission_lossless ⟨fun _ => false, fun _ => false⟩
    "gpu" (isIdentifier_of rfl rfl rfl rfl) hrecords
  exact ⟨text, hemit, hread⟩

end ShaderBundle.Go
