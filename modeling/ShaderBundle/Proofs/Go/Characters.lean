import Mathlib.Data.List.Basic
import ShaderBundle.Proofs.Go.Lossless

/-!
# The characters of a module

A module is laid out in line ends, tabs and the printable characters of ASCII. All others come from what it is made
from, and their order in the text is that of their sources: the package, and for each shader its name and, variant by
variant, the quoted texts and the HLSL text. A string literal lets those of them pass that are no control characters;
the comment with the HLSL text lets all pass.

* `foreign_module`: the characters of a module that are foreign to its layout.
* `emission_lets_through`: when a NUL or a byte order mark is among them.
-/

namespace ShaderBundle.Go

/-! ## Layout -/

/-- The characters that a module is laid out in. -/
def isLayout (c : Char) : Bool := c = '\n' || c = '\t' || (32 ≤ c.toNat && c.toNat < 127)

/-- The characters of a text that are none of these, in their order. -/
def foreign (cs : List Char) : List Char := cs.filter fun c => !isLayout c

/-- Those of them that stand in a string literal as they are. -/
def foreignShown (s : String) : List Char := (foreign s.toList).filter fun c => 32 ≤ c.toNat

@[simp] theorem foreign_append (as bs : List Char) : foreign (as ++ bs) = foreign as ++ foreign bs :=
  List.filter_append as bs

theorem foreign_cons (c : Char) (cs : List Char) : foreign (c :: cs) = foreign [c] ++ foreign cs := by
  rw [← foreign_append]
  rfl

@[simp] theorem foreign_flatMap {α : Type} (xs : List α) (f : α → List Char) :
    foreign (xs.flatMap f) = xs.flatMap fun x => foreign (f x) := List.filter_flatMap

theorem mem_foreign {c : Char} {cs : List Char} (hc : isLayout c = false) : c ∈ foreign cs ↔ c ∈ cs := by
  simp [foreign, hc]

theorem foreign_eq_nil {cs : List Char} (h : ∀ c ∈ cs, isLayout c = true) : foreign cs = [] := by
  rw [foreign, List.filter_eq_nil_iff]
  intro c hc
  simp [h c hc]

theorem foreign_cons_layout {c : Char} (hc : isLayout c = true) (cs : List Char) : foreign (c :: cs) = foreign cs := by
  simp [foreign, hc]

/-! ## Numbers -/

theorem isLayout_of_isDigit {c : Char} (h : c.isDigit = true) : isLayout c = true := by
  obtain ⟨hlow, hhigh⟩ := Text.isDigit_bounds h
  have hprintable : 32 ≤ c.toNat ∧ c.toNat < 127 := by omega
  simp [isLayout, hprintable]

theorem foreign_integer (n : Int) : foreign (toString n).toList = [] := by
  apply foreign_eq_nil
  intro c hc
  rcases Text.mem_toString_int hc with rfl | hdigit
  · rfl
  · exact isLayout_of_isDigit hdigit

theorem isLayout_of_mem_hexDigits {width n : Nat} {c : Char} (h : c ∈ Text.hexDigits width n) : isLayout c = true := by
  have hall : ∀ d, d < 16 → isLayout (Text.hexDigit d) = true := by decide
  obtain ⟨d, hd, rfl⟩ := Text.mem_hexDigits h
  exact hall d hd

theorem foreign_byteElement (b : UInt8) : foreign (byteElement b).toList = [] := by
  have hdigits : foreign (Text.hexByte b).toList = [] := by
    rw [Text.hexByte, String.toList_ofList]
    exact foreign_eq_nil fun c => isLayout_of_mem_hexDigits
  rw [byteElement, String.toList_append, foreign_append, hdigits]
  rfl

theorem foreign_byteElements : ∀ line : Bytes, foreign (", ".intercalate (line.map byteElement)).toList = []
  | [] => rfl
  | [b] => by simpa using foreign_byteElement b
  | b :: c :: line => by
    have hcomma : foreign ", ".toList = [] := rfl
    have hrest := foreign_byteElements (c :: line)
    rw [List.map_cons] at hrest
    rw [List.map_cons, List.map_cons, String.intercalate_cons_cons, String.toList_append, String.toList_append,
      foreign_append, foreign_append, foreign_byteElement, hcomma, hrest]
    rfl

/-! ## Texts -/

/-- A character that is escaped leaves nothing foreign behind. -/
theorem foreign_encodeChar (c : Char) :
    foreign (Text.Quoted.encodeChar c) = (foreign [c]).filter fun d => 32 ≤ d.toNat := by
  unfold Text.Quoted.encodeChar
  split; · subst c; rfl
  split; · subst c; rfl
  split; · subst c; rfl
  split; · subst c; rfl
  split; · subst c; rfl
  split; · subst c; rfl
  split; · subst c; rfl
  split
  · next hcontrol =>
    have hdigits : foreign (Text.hexDigits 4 c.toNat) = [] := foreign_eq_nil fun d => isLayout_of_mem_hexDigits
    have hnone : ¬32 ≤ c.toNat := by omega
    have hright : (foreign [c]).filter (fun d => 32 ≤ d.toNat) = [] := by
      rw [List.filter_eq_nil_iff]
      intro d hd
      obtain rfl : d = c := by simpa using (List.mem_filter.mp hd).1
      simpa using hnone
    rw [hright, foreign_cons_layout rfl, foreign_cons_layout rfl, hdigits]
  · next hcontrol =>
    symm
    rw [List.filter_eq_self]
    intro d hd
    obtain rfl : d = c := by simpa using (List.mem_filter.mp hd).1
    exact decide_eq_true (by omega)

theorem foreign_stringLiteral (s : String) : foreign (stringLiteral s).toList = foreignShown s := by
  have hinside (cs : List Char) : foreign (cs.flatMap Text.Quoted.encodeChar) =
      (foreign cs).filter fun c => 32 ≤ c.toNat := by
    induction cs with
    | nil => rfl
    | cons c cs ih =>
      rw [List.flatMap_cons, foreign_append, foreign_encodeChar, ih, foreign_cons c cs, List.filter_append]
  rw [stringLiteral, Text.quote, String.toList_ofList, Text.Quoted.encode, foreign_cons_layout rfl, foreign_append,
    hinside]
  exact List.append_nil _

theorem foreign_guardComment (cs : List Char) : foreign (guardComment cs) = foreign cs := by
  induction cs using guardComment.induct with
  | case1 => rfl
  | case2 rest ih =>
    rw [guardComment, foreign_cons_layout rfl, foreign_cons_layout rfl, foreign_cons_layout rfl, ih,
      foreign_cons_layout rfl, foreign_cons_layout rfl]
  | case3 c rest hpair ih =>
    rw [guardComment]
    · rw [foreign_cons, ih, ← foreign_cons]
    · exact hpair

section
variable {indent : String} (hi : foreign indent.toList = [])
include hi

theorem foreign_comment (text : String) : foreign (comment indent text).toList = foreign text.toList := by
  have hopen : foreign "/*\n".toList = [] := rfl
  have hline : foreign "\n".toList = [] := rfl
  have hclose : foreign "*/".toList = [] := rfl
  simp only [comment, String.toList_append, String.toList_ofList, foreign_append, foreign_guardComment, hi, hopen,
    hline, hclose, List.nil_append, List.append_nil]

theorem foreign_bytesLiteral (data : Bytes) : foreign (bytesLiteral data indent).toList = [] := by
  by_cases hd : data = []
  · rw [bytesLiteral, if_pos hd]
    rfl
  · have hlines : (byteLines data).flatMap (fun line => foreign ((byteLine indent line).toList ++ ['\n'])) = [] := by
      rw [List.flatMap_eq_nil_iff]
      intro line _
      have htab : foreign "\t".toList = [] := rfl
      have hcomma : foreign ",".toList = [] := rfl
      simp only [byteLine, String.toList_append, foreign_append, foreign_byteElements, hi, htab, hcomma]
      rfl
    rw [toList_bytesLiteral hd, foreign_append, foreign_append, foreign_flatMap, hlines, foreign_append, hi]
    rfl

end

/-! ## Fields -/

theorem foreign_onLines {α : Type} {indent : List Char} (hi : foreign indent = []) (chars : α → List Char)
    (xs : List α) : foreign (onLines indent chars xs) = xs.flatMap fun x => foreign (chars x) := by
  have hend : foreign [',', '\n'] = [] := rfl
  simp only [onLines, foreign_flatMap, foreign_append, hi, hend, List.nil_append, List.append_nil]

/-- The keys of fields are of the layout, so that what is foreign in the fields comes with their values. -/
def LayoutKeys (fs : List Field) : Prop := ∀ f ∈ fs, foreign f.key.toList = []

theorem foreign_chars {f : Field} (h : foreign f.key.toList = []) : foreign f.chars = foreign f.text := by
  rw [Field.chars, foreign_append, h, foreign_cons_layout rfl, foreign_cons_layout rfl, List.nil_append]

theorem foreign_oneLine : ∀ {fs : List Field}, LayoutKeys fs →
    foreign (oneLine fs) = fs.flatMap fun f => foreign f.text
  | [], _ => rfl
  | [f], h => by
    rw [oneLine, foreign_append, foreign_chars (h f (by simp)), List.flatMap_singleton]
    exact List.append_nil _
  | f :: g :: fs, h => by
    have hrest := foreign_oneLine fun d hd => h d (List.mem_cons_of_mem f hd)
    rw [oneLine, foreign_append, foreign_chars (h f (by simp)), foreign_cons_layout rfl, foreign_cons_layout rfl,
      hrest]
    rfl

theorem foreign_elementText {fs : List Field} (h : LayoutKeys fs) :
    foreign (elementText fs).toList = fs.flatMap fun f => foreign f.text := by
  rw [elementText, String.toList_ofList, foreign_cons_layout rfl, foreign_oneLine h]

theorem foreign_fieldLines {indent : List Char} {fs : List Field} (hi : foreign indent = []) (h : LayoutKeys fs) :
    foreign (onLines indent Field.chars fs) = fs.flatMap fun f => foreign f.text := by
  rw [foreign_onLines hi]
  exact List.flatMap_congr fun f hf => foreign_chars (h f hf)

theorem foreign_textField (key s : String) : foreign (textField key s).text = foreignShown s :=
  foreign_stringLiteral s

theorem foreign_integerField (key : String) (n : Int) : foreign (integerField key n).text = [] := foreign_integer n

theorem foreign_typeField (t : DataType) : foreign (typeField t).text = [] := by
  cases t with
  | float => rfl
  | int => rfl

section
variable {indent : String} (hi : foreign indent.toList = [])
include hi

theorem foreign_tab : foreign (indent.toList ++ ['\t']) = [] := by
  rw [foreign_append, hi]
  rfl

theorem foreign_inner : foreign (indent ++ "\t").toList = [] := by
  rw [String.toList_append]
  exact foreign_tab hi

theorem foreign_bytesField (key : String) (data : Bytes) : foreign (bytesField key data indent).text = [] :=
  foreign_bytesLiteral hi data

theorem foreign_sliceOf {α : Type} {fields : α → List Field} {typeName : String}
    (ht : foreign typeName.toList = []) (h : ∀ x, LayoutKeys (fields x)) (key : String) (xs : List α) :
    foreign (sliceOf key typeName (xs.map fields) indent).text =
      xs.flatMap fun x => (fields x).flatMap fun f => foreign f.text := by
  have hopen : foreign "[]backend.".toList = [] := rfl
  have hbrace : foreign "\x7b\n".toList = [] := rfl
  have hclose : foreign ['}'] = [] := rfl
  simp only [sliceOf, toList_sliceLiteral, foreign_append, hopen, ht, hbrace, hi, hclose,
    foreign_onLines (foreign_tab hi), List.flatMap_map, foreign_elementText (h _), List.nil_append, List.append_nil]

theorem foreign_namedField {typeName : String} {fields : List Field} (ht : foreign typeName.toList = [])
    (h : LayoutKeys fields) (key : String) :
    foreign (namedField key typeName fields indent).text = fields.flatMap fun f => foreign f.text := by
  have hopen : foreign "backend.".toList = [] := rfl
  have hbrace : foreign "\x7b\n".toList = [] := rfl
  have hclose : foreign ['}'] = [] := rfl
  simp only [namedField, foreign_append, hopen, ht, hbrace, hi, hclose, foreign_fieldLines (foreign_tab hi) h,
    List.nil_append, List.append_nil]

end

/-! ## Sources -/

/-- The texts of a variant that are written as string literals, in their order. The names of a buffer's members are
left out with its blocks. -/
def quotedTexts (s : VariantSources) : List String :=
  s.reflection.inputs.flatMap (fun i => [i.name, i.semantic]) ++
  (if s.reflection.uniforms.blocks = [] then []
   else s.reflection.uniforms.blocks.map (·.name) ++ s.reflection.uniforms.members.map (·.name)) ++
  s.reflection.textures.map (·.name) ++
  [s.glsl100es, s.glsl300es, s.glsl130, s.glsl150]

/-- What is foreign to the layout in a variant: parts of its quoted texts, and of its HLSL text. -/
def foreignSources (s : VariantSources) : List Char :=
  (quotedTexts s).flatMap foreignShown ++ foreign s.hlslText.toList

theorem layoutKeys_inputFields (i : VertexInput) : LayoutKeys (inputFields i) := by
  simp only [LayoutKeys, inputFields, textField, integerField, typeField, List.forall_mem_cons]
  exact ⟨rfl, rfl, rfl, rfl, rfl, rfl, List.forall_mem_nil _⟩

theorem layoutKeys_blockFields (b : UniformBlock) : LayoutKeys (blockFields b) := by
  simp only [LayoutKeys, blockFields, textField, integerField, List.forall_mem_cons]
  exact ⟨rfl, rfl, List.forall_mem_nil _⟩

theorem layoutKeys_memberFields (m : UniformMember) : LayoutKeys (memberFields m) := by
  simp only [LayoutKeys, memberFields, textField, integerField, typeField, List.forall_mem_cons]
  exact ⟨rfl, rfl, rfl, rfl, List.forall_mem_nil _⟩

theorem layoutKeys_textureFields (t : TextureBinding) : LayoutKeys (textureFields t) := by
  simp only [LayoutKeys, textureFields, textField, integerField, List.forall_mem_cons]
  exact ⟨rfl, rfl, List.forall_mem_nil _⟩

theorem layoutKeys_layoutFields (l : UniformLayout) (indent : String) : LayoutKeys (layoutFields l indent) := by
  simp only [LayoutKeys, layoutFields, sliceOf_key, integerField, List.forall_mem_cons]
  exact ⟨rfl, rfl, rfl, List.forall_mem_nil _⟩

theorem layoutKeys_openFields (s : VariantSources) (indent : String) : LayoutKeys (openFields s indent) := by
  have hkey {P : Prop} [Decidable P] {f : Field} (hf : foreign f.key.toList = []) :
      ∀ g ∈ (if P then [] else [f]), foreign g.key.toList = [] :=
    forall_mem_ite_nil (List.forall_mem_singleton.mpr hf)
  have hinputs : foreign "Inputs".toList = [] := rfl
  have huniforms : foreign "Uniforms".toList = [] := rfl
  have htextures : foreign "Textures".toList = [] := rfl
  simp only [LayoutKeys, openFields, textField, List.forall_mem_append, List.forall_mem_cons]
  exact ⟨⟨⟨hkey hinputs, hkey huniforms⟩, hkey htextures⟩, rfl, rfl, rfl, rfl, List.forall_mem_nil _⟩

section
variable {indent : String} (hi : foreign indent.toList = [])
include hi

theorem foreign_inputs (inputs : List VertexInput) :
    foreign (sliceOf "Inputs" "InputLocation" (inputs.map inputFields) indent).text =
      (inputs.flatMap fun i => [i.name, i.semantic]).flatMap foreignShown := by
  rw [foreign_sliceOf hi rfl layoutKeys_inputFields, List.flatMap_assoc]
  simp [inputFields, foreign_textField, foreign_integerField, foreign_typeField]

theorem foreign_textures (textures : List TextureBinding) :
    foreign (sliceOf "Textures" "TextureBinding" (textures.map textureFields) indent).text =
      (textures.map (·.name)).flatMap foreignShown := by
  rw [foreign_sliceOf hi rfl layoutKeys_textureFields, List.flatMap_map]
  simp [textureFields, foreign_textField, foreign_integerField]

theorem foreign_uniforms (l : UniformLayout) :
    foreign (namedField "Uniforms" "UniformsReflection" (layoutFields l (indent ++ "\t")) indent).text =
      (l.blocks.map (·.name) ++ l.members.map (·.name)).flatMap foreignShown := by
  have hinner := foreign_inner hi
  rw [foreign_namedField hi rfl (layoutKeys_layoutFields l _), layoutFields, List.flatMap_cons, List.flatMap_cons,
    List.flatMap_singleton, foreign_sliceOf hinner rfl layoutKeys_blockFields,
    foreign_sliceOf hinner rfl layoutKeys_memberFields, foreign_integerField]
  simp [List.flatMap_map, blockFields, memberFields, foreign_textField, foreign_integerField, foreign_typeField]

theorem foreign_openFields (s : VariantSources) :
    foreign (onLines indent.toList Field.chars (openFields s indent)) = (quotedTexts s).flatMap foreignShown := by
  -- a field that is left out would have nothing to say
  have hoptional {P : Prop} [Decidable P] {f : Field} {texts : List String}
      (hf : foreign f.text = texts.flatMap foreignShown) :
      (if P then [] else [f]).flatMap (fun g => foreign g.text) =
        (if P then [] else texts).flatMap foreignShown := by
    split
    · rfl
    · rw [List.flatMap_singleton, hf]
  have hinputs : (if s.reflection.inputs = [] then [] else s.reflection.inputs.flatMap fun i => [i.name, i.semantic]) =
      s.reflection.inputs.flatMap fun i => [i.name, i.semantic] := by
    split
    · next h => rw [h]; rfl
    · rfl
  have htextures : (if s.reflection.textures = [] then [] else s.reflection.textures.map (·.name)) =
      s.reflection.textures.map (·.name) := by
    split
    · next h => rw [h]; rfl
    · rfl
  rw [foreign_fieldLines hi (layoutKeys_openFields s indent), openFields, quotedTexts]
  simp only [List.flatMap_append, hoptional (foreign_inputs hi _), hoptional (foreign_uniforms hi _),
    hoptional (foreign_textures hi _), hinputs, htextures, List.flatMap_cons, List.flatMap_nil, foreign_textField]

theorem foreign_sources (s : VariantSources) : foreign (sourcesChars s indent) = foreignSources s := by
  have hinner := foreign_inner hi
  have hkeys : LayoutKeys [bytesField "HLSL" s.hlsl (indent ++ "\t")] := by
    simp only [LayoutKeys, bytesField, List.forall_mem_singleton]
    rfl
  have hbytes : foreign (onLines (indent ++ "\t").toList Field.chars [bytesField "HLSL" s.hlsl (indent ++ "\t")]) =
      [] := by
    rw [foreign_fieldLines hinner hkeys, List.flatMap_singleton, foreign_bytesField hinner]
  have hline : foreign ['\n'] = [] := rfl
  have hclose : foreign ['}'] = [] := rfl
  rw [sourcesChars, foreign_cons_layout rfl, foreign_cons_layout rfl, toList_sourceFields]
  simp only [foreign_append, foreign_openFields hinner, foreign_comment hinner, hbytes, hline, hi, hclose,
    List.append_nil, foreignSources]

end

/-! ## Records -/

/-- What is foreign to the layout in a record: parts of its name, and of its exported variants. -/
def foreignRecord (r : ShaderRecord) : List Char := foreign r.name.toList ++ r.exported.flatMap foreignSources

theorem foreign_variableName (r : ShaderRecord) : foreign r.variableName.toList = foreign r.name.toList := by
  have hmap (cs : List Char) : foreign (cs.map fun c => if c = '.' then '_' else c) = foreign cs := by
    induction cs with
    | nil => rfl
    | cons c cs ih =>
      rw [List.map_cons]
      by_cases hc : c = '.'
      · rw [if_pos hc, hc, foreign_cons_layout rfl, foreign_cons_layout rfl, ih]
      · rw [if_neg hc, foreign_cons c (cs.map _), foreign_cons c cs, ih]
  simp only [ShaderRecord.variableName, String.toList_append, String.toList_ofList, foreign_append, hmap]
  rfl

theorem foreign_recordField {r : ShaderRecord} (hv : r.variants ≠ []) :
    foreign (recordField r).text = r.exported.flatMap foreignSources := by
  cases hm : r.isMultiVariant with
  | true =>
    have hopen : foreign "[...]backend.ShaderSources\x7b\n".toList = [] := rfl
    have hindent : foreign ['\t', '\t'] = [] := rfl
    have hclose : foreign ['\t', '}'] = [] := rfl
    have hsources (s : VariantSources) : foreign (sourcesChars s "\t\t") = foreignSources s :=
      foreign_sources rfl s
    rw [recordField, hm, if_pos rfl, foreign_append, foreign_append, foreign_onLines hindent, hopen, hclose]
    simp only [hsources, List.nil_append, List.append_nil]
  | false =>
    have hopen : foreign "backend.ShaderSources".toList = [] := rfl
    rw [recordField, hm, if_neg (by decide), foreign_append, hopen, foreign_sources rfl, exported_eq_singleton hv hm,
      List.flatMap_singleton]
    rfl

theorem foreign_record {r : ShaderRecord} (hv : r.variants ≠ []) :
    foreign (textOfLines (recordLines r "\t")).toList = foreignRecord r := by
  have hequals : foreign " = ".toList = [] := rfl
  have hline : foreign ['\n'] = [] := rfl
  rw [toList_recordLines hv, foreign_cons_layout rfl, foreign_append, foreign_append, foreign_append, hequals, hline,
    foreign_variableName, foreign_recordField hv, List.nil_append, List.append_nil, foreignRecord]

/-! ## Modules -/

/-- The characters of a module that are foreign to its layout, in their order. -/
theorem foreign_module {records : List ShaderRecord} (h : ∀ r ∈ records, r.variants ≠ []) (package : String) :
    foreign (textOfLines (moduleLines package records)).toList =
      foreign package.toList ++ records.flatMap foreignRecord := by
  have hrecords : (records.flatMap fun r => foreign (textOfLines (recordLines r "\t")).toList) =
      records.flatMap foreignRecord := List.flatMap_congr fun r hr => foreign_record (h r hr)
  have hheader : foreign (header.toList ++ "\n\npackage ".toList) = [] := rfl
  have himport : foreign ("\n\nimport ".toList ++ (stringLiteral backendPackage).toList ++ "\n\nvar (\n".toList) =
      [] := rfl
  have hclose : foreign [')', '\n'] = [] := rfl
  have htext : (textOfLines (moduleLines package records)).toList =
      (header.toList ++ "\n\npackage ".toList) ++ (package.toList ++
        (("\n\nimport ".toList ++ (stringLiteral backendPackage).toList ++ "\n\nvar (\n".toList) ++
          ((records.flatMap fun r => (textOfLines (recordLines r "\t")).toList) ++ [')', '\n']))) := by
    simp [toList_textOfLines, moduleLines, List.flatMap_assoc, toString_string]
  rw [htext, foreign_append, hheader, foreign_append, foreign_append, himport, foreign_append, foreign_flatMap,
    hrecords, hclose]
  simp only [List.nil_append, List.append_nil]

theorem variants_of_checkRecord {r : ShaderRecord} (h : checkRecord r = .ok ()) : r.variants ≠ [] := by
  intro hv
  rw [checkRecord, hv] at h
  cases h

section
variable {c : Char} (hc : isLayout c = false)
include hc

theorem mem_foreignShown {s : String} : c ∈ foreignShown s ↔ c ∈ s.toList ∧ 32 ≤ c.toNat := by
  rw [foreignShown, List.mem_filter, mem_foreign hc, decide_eq_true_eq]

theorem mem_foreignSources {s : VariantSources} :
    c ∈ foreignSources s ↔ c ∈ s.hlslText.toList ∨ 32 ≤ c.toNat ∧ ∃ t ∈ quotedTexts s, c ∈ t.toList := by
  have hquoted : c ∈ (quotedTexts s).flatMap foreignShown ↔ 32 ≤ c.toNat ∧ ∃ t ∈ quotedTexts s, c ∈ t.toList := by
    simp only [List.mem_flatMap, mem_foreignShown hc]
    constructor
    · rintro ⟨t, ht, hin, hlow⟩
      exact ⟨hlow, t, ht, hin⟩
    · rintro ⟨hlow, t, ht, hin⟩
      exact ⟨t, ht, hin, hlow⟩
  rw [foreignSources, List.mem_append, hquoted, mem_foreign hc, or_comm]

/-- Where a character of a module that is not of its layout comes from. -/
theorem mem_module {records : List ShaderRecord} (h : ∀ r ∈ records, r.variants ≠ []) (package : String) :
    c ∈ (textOfLines (moduleLines package records)).toList ↔
      c ∈ package.toList ∨ ∃ r ∈ records, c ∈ r.name.toList ∨ ∃ s ∈ r.exported,
        c ∈ s.hlslText.toList ∨ 32 ≤ c.toNat ∧ ∃ t ∈ quotedTexts s, c ∈ t.toList := by
  rw [← mem_foreign hc, foreign_module h, List.mem_append, mem_foreign hc, List.mem_flatMap]
  simp only [foreignRecord, List.mem_append, mem_foreign hc, List.mem_flatMap, mem_foreignSources hc]

end

/-- Of the two characters that Go refuses in a source text, a NUL gets into a module by the package, a name or an HLSL
text only; a byte order mark gets there by a quoted text as well. -/
theorem emission_lets_through (package : String) {records : List ShaderRecord}
    (h : ∀ r ∈ records, checkRecord r = .ok ()) :
    ∃ text, emitModule package records = .ok text ∧
      ('\x00' ∈ text.toList ↔ '\x00' ∈ package.toList ∨ ∃ r ∈ records,
        '\x00' ∈ r.name.toList ∨ ∃ s ∈ r.exported, '\x00' ∈ s.hlslText.toList) ∧
      ('\ufeff' ∈ text.toList ↔ '\ufeff' ∈ package.toList ∨ ∃ r ∈ records,
        '\ufeff' ∈ r.name.toList ∨ ∃ s ∈ r.exported,
          '\ufeff' ∈ s.hlslText.toList ∨ ∃ t ∈ quotedTexts s, '\ufeff' ∈ t.toList) := by
  have hv : ∀ r ∈ records, r.variants ≠ [] := fun r hr => variants_of_checkRecord (h r hr)
  have hnul : ¬32 ≤ '\x00'.toNat := by decide
  have hmark : 32 ≤ '\ufeff'.toNat := by decide
  refine ⟨_, emitModule_eq_ok.mpr ⟨h, rfl⟩, ?_, ?_⟩
  · simpa only [hnul, false_and, or_false] using mem_module (c := '\x00') rfl hv package
  · simpa only [hmark, true_and] using mem_module (c := '\ufeff') rfl hv package

/-! Of a NUL and a byte order mark in a quoted text only the mark is in the module. -/

def markedRecord : ShaderRecord := ⟨"a.vert", [{ glsl100es := "\x00\ufeff" }]⟩

theorem emission_lets_mark_through :
    ∃ text, emitModule "gpu" [markedRecord] = .ok text ∧ '\x00' ∉ text.toList ∧ '\ufeff' ∈ text.toList := by
  have hcheck : ∀ r ∈ [markedRecord], checkRecord r = .ok () := List.forall_mem_singleton.mpr rfl
  obtain ⟨text, hemit, hnul, hmark⟩ := emission_lets_through "gpu" hcheck
  refine ⟨text, hemit, ?_, ?_⟩
  · rw [hnul]
    decide
  · rw [hmark]
    decide

end ShaderBundle.Go
