import ShaderBundle.Proofs.Go.Written

/-!
# Fields of the generated module

The fields of a variant's sources, and of what stands in them. Each is written as `Written` has it, and is read
back as what it was made from. The tokens hold nothing of the HLSL text.

* `scans_sources`: the text of a variant's sources scans to `sourcesTokens`.
* `reads_sources`, `sourcesOf?_allFields`: these tokens are read as the sources.
-/

namespace ShaderBundle.Go

variable {u : Alphabet}

/-! ## Elements -/

def inputFields (i : VertexInput) : List Field :=
  [textField "Name" i.name, integerField "Location" i.location, textField "Semantic" i.semantic,
   integerField "SemanticIndex" i.semanticIndex, typeField i.type, integerField "Size" i.size]

def blockFields (b : UniformBlock) : List Field :=
  [textField "Name" b.name, integerField "Binding" b.binding]

def memberFields (m : UniformMember) : List Field :=
  [textField "Name" m.name, typeField m.type, integerField "Size" m.size, integerField "Offset" m.offset]

def textureFields (t : TextureBinding) : List Field :=
  [textField "Name" t.name, integerField "Binding" t.binding]

theorem toString_string (s : String) : toString s = s := rfl

theorem inputElement_eq (i : VertexInput) : inputElement i = elementText (inputFields i) := by
  apply String.toList_inj.mp
  simp [inputElement, elementText, inputFields, oneLine, Field.chars, textField, integerField, typeField,
    toString_string]

theorem blockElement_eq (b : UniformBlock) : blockElement b = elementText (blockFields b) := by
  apply String.toList_inj.mp
  simp [blockElement, elementText, blockFields, oneLine, Field.chars, textField, integerField, toString_string]

theorem memberElement_eq (m : UniformMember) : memberElement m = elementText (memberFields m) := by
  apply String.toList_inj.mp
  simp [memberElement, elementText, memberFields, oneLine, Field.chars, textField, integerField, typeField,
    toString_string]

theorem textureElement_eq (t : TextureBinding) : textureElement t = elementText (textureFields t) := by
  apply String.toList_inj.mp
  simp [textureElement, elementText, textureFields, oneLine, Field.chars, textField, integerField,
    toString_string]

theorem good_inputFields (i : VertexInput) : ∀ f ∈ inputFields i, f.Good u := by
  simp only [inputFields, List.forall_mem_cons]
  exact ⟨good_textField (isIdentifier_of rfl rfl rfl rfl) _,
    good_integerField (isIdentifier_of rfl rfl rfl rfl) _,
    good_textField (isIdentifier_of rfl rfl rfl rfl) _,
    good_integerField (isIdentifier_of rfl rfl rfl rfl) _,
    good_typeField _, good_integerField (isIdentifier_of rfl rfl rfl rfl) _, by simp⟩

theorem good_blockFields (b : UniformBlock) : ∀ f ∈ blockFields b, f.Good u := by
  simp only [blockFields, List.forall_mem_cons]
  exact ⟨good_textField (isIdentifier_of rfl rfl rfl rfl) _,
    good_integerField (isIdentifier_of rfl rfl rfl rfl) _, by simp⟩

theorem good_memberFields (m : UniformMember) : ∀ f ∈ memberFields m, f.Good u := by
  simp only [memberFields, List.forall_mem_cons]
  exact ⟨good_textField (isIdentifier_of rfl rfl rfl rfl) _, good_typeField _,
    good_integerField (isIdentifier_of rfl rfl rfl rfl) _,
    good_integerField (isIdentifier_of rfl rfl rfl rfl) _, by simp⟩

theorem good_textureFields (t : TextureBinding) : ∀ f ∈ textureFields t, f.Good u := by
  simp only [textureFields, List.forall_mem_cons]
  exact ⟨good_textField (isIdentifier_of rfl rfl rfl rfl) _,
    good_integerField (isIdentifier_of rfl rfl rfl rfl) _, by simp⟩

theorem dataType?_constant (t : DataType) : (Value.symbol ["backend", t.constant]).dataType? = some t := by
  cases t <;> rfl

theorem inputOf?_element (i : VertexInput) : inputOf? (elementValue (inputFields i)) = some i := by
  simp [inputOf?, elementValue, inputFields, Field.entry, textField, integerField, typeField, keyed?, fieldOr,
    Value.text?, Value.integer?, dataType?_constant, List.lookup_cons]

theorem blockOf?_element (b : UniformBlock) : blockOf? (elementValue (blockFields b)) = some b := by
  simp [blockOf?, elementValue, blockFields, Field.entry, textField, integerField, keyed?, fieldOr,
    Value.text?, Value.integer?, List.lookup_cons]

theorem memberOf?_element (m : UniformMember) : memberOf? (elementValue (memberFields m)) = some m := by
  simp [memberOf?, elementValue, memberFields, Field.entry, textField, integerField, typeField, keyed?, fieldOr,
    Value.text?, Value.integer?, dataType?_constant, List.lookup_cons]

theorem textureOf?_element (t : TextureBinding) : textureOf? (elementValue (textureFields t)) = some t := by
  simp [textureOf?, blockOf?, elementValue, textureFields, Field.entry, textField, integerField, keyed?,
    fieldOr, Value.text?, Value.integer?, List.lookup_cons]

/-! ## Sources -/

def layoutFields (l : UniformLayout) (indent : String) : List Field :=
  [sliceOf "Blocks" "UniformBlock" (l.blocks.map blockFields) indent,
   sliceOf "Locations" "UniformLocation" (l.members.map memberFields) indent,
   integerField "Size" l.size]

/-- A literal with a named type, its fields on lines of their own. -/
def namedField (key typeName : String) (fields : List Field) (indent : String) : Field where
  key := key
  text := "backend.".toList ++ typeName.toList ++ "\x7b\n".toList ++
    (onLines (indent.toList ++ ['\t']) Field.chars fields ++ (indent.toList ++ ['}']))
  tokens := .name "backend" :: [.mark '.', .name typeName] ++
    .mark '{' :: (onLinesTokens Field.keyedTokens fields ++ [.mark '}'])
  value := .composite (some (.named ["backend", typeName])) (fields.map Field.entry)

@[simp] theorem namedField_key (key typeName : String) (fields : List Field) (indent : String) :
    (namedField key typeName fields indent).key = key := rfl

/-- The fields that come before the comment. -/
def openFields (s : VariantSources) (indent : String) : List Field :=
  (if s.reflection.inputs = [] then []
   else [sliceOf "Inputs" "InputLocation" (s.reflection.inputs.map inputFields) indent]) ++
  (if s.reflection.uniforms.blocks = [] then []
   else
    [namedField "Uniforms" "UniformsReflection" (layoutFields s.reflection.uniforms (indent ++ "\t")) indent]) ++
  (if s.reflection.textures = [] then []
   else [sliceOf "Textures" "TextureBinding" (s.reflection.textures.map textureFields) indent]) ++
  [textField "GLSL100ES" s.glsl100es, textField "GLSL300ES" s.glsl300es, textField "GLSL130" s.glsl130,
   textField "GLSL150" s.glsl150]

def allFields (s : VariantSources) (indent : String) : List Field :=
  openFields s indent ++ [bytesField "HLSL" s.hlsl indent]

theorem toList_textOfLines (lines : List String) :
    (textOfLines lines).toList = lines.flatMap fun l => l.toList ++ ['\n'] := by
  simp [textOfLines, List.flatMap_map]

theorem toList_sliceField (key typeName : String) (elements : List (List Field)) (indent : String) :
    (textOfLines (sliceField key typeName (elements.map elementText) indent)).toList =
      onLines indent.toList Field.chars
        (if elements = [] then [] else [sliceOf key typeName elements indent]) := by
  rw [toList_textOfLines]
  by_cases h : elements = []
  · simp [sliceField, onLines, h]
  · simp [sliceField, onLines, h, sliceOf, Field.chars, toString_string]

theorem toList_uniformFields (l : UniformLayout) (indent : String) :
    (textOfLines (uniformFields l indent)).toList =
      onLines indent.toList Field.chars
        (if l.blocks = [] then []
         else [namedField "Uniforms" "UniformsReflection" (layoutFields l (indent ++ "\t")) indent]) := by
  rw [toList_textOfLines]
  by_cases h : l.blocks = []
  · simp [uniformFields, onLines, h]
  · have hblocks : l.blocks.map blockElement = (l.blocks.map blockFields).map elementText := by
      simp [blockElement_eq]
    have hmembers : l.members.map memberElement = (l.members.map memberFields).map elementText := by
      simp [memberElement_eq]
    simp [uniformFields, onLines, h, namedField, layoutFields, blockSlice, memberSlice, hblocks, hmembers,
      sliceOf, integerField, Field.chars, toString_string]

theorem toList_sourceFields (s : VariantSources) (indent : String) :
    (textOfLines (sourceFields s indent)).toList =
      onLines indent.toList Field.chars (openFields s indent) ++
        ((comment indent s.hlslText).toList ++ ['\n'] ++
          onLines indent.toList Field.chars [bytesField "HLSL" s.hlsl indent]) := by
  have hinputs : s.reflection.inputs.map inputElement = (s.reflection.inputs.map inputFields).map elementText := by
    simp [inputElement_eq]
  have htextures : s.reflection.textures.map textureElement =
      (s.reflection.textures.map textureFields).map elementText := by
    simp [textureElement_eq]
  have happend (a b : List String) :
      (textOfLines (a ++ b)).toList = (textOfLines a).toList ++ (textOfLines b).toList := by
    simp [toList_textOfLines]
  rw [sourceFields, hinputs, htextures, happend, happend, happend, toList_sliceField, toList_sliceField,
    toList_uniformFields, toList_textOfLines]
  simp [openFields, onLines, stringField, textField, bytesField, Field.chars, toString_string]

section
variable {s : VariantSources} {indent : String}

theorem IsIndent.inner (hi : IsIndent indent.toList) : IsIndent (indent ++ "\t").toList := by
  rw [String.toList_append]
  exact hi.tab

theorem good_layoutFields (l : UniformLayout) (hi : IsIndent indent.toList) :
    ∀ f ∈ layoutFields l indent, f.Good u := by
  simp only [layoutFields, List.forall_mem_cons]
  refine ⟨good_sliceOf (isIdentifier_of rfl rfl rfl rfl) hi (fun _ => rfl) ?_,
    good_sliceOf (isIdentifier_of rfl rfl rfl rfl) hi (fun _ => rfl) ?_,
    good_integerField (isIdentifier_of rfl rfl rfl rfl) _, by simp⟩
  · exact List.forall_mem_map.mpr fun b _ => good_blockFields b
  · exact List.forall_mem_map.mpr fun m _ => good_memberFields m

theorem good_namedField {key typeName : String} {fields : List Field} (hk : u.isIdentifier key = true)
    (hi : IsIndent indent.toList)
    (hopen : Scans u ("backend.".toList ++ typeName.toList ++ "\x7b\n".toList)
      (.name "backend" :: [.mark '.', .name typeName] ++ [.mark '{']))
    (h : ∀ f ∈ fields, f.Good u) : (namedField key typeName fields indent).Good u where
  key := hk
  scans := by
    have hclose : Scans u (indent.toList ++ ['}']) [.mark '}'] := hi.scans.append fun _ => rfl
    have := hopen.append ((scans_lines (u := u) fields hi.tab fun f hf => (h f hf).scansChars).append hclose)
    rw [namedField]
    simpa using this.upTo
  reads := reads_typed _ _ (reads_block fun f hf => (h f hf).readsEntry) (fun _ => rfl) (Or.inr ⟨_, rfl⟩)

theorem forall_mem_ite_nil {α : Type} {P : Prop} [Decidable P] {Q : α → Prop} {xs : List α}
    (h : ∀ x ∈ xs, Q x) : ∀ x ∈ (if P then [] else xs), Q x := by
  split
  · simp
  · exact h

theorem good_openFields (hi : IsIndent indent.toList) : ∀ f ∈ openFields s indent, f.Good u := by
  unfold openFields
  simp only [List.forall_mem_append, List.forall_mem_cons]
  refine ⟨⟨⟨forall_mem_ite_nil ?_, forall_mem_ite_nil ?_⟩, forall_mem_ite_nil ?_⟩,
    good_textField (isIdentifier_of rfl rfl rfl rfl) _, good_textField (isIdentifier_of rfl rfl rfl rfl) _,
    good_textField (isIdentifier_of rfl rfl rfl rfl) _, good_textField (isIdentifier_of rfl rfl rfl rfl) _,
    by simp⟩
  · refine List.forall_mem_singleton.mpr (good_sliceOf (isIdentifier_of rfl rfl rfl rfl) hi (fun _ => rfl) ?_)
    exact List.forall_mem_map.mpr fun i _ => good_inputFields i
  · exact List.forall_mem_singleton.mpr
      (good_namedField (isIdentifier_of rfl rfl rfl rfl) hi (fun _ => rfl) (good_layoutFields _ hi.inner))
  · refine List.forall_mem_singleton.mpr (good_sliceOf (isIdentifier_of rfl rfl rfl rfl) hi (fun _ => rfl) ?_)
    exact List.forall_mem_map.mpr fun t _ => good_textureFields t

theorem good_allFields (hi : IsIndent indent.toList) : ∀ f ∈ allFields s indent, f.Good u := by
  rw [allFields, List.forall_mem_append]
  exact ⟨good_openFields hi,
    List.forall_mem_singleton.mpr (good_bytesField (isIdentifier_of rfl rfl rfl rfl) hi _)⟩

/-- The comment comes behind a comma, so that its line ends end no statement. -/
theorem endLine_openFields (before : List Token) :
    endLine ((onLinesTokens Field.keyedTokens (openFields s indent)).reverse ++ before) =
      (onLinesTokens Field.keyedTokens (openFields s indent)).reverse ++ before := by
  simp only [openFields, onLinesTokens, List.flatMap_append, List.reverse_append, List.append_assoc,
    List.flatMap_cons, List.flatMap_nil]
  rfl

theorem scans_sourceFields (hi : IsIndent indent.toList) :
    Scans u (textOfLines (sourceFields s indent)).toList
      (onLinesTokens Field.keyedTokens (allFields s indent)) := by
  have hopen := scans_lines (u := u) (openFields s indent) hi fun f hf => (good_openFields (s := s) hi f hf).scansChars
  have hlast := scans_lines (u := u) [bytesField "HLSL" s.hlsl indent] hi fun f hf =>
    (good_allFields (s := s) hi f (List.mem_append_right _ hf)).scansChars
  intro before
  rw [toList_sourceFields, Scanner.run_append, hopen before, Option.bind_some, Scanner.run_append,
    run_comment hi (endLine_openFields before), Option.bind_some, hlast]
  simp [allFields, onLinesTokens]

theorem mapM_map_some {α β γ : Type} {f : α → β} {g : β → Option γ} {v : α → γ} (xs : List α)
    (h : ∀ x ∈ xs, g (f x) = some (v x)) : (xs.map f).mapM g = some (xs.map v) := by
  induction xs with
  | nil => rfl
  | cons x xs ih =>
    rw [List.map_cons, List.mapM_cons, h x (by simp), ih fun y hy => h y (List.mem_cons_of_mem x hy)]
    rfl

theorem slice?_sliceOf {α : Type} {element? : Value → Option α} {fields : α → List Field}
    (h : ∀ x, element? (elementValue (fields x)) = some x) (key typeName indent : String) (xs : List α) :
    (sliceOf key typeName (xs.map fields) indent).value.slice? ["backend", typeName] element? = some xs := by
  have := mapM_map_some (f := fun x => ((none : Option String), elementValue (fields x)))
    (g := fun e => if e.1.isNone then element? e.2 else none) (v := id) xs fun x _ => h x
  rw [sliceOf, Value.slice?, if_pos rfl, List.map_map]
  rwa [List.map_id] at this

/-- A slice of bytes is read as the bytes of its elements. -/
theorem slice?_bytes (data : Bytes) :
    (Value.composite (some (.slice ["byte"])) (data.map fun b => (none, .integer b.toNat))).slice? ["byte"] Value.byte? =
      some data := by
  have hbyte (b : UInt8) : (Value.integer b.toNat).byte? = some b := by
    have := b.toNat_lt
    simp [Value.byte?]
    omega
  have := mapM_map_some (f := fun b : UInt8 => ((none : Option String), Value.integer b.toNat))
    (g := fun e => if e.1.isNone then e.2.byte? else none) (v := id) data fun b _ => (if_pos rfl).trans (hbyte b)
  rw [Value.slice?, if_pos rfl]
  rwa [List.map_id] at this

theorem bytes?_bytesField (key : String) (data : Bytes) (indent : String) :
    (bytesField key data indent).value.bytes? = some data := by
  by_cases hd : data = []
  · simp [bytesField, bytesValue, hd, Value.bytes?]
  · rw [bytesField, bytesValue, if_neg hd]
    exact slice?_bytes data

theorem uniformsOf?_namedField (l : UniformLayout) (key indent inner : String) :
    uniformsOf? (namedField key "UniformsReflection" (layoutFields l inner) indent).value = some l := by
  have hblocks := slice?_sliceOf blockOf?_element "Blocks" "UniformBlock" inner l.blocks
  have hmembers := slice?_sliceOf memberOf?_element "Locations" "UniformLocation" inner l.members
  rw [namedField, uniformsOf?, if_pos rfl]
  simp [layoutFields, keyed?, fieldOr, Field.entry, integerField, hblocks, hmembers, Value.integer?,
    List.lookup_cons]

/-- Fields that come in the order of the keys are all kept. -/
theorem keyed?_entries {keys : List String} {fs : List Field} (hk : keys.Nodup)
    (h : (fs.map Field.key).Sublist keys) :
    keyed? keys (fs.map Field.entry) = some (fs.map fun f => (f.key, f.value)) := by
  have hfields : (fs.map Field.entry).mapM (fun e => e.1.map (·, e.2)) =
      some (fs.map fun f => (f.key, f.value)) := mapM_map_some fs fun f _ => rfl
  have hkeys : (fs.map fun f => (f.key, f.value)).map (·.1) = fs.map Field.key := by
    rw [List.map_map]
    rfl
  unfold keyed?
  rw [hfields, Option.bind_eq_bind, Option.bind_some, hkeys, if_pos ⟨hk.sublist h, fun k hm => h.subset hm⟩]

/-- A field that is left out when it has its zero value is read either way. -/
theorem fieldOr_optional {α : Type} {P : Prop} [Decidable P] {fs : List (String × Value)} {f : Field}
    {key : String} {zero x : α} {read? : Value → Option α}
    (h : fs.lookup key = if P then none else some f.value) (hread : read? f.value = some x)
    (hzero : P → x = zero) : fieldOr fs key zero read? = some x := by
  unfold fieldOr
  rw [h]
  by_cases hp : P
  · rw [if_pos hp, hzero hp]
  · rw [if_neg hp]
    exact hread

theorem fieldOr_present {α : Type} {fs : List (String × Value)} {key : String} {v : Value} {zero x : α}
    {read? : Value → Option α} (h : fs.lookup key = some v) (hread : read? v = some x) :
    fieldOr fs key zero read? = some x := by
  unfold fieldOr
  rw [h]
  exact hread

theorem lookup_optional {P : Prop} [Decidable P] (f : Field) (key : String) :
    ((if P then [] else [f]).map fun f => (f.key, f.value)).lookup key =
      if key == f.key then (if P then none else some f.value) else none := by
  by_cases hp : P
  · simp [hp]
  · rw [if_neg hp, if_neg hp, List.map_singleton, List.lookup_cons]
    cases key == f.key <;> rfl

theorem keys_optional {P : Prop} [Decidable P] (f : Field) :
    ((if P then [] else [f]).map Field.key).Sublist [f.key] := by
  by_cases hp : P
  · simp [hp]
  · simp [hp]

/-- The fields of a variant's sources by their keys. -/
def namedValues (s : VariantSources) (indent : String) : List (String × Value) :=
  (allFields s indent).map fun f => (f.key, f.value)

theorem lookup_namedValues (key : String) :
    (namedValues s indent).lookup key =
      (((((if key == "Inputs" then
              if s.reflection.inputs = [] then none
              else some (sliceOf "Inputs" "InputLocation" (s.reflection.inputs.map inputFields) indent).value
            else none).or
          (if key == "Uniforms" then
            if s.reflection.uniforms.blocks = [] then none
            else some (namedField "Uniforms" "UniformsReflection"
              (layoutFields s.reflection.uniforms (indent ++ "\t")) indent).value
          else none)).or
        (if key == "Textures" then
          if s.reflection.textures = [] then none
          else some (sliceOf "Textures" "TextureBinding" (s.reflection.textures.map textureFields) indent).value
        else none)).or
      ([("GLSL100ES", .text s.glsl100es), ("GLSL300ES", .text s.glsl300es), ("GLSL130", .text s.glsl130),
        ("GLSL150", .text s.glsl150)].lookup key)).or
      ([("HLSL", (bytesField "HLSL" s.hlsl indent).value)].lookup key)) := by
  simp only [namedValues, allFields, openFields, List.map_append, List.lookup_append, lookup_optional,
    sliceOf_key, namedField_key]
  rfl

theorem sourcesOf?_allFields
    (h : s.reflection.uniforms.blocks = [] → s.reflection.uniforms.members = [] ∧ s.reflection.uniforms.size = 0) :
    sourcesOf? ((allFields s indent).map Field.entry) = some (visible s) := by
  have hkeys : ((allFields s indent).map Field.key).Sublist
      ["Inputs", "Uniforms", "Textures", "GLSL100ES", "GLSL300ES", "GLSL130", "GLSL150", "HLSL"] := by
    simp only [allFields, openFields, List.map_append]
    exact ((((keys_optional _).append (keys_optional _)).append (keys_optional _)).append
      (List.Sublist.refl _)).append (List.Sublist.refl _)
  have hempty (hu : s.reflection.uniforms.blocks = []) : s.reflection.uniforms = {} := by
    obtain ⟨hm, hz⟩ := h hu
    cases hl : s.reflection.uniforms with
    | mk blocks members size =>
      rw [hl] at hu hm hz
      simp only at hu hm hz
      rw [hu, hm, hz]
  have hinputs : fieldOr (namedValues s indent) "Inputs" [] (Value.slice? ["backend", "InputLocation"] inputOf?) =
      some s.reflection.inputs := by
    refine fieldOr_optional ?_ (slice?_sliceOf inputOf?_element "Inputs" "InputLocation" indent _) id
    simp [lookup_namedValues, List.lookup_cons]
  have huniforms : fieldOr (namedValues s indent) "Uniforms" {} uniformsOf? = some s.reflection.uniforms := by
    refine fieldOr_optional ?_ (uniformsOf?_namedField _ "Uniforms" indent (indent ++ "\t")) hempty
    simp [lookup_namedValues, List.lookup_cons]
  have htextures : fieldOr (namedValues s indent) "Textures" []
      (Value.slice? ["backend", "TextureBinding"] textureOf?) = some s.reflection.textures := by
    refine fieldOr_optional ?_ (slice?_sliceOf textureOf?_element "Textures" "TextureBinding" indent _) id
    simp [lookup_namedValues, List.lookup_cons]
  have hhlsl : fieldOr (namedValues s indent) "HLSL" [] Value.bytes? = some s.hlsl :=
    fieldOr_present (by simp [lookup_namedValues, List.lookup_cons]) (bytes?_bytesField "HLSL" s.hlsl indent)
  have htext (key text : String) (hk : (namedValues s indent).lookup key = some (.text text)) :
      fieldOr (namedValues s indent) key "" Value.text? = some text := fieldOr_present hk rfl
  have h100es := htext "GLSL100ES" s.glsl100es (by simp [lookup_namedValues, List.lookup_cons])
  have h300es := htext "GLSL300ES" s.glsl300es (by simp [lookup_namedValues, List.lookup_cons])
  have h130 := htext "GLSL130" s.glsl130 (by simp [lookup_namedValues, List.lookup_cons])
  have h150 := htext "GLSL150" s.glsl150 (by simp [lookup_namedValues, List.lookup_cons])
  unfold sourcesOf?
  rw [keyed?_entries (by decide) hkeys, ← namedValues]
  simp only [Option.bind_eq_bind, Option.bind_some, hinputs, huniforms, htextures, hhlsl, h100es, h300es, h130,
    h150]
  rfl

/-- The sources between braces. -/
def sourcesChars (s : VariantSources) (indent : String) : List Char :=
  '{' :: '\n' :: ((textOfLines (sourceFields s (indent ++ "\t"))).toList ++ (indent.toList ++ ['}']))

def sourcesTokens (s : VariantSources) (indent : String) : List Token :=
  .mark '{' :: (onLinesTokens Field.keyedTokens (allFields s (indent ++ "\t")) ++ [.mark '}'])

def sourcesEntries (s : VariantSources) (indent : String) : List ValueEntry :=
  (allFields s (indent ++ "\t")).map Field.entry

theorem toList_sourceLines (opening closing : String) (s : VariantSources) (indent : String) :
    (textOfLines (sourceLines opening closing s indent)).toList =
      indent.toList ++ (opening.toList ++ (sourcesChars s indent ++ (closing.toList ++ ['\n']))) := by
  simp [sourceLines, sourcesChars, toList_textOfLines]

/-- What comes before the opening brace may be a type. -/
theorem scans_sources (cs : List Char) (ts : List Token) (hi : IsIndent indent.toList)
    (hopen : Scans u (cs ++ ['{', '\n']) (ts ++ [.mark '{'])) :
    Scans u (cs ++ sourcesChars s indent) (ts ++ sourcesTokens s indent) := by
  have hclose : Scans u (indent.toList ++ ['}']) [.mark '}'] := hi.scans.append fun _ => rfl
  have := hopen.append ((scans_sourceFields (s := s) hi.inner).append hclose)
  simpa [sourcesChars, sourcesTokens] using this

theorem reads_sources (hi : IsIndent indent.toList) :
    ReadsEntries (onLinesTokens Field.keyedTokens (allFields s (indent ++ "\t")) ++ [.mark '}'])
      (sourcesEntries s indent) :=
  reads_block fun f hf => (good_allFields (u := ⟨fun _ => false, fun _ => false⟩) hi.inner f hf).readsEntry

end

end ShaderBundle.Go
