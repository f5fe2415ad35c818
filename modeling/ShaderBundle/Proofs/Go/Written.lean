import ShaderBundle.Proofs.Go.Lexeme
import ShaderBundle.Proofs.Go.Outline

/-!
# Written values

How the parts of a module are put together out of keyed fields, and what they scan to and are read as. A
field is either one of a few between braces on one line, or stands on lines of its own and ends in a
comma. Both forms are read as the same list of elements.

* `scans_oneLine`, `reads_oneLine`: fields between braces on one line.
* `scans_lines`, `reads_lines`: fields on lines of their own.
* `Good.slice`, `good_bytesField`: slices of such literals, and of bytes.
-/

namespace ShaderBundle.Go

variable {u : Alphabet}

/-! ## Fields -/

/-- A keyed field: the text of its value, the tokens of that text and the value they are read as. -/
structure Field where
  key : String
  text : List Char
  tokens : List Token
  value : Value

namespace Field

def chars (f : Field) : List Char := f.key.toList ++ ':' :: ' ' :: f.text

def keyedTokens (f : Field) : List Token := .name f.key :: .mark ':' :: f.tokens

def entry (f : Field) : ValueEntry := (some f.key, f.value)

/-- The text scans to the tokens, and they are read as the value. -/
structure Good (u : Alphabet) (f : Field) : Prop where
  key : u.isIdentifier f.key = true
  scans : ScansUpTo u f.text f.tokens
  reads : Reads f.tokens f.value

theorem Good.scansChars {f : Field} (h : f.Good u) : ScansUpTo u f.chars f.keyedTokens := by
  have hcolon : Scans u [':', ' '] [.mark ':'] := fun _ => rfl
  have hkey := (scansUpTo_identifier h.key).append (.inr (.inr (.inr (.inr rfl)))) hcolon
  have := hkey.appendUpTo h.scans
  simpa [chars, keyedTokens] using this

theorem Good.readsEntry {f : Field} (h : f.Good u) : ReadsEntry f.keyedTokens f.entry :=
  ReadsEntry.keyed f.key h.reads

end Field

def textField (key s : String) : Field := ⟨key, (stringLiteral s).toList, [.text s], .text s⟩

def integerField (key : String) (n : Int) : Field :=
  ⟨key, (toString n).toList, integerTokens n, .integer n⟩

def typeField (t : DataType) : Field :=
  ⟨"Type", ("backend." ++ t.constant).toList, [.name "backend", .mark '.', .name t.constant],
    .symbol ["backend", t.constant]⟩

theorem good_textField {key : String} (hk : u.isIdentifier key = true) (s : String) :
    (textField key s).Good u := ⟨hk, (scans_stringLiteral s).upTo, reads_text s⟩

theorem reads_int (n : Int) : Reads (integerTokens n) (.integer n) := by
  cases n with
  | ofNat m =>
    rw [integerTokens, if_neg (by simp)]
    exact reads_natural m
  | negSucc m =>
    rw [integerTokens, if_pos (Int.negSucc_lt_zero m)]
    exact reads_negative (m + 1)

theorem good_integerField {key : String} (hk : u.isIdentifier key = true) (n : Int) :
    (integerField key n).Good u := ⟨hk, scansUpTo_int n, reads_int n⟩

theorem good_typeField (t : DataType) : (typeField t).Good u := by
  refine ⟨isIdentifier_of (s := "Type") rfl rfl rfl rfl, ?_, reads_qualified "backend" t.constant⟩
  intro before c rest hc
  rcases hc with rfl | rfl | rfl | rfl | rfl <;> cases t <;> rfl

/-! ## Fields on one line -/

/-- Fields with commas between them, and the brace that closes them. -/
def oneLine : List Field → List Char
  | [] => ['}']
  | [f] => f.chars ++ ['}']
  | f :: g :: fs => f.chars ++ ',' :: ' ' :: oneLine (g :: fs)

def oneLineTokens : List Field → List Token
  | [] => [.mark '}']
  | [f] => f.keyedTokens ++ [.mark '}']
  | f :: g :: fs => f.keyedTokens ++ .mark ',' :: oneLineTokens (g :: fs)

theorem scans_oneLine : ∀ {fs : List Field}, (∀ f ∈ fs, f.Good u) → Scans u (oneLine fs) (oneLineTokens fs)
  | [], _ => fun _ => rfl
  | [f], h => by
    have hclose : Scans u ['}'] [.mark '}'] := fun _ => rfl
    exact (h f (by simp)).scansChars.append (.inr (.inl rfl)) hclose
  | f :: g :: fs, h => by
    have hcomma : Scans u [',', ' '] [.mark ','] := fun _ => rfl
    have hrest := hcomma.append (scans_oneLine fun d hd => h d (List.mem_cons_of_mem f hd))
    exact (h f (by simp)).scansChars.append (.inl rfl) hrest

theorem reads_oneLine : ∀ {fs : List Field}, (∀ f ∈ fs, f.Good u) →
    ReadsEntries (oneLineTokens fs) (fs.map Field.entry)
  | [], _ => readsEntries_nil
  | [f], h => readsEntries_last (h f (by simp)).readsEntry
  | f :: g :: fs, h =>
    readsEntries_cons (h f (by simp)).readsEntry
      (reads_oneLine fun d hd => h d (List.mem_cons_of_mem f hd))

/-- A literal on one line, without a type of its own. -/
def elementText (fs : List Field) : String := String.ofList ('{' :: oneLine fs)

def elementTokens (fs : List Field) : List Token := .mark '{' :: oneLineTokens fs

def elementValue (fs : List Field) : Value := .composite none (fs.map Field.entry)

theorem scans_element {fs : List Field} (h : ∀ f ∈ fs, f.Good u) :
    Scans u (elementText fs).toList (elementTokens fs) := by
  have hopen : Scans u ['{'] [.mark '{'] := fun _ => rfl
  rw [elementText, String.toList_ofList]
  exact hopen.append (scans_oneLine h)

theorem readsEntry_element {fs : List Field} (h : ∀ f ∈ fs, f.Good u) :
    ReadsEntry (elementTokens fs) (none, elementValue fs) :=
  .plain (reads_untyped (reads_oneLine h)) (by simp) (by simp)

/-! ## Lines -/

section
variable {α : Type} {xs : List α} {indent : List Char} {chars : α → List Char} {tokens : α → List Token}
  {entry : α → ValueEntry}

/-- Each element on a line of its own, with a comma behind it. -/
def onLines (indent : List Char) (chars : α → List Char) (xs : List α) : List Char :=
  xs.flatMap fun x => indent ++ chars x ++ [',', '\n']

def onLinesTokens (tokens : α → List Token) (xs : List α) : List Token :=
  xs.flatMap fun x => tokens x ++ [.mark ',']

theorem scans_lines (xs : List α) (hi : IsIndent indent) (h : ∀ x ∈ xs, ScansUpTo u (chars x) (tokens x)) :
    Scans u (onLines indent chars xs) (onLinesTokens tokens xs) := by
  refine Scans.flatMap fun x hx => ?_
  have hend : Scans u [',', '\n'] [.mark ','] := fun _ => rfl
  rw [List.append_assoc]
  exact hi.scans.append ((h x hx).append (.inl rfl) hend)

theorem reads_lines {ts : List Token} {entries : List ValueEntry}
    (h : ∀ x ∈ xs, ReadsEntry (tokens x) (entry x)) (h' : ReadsEntries ts entries) :
    ReadsEntries (onLinesTokens tokens xs ++ ts) (xs.map entry ++ entries) := by
  induction xs with
  | nil => exact h'
  | cons x xs ih =>
    have := readsEntries_cons (h x (by simp)) (ih fun y hy => h y (List.mem_cons_of_mem x hy))
    simpa [onLinesTokens] using this

theorem reads_block (h : ∀ x ∈ xs, ReadsEntry (tokens x) (entry x)) :
    ReadsEntries (onLinesTokens tokens xs ++ [.mark '}']) (xs.map entry) := by
  simpa using reads_lines h readsEntries_nil

end

/-! ## Slices -/

def sliceOpening (typeName : String) : List Token :=
  [.mark '[', .mark ']', .name "backend", .mark '.', .name typeName]

/-- A slice of literals that each stand on a line. -/
def sliceOf (key typeName : String) (elements : List (List Field)) (indent : String) : Field where
  key := key
  text := (sliceLiteral typeName (elements.map elementText) indent).toList
  tokens := sliceOpening typeName ++ .mark '{' :: (onLinesTokens elementTokens elements ++ [.mark '}'])
  value := .composite (some (.slice ["backend", typeName])) (elements.map fun fs => (none, elementValue fs))

@[simp] theorem sliceOf_key (key typeName : String) (elements : List (List Field)) (indent : String) :
    (sliceOf key typeName elements indent).key = key := rfl

theorem toList_sliceLiteral (typeName : String) (elements : List (List Field)) (indent : String) :
    (sliceLiteral typeName (elements.map elementText) indent).toList =
      ("[]backend.".toList ++ typeName.toList ++ "\x7b\n".toList) ++
        (onLines (indent.toList ++ ['\t']) (fun fs => (elementText fs).toList) elements ++
          (indent.toList ++ ['}'])) := by
  simp [sliceLiteral, onLines, List.flatMap_map, Function.comp_def]

theorem good_sliceOf {key typeName : String} {elements : List (List Field)} {indent : String}
    (hk : u.isIdentifier key = true) (hi : IsIndent indent.toList)
    (hopen : Scans u ("[]backend.".toList ++ typeName.toList ++ "\x7b\n".toList)
      (sliceOpening typeName ++ [.mark '{']))
    (h : ∀ fs ∈ elements, ∀ f ∈ fs, f.Good u) : (sliceOf key typeName elements indent).Good u where
  key := hk
  scans := by
    have hclose : Scans u (indent.toList ++ ['}']) [.mark '}'] := hi.scans.append fun _ => rfl
    have helements := scans_lines (u := u) elements hi.tab fun fs hfs => (scans_element (h fs hfs)).upTo
    have := hopen.append (helements.append hclose)
    rw [sliceOf, toList_sliceLiteral]
    simpa using this.upTo
  reads := by
    have := reads_typed (.mark '[') [.mark ']', .name "backend", .mark '.', .name typeName]
      (reads_block fun fs hfs => readsEntry_element (h fs hfs)) (fun _ => rfl) (Or.inl rfl)
    exact this

/-! ## Bytes -/

def bytesTokens (data : Bytes) : List Token :=
  if data = [] then [.name "nil"]
  else
    .mark '[' :: .mark ']' :: .name "byte" :: .mark '{' ::
      (onLinesTokens (fun b : UInt8 => [.integer b.toNat]) data ++ [.mark '}'])

def bytesValue (data : Bytes) : Value :=
  if data = [] then .symbol ["nil"]
  else .composite (some (.slice ["byte"])) (data.map fun b => (none, .integer b.toNat))

def bytesField (key : String) (data : Bytes) (indent : String) : Field :=
  ⟨key, (bytesLiteral data indent).toList, bytesTokens data, bytesValue data⟩

/-- Bytes with a comma behind each. -/
def byteTokens (line : Bytes) : List Token := onLinesTokens (fun b : UInt8 => [.integer b.toNat]) line

/-- The bytes of one line, a comma behind each. -/
theorem scans_byteElements : ∀ {line : Bytes}, line ≠ [] →
    Scans u ((", ".intercalate (line.map byteElement)).toList ++ [',']) (byteTokens line)
  | [b], _ => by
    have hend : Scans u [','] [.mark ','] := fun _ => rfl
    simpa [byteTokens, onLinesTokens] using (scansUpTo_byteElement b).append (.inl rfl) hend
  | b :: c :: line, _ => by
    have hcomma : Scans u [',', ' '] [.mark ','] := fun _ => rfl
    have hrest := hcomma.append (scans_byteElements (List.cons_ne_nil c line))
    have := (scansUpTo_byteElement b).append (.inl rfl) hrest
    simpa [byteTokens, onLinesTokens] using this

theorem goesOn_byteTokens {line : Bytes} (h : line ≠ []) : GoesOn (byteTokens line) := by
  obtain ⟨before, b, rfl⟩ := List.eq_nil_or_concat line |>.resolve_left h
  exact ⟨byteTokens before ++ [.integer b.toNat], .mark ',', by simp [byteTokens, onLinesTokens], rfl⟩

theorem mem_byteLines_ne_nil {data line : Bytes} (h : line ∈ byteLines data) : line ≠ [] := by
  fun_induction byteLines data with
  | case1 => cases h
  | case2 data hne ih =>
    rcases List.mem_cons.mp h with rfl | h
    · cases data with
      | nil => exact absurd rfl hne
      | cons b data => simp [bytesPerLine]
    · exact ih h

/-- Lines with line ends between them and one behind the last. -/
theorem toList_intercalate_newline : ∀ {lines : List String}, lines ≠ [] →
    ("\n".intercalate lines).toList ++ ['\n'] = lines.flatMap fun l => l.toList ++ ['\n']
  | [l], _ => by simp
  | l :: m :: lines, _ => by
    have := toList_intercalate_newline (List.cons_ne_nil m lines)
    simp only [String.intercalate_cons_cons, String.toList_append, List.append_assoc, this,
      List.flatMap_cons]
    simp

theorem toList_bytesLiteral {data : Bytes} (hd : data ≠ []) (indent : String) :
    (bytesLiteral data indent).toList =
      "[]byte\x7b\n".toList ++
        ((byteLines data).flatMap (fun line => (byteLine indent line).toList ++ ['\n']) ++
          (indent.toList ++ ['}'])) := by
  have hlines : (byteLines data).map (byteLine indent) ≠ [] := by
    rw [byteLines, if_neg hd]; simp
  have := toList_intercalate_newline hlines
  rw [List.flatMap_map] at this
  rw [bytesLiteral, if_neg hd, ← this]
  simp

theorem scans_bytesLiteral {data : Bytes} (hd : data ≠ []) {indent : String} (hi : IsSpacing indent.toList) :
    Scans u (bytesLiteral data indent).toList (bytesTokens data) := by
  have hopen : Scans u "[]byte\x7b\n".toList [.mark '[', .mark ']', .name "byte", .mark '{'] := fun _ => rfl
  have hgoes : GoesOn [.mark '[', .mark ']', .name "byte", .mark '{'] :=
    ⟨[.mark '[', .mark ']', .name "byte"], .mark '{', rfl, rfl⟩
  have hclose : Scans u ['}'] [.mark '}'] := fun _ => rfl
  have htab : ScansOn u ['\t'] [] := IsSpacing.scansOn (by decide)
  have hend : ScansOn u ['\n'] [] := IsSpacing.scansOn (by decide)
  have hline : ∀ line ∈ byteLines data, ScansOn u ((byteLine indent line).toList ++ ['\n']) (byteTokens line) := by
    intro line hl
    have hne := mem_byteLines_ne_nil hl
    have := hi.scansOn.append (htab.append (((scans_byteElements hne).on (goesOn_byteTokens hne)).append hend))
    simpa [byteLine] using this
  have htokens : (byteLines data).flatMap byteTokens = byteTokens data := by
    conv => rhs; rw [← flatten_byteLines data]
    simp only [byteTokens, onLinesTokens, List.flatten_eq_flatMap, List.flatMap_assoc, id]
    rfl
  have := (hopen.appendOn hgoes ((ScansOn.flatMap hline).append hi.scansOn)).append hclose
  rw [htokens] at this
  rw [toList_bytesLiteral hd, bytesTokens, if_neg hd]
  simpa [byteTokens] using this

theorem reads_bytes (data : Bytes) : Reads (bytesTokens data) (bytesValue data) := by
  by_cases hd : data = []
  · simpa [bytesTokens, bytesValue, hd] using reads_symbol "nil"
  · have hread : ∀ b ∈ data, ReadsEntry [.integer b.toNat] (none, .integer b.toNat) := fun b _ =>
      .plain (reads_natural b.toNat) (by simp) (by simp)
    have := reads_typed (.mark '[') [.mark ']', .name "byte"] (reads_block hread)
      (fun _ => rfl) (Or.inl rfl)
    simpa [bytesTokens, bytesValue, hd] using this

theorem good_bytesField {key : String} {indent : String} (hk : u.isIdentifier key = true)
    (hi : IsIndent indent.toList) (data : Bytes) : (bytesField key data indent).Good u where
  key := hk
  scans := by
    by_cases hd : data = []
    · intro before c rest hc
      simp only [bytesField, bytesLiteral, bytesTokens, hd, if_true]
      rcases hc with rfl | rfl | rfl | rfl | rfl <;> rfl
    · exact (scans_bytesLiteral hd hi.spacing).upTo
  reads := reads_bytes data

end ShaderBundle.Go
