import Mathlib.Data.List.Forall2
import ShaderBundle.Proofs.Files.Walk
import ShaderBundle.Proofs.Go.Fields

/-!
# Literals of bytes

A literal of bytes has its elements on lines of sixteen. Reading it needs nothing of that: line ends and indentation
are white space, and two digits stand for a byte whatever it is.

* `length_byteLines`, `length_of_mem_dropLast`, `length_of_mem_getLast?`: how bytes are cut into lines.
* `numberedLines_bytesLiteral`: the lines of the text on which elements stand.
* `bytesLiteral_reads`: what a literal is read as, and how it is laid out.
-/

namespace ShaderBundle

namespace Text

/-- A text of lines that have their ends is split into what each of them is split into. -/
theorem splitAt_flatMap (c : Char) {α : Type} (f : α → List Char) (xs : List α) (tail : List Char) :
    splitAt c (xs.flatMap (fun x => f x ++ [c]) ++ tail) = xs.flatMap (fun x => splitAt c (f x)) ++ splitAt c tail := by
  induction xs with
  | nil => rfl
  | cons x xs ih =>
    rw [List.flatMap_cons, List.flatMap_cons, List.append_assoc, List.append_assoc, List.singleton_append,
      splitAt_append, ih, List.append_assoc]

/-- What follows without a separator goes on with the last part. -/
theorem splitAt_append_last (c : Char) (as : List Char) : ∃ parts last, splitAt c as = parts ++ [last] ∧
    ∀ bs, c ∉ bs → splitAt c (as ++ bs) = parts ++ [last ++ bs] := by
  induction as with
  | nil => exact ⟨[], [], rfl, fun bs => splitAt_of_not_mem⟩
  | cons a as ih =>
    obtain ⟨parts, last, hsplit, happend⟩ := ih
    by_cases ha : a = c
    · refine ⟨[] :: parts, last, ?_, fun bs hbs => ?_⟩
      · rw [splitAt, if_pos ha, hsplit, List.cons_append]
      · rw [List.cons_append, splitAt, if_pos ha, happend bs hbs, List.cons_append]
    · cases parts with
      | nil =>
        refine ⟨[], a :: last, ?_, fun bs hbs => ?_⟩
        · rw [splitAt, if_neg ha, hsplit]
          rfl
        · rw [List.cons_append, splitAt, if_neg ha, happend bs hbs]
          rfl
      | cons part parts =>
        refine ⟨(a :: part) :: parts, last, ?_, fun bs hbs => ?_⟩
        · rw [splitAt, if_neg ha, hsplit]
          rfl
        · rw [List.cons_append, splitAt, if_neg ha, happend bs hbs]
          rfl

theorem mem_of_mem_splitAt {c d : Char} {cs part : List Char} (h : part ∈ splitAt c cs) (hd : d ∈ part) : d ∈ cs := by
  induction cs generalizing part with
  | nil =>
    rw [splitAt, List.mem_singleton] at h
    exact h ▸ hd
  | cons a as ih =>
    rw [splitAt] at h
    split at h
    · rcases List.mem_cons.mp h with rfl | h
      · cases hd
      · exact List.mem_cons_of_mem a (ih h hd)
    · obtain ⟨first, parts, hsplit⟩ := List.exists_cons_of_ne_nil (splitAt_ne_nil c as)
      rw [hsplit] at h ih
      rcases List.mem_cons.mp h with rfl | h
      · rcases List.mem_cons.mp hd with rfl | hd
        · exact List.mem_cons_self
        · exact List.mem_cons_of_mem a (ih List.mem_cons_self hd)
      · exact List.mem_cons_of_mem a (ih (List.mem_cons_of_mem first h) hd)

end Text

namespace Go

variable {u : Alphabet} {data : Bytes} {indent : String}

/-! ## Cutting bytes into lines -/

theorem byteLines_eq_nil : byteLines data = [] ↔ data = [] := by
  constructor
  · intro h
    rw [← flatten_byteLines data, h, List.flatten_nil]
  · rintro rfl
    rw [byteLines, if_pos rfl]

/-- As many lines as it takes. -/
theorem length_byteLines (data : Bytes) : (byteLines data).length = (data.length + 15) / 16 := by
  fun_induction byteLines data with
  | case1 => rfl
  | case2 data hne ih =>
    have hpos := List.length_pos_iff.mpr hne
    rw [List.length_cons, ih, List.length_drop, bytesPerLine]
    omega

theorem length_of_mem_dropLast {line : Bytes} (h : line ∈ (byteLines data).dropLast) : line.length = 16 := by
  fun_induction byteLines data with
  | case1 => cases h
  | case2 data hne ih =>
    cases hrest : byteLines (data.drop bytesPerLine) with
    | nil =>
      rw [hrest] at h
      cases h
    | cons next lines =>
      rw [hrest, List.dropLast_cons_of_ne_nil (List.cons_ne_nil next lines), ← hrest] at h
      rcases List.mem_cons.mp h with rfl | h
      · have hmore : data.drop bytesPerLine ≠ [] := fun hnil => by
          rw [byteLines_eq_nil.mpr hnil] at hrest
          cases hrest
        have hlong := List.length_pos_iff.mpr hmore
        rw [List.length_drop, bytesPerLine] at hlong
        rw [List.length_take, bytesPerLine]
        omega
      · exact ih h

theorem length_of_mem_getLast? {line : Bytes} (h : line ∈ (byteLines data).getLast?) :
    1 ≤ line.length ∧ line.length ≤ 16 := by
  have hmem := List.mem_of_getLast? h
  refine ⟨List.length_pos_iff.mpr (mem_byteLines_ne_nil hmem), ?_⟩
  clear h
  fun_induction byteLines data with
  | case1 => cases hmem
  | case2 data hne ih =>
    rcases List.mem_cons.mp hmem with rfl | hmem
    · rw [List.length_take, bytesPerLine]
      omega
    · exact ih hmem

/-! ## The lines of the text -/

/-- A line with a number on it holds a digit. -/
def isNumbered (line : List Char) : Bool := line.any Char.isDigit

/-- The lines of a text with a number on them. -/
def numberedLines (text : String) : List (List Char) := (Text.splitAt '\n' text.toList).filter isNumbered

theorem filter_isNumbered {cs : List Char} (h : ∀ c ∈ cs, c.isDigit = false) :
    (Text.splitAt '\n' cs).filter isNumbered = [] := by
  refine List.filter_eq_nil_iff.mpr fun part hpart => ?_
  rw [Bool.not_eq_true, isNumbered, List.any_eq_false]
  intro c hc
  rw [h c (Text.mem_of_mem_splitAt hpart hc)]
  decide

/-- The elements of a line, a comma behind the last one too. -/
def elementsText (line : Bytes) : List Char := (", ".intercalate (line.map byteElement)).toList ++ [',']

theorem elementsText_cons (b c : UInt8) (line : Bytes) :
    elementsText (b :: c :: line) = (byteElement b).toList ++ (", ".toList ++ elementsText (c :: line)) := by
  simp [elementsText]

theorem newline_not_mem_elementsText (line : Bytes) : '\n' ∉ elementsText line := by
  have hdigit : ∀ d, d < 16 → Text.hexDigit d ≠ '\n' := by decide
  have helement (b : UInt8) : '\n' ∉ (byteElement b).toList := by
    intro h
    rw [byteElement, Text.hexByte, String.toList_append, List.mem_append] at h
    rcases h with h | h
    · contradiction
    · rw [String.toList_ofList] at h
      obtain ⟨d, hd, heq⟩ := Text.mem_hexDigits h
      exact hdigit d hd heq.symm
  induction line with
  | nil => decide
  | cons b line ih =>
    cases line with
    | nil => simp [elementsText, helement b]
    | cons c line =>
      rw [elementsText_cons, List.mem_append, List.mem_append, not_or, not_or]
      exact ⟨helement b, by decide, ih⟩

/-- The first element starts with a zero. -/
theorem isNumbered_elementsText {line : Bytes} (h : line ≠ []) : isNumbered (elementsText line) = true := by
  obtain ⟨b, line, rfl⟩ := List.exists_cons_of_ne_nil h
  have hzero : '0' ∈ elementsText (b :: line) := by
    cases line <;> simp [elementsText, byteElement]
  exact List.any_eq_true.mpr ⟨'0', hzero, rfl⟩

/-- Only the lines with elements hold a digit. In front of the elements stands what the indentation ends in. -/
theorem numberedLines_bytesLiteral (hd : data ≠ []) (hi : IsSpacing indent.toList) :
    ∃ margin, (∀ c ∈ margin, c = ' ' ∨ c = '\t' ∨ c = '\r') ∧
      numberedLines (bytesLiteral data indent) = (byteLines data).map fun line => margin ++ '\t' :: elementsText line := by
  have hspace : ∀ c ∈ indent.toList, c.isDigit = false := by
    intro c hc
    rcases hi c hc with rfl | rfl | rfl | rfl <;> decide
  obtain ⟨parts, margin, hsplit, happend⟩ := Text.splitAt_append_last '\n' indent.toList
  have hmargin : margin ∈ Text.splitAt '\n' indent.toList := hsplit ▸ List.mem_append_right parts List.mem_cons_self
  have hparts := filter_isNumbered hspace
  rw [hsplit, List.filter_append, List.append_eq_nil_iff] at hparts
  have hline : ∀ line ∈ byteLines data, (Text.splitAt '\n' (byteLine indent line).toList).filter isNumbered =
      [margin ++ '\t' :: elementsText line] := by
    intro line hl
    have htext : (byteLine indent line).toList = indent.toList ++ '\t' :: elementsText line := by
      simp [byteLine, elementsText]
    have hnewline : '\n' ∉ '\t' :: elementsText line := by simpa using newline_not_mem_elementsText line
    have hnumbered : isNumbered (margin ++ '\t' :: elementsText line) = true := by
      have helements := isNumbered_elementsText (mem_byteLines_ne_nil hl)
      rw [isNumbered] at helements ⊢
      rw [List.any_append, List.any_cons, helements, Bool.or_true, Bool.or_true]
    rw [htext, happend _ hnewline, List.filter_append, hparts.1, List.nil_append, List.filter_cons_of_pos hnumbered,
      List.filter_nil]
  have hopening : (Text.splitAt '\n' "[]byte\x7b".toList).filter isNumbered = [] := rfl
  have hclosing : (Text.splitAt '\n' (indent.toList ++ ['}'])).filter isNumbered = [] := by
    refine filter_isNumbered fun c hc => ?_
    rcases List.mem_append.mp hc with hc | hc
    · exact hspace c hc
    · rw [List.mem_singleton.mp hc]
      decide
  have htext : "[]byte\x7b\n".toList = "[]byte\x7b".toList ++ ['\n'] := by decide
  refine ⟨margin, fun c hc => ?_, ?_⟩
  · have hne : c ≠ '\n' := fun h => Text.not_mem_of_mem_splitAt hmargin (h ▸ hc)
    rcases hi c (Text.mem_of_mem_splitAt hmargin hc) with h | h | h | h
    · exact .inl h
    · exact .inr (.inl h)
    · exact .inr (.inr h)
    · exact absurd h hne
  · rw [numberedLines, toList_bytesLiteral hd, htext, List.append_assoc, List.singleton_append, Text.splitAt_append,
      Text.splitAt_flatMap, List.filter_append, List.filter_append, hopening, hclosing, List.append_nil,
      List.nil_append, List.filter_flatMap, List.flatMap_def, List.map_congr_left hline, ← List.flatMap_def,
      ← List.map_eq_flatMap]

/-! ## Reading -/

theorem scans_margin {margin : List Char} (h : ∀ c ∈ margin, c = ' ' ∨ c = '\t' ∨ c = '\r') : Scans u margin [] := by
  induction margin with
  | nil => exact Scans.nil
  | cons c margin ih =>
    have hc : Scans u [c] [] := by
      rcases h c List.mem_cons_self with rfl | rfl | rfl <;> exact fun _ => rfl
    exact hc.append (ih fun d hd => h d (List.mem_cons_of_mem c hd))

/-- The bytes that a text denotes as a literal of bytes. -/
def readByteLiteral (u : Alphabet) (text : String) : Option Bytes := do
  let tokens ← scan u text
  match readValue tokens.length tokens with
  | some (v, [.mark ';']) => v.slice? ["byte"] Value.byte?
  | _ => none

theorem scan_bytesLiteral (hd : data ≠ []) (hi : IsSpacing indent.toList) :
    scan u (bytesLiteral data indent) = some (bytesTokens data ++ [.mark ';']) := by
  obtain ⟨front, hfront⟩ : ∃ front, bytesTokens data = front ++ [.mark '}'] := by
    rw [bytesTokens, if_neg hd]
    exact ⟨_ :: _ :: _ :: _ :: _, rfl⟩
  have hscans := scans_bytesLiteral (u := u) hd hi
  rw [hfront] at hscans
  rw [scan, hscans.upTo.endLine front rfl [], hfront]
  simp

theorem readByteLiteral_bytesLiteral (hd : data ≠ []) (hi : IsSpacing indent.toList) :
    readByteLiteral u (bytesLiteral data indent) = some data := by
  have hread := reads_bytes data (bytesTokens data ++ [Token.mark ';']).length [.mark ';'] (by simp) (.semicolon [])
  rw [readByteLiteral, scan_bytesLiteral hd hi, Option.bind_eq_bind, Option.bind_some, hread, bytesValue, if_neg hd]
  exact slice?_bytes data

theorem bytesLiteral_eq_nil : bytesLiteral data indent = "nil" ↔ data = [] := by
  constructor
  · intro h
    by_contra hd
    have hchars := congrArg String.toList h
    rw [toList_bytesLiteral hd] at hchars
    cases hchars
  · rintro rfl
    rw [bytesLiteral, if_pos rfl]

/-! ## Both -/

/-- No bytes are written as `nil`, and nothing else is. Other bytes are written as a literal that is read as these bytes in
their order, whatever white space it is indented by. Of its lines with elements there are as many as it takes for
sixteen bytes on each; all but the last hold sixteen, the last one to sixteen. Each line scans to its bytes with a
comma behind every one, the last too. -/
theorem bytesLiteral_reads (u : Alphabet) (data : Bytes) {indent : String} (hi : IsSpacing indent.toList) :
    (bytesLiteral data indent = "nil" ↔ data = []) ∧
    (data ≠ [] → readByteLiteral u (bytesLiteral data indent) = some data ∧
      ∃ rows : List Bytes, rows.flatten = data ∧ rows.length = (data.length + 15) / 16 ∧
        (∀ row ∈ rows.dropLast, row.length = 16) ∧
        (∀ row ∈ rows.getLast?, 1 ≤ row.length ∧ row.length ≤ 16) ∧
        List.Forall₂ (fun row line => Scans u line (row.flatMap fun b => [Token.integer b.toNat, .mark ',']) ∧
          line.getLast? = some ',') rows (numberedLines (bytesLiteral data indent))) := by
  refine ⟨bytesLiteral_eq_nil, fun hd => ⟨readByteLiteral_bytesLiteral hd hi, byteLines data, flatten_byteLines data,
    length_byteLines data, fun row => length_of_mem_dropLast, fun row => length_of_mem_getLast?, ?_⟩⟩
  obtain ⟨margin, hmargin, hlines⟩ := numberedLines_bytesLiteral hd hi
  rw [hlines, List.forall₂_map_right_iff, List.forall₂_same]
  intro line hline
  have hne := mem_byteLines_ne_nil hline
  have htab : Scans u ['\t'] [] := fun _ => rfl
  refine ⟨?_, ?_⟩
  · have := (scans_margin hmargin).append (htab.append (scans_byteElements (u := u) hne))
    simpa [elementsText, byteTokens, onLinesTokens] using this
  · rw [← List.singleton_append, elementsText, ← List.append_assoc, ← List.append_assoc]
    exact List.getLast?_concat

/-! One byte more than a line holds, and white space of every kind. -/

def wrappedBytes : Bytes := [0, 15, 30, 45, 60, 75, 90, 105, 120, 135, 150, 165, 180, 195, 210, 225, 240]

theorem bytesLiteral_wrapped :
    readByteLiteral ⟨fun _ => false, fun _ => false⟩ (bytesLiteral wrappedBytes "\t\n \r") = some wrappedBytes ∧
      (numberedLines (bytesLiteral wrappedBytes "\t\n \r")).length = 2 ∧
      bytesLiteral wrappedBytes "\t\n \r" ≠ "nil" ∧ bytesLiteral [] "\t" = "nil" := by
  have hd : wrappedBytes ≠ [] := by decide
  have hindent : IsSpacing "\t\n \r".toList := by decide
  have htab : IsSpacing "\t".toList := by decide
  obtain ⟨hnil, hbytes⟩ := bytesLiteral_reads ⟨fun _ => false, fun _ => false⟩ wrappedBytes hindent
  obtain ⟨hread, rows, -, hcount, -, -, hlines⟩ := hbytes hd
  refine ⟨hread, ?_, mt hnil.mp hd, ?_⟩
  · rw [← hlines.length_eq, hcount]
    rfl
  · exact (bytesLiteral_reads ⟨fun _ => false, fun _ => false⟩ [] htab).1.mpr rfl

end Go

end ShaderBundle
