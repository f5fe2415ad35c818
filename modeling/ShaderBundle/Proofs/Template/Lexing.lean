import ShaderBundle.Proofs.Template.Spelling
import ShaderBundle.Template.Lexer

/-!
# The tokens of a draft

Text gives itself, and a tag its marks with a name between. Lines and offsets play no part: a text is read in the same
way wherever it stands. A tag that has something else between its marks is followed only as far as it takes to see that.

* `LexStep`, `LexRun`: what is read, from a mode at a text to a mode at the rest of it.
* `Draft.Lexed`, `Draft.lexed`: the tokens of a draft.
-/

namespace ShaderBundle.Template

/-! ## Marks -/

theorem openingAt?_of_closed {cs : List Char} (h : opensTag cs = false) : openingAt? cs = none := by
  rw [Bool.eq_false_iff] at h
  unfold openingAt?
  split
  · exact absurd (opensTag_cons.mpr ⟨rfl, .inl rfl⟩) h
  · exact absurd (opensTag_cons.mpr ⟨rfl, .inr (.inr rfl)⟩) h
  · exact absurd (opensTag_cons.mpr ⟨rfl, .inr (.inl rfl)⟩) h
  · rfl

theorem closeVariable?_eq_none {c : Char} (hminus : c ≠ '-') (hbrace : c ≠ '}') (cs : List Char) :
    closeVariable? (c :: cs) = none := by
  unfold closeVariable?
  split
  · next heq => exact absurd (List.cons.inj heq).1 hminus
  · next heq => exact absurd (List.cons.inj heq).1 hbrace
  · rfl

theorem sign_of_head {cs : List Char} (h : ∀ c, cs.head? = some c → c ≠ '-' ∧ c ≠ '+') : sign cs = (false, cs) := by
  unfold sign
  split
  · exact absurd rfl (h '-' rfl).1
  · exact absurd rfl (h '+' rfl).2
  · rfl

section
variable {α : Type} {mark : List Char → Option α} {as bs : List Char}
  (h : ∀ c cs, c :: cs <:+ as → mark (c :: (cs ++ bs)) = none)
include h

theorem cutAtMark_append {found : α} (hbs : mark bs = some found) : cutAtMark mark (as ++ bs) = some (as, found) := by
  induction as with
  | nil =>
    cases bs with
    | nil => rw [List.append_nil, cutAtMark, hbs]; rfl
    | cons b bs => rw [List.nil_append, cutAtMark, hbs]
  | cons c as ih =>
    rw [List.cons_append, cutAtMark, h c as (List.suffix_refl _),
      ih fun d ds hs => h d ds (hs.trans (List.suffix_cons c as))]
    rfl

theorem cutAtMark_eq_none (hbs : cutAtMark mark bs = none) : cutAtMark mark (as ++ bs) = none := by
  induction as with
  | nil => exact hbs
  | cons c as ih =>
    rw [List.cons_append, cutAtMark, h c as (List.suffix_refl _),
      ih fun d ds hs => h d ds (hs.trans (List.suffix_cons c as))]
    rfl

end

/-! ## Names -/

theorem isNameChar_of_isBlank {c : Char} (h : Text.isBlank c = true) : isNameChar c = false := by
  rw [isNameChar, Text.isWordChar_of_isBlank h, Text.isIdentifierContinue_of_isBlank h, Bool.or_false]

theorem numberPiece?_eq_none {c : Char} (h : c.isDigit = false) (cs : List Char) :
    numberPiece? false (c :: cs) = none := by
  have hgroups : decimalGroups (c :: cs) = ([], c :: cs) := by
    rw [decimalGroups, digitGroups, groupedDigits, h]
    rfl
  have hreal : realAt? (c :: cs) = none := by
    rw [realAt?, hgroups]
  have hinteger : integerAt? (c :: cs) = none := by
    unfold integerAt?
    split
    · next heq =>
      rw [(List.cons.inj heq).1] at h
      exact absurd h (by decide)
    · rw [hgroups]
  rw [numberPiece?]
  simp only [Bool.false_eq_true, if_false, hreal, hinteger, Option.map_none]

theorem namePiece_append {name rest : List Char} (hname : Text.isIdentifier name = true)
    (hrest : ∀ c, rest.head? = some c → isNameChar c = false) :
    namePiece (name ++ rest) = .lexeme (.name (String.ofList name)) rest := by
  have hchars : ∀ c ∈ name, isNameChar c = true := fun c hc => by
    rw [isNameChar, Text.isIdentifierContinue_of_mem hname hc, Bool.or_true]
  unfold namePiece
  dsimp only
  rw [Text.takeWhile_append_eq hchars hrest, Text.dropWhile_append_eq hchars hrest, if_pos hname]

/-! ## Reading on -/

/-- Tokens in front of others. -/
def Tokens.after (before : List Token) (ts : Tokens) : Tokens := { ts with tokens := before ++ ts.tokens }

theorem Tokens.after_append (as bs : List Token) (ts : Tokens) : ts.after (as ++ bs) = (ts.after bs).after as :=
  congrArg (Tokens.mk · ts.fault) (List.append_assoc as bs ts.tokens)

/-- One step from a mode at a text to a mode at the rest of it, over these lexemes. -/
structure LexStep (mode : Mode) (cs : List Char) (read : List Lexeme) (mode' : Mode) (rest : List Char) : Prop where
  shorter : rest.length < cs.length
  lexFrom_eq : ∀ fuel line offset, ∃ ts, ts.map (·.lexeme) = read ∧ ∃ line' offset',
    lexFrom newlines (fuel + 1) mode line offset cs = (lexFrom newlines fuel mode' line' offset' rest).after ts

/-- The inside of a print tag, where these brackets are open. -/
abbrev inside (brackets : List Operator) : Mode := .tag .variable brackets false

/-- The inside of a print tag, where no bracket is open. -/
abbrev printing : Mode := inside []

/-- The lexemes of text between tags. -/
def dataOf (cs : List Char) : List Lexeme := if cs.isEmpty then [] else [.data cs]

theorem withData_eq (line : Nat) (cs : List Char) : ∃ data : List Token,
    (∀ ts, withData line cs ts = ts.after data) ∧ data.map (·.lexeme) = dataOf cs := by
  unfold withData dataOf
  cases cs with
  | nil => exact ⟨[], fun _ => rfl, rfl⟩
  | cons c cs => exact ⟨[⟨line, .data (c :: cs)⟩], fun _ => rfl, rfl⟩

namespace LexStep

variable {cs rest : List Char}

/-- Text up to a print tag that does not trim it. -/
theorem opening (h : Unmarked cs) (happart : Apart cs) (hsign : sign rest = (false, rest)) :
    LexStep .text (cs ++ '{' :: '{' :: rest) (dataOf cs ++ [.variableBegin]) printing rest := by
  have hmark : openingAt? ('{' :: '{' :: rest) = some (.variable, false, rest) := by
    rw [openingAt?, hsign]
  have hcut : cutAtMark openingAt? (cs ++ '{' :: '{' :: rest) = some (cs, .variable, false, rest) :=
    cutAtMark_append (fun d ds hs => openingAt?_of_closed (h.opensTag_append hs (.inl happart))) hmark
  have hne : cs ++ '{' :: '{' :: rest ≠ [] := by simp
  have hshorter : rest.length < (cs ++ '{' :: '{' :: rest).length := by
    simp only [List.length_append, List.length_cons]
    omega
  generalize cs ++ '{' :: '{' :: rest = whole at hcut hne hshorter
  obtain ⟨c, tail, rfl⟩ := List.exists_cons_of_ne_nil hne
  refine ⟨hshorter, fun fuel line offset => ?_⟩
  obtain ⟨data, hdata, hlexemes⟩ := withData_eq line cs
  refine ⟨data ++ [⟨line + newlines cs, .variableBegin⟩], by rw [List.map_append, hlexemes]; rfl, ?_⟩
  rw [lexFrom, hcut]
  simp only [Tokens.after_append]
  exact ⟨_, _, hdata _⟩

variable {brackets : List Operator}

/-- A character that closes no tag does not do so behind brackets either. -/
theorem close?_eq_none {c : Char} (hminus : c ≠ '-') (hbrace : c ≠ '}') (cs : List Char) :
    (if brackets.isEmpty then TagKind.variable.close? (c :: cs) else none) = none := by
  rw [TagKind.close?, closeVariable?_eq_none hminus hbrace, ite_self]

/-- Blanks within a tag. -/
theorem blanks {c : Char} {bs : List Char} (hbs : ∀ d ∈ c :: bs, Text.isBlank d = true)
    (hhead : ∀ d, rest.head? = some d → Text.isBlank d = false) :
    LexStep (inside brackets) (c :: bs ++ rest) [] (inside brackets) rest := by
  have hc : Text.isBlank c = true := hbs c List.mem_cons_self
  have hdrop : Text.dropBlank (bs ++ rest) = rest :=
    Text.dropBlank_append (fun d hd => hbs d (List.mem_cons_of_mem c hd)) hhead
  have hclose : (if brackets.isEmpty then TagKind.variable.close? (c :: (bs ++ rest)) else none) = none :=
    close?_eq_none (by rintro rfl; cases hc) (by rintro rfl; cases hc) _
  have hpiece (offset : Nat) : pieceAt .variable brackets false offset c (bs ++ rest) = .blank rest := by
    rw [pieceAt, hclose]
    simp only [hc, hdrop, if_true]
  refine ⟨by rw [List.length_append, List.length_cons]; omega, fun fuel line offset => ⟨[], rfl, ?_⟩⟩
  rw [List.cons_append, lexFrom, hpiece]
  exact ⟨_, _, rfl⟩

theorem name {name : List Char} (hname : Text.isIdentifier name = true)
    (hhead : ∀ c, rest.head? = some c → isNameChar c = false) :
    LexStep (inside brackets) (name ++ rest) [.name (String.ofList name)] (inside brackets) rest := by
  obtain ⟨c, cs, rfl, hstart⟩ := Text.exists_cons_of_isIdentifier hname
  have hc : Text.isIdentifierContinue c = true := Text.isIdentifierContinue_of_mem hname List.mem_cons_self
  have hclose : (if brackets.isEmpty then TagKind.variable.close? (c :: (cs ++ rest)) else none) = none :=
    close?_eq_none (by rintro rfl; exact absurd hc (by decide)) (by rintro rfl; exact absurd hc (by decide)) _
  have hpiece (offset : Nat) :
      pieceAt .variable brackets false offset c (cs ++ rest) = .lexeme (.name (String.ofList (c :: cs))) rest := by
    have hchar : isNameChar c = true := by rw [isNameChar, hc, Bool.or_true]
    rw [pieceAt, hclose]
    simp only [Text.not_isBlank_of_identifier hc, numberPiece?_eq_none (Text.isDigit_of_isIdentifierStart hstart), hchar,
      Bool.false_eq_true, if_false, if_true]
    exact namePiece_append hname hhead
  refine ⟨by rw [List.length_append, List.length_cons]; omega, fun fuel line offset => ⟨[⟨line, _⟩], rfl, ?_⟩⟩
  rw [List.cons_append, lexFrom, hpiece]
  exact ⟨_, _, rfl⟩

/-- An operator that is read as one character. -/
theorem mark {c : Char} {o : Operator} {brackets' : List Operator}
    (hclose : (if brackets.isEmpty then TagKind.variable.close? (c :: rest) else none) = none)
    (hblank : Text.isBlank c = false) (hdigit : c.isDigit = false) (hname : isNameChar c = false)
    (htext : textPiece? (c :: rest) = none) (hat : Operator.at? (c :: rest) = some (o, rest))
    (hbalance : balance brackets (.operator o) = .ok brackets') :
    LexStep (inside brackets) (c :: rest) [.operator o]
      (.tag .variable brackets' ((Lexeme.operator o).isOperator .dot)) rest := by
  have hpiece (offset : Nat) : pieceAt .variable brackets false offset c rest = .lexeme (.operator o) rest := by
    rw [pieceAt, hclose]
    simp only [hblank, numberPiece?_eq_none hdigit, hname, htext, hat, Bool.false_eq_true, if_false]
  refine ⟨Nat.lt_succ_self _, fun fuel line offset => ⟨[⟨line, .operator o⟩], rfl, ?_⟩⟩
  rw [lexFrom, hpiece]
  dsimp only
  rw [hbalance]
  exact ⟨_, _, rfl⟩

theorem dot : LexStep (inside brackets) ('.' :: rest) [.operator .dot] (.tag .variable brackets true) rest :=
  mark (close?_eq_none (by decide) (by decide) _) (by decide) (by decide) (by decide +kernel) rfl rfl rfl

theorem openBrace : LexStep printing ('{' :: rest) [.operator .openBrace] (inside [.closeBrace]) rest :=
  mark (close?_eq_none (by decide) (by decide) _) (by decide) (by decide) (by decide +kernel) rfl rfl rfl

theorem closeBrace : LexStep (inside [.closeBrace]) ('}' :: rest) [.operator .closeBrace] printing rest :=
  mark rfl (by decide) (by decide) (by decide +kernel) rfl rfl rfl

/-- The end of a tag. -/
theorem closing : LexStep printing ('}' :: '}' :: rest) [.variableEnd] .text rest := by
  refine ⟨by rw [List.length_cons, List.length_cons]; omega, fun fuel line offset => ⟨[⟨line, .variableEnd⟩], rfl, ?_⟩⟩
  rw [lexFrom]
  exact ⟨_, _, rfl⟩

end LexStep

/-- Several steps. -/
def LexRun (mode : Mode) (cs : List Char) (read : List Lexeme) (mode' : Mode) (rest : List Char) : Prop :=
  ∀ fuel line offset, cs.length < fuel → ∃ ts fuel' line' offset', ts.map (·.lexeme) = read ∧ rest.length < fuel' ∧
    lexFrom newlines fuel mode line offset cs = (lexFrom newlines fuel' mode' line' offset' rest).after ts

namespace LexRun

variable {mode mode1 mode2 : Mode} {cs rest1 rest2 : List Char} {read1 read2 : List Lexeme}

theorem refl : LexRun mode cs [] mode cs := fun fuel line offset hfuel => ⟨[], fuel, line, offset, rfl, hfuel, rfl⟩

theorem step (h : LexStep mode cs read1 mode1 rest1) (hrun : LexRun mode1 rest1 read2 mode2 rest2) :
    LexRun mode cs (read1 ++ read2) mode2 rest2 := by
  intro fuel line offset hfuel
  obtain ⟨fuel, rfl⟩ : ∃ n, fuel = n + 1 := ⟨fuel - 1, by omega⟩
  obtain ⟨ts1, hread1, line1, offset1, hstep⟩ := h.lexFrom_eq fuel line offset
  have hshorter := h.shorter
  obtain ⟨ts2, fuel2, line2, offset2, hread2, hfuel2, hrest⟩ := hrun fuel line1 offset1 (by omega)
  refine ⟨ts1 ++ ts2, fuel2, line2, offset2, by rw [List.map_append, hread1, hread2], hfuel2, ?_⟩
  rw [hstep, hrest, Tokens.after_append]

/-- Blanks are not read, be there some or none. -/
theorem blanks {brackets : List Operator} {bs : List Char} (hbs : ∀ c ∈ bs, Text.isBlank c = true)
    (hhead : ∀ c, rest1.head? = some c → Text.isBlank c = false)
    (hrun : LexRun (inside brackets) rest1 read2 mode2 rest2) :
    LexRun (inside brackets) (bs ++ rest1) read2 mode2 rest2 := by
  cases bs with
  | nil => exact hrun
  | cons c bs => exact step (.blanks hbs hhead) hrun

end LexRun

/-- Text up to the end of the template. -/
theorem lexFrom_text {cs : List Char} (h : Unmarked cs) (fuel line offset : Nat) : ∃ data,
    data.map (·.lexeme) = dataOf cs ∧ lexFrom newlines (fuel + 1) .text line offset cs = ⟨data, none⟩ := by
  cases cs with
  | nil => exact ⟨[], rfl, by rw [lexFrom]⟩
  | cons c cs =>
    have hcut : cutAtMark openingAt? (c :: cs ++ []) = none :=
      cutAtMark_eq_none (fun d ds hs => openingAt?_of_closed (h.opensTag_append hs (.inr (.inl rfl)))) rfl
    rw [List.append_nil] at hcut
    refine ⟨[⟨line, .data (c :: cs)⟩], rfl, ?_⟩
    rw [lexFrom, hcut]
    rfl

/-! ## Tags -/

/-- What stands in a tag that is refused, as far as it is read. -/
inductive Refused : List Lexeme → Prop
  | dot : Refused [.operator .dot]
  | negation : Refused [.name "not", .variableEnd]
  | braced (word : String) : Refused [.operator .openBrace, .name word, .operator .closeBrace]
  | bracedDot : Refused [.operator .openBrace, .operator .dot]

/-- A word that may name a value: it is not dotted, and it is not the negation. -/
def Word.Plain (w : Word) : Prop := w.dotted = false ∧ w.name ≠ "not".toList

theorem Argument.plain_word (a : Argument) : a.word.Plain := by
  cases a <;> exact ⟨rfl, by decide⟩

/-- The tag stands apart, and has a plain word in it. -/
def Legible (cs : List Char) (t : Tag Word) : Prop := Apart cs ∧ t.inside.Plain

namespace LexRun

variable (t : Tag Word) {brackets : List Operator} {rest last : List Char} {read : List Lexeme} {mode : Mode}

theorem opening {cs : List Char} (hcs : Unmarked cs) (hapart : Apart cs) (hsign : sign rest = (false, rest))
    (hrun : LexRun printing rest read mode last) :
    LexRun .text (cs ++ '{' :: '{' :: rest) (dataOf cs ++ .variableBegin :: read) mode last := by
  have hopened := step (.opening hcs hapart hsign) hrun
  rwa [List.append_assoc] at hopened

/-- A plain word is read as a name, be there brackets around it or not. -/
theorem name (hrun : LexRun (inside brackets) ('}' :: '}' :: rest) read mode last) :
    LexRun (inside brackets) (t.before ++ (t.inside.name ++ (t.after ++ '}' :: '}' :: rest)))
      (.name (String.ofList t.inside.name) :: read) mode last := by
  have hname := t.inside.identifier
  have hend : LexRun (inside brackets) (t.after ++ '}' :: '}' :: rest) read mode last :=
    .blanks t.blank_after (fun c hc => by cases hc; decide) hrun
  have hafter : ∀ c, (t.after ++ '}' :: '}' :: rest).head? = some c → isNameChar c = false :=
    Text.head_append (fun c hc => isNameChar_of_isBlank (t.blank_after c hc)) fun c hc => by
      cases hc
      decide +kernel
  have hbefore : ∀ c, (t.inside.name ++ (t.after ++ '}' :: '}' :: rest)).head? = some c → Text.isBlank c = false :=
    fun c hc => Text.not_isBlank_of_identifier (Text.isIdentifierContinue_of_head hname c hc)
  exact .blanks t.blank_before hbefore (.step (.name hname hafter) hend)

/-- A dot in front of a word is read by itself. -/
theorem dot : LexRun (inside brackets) (t.before ++ '.' :: rest) [.operator .dot] (.tag .variable brackets true) rest :=
  .blanks t.blank_before (fun c hc => by cases hc; decide) (.step .dot .refl)

end LexRun

/-- No tag with a word in it starts with a sign. -/
theorem Tag.sign_word (t : Tag Word) (rest : List Char) :
    sign (t.before ++ (t.inside.spelling ++ rest)) = (false, t.before ++ (t.inside.spelling ++ rest)) := by
  have hblank : ∀ c ∈ t.before, c ≠ '-' ∧ c ≠ '+' := fun c hc => by
    constructor <;> rintro rfl <;> exact absurd (t.blank_before _ hc) (by decide)
  have hname : ∀ c, (t.inside.name ++ rest).head? = some c → c ≠ '-' ∧ c ≠ '+' := fun c hc => by
    have := Text.isIdentifierContinue_of_head t.inside.identifier c hc
    constructor <;> rintro rfl <;> exact absurd this (by decide)
  have hword : ∀ c, (t.inside.spelling ++ rest).head? = some c → c ≠ '-' ∧ c ≠ '+' := by
    unfold Word.spelling
    split
    · rintro c ⟨⟩
      decide
    · exact hname
  exact sign_of_head (Text.head_append hblank hword)

theorem Tag.sign_plain (t : Tag Word) (rest : List Char) (h : t.inside.dotted = false) :
    sign (t.before ++ (t.inside.name ++ rest)) = (false, t.before ++ (t.inside.name ++ rest)) := by
  have hsign := t.sign_word rest
  rwa [Word.spelling, if_neg (by simp [h])] at hsign

theorem Tag.sign_dotted (t : Tag Word) (rest : List Char) (h : t.inside.dotted = true) :
    sign (t.before ++ '.' :: (t.inside.name ++ rest)) = (false, t.before ++ '.' :: (t.inside.name ++ rest)) := by
  have hsign := t.sign_word rest
  rwa [Word.spelling, if_pos h] at hsign

section
variable {cs : List Char} (hcs : Unmarked cs) {t : Tag Word} (rest : List Char)
include hcs

theorem LexRun.legible (h : Legible cs t) :
    LexRun .text (cs ++ (t.written Word.spelling ++ rest))
      (dataOf cs ++ (.variableBegin :: .name (String.ofList t.inside.name) :: [.variableEnd])) .text rest := by
  obtain ⟨hapart, hdotted, -⟩ := h
  rw [t.written_plain rest hdotted]
  exact .opening hcs hapart (t.sign_plain _ hdotted) (.name t (.step .closing .refl))

theorem LexRun.illegible (h : ¬Legible cs t) : ∃ before ls mode last, Refused ls ∧
    LexRun .text (cs ++ (t.written Word.spelling ++ rest)) (dataOf before ++ (.variableBegin :: ls)) mode last := by
  by_cases hapart : Apart cs
  · cases hdotted : t.inside.dotted with
    | true =>
      rw [t.written_dotted rest hdotted]
      exact ⟨cs, _, _, _, .dot, .opening hcs hapart (t.sign_dotted _ hdotted) (.dot t)⟩
    | false =>
      have hword : String.ofList t.inside.name = "not" := by
        by_contra hne
        exact h ⟨hapart, hdotted, fun hname => hne (by rw [hname]; rfl)⟩
      have hrun : LexRun printing (t.before ++ (t.inside.name ++ (t.after ++ '}' :: '}' :: rest)))
          [.name "not", .variableEnd] .text rest := hword ▸ .name t (.step .closing .refl)
      rw [t.written_plain rest hdotted]
      exact ⟨cs, _, _, _, .negation, .opening hcs hapart (t.sign_plain _ hdotted) hrun⟩
  -- the last two of three braces open no tag: the first two do, and the third is part of what is printed
  · obtain ⟨before, rfl, hbefore, hapart⟩ := hcs.exists_of_not_apart hapart
    rw [List.append_assoc]
    cases hdotted : t.inside.dotted with
    | true =>
      rw [t.written_dotted rest hdotted]
      exact ⟨before, _, _, _, .bracedDot, .opening hbefore hapart rfl (.step .openBrace (.dot t))⟩
    | false =>
      rw [t.written_plain rest hdotted]
      exact ⟨before, _, _, _, .braced _, .opening hbefore hapart rfl
        (.step .openBrace (.name t (.step .closeBrace .refl)))⟩

end

namespace Draft

/-- The tokens of a draft: all of them, or those up to a tag that is refused with whatever is behind them. -/
inductive Lexed : Draft (Tag Word) → Tokens → Prop
  | text {cs : List Char} {hcs : Unmarked cs} {data : List Token} (hdata : data.map (·.lexeme) = dataOf cs) :
      Lexed (.text cs hcs) ⟨data, none⟩
  | slot {cs : List Char} {hcs : Unmarked cs} {t : Tag Word} {rest : Draft (Tag Word)} {data : List Token} {ts : Tokens}
      {first k m : Nat} (hlegible : Legible cs t) (hdata : data.map (·.lexeme) = dataOf cs) (hrest : Lexed rest ts) :
      Lexed (.slot cs hcs t rest)
        ((((ts.cons ⟨m, .variableEnd⟩).cons ⟨k, .name (String.ofList t.inside.name)⟩).cons ⟨first, .variableBegin⟩).after data)
  | refused {cs before : List Char} {hcs : Unmarked cs} {t : Tag Word} {rest : Draft (Tag Word)} {data refused : List Token}
      {ts : Tokens} {first : Nat} {ls : List Lexeme} (hlegible : ¬Legible cs t) (hdata : data.map (·.lexeme) = dataOf before)
      (hrefused : Refused ls) (hls : refused.map (·.lexeme) = ls) :
      Lexed (.slot cs hcs t rest) (((ts.after refused).cons ⟨first, .variableBegin⟩).after data)

theorem lexed (d : Draft (Tag Word)) : ∀ fuel line offset, (d.written (·.written Word.spelling)).length < fuel →
    Lexed d (lexFrom newlines fuel .text line offset (d.written (·.written Word.spelling))) := by
  induction d with
  | text cs hcs =>
    intro fuel line offset hfuel
    obtain ⟨fuel, rfl⟩ : ∃ n, fuel = n + 1 := ⟨fuel - 1, by omega⟩
    obtain ⟨data, hdata, htext⟩ := lexFrom_text hcs fuel line offset
    rw [written, htext]
    exact .text hdata
  | slot cs hcs t rest ih =>
    intro fuel line offset hfuel
    by_cases hlegible : Legible cs t
    · have hrun := LexRun.legible hcs (rest.written (·.written Word.spelling)) hlegible
      obtain ⟨ts, fuel', line', offset', hts, hfuel', hlex⟩ := hrun fuel line offset hfuel
      obtain ⟨data, ts0, rfl, hdata, hts0⟩ := List.map_eq_append_iff.mp hts
      obtain ⟨⟨first, _⟩, ts1, rfl, rfl, hts1⟩ := List.map_eq_cons_iff.mp hts0
      obtain ⟨⟨k, _⟩, ts2, rfl, rfl, hts2⟩ := List.map_eq_cons_iff.mp hts1
      obtain ⟨⟨m, _⟩, ts3, rfl, rfl, hts3⟩ := List.map_eq_cons_iff.mp hts2
      cases List.map_eq_nil_iff.mp hts3
      rw [written, hlex, Tokens.after_append]
      exact .slot hlegible hdata (ih fuel' line' offset' hfuel')
    · obtain ⟨before, ls, mode, last, hrefused, hrun⟩ :=
        LexRun.illegible hcs (rest.written (·.written Word.spelling)) hlegible
      obtain ⟨ts, fuel', line', offset', hts, -, hlex⟩ := hrun fuel line offset hfuel
      obtain ⟨data, ts0, rfl, hdata, hts0⟩ := List.map_eq_append_iff.mp hts
      obtain ⟨⟨first, _⟩, refused, rfl, rfl, hls⟩ := List.map_eq_cons_iff.mp hts0
      rw [written, hlex, Tokens.after_append]
      exact .refused hlegible hdata hrefused hls

end Draft

end ShaderBundle.Template
