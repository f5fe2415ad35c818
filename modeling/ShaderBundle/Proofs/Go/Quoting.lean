import Mathlib.Data.List.Forall2
import ShaderBundle.Proofs.Go.Lexeme
import ShaderBundle.Proofs.Text.Utf8

/-!
# Quoted text as Go reads it

An interpreted string of Go stands for bytes. Characters between the quotes stand for their UTF-8; an escape stands
for a character, by a letter or by four or eight hexadecimal digits, or for a byte, by two hexadecimal or three octal
digits. The string ends at the first quote that no backslash escapes, and no line ends in it.

* `Spelling`: how the characters of a text are written: as they are, or as one of few escapes.
* `interiorFrom?_spelled`: what is written so is read as the bytes of the text, up to the quote behind it.
* `stringLiteral_reads`: a string literal is written so, and no other text has it.
-/

namespace ShaderBundle.Go

/-! ## Reading -/

/-- The number that the next `width` digits stand for. -/
def codeAt? (number? : List Char → Option Nat) (width : Nat) (cs : List Char) : Option Nat :=
  if width ≤ cs.length then number? (cs.take width) else none

def octalNumber? (cs : List Char) : Option Nat :=
  if cs.all fun c => '0' ≤ c ∧ c ≤ '7' then some (Nat.ofDigitChars 8 cs 0) else none

/-- A character by its number, which is none of a surrogate. -/
def characterAt? (width : Nat) (cs : List Char) : Option Bytes :=
  (codeAt? hexNumber? width cs).bind fun n =>
    if n.isValidChar then some (String.utf8EncodeChar (Char.ofNat n)) else none

/-- A byte by its number. -/
def byteAt? (number? : List Char → Option Nat) (width : Nat) (cs : List Char) : Option Bytes :=
  (codeAt? number? width cs).bind fun n => if n < 256 then some [UInt8.ofNat n] else none

/-- What an escape stands for, and how many characters follow its backslash. -/
def escape? : List Char → Option (Bytes × Nat)
  | [] => none
  | e :: cs =>
    if e = 'u' then (characterAt? 4 cs).map (·, 5)
    else if e = 'U' then (characterAt? 8 cs).map (·, 9)
    else if e = 'x' then (byteAt? hexNumber? 2 cs).map (·, 3)
    else
      match escaped? e with
      | some c => some (String.utf8EncodeChar c, 1)
      | none => (byteAt? octalNumber? 3 (e :: cs)).map (·, 3)

/-- What the character `c` of a string stands for, and how many of those behind it belong to it. -/
def unit? (c : Char) (cs : List Char) : Option (Bytes × Nat) :=
  if c = '\n' then none else if c = '\\' then escape? cs else some (String.utf8EncodeChar c, 0)

/-- Reads up to the quote that ends the string: the bytes, and what follows the quote. `skip` characters belong to an
escape that is read already. -/
def interiorFrom? (skip : Nat) : List Char → Option (Bytes × List Char)
  | [] => none
  | c :: cs =>
    if skip > 0 then interiorFrom? (skip - 1) cs
    else if c = '"' then some ([], cs)
    else (unit? c cs).bind fun u => (interiorFrom? u.2 cs).map fun p => (u.1 ++ p.1, p.2)

/-- The bytes of the string that the text starts with, and what follows it. -/
def interpreted? : List Char → Option (Bytes × List Char)
  | [] => none
  | c :: cs => if c = '"' then interiorFrom? 0 cs else none

/-! ## Writing -/

/-- The characters that stand for a character between the quotes: it alone, a backslash and a letter for it, or a
backslash and four digits. -/
inductive Spelling (c : Char) : List Char → Prop
  | plain (hquote : c ≠ '"') (hslash : c ≠ '\\') (hcontrol : 32 ≤ c.toNat) : Spelling c [c]
  | letter (e : Char) (he : e ∈ ['"', '\\', 'n', 'r', 't', 'b', 'f']) (hc : escaped? e = some c) : Spelling c ['\\', e]
  | code (digits : List Char) (hlength : digits.length = 4) (hdigits : ∀ d ∈ digits, (Text.hexValue? d).isSome)
    (hc : hexNumber? digits = some c.toNat) : Spelling c ('\\' :: 'u' :: digits)

theorem isSome_hexValue? {width n : Nat} {d : Char} (h : d ∈ Text.hexDigits width n) :
    (Text.hexValue? d).isSome := by
  obtain ⟨n, hn, rfl⟩ := Text.mem_hexDigits h
  rw [hexValue?_hexDigit n hn]
  rfl

theorem spelling_control {c : Char} (hc : c.toNat < 32) : Spelling c ('\\' :: 'u' :: Text.hexDigits 4 c.toNat) := by
  refine .code _ (Text.length_hexDigits 4 c.toNat) (fun d => isSome_hexValue?) ?_
  rw [hexNumber?_hexDigits, Nat.mod_eq_of_lt (by omega)]

theorem spelling_encodeChar (c : Char) : Spelling c (Text.Quoted.encodeChar c) := by
  unfold Text.Quoted.encodeChar
  split; · subst c; exact .letter '"' (by decide) rfl
  split; · subst c; exact .letter '\\' (by decide) rfl
  split; · subst c; exact .letter 'n' (by decide) rfl
  split; · subst c; exact .letter 'r' (by decide) rfl
  split; · subst c; exact .letter 't' (by decide) rfl
  split; · subst c; exact .letter 'b' (by decide) rfl
  split; · subst c; exact .letter 'f' (by decide) rfl
  split
  · exact spelling_control ‹_›
  · next hquote hslash _ _ _ _ _ hcontrol => exact .plain hquote hslash (by omega)

theorem le_toNat_of_hexValue? {d : Char} (h : (Text.hexValue? d).isSome) : 48 ≤ d.toNat := by
  have hle {a : Char} : a ≤ d → a.toNat ≤ d.toNat := id
  unfold Text.hexValue? at h
  split at h
  · next hd => exact hle hd.1
  · split at h
    · next hd => exact Nat.le_trans (by decide) (hle hd.1)
    · split at h
      · next hd => exact Nat.le_trans (by decide) (hle hd.1)
      · cases h

/-- No spelling holds a control character. -/
theorem Spelling.printable {c : Char} {cs : List Char} (h : Spelling c cs) : ∀ d ∈ cs, 32 ≤ d.toNat := by
  intro d hd
  cases h with
  | plain _ _ hcontrol =>
    rw [List.mem_singleton] at hd
    exact hd ▸ hcontrol
  | letter e he _ =>
    have hall : ∀ d ∈ ['\\', '"', '\\', 'n', 'r', 't', 'b', 'f'], 32 ≤ d.toNat := by simp
    simp only [List.mem_cons, List.not_mem_nil, or_false] at hd
    rcases hd with rfl | rfl
    · decide
    · exact hall d (List.mem_cons_of_mem _ he)
  | code digits _ hdigits _ =>
    simp only [List.mem_cons] at hd
    rcases hd with rfl | rfl | hd
    · decide
    · decide
    · exact Nat.le_trans (by decide) (le_toNat_of_hexValue? (hdigits d hd))

/-! ## Reading what was written -/

theorem interiorFrom?_skip (as bs : List Char) : interiorFrom? as.length (as ++ bs) = interiorFrom? 0 bs := by
  induction as with
  | nil => rfl
  | cons a as ih => simpa [interiorFrom?] using ih

theorem codeAt?_append (number? : List Char → Option Nat) (digits rest : List Char) :
    codeAt? number? digits.length (digits ++ rest) = number? digits := by
  rw [codeAt?, if_pos (by simp), List.take_left]

/-- A spelling is no quote, and is read as its character whatever follows. -/
theorem Spelling.unit? {c : Char} {cs : List Char} (h : Spelling c cs) : ∃ front tail, cs = front :: tail ∧
    front ≠ '"' ∧ ∀ rest, Go.unit? front (tail ++ rest) = some (String.utf8EncodeChar c, tail.length) := by
  cases h with
  | plain hquote hslash hcontrol =>
    refine ⟨c, [], rfl, hquote, fun rest => ?_⟩
    have hline : c ≠ '\n' := by
      rintro rfl
      contradiction
    rw [Go.unit?, if_neg hline, if_neg hslash]
    rfl
  | letter e he hc =>
    refine ⟨'\\', [e], rfl, by decide, fun rest => ?_⟩
    have hne : e ≠ 'u' ∧ e ≠ 'U' ∧ e ≠ 'x' := by
      refine ⟨?_, ?_, ?_⟩ <;> (rintro rfl; cases hc)
    have hread : escape? (e :: rest) = some (String.utf8EncodeChar c, 1) := by
      rw [escape?, if_neg hne.1, if_neg hne.2.1, if_neg hne.2.2, hc]
    exact hread
  | code digits hlength _ hc =>
    refine ⟨'\\', 'u' :: digits, rfl, by decide, fun rest => ?_⟩
    have hnumber := codeAt?_append hexNumber? digits rest
    rw [hlength, hc] at hnumber
    have hvalid : c.toNat.isValidChar := c.valid
    have hread : escape? ('u' :: (digits ++ rest)) = some (String.utf8EncodeChar c, 5) := by
      rw [escape?, if_pos rfl, characterAt?, hnumber, Option.bind_some, if_pos hvalid, Char.ofNat_toNat]
      rfl
    rw [List.length_cons, hlength]
    exact hread

/-- Whatever is spelled is read as its bytes, up to the first quote behind it. -/
theorem interiorFrom?_spelled {cs : List Char} {spellings : List (List Char)} (h : List.Forall₂ Spelling cs spellings)
    (rest : List Char) :
    interiorFrom? 0 (spellings.flatten ++ '"' :: rest) = some (Text.Utf8.encode cs, rest) := by
  induction h with
  | nil => rfl
  | @cons c ds cs spellings hc _ ih =>
    obtain ⟨front, tail, rfl, hquote, hunit⟩ := hc.unit?
    rw [List.flatten_cons, List.append_assoc, List.cons_append, interiorFrom?, if_neg (by decide), if_neg hquote,
      hunit, Option.bind_some, interiorFrom?_skip, ih]
    rfl

/-! ## String literals -/

theorem forall₂_encodeChar (cs : List Char) : List.Forall₂ Spelling cs (cs.map Text.Quoted.encodeChar) := by
  induction cs with
  | nil => exact .nil
  | cons c cs ih => exact .cons (spelling_encodeChar c) ih

theorem toList_stringLiteral (s : String) :
    (stringLiteral s).toList = '"' :: ((s.toList.map Text.Quoted.encodeChar).flatten ++ ['"']) := by
  rw [stringLiteral, Text.quote, String.toList_ofList, Text.Quoted.encode, List.flatMap_def]

theorem interpreted?_stringLiteral (s : String) (rest : List Char) :
    interpreted? ((stringLiteral s).toList ++ rest) = some (Text.toUtf8 s, rest) := by
  have hread := interiorFrom?_spelled (forall₂_encodeChar s.toList) rest
  rw [toList_stringLiteral, List.cons_append, interpreted?, if_pos rfl, List.append_assoc]
  exact hread

/-- A string literal stands between two quotes and spells the characters of the text one by one: what needs no escape
as it is, and the rest by escapes that Go has too, so that no control character is in it. Whatever follows it, Go reads
it up to its own last quote, and reads the bytes of the text. No two texts share a literal. -/
theorem stringLiteral_reads (s : String) :
    (∃ spellings, (stringLiteral s).toList = '"' :: (spellings.flatten ++ ['"']) ∧
      List.Forall₂ Spelling s.toList spellings) ∧
    (∀ c ∈ (stringLiteral s).toList, 32 ≤ c.toNat) ∧
    (∀ rest, interpreted? ((stringLiteral s).toList ++ rest) = some (Text.toUtf8 s, rest)) ∧
    ∀ t, stringLiteral t = stringLiteral s ↔ t = s := by
  refine ⟨⟨_, toList_stringLiteral s, forall₂_encodeChar s.toList⟩, ?_, interpreted?_stringLiteral s, fun t => ?_⟩
  · intro c hc
    rw [toList_stringLiteral, List.mem_cons, List.mem_append, List.mem_singleton, List.mem_flatten] at hc
    rcases hc with rfl | ⟨cs, hcs, hmem⟩ | rfl
    · decide
    · obtain ⟨d, -, rfl⟩ := List.mem_map.mp hcs
      exact (spelling_encodeChar d).printable c hmem
    · decide
  · constructor
    · intro h
      have hread := interpreted?_stringLiteral t []
      rw [h, interpreted?_stringLiteral, Option.some.injEq, Prod.mk.injEq, Text.toUtf8, Text.toUtf8,
        Text.Utf8.encode_inj, String.toList_inj] at hread
      exact hread.1.symm
    · rintro rfl
      rfl

/-! What has to be escaped, what looks like an escape, and a character of three bytes. -/

def hostileText : String := "\"\\n\n\x1f/\u20ac"

theorem stringLiteral_hostile :
    stringLiteral hostileText = "\"\\\"\\\\n\\n\\u001f/\u20ac\"" ∧
      interpreted? ((stringLiteral hostileText).toList ++ [';', '"']) =
        some ([34, 92, 110, 10, 31, 47, 226, 130, 172], [';', '"']) ∧
      ∀ c ∈ (stringLiteral hostileText).toList, 32 ≤ c.toNat := by
  obtain ⟨-, hprintable, hread, -⟩ := stringLiteral_reads hostileText
  refine ⟨?_, ?_, hprintable⟩
  · rw [← String.toList_inj]
    decide
  · rw [hread]
    decide

end ShaderBundle.Go
