import Mathlib.Algebra.Group.Nat.Defs
import ShaderBundle.Go.Literal
import ShaderBundle.Proofs.Go.Scanner
import ShaderBundle.Proofs.Text.Words

/-!
# What literals scan to

Identifiers, integers, quoted texts and bytes each give the one token they stand for, whatever the text
they hold. A comment gives none: its guarded text cannot end it. Nor does white space.
-/

namespace ShaderBundle.Go

variable {u : Alphabet}

/-! ## Words -/

theorem Delimits.not_inWord {c : Char} (h : Delimits c) : u.inWord c = false := by
  rcases h with rfl | rfl | rfl | rfl | rfl <;> rfl

theorem Delimits.ne_dot {c : Char} (h : Delimits c) : (c == '.') = false := by
  rcases h with rfl | rfl | rfl | rfl | rfl <;> rfl

/-- None of the characters with a meaning of their own is a letter. -/
theorem Scanner.start_letter {c : Char} (h : u.letter c = true) (ts : List Token) :
    start u ts c = some ⟨.word [c], ts⟩ := by
  have hne : ∀ d : Char, u.letter d = false → c ≠ d := fun d hd e => by rw [e, hd] at h; cases h
  simp [start, h, hne '\n' rfl, hne ' ' rfl, hne '\t' rfl, hne '\r' rfl, hne '"' rfl, hne '/' rfl,
    hne '.' rfl]

theorem Scanner.run_word (ts : List Token) : ∀ (cs read : List Char), (∀ c ∈ cs, u.inWord c = true) →
    run u ⟨.word read, ts⟩ cs = some ⟨.word (cs.reverse ++ read), ts⟩
  | [], _, _ => rfl
  | c :: cs, read, h => by
    rw [run_cons, step_word, if_pos (h c (by simp)), Option.bind_some,
      run_word ts cs (c :: read) fun d hd => h d (List.mem_cons_of_mem c hd)]
    simp

theorem isIdentifier_iff {s : String} : u.isIdentifier s = true ↔
    ∃ c cs, s.toList = c :: cs ∧ u.letter c = true ∧ (∀ d ∈ cs, u.inWord d = true) ∧
      keywords.contains s = false := by
  unfold Alphabet.isIdentifier
  cases s.toList with
  | nil => simp
  | cons c cs => simp [and_assoc]

theorem isIdentifier_of {s : String} {c : Char} {cs : List Char} (hs : s.toList = c :: cs)
    (hc : u.letter c = true) (hcs : cs.all u.inWord = true) (hk : keywords.contains s = false) :
    u.isIdentifier s = true :=
  isIdentifier_iff.mpr ⟨c, cs, hs, hc, List.all_eq_true.mp hcs, hk⟩

theorem scansUpTo_identifier {s : String} (h : u.isIdentifier s = true) :
    ScansUpTo u s.toList [.name s] := by
  obtain ⟨c, cs, hs, hc, hcs, hk⟩ := isIdentifier_iff.mp h
  intro before d rest hd
  have hword : String.ofList (cs.reverse ++ [c]).reverse = s := by
    rw [List.reverse_append, List.reverse_reverse, List.reverse_singleton, List.singleton_append, ← hs,
      String.ofList_toList]
  rw [hs, List.cons_append, Scanner.run_cons]
  simp only [Scanner.step, Scanner.start_letter hc, Option.bind_some]
  rw [Scanner.run_append, Scanner.run_word _ _ _ hcs, Option.bind_some, Scanner.run_cons, Scanner.run_cons]
  simp only [Scanner.step, hd.not_inWord, hword, wordToken, hk, Bool.false_eq_true, if_false,
    List.reverse_singleton, List.singleton_append]

/-! ## Numbers -/

theorem letter_of_isDigit {c : Char} (h : c.isDigit = true) : u.letter c = false := by
  have hc := Text.isDigit_bounds h
  have h1 : c.toNat < 128 := by omega
  have h2 : c.isAlpha = false := by
    delta Char.isAlpha Char.isUpper Char.isLower
    simp only [Bool.or_eq_false_iff, Bool.and_eq_false_iff, decide_eq_false_iff_not, UInt32.le_iff_toNat_le, ge_iff_le]
    change ¬ (65 ≤ c.toNat ∧ c.toNat ≤ 90) ∧ (¬ 97 ≤ c.toNat ∨ ¬ c.toNat ≤ 122)
    omega
  have h3 : c ≠ '_' := fun e => by rw [e] at h; cases h
  simp [Alphabet.letter, h1, h2, h3]

theorem inWord_of_isDigit {c : Char} (h : c.isDigit = true) : u.inWord c = true := by
  have hc := Text.isDigit_bounds h
  have : c.toNat < 128 := by omega
  simp [Alphabet.inWord, Alphabet.digit, this, h]

theorem Scanner.run_number (ts : List Token) : ∀ (cs read : List Char),
    (∀ c ∈ cs, u.inWord c = true) →
      run u ⟨.number read, ts⟩ cs = some ⟨.number (cs.reverse ++ read), ts⟩
  | [], _, _ => rfl
  | c :: cs, read, h => by
    rw [run_cons, step_number, if_pos (by rw [h c (by simp)]; rfl), Option.bind_some,
      run_number ts cs (c :: read) fun d hd => h d (List.mem_cons_of_mem c hd)]
    simp

theorem Scanner.start_digit {c : Char} (h : c.isDigit = true) (ts : List Token) :
    start u ts c = some ⟨.number [c], ts⟩ := by
  have hne : ∀ d : Char, d.isDigit = false → c ≠ d := fun d hd e => by rw [e, hd] at h; cases h
  simp [start, h, letter_of_isDigit h, hne '\n' rfl, hne ' ' rfl, hne '\t' rfl, hne '\r' rfl, hne '"' rfl, hne '/' rfl,
    hne '.' rfl]

/-- An integer literal whose first character is a digit, in front of a character that ends it. -/
theorem scansUpTo_integer {c : Char} {cs : List Char} {n : Nat} (hc : c.isDigit = true)
    (hcs : ∀ d ∈ cs, u.inWord d = true) (h : integer? (c :: cs) = some n) :
    ScansUpTo u (c :: cs) [.integer n] := by
  intro before d rest hd
  have hread : (cs.reverse ++ [c]).reverse = c :: cs := by simp
  rw [List.cons_append, Scanner.run_cons]
  simp only [Scanner.step, Scanner.start_digit hc, Option.bind_some]
  rw [Scanner.run_append, Scanner.run_number _ _ _ hcs, Option.bind_some, Scanner.run_cons,
    Scanner.run_cons]
  simp only [Scanner.step, hd.not_inWord, hd.ne_dot, hread, h, Bool.or_self, Bool.false_eq_true,
    if_false, Option.bind_some, List.reverse_singleton, List.singleton_append]

/-! ### Decimal numbers -/

theorem digitChar_ne_zero : ∀ n, n < 10 → n ≠ 0 → n.digitChar ≠ '0' := by decide

/-- Decimal digits have no leading zero. -/
theorem head_toDigits {n : Nat} (hn : n ≠ 0) :
    ∃ c cs, Nat.toDigits 10 n = c :: cs ∧ c ≠ '0' := by
  induction n using Nat.strongRecOn with
  | ind n ih =>
    by_cases h : n < 10
    · exact ⟨n.digitChar, [], Nat.toDigits_of_lt_base h, digitChar_ne_zero n h hn⟩
    · obtain ⟨c, cs, hcs, hc⟩ := ih (n / 10) (by omega) (by omega)
      exact ⟨c, cs ++ [(n % 10).digitChar],
        by rw [Nat.toDigits_of_base_le (by omega) (by omega), hcs]; rfl, hc⟩

theorem integer?_cons {c : Char} {cs : List Char} (hc : c ≠ '0') :
    integer? (c :: cs) =
      if (c :: cs).all Char.isDigit then some (Nat.ofDigitChars 10 (c :: cs) 0) else none := by
  unfold integer?
  split <;> simp_all

theorem integer?_toDigits (n : Nat) : integer? (Nat.toDigits 10 n) = some n := by
  by_cases hn : n = 0
  · subst hn; rfl
  · obtain ⟨c, cs, hcs, hc⟩ := head_toDigits hn
    have hall : (c :: cs).all Char.isDigit = true :=
      List.all_eq_true.mpr fun d hd => Nat.isDigit_of_mem_toDigits (b := 10) (n := n) (by omega) (by omega)
        (by rw [hcs]; exact hd)
    have hval : Nat.ofDigitChars 10 (c :: cs) 0 = n := by
      rw [← hcs]; exact Nat.ofDigitChars_ten_toDigits
    rw [hcs, integer?_cons hc, if_pos hall, hval]

/-- The tokens of a whole number: a sign is a token of its own. -/
def integerTokens (n : Int) : List Token :=
  if n < 0 then [.mark '-', .integer n.natAbs] else [.integer n.natAbs]

theorem scansUpTo_natural (n : Nat) : ScansUpTo u (Nat.toDigits 10 n) [.integer n] := by
  have hd : ∀ c ∈ Nat.toDigits 10 n, c.isDigit = true := fun c hc =>
    Nat.isDigit_of_mem_toDigits (b := 10) (n := n) (by omega) (by omega) hc
  cases h : Nat.toDigits 10 n with
  | nil => exact absurd h Nat.toDigits_ne_nil
  | cons c cs =>
    rw [h] at hd
    exact scansUpTo_integer (hd c (by simp))
      (fun d hm => inWord_of_isDigit (hd d (List.mem_cons_of_mem c hm))) (h ▸ integer?_toDigits n)

theorem scansUpTo_minus {cs : List Char} {n : Nat} {c : Char} (hc : c.isDigit = true)
    (h : ScansUpTo u (c :: cs) [.integer n]) : ScansUpTo u ('-' :: c :: cs) [.mark '-', .integer n] := by
  intro before d rest hd
  have hop : operators.contains c = false := by
    have hno : operators.all (fun o => !o.isDigit) = true := rfl
    cases h : operators.contains c with
    | false => rfl
    | true =>
      have := List.all_eq_true.mp hno c (List.contains_iff_mem.mp h)
      rw [hc] at this
      cases this
  have hrun := h (.mark '-' :: before) d rest hd
  rw [List.cons_append, Scanner.run_cons] at hrun
  rw [List.cons_append, List.cons_append, Scanner.run_cons]
  have hminus : Scanner.step u ⟨.between, before⟩ '-' = some ⟨.operator '-', before⟩ := rfl
  rw [hminus, Option.bind_some, Scanner.run_cons]
  simp only [Scanner.step, hop, Bool.false_eq_true, if_false] at hrun ⊢
  exact hrun

theorem scansUpTo_int (n : Int) : ScansUpTo u (toString n).toList (integerTokens n) := by
  cases n with
  | ofNat n =>
    have h : toString (Int.ofNat n) = n.repr := rfl
    rw [h, Nat.toList_repr, integerTokens, if_neg (by simp)]
    exact scansUpTo_natural n
  | negSucc n =>
    have h : (toString (Int.negSucc n)).toList = '-' :: Nat.toDigits 10 (n + 1) := by
      have : toString (Int.negSucc n) = "-" ++ (n + 1).repr := rfl
      rw [this, String.toList_append, Nat.toList_repr]; rfl
    rw [h, integerTokens, if_pos (Int.negSucc_lt_zero n)]
    cases hd : Nat.toDigits 10 (n + 1) with
    | nil => exact absurd hd Nat.toDigits_ne_nil
    | cons c cs =>
      have hc : c.isDigit = true :=
        Nat.isDigit_of_mem_toDigits (b := 10) (n := n + 1) (by omega) (by omega) (by simp [hd])
      exact scansUpTo_minus hc (hd ▸ scansUpTo_natural (n + 1))

/-! ### Hexadecimal digits -/

theorem hexValue?_hexDigit : ∀ d, d < 16 → Text.hexValue? (Text.hexDigit d) = some d := by decide

theorem hexNumber?_append (cs : List Char) (c : Char) :
    hexNumber? (cs ++ [c]) = (hexNumber? cs).bind fun n => (Text.hexValue? c).map (n * 16 + ·) := by
  rw [hexNumber?, List.foldlM_append]
  simp [hexNumber?]

theorem hexNumber?_hexDigits (width n : Nat) :
    hexNumber? (Text.hexDigits width n) = some (n % 16 ^ width) := by
  induction width generalizing n with
  | zero => simp [Text.hexDigits, hexNumber?, Nat.mod_one]
  | succ width ih =>
    rw [Text.hexDigits, hexNumber?_append, ih, Option.bind_some,
      hexValue?_hexDigit _ (Nat.mod_lt _ (by decide)), Option.map_some, Nat.pow_succ, Nat.mul_comm (16 ^ width),
      Nat.mod_mul]
    congr 1
    omega

theorem isDigit_or_letter_hexDigit : ∀ d, d < 16 → u.inWord (Text.hexDigit d) = true := by
  intro d hd
  have h : ∀ d, d < 16 → (Text.hexDigit d).toNat < 128 ∧
      ((Text.hexDigit d).isAlpha = true ∨ (Text.hexDigit d).isDigit = true) := by decide
  obtain ⟨h1, h2 | h2⟩ := h d hd <;> simp [Alphabet.inWord, Alphabet.letter, Alphabet.digit, h1, h2]

theorem inWord_of_mem_hexDigits {width n : Nat} {c : Char} (h : c ∈ Text.hexDigits width n) :
    u.inWord c = true := by
  obtain ⟨d, hd, rfl⟩ := Text.mem_hexDigits h
  exact isDigit_or_letter_hexDigit d hd

theorem scansUpTo_byteElement (b : UInt8) : ScansUpTo u (byteElement b).toList [.integer b.toNat] := by
  have hs : (byteElement b).toList = '0' :: 'x' :: Text.hexDigits 2 b.toNat := by
    simp [byteElement, Text.hexByte]
  have hval : integer? ('0' :: 'x' :: Text.hexDigits 2 b.toNat) = some b.toNat := by
    have hne : Text.hexDigits 2 b.toNat ≠ [] := by simp [Text.hexDigits]
    rw [integer?]
    simp [hne, hexNumber?_hexDigits]
  rw [hs]
  refine scansUpTo_integer rfl (fun c hc => ?_) hval
  rcases List.mem_cons.mp hc with rfl | hc
  · rfl
  · exact inWord_of_mem_hexDigits hc

/-! ## Quoted text -/

/-- All digits of an escape by number but the last ones. -/
theorem Scanner.run_code (ts : List Token) (read : List Char) (width missing value n : Nat) (hm : 0 < missing) :
    run u ⟨.code read (width + missing) value, ts⟩ (Text.hexDigits width n) =
      some ⟨.code read missing (value * 16 ^ width + n % 16 ^ width), ts⟩ := by
  induction width generalizing missing n with
  | zero => simp [Text.hexDigits, run, Nat.mod_one]
  | succ width ih =>
    have hlast : missing ≠ 0 := by omega
    have hsum : width + 1 + missing = width + (missing + 1) := by omega
    have hval : (value * 16 ^ width + n / 16 % 16 ^ width) * 16 + n % 16 =
        value * 16 ^ (width + 1) + n % 16 ^ (width + 1) := by
      rw [Nat.pow_succ, Nat.mul_comm (16 ^ width) 16, Nat.mod_mul, Nat.add_mul, ← Nat.mul_assoc,
        Nat.mul_right_comm]
      omega
    rw [Text.hexDigits, hsum, run_append, ih (missing + 1) (n / 16) (by omega), Option.bind_some, run_cons,
      step_code, codeDigit, hexValue?_hexDigit _ (Nat.mod_lt _ (by decide))]
    simp [hlast, hval, run]

theorem Scanner.run_control (ts : List Token) (read : List Char) (c : Char) (hc : c.toNat < 32) :
    run u ⟨.text read, ts⟩ ('\\' :: 'u' :: Text.hexDigits 4 c.toNat) = some ⟨.text (c :: read), ts⟩ := by
  have hbegin : ∀ ds, run u ⟨.text read, ts⟩ ('\\' :: 'u' :: ds) = run u ⟨.code read (3 + 1) 0, ts⟩ ds :=
    fun ds => rfl
  have hval : c.toNat / 16 % 16 ^ 3 * 16 + c.toNat % 16 = c.toNat := by omega
  rw [hbegin, Text.hexDigits, run_append, run_code ts read 3 1 0 _ (by decide), Option.bind_some, run_cons,
    step_code, codeDigit, hexValue?_hexDigit _ (Nat.mod_lt _ (by decide))]
  have hvalid : c.toNat.isValidChar := c.valid
  simp only [Option.bind_some, Nat.zero_mul, Nat.zero_add, hval, hvalid, if_true, Char.ofNat_toNat]
  rfl

/-- Each character is written so that it is read back, and the text goes on. -/
theorem Scanner.run_encodeChar (ts : List Token) (read : List Char) (c : Char) :
    run u ⟨.text read, ts⟩ (Text.Quoted.encodeChar c) = some ⟨.text (c :: read), ts⟩ := by
  unfold Text.Quoted.encodeChar
  split; · subst c; rfl
  split; · subst c; rfl
  split; · subst c; rfl
  split; · subst c; rfl
  split; · subst c; rfl
  split; · subst c; rfl
  split; · subst c; rfl
  split
  · exact run_control ts read c ‹_›
  · next hquote hslash hline _ _ _ _ _ =>
    rw [run_cons, step_text, if_neg hquote, if_neg hslash, if_neg hline]
    rfl

theorem Scanner.run_encode (ts : List Token) : ∀ (cs read : List Char),
    run u ⟨.text read, ts⟩ (cs.flatMap Text.Quoted.encodeChar) = some ⟨.text (cs.reverse ++ read), ts⟩
  | [], _ => rfl
  | c :: cs, read => by
    rw [List.flatMap_cons, run_append, run_encodeChar, Option.bind_some, run_encode ts cs (c :: read)]
    simp

theorem scans_stringLiteral (s : String) : Scans u (stringLiteral s).toList [.text s] := by
  intro before
  have hopen : Scanner.step u ⟨.between, before⟩ '"' = some ⟨.text [], before⟩ := rfl
  have hread : String.ofList (s.toList.reverse ++ []).reverse = s := by simp
  rw [stringLiteral, Text.quote, String.toList_ofList, Text.Quoted.encode, Scanner.run_cons, hopen,
    Option.bind_some, Scanner.run_append, Scanner.run_encode, Option.bind_some, Scanner.run_cons,
    Scanner.step_text, if_pos rfl, hread]
  rfl

/-! ## Comments -/

/-- Inside a comment the guarded text does not end it. A star that came before must not meet a slash. -/
theorem Scanner.run_guardComment (ts : List Token) (cs : List Char) (star : Bool)
    (h : star = true → cs.head? ≠ some '/') :
    ∃ star', run u ⟨.comment star true, ts⟩ (guardComment cs) = some ⟨.comment star' true, ts⟩ := by
  induction cs using guardComment.induct generalizing star with
  | case1 => exact ⟨star, rfl⟩
  | case2 rest ih =>
    obtain ⟨star', ih⟩ := ih false (by simp)
    have hpair : run u ⟨.comment star true, ts⟩ ('*' :: ' ' :: '/' :: guardComment rest) =
        run u ⟨.comment false true, ts⟩ (guardComment rest) := by cases star <;> rfl
    exact ⟨star', by rw [guardComment, hpair, ih]⟩
  | case3 c rest hpair ih =>
    have hstep : (star && c == '/') = false := by
      cases star with
      | false => rfl
      | true => simpa using h rfl
    have hnext : (c == '*') = true → rest.head? ≠ some '/' := by
      intro hc hr
      obtain ⟨tail, rfl⟩ := List.head?_eq_some_iff.mp hr
      exact hpair tail (by simpa using hc) rfl
    obtain ⟨star', ih⟩ := ih (c == '*') hnext
    refine ⟨star', ?_⟩
    rw [guardComment, run_cons, step_comment, hstep, if_neg (by decide), Option.bind_some, Bool.true_or, ih]
    exact hpair

/-- Blanks of a line give no token. -/
def IsIndent (cs : List Char) : Prop := ∀ c ∈ cs, c = ' ' ∨ c = '\t'

instance (cs : List Char) : Decidable (IsIndent cs) :=
  List.decidableBAll (fun c => c = ' ' ∨ c = '\t') cs

theorem IsIndent.scans : ∀ {cs : List Char}, IsIndent cs → Scans u cs []
  | [], _ => Scans.nil
  | c :: cs, h => by
    have hc : Scans u [c] [] := by rcases h c (by simp) with rfl | rfl <;> exact fun _ => rfl
    exact hc.append (IsIndent.scans fun d hd => h d (List.mem_cons_of_mem c hd))

theorem IsIndent.tab {cs : List Char} (h : IsIndent cs) : IsIndent (cs ++ ['\t']) := by
  intro c hc
  rcases List.mem_append.mp hc with hc | hc
  · exact h c hc
  · exact Or.inr (List.mem_singleton.mp hc)

/-- Blanks inside a comment stay in it, and are no star. -/
theorem Scanner.run_indent (ts : List Token) : ∀ {cs : List Char}, IsIndent cs →
    run u ⟨.comment false true, ts⟩ cs = some ⟨.comment false true, ts⟩
  | [], _ => rfl
  | c :: cs, h => by
    have hc : step u ⟨.comment false true, ts⟩ c = some ⟨.comment false true, ts⟩ := by
      rcases h c (by simp) with rfl | rfl <;> rfl
    rw [run_cons, hc, Option.bind_some, run_indent ts fun d hd => h d (List.mem_cons_of_mem c hd)]

/-- A comment gives no token, whatever it says. Behind a line that goes on, its line ends do not count. -/
theorem run_comment {indent text : String} {before : List Token} (hi : IsIndent indent.toList)
    (hb : endLine before = before) :
    Scanner.run u ⟨.between, before⟩ ((comment indent text).toList ++ ['\n']) =
      some ⟨.between, before⟩ := by
  have hopen : ∀ ds, Scanner.run u ⟨.between, before⟩ ('/' :: '*' :: '\n' :: ds) =
      Scanner.run u ⟨.comment false true, before⟩ ds := fun ds => rfl
  have hclose : Scanner.run u ⟨.comment false true, before⟩ ['*', '/', '\n'] =
      some ⟨.between, endLine (endLine before)⟩ := rfl
  have htext : (comment indent text).toList ++ ['\n'] = indent.toList ++ ('/' :: '*' :: '\n' ::
      (guardComment text.toList ++ ('\n' :: (indent.toList ++ ['*', '/', '\n'])))) := by
    simp [comment]
  obtain ⟨star, hguard⟩ := Scanner.run_guardComment (u := u) before text.toList false (by simp)
  have hline : Scanner.step u ⟨.comment star true, before⟩ '\n' = some ⟨.comment false true, before⟩ := by
    cases star <;> rfl
  rw [htext, Scanner.run_append, hi.scans before, Option.bind_some, List.reverse_nil, List.nil_append, hopen,
    Scanner.run_append, hguard, Option.bind_some, Scanner.run_cons, hline, Option.bind_some,
    Scanner.run_append, Scanner.run_indent before hi, Option.bind_some, hclose, hb, hb]

/-! ## White space -/

/-- The white space of Go, line ends among it. -/
def IsSpacing (cs : List Char) : Prop := ∀ c ∈ cs, c = ' ' ∨ c = '\t' ∨ c = '\r' ∨ c = '\n'

instance (cs : List Char) : Decidable (IsSpacing cs) :=
  List.decidableBAll (fun c => c = ' ' ∨ c = '\t' ∨ c = '\r' ∨ c = '\n') cs

theorem IsIndent.spacing {cs : List Char} (h : IsIndent cs) : IsSpacing cs := fun c hc => by
  rcases h c hc with rfl | rfl <;> decide

/-- Line ends are no more than white space where no statement ends with the line. -/
theorem IsSpacing.scansOn : ∀ {cs : List Char}, IsSpacing cs → ScansOn u cs []
  | [], _ => .nil
  | c :: cs, h => by
    have hc : ScansOn u [c] [] := by
      intro before hb
      rcases h c (by simp) with rfl | rfl | rfl | rfl
      · exact ⟨rfl, hb⟩
      · exact ⟨rfl, hb⟩
      · exact ⟨rfl, hb⟩
      · exact ⟨congrArg (fun ts => some (Scanner.mk .between ts)) hb, hb⟩
    exact hc.append (IsSpacing.scansOn fun d hd => h d (List.mem_cons_of_mem c hd))

end ShaderBundle.Go
