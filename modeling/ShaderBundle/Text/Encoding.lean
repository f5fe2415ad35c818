import ShaderBundle.Text.Hexadecimal

/-!
# Text as bytes

UTF-8, UTF-16 and UTF-32 text in bytes. A reader that refuses its input says where, on how many
bytes, and why. Writing is always UTF-8.

A surrogate is no character, yet an escape can name one, some encodings let one pass, and a byte of a file's name that
is no text is read as one. The code points from U+DD800 to U+DDFFF, which are no characters either, stand for them: such
a text can be worked with like any other, and cannot be written. What holds these code points themselves is left out.
-/

namespace ShaderBundle

abbrev Bytes := List UInt8

namespace Text

/-- Where and why bytes are not text. `first` is the first byte that cannot be read, `span` the
number of bytes the complaint covers, and `byte` the value of the first of them. -/
structure DecodeFault where
  codec : String
  first : Nat
  span : Nat
  byte : UInt8
  reason : String
  deriving Repr, BEq, DecidableEq

def DecodeFault.message (f : DecodeFault) : String :=
  let place :=
    if f.span = 1 then s!"byte 0x{hexByte f.byte} in position {f.first}"
    else s!"bytes in position {f.first}-{f.first + f.span - 1}"
  s!"'{f.codec}' codec can't decode {place}: {f.reason}"

/-- The character that stands for a surrogate. -/
def surrogate (code : Nat) : Char := Char.ofNat (0xd0000 + code)

def isSurrogate (c : Char) : Bool := 0xdd800 ≤ c.toNat && c.toNat < 0xde000

/-- A byte that is no text is read as a surrogate of its own, which names are written with as that byte again. This is
any other one. -/
def isStraySurrogate (c : Char) : Bool := isSurrogate c && !(0xddc80 ≤ c.toNat && c.toNat < 0xddd00)

/-- The code of the surrogate that a character stands for. -/
def surrogateCode (c : Char) : Nat := c.toNat - 0xd0000

/-! ## UTF-8 -/

namespace Utf8

def encode (cs : List Char) : Bytes := cs.flatMap String.utf8EncodeChar

def isContinuation (b : UInt8) : Bool := 0x80 ≤ b && b < 0xc0

/-- Whether `second` may follow the lead byte of a long form: no overlong form, no surrogate unless
they may pass, nothing beyond the last code point. -/
def secondFits (surrogates : Bool) (lead second : UInt8) : Bool :=
  isContinuation second &&
    (if lead = 0xe0 then 0xa0 ≤ second
     else if lead = 0xed then surrogates || second < 0xa0
     else if lead = 0xf0 then 0x90 ≤ second
     else if lead = 0xf4 then second < 0x90
     else true)

/-- Six payload bits are appended per continuation byte. -/
def extend (code : Nat) (b : UInt8) : Nat := code * 64 + b.toNat % 64

def charOf (code : Nat) : Char := if code.isValidChar then Char.ofNat code else surrogate code

/-- The outcome of reading one character: it and the bytes after it, or the length of the bytes
that cannot be read and the reason. -/
inductive Step
  | char (c : Char) (rest : Bytes)
  | bad (span : Nat) (reason : String)

def invalidStart := "invalid start byte"
def invalidContinuation := "invalid continuation byte"
def unexpectedEnd := "unexpected end of data"

/-- Reads the character that starts with `lead`. With `surrogates`, a surrogate in three bytes is
let pass. -/
def step (surrogates : Bool) (lead : UInt8) (rest : Bytes) : Step :=
  if lead < 0x80 then .char (Char.ofNat lead.toNat) rest
  else if lead < 0xc2 then .bad 1 invalidStart
  else if lead < 0xe0 then
    match rest with
    | [] => .bad 1 unexpectedEnd
    | b :: rest =>
      if isContinuation b then .char (charOf (extend (lead.toNat % 32) b)) rest
      else .bad 1 invalidContinuation
  else if lead < 0xf0 then
    match rest with
    | [] => .bad 1 unexpectedEnd
    | [b] => if secondFits false lead b then .bad 2 unexpectedEnd else .bad 1 invalidContinuation
    | b :: c :: rest =>
      if secondFits surrogates lead b then
        if isContinuation c then .char (charOf (extend (extend (lead.toNat % 16) b) c)) rest
        else if secondFits false lead b then .bad 2 invalidContinuation
        else .bad 1 invalidContinuation
      else .bad 1 invalidContinuation
  else if lead < 0xf5 then
    match rest with
    | [] => .bad 1 unexpectedEnd
    | [b] => if secondFits false lead b then .bad 2 unexpectedEnd else .bad 1 invalidContinuation
    | [b, c] =>
      if secondFits false lead b then
        if isContinuation c then .bad 3 unexpectedEnd else .bad 2 invalidContinuation
      else .bad 1 invalidContinuation
    | b :: c :: d :: rest =>
      if secondFits false lead b then
        if isContinuation c then
          if isContinuation d then
            .char (charOf (extend (extend (extend (lead.toNat % 8) b) c) d)) rest
          else .bad 3 invalidContinuation
        else .bad 2 invalidContinuation
      else .bad 1 invalidContinuation
  else .bad 1 invalidStart

theorem length_of_step {surrogates : Bool} {lead : UInt8} {bytes rest : Bytes} {c : Char}
    (h : step surrogates lead bytes = .char c rest) : rest.length ≤ bytes.length := by
  unfold step at h
  grind

/-- Reads bytes whose first stands at `position` of the whole. -/
def decodeFrom (surrogates : Bool) (position : Nat) : Bytes → Except DecodeFault (List Char)
  | [] => .ok []
  | lead :: bytes =>
    match h : step surrogates lead bytes with
    | .bad span reason => .error ⟨"utf-8", position, span, lead, reason⟩
    | .char c rest =>
      (decodeFrom surrogates (position + 1 + (bytes.length - rest.length)) rest).map (c :: ·)
termination_by bytes => bytes.length
decreasing_by exact Nat.lt_succ_of_le (length_of_step h)

/-- The characters of bytes that are a text, up to so many of them. -/
def charsUpTo : Nat → Bytes → List Char
  | n + 1, lead :: bytes =>
    match step false lead bytes with
    | .char c rest => c :: charsUpTo n rest
    | .bad .. => []
  | _, _ => []

def decode (bytes : Bytes) : Except DecodeFault String :=
  (decodeFrom false 0 bytes).map String.ofList

end Utf8

def toUtf8 (s : String) : Bytes := Utf8.encode s.toList

/-- The characters of a text. They are read off its bytes, as `String.toList` takes a proof that evaluates it too long. -/
def chars (s : String) : List Char :=
  let bytes := s.toByteArray.data.toList
  Utf8.charsUpTo bytes.length bytes

/-- Why a text cannot be written: its first surrogates, behind so many characters. -/
structure EncodeFault where
  position : Nat
  codes : List Nat
  deriving Repr, DecidableEq

def EncodeFault.message (f : EncodeFault) : String :=
  let place :=
    match f.codes with
    | [code] => s!"character '\\u{String.ofList (hexDigits 4 code)}' in position {f.position}"
    | codes => s!"characters in position {f.position}-{f.position + codes.length - 1}"
  s!"'utf-8' codec can't encode {place}: surrogates not allowed"

/-- Looks for a surrogate that is refused, from the character at `position` of the whole on. -/
def encodeFaultFrom? (refused : Char → Bool) (position : Nat) : List Char → Option EncodeFault
  | [] => none
  | c :: rest =>
    if refused c then some ⟨position, ((c :: rest).takeWhile isSurrogate).map surrogateCode⟩
    else encodeFaultFrom? refused (position + 1) rest

theorem encodeFaultFrom?_eq_none {refused : Char → Bool} {position : Nat} {cs : List Char} :
    encodeFaultFrom? refused position cs = none ↔ ∀ c ∈ cs, refused c = false := by
  fun_induction encodeFaultFrom? refused position cs with
  | case1 => simp
  | case2 position c rest hc => simp [hc]
  | case3 position c rest hc ih => simp [ih, hc]

/-- The bytes that a text is written as. -/
def encode (s : String) : Except EncodeFault Bytes :=
  match encodeFaultFrom? isSurrogate 0 (chars s) with
  | some fault => .error fault
  | none => .ok (toUtf8 s)

/-- The text can be written. -/
def Writable (s : String) : Prop := encode s = .ok (toUtf8 s)

theorem encode_eq_ok {s : String} {bytes : Bytes} : encode s = .ok bytes ↔ Writable s ∧ bytes = toUtf8 s := by
  unfold Writable encode
  split
  · constructor
    · intro h
      cases h
    · rintro ⟨h, -⟩
      cases h
  · constructor
    · intro h
      cases h
      exact ⟨rfl, rfl⟩
    · rintro ⟨-, rfl⟩
      rfl

theorem writable_iff {s : String} : Writable s ↔ encodeFaultFrom? isSurrogate 0 (chars s) = none := by
  unfold Writable encode
  split
  · next h => simp [h]
  · next h => simp [h]

instance (s : String) : Decidable (Writable s) := decidable_of_iff _ writable_iff.symm

/-! ## UTF-16 and UTF-32 -/

inductive ByteOrder
  | little | big
  deriving DecidableEq

def ByteOrder.label : ByteOrder → String
  | .little => "le"
  | .big => "be"

/-- The number that a few bytes stand for. -/
def ByteOrder.number (order : ByteOrder) (bytes : Bytes) : Nat :=
  match order with
  | .little => bytes.foldr (fun b n => n * 256 + b.toNat) 0
  | .big => bytes.foldl (fun n b => n * 256 + b.toNat) 0

def isHighSurrogate (unit : Nat) : Bool := 0xd800 ≤ unit && unit < 0xdc00

def isLowSurrogate (unit : Nat) : Bool := 0xdc00 ≤ unit && unit < 0xe000

/-- The code point that a pair of surrogates stands for. -/
def joinSurrogates (high low : Nat) : Nat := 0x10000 + (high - 0xd800) * 0x400 + (low - 0xdc00)

/-- Pairs surrogates up; one without a partner is let pass. -/
def charsOfUnits : List Nat → List Char
  | [] => []
  | [unit] => [Utf8.charOf unit]
  | high :: low :: rest =>
    if isHighSurrogate high && isLowSurrogate low then
      Char.ofNat (joinSurrogates high low) :: charsOfUnits rest
    else Utf8.charOf high :: charsOfUnits (low :: rest)

/-- Reads 16-bit units; the first byte stands at `position` of the whole. -/
def units16 (order : ByteOrder) (position : Nat) : Bytes → Except DecodeFault (List Nat)
  | [] => .ok []
  | [b] => .error ⟨s!"utf-16-{order.label}", position, 1, b, "truncated data"⟩
  | a :: b :: rest => (units16 order (position + 2) rest).map (order.number [a, b] :: ·)

/-- Reads 32-bit code points; the first byte stands at `position` of the whole. -/
def codes32 (order : ByteOrder) (position : Nat) : Bytes → Except DecodeFault (List Char)
  | [] => .ok []
  | a :: b :: c :: d :: rest =>
    let code := order.number [a, b, c, d]
    if code < 0x110000 then (codes32 order (position + 4) rest).map (Utf8.charOf code :: ·)
    else .error ⟨s!"utf-32-{order.label}", position, 4, a, "code point not in range(0x110000)"⟩
  | a :: rest =>
    .error ⟨s!"utf-32-{order.label}", position, rest.length + 1, a, "truncated data"⟩

end Text

end ShaderBundle
