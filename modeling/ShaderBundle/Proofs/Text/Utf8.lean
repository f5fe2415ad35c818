import ShaderBundle.Text.Encoding

/-!
# Reading what was written

UTF-8 as it is written is read back, whatever the text. One character at a time: the first byte tells how many there
are, and each one behind it adds six bits.

* `decodeFrom_encode`, `charsUpTo_encode`: a text is read back from its bytes.
* `chars_eq_toList`: and so are the characters of any text.
-/

namespace ShaderBundle.Text

namespace Utf8

/-! ## Bytes and their numbers -/

section
variable {n : Nat} (hn : n < 256) (k : Nat) {b : UInt8} (hb : b.toNat = k)

include hn

theorem toNat_ofNat : (UInt8.ofNat n).toNat = n := by
  rw [UInt8.toNat_ofNat']
  exact Nat.mod_eq_of_lt hn

include hb

theorem ofNat_lt_iff : UInt8.ofNat n < b ↔ n < k := by rw [UInt8.lt_iff_toNat_lt, toNat_ofNat hn, hb]

theorem le_ofNat_iff : b ≤ UInt8.ofNat n ↔ k ≤ n := by rw [UInt8.le_iff_toNat_le, toNat_ofNat hn, hb]

theorem ofNat_eq_iff : UInt8.ofNat n = b ↔ n = k := by rw [← UInt8.toNat_inj, toNat_ofNat hn, hb]

end

/-! ## Bytes behind the first -/

theorem isContinuation_ofNat (n : Nat) : isContinuation (UInt8.ofNat (n % 64 + 128)) = true := by
  have hlow : 0x80 ≤ UInt8.ofNat (n % 64 + 128) := (le_ofNat_iff (by omega) 128 rfl).mpr (by omega)
  have hhigh : UInt8.ofNat (n % 64 + 128) < 0xc0 := (ofNat_lt_iff (by omega) 192 rfl).mpr (by omega)
  rw [isContinuation, Bool.and_eq_true, decide_eq_true_eq, decide_eq_true_eq]
  exact ⟨hlow, hhigh⟩

theorem extend_ofNat (code n : Nat) : extend code (UInt8.ofNat (n % 64 + 128)) = code * 64 + n % 64 := by
  rw [extend, toNat_ofNat (by omega)]
  omega

/-- What may follow a lead byte, for the bytes of a number. -/
theorem secondFits_ofNat {surrogates : Bool} {lead n : Nat} (hlead : lead < 256) (h224 : lead = 224 → 32 ≤ n % 64)
    (h237 : lead = 237 → n % 64 < 32) (h240 : lead = 240 → 16 ≤ n % 64) (h244 : lead = 244 → n % 64 < 16) :
    secondFits surrogates (UInt8.ofNat lead) (UInt8.ofNat (n % 64 + 128)) = true := by
  have hlead (k : Nat) {b : UInt8} (hb : b.toNat = k) : UInt8.ofNat lead = b → lead = k :=
    (ofNat_eq_iff hlead k hb).mp
  rw [secondFits, isContinuation_ofNat, Bool.true_and]
  split
  · next h =>
    have := h224 (hlead 224 rfl h)
    exact decide_eq_true ((le_ofNat_iff (by omega) 160 rfl).mpr (by omega))
  · split
    · next h =>
      have := h237 (hlead 237 rfl h)
      rw [Bool.or_eq_true]
      exact .inr (decide_eq_true ((ofNat_lt_iff (by omega) 160 rfl).mpr (by omega)))
    · split
      · next h =>
        have := h240 (hlead 240 rfl h)
        exact decide_eq_true ((le_ofNat_iff (by omega) 144 rfl).mpr (by omega))
      · split
        · next h =>
          have := h244 (hlead 244 rfl h)
          exact decide_eq_true ((ofNat_lt_iff (by omega) 144 rfl).mpr (by omega))
        · rfl

/-! ## One character -/

theorem charOf_toNat (c : Char) : charOf c.toNat = c := by
  have hvalid : c.toNat.isValidChar := c.valid
  rw [charOf, if_pos hvalid, Char.ofNat_toNat]

section
variable {surrogates : Bool} {v : Nat} {c : Char} (hc : charOf v = c) (rest : Bytes)
include hc

theorem step_one (hv : v ≤ 127) : step surrogates (UInt8.ofNat v) rest = .char c rest := by
  have hchar : Char.ofNat v = c := by
    rw [← hc, charOf, if_pos (by unfold Nat.isValidChar; omega)]
  unfold step
  rw [if_pos ((ofNat_lt_iff (by omega) 128 rfl).mpr (by omega)), toNat_ofNat (by omega), hchar]

theorem step_two (hlow : 127 < v) (hhigh : v ≤ 2047) :
    step surrogates (UInt8.ofNat (v / 64 % 32 + 192)) (UInt8.ofNat (v % 64 + 128) :: rest) = .char c rest := by
  have hlead : v / 64 % 32 + 192 < 256 := by omega
  have hcode : extend ((UInt8.ofNat (v / 64 % 32 + 192)).toNat % 32) (UInt8.ofNat (v % 64 + 128)) = v := by
    rw [extend_ofNat, toNat_ofNat hlead]
    omega
  rw [step, if_neg (mt (ofNat_lt_iff hlead 128 rfl).mp (by omega)),
    if_neg (mt (ofNat_lt_iff hlead 194 rfl).mp (by omega)),
    if_pos ((ofNat_lt_iff hlead 224 rfl).mpr (by omega))]
  rw [if_pos (isContinuation_ofNat v), hcode, hc]

theorem step_three (hlow : 2047 < v) (hhigh : v ≤ 65535) (hvalid : v.isValidChar) :
    step surrogates (UInt8.ofNat (v / 4096 % 16 + 224))
      (UInt8.ofNat (v / 64 % 64 + 128) :: UInt8.ofNat (v % 64 + 128) :: rest) = .char c rest := by
  have hlead : v / 4096 % 16 + 224 < 256 := by omega
  have hfits : secondFits surrogates (UInt8.ofNat (v / 4096 % 16 + 224)) (UInt8.ofNat (v / 64 % 64 + 128)) = true := by
    unfold Nat.isValidChar at hvalid
    apply secondFits_ofNat <;> omega
  have hcode : extend (extend ((UInt8.ofNat (v / 4096 % 16 + 224)).toNat % 16) (UInt8.ofNat (v / 64 % 64 + 128)))
      (UInt8.ofNat (v % 64 + 128)) = v := by
    rw [extend_ofNat, extend_ofNat, toNat_ofNat hlead]
    omega
  rw [step, if_neg (mt (ofNat_lt_iff hlead 128 rfl).mp (by omega)),
    if_neg (mt (ofNat_lt_iff hlead 194 rfl).mp (by omega)),
    if_neg (mt (ofNat_lt_iff hlead 224 rfl).mp (by omega)), if_pos ((ofNat_lt_iff hlead 240 rfl).mpr (by omega))]
  dsimp only
  rw [if_pos hfits, if_pos (isContinuation_ofNat v), hcode, hc]

theorem step_four (hlow : 65535 < v) (hvalid : v.isValidChar) :
    step surrogates (UInt8.ofNat (v / 262144 % 8 + 240))
      (UInt8.ofNat (v / 4096 % 64 + 128) :: UInt8.ofNat (v / 64 % 64 + 128) :: UInt8.ofNat (v % 64 + 128) :: rest) =
        .char c rest := by
  unfold Nat.isValidChar at hvalid
  have hlead : v / 262144 % 8 + 240 < 256 := by omega
  have hfits : secondFits false (UInt8.ofNat (v / 262144 % 8 + 240)) (UInt8.ofNat (v / 4096 % 64 + 128)) = true := by
    apply secondFits_ofNat <;> omega
  have hcode : extend (extend (extend ((UInt8.ofNat (v / 262144 % 8 + 240)).toNat % 8)
      (UInt8.ofNat (v / 4096 % 64 + 128))) (UInt8.ofNat (v / 64 % 64 + 128))) (UInt8.ofNat (v % 64 + 128)) = v := by
    rw [extend_ofNat, extend_ofNat, extend_ofNat, toNat_ofNat hlead]
    omega
  rw [step, if_neg (mt (ofNat_lt_iff hlead 128 rfl).mp (by omega)),
    if_neg (mt (ofNat_lt_iff hlead 194 rfl).mp (by omega)),
    if_neg (mt (ofNat_lt_iff hlead 224 rfl).mp (by omega)), if_neg (mt (ofNat_lt_iff hlead 240 rfl).mp (by omega)),
    if_pos ((ofNat_lt_iff hlead 245 rfl).mpr (by omega))]
  dsimp only
  rw [if_pos hfits, if_pos (isContinuation_ofNat _), if_pos (isContinuation_ofNat v), hcode, hc]

end

/-- The first byte of a character leads to all of it. -/
theorem step_encodeChar (surrogates : Bool) (c : Char) (rest : Bytes) : ∃ lead bytes,
    String.utf8EncodeChar c ++ rest = lead :: bytes ∧ step surrogates lead bytes = .char c rest := by
  have hvalid : c.toNat.isValidChar := c.valid
  have hc := charOf_toNat c
  have hval : c.val.toNat = c.toNat := rfl
  unfold String.utf8EncodeChar
  rw [hval]
  generalize c.toNat = v at hvalid hc
  dsimp only
  split
  · next hv => exact ⟨_, _, rfl, step_one hc rest hv⟩
  · next h1 =>
    split
    · next h2 => exact ⟨_, _, rfl, step_two hc rest (by omega) h2⟩
    · next h2 =>
      split
      · next h3 => exact ⟨_, _, rfl, step_three hc rest (by omega) h3 hvalid⟩
      · next h3 => exact ⟨_, _, rfl, step_four hc rest (by omega) hvalid⟩

theorem decodeFrom_char {surrogates : Bool} {lead : UInt8} {bytes rest : Bytes} {c : Char} (position : Nat)
    (h : step surrogates lead bytes = .char c rest) : decodeFrom surrogates position (lead :: bytes) =
      (decodeFrom surrogates (position + 1 + (bytes.length - rest.length)) rest).map (c :: ·) := by
  rw [decodeFrom]
  split
  · next hbad =>
    rw [h] at hbad
    cases hbad
  · next hchar =>
    rw [h] at hchar
    cases hchar
    rfl

theorem decodeFrom_encode (surrogates : Bool) (position : Nat) (cs : List Char) :
    decodeFrom surrogates position (encode cs) = .ok cs := by
  induction cs generalizing position with
  | nil => rw [encode, List.flatMap_nil, decodeFrom]
  | cons c cs ih =>
    obtain ⟨lead, bytes, hbytes, hstep⟩ := step_encodeChar surrogates c (encode cs)
    have hencode : encode (c :: cs) = lead :: bytes := hbytes
    rw [hencode, decodeFrom_char position hstep, ih]
    rfl

/-- No two texts have the same bytes. -/
theorem encode_inj {cs ds : List Char} : encode cs = encode ds ↔ cs = ds := by
  constructor
  · intro h
    have hread := decodeFrom_encode false 0 cs
    rw [h, decodeFrom_encode] at hread
    exact (Except.ok.inj hread).symm
  · exact congrArg encode

theorem charsUpTo_encode {n : Nat} (cs : List Char) (hn : (encode cs).length ≤ n) : charsUpTo n (encode cs) = cs := by
  induction cs generalizing n with
  | nil => cases n <;> rfl
  | cons c cs ih =>
    obtain ⟨lead, bytes, hbytes, hstep⟩ := step_encodeChar false c (encode cs)
    have hencode : encode (c :: cs) = lead :: bytes := hbytes
    rw [hencode, List.length_cons] at hn
    obtain ⟨m, rfl⟩ : ∃ m, n = m + 1 := ⟨n - 1, by omega⟩
    rw [hencode, charsUpTo, hstep]
    have hrest := length_of_step hstep
    exact congrArg (c :: ·) (ih (by omega))

end Utf8

/-- The bytes of a text are those of its characters. -/
theorem chars_eq_toList (s : String) : chars s = s.toList := by
  have hbytes : s.toByteArray.data.toList = Utf8.encode s.toList := by
    rw [← String.utf8Encode_toList, List.utf8Encode, List.toList_data_toByteArray, Utf8.encode]
  rw [chars, hbytes, Utf8.charsUpTo_encode _ (Nat.le_refl _)]

end ShaderBundle.Text
