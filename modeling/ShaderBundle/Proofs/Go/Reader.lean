import ShaderBundle.Proofs.Go.Scanner

/-!
# Reading Go files

The part of Go's grammar that a file of data is written in: a package clause, one import and one block of
variables, each with a value. Values are integers, strings, names, and composite literals, whose
elements may have keys and may end in a comma.

`readFile` reads the tokens of a file. The rest of the module says how values are put together: `Reads ts v`
holds when the tokens `ts` are read as the value `v` whatever closes them, `ReadsEntries` when they are read as
the elements of a literal, its closing brace among them.
-/

namespace ShaderBundle.Go

/-! ## Values -/

/-- The type in front of a composite literal; a name may be qualified by its package. -/
inductive LiteralType
  | named (path : List String)
  | slice (path : List String)
  /-- An array whose length is counted. -/
  | array (path : List String)
  deriving Repr, DecidableEq

inductive Value
  | integer (n : Int)
  | text (s : String)
  | symbol (path : List String)
  | composite (type : Option LiteralType) (entries : List (Option String × Value))

/-- An element of a composite literal and its key. -/
abbrev ValueEntry := Option String × Value

structure File where
  package : String
  imported : String
  vars : List (String × Value)

/-! ## Reading -/

def readPath : List Token → Option (List String × List Token)
  | .name a :: .mark '.' :: .name b :: rest => some ([a, b], rest)
  | .name a :: rest => some ([a], rest)
  | _ => none

def readType : List Token → Option (LiteralType × List Token)
  | .mark '[' :: .mark ']' :: rest => (readPath rest).map fun (path, rest) => (.slice path, rest)
  | .mark '[' :: .ellipsis :: .mark ']' :: rest =>
    (readPath rest).map fun (path, rest) => (.array path, rest)
  | rest => (readPath rest).map fun (path, rest) => (.named path, rest)

def splitKey : List Token → Option String × List Token
  | .name k :: .mark ':' :: rest => (some k, rest)
  | rest => (none, rest)

mutual

/-- Reads a value; no more than `n` steps into literals. -/
def readValue : (n : Nat) → List Token → Option (Value × List Token)
  | 0, _ => none
  | _ + 1, .text s :: rest => some (.text s, rest)
  | _ + 1, .integer m :: rest => some (.integer m, rest)
  | _ + 1, .mark '-' :: .integer m :: rest => some (.integer (-m), rest)
  | n + 1, .mark '{' :: rest =>
    (readEntries n rest).map fun (entries, rest) => (.composite none entries, rest)
  | n + 1, ts =>
    match readType ts with
    | some (type, .mark '{' :: rest) =>
      (readEntries n rest).map fun (entries, rest) => (.composite (some type) entries, rest)
    | some (.named path, rest) => some (.symbol path, rest)
    | _ => none

/-- Reads the elements of a literal and the brace that closes it. -/
def readEntries : (n : Nat) → List Token → Option (List ValueEntry × List Token)
  | 0, _ => none
  | _ + 1, .mark '}' :: rest => some ([], rest)
  | n + 1, ts =>
    match readValue n (splitKey ts).2 with
    | some (v, .mark ',' :: rest) =>
      (readEntries n rest).map fun (entries, rest) => (((splitKey ts).1, v) :: entries, rest)
    | some (v, .mark '}' :: rest) => some ([((splitKey ts).1, v)], rest)
    | _ => none

end

/-- Reads variables with their values, and the parenthesis that closes the block. -/
def readVariables : (n : Nat) → List Token → Option (List (String × Value) × List Token)
  | 0, _ => none
  | _ + 1, .mark ')' :: rest => some ([], rest)
  | n + 1, .name x :: .mark '=' :: ts =>
    match readValue n ts with
    | some (v, .mark ';' :: rest) =>
      (readVariables n rest).map fun (vars, rest) => ((x, v) :: vars, rest)
    | _ => none
  | _ + 1, _ => none

def readFile : List Token → Option File
  | .keyword "package" :: .name package :: .mark ';' :: .keyword "import" :: .text imported :: .mark ';' ::
      .keyword "var" :: .mark '(' :: rest =>
    match readVariables rest.length rest with
    | some (vars, [.mark ';']) => some ⟨package, imported, vars⟩
    | _ => none
  | _ => none

/-! ## Values of tokens -/

/-- What may follow a value: a comma, a closing brace or the end of a statement. -/
def Closed (ts : List Token) : Prop :=
  ∃ rest, ts = .mark ',' :: rest ∨ ts = .mark '}' :: rest ∨ ts = .mark ';' :: rest

def Reads (ts : List Token) (v : Value) : Prop :=
  ∀ n rest, ts.length ≤ n → Closed rest → readValue n (ts ++ rest) = some (v, rest)

def ReadsEntries (ts : List Token) (entries : List ValueEntry) : Prop :=
  ∀ n rest, ts.length ≤ n → readEntries n (ts ++ rest) = some (entries, rest)

/-- An element, whose key goes before it. -/
structure ReadsEntry (ts : List Token) (entry : ValueEntry) : Prop where
  value : ∃ vs, Reads vs entry.2 ∧ vs.length ≤ ts.length ∧
    ∀ rest, splitKey (ts ++ rest) = (entry.1, vs ++ rest)
  opened : ∃ t rest, ts = t :: rest ∧ t ≠ .mark '}'

variable {ts us : List Token} {v : Value} {entries : List ValueEntry} {entry : ValueEntry}

theorem Closed.comma (ts : List Token) : Closed (.mark ',' :: ts) := ⟨ts, Or.inl rfl⟩

theorem Closed.brace (ts : List Token) : Closed (.mark '}' :: ts) := ⟨ts, Or.inr (Or.inl rfl)⟩

theorem Closed.semicolon (ts : List Token) : Closed (.mark ';' :: ts) := ⟨ts, Or.inr (Or.inr rfl)⟩

theorem reads_text (s : String) : Reads [.text s] (.text s)
  | _ + 1, _, _, _ => rfl

theorem reads_natural (m : Nat) : Reads [.integer m] (.integer m)
  | _ + 1, _, _, _ => rfl

theorem reads_negative (m : Nat) : Reads [.mark '-', .integer m] (.integer (-m))
  | _ + 1, _, _, _ => rfl

theorem reads_symbol (a : String) : Reads [.name a] (.symbol [a]) := by
  intro n rest hn hc
  obtain ⟨n, rfl⟩ := Nat.exists_eq_add_of_lt hn
  obtain ⟨rest, rfl | rfl | rfl⟩ := hc <;> rfl

theorem reads_qualified (a b : String) : Reads [.name a, .mark '.', .name b] (.symbol [a, b]) := by
  intro n rest hn hc
  obtain ⟨n, rfl⟩ := Nat.exists_eq_add_of_lt hn
  obtain ⟨rest, rfl | rfl | rfl⟩ := hc <;> rfl

theorem readsEntries_nil : ReadsEntries [.mark '}'] []
  | _ + 1, _, _ => rfl

theorem readEntries_succ (n : Nat) (h : ReadsEntry ts entry) (rest : List Token) :
    readEntries (n + 1) (ts ++ rest) =
      match readValue n (splitKey (ts ++ rest)).2 with
      | some (v, .mark ',' :: rest') =>
        (readEntries n rest').map fun (entries, rest') =>
          (((splitKey (ts ++ rest)).1, v) :: entries, rest')
      | some (v, .mark '}' :: rest') => some ([((splitKey (ts ++ rest)).1, v)], rest')
      | _ => none := by
  obtain ⟨t, ts, rfl, ht⟩ := h.opened
  rw [List.cons_append, readEntries]
  intro rest' hrest
  exact ht (List.cons.inj hrest).1

theorem readsEntries_cons (h : ReadsEntry ts entry) (h' : ReadsEntries us entries) :
    ReadsEntries (ts ++ .mark ',' :: us) (entry :: entries) := by
  intro n rest hn
  simp only [List.length_append, List.length_cons] at hn
  obtain ⟨vs, hread, hlen, hkey⟩ := h.value
  obtain ⟨n, rfl⟩ := Nat.exists_eq_add_of_lt (show 0 < n by omega)
  rw [List.append_assoc, List.cons_append, Nat.zero_add, readEntries_succ n h, hkey,
    hread n _ (by omega) (.comma _)]
  simp only
  rw [h' n rest (by omega), Option.map_some]

/-- The last element may do without a comma. -/
theorem readsEntries_last (h : ReadsEntry ts entry) : ReadsEntries (ts ++ [.mark '}']) [entry] := by
  intro n rest hn
  simp only [List.length_append, List.length_cons, List.length_nil] at hn
  obtain ⟨vs, hread, hlen, hkey⟩ := h.value
  obtain ⟨n, rfl⟩ := Nat.exists_eq_add_of_lt (show 0 < n by omega)
  rw [List.append_assoc, List.singleton_append, Nat.zero_add, readEntries_succ n h, hkey,
    hread n _ (by omega) (.brace _)]
  rfl

theorem ReadsEntry.keyed (k : String) (h : Reads ts v) :
    ReadsEntry (.name k :: .mark ':' :: ts) (some k, v) where
  value := ⟨ts, h, by simp only [List.length_cons]; omega, fun _ => rfl⟩
  opened := ⟨.name k, _, rfl, by simp⟩

/-- An element without a key that starts with a mark or an integer. -/
theorem ReadsEntry.plain {t : Token} (h : Reads (t :: ts) v) (ht : t ≠ .mark '}') (hn : ∀ k, t ≠ .name k) :
    ReadsEntry (t :: ts) (none, v) where
  value := by
    refine ⟨t :: ts, h, Nat.le_refl _, fun rest => ?_⟩
    rw [List.cons_append]
    unfold splitKey
    split
    · next heq => exact absurd (List.cons.inj heq).1 (hn _)
    · rfl
  opened := ⟨t, ts, rfl, ht⟩

theorem reads_untyped (h : ReadsEntries ts entries) :
    Reads (.mark '{' :: ts) (.composite none entries) := by
  intro n rest hn _
  simp only [List.length_cons] at hn
  obtain ⟨n, rfl⟩ := Nat.exists_eq_add_of_lt (show 0 < n by omega)
  have hread := h n rest (by omega)
  rw [List.cons_append, Nat.zero_add]
  simp only [readValue, hread, Option.map_some]

theorem readValue_succ (n : Nat) {t : Token} (ht : t = .mark '[' ∨ ∃ a, t = .name a) (rest : List Token) :
    readValue (n + 1) (t :: rest) =
      match readType (t :: rest) with
      | some (type, .mark '{' :: rest) =>
        (readEntries n rest).map fun (entries, rest) => (.composite (some type) entries, rest)
      | some (.named path, rest) => some (.symbol path, rest)
      | _ => none := by
  rcases ht with rfl | ⟨a, rfl⟩ <;> rfl

/-- A literal with a type before it. -/
theorem reads_typed (t : Token) (us : List Token) {type : LiteralType} (h : ReadsEntries ts entries)
    (ht : ∀ rest, readType (t :: us ++ .mark '{' :: rest) = some (type, .mark '{' :: rest))
    (hopen : t = .mark '[' ∨ ∃ a, t = .name a) :
    Reads (t :: us ++ .mark '{' :: ts) (.composite (some type) entries) := by
  intro n rest hn _
  simp only [List.cons_append, List.length_append, List.length_cons] at hn
  obtain ⟨n, rfl⟩ := Nat.exists_eq_add_of_lt (show 0 < n by omega)
  have hread := h n rest (by omega)
  have htype := ht (ts ++ rest)
  rw [List.append_assoc, Nat.zero_add, List.cons_append, readValue_succ n hopen]
  rw [List.cons_append] at htype
  simp only [List.cons_append, htype, hread, Option.map_some]

end ShaderBundle.Go
