/-!
# Occurrences of a text in a text

Finding, cutting, replacing and splitting at the occurrences of one text in another, always taken
from the left and never overlapping.
-/

namespace ShaderBundle.Text

/-- What stands before and after the first occurrence of `needle`. -/
def cut (needle : List Char) : List Char → Option (List Char × List Char)
  | [] => if needle.isEmpty then some ([], []) else none
  | c :: rest =>
    if needle.isPrefixOf (c :: rest) then some ([], (c :: rest).drop needle.length)
    else (cut needle rest).map fun (before, after) => (c :: before, after)

/-- The parts around the first occurrence make up the text again. -/
theorem append_of_cut {needle cs before after : List Char} (h : cut needle cs = some (before, after)) :
    before ++ needle ++ after = cs := by
  induction cs generalizing before with
  | nil => simp [cut] at h; simp [h]
  | cons c rest ih =>
    rw [cut] at h
    split at h
    · next hp =>
      obtain ⟨tail, ht⟩ := List.isPrefixOf_iff_prefix.mp hp
      simp only [Option.some.injEq, Prod.mk.injEq] at h
      rw [← h.1, ← h.2, ← ht]; simp
    · obtain ⟨⟨b, a⟩, hc, he⟩ := Option.map_eq_some_iff.mp h
      simp only [Prod.mk.injEq] at he
      obtain ⟨rfl, rfl⟩ := he
      simpa using ih hc

def contains (needle text : List Char) : Bool := (cut needle text).isSome

/-- Replaces the first occurrence only. -/
def replaceFirst (needle new text : List Char) : List Char :=
  match cut needle text with
  | some (before, after) => before ++ new ++ after
  | none => text

/-- Replaces up to `limit` occurrences of a needle that is not empty; `skip` characters of an
occurrence already replaced are still to be passed over. -/
def replaceFrom (needle new : List Char) (limit skip : Nat) : List Char → List Char
  | [] => []
  | c :: rest =>
    if skip > 0 then replaceFrom needle new limit (skip - 1) rest
    else if limit > 0 && needle.isPrefixOf (c :: rest) then
      new ++ replaceFrom needle new (limit - 1) (needle.length - 1) rest
    else c :: replaceFrom needle new limit 0 rest

/-- Puts `new` before each of the first `limit` characters, and at the end while the limit lasts. -/
def interleave (new : List Char) (limit : Nat) : List Char → List Char
  | [] => if limit > 0 then new else []
  | c :: rest => if limit > 0 then new ++ c :: interleave new (limit - 1) rest else c :: rest

/-- Replaces up to `limit` occurrences, all of them without a limit. The empty text occurs before
every character and at the end. -/
def replace (needle new : List Char) (limit : Option Nat) (text : List Char) : List Char :=
  let most := limit.getD (text.length + 1)
  if needle.isEmpty then interleave new most text else replaceFrom needle new most 0 text

/-- Counts the occurrences of a needle that is not empty. -/
def countFrom (needle : List Char) (skip : Nat) : List Char → Nat
  | [] => 0
  | c :: rest =>
    if skip > 0 then countFrom needle (skip - 1) rest
    else if needle.isPrefixOf (c :: rest) then countFrom needle (needle.length - 1) rest + 1
    else countFrom needle 0 rest

def count (needle text : List Char) : Nat :=
  if needle.isEmpty then text.length + 1 else countFrom needle 0 text

/-- Splits at one character: always one part more than the character occurs. -/
def splitAt (separator : Char) : List Char → List (List Char)
  | [] => [[]]
  | c :: rest =>
    if c = separator then [] :: splitAt separator rest
    else
      match splitAt separator rest with
      | [] => [[c]]
      | part :: parts => (c :: part) :: parts

def splitOn (separator : Char) (s : String) : List String :=
  (splitAt separator s.toList).map String.ofList

/-- Turns each CR LF and each lone CR into LF. -/
def unifyNewlines : List Char → List Char
  | [] => []
  | '\r' :: '\n' :: rest => '\n' :: unifyNewlines rest
  | '\r' :: rest => '\n' :: unifyNewlines rest
  | c :: rest => c :: unifyNewlines rest

end ShaderBundle.Text
