import Mathlib.Data.List.Nodup
import ShaderBundle.Proofs.Files.Operations

/-!
# Names in a directory

A directory lists its entries in some order. A location has one entry only in every file system, and then no name
is listed twice.

* `Distinct`: trees with one entry for each location; the changes of a tree keep it.
* `mem_children`, `nodup_children`: which names are listed, each of them once.
-/

namespace ShaderBundle.Tree

variable {t : Tree} {k l : Location} {n : String}

/-- No location has two entries. -/
def Distinct (t : Tree) : Prop := (t.entries.map (·.1)).Nodup

instance (t : Tree) : Decidable t.Distinct := inferInstanceAs (Decidable (List.Nodup _))

/-! ## Changes -/

theorem keys_putIn (l : Location) (e : Entry) (es : List (Location × Entry)) :
    (putIn l e es).map (·.1) = if l ∈ es.map (·.1) then es.map (·.1) else es.map (·.1) ++ [l] := by
  induction es with
  | nil => rfl
  | cons x es ih =>
    obtain ⟨k, v⟩ := x
    have hmem : l ∈ ((k, v) :: es).map (·.1) ↔ l = k ∨ l ∈ es.map (·.1) := List.mem_cons
    by_cases hk : k = l
    · rw [putIn, if_pos hk, if_pos (hmem.mpr (.inl hk.symm)), hk]
      rfl
    · rw [putIn, if_neg hk, List.map_cons, ih]
      by_cases hl : l ∈ es.map (·.1)
      · rw [if_pos hl, if_pos (hmem.mpr (.inr hl))]
        rfl
      · rw [if_neg hl, if_neg fun h => (hmem.mp h).elim (Ne.symm hk) hl]
        rfl

theorem Distinct.put (ht : t.Distinct) (l : Location) (e : Entry) : (t.put l e).Distinct := by
  unfold Distinct at ht ⊢
  rw [Tree.put, keys_putIn]
  split
  · exact ht
  · next hl =>
    rw [← List.concat_eq_append]
    exact ht.concat hl

theorem Distinct.filter (ht : t.Distinct) (keep : Location × Entry → Bool) : Distinct ⟨t.entries.filter keep⟩ :=
  ht.sublist (List.filter_sublist.map _)

theorem Distinct.erase (ht : t.Distinct) (l : Location) : (t.erase l).Distinct := ht.filter _

theorem Distinct.eraseBelow (ht : t.Distinct) (l : Location) : (t.eraseBelow l).Distinct := ht.filter _

theorem Distinct.makeDirectory {t' : Tree} {here : Location} {path : String} (ht : t.Distinct)
    (h : t.makeDirectory here path = .ok t') : t'.Distinct := by
  obtain ⟨l, -, -, rfl⟩ := makeDirectory_eq_ok.mp h
  exact ht.put l .directory

/-! ## Listing -/

/-- The name that a location has in a directory, if it is directly below it. -/
def nameIn? (l k : Location) : Option String :=
  if k.length = l.length + 1 ∧ l.isPrefixOf k then k.getLast? else none

theorem nameIn?_eq_some : nameIn? l k = some n ↔ k = l ++ [n] := by
  unfold nameIn?
  constructor
  · intro hk
    split at hk
    · next hbelow =>
      obtain ⟨hlength, hprefix⟩ := hbelow
      obtain ⟨rest, rfl⟩ := List.isPrefixOf_iff_prefix.mp hprefix
      rw [List.length_append, Nat.add_left_cancel_iff] at hlength
      obtain ⟨m, rfl⟩ := List.length_eq_one_iff.mp hlength
      rw [List.getLast?_concat, Option.some.injEq] at hk
      rw [hk]
    · cases hk
  · rintro rfl
    have hbelow : (l ++ [n]).length = l.length + 1 ∧ l.isPrefixOf (l ++ [n]) = true :=
      ⟨List.length_append, List.isPrefixOf_iff_prefix.mpr (List.prefix_append l [n])⟩
    rw [if_pos hbelow, List.getLast?_concat]

theorem children_eq (t : Tree) (l : Location) : t.children l = (t.entries.map (·.1)).filterMap (nameIn? l) := by
  rw [List.filterMap_map]
  rfl

/-- The names listed are those of entries. -/
theorem mem_children : n ∈ t.children l ↔ t.get? (l ++ [n]) ≠ none := by
  have hne : l ++ [n] ≠ [] := by simp
  rw [children_eq, List.mem_filterMap, get?, if_neg hne, Ne, List.lookup_eq_none_iff]
  simp only [nameIn?_eq_some, exists_eq_right, bne_iff_ne, ne_comm, List.mem_map]
  push Not
  rfl

theorem nodup_children (ht : t.Distinct) (l : Location) : (t.children l).Nodup := by
  rw [children_eq]
  refine List.Nodup.filterMap (fun k k' n hk hk' => ?_) ht
  rw [nameIn?_eq_some.mp hk, nameIn?_eq_some.mp hk']

end ShaderBundle.Tree
