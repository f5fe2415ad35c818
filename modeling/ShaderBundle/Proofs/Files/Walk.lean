import ShaderBundle.Files.Path
import ShaderBundle.Files.Tree

/-!
# Walks along paths

Where paths lead. A walk asks only which locations on its way are directories, so it leads to the same place in
every tree that has these directories. Reading a path as text and writing it again does not change where it
leads, as what is left out of it are empty names and single dots.

* `walk_mono`: a walk that succeeds does so in a tree with more directories.
* `locate_text`: a path leads where its parts lead.
* `walk_parts_of_locate`: the parts of a text lead where the text leads.
-/

namespace ShaderBundle

/-! ## Splitting -/

namespace Text

theorem splitAt_ne_nil (c : Char) (cs : List Char) : splitAt c cs ≠ [] := by
  cases cs with
  | nil => simp [splitAt]
  | cons a as =>
    rw [splitAt]
    split
    · simp
    · split <;> simp

theorem splitAt_append (c : Char) (as bs : List Char) :
    splitAt c (as ++ c :: bs) = splitAt c as ++ splitAt c bs := by
  induction as with
  | nil => simp [splitAt]
  | cons a as ih =>
    rw [List.cons_append, splitAt, splitAt, ih]
    split
    · rfl
    · obtain ⟨part, parts, hs⟩ := List.exists_cons_of_ne_nil (splitAt_ne_nil c as)
      rw [hs]
      rfl

theorem splitAt_of_not_mem {c : Char} {cs : List Char} (h : c ∉ cs) : splitAt c cs = [cs] := by
  induction cs with
  | nil => rfl
  | cons a as ih =>
    have ha : a ≠ c := fun e => h (e ▸ List.mem_cons_self)
    rw [splitAt, if_neg ha, ih fun hm => h (List.mem_cons_of_mem a hm)]

theorem not_mem_of_mem_splitAt {c : Char} {cs part : List Char} (h : part ∈ splitAt c cs) : c ∉ part := by
  induction cs generalizing part with
  | nil =>
    rw [splitAt, List.mem_singleton] at h
    rw [h]
    exact List.not_mem_nil
  | cons a as ih =>
    rw [splitAt] at h
    split at h
    · rcases List.mem_cons.mp h with rfl | h
      · exact List.not_mem_nil
      · exact ih h
    · next ha =>
      cases hs : splitAt c as with
      | nil =>
        rw [hs, List.mem_singleton] at h
        subst h
        simpa using Ne.symm ha
      | cons p ps =>
        rw [hs] at h ih
        rcases List.mem_cons.mp h with rfl | h
        · simpa [Ne.symm ha] using ih List.mem_cons_self
        · exact ih (List.mem_cons_of_mem p h)

/-- Parts without the separator are what their text is split into. -/
theorem splitOn_intercalate_slash : ∀ {parts : List String}, parts ≠ [] → (∀ n ∈ parts, '/' ∉ n.toList) →
    splitOn '/' ("/".intercalate parts) = parts
  | [n], _, h => by
    have hn := splitAt_of_not_mem (h n List.mem_cons_self)
    simp [splitOn, hn]
  | n :: m :: parts, _, h => by
    have hn := splitAt_of_not_mem (h n List.mem_cons_self)
    have ih := splitOn_intercalate_slash (List.cons_ne_nil m parts) fun k hk => h k (List.mem_cons_of_mem n hk)
    rw [splitOn] at ih ⊢
    rw [String.intercalate_cons_cons, String.toList_append, String.toList_append, List.append_assoc]
    have hslash : "/".toList ++ ("/".intercalate (m :: parts)).toList =
        '/' :: ("/".intercalate (m :: parts)).toList := rfl
    rw [hslash, splitAt_append, List.map_append, ih, hn]
    simp

theorem splitAt_replicate (c : Char) (n : Nat) (cs : List Char) :
    splitAt c (List.replicate n c ++ cs) = List.replicate n [] ++ splitAt c cs := by
  induction n with
  | zero => rfl
  | succ n ih =>
    rw [List.replicate_succ, List.cons_append, splitAt, if_pos rfl, ih, List.replicate_succ, List.cons_append]

end Text

/-! ## Names -/

/-- A name that an entry of a directory can have. -/
structure IsName (n : String) : Prop where
  isPart : Path.isPart n = true
  not_up : n ≠ ".."
  no_slash : '/' ∉ n.toList

namespace Path

/-- A path whose parts are such as are read from a text. -/
def Proper (p : Path) : Prop := ∀ n ∈ p.parts, Path.isPart n = true ∧ '/' ∉ n.toList

theorem proper_ofText (s : String) : (ofText s).Proper := by
  intro n hn
  obtain ⟨hsplit, hpart⟩ := List.mem_filter.mp hn
  obtain ⟨cs, hcs, rfl⟩ := List.mem_map.mp hsplit
  refine ⟨hpart, ?_⟩
  rw [String.toList_ofList]
  exact Text.not_mem_of_mem_splitAt hcs

theorem Proper.child {p : Path} (hp : p.Proper) {n : String} (hn : IsName n) : (p.child n).Proper := by
  intro m hm
  rcases List.mem_append.mp hm with hm | hm
  · exact hp m hm
  · rw [List.mem_singleton.mp hm]
    exact ⟨hn.isPart, hn.no_slash⟩

/-- Where a path starts. -/
def start (p : Path) (here : Location) : Location := if p.root = 0 then here else []

end Path

/-! ## Walks -/

theorem bind_eq_ok {ε α β : Type} {x : Except ε α} {f : α → Except ε β} {b : β} :
    (x >>= f) = .ok b ↔ ∃ a, x = .ok a ∧ f a = .ok b := by
  cases x with
  | error e => simp [bind, Except.bind]
  | ok a => simp [bind, Except.bind]

theorem mapError_eq_ok {ε ε' α : Type} {x : Except ε α} {f : ε → ε'} {a : α} : x.mapError f = .ok a ↔ x = .ok a := by
  cases x with
  | error e =>
    constructor
    · rintro ⟨⟩
    · rintro ⟨⟩
  | ok a =>
    constructor
    · rintro ⟨⟩
      rfl
    · rintro ⟨⟩
      rfl

namespace Tree

variable {t t' : Tree} {here l k : Location} {names : List String} {n : String}

theorem step_eq_ok : step t l n = .ok k ↔ t.get? l = some .directory ∧
    k = if n = "" ∨ n = "." then l else if n = ".." then l.dropLast else l ++ [n] := by
  unfold step needDirectory
  cases t.get? l with
  | none => simp [bind, Except.bind]
  | some e =>
    cases e with
    | file => simp [bind, Except.bind]
    | directory => simp [bind, Except.bind, pure, Except.pure, eq_comm]

theorem step_name (hl : t.get? l = some .directory) (hn : IsName n) : step t l n = .ok (l ++ [n]) := by
  have hpart := hn.isPart
  simp only [Path.isPart, Bool.and_eq_true, bne_iff_ne] at hpart
  rw [step_eq_ok]
  exact ⟨hl, by rw [if_neg (by simp [hpart]), if_neg hn.not_up]⟩

theorem walk_cons_eq_ok {name : String} :
    walk t l (name :: names) = .ok k ↔ ∃ m, step t l name = .ok m ∧ walk t m names = .ok k := by
  rw [walk, bind_eq_ok]

theorem walk_append {ms : List String} :
    walk t l (names ++ ms) = .ok k ↔ ∃ m, walk t l names = .ok m ∧ walk t m ms = .ok k := by
  induction names generalizing l with
  | nil => simp [walk]
  | cons name names ih =>
    rw [List.cons_append, walk_cons_eq_ok]
    constructor
    · rintro ⟨a, hstep, hwalk⟩
      obtain ⟨m, hm, hk⟩ := ih.mp hwalk
      exact ⟨m, walk_cons_eq_ok.mpr ⟨a, hstep, hm⟩, hk⟩
    · rintro ⟨m, hm, hk⟩
      obtain ⟨a, hstep, hwalk⟩ := walk_cons_eq_ok.mp hm
      exact ⟨a, hstep, ih.mpr ⟨m, hwalk, hk⟩⟩

/-- A walk that succeeds does so in a tree with more directories. -/
theorem walk_mono (h : ∀ l, t.get? l = some .directory → t'.get? l = some .directory) :
    ∀ {names : List String} {l : Location}, walk t l names = .ok k → walk t' l names = .ok k
  | [], _, hw => hw
  | name :: names, l, hw => by
    obtain ⟨m, hstep, hwalk⟩ := walk_cons_eq_ok.mp hw
    obtain ⟨hl, hm⟩ := step_eq_ok.mp hstep
    exact walk_cons_eq_ok.mpr ⟨m, step_eq_ok.mpr ⟨h l hl, hm⟩, walk_mono h hwalk⟩

theorem locate_mono (h : ∀ l, t.get? l = some .directory → t'.get? l = some .directory) {path : String}
    (hl : locate t here path = .ok k) : locate t' here path = .ok k := by
  unfold locate at hl ⊢
  split at hl
  · cases hl
  · exact walk_mono h hl
  · exact walk_mono h hl

/-- Empty names and single dots lead nowhere. -/
theorem walk_filter : ∀ {names : List String} {l : Location}, walk t l names = .ok k →
    walk t l (names.filter Path.isPart) = .ok k
  | [], _, hw => hw
  | name :: names, l, hw => by
    obtain ⟨m, hstep, hwalk⟩ := walk_cons_eq_ok.mp hw
    cases hpart : Path.isPart name with
    | true =>
      rw [List.filter_cons_of_pos hpart]
      exact walk_cons_eq_ok.mpr ⟨m, hstep, walk_filter hwalk⟩
    | false =>
      have hskip : name = "" ∨ name = "." := by
        simp only [Path.isPart, Bool.and_eq_false_iff, bne_eq_false_iff_eq] at hpart
        exact hpart
      rw [List.filter_cons_of_neg (by simp [hpart])]
      obtain ⟨-, hm⟩ := step_eq_ok.mp hstep
      rw [if_pos hskip] at hm
      exact hm ▸ walk_filter hwalk

theorem walk_root (names : List String) (m : Nat) : walk t [] (List.replicate m "" ++ names) = walk t [] names := by
  induction m with
  | zero => rfl
  | succ m ih =>
    rw [List.replicate_succ, List.cons_append, walk]
    exact ih

/-! ## Paths -/

theorem splitOn_text {p : Path} (hp : p.Proper) (hne : p.parts ≠ []) :
    Text.splitOn '/' p.text = List.replicate p.root "" ++ p.parts := by
  have hparts : Text.splitOn '/' ("/".intercalate p.parts) = p.parts :=
    Text.splitOn_intercalate_slash hne fun n hn => (hp n hn).2
  have htext : p.text = String.ofList (List.replicate p.root '/') ++ "/".intercalate p.parts :=
    if_neg fun h => hne h.2
  rw [Text.splitOn] at hparts ⊢
  rw [htext, String.toList_append, String.toList_ofList, Text.splitAt_replicate, List.map_append, hparts,
    List.map_replicate]

/-- A path leads where its parts lead. -/
theorem locate_text {p : Path} (hp : p.Proper) (hne : p.parts ≠ []) :
    locate t here p.text = walk t (p.start here) p.parts := by
  obtain ⟨n, ns, hparts⟩ := List.exists_cons_of_ne_nil hne
  have hn : n ≠ "" := by
    rintro rfl
    exact absurd (hp "" (by simp [hparts])).1 (by decide)
  rw [locate, splitOn_text hp hne, Path.start]
  cases hroot : p.root with
  | zero =>
    rw [List.replicate_zero, List.nil_append, hparts, if_pos rfl]
    split
    · next heq => exact absurd (List.cons.inj heq).1 hn
    · next heq => exact absurd (List.cons.inj heq).1 hn
    · rfl
  | succ m =>
    rw [List.replicate_succ, List.cons_append, if_neg (Nat.succ_ne_zero m)]
    split
    · next heq => simp [hparts] at heq
    · next heq =>
      rw [← (List.cons.inj heq).2]
      exact walk_root p.parts m
    · next h => exact absurd rfl (h _)

theorem root_ofText_eq_zero {s : String} : (Path.ofText s).root = 0 ↔ s.toList.head? ≠ some '/' := by
  have hroot (m : Nat) : Path.rootOf m = 0 ↔ m = 0 := by
    unfold Path.rootOf
    split <;> omega
  rw [Path.ofText, hroot]
  cases s.toList with
  | nil => simp
  | cons c cs => by_cases hc : c = '/' <;> simp [hc]

/-- The parts of a text lead where the text leads, from a directory. -/
theorem walk_parts_of_locate {s : String} (h : locate t here s = .ok k) :
    t.get? ((Path.ofText s).start here) = some .directory ∧
      walk t ((Path.ofText s).start here) (Path.ofText s).parts = .ok k := by
  have hstart : (Path.ofText s).start here = if s.toList.head? = some '/' then [] else here := by
    simp only [Path.start, root_ofText_eq_zero, ite_not]
  have hparts : (Path.ofText s).parts = (Text.splitOn '/' s).filter Path.isPart := rfl
  rw [hstart, hparts]
  unfold locate at h
  unfold Text.splitOn at h ⊢
  cases hs : s.toList with
  | nil =>
    rw [hs] at h
    cases h
  | cons c cs =>
    obtain ⟨part, parts, hsplit⟩ := List.exists_cons_of_ne_nil (Text.splitAt_ne_nil '/' cs)
    rw [hs] at h
    by_cases hc : c = '/'
    · subst hc
      rw [Text.splitAt, if_pos rfl, hsplit] at h ⊢
      rw [List.head?_cons, if_pos rfl, List.map_cons, List.filter_cons_of_neg (by decide)]
      exact ⟨rfl, walk_filter h⟩
    · rw [List.head?_cons, if_neg (by simpa using hc)]
      rw [Text.splitAt, if_neg hc, hsplit] at h ⊢
      have hpart : String.ofList (c :: part) ≠ "" := fun he => by
        have := congrArg String.toList he
        rw [String.toList_ofList] at this
        cases this
      simp only [List.map_cons] at h ⊢
      split at h
      · next heq => exact absurd (List.cons.inj heq).1 hpart
      · next heq => exact absurd (List.cons.inj heq).1 hpart
      · obtain ⟨m, hstep, -⟩ := walk_cons_eq_ok.mp h
        exact ⟨(step_eq_ok.mp hstep).1, walk_filter h⟩

end Tree

end ShaderBundle
