import Mathlib
import ShaderBundle.Proofs.Reflection.Acceptance
import ShaderBundle.Proofs.Text.Words

/-!
# Names of uniform members

In the buffer a member's name is put together from the number of its block and the name it has there. A number in
decimal has no dot in it, so the first dot of a name is where the number ends, and both parts can be read off,
whatever dots, digits or signs the second part holds.

* `memberName_inj`: no two pairs of a number and a name are written alike.
* `members_told_apart`: members of an accepted document have one name only where blocks share a number and members of
  theirs a name.
-/

namespace ShaderBundle.Reflection

/-! ## One name -/

theorem dot_not_mem_toString (id : Int) : '.' ∉ (toString id).toList := by
  intro hdot
  rcases Text.mem_toString_int hdot with h | h
  · contradiction
  · contradiction

/-- Where a run without dots is followed by a dot, the first dot ends it. -/
theorem append_dot_inj {as bs cs ds : List Char} (ha : '.' ∉ as) (hb : '.' ∉ bs) :
    as ++ '.' :: cs = bs ++ '.' :: ds ↔ as = bs ∧ cs = ds := by
  constructor
  · intro h
    have hrun {es : List Char} (he : '.' ∉ es) (rest : List Char) :
        (es ++ '.' :: rest).takeWhile (· ≠ '.') = es := by
      apply Text.takeWhile_append_eq
      · intro c hc
        exact decide_eq_true fun e => he (e ▸ hc)
      · intro c hc
        cases hc
        rfl
    have hfirst : as = bs := by rw [← hrun ha cs, h, hrun hb ds]
    subst hfirst
    simpa using h
  · rintro ⟨rfl, rfl⟩
    rfl

theorem toList_memberName (id : Int) (name : String) :
    (memberName id name).toList = '_' :: ((toString id).toList ++ '.' :: name.toList) := by
  have h : memberName id name = "_" ++ toString id ++ "." ++ name := rfl
  rw [h]
  simp

/-- The number of a block and the name of a member can be read off. -/
theorem memberName_inj {id id' : Int} {name name' : String} :
    memberName id name = memberName id' name' ↔ id = id' ∧ name = name' := by
  have hid : toString id = toString id' ↔ id = id' := Int.repr_inj
  rw [← String.toList_inj, toList_memberName, toList_memberName, List.cons.injEq,
    append_dot_inj (dot_not_mem_toString id) (dot_not_mem_toString id'), String.toList_inj, String.toList_inj, hid]
  simp

/-! ## All names of a buffer -/

/-- Each member's entry beside that of the block it stands in, in the order of the document. -/
def memberPlaces (blocks : List Fields) : List (Fields × Fields) :=
  blocks.flatMap fun b => (entriesAt b "members").map (b, ·)

/-- What an entry is called in the buffer. -/
def placeName (p : Fields × Fields) : String := memberName (integerAt p.1 "id") (textAt p.2 "name")

/-- The member is what the entry gives in a block that starts somewhere. -/
def ComesFrom (m : UniformMember) (p : Fields × Fields) : Prop :=
  ∃ start, m = memberAt (integerAt p.1 "id") start p.2

theorem ComesFrom.name_eq {m : UniformMember} {p : Fields × Fields} (h : ComesFrom m p) : m.name = placeName p := by
  obtain ⟨start, rfl⟩ := h
  rfl

theorem membersAt_come (start : Int) (b : Fields) :
    List.Forall₂ ComesFrom (membersAt start b) ((entriesAt b "members").map (b, ·)) := by
  rw [membersAt, List.forall₂_map_left_iff, List.forall₂_map_right_iff, List.forall₂_same]
  intro e _
  exact ⟨start, rfl⟩

/-- The members of a buffer come from the entries one by one, wherever the blocks start. -/
theorem members_come (start : Fields × Nat → Int) (blocks : List Fields) (first : Nat) :
    List.Forall₂ ComesFrom ((blocks.zipIdx first).flatMap fun b => membersAt (start b) b.1) (memberPlaces blocks) := by
  induction blocks generalizing first with
  | nil => exact .nil
  | cons b blocks ih => exact List.rel_append (membersAt_come (start (b, first)) b) (ih (first + 1))

theorem map_name_of_come {members : List UniformMember} {places : List (Fields × Fields)}
    (h : List.Forall₂ ComesFrom members places) : members.map (·.name) = places.map placeName := by
  induction h with
  | nil => rfl
  | cons hm _ ih => rw [List.map_cons, List.map_cons, hm.name_eq, ih]

theorem nodup_placeNames {blocks : List Fields} (hids : (blocks.map (integerAt · "id")).Nodup)
    (hnames : ∀ b ∈ blocks, ((entriesAt b "members").map (textAt · "name")).Nodup) :
    ((memberPlaces blocks).map placeName).Nodup := by
  have hblocks : (memberPlaces blocks).map placeName = blocks.flatMap fun b =>
      (entriesAt b "members").map fun e => memberName (integerAt b "id") (textAt e "name") := by
    rw [memberPlaces, List.map_flatMap]
    simp only [List.map_map]
    rfl
  rw [hblocks, List.nodup_flatMap]
  constructor
  · intro b hb
    have hlocal := hnames b hb
    rw [List.Nodup, List.pairwise_map] at hlocal ⊢
    exact hlocal.imp fun hne heq => hne (memberName_inj.mp heq).2
  · rw [List.Nodup, List.pairwise_map] at hids
    refine hids.imp fun {a b} hne => ?_
    -- a name in both blocks would give them one number
    intro name ha hb
    obtain ⟨e, -, rfl⟩ := List.mem_map.mp ha
    obtain ⟨f, -, hf⟩ := List.mem_map.mp hb
    exact hne (memberName_inj.mp hf).1.symm

/-- The members of an accepted document come from the entries of its blocks, one by one. Two of them have one name if
and only if their blocks have one number and their entries one name. So if no two blocks share a number, and no two
members of a block a name, then all names are distinct. -/
theorem members_told_apart {source : Source} {r : Reflection} (h : read source = .ok r) :
    ∃ doc, source.read = .ok doc ∧
      let blocks := chosenAt doc "uniform_buffers"
      let places := memberPlaces blocks
      List.Forall₂ ComesFrom r.uniforms.members places ∧
      (∀ m p n q, (m, p) ∈ r.uniforms.members.zip places → (n, q) ∈ r.uniforms.members.zip places →
        (m.name = n.name ↔
          integerAt p.1 "id" = integerAt q.1 "id" ∧ textAt p.2 "name" = textAt q.2 "name")) ∧
      ((blocks.map (integerAt · "id")).Nodup →
        (∀ b ∈ blocks, ((entriesAt b "members").map (textAt · "name")).Nodup) →
        (r.uniforms.members.map (·.name)).Nodup) := by
  obtain ⟨doc, hs, -, rfl⟩ := read_eq_ok h
  have hcome : List.Forall₂ ComesFrom (described doc).uniforms.members
      (memberPlaces (chosenAt doc "uniform_buffers")) :=
    members_come (fun b => sizeOfFirst b.2 (chosenAt doc "uniform_buffers")) _ 0
  refine ⟨doc, hs, hcome, fun m p n q hm hn => ?_, fun hids hnames => ?_⟩
  · have hmp : ComesFrom m p := (List.forall₂_iff_zip.mp hcome).2 hm
    have hnq : ComesFrom n q := (List.forall₂_iff_zip.mp hcome).2 hn
    rw [hmp.name_eq, hnq.name_eq]
    exact memberName_inj
  · rw [map_name_of_come hcome]
    exact nodup_placeNames hids hnames

/-! Members whose own names look like those of other blocks: a sign, digits and dots. -/

def lookalikes : Source :=
  .text ("\x7b\"vs\":\x7b\"uniform_buffers\":[" ++
    "\x7b\"id\":-1,\"members\":[\x7b\"type\":\"int\",\"name\":\"1.x\"\x7d,\x7b\"type\":\"int\",\"name\":\"x\"\x7d]\x7d," ++
    "\x7b\"id\":1,\"members\":[\x7b\"type\":\"int\",\"name\":\"x\"\x7d,\x7b\"type\":\"int\",\"name\":\"-1.x\"\x7d]\x7d," ++
    "\x7b\"members\":[\x7b\"type\":\"int\",\"name\":\"_1.x\"\x7d,\x7b\"type\":\"int\"\x7d]\x7d]\x7d\x7d")

theorem read_lookalikes : lookalikes.read = .ok (.object [("vs", .object [("uniform_buffers", .list
    [.object [("id", .integer (-1)), ("members", .list
      [.object [("type", .text "int"), ("name", .text "1.x")], .object [("type", .text "int"), ("name", .text "x")]])],
     .object [("id", .integer 1), ("members", .list
      [.object [("type", .text "int"), ("name", .text "x")], .object [("type", .text "int"), ("name", .text "-1.x")]])],
     .object [("members", .list
      [.object [("type", .text "int"), ("name", .text "_1.x")], .object [("type", .text "int")]])]])])]) :=
  read_of_same (by decide +kernel)

theorem members_lookalikes : ∃ r, read lookalikes = .ok r ∧ (r.uniforms.members.map (·.name)).Nodup ∧
    r.uniforms.members.map (·.name) = ["_-1.1.x", "_-1.x", "_1.x", "_1.-1.x", "_0._1.x", "_0."] := by
  obtain ⟨r, h⟩ : ∃ r, read lookalikes = .ok r := by
    rw [read_of_ok read_lookalikes]
    exact exists_of_toBool (by decide +kernel)
  obtain ⟨doc, hs, hcome, -, hnodup⟩ := members_told_apart h
  cases read_lookalikes.symm.trans hs
  refine ⟨r, h, hnodup (by decide +kernel) (by decide +kernel), ?_⟩
  rw [map_name_of_come hcome]
  decide +kernel

end ShaderBundle.Reflection
