import ShaderBundle.Proofs.Reflection.Acceptance

/-!
# The buffer of an accepted document

Where the members of the blocks lie. A member's offset counts from its block, and its block starts where all blocks
before it end, whatever their sizes are: a size may be negative, and then a block starts before the one in front of it.

* `uniforms_laid_out`: the blocks, the members and the size of the buffer, read off the document.
* `members_behind`: when no member lies before its block, and no block before those in front of it.
-/

namespace ShaderBundle.Reflection

theorem sizeOfFirst_length (blocks : List Fields) :
    sizeOfFirst blocks.length blocks = (blocks.map (integerAt · "block_size")).sum := by
  rw [sizeOfFirst, List.take_length]

/-- The buffer of an accepted document, from the blocks that are chosen: each gives its name and binding, and one
member for each of its members, placed behind the sizes of the blocks before. The type of each member is spelled as
its kind and its number of components are. -/
theorem uniforms_laid_out {source : Source} {r : Reflection} (h : read source = .ok r) :
    ∃ doc, source.read = .ok doc ∧
      let blocks := chosenAt doc "uniform_buffers"
      r.uniforms.blocks = (blocks.map fun b => ⟨textAt b "name", integerAt b "binding"⟩) ∧
      r.uniforms.members = (blocks.zipIdx.flatMap fun b => (entriesAt b.1 "members").map fun e =>
        ⟨"_" ++ toString (integerAt b.1 "id") ++ "." ++ textAt e "name", (kindAt e).1, (kindAt e).2,
          ((blocks.take b.2).map (integerAt · "block_size")).sum + integerAt e "offset"⟩) ∧
      r.uniforms.size = (blocks.map (integerAt · "block_size")).sum ∧
      (∀ b ∈ blocks, ∀ e ∈ entriesAt b "members", ∃ count ∈ [1, 2, 3, 4],
        (kindAt e).2 = count ∧ e.lookup "type" = some (.text ((kindAt e).1.spelling count))) ∧
      (r.uniforms.blocks = [] → r.uniforms.members = [] ∧ r.uniforms.size = 0) := by
  obtain ⟨doc, hs, hdoc, rfl⟩ := read_eq_ok h
  refine ⟨doc, hs, rfl, rfl, sizeOfFirst_length _, fun b hb e he => ?_, fun hnone => ?_⟩
  · exact ((hdoc.block b hb).member e he).typed.spelled
  · have hblocks : chosenAt doc "uniform_buffers" = [] := List.map_eq_nil_iff.mp hnone
    rw [described, hblocks]
    exact ⟨rfl, rfl⟩

/-! A block of a negative size in front of one without a size. -/

def shrunkSource : Source :=
  .text ("\x7b\"fs\":\x7b\"uniform_buffers\":[\x7b\"block_size\":-16\x7d," ++
    "\x7b\"id\":-7,\"members\":[\x7b\"type\":\"int2\",\"name\":\"x\"\x7d]\x7d]\x7d\x7d")

theorem uniforms_shrunk : ∃ r, read shrunkSource = .ok r ∧ r.uniforms.blocks = [⟨"", 0⟩, ⟨"", 0⟩] ∧
    r.uniforms.members = [⟨"_-7.x", .int, 2, -16⟩] ∧ r.uniforms.size = -16 := by
  obtain ⟨r, h⟩ := exists_of_toBool (r := read shrunkSource) (by decide +kernel)
  have hlayout : shrunkSource.read.toOption.map (fun doc => layoutOf (chosenAt doc "uniform_buffers")) =
      some ⟨[⟨"", 0⟩, ⟨"", 0⟩], [⟨"_-7.x", .int, 2, -16⟩], -16⟩ := by decide +kernel
  obtain ⟨doc, hs, hblocks, hmembers, hsize, -⟩ := uniforms_laid_out h
  rw [hs] at hlayout
  have hchosen := Option.some.inj hlayout
  refine ⟨r, h, hblocks.trans (congrArg UniformLayout.blocks hchosen),
    hmembers.trans (congrArg UniformLayout.members hchosen), ?_⟩
  rw [hsize, ← sizeOfFirst_length]
  exact congrArg UniformLayout.size hchosen

/-! ## Blocks that start where others end -/

theorem sizeOfFirst_step {k : Nat} {blocks : List Fields} {b : Fields} (h : blocks[k]? = some b) :
    sizeOfFirst (k + 1) blocks = sizeOfFirst k blocks + integerAt b "block_size" := by
  rw [sizeOfFirst, List.take_add_one, h]
  simp [sizeOfFirst]

/-- No block has a negative size. -/
def SizesCount (blocks : List Fields) : Prop := ∀ b ∈ blocks, 0 ≤ integerAt b "block_size"

/-- No member has a negative offset in its block. -/
def OffsetsCount (blocks : List Fields) : Prop := ∀ b ∈ blocks, ∀ e ∈ entriesAt b "members", 0 ≤ integerAt e "offset"

theorem sizes_grow {blocks : List Fields} :
    (∀ j k, j ≤ k → sizeOfFirst j blocks ≤ sizeOfFirst k blocks) ↔ SizesCount blocks := by
  constructor
  · intro h b hb
    obtain ⟨k, hk⟩ := List.getElem?_of_mem hb
    have hgrow := h k (k + 1) (Nat.le_succ k)
    rw [sizeOfFirst_step hk] at hgrow
    omega
  · intro h j k hjk
    induction hjk with
    | refl => exact Int.le_refl _
    | @step k _ ih =>
      refine Int.le_trans ih ?_
      cases hk : blocks[k]? with
      | some b =>
        have hsize := h b (List.mem_of_getElem? hk)
        rw [sizeOfFirst_step hk]
        omega
      | none =>
        have hlength : blocks.length ≤ k := List.getElem?_eq_none_iff.mp hk
        have hsame : sizeOfFirst k blocks = sizeOfFirst (k + 1) blocks := by
          rw [sizeOfFirst, sizeOfFirst, List.take_of_length_le hlength,
            List.take_of_length_le (Nat.le_succ_of_le hlength)]
        exact Int.le_of_eq hsame

/-- The members of the block in each place lie behind the blocks before it. -/
theorem members_follow {blocks : List Fields} :
    (∀ k b, blocks[k]? = some b → ∀ m ∈ membersAt (sizeOfFirst k blocks) b, sizeOfFirst k blocks ≤ m.offset) ↔
      OffsetsCount blocks := by
  have hoffset (start : Int) (b : Fields) : (∀ m ∈ membersAt start b, start ≤ m.offset) ↔
      ∀ e ∈ entriesAt b "members", 0 ≤ integerAt e "offset" := by
    rw [membersAt, List.forall_mem_map]
    refine forall₂_congr fun e _ => ?_
    change start ≤ start + integerAt e "offset" ↔ _
    omega
  simp only [hoffset]
  constructor
  · intro h b hb
    obtain ⟨k, hk⟩ := List.getElem?_of_mem hb
    exact h k b hk
  · exact fun h k b hk => h b (List.mem_of_getElem? hk)

/-- The members of an accepted document lie behind all blocks before their own if and only if none has a negative
offset, and the sums of the blocks' sizes never decrease if and only if none of the sizes is negative. Where neither is,
the buffer has no negative size, and no member reaches into a block before its own. -/
theorem members_behind {source : Source} {r : Reflection} (h : read source = .ok r) :
    ∃ doc, source.read = .ok doc ∧
      let blocks := chosenAt doc "uniform_buffers"
      r.uniforms.members = (blocks.zipIdx.flatMap fun b => membersAt (sizeOfFirst b.2 blocks) b.1) ∧
      ((∀ k b, blocks[k]? = some b → ∀ m ∈ membersAt (sizeOfFirst k blocks) b, sizeOfFirst k blocks ≤ m.offset) ↔
        OffsetsCount blocks) ∧
      ((∀ j k, j ≤ k → sizeOfFirst j blocks ≤ sizeOfFirst k blocks) ↔ SizesCount blocks) ∧
      (OffsetsCount blocks → SizesCount blocks → 0 ≤ r.uniforms.size ∧
        ∀ j k b, j < k → blocks[k]? = some b → ∀ m ∈ membersAt (sizeOfFirst k blocks) b,
          sizeOfFirst (j + 1) blocks ≤ m.offset) := by
  obtain ⟨doc, hs, -, rfl⟩ := read_eq_ok h
  refine ⟨doc, hs, rfl, members_follow, sizes_grow, fun hoffsets hsizes => ⟨?_, fun j k b hjk hk m hm => ?_⟩⟩
  · exact sizes_grow.mpr hsizes 0 _ (Nat.zero_le _)
  · exact Int.le_trans (sizes_grow.mpr hsizes (j + 1) k hjk) (members_follow.mpr hoffsets k b hk m hm)

/-! A member with a negative offset, in a block with a negative size: it lies in the block before its own, and the
buffer ends before it starts. -/

def receding : Source :=
  .text ("\x7b\"fs\":\x7b\"uniform_buffers\":[\x7b\"block_size\":16\x7d,\x7b\"id\":2,\"block_size\":-32," ++
    "\"members\":[\x7b\"type\":\"int\",\"name\":\"x\",\"offset\":-4\x7d]\x7d]\x7d\x7d")

theorem read_receding : receding.read = .ok (.object [("fs", .object [("uniform_buffers",
    .list [.object [("block_size", .integer 16)], .object [("id", .integer 2), ("block_size", .integer (-32)),
      ("members", .list [.object [("type", .text "int"), ("name", .text "x"), ("offset", .integer (-4))]])]])])]) :=
  read_of_same (by decide +kernel)

theorem members_receding : ∃ r doc, read receding = .ok r ∧ receding.read = .ok doc ∧
    r.uniforms.members = [⟨"_2.x", .int, 1, 12⟩] ∧ r.uniforms.size = -16 ∧
    ¬OffsetsCount (chosenAt doc "uniform_buffers") ∧ ¬SizesCount (chosenAt doc "uniform_buffers") := by
  obtain ⟨r, h⟩ := exists_of_toBool (r := read receding) (by decide +kernel)
  have hsize : (read receding).toOption.map (·.uniforms.size) = some (-16) := by decide +kernel
  rw [h] at hsize
  obtain ⟨doc, hs, hmembers, -⟩ := members_behind h
  cases read_receding.symm.trans hs
  refine ⟨r, _, h, read_receding, hmembers.trans (by decide +kernel), Option.some.inj hsize, ?_, ?_⟩
  · unfold OffsetsCount
    decide +kernel
  · unfold SizesCount
    decide +kernel

end ShaderBundle.Reflection
