import ShaderBundle.Proofs.Reflection.Acceptance

/-!
# Inputs in order of location

The inputs of a reflection are a stable sort of what the document lists: each entry gives one input, locations do not
decrease, and the inputs of one location stand in the order of their entries.

* `filter_byLocation`: sorting leaves the inputs of one location in their order.
* `inputs_sorted`: what the inputs of an accepted document are.
-/

namespace ShaderBundle.Reflection

/-! ## Sorting -/

theorem perm_byLocation (inputs : List VertexInput) : (byLocation inputs).Perm inputs :=
  List.mergeSort_perm inputs _

theorem location_trans (i j k : VertexInput) (hij : decide (i.location ≤ j.location) = true)
    (hjk : decide (j.location ≤ k.location) = true) : decide (i.location ≤ k.location) = true :=
  decide_eq_true (Int.le_trans (of_decide_eq_true hij) (of_decide_eq_true hjk))

theorem location_total (i j : VertexInput) :
    (decide (i.location ≤ j.location) || decide (j.location ≤ i.location)) = true := by
  rw [Bool.or_eq_true, decide_eq_true_eq, decide_eq_true_eq]
  exact Int.le_total i.location j.location

theorem sorted_byLocation (inputs : List VertexInput) :
    (byLocation inputs).Pairwise fun i j => i.location ≤ j.location :=
  (List.pairwise_mergeSort location_trans location_total inputs).imp of_decide_eq_true

/-- A sorted part of a list is still a part of it when it is sorted, so the inputs of one location are. There are as
many of them as before, so they are all. -/
theorem filter_byLocation (inputs : List VertexInput) (location : Int) :
    (byLocation inputs).filter (·.location = location) = inputs.filter (·.location = location) := by
  have hsorted : (inputs.filter (·.location = location)).Pairwise
      fun i j => decide (i.location ≤ j.location) = true := by
    refine List.pairwise_of_forall_mem_list fun i hi j hj => ?_
    have hi' : i.location = location := by simpa using (List.mem_filter.mp hi).2
    have hj' : j.location = location := by simpa using (List.mem_filter.mp hj).2
    rw [hi', hj']
    exact decide_eq_true (Int.le_refl location)
  have hpart : (inputs.filter (·.location = location)).Sublist (byLocation inputs) :=
    List.sublist_mergeSort location_trans location_total hsorted List.filter_sublist
  have hkept := hpart.filter (·.location = location)
  rw [List.filter_filter] at hkept
  simp only [Bool.and_self] at hkept
  exact (hkept.eq_of_length ((perm_byLocation inputs).filter _).length_eq.symm).symm

/-! ## Documents -/

/-- The inputs of an accepted document are what its entries give, in order of location and else in the order of the
entries. The type of each entry is spelled as that of its input. -/
theorem inputs_sorted {source : Source} {r : Reflection} (h : read source = .ok r) :
    ∃ doc, source.read = .ok doc ∧
      let entries := entriesAt (stageAt doc "vs") "inputs"
      r.inputs.Perm (entries.map inputAt) ∧ (r.inputs.Pairwise fun i j => i.location ≤ j.location) ∧
      (∀ location, r.inputs.filter (·.location = location) =
        (entries.map inputAt).filter (·.location = location)) ∧
      ∀ e ∈ entries, ∃ count : Nat, count ∈ [1, 2, 3, 4] ∧ (inputAt e).size = count ∧
        e.lookup "type" = some (.text ((inputAt e).type.spelling count)) := by
  obtain ⟨doc, hs, hdoc, rfl⟩ := read_eq_ok h
  refine ⟨doc, hs, perm_byLocation _, sorted_byLocation _, filter_byLocation _, fun e he => ?_⟩
  obtain ⟨count, hcount, hkind, hfound⟩ := (hdoc.input e he).typed.spelled
  exact ⟨count, hcount, congrArg Nat.cast hkind, hfound⟩

/-! Two inputs without a location stay in their order, behind one with a negative location. -/

def unplacedSource : Source :=
  .text ("\x7b\"vs\":\x7b\"inputs\":[\x7b\"type\":\"int\",\"name\":\"z\"\x7d," ++
    "\x7b\"type\":\"float3\",\"name\":\"a\"\x7d,\x7b\"type\":\"int\",\"location\":-1\x7d]\x7d\x7d")

theorem inputs_unplaced : ∃ r, read unplacedSource = .ok r ∧
    r.inputs.Perm [⟨"z", 0, "", 0, .int, 1⟩, ⟨"a", 0, "", 0, .float, 3⟩, ⟨"", -1, "", 0, .int, 1⟩] ∧
    (r.inputs.Pairwise fun i j => i.location ≤ j.location) ∧
    r.inputs.filter (·.location = 0) = [⟨"z", 0, "", 0, .int, 1⟩, ⟨"a", 0, "", 0, .float, 3⟩] := by
  have hlisted : unplacedSource.read.toOption.map (fun doc => (entriesAt (stageAt doc "vs") "inputs").map inputAt) =
      some [⟨"z", 0, "", 0, .int, 1⟩, ⟨"a", 0, "", 0, .float, 3⟩, ⟨"", -1, "", 0, .int, 1⟩] := by decide +kernel
  obtain ⟨r, h⟩ := exists_of_toBool (r := read unplacedSource) (by decide +kernel)
  obtain ⟨doc, hs, hperm, hsorted, hfilter, -⟩ := inputs_sorted h
  rw [hs] at hlisted
  have hentries : (entriesAt (stageAt doc "vs") "inputs").map inputAt = _ := Option.some.inj hlisted
  rw [hentries] at hperm hfilter
  refine ⟨r, h, hperm, hsorted, ?_⟩
  rw [hfilter 0]
  decide

end ShaderBundle.Reflection
